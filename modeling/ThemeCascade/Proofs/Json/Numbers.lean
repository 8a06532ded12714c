import ThemeCascade.Json.Scalar
import ThemeCascade.Proofs.Json.Grammar

/-! # Reading numbers

A number has no end of its own: it goes on for as long as it can. It is read as it was written if what
follows it could not belong to it. -/

namespace ThemeCascade.Json

/-! ## Words -/

theorem word_append (w rest : Text) : word w (w ++ rest) = .ok rest := by
  induction w with
  | nil => rfl
  | cons c w ih => simpa [word] using ih

/-! ## What follows a number -/

def EndsDigits (rest : Text) : Prop := ∀ c ∈ rest.head?, c.isDigit = false

/-- The text does not begin as a number could go on. -/
def EndsNumber (rest : Text) : Prop :=
  ∀ c ∈ rest.head?, c.isDigit = false ∧ c ≠ '.' ∧ c ≠ 'e' ∧ c ≠ 'E'

variable {rest t : Text} {atEnd : Cause}

theorem EndsNumber.endsDigits (h : EndsNumber rest) : EndsDigits rest := fun c hc => (h c hc).1

theorem digits_append {run : Text} (hrun : ∀ c ∈ run, c.isDigit = true) (hrest : EndsDigits rest) :
    digits (run ++ rest) = (run, rest) := by
  have htake : rest.takeWhile Char.isDigit = [] ∧ rest.dropWhile Char.isDigit = rest := by
    cases rest with
    | nil => exact ⟨rfl, rfl⟩
    | cons c rest => simp [hrest c rfl]
  rw [digits, List.takeWhile_append_of_pos hrun, List.dropWhile_append_of_pos hrun, htake.1, htake.2,
    List.append_nil]

/-! ## The parts of a number -/

namespace Number

theorem readWhole_append {whole : Text} (hwhole : IsDigits whole)
    (hzero : whole.head? = some '0' → whole = ['0']) (hrest : EndsDigits rest) :
    readWhole atEnd (whole ++ rest) = .ok (whole, rest) := by
  obtain ⟨c, run, rfl⟩ := List.exists_cons_of_ne_nil hwhole.ne_nil
  by_cases hc : c = '0'
  · subst hc
    obtain rfl : run = [] := by simpa using hzero rfl
    have hnone : rest.head?.any Char.isDigit = false := by
      cases rest with
      | nil => rfl
      | cons d rest => exact hrest d rfl
    simp [readWhole, hnone]
  · have hdigit : c.isDigit = true := hwhole.all_digits c (by simp)
    have hrun := digits_append hwhole.all_digits hrest
    rw [List.cons_append] at hrun ⊢
    simp only [readWhole, if_neg hc, if_pos hdigit, hrun]

theorem readFraction_append {fraction : Option Text} (h : WritesFraction fraction t)
    (hrest : EndsDigits rest) (hpoint : ∀ c ∈ rest.head?, c ≠ '.') :
    readFraction atEnd (t ++ rest) = .ok (fraction, rest) := by
  cases h with
  | none =>
      unfold readFraction
      split
      · next heq => exact absurd rfl (hpoint '.' (by rw [← List.nil_append rest, heq]; rfl))
      · rfl
  | some hdigits =>
      simp only [readFraction, List.cons_append, digits_append hdigits.all_digits hrest,
        if_neg hdigits.ne_nil]

theorem readPower_append {run : Text} (hrun : IsDigits run) (isNegative : Bool)
    (hrest : EndsDigits rest) :
    readPower atEnd isNegative (run ++ rest) = .ok (some (isNegative, run), rest) := by
  have hne : run ++ rest ≠ [] := by simp [hrun.ne_nil]
  simp only [readPower, if_neg hne, digits_append hrun.all_digits hrest, if_neg hrun.ne_nil]

theorem readSign_append {isNegative : Bool} {sign run : Text} (h : WritesSign isNegative sign)
    (hrun : IsDigits run) : readSign (sign ++ (run ++ rest)) = (isNegative, run ++ rest) := by
  cases h with
  | minus => rfl
  | plus => rfl
  | none =>
      obtain ⟨c, run, rfl⟩ := List.exists_cons_of_ne_nil hrun.ne_nil
      have hdigit : c.isDigit = true := hrun.all_digits c (by simp)
      unfold readSign
      split
      · next heq =>
        obtain ⟨rfl, -⟩ := List.cons.inj heq
        exact absurd hdigit (by decide)
      · next heq =>
        obtain ⟨rfl, -⟩ := List.cons.inj heq
        exact absurd hdigit (by decide)
      · rfl

theorem readExponent_append {exponent : Option (Bool × Text)} (h : WritesExponent exponent t)
    (hrest : EndsNumber rest) : readExponent atEnd (t ++ rest) = .ok (exponent, rest) := by
  cases h with
  | none =>
      cases rest with
      | nil => rfl
      | cons c rest => simp [readExponent, (hrest c rfl).2.2]
  | @some mark isNegative sign run hmark hsign hrun =>
      have hsigned : readSign (sign ++ (run ++ rest)) = (isNegative, run ++ rest) :=
        readSign_append hsign hrun
      simp only [readExponent, List.cons_append, List.append_assoc, hsigned,
        readPower_append hrun _ hrest.endsDigits]
      rcases hmark with rfl | rfl <;> rfl

theorem head_exponent {exponent : Option (Bool × Text)} (h : WritesExponent exponent t)
    (hrest : EndsNumber rest) : ∀ c ∈ (t ++ rest).head?, c.isDigit = false ∧ c ≠ '.' := by
  cases h with
  | none => exact fun c hc => ⟨(hrest c hc).1, (hrest c hc).2.1⟩
  | some hmark _ _ =>
      rintro c hc
      obtain rfl := Option.some.inj hc
      rcases hmark with rfl | rfl <;> decide

theorem endsDigits_fraction {fraction : Option Text} (h : WritesFraction fraction t)
    (hrest : EndsDigits rest) : EndsDigits (t ++ rest) := by
  cases h with
  | none => exact hrest
  | some _ =>
      rintro c hc
      obtain rfl := Option.some.inj hc
      decide

/-- A number is read as it was written. -/
theorem read_of_writesNumber {value : Number} (h : WritesNumber value t) (hrest : EndsNumber rest) :
    read atEnd (t ++ rest) = .ok (value, rest) := by
  cases h with
  | @intro isNegative whole fraction exponent fractionText exponentText hwhole hzero hfraction hexponent =>
      have hhead := head_exponent hexponent hrest
      have hends : EndsDigits (exponentText ++ rest) := fun c hc => (hhead c hc).1
      have hunsigned : readUnsigned atEnd isNegative
          (whole ++ (fractionText ++ (exponentText ++ rest))) =
            .ok (⟨isNegative, whole, fraction, exponent⟩, rest) := by
        simp [readUnsigned, readWhole_append hwhole hzero (endsDigits_fraction hfraction hends),
          readFraction_append hfraction hends fun c hc => (hhead c hc).2,
          readExponent_append hexponent hrest, bind, Except.bind, pure, Except.pure]
      cases isNegative with
      | true => simpa [read] using hunsigned
      | false =>
          obtain ⟨c, run, rfl⟩ := List.exists_cons_of_ne_nil hwhole.ne_nil
          have hdigit : c.isDigit = true := hwhole.all_digits c (by simp)
          simp only [Bool.false_eq_true, if_false, List.nil_append, List.append_assoc]
          unfold read
          split
          · next heq =>
            obtain ⟨rfl, -⟩ := List.cons.inj heq
            exact absurd hdigit (by decide)
          · exact hunsigned

end Number

/-! ## Scalars -/

theorem WritesNumber.head {value : Number} {t : Text} (h : WritesNumber value t) :
    ∃ c rest, t = c :: rest ∧ (c = '-' ∨ c.isDigit = true) := by
  cases h with
  | @intro isNegative whole _ _ fractionText exponentText hwhole _ _ _ =>
      obtain ⟨c, rest, rfl⟩ := List.exists_cons_of_ne_nil hwhole.ne_nil
      cases isNegative with
      | true => exact ⟨'-', _, rfl, .inl rfl⟩
      | false => exact ⟨c, _, rfl, .inr (hwhole.all_digits c (by simp))⟩

namespace Scalar

theorem read_word {c : Char} {w : Text} {value : Scalar}
    (h : ∀ rest, ofWord c rest = some ((word w rest).map (value, ·))) (rest : Text) :
    read atEnd (c :: (w ++ rest)) = .ok (value, rest) := by
  simp only [read, h, word_append]
  rfl

theorem read_number {value : Number} (h : WritesNumber value t) (hrest : EndsNumber rest) :
    read atEnd (t ++ rest) = .ok (number value, rest) := by
  have hnumber : Number.read atEnd (t ++ rest) = .ok (value, rest) :=
    Number.read_of_writesNumber h hrest
  obtain ⟨c, u, rfl, hc⟩ := h.head
  have hword : ofWord c (u ++ rest) = none := by
    unfold ofWord
    split
    · exact absurd hc (by decide)
    · exact absurd hc (by decide)
    · exact absurd hc (by decide)
    · rfl
  have hfirst : (c = '-' || c.isDigit) = true := by simpa using hc
  rw [List.cons_append] at hnumber ⊢
  simp only [read, hword, if_pos hfirst, hnumber]
  rfl

end Scalar

end ThemeCascade.Json
