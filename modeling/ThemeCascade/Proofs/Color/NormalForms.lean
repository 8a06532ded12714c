import ThemeCascade.Proofs.Color.Shades
import ThemeCascade.Proofs.Text.Letters
import ThemeCascade.Proofs.Text.Runs

/-! # Shades as normal forms

A shade is its own shade. Literals that differ in the blanks around them have one shade, and so have
hexadecimal ones that differ in the case of their letters, or of which one is the short form of the other. -/

namespace ThemeCascade

open Text

theorem Text.IsWord.isTrimmed {t : Text} (h : IsWord t) : IsTrimmed t :=
  ⟨fun c hc => h.unbroken c (List.mem_of_mem_head? hc), fun c hc => h.unbroken c (List.mem_of_getLast? hc)⟩

namespace Palette

/-! ## Names of shades -/

/-- A name of a shade does not begin with the mark of a hexadecimal literal, and has no blanks around it. -/
theorem shade_of_isShadeName {t : Text} (h : isShadeName t = true) : shade t = t := by
  have htrim : t.trim = t := (isWord_of_isShadeName h).isTrimmed.trim_eq
  unfold shade
  split
  · next hex hmark =>
    rw [← htrim, hmark] at h
    simp [isShadeName] at h
  · rw [htrim, if_pos h]

theorem shade_of_isPadded {core t : Text} (h : IsPadded core t) : shade t = shade core := by
  rw [shade, shade, h.trim_eq]

/-! ## Hexadecimal literals -/

theorem shade_hex (body : Text) :
    shade ('#' :: body) = ((sixDigits? body.trimEnd).bind (shades.lookup ·)).getD neutral := by
  have htrim : trim ('#' :: body) = '#' :: body.trimEnd := by
    rw [trim, trimStart_eq_self (by rintro c ⟨⟩; decide), trimEnd_cons (by decide)]
  simp only [shade, htrim]

theorem isHexDigit_toLower (c : Char) : isHexDigit c.toLower = isHexDigit c := by
  have hle : ∀ c d : Char, (c ≤ d) = (c.toNat ≤ d.toNat) := fun _ _ => rfl
  have hdigit : ∀ c : Char, c.isDigit = (decide (48 ≤ c.toNat) && decide (c.toNat ≤ 57)) := fun _ => rfl
  simp only [isHexDigit, hle, hdigit, toNat_toLower]
  split_ifs with hupper
  · rw [Bool.eq_iff_iff]
    simp only [Bool.or_eq_true, Bool.and_eq_true, decide_eq_true_eq, Char.reduceToNat]
    omega
  · rfl

theorem sixDigits?_map_toLower (hex : Text) : sixDigits? (hex.map Char.toLower) = sixDigits? hex := by
  have hlower : Char.toLower ∘ Char.toLower = Char.toLower := funext toLower_toLower
  have hall : (hex.map Char.toLower).all isHexDigit = hex.all isHexDigit := by
    rw [List.all_map]
    exact congrArg hex.all (funext isHexDigit_toLower)
  rw [sixDigits?, sixDigits?, hall, List.length_map, List.map_map, hlower]

theorem shade_hex_map_toLower (body : Text) : shade ('#' :: body.map Char.toLower) = shade ('#' :: body) := by
  rw [shade_hex, shade_hex, trimEnd_map_toLower, sixDigits?_map_toLower]

theorem shade_of_isRecased {literal t : Text} (hmark : literal.head? = some '#') (h : IsRecased literal t) :
    shade t = shade literal := by
  obtain ⟨body, rfl⟩ := List.head?_eq_some_iff.mp hmark
  cases h with
  | @cons _ mark _ other hfirst hrest =>
      have hsame : mark = '#' := by cases hfirst <;> rfl
      rw [hsame, ← shade_hex_map_toLower other, IsRecased.map_toLower_eq hrest, shade_hex_map_toLower]

/-! ## Short forms -/

/-- Every character is written twice. -/
def doubled (t : Text) : Text := t.flatMap fun c => [c, c]

theorem trimStart_doubled (t : Text) : (doubled t).trimStart = doubled t.trimStart := by
  induction t with
  | nil => rfl
  | cons c t ih =>
      by_cases hc : isBlank c = true
      · simpa [doubled, trimStart, hc] using ih
      · simp [doubled, trimStart, hc]

theorem trimEnd_doubled (t : Text) : (doubled t).trimEnd = doubled t.trimEnd := by
  have hreverse : ∀ t : Text, (doubled t).reverse = doubled t.reverse := by
    intro t
    rw [doubled, List.reverse_flatMap]
    rfl
  rw [trimEnd_eq_reverse, hreverse, trimStart_doubled, hreverse, ← trimEnd_eq_reverse]

/-- Three digits are read as six. Fewer are not read, and neither are their doubles. -/
theorem sixDigits?_doubled {hex : Text} (h : hex.length ≤ 3) : sixDigits? (doubled hex) = sixDigits? hex := by
  match hex, h with
  | [], _ => rfl
  | [a], _ => simp [sixDigits?, doubled]
  | [a, b], _ => simp [sixDigits?, doubled]
  | [a, b, c], _ => simp [sixDigits?, doubled]

theorem shade_hex_doubled {body : Text} (h : body.length = 3) : shade ('#' :: doubled body) = shade ('#' :: body) := by
  have hlength : body.trimEnd.length ≤ 3 := by
    rw [← h]
    exact (List.rdropWhile_prefix isBlank body).length_le
  rw [shade_hex, shade_hex, trimEnd_doubled, sixDigits?_doubled hlength]

/-! ## Every literal -/

/-- The shade of a literal is a name, and stays the same when it is taken again and when the literal is written
otherwise. -/
structure NormalSpec (literal : Text) : Prop where
  shape : ∃ first rest, shade literal = first :: rest ∧ first.isLower = true ∧
    ∀ c ∈ rest, c.isLower = true ∨ c.isDigit = true ∨ c = '-'
  idempotent : shade (shade literal) = shade literal
  padded : ∀ t, IsPadded literal t → shade t = shade literal
  recased : literal.head? = some '#' → ∀ t, IsRecased literal t → shade t = shade literal
  short : ∀ body, literal = '#' :: body → body.length = 3 → shade ('#' :: doubled body) = shade literal

/-- Whatever it holds, a literal has a shade in normal form. -/
theorem shade_normal (literal : Text) : NormalSpec literal where
  shape := isShadeName_iff.mp (isShadeName_shade literal)
  idempotent := shade_of_isShadeName (isShadeName_shade literal)
  padded _ := shade_of_isPadded
  recased hmark _ := shade_of_isRecased hmark
  short body hbody hlength := by
    rw [hbody]
    exact shade_hex_doubled hlength

example : shade "#3B82F6".toList = "blue-500".toList ∧ shade "\t#fFf ".toList = "white".toList := by decide

end Palette

end ThemeCascade
