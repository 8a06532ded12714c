import ThemeCascade.Json.Quotation
import ThemeCascade.Proofs.Json.Grammar

/-! # Reading strings

A string that is written in any of the ways there are is read for its value, and what follows its closing
quote is left. -/

namespace ThemeCascade.Json

/-! ## Code units -/

theorem hexDigit?_of_writesDigit {n : Nat} {c : Char} (h : WritesDigit n c) :
    Quotation.hexDigit? c = some n := by
  have hlower : ∀ n < 16, Quotation.hexDigit? n.digitChar = some n := by decide
  have hupper : ∀ n < 16, Quotation.hexDigit? n.digitChar.toUpper = some n := by decide
  cases h with
  | lower h => exact hlower n h
  | upper h => exact hupper n h

theorem codeUnit_of_writesUnit {n : Nat} {hex : Text} (h : WritesUnit n hex) (rest : Text) :
    Quotation.codeUnit (hex ++ rest) = .ok (n, rest) := by
  cases h with
  | @intro n₁ n₂ n₃ n₄ c₁ c₂ c₃ c₄ h₁ h₂ h₃ h₄ =>
      have hdigits : [c₁, c₂, c₃, c₄].mapM Quotation.hexDigit? = some [n₁, n₂, n₃, n₄] := by
        simp [List.mapM_cons, hexDigit?_of_writesDigit h₁, hexDigit?_of_writesDigit h₂,
          hexDigit?_of_writesDigit h₃, hexDigit?_of_writesDigit h₄]
      have hvalue : Quotation.hexValue? [c₁, c₂, c₃, c₄] =
          some (0x1000 * n₁ + 0x100 * n₂ + 0x10 * n₃ + n₄) := by
        simp only [Quotation.hexValue?, hdigits, List.length_cons, List.length_nil, Nat.zero_add,
          if_true, Option.map_some, List.foldl_cons, List.foldl_nil, Option.some.injEq]
        omega
      simp [Quotation.codeUnit, hvalue]

/-! ## Characters -/

theorem not_surrogate (c : Char) : Quotation.isTrailing c.toNat = false ∧
    Quotation.isLeading c.toNat = false := by
  have hvalid : c.toNat < 0xd800 ∨ 0xdfff < c.toNat ∧ c.toNat < 0x110000 := c.valid
  simp only [Quotation.isTrailing, Quotation.isLeading, Bool.and_eq_false_iff, decide_eq_false_iff_not]
  omega

theorem unicode_of_unit {c : Char} {hex : Text} (h : WritesUnit c.toNat hex) (rest : Text) :
    Quotation.unicode (hex ++ rest) = .ok (c, rest) := by
  obtain ⟨htrailing, hleading⟩ := not_surrogate c
  simp [Quotation.unicode, codeUnit_of_writesUnit h, htrailing, hleading, bind, Except.bind,
    Char.ofNat_toNat]

/-- A code point splits into the ten bits of each half of a pair. -/
theorem pairValue_halves {c : Char} (h : 0x10000 ≤ c.toNat) :
    Quotation.pairValue (0xd800 + (c.toNat - 0x10000) / 0x400) (0xdc00 + (c.toNat - 0x10000) % 0x400) =
      c := by
  have hcode : 0x10000 + (0xd800 + (c.toNat - 0x10000) / 0x400 - 0xd800) * 0x400 +
      (0xdc00 + (c.toNat - 0x10000) % 0x400 - 0xdc00) = c.toNat := by omega
  rw [Quotation.pairValue, hcode, Char.ofNat_toNat]

theorem unicode_of_pair {c : Char} {leading trailing : Text} (h : 0x10000 ≤ c.toNat)
    (hleading : WritesUnit (0xd800 + (c.toNat - 0x10000) / 0x400) leading)
    (htrailing : WritesUnit (0xdc00 + (c.toNat - 0x10000) % 0x400) trailing) (rest : Text) :
    Quotation.unicode (leading ++ '\\' :: 'u' :: (trailing ++ rest)) = .ok (c, rest) := by
  have hvalid : c.toNat < 0xd800 ∨ 0xdfff < c.toNat ∧ c.toNat < 0x110000 := c.valid
  have hfirst : Quotation.isTrailing (0xd800 + (c.toNat - 0x10000) / 0x400) = false ∧
      Quotation.isLeading (0xd800 + (c.toNat - 0x10000) / 0x400) = true := by
    simp only [Quotation.isTrailing, Quotation.isLeading, Bool.and_eq_false_iff, Bool.and_eq_true,
      decide_eq_false_iff_not, decide_eq_true_eq]
    omega
  have hsecond : Quotation.isTrailing (0xdc00 + (c.toNat - 0x10000) % 0x400) = true := by
    simp only [Quotation.isTrailing, Bool.and_eq_true, decide_eq_true_eq]
    omega
  simp [Quotation.unicode, codeUnit_of_writesUnit hleading, codeUnit_of_writesUnit htrailing, hfirst,
    hsecond, Quotation.pairMark, pairValue_halves h, bind, Except.bind]

theorem escape_of_mem_shortEscapes {mark c : Char} (h : (mark, c) ∈ shortEscapes) (rest : Text) :
    Quotation.escape (mark :: rest) = .ok (c, rest) := by
  have hall : ∀ entry ∈ shortEscapes,
      entry.1 ≠ 'u' ∧ Quotation.shortEscape? entry.1 = some entry.2 := by decide
  obtain ⟨hmark, hescape⟩ := hall (mark, c) h
  simp only [Quotation.escape, if_neg hmark, hescape]

/-- One character, in whatever way it is written, is one turn. -/
theorem readTurn_of_writesChar {c : Char} {t : Text} (h : WritesChar c t) (value rest : Text) :
    Quotation.readTurn.run value (t ++ rest) = .ok (some (c :: value), rest) := by
  cases h with
  | plain hquote hbackslash hcontrol =>
      have hspace : ¬ c < ' ' := Char.not_lt.mpr hcontrol
      simp [Quotation.readTurn, hquote, hbackslash, hspace]
  | short hmem =>
      simp [Quotation.readTurn, escape_of_mem_shortEscapes hmem, bind, Except.bind, pure, Except.pure]
  | unit hunit =>
      simp [Quotation.readTurn, Quotation.escape, unicode_of_unit hunit, bind, Except.bind, pure,
        Except.pure]
  | pair hcode hleading htrailing =>
      simp [Quotation.readTurn, Quotation.escape, unicode_of_pair hcode hleading htrailing, bind,
        Except.bind, pure, Except.pure]

/-! ## Strings -/

theorem readTurn_close (value rest : Text) :
    Quotation.readTurn.run value ('"' :: rest) = .ok (none, rest) := rfl

/-- From any value read so far, the turns append the characters that are written. -/
theorem readTurn_loop_of_writesChars {value t : Text} (h : WritesChars value t) (before rest : Text) :
    Quotation.readTurn.loop before (t ++ rest) = .ok (value.reverse ++ before, rest) := by
  induction h generalizing before with
  | close =>
      rw [Turn.loop_eq, List.singleton_append, readTurn_close]
      rfl
  | char hchar _ ih =>
      rw [Turn.loop_eq, List.append_assoc, readTurn_of_writesChar hchar]
      simp only [ih, List.reverse_cons, List.append_assoc, List.singleton_append]

theorem read_of_writesChars {value t : Text} (h : WritesChars value t) (rest : Text) :
    Quotation.read (t ++ rest) = .ok (value, rest) := by
  simp [Quotation.read, readTurn_loop_of_writesChars h, bind, Except.bind, pure, Except.pure]

/-! ## Strings that are passed over -/

theorem passTurn_loop_escape {t rest : Text} (h : Quotation.passEscape t = .ok rest) :
    Quotation.passTurn.loop () ('\\' :: t) = Quotation.passTurn.loop () rest := by
  rw [Turn.loop_eq]
  simp [Quotation.passTurn, h, bind, Except.bind, pure, Except.pure]

theorem passEscape_of_writesUnit {n : Nat} {hex : Text} (h : WritesUnit n hex) (rest : Text) :
    Quotation.passEscape ('u' :: (hex ++ rest)) = .ok rest := by
  simp [Quotation.passEscape, codeUnit_of_writesUnit h, bind, Except.bind, pure, Except.pure]

theorem passEscape_of_mem_shortEscapes {mark c : Char} (h : (mark, c) ∈ shortEscapes) (rest : Text) :
    Quotation.passEscape (mark :: rest) = .ok rest := by
  have hall : ∀ entry ∈ shortEscapes,
      entry.1 ≠ 'u' ∧ (Quotation.shortEscape? entry.1).isSome = true := by decide
  obtain ⟨hmark, hescape⟩ := hall (mark, c) h
  simp only [Quotation.passEscape, if_neg hmark, hescape, if_true]

/-- The halves of a surrogate pair are passed over one after the other. -/
theorem passTurn_loop_of_writesChar {c : Char} {t : Text} (h : WritesChar c t) (rest : Text) :
    Quotation.passTurn.loop () (t ++ rest) = Quotation.passTurn.loop () rest := by
  cases h with
  | plain hquote hbackslash hcontrol =>
      have hspace : ¬ c < ' ' := Char.not_lt.mpr hcontrol
      rw [Turn.loop_eq]
      simp [Quotation.passTurn, hquote, hbackslash, hspace]
  | short hmem => exact passTurn_loop_escape (passEscape_of_mem_shortEscapes hmem rest)
  | unit hunit => exact passTurn_loop_escape (passEscape_of_writesUnit hunit rest)
  | pair _ hleading htrailing =>
      simp only [List.cons_append, List.append_assoc]
      rw [passTurn_loop_escape (passEscape_of_writesUnit hleading _),
        passTurn_loop_escape (passEscape_of_writesUnit htrailing rest)]

theorem pass_of_writesChars {value t : Text} (h : WritesChars value t) (rest : Text) :
    Quotation.pass (t ++ rest) = .ok rest := by
  have hloop : Quotation.passTurn.loop () (t ++ rest) = .ok ((), rest) := by
    induction h with
    | close =>
        rw [Turn.loop_eq]
        rfl
    | char hchar _ ih => rw [List.append_assoc, passTurn_loop_of_writesChar hchar, ih]
  simp [Quotation.pass, hloop, bind, Except.bind, pure, Except.pure]

end ThemeCascade.Json
