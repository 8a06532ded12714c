import ThemeCascade.Color.Palette
import ThemeCascade.Proofs.Text.Words

/-! # Shades

Whatever a color literal holds, its shade is a name of lowercase letters, digits and hyphens, and so
a word. -/

namespace ThemeCascade.Palette

open Text

theorem isShadeName_iff {t : Text} :
    isShadeName t = true ↔ ∃ first rest, t = first :: rest ∧ first.isLower = true ∧
      ∀ c ∈ rest, c.isLower = true ∨ c.isDigit = true ∨ c = '-' := by
  cases t with
  | nil => simp [isShadeName]
  | cons first rest => simp +contextual [isShadeName, or_assoc]

theorem isShadeName_neutral : isShadeName neutral = true := by decide

theorem isShadeName_of_lookup {hex shade : Text} (h : shades.lookup hex = some shade) :
    isShadeName shade = true := by
  have hall : ∀ entry ∈ shades, isShadeName entry.2 = true := by decide
  obtain ⟨before, after, hentry, -⟩ := List.lookup_eq_some_iff.mp h
  exact hall (hex, shade) (by simp [hentry])

/-- The shade of a literal is taken from the table, is the neutral one, or is the literal itself, which
was looked at. -/
theorem isShadeName_shade (literal : Text) : isShadeName (shade literal) = true := by
  unfold shade
  split
  · next hex _ =>
    cases hfound : (sixDigits? hex).bind (shades.lookup ·) with
    | none => exact isShadeName_neutral
    | some found =>
        obtain ⟨digits, -, hlookup⟩ := Option.bind_eq_some_iff.mp hfound
        exact isShadeName_of_lookup hlookup
  · split
    · next hname => exact hname
    · exact isShadeName_neutral

/-! ## Shades as words -/

theorem toNat_of_isLower {c : Char} (h : c.isLower = true) : 97 ≤ c.toNat ∧ c.toNat ≤ 122 := by
  obtain ⟨hfrom, hto⟩ := Bool.and_eq_true_iff.mp h
  exact ⟨of_decide_eq_true hfrom, of_decide_eq_true hto⟩

theorem toNat_of_isDigit {c : Char} (h : c.isDigit = true) : 48 ≤ c.toNat ∧ c.toNat ≤ 57 := by
  obtain ⟨hfrom, hto⟩ := Bool.and_eq_true_iff.mp h
  exact ⟨of_decide_eq_true hfrom, of_decide_eq_true hto⟩

theorem isBlank_eq_false_of_range {c : Char} (hfrom : 0x21 ≤ c.toNat) (hto : c.toNat ≤ 0x7e) :
    isBlank c = false := by
  simp only [isBlank, Bool.or_eq_false_iff, Bool.and_eq_false_iff, decide_eq_false_iff_not,
    List.contains_eq_mem, List.mem_cons, List.not_mem_nil, or_false]
  omega

theorem isBlank_of_shade_char {c : Char} (h : (c.isLower || c.isDigit || c = '-') = true) :
    isBlank c = false := by
  simp only [Bool.or_eq_true, decide_eq_true_eq] at h
  rcases h with (hlower | hdigit) | rfl
  · have hrange := toNat_of_isLower hlower
    apply isBlank_eq_false_of_range <;> omega
  · have hrange := toNat_of_isDigit hdigit
    apply isBlank_eq_false_of_range <;> omega
  · decide

theorem isWord_of_isShadeName {t : Text} (h : isShadeName t = true) : IsWord t := by
  simp only [isShadeName, Bool.and_eq_true, List.all_eq_true] at h
  obtain ⟨hhead, hall⟩ := h
  refine ⟨?_, fun c hc => isBlank_of_shade_char (hall c hc)⟩
  rintro rfl
  simp at hhead

theorem isWord_shade (literal : Text) : IsWord (shade literal) :=
  isWord_of_isShadeName (isShadeName_shade literal)

end ThemeCascade.Palette
