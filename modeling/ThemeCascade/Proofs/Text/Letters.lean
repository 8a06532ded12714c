import Mathlib.Data.List.Forall2
import Mathlib.Tactic.SplitIfs
import ThemeCascade.Text.Basic

/-! # Letters in either case

The letters from a to z have two cases, and no other character has. Texts that differ in case only are the
same in lower case. -/

namespace ThemeCascade.Text

/-! ## One letter -/

theorem toNat_toLower (c : Char) :
    c.toLower.toNat = if 65 ≤ c.toNat ∧ c.toNat ≤ 90 then c.toNat + 32 else c.toNat := by
  unfold Char.toLower
  by_cases h : 65 ≤ c.toNat ∧ c.toNat ≤ 90
  · have hupper : c.val ≥ 'A'.val ∧ c.val ≤ 'Z'.val := h
    have hsum : (c.val + ('a'.val - 'A'.val)).toNat = c.toNat + 32 := by
      rw [UInt32.toNat_add, show ('a'.val - 'A'.val).toNat = 32 from rfl, Char.toNat_val]
      omega
    rw [dif_pos hupper, if_pos h]
    exact hsum
  · have hupper : ¬ (c.val ≥ 'A'.val ∧ c.val ≤ 'Z'.val) := h
    rw [dif_neg hupper, if_neg h]

theorem toNat_toUpper (c : Char) :
    c.toUpper.toNat = if 97 ≤ c.toNat ∧ c.toNat ≤ 122 then c.toNat - 32 else c.toNat := by
  unfold Char.toUpper
  by_cases h : 97 ≤ c.toNat ∧ c.toNat ≤ 122
  · have hlower : 'a'.val ≤ c.val ∧ c.val ≤ 'z'.val := h
    have hsum : (c.val + ('A'.val - 'a'.val)).toNat = c.toNat - 32 := by
      rw [UInt32.toNat_add, show ('A'.val - 'a'.val).toNat = 2 ^ 32 - 32 from rfl, Char.toNat_val]
      omega
    rw [dif_pos hlower, if_pos h]
    exact hsum
  · have hlower : ¬ ('a'.val ≤ c.val ∧ c.val ≤ 'z'.val) := h
    rw [dif_neg hlower, if_neg h]

theorem toLower_toLower (c : Char) : c.toLower.toLower = c.toLower := by
  rw [← Char.toNat_inj, toNat_toLower, toNat_toLower]
  split_ifs <;> omega

theorem toLower_toUpper (c : Char) : c.toUpper.toLower = c.toLower := by
  rw [← Char.toNat_inj, toNat_toLower, toNat_toLower, toNat_toUpper]
  split_ifs <;> omega

theorem isBlank_toLower (c : Char) : isBlank c.toLower = isBlank c := by
  simp only [isBlank, toNat_toLower]
  split_ifs with hupper
  · rw [Bool.eq_iff_iff]
    simp only [Bool.or_eq_true, Bool.and_eq_true, decide_eq_true_eq, List.contains_iff_mem,
      List.mem_cons, List.not_mem_nil, or_false]
    omega
  · rfl

/-! ## Texts -/

/-- The same letter in either case, or the same character. -/
inductive IsSameLetter (c : Char) : Char → Prop where
  | same : IsSameLetter c c
  | lower : IsSameLetter c c.toLower
  | upper : IsSameLetter c c.toUpper

/-- The case of some letters is changed. -/
def IsRecased (t u : Text) : Prop := List.Forall₂ IsSameLetter t u

theorem IsSameLetter.toLower_eq {c d : Char} (h : IsSameLetter c d) : d.toLower = c.toLower := by
  cases h with
  | same => rfl
  | lower => exact toLower_toLower c
  | upper => exact toLower_toUpper c

theorem IsRecased.map_toLower_eq {t u : Text} (h : IsRecased t u) :
    u.map Char.toLower = t.map Char.toLower := by
  induction h with
  | nil => rfl
  | cons hletter _ ih => rw [List.map_cons, List.map_cons, hletter.toLower_eq, ih]

theorem trimEnd_map_toLower (t : Text) : trimEnd (t.map Char.toLower) = t.trimEnd.map Char.toLower := by
  have hblank : isBlank ∘ Char.toLower = isBlank := funext isBlank_toLower
  rw [trimEnd, trimEnd, ← List.map_reverse, List.dropWhile_map, hblank, List.map_reverse]

end ThemeCascade.Text
