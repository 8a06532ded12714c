import ThemeCascade.Text.Extending
import ThemeCascade.Text.Invisible

/-! Which characters can be shown as they are: neither those that leave no mark nor those that are
drawn on the character before them. -/

namespace ThemeCascade.Text

/-- Whether each range begins before its end and ends before the next one begins. -/
def areAscending : List (Nat × Nat) → Bool
  | [] => true
  | (low, high) :: ranges =>
    low ≤ high && ranges.head?.all (fun next => high < next.1) && areAscending ranges

/-- Whether a number is in one of the ranges. They ascend, so the search ends with the first one that
begins after the number. -/
def inRanges (n : Nat) : List (Nat × Nat) → Bool
  | [] => false
  | (low, high) :: ranges => if n < low then false else n ≤ high || inRanges n ranges

theorem lt_of_areAscending {first range : Nat × Nat} {ranges : List (Nat × Nat)}
    (h : areAscending (first :: ranges) = true) (hmem : range ∈ ranges) : first.2 < range.1 := by
  induction ranges generalizing first with
  | nil => cases hmem
  | cons next ranges ih =>
    simp only [areAscending, List.head?_cons, Option.all_some, Bool.and_eq_true,
      decide_eq_true_eq] at h
    obtain ⟨⟨_, hfirst⟩, ⟨hnext, hhead⟩, hrest⟩ := h
    cases hmem with
    | head => exact hfirst
    | tail _ hmem =>
      have hascending : areAscending (next :: ranges) = true := by
        simp [areAscending, hnext, hhead, hrest]
      exact Nat.lt_of_lt_of_le hfirst (Nat.le_trans hnext (Nat.le_of_lt (ih hascending hmem)))

theorem inRanges_iff {n : Nat} {ranges : List (Nat × Nat)} (h : areAscending ranges = true) :
    inRanges n ranges = true ↔ ∃ range ∈ ranges, range.1 ≤ n ∧ n ≤ range.2 := by
  induction ranges with
  | nil => simp [inRanges]
  | cons first ranges ih =>
    have hrest : areAscending ranges = true := by
      simp only [areAscending, Bool.and_eq_true] at h
      exact h.2
    have hle : first.1 ≤ first.2 := by
      simp only [areAscending, Bool.and_eq_true, decide_eq_true_eq] at h
      exact h.1.1
    unfold inRanges
    split
    · next hlt =>
      constructor
      · intro hfalse; cases hfalse
      · rintro ⟨range, hmem, hlow, -⟩
        cases hmem with
        | head => omega
        | tail _ hmem => have := lt_of_areAscending h hmem; omega
    · next hlt =>
      have hlow : first.1 ≤ n := Nat.le_of_not_lt hlt
      simp only [Bool.or_eq_true, decide_eq_true_eq, ih hrest, List.mem_cons, exists_eq_or_imp, hlow,
        true_and]

theorem areAscending_invisibleRanges : areAscending invisibleRanges = true := by decide +kernel

theorem areAscending_extendingRanges : areAscending extendingRanges = true := by decide +kernel

def isPrintable (c : Char) : Bool :=
  !inRanges c.toNat invisibleRanges && !inRanges c.toNat extendingRanges

/-- The search along the two lists looks at every range that a character may be in. -/
theorem isPrintable_iff {c : Char} :
    isPrintable c = true ↔
      ∀ range ∈ invisibleRanges ++ extendingRanges, ¬ (range.1 ≤ c.toNat ∧ c.toNat ≤ range.2) := by
  have hinvisible := inRanges_iff (n := c.toNat) areAscending_invisibleRanges
  have hextending := inRanges_iff (n := c.toNat) areAscending_extendingRanges
  rw [isPrintable, Bool.and_eq_true, Bool.not_eq_true', Bool.not_eq_true', ← Bool.not_eq_true,
    ← Bool.not_eq_true, hinvisible, hextending, List.forall_mem_append]
  simp only [not_exists, not_and]

example : "\u00a0\u0301\u200b\u3164".toList.any isPrintable = false := by decide +kernel

example : "a é\u00a1\uff9e".toList.all isPrintable = true := by decide +kernel

end ThemeCascade.Text
