import ThemeCascade.Text.Basic

/-! A paint is what colors an element: a theme by its name, or a CSS value in brackets, which is
taken as it stands. -/

namespace ThemeCascade

inductive Paint where
  | theme (name : Text)
  | custom (value : Text)
deriving DecidableEq

namespace Paint

/-- What stands between the brackets of `[value]`, if it is not empty. -/
def customValue? : Text → Option Text
  | '[' :: rest => (Text.dropLast? ']' rest).filter (· ≠ [])
  | _ => none

/-- The brackets alone decide: every text that is no bracketed value names a theme. -/
def ofText (t : Text) : Paint :=
  match customValue? t with
  | some value => custom value
  | none => theme t

theorem customValue?_eq_some_iff {t value : Text} :
    customValue? t = some value ↔ value ≠ [] ∧ t = '[' :: (value ++ [']']) := by
  unfold customValue?
  split
  · next rest =>
    simp only [Option.filter_eq_some_iff, Text.dropLast?_eq_some_iff, decide_eq_true_eq,
      List.cons.injEq, true_and]
    exact and_comm
  · next hopening =>
    refine ⟨nofun, ?_⟩
    rintro ⟨-, rfl⟩
    exact (hopening _ rfl).elim

theorem ofText_eq_custom_iff {t value : Text} :
    ofText t = custom value ↔ value ≠ [] ∧ t = '[' :: (value ++ [']']) := by
  rw [← customValue?_eq_some_iff, ofText]
  cases customValue? t <;> simp

theorem ofText_eq_theme_iff {t name : Text} :
    ofText t = theme name ↔ t = name ∧ ∀ value, value ≠ [] → t ≠ '[' :: (value ++ [']']) := by
  have hnone : customValue? t = none ↔ ∀ value, value ≠ [] → t ≠ '[' :: (value ++ [']']) := by
    simp only [Option.eq_none_iff_forall_ne_some, ne_eq, customValue?_eq_some_iff, not_and]
  rw [← hnone, ofText]
  cases customValue? t <;> simp

end Paint

end ThemeCascade
