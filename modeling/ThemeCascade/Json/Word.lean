import ThemeCascade.Json.Fault

/-! The space between the parts of a JSON text, and the words `null`, `true` and `false`. Each function
reads its part off the front and returns what is left. -/

namespace ThemeCascade.Json

theorem bind_eq_ok_iff {ε α β : Type} {x : Except ε α} {f : α → Except ε β} {b : β} :
    (x >>= f) = .ok b ↔ ∃ a, x = .ok a ∧ f a = .ok b := by
  cases x <;> simp [bind, Except.bind]

def isSpace (c : Char) : Bool := c = ' ' || c = '\t' || c = '\n' || c = '\r'

def skipSpace (t : Text) : Text := t.dropWhile isSpace

theorem length_skipSpace_le (t : Text) : (skipSpace t).length ≤ t.length :=
  (List.dropWhile_sublist isSpace).length_le

/-- What is left after a word. -/
def word : Text → Text → Except Fault Text
  | [], t => .ok t
  | _ :: _, [] => .error ⟨.endInValue, [], 0⟩
  | c :: w, d :: t => if c = d then word w t else .error (.atNext .noWord (d :: t))

theorem length_of_word {w t rest : Text} (h : word w t = .ok rest) :
    rest.length ≤ t.length := by
  fun_induction word w t with
  | case1 => cases h; exact Nat.le_refl _
  | case2 => cases h
  | case3 _ _ _ ih => exact Nat.le_succ_of_le (ih h)
  | case4 => cases h

end ThemeCascade.Json
