import ThemeCascade.Json.Fault

/-! Reading in turns. A turn reads something off the front of a text and says whether another one is to
follow; since what is left gets shorter, the turns come to an end. -/

namespace ThemeCascade.Json

/-- The state after a turn, none after the last one, and what is left of the text. -/
structure Turn (σ : Type) where
  run : σ → Text → Except Fault (Option σ × Text)
  shorter : ∀ {state t next rest}, run state t = .ok (next, rest) → rest.length < t.length

namespace Turn

variable {σ : Type}

/-- The last state and what is left. -/
def loop (turn : Turn σ) (state : σ) (t : Text) : Except Fault (σ × Text) :=
  match h : turn.run state t with
  | .error fault => .error fault
  | .ok (none, rest) => .ok (state, rest)
  | .ok (some next, rest) =>
    have := turn.shorter h
    turn.loop next rest
termination_by t.length

theorem loop_eq (turn : Turn σ) (state : σ) (t : Text) :
    turn.loop state t =
      match turn.run state t with
      | .error fault => .error fault
      | .ok (none, rest) => .ok (state, rest)
      | .ok (some next, rest) => turn.loop next rest := by
  rw [loop]
  split <;> simp [*]

theorem loop_shorter (turn : Turn σ) {state last : σ} {t rest : Text}
    (h : turn.loop state t = .ok (last, rest)) : rest.length < t.length := by
  fun_induction turn.loop state t with
  | case1 => cases h
  | case2 state t rest hrun => cases h; exact turn.shorter hrun
  | case3 state t next rest' hrun hlt ih => exact Nat.lt_trans (ih h) hlt

end Turn

end ThemeCascade.Json
