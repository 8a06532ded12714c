import ThemeCascade.Text.Quoted

/-! The segments of a rule: bracketed literals and runs without a colon, separated by colons. What
follows the last segment that can be read is left over; segments and colons make up the rest. -/

namespace ThemeCascade.Segment

/-- Why no segment was read. -/
inductive Cause where
  | noOpening | noClosing | noSegment | leftOver
deriving DecidableEq

def Cause.code : Cause → String
  | noOpening => "Char"
  | noClosing => "TakeUntil"
  | noSegment => "TakeTill1"
  | leftOver => "Eof"

/-- A cause, and the text at which it was found. -/
structure Fault where
  cause : Cause
  rest : Text
deriving DecidableEq

def Fault.message (fault : Fault) : String :=
  "Parsing Error: Error \x7b input: " ++ fault.rest.quoted ++ ", code: " ++ fault.cause.code ++ " \x7d"

/-- A bracketed literal ends at the first closing bracket, whatever stands before it. -/
def bracketed (t : Text) : Except Fault (Text × Text) :=
  match t with
  | '[' :: body =>
    match body.dropWhile (· ≠ ']') with
    | [] => .error ⟨.noClosing, body⟩
    | close :: rest => .ok ('[' :: body.takeWhile (· ≠ ']') ++ [close], rest)
  | _ => .error ⟨.noOpening, t⟩

/-- A segment is a bracketed literal if there is one, else the longest run without a colon. -/
def next (t : Text) : Except Fault (Text × Text) :=
  match bracketed t with
  | .ok result => .ok result
  | .error _ =>
    if t.takeWhile (· ≠ ':') = [] then .error ⟨.noSegment, t⟩
    else .ok (t.takeWhile (· ≠ ':'), t.dropWhile (· ≠ ':'))

theorem append_of_bracketed {t segment rest : Text} (h : bracketed t = .ok (segment, rest)) :
    segment ++ rest = t ∧ segment ≠ [] := by
  unfold bracketed at h
  split at h
  · next body =>
    split at h
    · cases h
    · next close left hdrop =>
      cases h
      have hbody := List.takeWhile_append_dropWhile (p := (· ≠ ']')) (l := body)
      rw [hdrop] at hbody
      simpa using hbody
  · cases h

theorem append_of_next {t segment rest : Text} (h : next t = .ok (segment, rest)) :
    segment ++ rest = t ∧ segment ≠ [] := by
  unfold next at h
  split at h
  · next hbracket => cases h; exact append_of_bracketed hbracket
  · split at h
    · cases h
    · next hrun => cases h; exact ⟨List.takeWhile_append_dropWhile, hrun⟩

theorem length_lt_of_next {t segment rest : Text} (h : next t = .ok (segment, rest)) :
    rest.length < t.length := by
  obtain ⟨rfl, hne⟩ := append_of_next h
  have := List.length_pos_iff.2 hne
  simp only [List.length_append]
  omega

/-- The further segments, each after a colon; a colon that no segment follows is left over too. -/
def further (t : Text) : List Text × Text :=
  match t with
  | ':' :: body =>
    match h : next body with
    | .ok (segment, rest) =>
      have := length_lt_of_next h
      let (segments, left) := further rest
      (segment :: segments, left)
    | .error _ => ([], t)
  | _ => ([], t)
termination_by t.length

/-- The segments of a text and what is left over. -/
def split (t : Text) : Except Fault (List Text × Text) :=
  match next t with
  | .ok (segment, rest) =>
    let (segments, left) := further rest
    .ok (segment :: segments, left)
  | .error fault => .error fault

end ThemeCascade.Segment
