import ThemeCascade.Json.Quotation
import ThemeCascade.Json.Scalar

/-! Passing over a value that nobody wants, however deep it is. The brackets that are open are kept in a
list, the innermost first. -/

namespace ThemeCascade.Json

inductive Bracket where
  | list | object
deriving DecidableEq

namespace Bracket

def closing : Bracket → Char
  | list => ']'
  | object => '}'

def atEnd : Bracket → Cause
  | list => .endInList
  | object => .endInObject

def unclosed : Bracket → Cause
  | list => .noListEnd
  | object => .noObjectEnd

end Bracket

/-- The colon after the name of a member. -/
def colon (t : Text) : Except Fault Text :=
  match skipSpace t with
  | [] => .error (.atNext .endInObject [])
  | c :: rest => if c = ':' then .ok rest else .error (.atNext .noColon (c :: rest))

theorem length_of_colon {t rest : Text} (h : colon t = .ok rest) : rest.length < t.length := by
  have hspace := length_skipSpace_le t
  unfold colon at h
  split at h
  · cases h
  · next heq =>
    split at h
    · cases h; rw [heq] at hspace; exact hspace
    · cases h

namespace Passing

/-- Where reading stands: before a value, or within the innermost bracket, after a value. -/
inductive State where
  | before (opened : List Bracket)
  | within (innermost : Bracket) (opened : List Bracket)
deriving DecidableEq

/-- After a value, reading goes on if a bracket is open. -/
def after : List Bracket → Option State
  | [] => none
  | innermost :: opened => some (.within innermost opened)

/-- The name of a member and its colon. -/
def name (t : Text) : Except Fault Text :=
  match skipSpace t with
  | [] => .error (.atNext .endInObject [])
  | c :: rest =>
    if c = '"' then do colon (← Quotation.pass rest) else .error (.atNext .noKey (c :: rest))

/-- Gets ready for the next value within a bracket. -/
def entry (bracket : Bracket) (opened : List Bracket) (t : Text) :
    Except Fault (Option State × Text) :=
  match bracket with
  | .list => .ok (some (.before (.list :: opened)), t)
  | .object => do return (some (.before (.object :: opened)), ← name t)

/-- What follows an opening bracket: the closing one, or a first value. -/
def enter (bracket : Bracket) (opened : List Bracket) (t : Text) :
    Except Fault (Option State × Text) :=
  match skipSpace t with
  | [] => .error (.atNext bracket.atEnd [])
  | c :: rest =>
    if c = bracket.closing then .ok (after opened, rest) else entry bracket opened (c :: rest)

def value (opened : List Bracket) (t : Text) : Except Fault (Option State × Text) :=
  match skipSpace t with
  | [] => .error (.atNext .endInValue [])
  | c :: rest =>
    if c = '"' then do return (after opened, ← Quotation.pass rest)
    else if c = '[' then enter .list opened rest
    else if c = '{' then enter .object opened rest
    else do return (after opened, (← Scalar.read .badNumber (c :: rest)).2)

/-- What follows a value: the closing bracket, or a comma and another value. -/
def separator (bracket : Bracket) (opened : List Bracket) (t : Text) :
    Except Fault (Option State × Text) :=
  match skipSpace t with
  | [] => .error (.atNext bracket.atEnd [])
  | c :: rest =>
    if c = bracket.closing then .ok (after opened, rest)
    else if c = ',' then entry bracket opened rest
    else .error (.atNext bracket.unclosed (c :: rest))

theorem length_of_name {t rest : Text} (h : name t = .ok rest) : rest.length < t.length := by
  have hspace := length_skipSpace_le t
  unfold name at h
  split at h
  · cases h
  · next heq =>
    split at h
    · simp only [bind_eq_ok_iff] at h
      obtain ⟨left, hpass, hcolon⟩ := h
      have := Quotation.length_of_pass hpass
      have := length_of_colon hcolon
      simp only [heq, List.length_cons] at hspace
      omega
    · cases h

theorem length_of_entry {bracket : Bracket} {opened : List Bracket} {t rest : Text}
    {next : Option State} (h : entry bracket opened t = .ok (next, rest)) :
    rest.length ≤ t.length := by
  unfold entry at h
  split at h
  · cases h; exact Nat.le_refl _
  · simp only [bind_eq_ok_iff] at h
    obtain ⟨left, hname, h⟩ := h
    cases h
    exact Nat.le_of_lt (length_of_name hname)

theorem length_of_enter {bracket : Bracket} {opened : List Bracket} {t rest : Text}
    {next : Option State} (h : enter bracket opened t = .ok (next, rest)) :
    rest.length ≤ t.length := by
  have hspace := length_skipSpace_le t
  unfold enter at h
  split at h
  · cases h
  · next heq =>
    rw [heq] at hspace
    split at h
    · cases h; exact Nat.le_of_lt hspace
    · exact Nat.le_trans (length_of_entry h) hspace

theorem length_of_value {opened : List Bracket} {t rest : Text} {next : Option State}
    (h : value opened t = .ok (next, rest)) : rest.length < t.length := by
  have hspace := length_skipSpace_le t
  unfold value at h
  split at h
  · cases h
  · next heq =>
    rw [heq, List.length_cons] at hspace
    split at h
    · simp only [bind_eq_ok_iff] at h
      obtain ⟨left, hpass, h⟩ := h
      cases h
      have := Quotation.length_of_pass hpass
      omega
    · split at h
      · have := length_of_enter h
        omega
      · split at h
        · have := length_of_enter h
          omega
        · simp only [bind_eq_ok_iff, Prod.exists] at h
          obtain ⟨_, left, hscalar, h⟩ := h
          cases h
          have := Scalar.length_of_read hscalar
          simp only [List.length_cons] at this
          omega

theorem length_of_separator {bracket : Bracket} {opened : List Bracket} {t rest : Text}
    {next : Option State} (h : separator bracket opened t = .ok (next, rest)) :
    rest.length < t.length := by
  have hspace := length_skipSpace_le t
  unfold separator at h
  split at h
  · cases h
  · next heq =>
    rw [heq, List.length_cons] at hspace
    split at h
    · cases h; exact hspace
    · split at h
      · have := length_of_entry h
        omega
      · cases h

def turn : Turn State where
  run
    | .before opened => value opened
    | .within bracket opened => separator bracket opened
  shorter := by
    intro state t next rest h
    cases state with
    | before opened => exact length_of_value h
    | within bracket opened => exact length_of_separator h

end Passing

/-- What follows a value. -/
def pass (t : Text) : Except Fault Text := do return (← Passing.turn.loop (.before []) t).2

theorem length_of_pass {t rest : Text} (h : pass t = .ok rest) : rest.length < t.length := by
  simp only [pass, bind_eq_ok_iff, Prod.exists] at h
  obtain ⟨_, _, hloop, h⟩ := h
  cases h
  exact Passing.turn.loop_shorter hloop

end ThemeCascade.Json
