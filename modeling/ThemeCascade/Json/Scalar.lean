import ThemeCascade.Json.Number.Value

/-! The values that are neither strings nor hold other values. -/

namespace ThemeCascade.Json

inductive Scalar where
  | null
  | boolean (value : Bool)
  | number (value : Number)
deriving DecidableEq

namespace Scalar

def ofWord (c : Char) (rest : Text) : Option (Except Fault (Scalar × Text)) :=
  match c with
  | 'n' => some ((word "ull".toList rest).map (null, ·))
  | 't' => some ((word "rue".toList rest).map (boolean true, ·))
  | 'f' => some ((word "alse".toList rest).map (boolean false, ·))
  | _ => none

/-- The first character tells what to read. `atEnd` is the fault of a number that the text's end
cuts off. -/
def read (atEnd : Cause) (t : Text) : Except Fault (Scalar × Text) :=
  match t with
  | [] => .error (.atNext .endInValue [])
  | c :: rest =>
    match ofWord c rest with
    | some result => result
    | none =>
      if c = '-' || c.isDigit then (Number.read atEnd t).map fun (value, rest) => (number value, rest)
      else .error (.atNext .noValue t)

/-- What the scalar is when it is not wanted, or what was not read of a number that is out of range. -/
def found : Scalar → Except Text Found
  | null => .ok .null
  | boolean value => .ok (.boolean value)
  | number value => value.found

theorem length_of_read {atEnd : Cause} {t rest : Text} {value : Scalar}
    (h : read atEnd t = .ok (value, rest)) : rest.length < t.length := by
  have hword {w tail : Text} {s : Scalar} (h : (word w tail).map (s, ·) = .ok (value, rest)) :
      rest.length < tail.length + 1 := by
    cases hw : word w tail with
    | error => rw [hw] at h; cases h
    | ok left => rw [hw] at h; cases h; exact Nat.lt_succ_of_le (length_of_word hw)
  unfold read at h
  split at h
  · cases h
  · split at h
    · next result hofWord =>
      unfold ofWord at hofWord
      split at hofWord <;> cases hofWord <;> exact hword h
    · split at h
      · cases hn : Number.read atEnd (_ :: _) with
        | error => rw [hn] at h; cases h
        | ok result => rw [hn] at h; cases h; exact Number.length_of_read hn
      · cases h

end Scalar

end ThemeCascade.Json
