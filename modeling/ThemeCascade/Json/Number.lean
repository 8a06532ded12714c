import ThemeCascade.Json.Word

/-! JSON numbers, as they are written. -/

namespace ThemeCascade.Json

/-- The digits before the point, after it, and after the mark of the exponent with its sign. -/
structure Number where
  isNegative : Bool
  whole : Text
  fraction : Option Text
  exponent : Option (Bool × Text)
deriving DecidableEq

def digits (t : Text) : Text × Text := (t.takeWhile Char.isDigit, t.dropWhile Char.isDigit)

theorem length_digits_le (t : Text) : (digits t).2.length ≤ t.length :=
  (List.dropWhile_sublist Char.isDigit).length_le

namespace Number

/-- A single zero, or digits that begin with another one. `atEnd` is the fault of a text that ends
where a digit is needed. -/
def readWhole (atEnd : Cause) (t : Text) : Except Fault (Text × Text) :=
  match t with
  | [] => .error ⟨atEnd, [], 0⟩
  | c :: rest =>
    if c = '0' then
      if rest.head?.any Char.isDigit then .error (.atNext .badNumber rest) else .ok (['0'], rest)
    else if c.isDigit then .ok (digits t)
    else .error (.atNext .badNumber t)

def readFraction (atEnd : Cause) (t : Text) : Except Fault (Option Text × Text) :=
  match t with
  | '.' :: rest =>
    if (digits rest).1 = [] then .error (.atNext (if rest = [] then atEnd else .badNumber) rest)
    else .ok (some (digits rest).1, (digits rest).2)
  | _ => .ok (none, t)

/-- Whether a minus sign comes next, and what follows the sign, if there is one. -/
def readSign : Text → Bool × Text
  | '-' :: rest => (true, rest)
  | '+' :: rest => (false, rest)
  | t => (false, t)

def readPower (atEnd : Cause) (isNegative : Bool) (t : Text) :
    Except Fault (Option (Bool × Text) × Text) :=
  if t = [] then .error ⟨atEnd, [], 0⟩
  else if (digits t).1 = [] then .error (.atNext .badNumber t)
  else .ok (some (isNegative, (digits t).1), (digits t).2)

def readExponent (atEnd : Cause) (t : Text) : Except Fault (Option (Bool × Text) × Text) :=
  match t with
  | [] => .ok (none, [])
  | c :: rest =>
    if c = 'e' || c = 'E' then readPower atEnd (readSign rest).1 (readSign rest).2
    else .ok (none, t)

def readUnsigned (atEnd : Cause) (isNegative : Bool) (t : Text) : Except Fault (Number × Text) := do
  let (whole, t) ← readWhole atEnd t
  let (fraction, t) ← readFraction atEnd t
  let (exponent, t) ← readExponent atEnd t
  return (⟨isNegative, whole, fraction, exponent⟩, t)

def read (atEnd : Cause) (t : Text) : Except Fault (Number × Text) :=
  match t with
  | '-' :: rest => readUnsigned atEnd true rest
  | _ => readUnsigned atEnd false t

theorem length_of_readWhole {atEnd : Cause} {t whole rest : Text}
    (h : readWhole atEnd t = .ok (whole, rest)) : rest.length < t.length := by
  unfold readWhole at h
  split at h
  · cases h
  · next c tail =>
    split at h
    · split at h
      · cases h
      · cases h; simp
    · split at h
      · next hdigit =>
        cases h
        simp only [List.dropWhile_cons, hdigit, if_true, List.length_cons]
        exact Nat.lt_succ_of_le (length_digits_le tail)
      · cases h

theorem length_of_readFraction {atEnd : Cause} {t rest : Text} {fraction : Option Text}
    (h : readFraction atEnd t = .ok (fraction, rest)) : rest.length ≤ t.length := by
  unfold readFraction at h
  split at h
  · split at h
    · cases h
    · cases h; exact Nat.le_succ_of_le (length_digits_le _)
  · cases h; exact Nat.le_refl _

theorem length_readSign_le (t : Text) : (readSign t).2.length ≤ t.length := by
  unfold readSign
  split <;> simp

theorem length_of_readExponent {atEnd : Cause} {t rest : Text} {exponent : Option (Bool × Text)}
    (h : readExponent atEnd t = .ok (exponent, rest)) : rest.length ≤ t.length := by
  unfold readExponent readPower at h
  split at h
  · cases h; exact Nat.le_refl _
  · next c tail =>
    split at h
    · split at h
      · cases h
      · split at h
        · cases h
        · cases h
          have := length_readSign_le tail
          have := length_digits_le (readSign tail).2
          simp only [List.length_cons]
          omega
    · cases h; exact Nat.le_refl _

theorem length_of_readUnsigned {atEnd : Cause} {isNegative : Bool} {t rest : Text} {number : Number}
    (h : readUnsigned atEnd isNegative t = .ok (number, rest)) : rest.length < t.length := by
  simp only [readUnsigned, bind_eq_ok_iff, Prod.exists] at h
  obtain ⟨_, t₁, h₁, _, t₂, h₂, _, t₃, h₃, h⟩ := h
  cases h
  have := length_of_readWhole h₁
  have := length_of_readFraction h₂
  have := length_of_readExponent h₃
  omega

theorem length_of_read {atEnd : Cause} {t rest : Text} {number : Number}
    (h : read atEnd t = .ok (number, rest)) : rest.length < t.length := by
  unfold read at h
  split at h
  · exact Nat.lt_succ_of_lt (length_of_readUnsigned h)
  · exact length_of_readUnsigned h

end Number

end ThemeCascade.Json
