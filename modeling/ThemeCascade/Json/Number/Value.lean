import ThemeCascade.Json.Number

/-! The integer or the double that a JSON number denotes. Digits are read into an integer of 64 bits.
For a double that integer is rounded, then multiplied or divided by a power of ten and rounded again,
so that the result may differ from the double that is nearest to what is written. -/

namespace ThemeCascade.Json.Number

/-- The integers of 64 bits, without or with a sign, end before these. -/
def unsignedLimit : Nat := 0x10000000000000000

def signedLimit : Nat := 0x8000000000000000

/-- Exponents end before this. -/
def exponentLimit : Nat := 0x80000000

/-- Appends digits to a value while it stays below the limit, and tells which digits are left. -/
def absorb (limit value : Nat) : Text → Nat × Text
  | [] => (value, [])
  | c :: rest =>
    let next := 10 * value + (c.toNat - '0'.toNat)
    if next < limit then absorb limit next rest else (value, c :: rest)

/-- The digits that fit into 64 bits, and the power of ten that they are multiplied by. Digits before
the point that do not fit count as zeros; of those after it, the first that does not fit and all that
follow it are left off. -/
def significand (number : Number) : Nat × Int :=
  let (value, zeros) := absorb unsignedLimit 0 number.whole
  let fraction := number.fraction.getD []
  let (value, left) := absorb unsignedLimit value fraction
  (value, zeros.length + left.length - fraction.length)

/-- A double divided by a power of ten, in steps by the greatest one that is a double. -/
def lowered? (x : Double) (places : Nat) : Option Double := do
  if x = .zero then return .zero
  if _hplaces : places ≤ Double.greatestPower then x.div? (← Double.powerOfTen? places)
  else
    let y ← x.div? (← Double.powerOfTen? Double.greatestPower)
    lowered? y (places - Double.greatestPower)
termination_by places
decreasing_by simp only [Double.greatestPower] at *; omega

def scaled? (significand : Nat) (power : Int) : Option Double := do
  let x ← Double.ofNat? significand
  if x = .zero then return .zero
  if power < 0 then lowered? x (-power).toNat else x.mul? (← Double.powerOfTen? power.toNat)

/-- The double that the number denotes, without its sign. If it is beyond every double, the error is
what was not read of the exponent: reading ends after the digit that makes the exponent too great. -/
def toDouble (number : Number) : Except Text Double :=
  let (significand, power) := number.significand
  match number.exponent with
  | none => (scaled? significand power).elim (.error []) .ok
  | some (isNegative, digits) =>
    match absorb exponentLimit 0 digits with
    | (exponent, []) =>
      let power := if isNegative then power - exponent else power + exponent
      (scaled? significand power).elim (.error []) .ok
    | (_, _ :: unread) => if isNegative || significand = 0 then .ok .zero else .error unread

def decimal (number : Number) : Except Text Found :=
  number.toDouble.map (.decimal number.isNegative)

/-- What the number is when it is not wanted: an integer of 64 bits, or else a decimal. Negative zero
is a decimal. -/
def found (number : Number) : Except Text Found :=
  let (value, left) := absorb unsignedLimit 0 number.whole
  if number.fraction.isSome || number.exponent.isSome || left ≠ [] then number.decimal
  else if number.isNegative then
    if value = 0 || signedLimit < value then number.decimal else .ok (.integer (-value))
  else .ok (.integer value)

end ThemeCascade.Json.Number
