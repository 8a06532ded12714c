import ThemeCascade.Double.Basic

/-! The shortest decimal that is read back as a double. The multiples of a power of ten are a grid; of
the coarsest grid with a number that rounds to the double, it is the nearest such number. -/

namespace ThemeCascade

/-- The number `digits · 10^power`. -/
structure Decimal where
  digits : Nat
  power : Int
deriving DecidableEq

namespace Double

/-- Whether a number rounds to a double. The number is given in a unit of which `quarter` make a quarter
of the mantissa's last place. A number rounds to the double up to half that place away, below the least
mantissa of 53 bits up to a quarter, where the next double is nearer; at that distance, only to an even
mantissa. -/
def roundsFrom (x : Double) (quarter n : Nat) : Bool :=
  let below := if x.mantissa = leastNormal ∧ leastExponent < x.exponent then 1 else 2
  let low := (4 * x.mantissa - below) * quarter
  let high := (4 * x.mantissa + 2) * quarter
  if x.mantissa % 2 = 0 then low ≤ n && n ≤ high else low < n && n < high

/-- The multiple of a power of ten that is nearest to a double of those that round to it. Beside the
nearest of all, only the two around the double come into question. -/
def onGrid? (x : Double) (power : Int) : Option Nat :=
  let quarter := Nat.pow 10 (-power).toNat <<< (x.exponent - 2).toNat
  let step := Nat.pow 10 power.toNat <<< (2 - x.exponent).toNat
  let value := 4 * x.mantissa * quarter
  let below := value / step
  [roundEven value step, below, below + 1].find? fun n => x.roundsFrom quarter (n * step)

/-- The finest grid that is needed: its step is less than the least gap between doubles. -/
def leastPower : Int := -324

/-- The first decimal on the grids from a number of powers above the least one down. -/
def shortestFrom (x : Double) : Nat → Decimal
  | 0 => ⟨(x.onGrid? leastPower).getD 0, leastPower⟩
  | n + 1 =>
    let power := leastPower + (n + 1)
    match x.onGrid? power with
    | some digits => ⟨digits, power⟩
    | none => x.shortestFrom n

def shortest (x : Double) : Decimal := x.shortestFrom (greatestPower - leastPower).toNat

end Double

end ThemeCascade
