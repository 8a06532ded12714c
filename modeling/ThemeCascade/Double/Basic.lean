/-! Doubles, the numbers of 53 significant bits, without a sign. Each operation yields the double that
is nearest to the exact result. -/

namespace ThemeCascade

/-- The number `mantissa · 2^exponent`. A mantissa has 53 bits, or fewer at the least exponent. -/
structure Double where
  mantissa : Nat
  exponent : Int
deriving DecidableEq

namespace Double

/-- The least mantissa of 53 bits. -/
def leastNormal : Nat := 0x10000000000000

/-- The mantissas end before this. -/
def mantissaLimit : Nat := 0x20000000000000

def leastExponent : Int := -1074

def greatestExponent : Int := 971

def zero : Double := ⟨0, leastExponent⟩

/-- The integer nearest to a quotient; of two that are equally near, the even one. -/
def roundEven (n d : Nat) : Nat :=
  let quotient := n / d
  let twice := 2 * (n % d)
  if twice < d || (twice = d && quotient % 2 = 0) then quotient else quotient + 1

/-- The least exponent at which the mantissa of `n / d · 2^power` is below `mantissaLimit`. By the
lengths of `n` and `d` in bits it is `low` or the next one. -/
def exponentOf (n d : Nat) (power : Int) : Int :=
  let low := max ((n.log2 : Int) - d.log2 - 53 + power) leastExponent
  if (n <<< (power - low).toNat) / (d <<< (low - power).toNat) < mantissaLimit then low else low + 1

/-- The double nearest to `n / d · 2^power`; of two that are equally near, the one with an even
mantissa. There is none above the greatest double. -/
def nearest? (n d : Nat) (power : Int) : Option Double :=
  if n = 0 then some zero
  else
    let exponent := exponentOf n d power
    let mantissa := roundEven (n <<< (power - exponent).toNat) (d <<< (exponent - power).toNat)
    let rounded : Double :=
      if mantissa < mantissaLimit then ⟨mantissa, exponent⟩ else ⟨leastNormal, exponent + 1⟩
    if rounded.exponent ≤ greatestExponent then some rounded else none

def ofNat? (n : Nat) : Option Double := nearest? n 1 0

def mul? (x y : Double) : Option Double :=
  nearest? (x.mantissa * y.mantissa) 1 (x.exponent + y.exponent)

def div? (x y : Double) : Option Double :=
  nearest? x.mantissa y.mantissa (x.exponent - y.exponent)

/-- No power of ten beyond this one is a double. -/
def greatestPower : Nat := 308

def powerOfTen? (n : Nat) : Option Double :=
  if n ≤ greatestPower then ofNat? (Nat.pow 10 n) else none

end Double

end ThemeCascade
