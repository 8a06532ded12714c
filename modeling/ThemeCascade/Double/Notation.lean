import ThemeCascade.Double.Shortest
import ThemeCascade.Text.Basic

/-! How a double is written: the digits of its shortest decimal with a point among them or, if it is
very small or great, with a power of ten. -/

namespace ThemeCascade

namespace Decimal

/-- Digits with the point at a position that may lie outside them; at least one digit stands on either
side of it. -/
def positional (digits : Text) (point : Int) : Text :=
  if point ≤ 0 then "0.".toList ++ List.replicate (-point).toNat '0' ++ digits
  else
    let count := point.toNat
    let whole := digits.take count ++ List.replicate (count - digits.length) '0'
    let fraction := digits.drop count
    whole ++ '.' :: (if fraction = [] then ['0'] else fraction)

/-- A point after the first digit, if others follow, and a power of ten with its sign. -/
def scientific (digits : Text) (exponent : Int) : Text :=
  let mantissa := match digits with
    | first :: second :: rest => first :: '.' :: second :: rest
    | digits => digits
  mantissa ++ 'e' :: (if exponent < 0 then '-' else '+') :: Nat.toDigits 10 exponent.natAbs

/-- The powers of ten of the first digit with which no power is written. -/
def leastPositional : Int := -5

def greatestPositional : Int := 15

/-- The decimal's digits end in zero only if they are zero. -/
def text (decimal : Decimal) : Text :=
  if decimal.digits = 0 then "0.0".toList
  else
    let digits := Nat.toDigits 10 decimal.digits
    let exponent := decimal.power + digits.length - 1
    if leastPositional ≤ exponent ∧ exponent ≤ greatestPositional then
      positional digits (exponent + 1)
    else scientific digits exponent

end Decimal

namespace Double

def text (x : Double) : Text := x.shortest.text

end Double

end ThemeCascade
