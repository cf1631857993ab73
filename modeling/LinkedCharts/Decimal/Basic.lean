import LinkedCharts.Binary64.Rounding

/-!
# Decimals

A decimal is a natural times a power of ten. It is turned into steps of the binary format as an
exact quotient of naturals, which is then rounded once.

Results:
* `Decimal.nearest`: the steps that a decimal rounds to.
* `Decimal.positional`: the digits written out with a point and no exponent.
* `Decimal.scientific`: one digit before the point, and a power of ten.
-/

namespace LinkedCharts

/-- The value `digits * 10 ^ exponent`. -/
structure Decimal where
  digits : Nat
  exponent : Int
deriving DecidableEq, Inhabited

namespace Decimal

open Binary64

/-! ## Value -/

/-- Numerator of the value in steps. -/
def stepsNum (d : Decimal) : Nat := d.digits * 10 ^ d.exponent.toNat * stepsPerOne

/-- Denominator of the value in steps. -/
def stepsDen (d : Decimal) : Nat := 10 ^ (-d.exponent).toNat

/-- The steps that the value rounds to. -/
def nearest (d : Decimal) : Nat := Binary64.nearest d.stepsNum d.stepsDen

/-- The number that the value rounds to, with the given sign. -/
def toBinary64 (negative : Bool) (d : Decimal) : Binary64 := round negative d.stepsNum d.stepsDen

/-! ## Text -/

/-- The digits without zeros at their end; zero keeps its one digit. -/
def significand (d : Decimal) : List Char :=
  let all := Nat.toDigits 10 d.digits
  if d.digits = 0 then all else (all.reverse.dropWhile (· == '0')).reverse

/-- The exponent that belongs to the significand. -/
def scale (d : Decimal) : Int :=
  d.exponent + ((Nat.toDigits 10 d.digits).length - d.significand.length : Nat)

/-- The exponent of the first digit. -/
def order (d : Decimal) : Int := d.scale + d.significand.length - 1

/-- All digits in their places, with a point if some stand behind it. -/
def positional (d : Decimal) : List Char :=
  let ds := d.significand
  match d.scale with
  | .ofNat zeros => ds ++ List.replicate zeros '0'
  | .negSucc n =>
    let places := n + 1
    if places < ds.length then ds.take (ds.length - places) ++ '.' :: ds.drop (ds.length - places)
    else '0' :: '.' :: (List.replicate (places - ds.length) '0' ++ ds)

/-- The first digit, a point and the other digits if there are some, and the exponent of the first
    digit with its sign. -/
def scientific (d : Decimal) : List Char :=
  let mantissa := match d.significand with
    | [] => []
    | [c] => [c]
    | c :: rest => c :: '.' :: rest
  mantissa ++ 'e' :: (if d.order < 0 then '-' else '+') :: Nat.toDigits 10 d.order.natAbs

end Decimal

end LinkedCharts
