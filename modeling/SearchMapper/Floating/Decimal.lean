import SearchMapper.Floating.Double

/-!
# Decimals in double arithmetic

Reading `digits · 10 ^ exponent` with the operations of doubles: the digits are rounded to a
double, and its product or quotient with a power of ten is rounded again. Up to 15 digits and
`10 ^ 22` both operands are exact, so that the result is the double nearest to the decimal;
beyond it can be a neighbour of that one.
-/

namespace SearchMapper.Double
open Floating

/-- The product of finite numbers. -/
def mul (x y : Double) : Double :=
  let (xn, xd) := Binary.double.toRatio x.magnitude
  let (yn, yd) := Binary.double.toRatio y.magnitude
  ofRatio (x.isNegative != y.isNegative) (xn * yn) (xd * yd)

/-- The quotient of finite numbers, the second of which is not zero. -/
def div (x y : Double) : Double :=
  let (xn, xd) := Binary.double.toRatio x.magnitude
  let (yn, yd) := Binary.double.toRatio y.magnitude
  ofRatio (x.isNegative != y.isNegative) (xn * yd) (xd * yn)

/-- The largest power of ten among the doubles. -/
def maxPower : Nat := 308

/-- A power of ten, up to the largest. -/
def powerOfTen (k : Nat) : Double := ofRatio false (Nat.pow 10 k) 1

/-- Divides by the largest power of ten if an exponent is below all that are left. -/
def stepDown (x : Double) (exponent : Int) : Double × Int :=
  if exponent < -maxPower then (x.div (powerOfTen maxPower), exponent + maxPower)
  else (x, exponent)

/-- The number with given digits, at most 64 bits of them, and an exponent. After two steps
down such a number is zero. -/
def ofDigits (negative : Bool) (digits : Nat) (exponent : Int) : Double :=
  let (x, e) := stepDown (ofInt digits) exponent
  let (x, e) := stepDown x e
  ofMagnitude negative <|
    if x.magnitude = 0 ∨ e < -maxPower then 0
    else if e < 0 then (x.div (powerOfTen (-e).toNat)).magnitude
    else if e ≤ maxPower then (x.mul (powerOfTen e.toNat)).magnitude
    else Binary.double.infinity

end SearchMapper.Double
