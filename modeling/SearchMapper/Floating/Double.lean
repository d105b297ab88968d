import SearchMapper.Floating.Binary

/-!
# Doubles and singles

The two floating-point widths that documents use, kept as bit patterns: values and
coordinates are doubles, boosts are singles. Each conversion rounds to nearest, ties to even.
-/

namespace SearchMapper

/-- A number of double precision, by its bits. -/
structure Double where
  bits : UInt64
deriving DecidableEq, Repr

/-- A number of single precision, by its bits. -/
structure Single where
  bits : UInt32
deriving DecidableEq, Repr

open Floating

namespace Double

/-- The sign bit is set. -/
def isNegative (x : Double) : Bool := Nat.pow 2 63 ≤ x.bits.toNat

/-- The bits without the sign. -/
def magnitude (x : Double) : Nat := x.bits.toNat % Nat.pow 2 63

/-- The number is neither infinite nor undefined. -/
def isFinite (x : Double) : Bool := x.magnitude < Binary.double.infinity

/-- The number with the given sign and magnitude. -/
def ofMagnitude (negative : Bool) (magnitude : Nat) : Double :=
  ⟨UInt64.ofNat ((if negative then Nat.pow 2 63 else 0) + magnitude)⟩

/-- The number nearest to a fraction with the given sign. -/
def ofRatio (negative : Bool) (num den : Nat) : Double :=
  ofMagnitude negative (Binary.double.nearest num den)

/-- The number nearest to an integer. -/
def ofInt (n : Int) : Double := ofRatio (n < 0) n.natAbs 1

/-- The number nearest to `digits · 10 ^ exponent`. Exponents far outside the range of
doubles are answered without computing the power. -/
def ofDecimal (negative : Bool) (digits : Nat) (exponent : Int) : Double :=
  let size : Int := exponent + digits.log2
  if digits = 0 || size < -1500 then ofMagnitude negative 0
  else if exponent > 400 then ofMagnitude negative Binary.double.infinity
  else
    let (num, den) := scaleDown 10 (-exponent) digits 1
    ofRatio negative num den

end Double

namespace Single

/-- The sign bit is set. -/
def isNegative (x : Single) : Bool := Nat.pow 2 31 ≤ x.bits.toNat

/-- The bits without the sign. -/
def magnitude (x : Single) : Nat := x.bits.toNat % Nat.pow 2 31

/-- The number is neither infinite nor undefined. -/
def isFinite (x : Single) : Bool := x.magnitude < Binary.single.infinity

/-- The number nearest to a fraction with the given sign. -/
def ofRatio (negative : Bool) (num den : Nat) : Single :=
  ⟨UInt32.ofNat ((if negative then Nat.pow 2 31 else 0) + Binary.single.nearest num den)⟩

/-- The number nearest to an integer. -/
def ofInt (n : Int) : Single := ofRatio (n < 0) n.natAbs 1

/-- The single nearest to a finite double. -/
def ofDouble (x : Double) : Single :=
  let (num, den) := Binary.double.toRatio x.magnitude
  ofRatio x.isNegative num den

/-- A finite single as the double of the same value. -/
def toDouble (x : Single) : Double :=
  let (num, den) := Binary.single.toRatio x.magnitude
  .ofRatio x.isNegative num den

end Single
end SearchMapper
