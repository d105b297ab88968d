/-!
# Binary floating point

The interchange formats of binary floating point, as far as numbers in documents need them:
what the bits of a number stand for, and the bits nearest to a given fraction. Everything is
exact arithmetic on `Nat`; signs are kept apart, so a `magnitude` here is the bit pattern
without its sign bit.
-/

namespace SearchMapper.Floating

/-- A binary format: the number of significant bits, and the exponent of the smallest
positive number. -/
structure Binary where
  precision : Nat
  minExponent : Int
  /-- The width of the exponent field. -/
  exponentBits : Nat

/-- The format of 64 bits. -/
def Binary.double : Binary := ⟨53, -1074, 11⟩

/-- The format of 32 bits. -/
def Binary.single : Binary := ⟨24, -149, 8⟩

/-- A positive quotient rounded to the nearest integer; a tie goes to the even one. -/
def roundHalfEven (num den : Nat) : Nat :=
  let q := num / den
  let r := num % den
  if 2 * r > den || (2 * r == den && q % 2 == 1) then q + 1 else q

/-- `num / den` divided by `base ^ exponent`, as a fraction of natural numbers. -/
def scaleDown (base : Nat) (exponent : Int) (num den : Nat) : Nat × Nat :=
  if 0 ≤ exponent then (num, den * Nat.pow base exponent.toNat)
  else (num * Nat.pow base (-exponent).toNat, den)

/-- The largest `k` with `2 ^ k ≤ num / den`, for positive numbers. -/
def floorLog2 (num den : Nat) : Int :=
  let k : Int := (num.log2 : Int) - (den.log2 : Int)
  let (n, d) := scaleDown 2 k num den
  if d ≤ n then k else k - 1

namespace Binary

/-- The magnitude of infinity: all exponent bits set, and no others. -/
def infinity (format : Binary) : Nat :=
  (Nat.pow 2 format.exponentBits - 1) * Nat.pow 2 (format.precision - 1)

/-- The integer significand of a magnitude. -/
def significand (format : Binary) (magnitude : Nat) : Nat :=
  let unit := Nat.pow 2 (format.precision - 1)
  if magnitude / unit = 0 then magnitude else magnitude % unit + unit

/-- The power of two that scales the significand of a magnitude. -/
def exponent (format : Binary) (magnitude : Nat) : Int :=
  let field := magnitude / Nat.pow 2 (format.precision - 1)
  format.minExponent + ((field - 1 : Nat) : Int)

/-- The magnitude of `significand · 2 ^ exponent`, infinity when it is too large. A
significand of exactly `precision + 1` bits, as rounding up can produce, carries over into
the exponent field. -/
def encode (format : Binary) (significand : Nat) (exponent : Int) : Nat :=
  min format.infinity
    ((exponent - format.minExponent).toNat * Nat.pow 2 (format.precision - 1) + significand)

/-- The magnitude nearest to `num / den`; a tie goes to the even significand. -/
def nearest (format : Binary) (num den : Nat) : Nat :=
  if num = 0 then 0
  else
    let e := max format.minExponent (floorLog2 num den - ((format.precision - 1 : Nat) : Int))
    let (n, d) := scaleDown 2 e num den
    format.encode (roundHalfEven n d) e

/-- The value of a finite magnitude as a fraction. -/
def toRatio (format : Binary) (magnitude : Nat) : Nat × Nat :=
  let e := format.exponent magnitude
  if 0 ≤ e then (format.significand magnitude * Nat.pow 2 e.toNat, 1)
  else (format.significand magnitude, Nat.pow 2 (-e).toNat)

end Binary
end SearchMapper.Floating
