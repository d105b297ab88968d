import SearchMapper.Floating.Double

/-!
# Shortest decimals

The decimal that stands for a double in text: among those that round back to it, one with the
fewest digits, and among these the nearest. A double is decoded into a significand and a
power of two, and each grid of decimals with 1, 2, … digits is tried at the two grid points
around the value.
-/

namespace SearchMapper.Floating

/-- `digits · 10 ^ exponent`. -/
structure Decimal where
  digits : Nat
  exponent : Int
deriving DecidableEq, Repr

/-- The numbers that round to a double: `low / den` to `high / den`, with `value / den` the
double itself. The ends belong to it iff `closed`. -/
structure RoundingInterval where
  low : Nat
  value : Nat
  high : Nat
  den : Nat
  closed : Bool

/-- The interval of a positive finite magnitude. Below a power of two the neighbours are
half as far apart. -/
def RoundingInterval.ofMagnitude (magnitude : Nat) : RoundingInterval :=
  let m := Binary.double.significand magnitude
  let e := Binary.double.exponent magnitude
  -- in quarters of a unit, half a step to either neighbour is a whole number
  let below := if m = Nat.pow 2 52 && e > Binary.double.minExponent then 1 else 2
  let scale : Nat := if 0 ≤ e then Nat.pow 2 e.toNat else 1
  let den : Nat := if 0 ≤ e then 4 else 4 * Nat.pow 2 (-e).toNat
  { low := (4 * m - below) * scale
    value := 4 * m * scale
    high := (4 * m + 2) * scale
    den
    closed := m % 2 == 0 }

/-- `digits · 10 ^ exponent` rounds to the double. -/
def RoundingInterval.contains (interval : RoundingInterval) (d : Decimal) : Bool :=
  let (num, den) := scaleDown 10 (-d.exponent) d.digits 1
  let x := num * interval.den
  let low := interval.low * den
  let high := interval.high * den
  if interval.closed then low ≤ x && x ≤ high else low < x && x < high

/-- The largest `k` with `10 ^ k ≤ num / den`, for positive numbers. -/
def floorLog10 (num den : Nat) : Int :=
  -- 30103 / 100000 is close to the decimal logarithm of 2, so the estimate is off by one at most
  let estimate := Int.fdiv (floorLog2 num den * 30103) 100000
  let fits (k : Int) : Bool :=
    let (n, d) := scaleDown 10 k num den
    d ≤ n
  if fits (estimate + 1) then estimate + 1
  else if fits estimate then estimate
  else estimate - 1

/-- The grid point of `10 ^ exponent` nearest to the value among those inside the interval. -/
def RoundingInterval.onGrid? (interval : RoundingInterval) (exponent : Int) : Option Decimal :=
  let (num, den) := scaleDown 10 exponent interval.value interval.den
  let nearest := roundHalfEven num den
  let other := if nearest = num / den then nearest + 1 else nearest - 1
  [⟨nearest, exponent⟩, ⟨other, exponent⟩].find? interval.contains

/-- The decimal without its trailing zeros, at most `limit` of them. -/
def Decimal.dropZeros : (limit : Nat) → Decimal → Decimal
  | 0, d => d
  | limit + 1, d =>
    if d.digits ≠ 0 && d.digits % 10 == 0 then dropZeros limit ⟨d.digits / 10, d.exponent + 1⟩
    else d

/-- The shortest decimal that rounds to a positive finite magnitude. Seventeen digits are
always enough, and end in fewer than seventeen zeros. -/
def shortest (magnitude : Nat) : Decimal :=
  let interval := RoundingInterval.ofMagnitude magnitude
  let top := floorLog10 interval.value interval.den
  let found := (List.range 17).findSome? fun (n : Nat) => interval.onGrid? (top - n)
  (found.getD ⟨0, 0⟩).dropZeros 17

end SearchMapper.Floating
