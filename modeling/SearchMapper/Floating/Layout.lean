import SearchMapper.Floating.Shortest

/-!
# The text of a double

Shortest digits laid out for JSON: plain notation for middling sizes, always with a point,
and scientific notation with a signed exponent outside them.
-/

namespace SearchMapper.Floating

/-- When plain notation is used: the decimal exponents `e` of `d.ddd · 10 ^ e` from `low` up
to, and without, `high`. -/
structure PlainRange where
  low : Int
  high : Int

/-- Documents write `0.00001` and `1000000000000000.0` plainly, and `1e-6` and `1e+16`
scientifically. -/
def documentRange : PlainRange := ⟨-5, 16⟩

/-- A number of `zeros` zeros. -/
def zeros (n : Nat) : String := String.ofList (List.replicate n '0')

/-- The digits with a point after the first `whole` of them. -/
def withPoint (digits : List Char) (whole : Nat) : String :=
  String.ofList (digits.take whole) ++ "." ++ String.ofList (digits.drop whole)

/-- A positive decimal, laid out. -/
def Decimal.layout (d : Decimal) (range : PlainRange) : String :=
  let digits := Nat.toDigits 10 d.digits
  let e : Int := d.exponent + digits.length - 1
  if range.low ≤ e && e < range.high then
    if 0 ≤ d.exponent then String.ofList digits ++ zeros d.exponent.toNat ++ ".0"
    else if 0 ≤ e then withPoint digits (e.toNat + 1)
    else "0." ++ zeros (-e - 1).toNat ++ String.ofList digits
  else
    let mantissa := if digits.length = 1 then String.ofList digits else withPoint digits 1
    mantissa ++ "e" ++ (if e < 0 then "-" else "+") ++ toString e.natAbs

/-- The text of a finite double. -/
def render (x : Double) : String :=
  let sign := if x.isNegative then "-" else ""
  if x.magnitude = 0 then sign ++ "0.0"
  else sign ++ (shortest x.magnitude).layout documentRange

end SearchMapper.Floating
