/-!
# Padded numbers

Numbers as they stand in dates: filled up to a width with zeros or spaces, with a sign where
one is wanted.
-/

namespace SearchMapper

/-- The decimal digits of a number. -/
def decimalDigits (n : Nat) : List Char := Nat.toDigits 10 n

/-- Fills up to a width on the left. -/
def fillLeft (fill : Char) (width : Nat) (chars : List Char) : List Char :=
  List.replicate (width - chars.length) fill ++ chars

/-- A number of at least `width` digits. -/
def zeroPadded (width n : Nat) : List Char := fillLeft '0' width (decimalDigits n)

/-- The sign of an integer; for one that is not negative only if a sign is wanted. -/
def signOf (plus : Bool) (n : Int) : List Char :=
  if n < 0 then ['-'] else if plus then ['+'] else []

/-- An integer without padding. -/
def signed (plus : Bool) (n : Int) : List Char :=
  signOf plus n ++ decimalDigits n.natAbs

/-- An integer filled with zeros between its sign and its digits; the width counts the sign. -/
def signedZeroPadded (width : Nat) (plus : Bool) (n : Int) : List Char :=
  let sign := signOf plus n
  sign ++ zeroPadded (width - sign.length) n.natAbs

/-- An integer filled with spaces; the width counts the sign. -/
def signedSpacePadded (width : Nat) (plus : Bool) (n : Int) : List Char :=
  fillLeft ' ' width (signed plus n)

end SearchMapper
