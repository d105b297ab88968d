/-!
# Numerals

Reading integers of 64 bits from text: an optional sign and at least one ASCII digit, nothing
else. Leading zeros are accepted; a minus sign only where negative numbers are.
-/

namespace SearchMapper.Text

/-- The value of an ASCII digit. -/
def digitValue (c : Char) : Nat := c.toNat - '0'.toNat

/-- The number that a run of digits stands for, continuing from `start`. -/
def digitsValue (start : Nat) (digits : List Char) : Nat :=
  digits.foldl (fun n c => 10 * n + digitValue c) start

/-- A non-empty run of ASCII digits and nothing else. -/
def digits? (chars : List Char) : Option Nat :=
  if !chars.isEmpty && chars.all Char.isDigit then some (digitsValue 0 chars) else none

/-- An unsigned numeral: digits after an optional plus sign. -/
def unsigned? : List Char → Option Nat
  | '+' :: digits => digits? digits
  | digits => digits? digits

/-- A signed numeral: digits after an optional plus or minus sign. -/
def signed? : List Char → Option Int
  | '-' :: digits => (digits? digits).map fun n => -(n : Int)
  | digits => (unsigned? digits).map Int.ofNat

/-- A numeral for an unsigned integer of 64 bits. -/
def uint64? (text : String) : Option Nat :=
  (unsigned? text.toList).filter (· < UInt64.size)

/-- A numeral for a signed integer of 64 bits. -/
def int64? (text : String) : Option Int :=
  (signed? text.toList).filter fun n => -0x8000000000000000 ≤ n && n < 0x8000000000000000

end SearchMapper.Text
