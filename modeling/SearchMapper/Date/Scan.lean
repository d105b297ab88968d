import SearchMapper.Date.Fields
import SearchMapper.Date.Names
import SearchMapper.Text.Blank
import SearchMapper.Text.Numeral

/-!
# Scanning date texts

The readers of single pieces of a date text: numbers, names, fractions and offsets. Each takes
what it reads from the front of the text and hands on the rest.
-/

namespace SearchMapper.Scan

/-- What is read, with the rest of the text. -/
abbrev Result (α : Type) := Except DateFault (α × List Char)

/-- The number of bytes of a text. -/
def byteLength (chars : List Char) : Nat :=
  chars.foldl (fun n c => n + c.utf8Size) 0

/-- A fixed text. -/
def literal (text chars : List Char) : Except DateFault (List Char) :=
  if byteLength chars < byteLength text then .error .tooShort
  else if text.isPrefixOf chars then .ok (chars.drop text.length)
  else .error .invalid

/-- A fixed character. -/
def char (c : Char) : List Char → Except DateFault (List Char)
  | [] => .error .tooShort
  | d :: rest => if d = c then .ok rest else .error .invalid

/-- The largest value of a signed integer of 64 bits. -/
def maxInt64 : Nat := 9223372036854775807

/-- The first digits of a text, at most `limit` of them if there is a limit. -/
def leadingDigits (limit : Option Nat) (chars : List Char) : List Char :=
  match limit with
  | some n => (chars.take n).takeWhile Char.isDigit
  | none => chars.takeWhile Char.isDigit

/-- A number of at least `least` digits and at most `most`. -/
def number (least : Nat) (most : Option Nat) (chars : List Char) : Result Int :=
  -- lengths count in bytes, so a text of few characters can still be long enough
  let digits := leadingDigits most chars
  let value := Text.digitsValue 0 digits
  if byteLength chars < least then .error .tooShort
  else if digits.length < least then .error .invalid
  else if maxInt64 < value then .error .outOfRange
  else .ok (value, chars.drop digits.length)

/-- A number that may have a sign. Without one it has at most `most` digits, after one any
number of them. -/
def signedNumber (most : Nat) : List Char → Result Int
  | '-' :: rest => (number 1 none rest).map fun (n, after) => (-n, after)
  | '+' :: rest => number 1 none rest
  | chars => number 1 (some most) chars

/-- The nanoseconds that a number of digits of a fraction stands for. -/
def scaled (value : Int) (digits : Nat) : Int := value * (Nat.pow 10 (9 - digits) : Nat)

/-- A fraction of a second, after its point: at least one digit, those beyond nine ignored. -/
def fraction (chars : List Char) : Result Int :=
  (number 1 (some 9) chars).map fun (value, _) =>
    (scaled value (leadingDigits (some 9) chars).length, chars.dropWhile Char.isDigit)

/-- A fraction of a second of exactly `count` digits. -/
def fixedFraction (count : Nat) (chars : List Char) : Result Int :=
  (number count (some count) chars).map fun (value, rest) => (scaled value count, rest)

/-- The text begins with a word, whatever the case of its ASCII letters. -/
def startsWithWord (word chars : List Char) : Bool :=
  (word.map Char.toLower).isPrefixOf (chars.map Char.toLower)

/-- One of several names by its first three letters. The answer is its place in the list. -/
def shortName (names : List String) (chars : List Char) : Result Nat :=
  if byteLength chars < shortNameLength then .error .tooShort
  else
    match names.findIdx? fun name => startsWithWord (name.toList.take shortNameLength) chars with
    | some index => .ok (index, chars.drop shortNameLength)
    | none => .error .invalid

/-- One of several names, in full or by its first three letters. -/
def longName (names : List String) (chars : List Char) : Result Nat :=
  (shortName names chars).map fun (index, rest) =>
    let tail := (nameAt names index).drop shortNameLength
    (index, if startsWithWord tail rest then rest.drop tail.length else rest)

/-- A half of the day: 0 before noon and 1 after. -/
def halfDay (chars : List Char) : Result Int :=
  if byteLength chars < 2 then .error .tooShort
  else if startsWithWord ['a', 'm'] chars then .ok (0, chars.drop 2)
  else if startsWithWord ['p', 'm'] chars then .ok (1, chars.drop 2)
  else .error .invalid

/-! ## Offsets -/

/-- The first two digits of a text, if it begins with two. -/
def twoDigits : List Char → Except DateFault (Option (Nat × Nat) × List Char)
  | [] => .error .tooShort
  | [c] => if c.utf8Size < 2 then .error .tooShort else .ok (none, [])
  | a :: b :: rest =>
    if a.isDigit && b.isDigit then .ok (some (Text.digitValue a, Text.digitValue b), rest)
    else .ok (none, rest)

/-- The spellings of an offset that are accepted. -/
structure OffsetStyle where
  /-- The letter for UTC stands for an offset of zero. -/
  zulu : Bool
  /-- The minutes may be missing. -/
  hoursOnly : Bool
  /-- Exactly one colon has to stand between hours and minutes; else any colons and blanks. -/
  strictColon : Bool

/-- The separator between the hours and the minutes of an offset. -/
def offsetSeparator (style : OffsetStyle) (chars : List Char) : Except DateFault (List Char) :=
  if style.strictColon then char ':' chars
  else .ok (chars.dropWhile fun c => c == ':' || Text.isBlankChar c)

/-- The minutes of an offset. -/
def offsetMinutes (style : OffsetStyle) (chars : List Char) : Result Nat :=
  match twoDigits chars with
  | .ok (some (a, b), rest) => if a ≤ 5 then .ok (10 * a + b, rest) else .error .outOfRange
  | .ok (none, _) => .error .invalid
  | .error _ => if style.hoursOnly && chars.isEmpty then .ok (0, []) else .error .tooShort

/-- The sign of an offset: plus, or one of the characters for minus. -/
def offsetSign : List Char → Result Int
  | '+' :: rest => .ok (1, rest)
  | '-' :: rest => .ok (-1, rest)
  | '\u2212' :: rest => .ok (-1, rest)
  | [] => .error .tooShort
  | _ => .error .invalid

/-- An offset with its sign, in seconds east of UTC. -/
def signedOffset (style : OffsetStyle) (chars : List Char) :
    Except DateFault (Int × List Char) := do
  let (sign, rest) ← offsetSign chars
  match ← twoDigits rest with
  | (some (a, b), rest) =>
    let rest ← offsetSeparator style rest
    let (minutes, rest) ← offsetMinutes style rest
    return (sign * ((10 * a + b) * 3600 + minutes * 60 : Nat), rest)
  | (none, _) => throw .invalid

/-- An offset, in seconds east of UTC. -/
def offset (style : OffsetStyle) : List Char → Result Int
  | 'Z' :: rest => if style.zulu then .ok (0, rest) else .error .invalid
  | 'z' :: rest => if style.zulu then .ok (0, rest) else .error .invalid
  | chars => signedOffset style chars

end SearchMapper.Scan
