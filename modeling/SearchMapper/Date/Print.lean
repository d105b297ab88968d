import SearchMapper.Date.Names
import SearchMapper.Date.Pattern
import SearchMapper.Date.Rfc3339

/-!
# Printing timestamps

`DatePattern.print` writes an instant in UTC by the items of a pattern. Every item can be
written except an offset in any spelling.
-/

namespace SearchMapper

/-- A number in a slot of two digits. Its ones are a digit; the tens are the character that
many places after `0`, which is a digit for numbers below one hundred. -/
def twoPlaces (pad : Pad) (n : Nat) : List Char :=
  let tens :=
    match pad, n / 10 with
    | .none, 0 => []
    | .space, 0 => [' ']
    | _, t => [Char.ofNat ('0'.toNat + t)]
  tens ++ [Nat.digitChar (n % 10)]

/-- A number in a slot of `width` digits. With a sign there is room for one character more. -/
def manyPlaces (width : Nat) (pad : Pad) (sign : Bool) (n : Int) : List Char :=
  let width := if sign then width + 1 else width
  match pad with
  | .none => signed sign n
  | .zero => signedZeroPadded width sign n
  | .space => signedSpacePadded width sign n

/-- A year in its slot: four digits, or more with a sign. -/
def yearPlaces (pad : Pad) (year : Int) : List Char :=
  manyPlaces 4 pad (year < 0 || 9999 < year) year

/-- The century of a year as its slot takes it, a number below 256. -/
def centuryOf (year : Int) : Nat := (year / 100 % 256).toNat

/-- The hour on a clock of twelve hours. -/
def hourOfTwelve (hour : Nat) : Nat :=
  if hour % 12 = 0 then 12 else hour % 12

/-- A numeric part of an instant. -/
def NumericPart.print (pad : Pad) (t : Timestamp) : NumericPart → List Char
  | year => yearPlaces pad t.date.year
  | century => twoPlaces pad (centuryOf t.date.year)
  | yearOfCentury => twoPlaces pad (t.date.year % 100).toNat
  | isoYear => yearPlaces pad t.date.isoYear
  | isoYearOfCentury => twoPlaces pad (t.date.isoYear % 100).toNat
  | quarter => decimalDigits t.date.quarter
  | month => twoPlaces pad t.date.month
  | day => twoPlaces pad t.date.day
  | weekFromSunday => twoPlaces pad (t.date.weekFrom 6).toNat
  | weekFromMonday => twoPlaces pad (t.date.weekFrom 0).toNat
  | isoWeek => twoPlaces pad t.date.isoWeek.toNat
  | weekdayFromSunday => decimalDigits (t.date.weekdayAfter 6).toNat
  | weekdayFromMonday => decimalDigits (t.date.weekday + 1).toNat
  | ordinal => manyPlaces 3 pad false t.date.ordinal
  | hour => twoPlaces pad t.hour
  | hour12 => twoPlaces pad (hourOfTwelve t.hour)
  | minute => twoPlaces pad t.minute
  | second => twoPlaces pad t.second
  | nanosecond => manyPlaces 9 pad false t.fraction
  | epoch => manyPlaces 9 pad false t.seconds

/-- The first digits of a fraction of a second. -/
def fractionDigits (count nanos : Nat) : List Char :=
  zeroPadded count (nanos / Nat.pow 10 (9 - count))

/-- The offset of UTC, by the number of colons of its directive. -/
def zeroOffset : Nat → List Char
  | 0 => "+0000".toList
  | 1 => "+00:00".toList
  | 2 => "+00:00:00".toList
  | _ => "+00".toList

/-- Any other part of an instant. -/
def FixedPart.print? (t : Timestamp) : FixedPart → Option (List Char)
  | shortMonth => some (shortNameAt monthNames (t.date.month - 1))
  | longMonth => some (nameAt monthNames (t.date.month - 1))
  | shortWeekday => some (shortNameAt weekdayNames t.date.weekday.toNat)
  | longWeekday => some (nameAt weekdayNames t.date.weekday.toNat)
  | lowerAmPm => some (if t.hour < 12 then "am".toList else "pm".toList)
  | upperAmPm => some (if t.hour < 12 then "AM".toList else "PM".toList)
  | fraction => some (fractionText t.fraction)
  | pointDigits count => some ('.' :: fractionDigits count t.fraction)
  | digits count => some (fractionDigits count t.fraction)
  | zoneName => some "UTC".toList
  | offset colons => some (zeroOffset colons)
  | anyOffset => none
  | rfc3339 => some (t.rfc3339Chars "+00:00".toList)

/-- An item of a pattern for an instant. -/
def DateItem.print? (t : Timestamp) : DateItem → Option (List Char)
  | literal text => some text
  | blank text => some text
  | number part pad => some (part.print pad t)
  | fixed part => part.print? t

/-- The text of an instant by a pattern. -/
def DatePattern.print? (t : Timestamp) : DatePattern → Option (List Char)
  | [] => some []
  | item :: rest => do
    let here ← item.print? t
    let after ← DatePattern.print? t rest
    return here ++ after

end SearchMapper
