import SearchMapper.Date.Pattern
import SearchMapper.Date.Scan

/-!
# Reading timestamps

`DatePattern.read` goes through a text by the items of a pattern and collects fields. On top
of it stand the readings of RFC 3339 text, strict and relaxed, and the reading of a stored
date by the pattern of its field.
-/

namespace SearchMapper

/-- A reader that sets fields. -/
abbrev FieldReader := DateFields → List Char → Except DateFault (DateFields × List Char)

/-- Reads something and sets a field to it. -/
def setTo {α : Type} (read : List Char → Scan.Result α)
    (set : DateFields → α → Except DateFault DateFields) : FieldReader
  | fields, chars => do
    let (value, rest) ← read chars
    return (← set fields value, rest)

/-- Reads a number of at most `most` digits after blanks. -/
def readNumber (most : Nat) (set : DateFields → Int → Except DateFault DateFields) :
    FieldReader :=
  setTo (fun chars => Scan.number 1 (some most) (Text.skipBlanks chars)) set

/-- Reads a year after blanks: four digits, or any number of them after a sign. -/
def readYear (set : DateFields → Int → Except DateFault DateFields) : FieldReader :=
  setTo (fun chars => Scan.signedNumber 4 (Text.skipBlanks chars)) set

/-- Reads a numeric part. The padding does not matter. -/
def NumericPart.read : NumericPart → FieldReader
  | year => readYear DateFields.setYear
  | century => readNumber 2 DateFields.setCentury
  | yearOfCentury => readNumber 2 DateFields.setYearOfCentury
  | isoYear => readYear DateFields.setIsoYear
  | isoYearOfCentury => readNumber 2 DateFields.setIsoYearOfCentury
  | quarter => readNumber 1 DateFields.setQuarter
  | month => readNumber 2 DateFields.setMonth
  | day => readNumber 2 DateFields.setDay
  | weekFromSunday => readNumber 2 DateFields.setWeekFromSunday
  | weekFromMonday => readNumber 2 DateFields.setWeekFromMonday
  | isoWeek => readNumber 2 DateFields.setIsoWeek
  | weekdayFromSunday => readNumber 1 DateFields.setWeekdayFromSunday
  | weekdayFromMonday => readNumber 1 DateFields.setWeekdayFromMonday
  | ordinal => readNumber 3 DateFields.setOrdinal
  | hour => readNumber 2 DateFields.setHour
  | hour12 => readNumber 2 DateFields.setHour12
  | minute => readNumber 2 DateFields.setMinute
  | second => readNumber 2 DateFields.setSecond
  | nanosecond => readNumber 9 DateFields.setNanosecond
  | epoch => setTo (fun chars => Scan.number 1 none (Text.skipBlanks chars)) DateFields.setEpoch

/-- Reads a fraction of a second if a point stands here. -/
def readFraction (read : List Char → Scan.Result Int) : FieldReader := fun fields chars =>
  match chars with
  | '.' :: rest => setTo read DateFields.setNanosecond fields rest
  | _ => .ok (fields, chars)

/-- Reads an offset after blanks. -/
def readOffset (style : Scan.OffsetStyle) : FieldReader :=
  setTo (fun chars => Scan.offset style (Text.skipBlanks chars)) DateFields.setOffset

/-- The style of offsets in the directives for them. -/
def directiveOffset : Scan.OffsetStyle :=
  { zulu := false, hoursOnly := false, strictColon := false }

/-- The style of offsets in any spelling. -/
def anyOffsetStyle : Scan.OffsetStyle :=
  { zulu := true, hoursOnly := true, strictColon := false }

/-- The style of offsets in relaxed RFC 3339 text. -/
def relaxedOffset : Scan.OffsetStyle :=
  { zulu := true, hoursOnly := false, strictColon := false }

/-- The style of offsets in RFC 3339 text. -/
def strictOffset : Scan.OffsetStyle :=
  { zulu := true, hoursOnly := false, strictColon := true }

/-! ## Relaxed RFC 3339 -/

/-- Skips blanks, then reads a fixed character. -/
def readMark (c : Char) : FieldReader := fun fields chars => do
  return (fields, ← Scan.literal [c] (Text.skipBlanks chars))

/-- One reader after another. -/
def readAll : List FieldReader → FieldReader
  | [], fields, chars => .ok (fields, chars)
  | reader :: rest, fields, chars => do
    let (fields, chars) ← reader fields chars
    readAll rest fields chars

/-- Reads the mark between a date and a time: a letter or a blank. -/
def readDateTimeMark : FieldReader := fun fields chars =>
  match chars with
  | 'T' :: rest => .ok (fields, rest)
  | 't' :: rest => .ok (fields, rest)
  | ' ' :: rest => .ok (fields, rest)
  | [] => .error .tooShort
  | _ => .error .invalid

/-- Reads an offset after blanks, also in the spelling `UTC`. -/
def readRelaxedOffset : FieldReader := fun fields chars => do
  let chars := Text.skipBlanks chars
  if Scan.startsWithWord ['u', 't', 'c'] chars then
    return (← fields.setOffset 0, chars.drop 3)
  else setTo (Scan.offset relaxedOffset) DateFields.setOffset fields chars

/-- Reads RFC 3339 text with blanks between its parts and numbers of fewer digits. -/
def readRelaxedRfc3339 : FieldReader :=
  readAll [NumericPart.year.read, readMark '-', NumericPart.month.read, readMark '-',
    NumericPart.day.read, readDateTimeMark, NumericPart.hour.read, readMark ':',
    NumericPart.minute.read, readMark ':', NumericPart.second.read, readFraction Scan.fraction,
    readRelaxedOffset]

/-! ## Patterns -/

/-- Reads any other part. -/
def FixedPart.read : FixedPart → FieldReader
  | shortMonth =>
    setTo (Scan.shortName monthNames) fun fields index => fields.setMonth (index + 1)
  | longMonth =>
    setTo (Scan.longName monthNames) fun fields index => fields.setMonth (index + 1)
  | shortWeekday => setTo (Scan.shortName weekdayNames) fun fields index => fields.setWeekday index
  | longWeekday => setTo (Scan.longName weekdayNames) fun fields index => fields.setWeekday index
  | lowerAmPm | upperAmPm => setTo Scan.halfDay DateFields.setHalfDay
  | fraction => readFraction Scan.fraction
  | pointDigits count => readFraction (Scan.fixedFraction count)
  | digits count => setTo (Scan.fixedFraction count) DateFields.setNanosecond
  | zoneName => fun fields chars => .ok (fields, chars.dropWhile (!Text.isBlankChar ·))
  | offset _ => readOffset directiveOffset
  | anyOffset => readOffset anyOffsetStyle
  | rfc3339 => readRelaxedRfc3339

/-- Reads an item of a pattern. -/
def DateItem.read : DateItem → FieldReader
  | literal text => fun fields chars => do return (fields, ← Scan.literal text chars)
  | blank _ => fun fields chars => .ok (fields, Text.skipBlanks chars)
  | number part _ => part.read
  | fixed part => part.read

/-- Reads a whole text, and fails if a part of it is left. -/
def readWhole (reader : FieldReader) (text : String) : Except DateFault DateFields := do
  let (fields, rest) ← reader {} text.toList
  if rest.isEmpty then return fields else throw .tooLong

/-- The fields of a text by a pattern. -/
def DatePattern.read (pattern : DatePattern) (text : String) : Except DateFault DateFields :=
  readWhole (readAll (pattern.map DateItem.read)) text

/-- The instant that a stored text stands for by the pattern of its field. An offset in the
text counts if it is possible; without one the text is in UTC, and a date alone stands for its
midnight. -/
def DatePattern.readInstant? (pattern : DatePattern) (text : String) : Option Timestamp :=
  match pattern.read text with
  | .error _ => none
  | .ok fields =>
    match fields.instant, fields.timestamp 0, fields.date with
    | .ok instant, _, _ => some instant
    | _, .ok localTime, _ => some localTime
    | _, _, .ok date => some (.midnight date)
    | _, _, _ => none

namespace Timestamp

/-! ## RFC 3339 -/

/-- Reads a number of exactly `count` digits. -/
def readDigits (count : Nat) (set : DateFields → Int → Except DateFault DateFields) :
    FieldReader :=
  setTo (Scan.number count (some count)) set

/-- Reads a fixed character. -/
def readChar (c : Char) : FieldReader := fun fields chars => do
  return (fields, ← Scan.char c chars)

/-- Sets an offset below 24 hours. -/
def setDayOffset (fields : DateFields) (offset : Int) : Except DateFault DateFields := do
  fields.setOffset (← inRange (-86340) 86340 offset)

/-- Reads RFC 3339 text. -/
def readRfc3339 : FieldReader :=
  readAll [
    readDigits 4 DateFields.setYear, readChar '-', readDigits 2 DateFields.setMonth, readChar '-',
    readDigits 2 DateFields.setDay, readDateTimeMark,
    readDigits 2 DateFields.setHour, readChar ':', readDigits 2 DateFields.setMinute,
    readChar ':', readDigits 2 DateFields.setSecond, readFraction Scan.fraction,
    setTo (Scan.offset strictOffset) setDayOffset]

/-- The instant of an RFC 3339 text. -/
def ofRfc3339 (text : String) : Except DateFault Timestamp := do
  (← readWhole readRfc3339 text).instant

/-- The instant of a relaxed RFC 3339 text; blanks may follow it. -/
def ofRelaxedRfc3339 (text : String) : Except DateFault Timestamp := do
  let (fields, rest) ← readRelaxedRfc3339 {} text.toList
  if (Text.skipBlanks rest).isEmpty then fields.instant else throw .tooLong

end Timestamp
end SearchMapper
