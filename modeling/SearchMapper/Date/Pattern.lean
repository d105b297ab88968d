import SearchMapper.Text.Blank

/-!
# Date patterns

A date pattern is a text with directives: a percent sign, perhaps a padding mark, and letters.
`DatePattern.parse` cuts it into items, the pieces that printing and reading work with; a text
with an unknown directive is no pattern.
-/

namespace SearchMapper

/-- How a number is padded to its width. -/
inductive Pad where
  | none
  | zero
  | space
deriving DecidableEq, Repr

/-- The parts of a timestamp that are written as numbers. -/
inductive NumericPart where
  | year
  | century
  | yearOfCentury
  | isoYear
  | isoYearOfCentury
  | quarter
  | month
  | day
  | weekFromSunday
  | weekFromMonday
  | isoWeek
  | weekdayFromSunday
  | weekdayFromMonday
  | ordinal
  | hour
  | hour12
  | minute
  | second
  | nanosecond
  /-- Seconds from 1970 on, in UTC. -/
  | epoch
deriving DecidableEq, Repr

/-- The other parts of a timestamp. -/
inductive FixedPart where
  | shortMonth
  | longMonth
  | shortWeekday
  | longWeekday
  | lowerAmPm
  | upperAmPm
  /-- A point and as many digits as it takes, or nothing. -/
  | fraction
  /-- A point and a number of digits. -/
  | pointDigits (count : Nat)
  /-- A number of digits of the fraction. -/
  | digits (count : Nat)
  | zoneName
  /-- An offset from UTC, with `colons` as the number of colons of its directive. -/
  | offset (colons : Nat)
  /-- An offset in any of its spellings. It can be read and not written. -/
  | anyOffset
  /-- The whole timestamp in RFC 3339 form. -/
  | rfc3339
deriving DecidableEq, Repr

/-- A piece of a date pattern. -/
inductive DateItem where
  | literal (text : List Char)
  /-- A run of blank characters. -/
  | blank (text : List Char)
  | number (part : NumericPart) (pad : Pad)
  | fixed (part : FixedPart)
deriving DecidableEq, Repr

/-- A date pattern, cut into items. -/
abbrev DatePattern := List DateItem

namespace DatePattern

/-- A number padded with zeros. -/
def zeroed (part : NumericPart) : DateItem := .number part .zero

/-- A number padded with spaces. -/
def spaced (part : NumericPart) : DateItem := .number part .space

/-- A number without padding. -/
def plain (part : NumericPart) : DateItem := .number part .none

/-- A literal text. -/
def text (s : String) : DateItem := .literal s.toList

/-- One blank. -/
def oneBlank : DateItem := .blank [' ']

/-- Month, day and year with slashes. -/
def slashDate : DatePattern :=
  [zeroed .month, text "/", zeroed .day, text "/", zeroed .yearOfCentury]

/-- Hour, minute and second with colons. -/
def clock : DatePattern :=
  [zeroed .hour, text ":", zeroed .minute, text ":", zeroed .second]

/-- The items of a directive of one letter. -/
def ofLetter? : Char → Option DatePattern
  | 'A' => some [.fixed .longWeekday]
  | 'B' => some [.fixed .longMonth]
  | 'C' => some [zeroed .century]
  | 'D' | 'x' => some slashDate
  | 'F' => some [zeroed .year, text "-", zeroed .month, text "-", zeroed .day]
  | 'G' => some [zeroed .isoYear]
  | 'H' => some [zeroed .hour]
  | 'I' => some [zeroed .hour12]
  | 'M' => some [zeroed .minute]
  | 'P' => some [.fixed .lowerAmPm]
  | 'R' => some [zeroed .hour, text ":", zeroed .minute]
  | 'S' => some [zeroed .second]
  | 'T' | 'X' => some clock
  | 'U' => some [zeroed .weekFromSunday]
  | 'V' => some [zeroed .isoWeek]
  | 'W' => some [zeroed .weekFromMonday]
  | 'Y' => some [zeroed .year]
  | 'Z' => some [.fixed .zoneName]
  | 'a' => some [.fixed .shortWeekday]
  | 'b' | 'h' => some [.fixed .shortMonth]
  | 'c' => some <|
    [.fixed .shortWeekday, oneBlank, .fixed .shortMonth, oneBlank, spaced .day, oneBlank] ++
      clock ++ [oneBlank, zeroed .year]
  | 'd' => some [zeroed .day]
  | 'e' => some [spaced .day]
  | 'f' => some [zeroed .nanosecond]
  | 'g' => some [zeroed .isoYearOfCentury]
  | 'j' => some [zeroed .ordinal]
  | 'k' => some [spaced .hour]
  | 'l' => some [spaced .hour12]
  | 'm' => some [zeroed .month]
  | 'n' => some [.blank ['\n']]
  | 'p' => some [.fixed .upperAmPm]
  | 'q' => some [plain .quarter]
  | 'r' => some [zeroed .hour12, text ":", zeroed .minute, text ":", zeroed .second, oneBlank,
      .fixed .upperAmPm]
  | 's' => some [plain .epoch]
  | 't' => some [.blank ['\t']]
  | 'u' => some [plain .weekdayFromMonday]
  | 'v' => some [spaced .day, text "-", .fixed .shortMonth, text "-", zeroed .year]
  | 'w' => some [plain .weekdayFromSunday]
  | 'y' => some [zeroed .yearOfCentury]
  | 'z' => some [.fixed (.offset 0)]
  | '+' => some [.fixed .rfc3339]
  | '%' => some [text "%"]
  | _ => none

/-- The items of a directive with another padding, which only a single number can have. -/
def padded? (pad : Pad) (letter : Char) : Option DatePattern :=
  match ofLetter? letter with
  | some [.number part _] => some [.number part pad]
  | _ => none

/-- The number of fraction digits that a digit stands for. -/
def fractionDigits? : Char → Option Nat
  | '3' => some 3
  | '6' => some 6
  | '9' => some 9
  | _ => none

/-- The items of the directive after a percent sign, and the text after it. -/
def directive? : List Char → Option (DatePattern × List Char)
  | '-' :: letter :: rest => (padded? .none letter).map (·, rest)
  | '0' :: letter :: rest => (padded? .zero letter).map (·, rest)
  | '_' :: letter :: rest => (padded? .space letter).map (·, rest)
  | '#' :: 'z' :: rest => some ([.fixed .anyOffset], rest)
  | ':' :: 'z' :: rest => some ([.fixed (.offset 1)], rest)
  | ':' :: ':' :: 'z' :: rest => some ([.fixed (.offset 2)], rest)
  | ':' :: ':' :: ':' :: 'z' :: rest => some ([.fixed (.offset 3)], rest)
  | '.' :: 'f' :: rest => some ([.fixed .fraction], rest)
  | '.' :: digit :: 'f' :: rest =>
    (fractionDigits? digit).map fun count => ([.fixed (.pointDigits count)], rest)
  | letter :: 'f' :: rest =>
    match fractionDigits? letter with
    | some count => some ([.fixed (.digits count)], rest)
    | none => (ofLetter? letter).map (·, 'f' :: rest)
  | letter :: rest => (ofLetter? letter).map (·, rest)
  | [] => none

/-- A directive takes at least one character. -/
theorem directive?_length {chars rest : List Char} {items : DatePattern}
    (h : directive? chars = some (items, rest)) : rest.length < chars.length := by
  unfold directive? at h
  split at h
  case h_10 => split at h <;> grind [Option.map_eq_some_iff]
  all_goals grind [Option.map_eq_some_iff]

/-- The character belongs to literal text. -/
def isLiteral (c : Char) : Bool := c != '%' && !Text.isBlankChar c

theorem length_dropWhile_le (p : Char → Bool) (chars : List Char) :
    (chars.dropWhile p).length ≤ chars.length :=
  (List.dropWhile_suffix p).length_le

/-- The items of a pattern; none if it has an unknown directive. -/
def ofChars? (chars : List Char) : Option DatePattern :=
  match chars with
  | [] => some []
  | c :: rest =>
    if c = '%' then
      match _h : directive? rest with
      | some (items, after) => (ofChars? after).map (items ++ ·)
      | none => none
    else if Text.isBlankChar c then
      (ofChars? (rest.dropWhile Text.isBlankChar)).map
        (.blank (c :: rest.takeWhile Text.isBlankChar) :: ·)
    else
      (ofChars? (rest.dropWhile isLiteral)).map (.literal (c :: rest.takeWhile isLiteral) :: ·)
termination_by chars.length
decreasing_by
  · have := directive?_length ‹_›
    simp only [List.length_cons]
    omega
  · have := length_dropWhile_le Text.isBlankChar rest
    simp only [List.length_cons]
    omega
  · have := length_dropWhile_le isLiteral rest
    simp only [List.length_cons]
    omega

/-- The items of a pattern; none if it has an unknown directive. -/
def parse (pattern : String) : Option DatePattern := ofChars? pattern.toList

end DatePattern
end SearchMapper
