/-!
# The calendar

Dates of the proleptic Gregorian calendar, counted in days from 1970-01-01. A date is its day
number; year, month, day, week and the rest are read off it. Conversions to a day number fail
for a date that does not exist and outside the supported years.
-/

namespace SearchMapper

/-- A calendar date, by the number of days from 1970-01-01. -/
structure Date where
  days : Int
deriving DecidableEq, Repr

/-- A date by year, month and day of the month. -/
structure CivilDate where
  year : Int
  month : Nat
  day : Nat
deriving DecidableEq, Repr

namespace CivilDate

/-- The year has 366 days. -/
def isLeap (year : Int) : Bool :=
  year % 4 == 0 && (year % 100 != 0 || year % 400 == 0)

/-- The number of days of a month. -/
def daysInMonth (year : Int) (month : Nat) : Nat :=
  match month with
  | 2 => if isLeap year then 29 else 28
  | 4 | 6 | 9 | 11 => 30
  | _ => 31

/-- The supported years. -/
def isSupportedYear (year : Int) : Bool :=
  -262143 ≤ year && year ≤ 262142

/-- The date exists and its year is supported. -/
def isValid (date : CivilDate) : Bool :=
  isSupportedYear date.year && 1 ≤ date.month && date.month ≤ 12 && 1 ≤ date.day &&
    date.day ≤ daysInMonth date.year date.month

/-- The day number. The year is counted from March, so that the leap day comes last, in
cycles of 400 years of 146097 days. -/
def dayNumber (date : CivilDate) : Int :=
  let y : Int := if date.month ≤ 2 then date.year - 1 else date.year
  let monthFromMarch : Int := ((date.month + 9) % 12 : Nat)
  let cycle := y / 400
  let yearOfCycle := y % 400
  let dayOfYear := (153 * monthFromMarch + 2) / 5 + date.day - 1
  let dayOfCycle := 365 * yearOfCycle + yearOfCycle / 4 - yearOfCycle / 100 + dayOfYear
  -- 719468 days lie between 0000-03-01 and 1970-01-01
  146097 * cycle + dayOfCycle - 719468

/-- The date of a day number. -/
def ofDayNumber (n : Int) : CivilDate :=
  let z := n + 719468
  let cycle := z / 146097
  let dayOfCycle := z % 146097
  -- without the leap days before it, every 365 days of the cycle are a year
  let yearOfCycle :=
    (dayOfCycle - dayOfCycle / 1460 + dayOfCycle / 36524 - dayOfCycle / 146096) / 365
  let dayOfYear := dayOfCycle - (365 * yearOfCycle + yearOfCycle / 4 - yearOfCycle / 100)
  -- five months from March on have 153 days
  let monthFromMarch := (5 * dayOfYear + 2) / 153
  let day := dayOfYear - (153 * monthFromMarch + 2) / 5 + 1
  let month := if monthFromMarch < 10 then monthFromMarch + 3 else monthFromMarch - 9
  let year := yearOfCycle + 400 * cycle + (if month ≤ 2 then 1 else 0)
  { year, month := month.toNat, day := day.toNat }

end CivilDate

namespace Date

/-- The date by year, month and day. -/
def civil (date : Date) : CivilDate := .ofDayNumber date.days

/-- The year. -/
def year (date : Date) : Int := date.civil.year

/-- The month, from 1. -/
def month (date : Date) : Nat := date.civil.month

/-- The day of the month, from 1. -/
def day (date : Date) : Nat := date.civil.day

/-- The quarter of the year, from 1. -/
def quarter (date : Date) : Nat := (date.month + 2) / 3

/-- The date by year, month and day, if there is one. -/
def ofCivil? (civil : CivilDate) : Option Date :=
  if civil.isValid then some ⟨civil.dayNumber⟩ else none

/-- The first day of a year. -/
def newYear (year : Int) : Date := ⟨CivilDate.dayNumber ⟨year, 1, 1⟩⟩

/-- The day of the year, from 1. -/
def ordinal (date : Date) : Int := date.days - (newYear date.year).days + 1

/-- The date by year and day of the year, if there is one. -/
def ofOrdinal? (year ordinal : Int) : Option Date :=
  let last := if CivilDate.isLeap year then 366 else 365
  if CivilDate.isSupportedYear year && 1 ≤ ordinal && ordinal ≤ last then
    some ⟨(newYear year).days + ordinal - 1⟩
  else none

/-- The day of the week, from 0 for Monday. -/
def weekday (date : Date) : Int := (date.days + 3) % 7

/-- How many days the weekday comes after another one. -/
def weekdayAfter (date : Date) (start : Int) : Int := (date.weekday - start) % 7

/-- The number of the week in its year, where weeks begin on the weekday `start` and the days
before the first one make up week 0. -/
def weekFrom (date : Date) (start : Int) : Int :=
  (date.ordinal - date.weekdayAfter start + 6) / 7

/-! ## ISO weeks -/

/-- The Thursday of the week, which decides the year that an ISO week belongs to. -/
def thursday (date : Date) : Date := ⟨date.days - date.weekday + 3⟩

/-- The year of the ISO week. -/
def isoYear (date : Date) : Int := date.thursday.year

/-- The number of the ISO week, from 1. -/
def isoWeek (date : Date) : Int := (date.thursday.ordinal + 6) / 7

/-- The date by ISO year, ISO week and weekday, if there is one. -/
def ofIsoWeek? (isoYear week weekday : Int) : Option Date :=
  let january4 : Date := ⟨(newYear isoYear).days + 3⟩
  let date : Date := ⟨january4.days - january4.weekday + 7 * (week - 1) + weekday⟩
  if date.isoYear == isoYear && date.isoWeek == week && CivilDate.isSupportedYear date.year then
    some date
  else none

end Date
end SearchMapper
