import SearchMapper.Date.Timestamp

/-!
# Fields of a date text

What the numbers and names of a text say about a date and time, before they are put together.
Each field is in its range when it is set, and a field that is set twice must agree. The
resolving functions find the date, the time or the timestamp that all fields agree with.
-/

namespace SearchMapper

/-- Why a text is no date. -/
inductive DateFault where
  | outOfRange
  | impossible
  | notEnough
  | invalid
  | tooShort
  | tooLong
  | badPattern
deriving DecidableEq, Repr

/-- The text of a fault. -/
def DateFault.message : DateFault → String
  | outOfRange => "input is out of range"
  | impossible => "no possible date and time matching input"
  | notEnough => "input is not enough for unique date and time"
  | invalid => "input contains invalid characters"
  | tooShort => "premature end of input"
  | tooLong => "trailing input"
  | badPattern => "bad or unsupported format string"

/-- What is known of a date and time. -/
structure DateFields where
  year : Option Int := none
  century : Option Int := none
  yearOfCentury : Option Int := none
  isoYear : Option Int := none
  isoYearOfCentury : Option Int := none
  quarter : Option Int := none
  month : Option Int := none
  day : Option Int := none
  weekFromSunday : Option Int := none
  weekFromMonday : Option Int := none
  isoWeek : Option Int := none
  /-- From 0 for Monday. -/
  weekday : Option Int := none
  ordinal : Option Int := none
  /-- 0 before noon and 1 after. -/
  halfDay : Option Int := none
  hourOfHalf : Option Int := none
  minute : Option Int := none
  second : Option Int := none
  nanosecond : Option Int := none
  /-- Seconds from 1970 on, in UTC. -/
  epoch : Option Int := none
  /-- Seconds east of UTC. -/
  offset : Option Int := none
deriving DecidableEq, Repr

/-- A field after it is set, from what it was before. -/
def settle (old : Option Int) (value : Int) : Except DateFault (Option Int) :=
  match old with
  | none => .ok (some value)
  | some known => if known = value then .ok (some value) else .error .impossible

/-- The value if it lies in a range, both ends included. -/
def inRange (low high value : Int) : Except DateFault Int :=
  if low ≤ value ∧ value ≤ high then .ok value else .error .outOfRange

/-- The largest value of a signed integer of 32 bits. -/
def maxInt32 : Int := 2147483647

namespace DateFields

/-! ## Setting fields -/

/-- Sets the year. -/
def setYear (fields : DateFields) (value : Int) : Except DateFault DateFields := do
  return { fields with year := ← settle fields.year (← inRange (-maxInt32 - 1) maxInt32 value) }

/-- Sets the century. -/
def setCentury (fields : DateFields) (value : Int) : Except DateFault DateFields := do
  return { fields with century := ← settle fields.century (← inRange 0 maxInt32 value) }

/-- Sets the last two digits of the year. -/
def setYearOfCentury (fields : DateFields) (value : Int) : Except DateFault DateFields := do
  return { fields with yearOfCentury := ← settle fields.yearOfCentury (← inRange 0 99 value) }

/-- Sets the year of the ISO week. -/
def setIsoYear (fields : DateFields) (value : Int) : Except DateFault DateFields := do
  return { fields with
    isoYear := ← settle fields.isoYear (← inRange (-maxInt32 - 1) maxInt32 value) }

/-- Sets the last two digits of the year of the ISO week. -/
def setIsoYearOfCentury (fields : DateFields) (value : Int) : Except DateFault DateFields := do
  return { fields with
    isoYearOfCentury := ← settle fields.isoYearOfCentury (← inRange 0 99 value) }

/-- Sets the quarter. -/
def setQuarter (fields : DateFields) (value : Int) : Except DateFault DateFields := do
  return { fields with quarter := ← settle fields.quarter (← inRange 1 4 value) }

/-- Sets the month. -/
def setMonth (fields : DateFields) (value : Int) : Except DateFault DateFields := do
  return { fields with month := ← settle fields.month (← inRange 1 12 value) }

/-- Sets the day of the month. -/
def setDay (fields : DateFields) (value : Int) : Except DateFault DateFields := do
  return { fields with day := ← settle fields.day (← inRange 1 31 value) }

/-- Sets the week of the year, counted from Sundays. -/
def setWeekFromSunday (fields : DateFields) (value : Int) : Except DateFault DateFields := do
  return { fields with weekFromSunday := ← settle fields.weekFromSunday (← inRange 0 53 value) }

/-- Sets the week of the year, counted from Mondays. -/
def setWeekFromMonday (fields : DateFields) (value : Int) : Except DateFault DateFields := do
  return { fields with weekFromMonday := ← settle fields.weekFromMonday (← inRange 0 53 value) }

/-- Sets the ISO week. -/
def setIsoWeek (fields : DateFields) (value : Int) : Except DateFault DateFields := do
  return { fields with isoWeek := ← settle fields.isoWeek (← inRange 1 53 value) }

/-- Sets the weekday, from 0 for Monday. -/
def setWeekday (fields : DateFields) (value : Int) : Except DateFault DateFields := do
  return { fields with weekday := ← settle fields.weekday value }

/-- Sets the weekday by its number from 0 for Sunday. -/
def setWeekdayFromSunday (fields : DateFields) (value : Int) : Except DateFault DateFields := do
  fields.setWeekday (((← inRange 0 6 value) + 6) % 7)

/-- Sets the weekday by its number from 1 for Monday. -/
def setWeekdayFromMonday (fields : DateFields) (value : Int) : Except DateFault DateFields := do
  fields.setWeekday ((← inRange 1 7 value) - 1)

/-- Sets the day of the year. -/
def setOrdinal (fields : DateFields) (value : Int) : Except DateFault DateFields := do
  return { fields with ordinal := ← settle fields.ordinal (← inRange 1 366 value) }

/-- Sets the half of the day. -/
def setHalfDay (fields : DateFields) (value : Int) : Except DateFault DateFields := do
  return { fields with halfDay := ← settle fields.halfDay value }

/-- Sets the hour on a clock of twelve hours. -/
def setHour12 (fields : DateFields) (value : Int) : Except DateFault DateFields := do
  return { fields with
    hourOfHalf := ← settle fields.hourOfHalf ((← inRange 1 12 value) % 12) }

/-- Sets the hour of the day. -/
def setHour (fields : DateFields) (value : Int) : Except DateFault DateFields := do
  let hour ← inRange 0 23 value
  let halfDay ← settle fields.halfDay (hour / 12)
  return { fields with halfDay, hourOfHalf := ← settle fields.hourOfHalf (hour % 12) }

/-- Sets the minute. -/
def setMinute (fields : DateFields) (value : Int) : Except DateFault DateFields := do
  return { fields with minute := ← settle fields.minute (← inRange 0 59 value) }

/-- Sets the second; 60 stands for a leap second. -/
def setSecond (fields : DateFields) (value : Int) : Except DateFault DateFields := do
  return { fields with second := ← settle fields.second (← inRange 0 60 value) }

/-- Sets the nanoseconds. -/
def setNanosecond (fields : DateFields) (value : Int) : Except DateFault DateFields := do
  return { fields with nanosecond := ← settle fields.nanosecond (← inRange 0 999999999 value) }

/-- Sets the seconds from 1970 on. -/
def setEpoch (fields : DateFields) (value : Int) : Except DateFault DateFields := do
  return { fields with epoch := ← settle fields.epoch value }

/-- Sets the offset from UTC. -/
def setOffset (fields : DateFields) (value : Int) : Except DateFault DateFields := do
  return { fields with offset := ← settle fields.offset value }

/-! ## The date -/

/-- A year from the full year, the century and the year of the century, as far as they are
known. Two digits alone stand for 1970 to 2069. -/
def resolveYear (year century yearOfCentury : Option Int) : Except DateFault (Option Int) :=
  match year, century, yearOfCentury with
  | year, none, none => .ok year
  | some y, century, rest =>
    if 0 ≤ y && century.getD (y / 100) == y / 100 && rest.getD (y % 100) == y % 100 then
      .ok (some y)
    else .error .impossible
  | none, some c, some r =>
    if 100 * c + r ≤ maxInt32 then .ok (some (100 * c + r)) else .error .outOfRange
  | none, none, some r => .ok (some (if r < 70 then 2000 + r else 1900 + r))
  | none, some _, none => .error .notEnough

/-- A known field has the value. -/
def agrees (known : Option Int) (value : Int) : Bool := known.all (· == value)

/-- A known part of a year agrees with it; no part agrees with a negative year. -/
def agreesWithYear (known : Option Int) (year part : Int) : Bool :=
  known.all fun k => 0 ≤ year && k == part

/-- Year, month and day agree with a date. -/
def agreesCivil (fields : DateFields) (date : Date) : Bool :=
  agrees fields.year date.year && agreesWithYear fields.century date.year (date.year / 100) &&
    agreesWithYear fields.yearOfCentury date.year (date.year % 100) &&
    agrees fields.month date.month && agrees fields.day date.day

/-- ISO year, ISO week and weekday agree with a date. -/
def agreesIsoWeek (fields : DateFields) (date : Date) : Bool :=
  agrees fields.isoYear date.isoYear &&
    agreesWithYear fields.isoYearOfCentury date.isoYear (date.isoYear % 100) &&
    agrees fields.isoWeek date.isoWeek && agrees fields.weekday date.weekday

/-- The day and the weeks of the year agree with a date. -/
def agreesOrdinal (fields : DateFields) (date : Date) : Bool :=
  agrees fields.ordinal date.ordinal && agrees fields.weekFromSunday (date.weekFrom 6) &&
    agrees fields.weekFromMonday (date.weekFrom 0)

/-- The date of a weekday in a week of a year, where weeks begin on the weekday `start`. -/
def dateOfWeek (year week weekday start : Int) : Except DateFault Date :=
  match Date.ofOrdinal? year 1 with
  | none => .error .outOfRange
  | some first =>
    let weekOneStart := 1 + (start - first.weekday) % 7
    let ordinal := weekOneStart + (week - 1) * 7 + (weekday - start) % 7
    match Date.ofOrdinal? year ordinal with
    | some date => .ok date
    | none => .error .impossible

/-- A date, or the fault that it is out of range. -/
def present (date : Option Date) : Except DateFault Date :=
  match date with
  | some d => .ok d
  | none => .error .outOfRange

/-- The date that the fields describe, found from the first sufficient set of them and
compared with the others. -/
def date (fields : DateFields) : Except DateFault Date := do
  let year ← resolveYear fields.year fields.century fields.yearOfCentury
  let isoYear ← resolveYear fields.isoYear none fields.isoYearOfCentury
  let ordinalAnd (date : Date) : Bool := fields.agreesIsoWeek date && fields.agreesOrdinal date
  let (agreed, date) ←
    match year, fields.month, fields.day with
    -- year, month and day
    | some y, some m, some d => do
      let date ← present (Date.ofCivil? ⟨y, m.toNat, d.toNat⟩)
      pure (ordinalAnd date, date)
    | _, _, _ =>
      -- year and day of the year
      match year, fields.ordinal with
      | some y, some n => do
        let date ← present (Date.ofOrdinal? y n)
        pure (fields.agreesCivil date && ordinalAnd date, date)
      | _, _ =>
        -- year, week of the year and weekday
        match year, fields.weekFromSunday, fields.weekFromMonday, fields.weekday with
        | some y, some w, _, some d => do
          let date ← dateOfWeek y w d 6
          pure (fields.agreesCivil date && ordinalAnd date, date)
        | some y, none, some w, some d => do
          let date ← dateOfWeek y w d 0
          pure (fields.agreesCivil date && ordinalAnd date, date)
        | _, _, _, _ =>
          -- ISO year, ISO week and weekday
          match isoYear, fields.isoWeek, fields.weekday with
          | some y, some w, some d => do
            let date ← present (Date.ofIsoWeek? y w d)
            pure (fields.agreesCivil date && fields.agreesOrdinal date, date)
          | _, _, _ => throw .notEnough
  if agreed && agrees fields.quarter date.quarter then return date else throw .impossible

/-! ## The time and the timestamp -/

/-- A field that has to be known. -/
def known (field : Option Int) : Except DateFault Nat :=
  match field with
  | some value => .ok value.toNat
  | none => .error .notEnough

/-- The time of day that the fields describe. Hour and minute have to be known; a fraction
needs a second. -/
def time (fields : DateFields) : Except DateFault TimeOfDay := do
  let half ← known fields.halfDay
  let hour ← known fields.hourOfHalf
  let minute ← known fields.minute
  if fields.nanosecond.isSome && fields.second.isNone then throw .notEnough
  let nanos := (fields.nanosecond.getD 0).toNat
  let second := (fields.second.getD 0).toNat
  return {
    hour := 12 * half + hour
    minute
    second := if second = 60 then 59 else second
    nanos := if second = 60 then nanosPerSecond + nanos else nanos }

/-- The faults of a date or a time that no timestamp in seconds can make up for. -/
def worst (date : Except DateFault Date) (time : Except DateFault TimeOfDay) :
    Except DateFault Unit :=
  match date, time with
  | .error .outOfRange, _ | _, .error .outOfRange => .error .outOfRange
  | .error .impossible, _ | _, .error .impossible => .error .impossible
  | _, _ => .ok ()

/-- The local time for an offset, from the seconds since 1970 and whatever other fields there
are, which have to agree with it. -/
def timestampOfEpoch (fields : DateFields) (epoch offset : Int) : Except DateFault Timestamp := do
  let local0 : Timestamp := { seconds := epoch + offset, nanos := 0 }
  if !local0.isSupported then throw .outOfRange
  -- a second of 60 goes with the last second of a minute or the first one of the next
  let localTime : Timestamp ←
    if fields.second = some 60 then
      if local0.plainSecond = 59 then pure local0
      else if local0.plainSecond = 0 then pure { local0 with seconds := local0.seconds - 1 }
      else throw .impossible
    else pure local0
  let fields ←
    if fields.second = some 60 then pure fields else fields.setSecond local0.plainSecond
  let fields ← fields.setYear localTime.date.year
  let fields ← fields.setOrdinal localTime.date.ordinal
  let fields ← fields.setHour localTime.hour
  let fields ← fields.setMinute localTime.minute
  return .ofDateTime (← fields.date) (← fields.time)

/-- The local time that the fields describe, for an offset from UTC. -/
def timestamp (fields : DateFields) (offset : Int) : Except DateFault Timestamp := do
  match fields.date, fields.time with
  | .ok date, .ok time =>
    let t := Timestamp.ofDateTime date time
    match fields.epoch with
    | some epoch =>
      let utc := t.seconds - offset
      if epoch = utc ∨ (nanosPerSecond ≤ t.nanos ∧ epoch = utc + 1) then return t
      else throw .impossible
    | none => return t
  | date, time =>
    match fields.epoch with
    | some epoch =>
      worst date time
      fields.timestampOfEpoch epoch offset
    | none =>
      let _ ← date
      let _ ← time
      throw .notEnough

/-- The instant that the fields describe. The offset has to be known, except that seconds
since 1970 need none. -/
def instant (fields : DateFields) : Except DateFault Timestamp := do
  let offset ←
    match fields.offset, fields.epoch with
    | some offset, _ => pure offset
    | none, some _ => pure 0
    | none, none => throw .notEnough
  let t ← fields.timestamp offset
  if offset ≤ -86400 ∨ 86400 ≤ offset then throw .outOfRange
  match t.toUtc? offset with
  | some utc => return utc
  | none => throw .impossible

end DateFields
end SearchMapper
