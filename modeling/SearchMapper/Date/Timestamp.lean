import SearchMapper.Date.Calendar

/-!
# Timestamps

A date with a time of day, as seconds and nanoseconds. A leap second is the second before it
with a whole second more of nanoseconds, so it reads 60.
-/

namespace SearchMapper

/-- A date and time. As an instant the seconds are counted in UTC. -/
structure Timestamp where
  /-- Seconds from 1970-01-01T00:00:00, leap seconds not counted. -/
  seconds : Int
  /-- Nanoseconds of the second; from one thousand million on in a leap second. -/
  nanos : Nat
deriving DecidableEq, Repr

/-- A time of day. -/
structure TimeOfDay where
  hour : Nat
  minute : Nat
  second : Nat
  nanos : Nat
deriving DecidableEq, Repr

/-- Nanoseconds of a second. -/
def nanosPerSecond : Nat := 1000000000

namespace Timestamp

/-- The date. -/
def date (t : Timestamp) : Date := ⟨t.seconds / 86400⟩

/-- The second of the day. -/
def secondOfDay (t : Timestamp) : Nat := (t.seconds % 86400).toNat

/-- The hour of the day. -/
def hour (t : Timestamp) : Nat := t.secondOfDay / 3600

/-- The minute of the hour. -/
def minute (t : Timestamp) : Nat := t.secondOfDay / 60 % 60

/-- The second of the minute, without regard to leap seconds. -/
def plainSecond (t : Timestamp) : Nat := t.secondOfDay % 60

/-- The second of the minute; 60 in a leap second. -/
def second (t : Timestamp) : Nat := t.plainSecond + t.nanos / nanosPerSecond

/-- The nanoseconds of the second. -/
def fraction (t : Timestamp) : Nat := t.nanos % nanosPerSecond

/-- The timestamp of a date and a time of day. -/
def ofDateTime (date : Date) (time : TimeOfDay) : Timestamp :=
  { seconds := 86400 * date.days + (3600 * time.hour + 60 * time.minute + time.second : Nat)
    nanos := time.nanos }

/-- The start of a date. -/
def midnight (date : Date) : Timestamp := { seconds := 86400 * date.days, nanos := 0 }

/-- The year is supported. -/
def isSupported (t : Timestamp) : Bool := CivilDate.isSupportedYear t.date.year

/-- A local time in UTC, for an offset from UTC in seconds, if the year is supported. -/
def toUtc? (t : Timestamp) (offset : Int) : Option Timestamp :=
  let utc : Timestamp := { t with seconds := t.seconds - offset }
  if utc.isSupported then some utc else none

end Timestamp
end SearchMapper
