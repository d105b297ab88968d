import SearchMapper.Date.Digits
import SearchMapper.Date.Timestamp

/-!
# RFC 3339 text of a timestamp

The form in which instants are exchanged. The fraction has 0, 3, 6 or 9 digits, the fewest that
are exact; years outside 0 to 9999 carry a sign.
-/

namespace SearchMapper

/-- The fraction of a second, with its point; nothing for a whole second. -/
def fractionText (nanos : Nat) : List Char :=
  if nanos = 0 then []
  else if nanos % 1000000 = 0 then '.' :: zeroPadded 3 (nanos / 1000000)
  else if nanos % 1000 = 0 then '.' :: zeroPadded 6 (nanos / 1000)
  else '.' :: zeroPadded 9 nanos

/-- A year of four digits, or with a sign and at least four digits. -/
def yearText (year : Int) : List Char :=
  if 0 ≤ year && year ≤ 9999 then zeroPadded 4 year.toNat else signedZeroPadded 5 true year

namespace Timestamp

/-- The date, with dashes. -/
def dateText (t : Timestamp) : List Char :=
  yearText t.date.year ++ '-' :: zeroPadded 2 t.date.month ++ '-' :: zeroPadded 2 t.date.day

/-- The time of day, with colons. -/
def timeText (t : Timestamp) : List Char :=
  zeroPadded 2 t.hour ++ ':' :: zeroPadded 2 t.minute ++ ':' :: zeroPadded 2 t.second ++
    fractionText t.fraction

/-- The RFC 3339 text of an instant in UTC, with `zone` as the spelling of the offset. -/
def rfc3339Chars (t : Timestamp) (zone : List Char) : List Char :=
  t.dateText ++ 'T' :: t.timeText ++ zone

/-- The RFC 3339 text of an instant, with a numeric offset. -/
def toRfc3339 (t : Timestamp) : String :=
  String.ofList (t.rfc3339Chars "+00:00".toList)

/-- The RFC 3339 text of an instant, with the letter for UTC. -/
def toRfc3339Z (t : Timestamp) : String :=
  String.ofList (t.rfc3339Chars ['Z'])

end Timestamp
end SearchMapper
