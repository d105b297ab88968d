/-!
# Names of months and weekdays

English names and their short forms, which are their first three letters.
-/

namespace SearchMapper

/-- The months, from January. -/
def monthNames : List String :=
  ["January", "February", "March", "April", "May", "June", "July", "August", "September",
    "October", "November", "December"]

/-- The weekdays, from Monday. -/
def weekdayNames : List String :=
  ["Monday", "Tuesday", "Wednesday", "Thursday", "Friday", "Saturday", "Sunday"]

/-- The length of a short name. -/
def shortNameLength : Nat := 3

/-- The name at a place of a list of names. -/
def nameAt (names : List String) (index : Nat) : List Char :=
  ((names[index]?).getD "").toList

/-- The short name at a place of a list of names. -/
def shortNameAt (names : List String) (index : Nat) : List Char :=
  (nameAt names index).take shortNameLength

end SearchMapper
