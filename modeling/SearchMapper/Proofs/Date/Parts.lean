import SearchMapper.Proofs.Date.Calendar
import SearchMapper.Proofs.Date.Padded
import SearchMapper.Proofs.Date.Readers

/-!
# Timestamps by their parts

Year, month, day, hour, minute and second of a timestamp, written as padded numbers and read back
one after another. What is read sets the fields of exactly these parts. When all six are known,
the fields describe the timestamp without the fraction of its second.
-/

namespace SearchMapper

/-- The parts of a timestamp down to its second. -/
inductive TimestampPart where
  | year
  | month
  | day
  | hour
  | minute
  | second
deriving DecidableEq, Repr

namespace Timestamp

/-- The timestamp without the fraction of its second. A leap second stays one. -/
def wholeSecond (t : Timestamp) : Timestamp :=
  { t with nanos := t.nanos / nanosPerSecond * nanosPerSecond }

/-- Nanoseconds beyond a second stand in the last second of a minute only, and for one second
more. -/
structure IsClock (t : Timestamp) : Prop where
  nanos_lt : t.nanos < 2 * nanosPerSecond
  leap : nanosPerSecond ≤ t.nanos → t.plainSecond = 59

/-- The timestamp has a year of four digits. -/
def HasFourDigitYear (t : Timestamp) : Prop := 0 ≤ t.date.year ∧ t.date.year ≤ 9999

/-- The seconds of the day by hour, minute and second. -/
theorem secondOfDay_eq (t : Timestamp) :
    3600 * t.hour + 60 * t.minute + t.plainSecond = t.secondOfDay := by
  unfold hour minute plainSecond
  omega

theorem secondOfDay_lt (t : Timestamp) : t.secondOfDay < 86400 := by
  unfold secondOfDay
  omega

theorem hour_lt (t : Timestamp) : t.hour < 24 := by
  have := t.secondOfDay_lt
  unfold hour
  omega

theorem minute_lt (t : Timestamp) : t.minute < 60 := Nat.mod_lt _ (by decide)

theorem IsClock.second_cases {t : Timestamp} (h : t.IsClock) :
    (t.second = t.plainSecond ∧ t.plainSecond < 60 ∧ t.nanos / nanosPerSecond = 0) ∨
      (t.second = 60 ∧ t.plainSecond = 59 ∧ t.nanos / nanosPerSecond = 1) := by
  have hplain : t.plainSecond < 60 := Nat.mod_lt _ (by decide)
  have hnanos := h.nanos_lt
  have hleap := h.leap
  unfold second
  unfold nanosPerSecond at *
  omega

theorem isSupportedYear_of_hasFourDigitYear {t : Timestamp} (h : t.HasFourDigitYear) :
    CivilDate.isSupportedYear t.date.year = true := by
  obtain ⟨hlow, hhigh⟩ := h
  unfold CivilDate.isSupportedYear
  rw [Bool.and_eq_true, decide_eq_true_eq, decide_eq_true_eq]
  omega

end Timestamp

namespace TimestampPart

/-! ## Writing a part -/

/-- The directive for a part. -/
def numeric : TimestampPart → NumericPart
  | year => .year
  | month => .month
  | day => .day
  | hour => .hour
  | minute => .minute
  | second => .second

/-- The number of digits of a part. -/
def width : TimestampPart → Nat
  | year => 4
  | _ => 2

/-- A part of a timestamp. -/
def valueAt (t : Timestamp) : TimestampPart → Nat
  | year => t.date.year.toNat
  | month => t.date.month
  | day => t.date.day
  | hour => t.hour
  | minute => t.minute
  | second => t.second

/-- The least value of a part. -/
def least : TimestampPart → Int
  | month => 1
  | day => 1
  | _ => 0

/-- The greatest value of a part, where a year has four digits. -/
def greatest : TimestampPart → Int
  | year => 9999
  | month => 12
  | day => 31
  | hour => 23
  | minute => 59
  | second => 60

theorem width_bounds (part : TimestampPart) : 0 < part.width ∧ part.width ≤ 9 := by
  cases part <;> decide

/-- The slot of a part has room for its greatest value. -/
theorem greatest_lt (part : TimestampPart) : part.greatest < (Nat.pow 10 part.width : Nat) := by
  cases part <;> decide

variable {t : Timestamp}

/-- The parts of a timestamp are in their ranges. -/
theorem valueAt_bounds (hyear : t.HasFourDigitYear) (hclock : t.IsClock) (part : TimestampPart) :
    part.least ≤ part.valueAt t ∧ part.valueAt t ≤ part.greatest := by
  obtain ⟨hmonth, hday⟩ :=
    Date.month_day_bounds (Timestamp.isSupportedYear_of_hasFourDigitYear hyear)
  cases part with
  | year =>
    obtain ⟨hlow, hhigh⟩ := hyear
    show 0 ≤ (t.date.year.toNat : Int) ∧ (t.date.year.toNat : Int) ≤ 9999
    omega
  | month =>
    show 1 ≤ (t.date.month : Int) ∧ (t.date.month : Int) ≤ 12
    omega
  | day =>
    show 1 ≤ (t.date.day : Int) ∧ (t.date.day : Int) ≤ 31
    omega
  | hour =>
    have := t.hour_lt
    show 0 ≤ (t.hour : Int) ∧ (t.hour : Int) ≤ 23
    omega
  | minute =>
    have := t.minute_lt
    show 0 ≤ (t.minute : Int) ∧ (t.minute : Int) ≤ 59
    omega
  | second =>
    have := hclock.second_cases
    show 0 ≤ (t.second : Int) ∧ (t.second : Int) ≤ 60
    omega

/-- A part has room in its slot. -/
theorem valueAt_lt (hyear : t.HasFourDigitYear) (hclock : t.IsClock) (part : TimestampPart) :
    part.valueAt t < Nat.pow 10 part.width := by
  have hbounds := valueAt_bounds hyear hclock part
  have hroom := part.greatest_lt
  omega

/-- A part is written as a number padded with zeros. -/
theorem print_numeric (hyear : t.HasFourDigitYear) (hclock : t.IsClock) (part : TimestampPart) :
    part.numeric.print .zero t = zeroPadded part.width (part.valueAt t) := by
  have hroom := valueAt_lt hyear hclock part
  cases part with
  | year => exact yearPlaces_zero hyear
  | _ => exact twoPlaces_zero hroom

/-! ## Setting a part -/

/-- Sets the fields of a part. -/
def set : TimestampPart → DateFields → Int → Except DateFault DateFields
  | year => DateFields.setYear
  | month => DateFields.setMonth
  | day => DateFields.setDay
  | hour => DateFields.setHour
  | minute => DateFields.setMinute
  | second => DateFields.setSecond

/-- A value that is known once its part is. -/
def whenKnown (parts : List TimestampPart) (part : TimestampPart) (value : Int) : Option Int :=
  if part ∈ parts then some value else none

end TimestampPart

open TimestampPart in
/-- What is known of a timestamp from some of its parts. -/
def Timestamp.fieldsOf (t : Timestamp) (parts : List TimestampPart) : DateFields where
  year := whenKnown parts .year t.date.year.toNat
  month := whenKnown parts .month t.date.month
  day := whenKnown parts .day t.date.day
  halfDay := whenKnown parts .hour (t.hour / 12)
  hourOfHalf := whenKnown parts .hour (t.hour % 12)
  minute := whenKnown parts .minute t.minute
  second := whenKnown parts .second t.second

/-- A field is set to a value in its range, unless it is known to be another one. -/
theorem settle_inRange_eq_ok {low high value : Int} (hrange : low ≤ value ∧ value ≤ high)
    {old : Option Int} (hold : settle old value = .ok (some value))
    (update : Option Int → DateFields) :
    (do return update (← settle old (← inRange low high value))) =
      (.ok (update (some value)) : Except DateFault DateFields) := by
  have hin : inRange low high value = .ok value := if_pos hrange
  rw [hin]
  show (do return update (← settle old value)) = Except.ok (update (some value))
  rw [hold]
  rfl

namespace TimestampPart

/-- A value that is known already is set again to itself. -/
theorem settle_whenKnown (parts : List TimestampPart) (part : TimestampPart) (value : Int) :
    settle (whenKnown parts part value) value = .ok (some value) := by
  unfold whenKnown
  split
  · exact if_pos rfl
  · rfl

theorem whenKnown_of_mem {parts : List TimestampPart} {part : TimestampPart} (h : part ∈ parts)
    (value : Int) : whenKnown parts part value = some value := if_pos h

@[simp] theorem whenKnown_cons_self (parts : List TimestampPart) (part : TimestampPart)
    (value : Int) : whenKnown (part :: parts) part value = some value :=
  whenKnown_of_mem List.mem_cons_self value

@[simp] theorem whenKnown_cons_of_ne {part other : TimestampPart} (h : part ≠ other)
    (parts : List TimestampPart) (value : Int) :
    whenKnown (other :: parts) part value = whenKnown parts part value := by
  have hmem : part ∈ other :: parts ↔ part ∈ parts := by rw [List.mem_cons, or_iff_right h]
  unfold whenKnown
  simp only [hmem]

variable {t : Timestamp}

/-- Setting a part makes it known. -/
theorem set_fieldsOf (hyear : t.HasFourDigitYear) (hclock : t.IsClock)
    (parts : List TimestampPart) (part : TimestampPart) :
    part.set (t.fieldsOf parts) (part.valueAt t) = .ok (t.fieldsOf (part :: parts)) := by
  have hbounds := valueAt_bounds hyear hclock part
  cases part with
  | year =>
    -- years beyond four digits are in the range too
    have hrange : -maxInt32 - 1 ≤ (t.date.year.toNat : Int) ∧
        (t.date.year.toNat : Int) ≤ maxInt32 :=
      ⟨Int.le_trans (by decide) hbounds.1, Int.le_trans hbounds.2 (by decide)⟩
    refine (settle_inRange_eq_ok hrange (settle_whenKnown parts .year _) _).trans ?_
    simp [Timestamp.fieldsOf]
  | hour =>
    -- the hour sets two fields
    have hrange : inRange 0 23 (t.hour : Int) = .ok (t.hour : Int) := if_pos hbounds
    show (t.fieldsOf parts).setHour t.hour = _
    unfold DateFields.setHour
    rw [hrange]
    show (do
      let halfDay ← settle (whenKnown parts .hour (t.hour / 12)) (t.hour / 12)
      let hourOfHalf ← settle (whenKnown parts .hour (t.hour % 12)) (t.hour % 12)
      return { t.fieldsOf parts with halfDay, hourOfHalf }) = Except.ok _
    rw [settle_whenKnown, settle_whenKnown]
    show Except.ok _ = Except.ok _
    simp [Timestamp.fieldsOf]
  | _ =>
    refine (settle_inRange_eq_ok hbounds (settle_whenKnown parts _ _) _).trans ?_
    simp [Timestamp.fieldsOf, valueAt]

/-! ## Reading a part -/

/-- A part of a timestamp, as it is written, is read by its directive. -/
theorem read_numeric (hyear : t.HasFourDigitYear) (hclock : t.IsClock)
    (parts : List TimestampPart) (part : TimestampPart) (rest : List Char) :
    part.numeric.read (t.fieldsOf parts) (zeroPadded part.width (part.valueAt t) ++ rest) =
      .ok (t.fieldsOf (part :: parts), rest) := by
  have hroom := valueAt_lt hyear hclock part
  have hset := set_fieldsOf hyear hclock parts part
  have hblanks := skipBlanks_zeroPadded part.width_bounds.1 hroom rest
  have hnumber := Scan.number_zeroPadded part.width_bounds part.width_bounds.1 hroom rest
  -- year and numbers are scanned in two ways, and set in the same one
  have hread : ∀ scan : List Char → Scan.Result Int,
      scan (zeroPadded part.width (part.valueAt t) ++ rest) = .ok ((part.valueAt t : Int), rest) →
        setTo (fun chars => scan (Text.skipBlanks chars)) part.set (t.fieldsOf parts)
          (zeroPadded part.width (part.valueAt t) ++ rest) =
            .ok (t.fieldsOf (part :: parts), rest) := by
    intro scan hscan
    rw [← hblanks] at hscan
    exact setTo_eq_ok_iff.mpr ⟨_, hscan, hset⟩
  cases part with
  | year => exact hread (Scan.signedNumber 4) (Scan.signedNumber_zeroPadded (by decide) hroom rest)
  | _ => exact hread (Scan.number 1 (some 2)) hnumber

/-- It is also read by its exact number of digits. -/
theorem readDigits_eq_ok (hyear : t.HasFourDigitYear) (hclock : t.IsClock)
    (parts : List TimestampPart) (part : TimestampPart) (rest : List Char) :
    Timestamp.readDigits part.width part.set (t.fieldsOf parts)
        (zeroPadded part.width (part.valueAt t) ++ rest) =
      .ok (t.fieldsOf (part :: parts), rest) :=
  setTo_eq_ok_iff.mpr ⟨_, Scan.number_zeroPadded part.width_bounds (Nat.le_refl _)
    (valueAt_lt hyear hclock part) rest, set_fieldsOf hyear hclock parts part⟩

end TimestampPart
end SearchMapper
