import SearchMapper.Proofs.Date.Parts

/-!
# Timestamps from their fields

All six parts of a timestamp describe it, without the fraction of its second; with an offset of
zero they describe it as an instant.
-/

namespace SearchMapper

open TimestampPart

/-- All parts of a timestamp down to its second, and an offset if there is one. -/
def Timestamp.allFields (t : Timestamp) (offset : Option Int) : DateFields where
  year := some t.date.year.toNat
  month := some t.date.month
  day := some t.date.day
  halfDay := some (t.hour / 12)
  hourOfHalf := some (t.hour % 12)
  minute := some t.minute
  second := some t.second
  offset

variable {t : Timestamp} {offset : Option Int}

/-- All parts are known. -/
theorem fieldsOf_of_forall_mem {parts : List TimestampPart} (h : ∀ part, part ∈ parts) :
    t.fieldsOf parts = t.allFields none := by
  unfold Timestamp.fieldsOf
  simp only [whenKnown_of_mem (h _)]
  rfl

/-- The date is found by year, month and day. -/
theorem date_allFields (hyear : t.HasFourDigitYear) :
    (t.allFields offset).date = .ok t.date := by
  have hnatural : ((t.date.year.toNat : Nat) : Int) = t.date.year := Int.toNat_of_nonneg hyear.1
  have hcivil : Date.ofCivil? ⟨(t.date.year.toNat : Int), (t.date.month : Int).toNat,
      (t.date.day : Int).toNat⟩ = some t.date := by
    rw [hnatural]
    exact Date.ofCivil?_civil (Timestamp.isSupportedYear_of_hasFourDigitYear hyear)
  -- year, month and day are enough, and no other field is known that could disagree
  show (do
    let date ← DateFields.present (Date.ofCivil? ⟨(t.date.year.toNat : Int),
      (t.date.month : Int).toNat, (t.date.day : Int).toNat⟩)
    if true && true then return date else throw .impossible) = Except.ok t.date
  rw [hcivil]
  rfl

/-- The time is found by hour, minute and second, where 60 stands for a leap second. -/
theorem time_allFields (hclock : t.IsClock) :
    (t.allFields offset).time =
      .ok ⟨t.hour, t.minute, t.plainSecond, t.wholeSecond.nanos⟩ := by
  have hhour : 12 * (t.hour / 12) + t.hour % 12 = t.hour := Nat.div_add_mod _ _
  have hsecond : (if t.second = 60 then 59 else t.second) = t.plainSecond := by
    rcases hclock.second_cases with ⟨hsecond, hplain, -⟩ | ⟨hsecond, hplain, -⟩
    · rw [if_neg (by omega), hsecond]
    · rw [if_pos hsecond, hplain]
  have hnanos : (if t.second = 60 then nanosPerSecond + 0 else 0) = t.wholeSecond.nanos := by
    unfold Timestamp.wholeSecond
    rcases hclock.second_cases with ⟨hsecond, hplain, hquotient⟩ | ⟨hsecond, -, hquotient⟩
    · rw [if_neg (by omega), hquotient]
      rfl
    · rw [if_pos hsecond, hquotient]
      rfl
  show Except.ok (⟨12 * (t.hour / 12) + t.hour % 12, t.minute,
    if t.second = 60 then 59 else t.second,
    if t.second = 60 then nanosPerSecond + 0 else 0⟩ : TimeOfDay) = _
  rw [hhour, hsecond, hnanos]

/-- Date and time make the timestamp up. -/
theorem ofDateTime_date (t : Timestamp) (nanos : Nat) :
    Timestamp.ofDateTime t.date ⟨t.hour, t.minute, t.plainSecond, nanos⟩ =
      { t with nanos } := by
  have htime := t.secondOfDay_eq
  have hday : (t.secondOfDay : Int) = t.seconds % 86400 := by
    unfold Timestamp.secondOfDay
    omega
  have hseconds : 86400 * (t.seconds / 86400) +
      ((3600 * t.hour + 60 * t.minute + t.plainSecond : Nat) : Int) = t.seconds := by
    rw [htime, hday]
    exact Int.mul_ediv_add_emod _ _
  unfold Timestamp.ofDateTime Timestamp.date
  simp only [hseconds]

/-- All fields describe the timestamp without the fraction of its second. -/
theorem timestamp_allFields (hyear : t.HasFourDigitYear) (hclock : t.IsClock) (zone : Int) :
    (t.allFields offset).timestamp zone = .ok t.wholeSecond := by
  unfold DateFields.timestamp
  rw [date_allFields hyear, time_allFields hclock]
  show Except.ok (Timestamp.ofDateTime t.date ⟨t.hour, t.minute, t.plainSecond,
    t.wholeSecond.nanos⟩) = _
  rw [ofDateTime_date]
  rfl

/-- With the offset of UTC they describe it as an instant. -/
theorem instant_allFields_zero (hyear : t.HasFourDigitYear) (hclock : t.IsClock) :
    (t.allFields (some 0)).instant = .ok t.wholeSecond := by
  have hutc : t.wholeSecond.toUtc? 0 = some t.wholeSecond := by
    have hseconds : t.wholeSecond.seconds - 0 = t.wholeSecond.seconds := by omega
    have hsupported : t.wholeSecond.isSupported = true :=
      Timestamp.isSupportedYear_of_hasFourDigitYear hyear
    unfold Timestamp.toUtc?
    simp only [hseconds, hsupported, if_pos]
  have hoffset : (t.allFields (some 0)).offset = some 0 := rfl
  have hepoch : (t.allFields (some 0)).epoch = none := rfl
  have htimestamp : (t.allFields (some 0)).timestamp 0 = .ok t.wholeSecond :=
    timestamp_allFields hyear hclock 0
  unfold DateFields.instant
  rw [hoffset, hepoch]
  refine Except.bind_eq_ok_iff.mpr ⟨0, rfl, ?_⟩
  refine Except.bind_eq_ok_iff.mpr ⟨t.wholeSecond, htimestamp, ?_⟩
  simp only [hutc]
  rfl

/-- Without an offset they describe no instant. -/
theorem instant_allFields_none : (t.allFields none).instant = .error .notEnough := rfl

end SearchMapper
