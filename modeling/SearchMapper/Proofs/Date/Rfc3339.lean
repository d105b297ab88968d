import SearchMapper.Proofs.Date.Resolved

/-!
# RFC 3339 text read back

Every instant read from RFC 3339 text has its leap seconds in the last second of a minute, since
offsets are whole minutes there. The text of an instant in whole seconds reads back as that
instant, if its year has four digits.
-/

namespace SearchMapper

/-! ## What is read is a clock reading -/

/-- Fields without seconds since 1970, whose offset is in whole minutes, and whose fraction is
below a second. -/
structure DateFields.IsCivil (fields : DateFields) : Prop where
  epoch : fields.epoch = none
  offset : ∀ value, fields.offset = some value → value % 60 = 0
  nanosecond : ∀ value, fields.nanosecond = some value → value ≤ 999999999

namespace Timestamp

variable {fields fields' : DateFields}

theorem isCivil_of_set (part : TimestampPart) {value : Int}
    (h : part.set fields value = .ok fields') (hcivil : fields.IsCivil) : fields'.IsCivil := by
  cases part with
  | hour =>
    obtain ⟨hour, -, h⟩ := Except.bind_eq_ok_iff.mp h
    obtain ⟨halfDay, -, h⟩ := Except.bind_eq_ok_iff.mp h
    obtain ⟨hourOfHalf, -, h⟩ := Except.bind_eq_ok_iff.mp h
    cases h
    exact ⟨hcivil.epoch, hcivil.offset, hcivil.nanosecond⟩
  | _ =>
    obtain ⟨value', -, h⟩ := Except.bind_eq_ok_iff.mp h
    obtain ⟨settled, -, h⟩ := Except.bind_eq_ok_iff.mp h
    cases h
    exact ⟨hcivil.epoch, hcivil.offset, hcivil.nanosecond⟩

theorem isCivil_of_setNanosecond {value : Int} (h : fields.setNanosecond value = .ok fields')
    (hcivil : fields.IsCivil) : fields'.IsCivil := by
  obtain ⟨value', hrange, h⟩ := Except.bind_eq_ok_iff.mp h
  obtain ⟨settled, hsettle, h⟩ := Except.bind_eq_ok_iff.mp h
  cases h
  obtain ⟨hbounds, rfl⟩ := inRange_eq_ok_iff.mp hrange
  refine ⟨hcivil.epoch, hcivil.offset, fun known hknown => ?_⟩
  have heq : some known = some value' := hknown.symm.trans (eq_some_of_settle hsettle)
  cases heq
  exact hbounds.2

/-- An offset is a sign, hours and minutes. -/
theorem mod_of_signedOffset {style : Scan.OffsetStyle} {chars rest : List Char} {value : Int}
    (h : Scan.signedOffset style chars = .ok (value, rest)) : value % 60 = 0 := by
  obtain ⟨⟨sign, afterSign⟩, -, h⟩ := Except.bind_eq_ok_iff.mp h
  obtain ⟨⟨digits, afterHours⟩, -, h⟩ := Except.bind_eq_ok_iff.mp h
  cases digits with
  | none => cases h
  | some digits =>
    obtain ⟨a, b⟩ := digits
    obtain ⟨afterColon, -, h⟩ := Except.bind_eq_ok_iff.mp h
    obtain ⟨⟨minutes, afterMinutes⟩, -, h⟩ := Except.bind_eq_ok_iff.mp h
    cases h
    have hminutes : (10 * a + b) * 3600 + minutes * 60 =
        60 * ((10 * a + b) * 60 + minutes) := by omega
    rw [hminutes, Int.natCast_mul, Int.mul_left_comm]
    exact Int.mul_emod_right _ _

theorem mod_of_offset {style : Scan.OffsetStyle} {chars rest : List Char} {value : Int}
    (h : Scan.offset style chars = .ok (value, rest)) : value % 60 = 0 := by
  unfold Scan.offset at h
  split at h
  · split at h
    · cases h
      rfl
    · cases h
  · split at h
    · cases h
      rfl
    · cases h
  · exact mod_of_signedOffset h

theorem isCivil_of_setDayOffset {value : Int} (hvalue : value % 60 = 0)
    (h : setDayOffset fields value = .ok fields') (hcivil : fields.IsCivil) :
    fields'.IsCivil := by
  obtain ⟨value', hrange, h⟩ := Except.bind_eq_ok_iff.mp h
  obtain ⟨settled, hsettle, h⟩ := Except.bind_eq_ok_iff.mp h
  cases h
  obtain ⟨-, rfl⟩ := inRange_eq_ok_iff.mp hrange
  refine ⟨hcivil.epoch, fun known hknown => ?_, hcivil.nanosecond⟩
  have heq : some known = some value' := hknown.symm.trans (eq_some_of_settle hsettle)
  cases heq
  exact hvalue

theorem preserves_readDigits (part : TimestampPart) :
    (readDigits part.width part.set).Preserves DateFields.IsCivil :=
  preserves_setTo fun _ _ _ _ _ _ hset => isCivil_of_set part hset

theorem preserves_readRfc3339 : FieldReader.Preserves readRfc3339 DateFields.IsCivil := by
  have hfraction : (readFraction Scan.fraction).Preserves DateFields.IsCivil :=
    preserves_readFraction (preserves_setTo fun _ _ _ _ _ _ hset => isCivil_of_setNanosecond hset)
  have hoffset : FieldReader.Preserves (setTo (Scan.offset strictOffset) setDayOffset)
      DateFields.IsCivil :=
    preserves_setTo fun _ _ _ hread _ _ hset => isCivil_of_setDayOffset (mod_of_offset hread) hset
  refine preserves_readAll ?_
  simp only [List.forall_mem_cons]
  exact ⟨preserves_readDigits .year, preserves_readChar '-', preserves_readDigits .month,
    preserves_readChar '-', preserves_readDigits .day, preserves_readDateTimeMark,
    preserves_readDigits .hour, preserves_readChar ':', preserves_readDigits .minute,
    preserves_readChar ':', preserves_readDigits .second, hfraction, hoffset, nofun⟩

/-- A time of day has a fraction below a second, and 59 seconds if it is in a leap second. -/
theorem bounds_of_time (hcivil : fields.IsCivil) {time : TimeOfDay}
    (h : fields.time = .ok time) :
    time.nanos < 2 * nanosPerSecond ∧ (nanosPerSecond ≤ time.nanos → time.second = 59) := by
  have hfraction : (fields.nanosecond.getD 0).toNat < nanosPerSecond := by
    unfold nanosPerSecond
    cases hnanosecond : fields.nanosecond with
    | none =>
      show (0 : Int).toNat < 1000000000
      decide
    | some value =>
      have := hcivil.nanosecond value hnanosecond
      show value.toNat < 1000000000
      omega
  obtain ⟨half, -, h⟩ := Except.bind_eq_ok_iff.mp h
  obtain ⟨hour, -, h⟩ := Except.bind_eq_ok_iff.mp h
  obtain ⟨minute, -, h⟩ := Except.bind_eq_ok_iff.mp h
  split at h
  · cases h
  cases h
  -- only a second of 60 adds a whole second to the fraction
  by_cases hleap : (fields.second.getD 0).toNat = 60
  · simp only [if_pos hleap]
    exact ⟨by omega, fun _ => trivial⟩
  · simp only [if_neg hleap]
    exact ⟨by omega, fun hlate => absurd hlate (by omega)⟩

/-- Fields without seconds since 1970 describe a timestamp by its date and time. -/
theorem exists_of_timestamp (hcivil : fields.IsCivil) {zone : Int} {t : Timestamp}
    (h : fields.timestamp zone = .ok t) :
    ∃ date time, fields.time = .ok time ∧ t = ofDateTime date time := by
  unfold DateFields.timestamp at h
  rw [hcivil.epoch] at h
  split at h
  · next date time _ htime =>
    cases h
    exact ⟨date, time, htime, rfl⟩
  · obtain ⟨date, -, h⟩ := Except.bind_eq_ok_iff.mp h
    obtain ⟨time, -, h⟩ := Except.bind_eq_ok_iff.mp h
    cases h

theorem eq_of_toUtc? {localTime utc : Timestamp} {offset : Int}
    (h : localTime.toUtc? offset = some utc) :
    utc = { localTime with seconds := localTime.seconds - offset } := by
  unfold toUtc? at h
  dsimp only at h
  split at h
  · cases h
    rfl
  · cases h

/-- An instant with an offset of whole minutes has the seconds of its local time. -/
theorem isClock_of_instant (hcivil : fields.IsCivil) {t : Timestamp}
    (h : fields.instant = .ok t) : t.IsClock := by
  unfold DateFields.instant at h
  rw [hcivil.epoch] at h
  cases hknown : fields.offset with
  | none =>
    rw [hknown] at h
    cases h
  | some offset =>
    rw [hknown] at h
    have hminutes := hcivil.offset offset hknown
    obtain ⟨_, hoffset, h⟩ := Except.bind_eq_ok_iff.mp h
    cases hoffset
    obtain ⟨localTime, hlocal, h⟩ := Except.bind_eq_ok_iff.mp h
    obtain ⟨date, time, htime, rfl⟩ := exists_of_timestamp hcivil hlocal
    obtain ⟨hnanos, hleap⟩ := bounds_of_time hcivil htime
    by_cases hrange : offset ≤ -86400 ∨ 86400 ≤ offset
    · simp only [if_pos hrange] at h
      cases h
    simp only [if_neg hrange] at h
    cases hutc : (ofDateTime date time).toUtc? offset with
    | none =>
      rw [hutc] at h
      cases h
    | some utc =>
      rw [hutc] at h
      cases h
      rw [eq_of_toUtc? hutc]
      refine ⟨hnanos, fun hlate => ?_⟩
      have hsecond := hleap hlate
      -- an offset of whole minutes leaves the second of the minute as it is
      show ((86400 * date.days + ((3600 * time.hour + 60 * time.minute + time.second : Nat) : Int) -
        offset) % 86400).toNat % 60 = 59
      omega

/-- Instants read from RFC 3339 text have their leap seconds at the end of a minute. -/
theorem isClock_of_ofRfc3339 {text : String} {t : Timestamp} (h : ofRfc3339 text = .ok t) :
    t.IsClock := by
  obtain ⟨fields, hread, hinstant⟩ := Except.bind_eq_ok_iff.mp h
  have hcivil : fields.IsCivil :=
    preserves_readRfc3339 _ _ _ _ (readWhole_eq_ok_iff.mp hread) ⟨rfl, nofun, nofun⟩
  exact isClock_of_instant hcivil hinstant

/-! ## What is written reads back -/

variable {t : Timestamp}

theorem fraction_eq_zero (hwhole : t.wholeSecond = t) : t.fraction = 0 := by
  have hnanos : t.nanos / nanosPerSecond * nanosPerSecond = t.nanos := congrArg nanos hwhole
  unfold fraction
  rw [← hnanos]
  exact Nat.mul_mod_left _ _

/-- The text of an instant in whole seconds is that of its parts with marks between them. -/
theorem rfc3339Chars_eq (hyear : t.HasFourDigitYear) (hwhole : t.wholeSecond = t)
    (zone : List Char) :
    t.rfc3339Chars zone =
      zeroPadded 4 t.date.year.toNat ++ '-' :: (zeroPadded 2 t.date.month ++ '-' ::
        (zeroPadded 2 t.date.day ++ 'T' :: (zeroPadded 2 t.hour ++ ':' ::
          (zeroPadded 2 t.minute ++ ':' :: (zeroPadded 2 t.second ++ zone))))) := by
  have hyearText : yearText t.date.year = zeroPadded 4 t.date.year.toNat := by
    obtain ⟨hlow, hhigh⟩ := hyear
    refine if_pos ?_
    rw [decide_eq_true hlow, decide_eq_true hhigh]
    rfl
  have hfraction : fractionText t.fraction = [] := by
    rw [fraction_eq_zero hwhole]
    rfl
  unfold rfc3339Chars dateText timeText
  rw [hyearText, hfraction]
  simp only [List.append_assoc, List.cons_append, List.append_nil]

theorem readChar_cons (c : Char) (chars : List Char) :
    readChar c fields (c :: chars) = .ok (fields, chars) := by
  have hchar : Scan.char c (c :: chars) = .ok chars := if_pos rfl
  unfold readChar
  rw [hchar]
  rfl

theorem readDateTimeMark_cons (chars : List Char) :
    readDateTimeMark fields ('T' :: chars) = .ok (fields, chars) := rfl

/-- Before an offset there is no fraction. -/
theorem readFraction_offset :
    readFraction Scan.fraction fields "+00:00".toList = .ok (fields, "+00:00".toList) := rfl

theorem readOffset_zero :
    setTo (Scan.offset strictOffset) setDayOffset (t.allFields none) "+00:00".toList =
      .ok (t.allFields (some 0), []) :=
  setTo_eq_ok_iff.mpr ⟨0, rfl, rfl⟩

/-- The text of an instant gives all its fields, with the offset of UTC. -/
theorem readRfc3339_rfc3339Chars (hyear : t.HasFourDigitYear) (hclock : t.IsClock)
    (hwhole : t.wholeSecond = t) :
    readRfc3339 {} (t.rfc3339Chars "+00:00".toList) = .ok (t.allFields (some 0), []) := by
  have hpart := TimestampPart.readDigits_eq_ok hyear hclock
  have hall : t.fieldsOf [.second, .minute, .hour, .day, .month, .year] = t.allFields none :=
    fieldsOf_of_forall_mem fun part => by cases part <;> decide
  rw [rfc3339Chars_eq hyear hwhole]
  refine (readAll_cons (hpart [] .year _) _).trans ?_
  refine (readAll_cons (readChar_cons '-' _) _).trans ?_
  refine (readAll_cons (hpart _ .month _) _).trans ?_
  refine (readAll_cons (readChar_cons '-' _) _).trans ?_
  refine (readAll_cons (hpart _ .day _) _).trans ?_
  refine (readAll_cons (readDateTimeMark_cons _) _).trans ?_
  refine (readAll_cons (hpart _ .hour _) _).trans ?_
  refine (readAll_cons (readChar_cons ':' _) _).trans ?_
  refine (readAll_cons (hpart _ .minute _) _).trans ?_
  refine (readAll_cons (readChar_cons ':' _) _).trans ?_
  refine (readAll_cons (hpart _ .second _) _).trans ?_
  rw [hall]
  refine (readAll_cons readFraction_offset _).trans ?_
  exact (readAll_cons readOffset_zero _).trans rfl

/-- The text of an instant in whole seconds stands for that instant. -/
theorem ofRfc3339_toRfc3339 (hyear : t.HasFourDigitYear) (hclock : t.IsClock)
    (hwhole : t.wholeSecond = t) : ofRfc3339 t.toRfc3339 = .ok t := by
  have hread : readWhole readRfc3339 t.toRfc3339 = .ok (t.allFields (some 0)) := by
    refine readWhole_eq_ok_iff.mpr ?_
    unfold toRfc3339
    rw [String.toList_ofList]
    exact readRfc3339_rfc3339Chars hyear hclock hwhole
  have hinstant : (t.allFields (some 0)).instant = .ok t := by
    rw [instant_allFields_zero hyear hclock, hwhole]
  unfold ofRfc3339
  rw [hread]
  exact hinstant

end Timestamp
end SearchMapper
