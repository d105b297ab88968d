import SearchMapper.Date.Read
import SearchMapper.Proofs.Outcome

/-!
# Readers of fields

When the readers of a date text succeed, and what they keep: readers that each preserve a property
of the fields preserve it one after another.
-/

namespace SearchMapper

variable {fields fields' : DateFields} {chars rest : List Char}

/-! ## Success -/

/-- Something is read and then set. -/
theorem setTo_eq_ok_iff {α : Type} {read : List Char → Scan.Result α}
    {set : DateFields → α → Except DateFault DateFields} :
    setTo read set fields chars = .ok (fields', rest) ↔
      ∃ value, read chars = .ok (value, rest) ∧ set fields value = .ok fields' := by
  constructor
  · intro h
    obtain ⟨⟨value, after⟩, hread, h⟩ := Except.bind_eq_ok_iff.mp h
    obtain ⟨updated, hset, h⟩ := Except.bind_eq_ok_iff.mp h
    cases h
    exact ⟨value, hread, hset⟩
  · rintro ⟨value, hread, hset⟩
    exact Except.bind_eq_ok_iff.mpr ⟨(value, rest), hread,
      Except.bind_eq_ok_iff.mpr ⟨fields', hset, rfl⟩⟩

/-- The first of several readers hands on what it leaves. -/
theorem readAll_cons {reader : FieldReader} (h : reader fields chars = .ok (fields', rest))
    (readers : List FieldReader) :
    readAll (reader :: readers) fields chars = readAll readers fields' rest := by
  rw [readAll, h]
  rfl

/-- A text is read if nothing of it is left. -/
theorem readWhole_eq_ok_iff {reader : FieldReader} {text : String} :
    readWhole reader text = .ok fields ↔ reader {} text.toList = .ok (fields, []) := by
  constructor
  · intro h
    obtain ⟨⟨fields', rest⟩, hread, h⟩ := Except.bind_eq_ok_iff.mp h
    cases rest with
    | nil =>
      cases h
      exact hread
    | cons c rest => cases h
  · intro h
    exact Except.bind_eq_ok_iff.mpr ⟨_, h, rfl⟩

/-! ## What readers keep -/

/-- The reader keeps a property of the fields. -/
def FieldReader.Preserves (reader : FieldReader) (P : DateFields → Prop) : Prop :=
  ∀ fields chars fields' rest, reader fields chars = .ok (fields', rest) → P fields → P fields'

variable {P : DateFields → Prop}

theorem preserves_setTo {α : Type} {read : List Char → Scan.Result α}
    {set : DateFields → α → Except DateFault DateFields}
    (h : ∀ chars value rest, read chars = .ok (value, rest) →
      ∀ fields fields', set fields value = .ok fields' → P fields → P fields') :
    FieldReader.Preserves (setTo read set) P := by
  intro fields chars fields' rest hsetTo hP
  obtain ⟨value, hread, hset⟩ := setTo_eq_ok_iff.mp hsetTo
  exact h chars value rest hread fields fields' hset hP

theorem preserves_readAll {readers : List FieldReader}
    (h : ∀ reader ∈ readers, reader.Preserves P) : (readAll readers).Preserves P := by
  induction readers with
  | nil =>
    intro fields chars fields' rest hread hP
    cases hread
    exact hP
  | cons reader readers ih =>
    intro fields chars fields' rest hread hP
    obtain ⟨⟨middle, after⟩, hfirst, hread⟩ := Except.bind_eq_ok_iff.mp hread
    have hmiddle : P middle := h reader List.mem_cons_self _ _ _ _ hfirst hP
    exact ih (fun other hmem => h other (List.mem_cons_of_mem _ hmem)) _ _ _ _ hread hmiddle

theorem preserves_readChar (c : Char) : (Timestamp.readChar c).Preserves P := by
  intro fields chars fields' rest hread hP
  obtain ⟨after, -, hread⟩ := Except.bind_eq_ok_iff.mp hread
  cases hread
  exact hP

theorem preserves_readDateTimeMark : readDateTimeMark.Preserves P := by
  intro fields chars fields' rest hread hP
  unfold readDateTimeMark at hread
  split at hread <;> cases hread <;> exact hP

theorem preserves_readFraction {read : List Char → Scan.Result Int}
    (h : (setTo read DateFields.setNanosecond).Preserves P) : (readFraction read).Preserves P := by
  intro fields chars fields' rest hread hP
  unfold readFraction at hread
  split at hread
  · exact h _ _ _ _ hread hP
  · cases hread
    exact hP

/-! ## Setting fields -/

theorem eq_some_of_settle {old new : Option Int} {value : Int}
    (h : settle old value = .ok new) : new = some value := by
  unfold settle at h
  split at h
  · cases h
    rfl
  · split at h
    · cases h
      rfl
    · cases h

theorem inRange_eq_ok_iff {low high value value' : Int} :
    inRange low high value = .ok value' ↔ (low ≤ value ∧ value ≤ high) ∧ value' = value := by
  unfold inRange
  split
  · next h => exact ⟨fun heq => by cases heq; exact ⟨h, rfl⟩, fun heq => by rw [heq.2]⟩
  · next h => exact ⟨nofun, fun heq => absurd heq.1 h⟩

end SearchMapper
