import SearchMapper.Metadata.Validate
import SearchMapper.Proofs.Codec.Partial
import SearchMapper.Proofs.Date.Unwritable

/-!
# Dates that cannot be written

A format that has passed its check cannot be written only if it has the directive for an offset in
any spelling, and then for no instant. What is wrong with a document that cannot be written is
always such a date in a stored field.
-/

namespace SearchMapper

/-- A text is a date pattern if it passes the check. -/
theorem exists_parse_of_validateDateFormat {format : String}
    (h : validateDateFormat format = .ok ()) : ∃ pattern, DatePattern.parse format = some pattern := by
  unfold validateDateFormat at h
  split at h
  · next hsome => exact Option.isSome_iff_exists.mp hsome
  · cases h

/-- In a format that has passed its check an instant has no text exactly if the format has an
offset in any spelling. -/
theorem forall_not_inFormat_iff {format : String} (hvalid : validateDateFormat format = .ok ())
    (instant : Timestamp) :
    (∀ text, ¬ InFormat format instant text) ↔ DatePattern.HasAnyOffset format.toList := by
  obtain ⟨pattern, hparse⟩ := exists_parse_of_validateDateFormat hvalid
  rw [← DatePattern.anyOffset_mem_iff hparse, ← DatePattern.print?_eq_none_iff instant]
  simp only [inFormat_iff, hparse, Option.bind_some]
  rw [← Option.map_eq_none_iff (f := String.ofList), Option.eq_none_iff_forall_ne_some]

namespace Codec

variable {codec : Codec} {field : FieldDescriptor} {value : Json} {format : String}

theorem hasNoText_iff (hvalid : validateDateFormat format = .ok ())
    (hformat : codec.HasFormat field format) :
    codec.HasNoText field value format ↔
      DatePattern.HasAnyOffset format.toList ∧
        ∃ raw instant, value = .string raw ∧ Timestamp.ofRfc3339 raw = .ok instant := by
  constructor
  · rintro ⟨instant, ⟨-, raw, hvalue, hraw⟩, hno⟩
    exact ⟨(forall_not_inFormat_iff hvalid instant).mp hno, raw, instant, hvalue, hraw⟩
  · rintro ⟨hany, raw, instant, hvalue, hraw⟩
    exact ⟨instant, ⟨hformat, raw, hvalue, hraw⟩, (forall_not_inFormat_iff hvalid instant).mpr hany⟩

/-- Only one format is in effect for a field. -/
theorem HasFormat.unique {other : String} (h : codec.HasFormat field format)
    (h' : codec.HasFormat field other) : other = format := by
  rw [← fieldFormat?_eq_some_iff] at h h'
  rw [h, Option.some.injEq] at h'
  exact h'.symm

/-- In a format that has passed its check a value cannot be written exactly if it is an RFC 3339
text and the format has an offset in any spelling. -/
theorem exists_formatDate_eq_error_iff (hvalid : validateDateFormat format = .ok ())
    (hformat : codec.HasFormat field format) :
    (∃ fault, codec.formatDate field value = .error fault) ↔
      DatePattern.HasAnyOffset format.toList ∧
        ∃ raw instant, value = .string raw ∧ Timestamp.ofRfc3339 raw = .ok instant := by
  rw [← hasNoText_iff hvalid hformat]
  constructor
  · rintro ⟨fault, hfault⟩
    obtain ⟨_, ⟨instant, hdate, hnone⟩, -⟩ := formatDate_eq_error_iff.mp hfault
    obtain rfl := hformat.unique hdate.hasFormat
    exact ⟨instant, hdate, hnone⟩
  · intro hno
    exact ⟨_, formatDate_eq_error_iff.mpr ⟨format, hno, rfl⟩⟩

/-! ## Documents -/

/-- The fault is that of a value of a stored field. -/
def IsFieldFault (codec : Codec) (fault : CodecFault) : Prop :=
  ∃ field ∈ codec.metadata.storedFields, ∃ value, codec.formatDate field value = .error fault

/-- Writing fields fails with the fault of one of them. -/
theorem exists_of_writeFields_eq_error {fields : List FieldDescriptor}
    {document left : Members Json} {fault : CodecFault}
    (h : codec.writeFields document left fields = .error fault) :
    ∃ field ∈ fields, ∃ value, codec.formatDate field value = .error fault := by
  induction fields generalizing document left with
  | nil => cases h
  | cons first rest ih =>
    rw [writeFields] at h
    rcases Except.bind_eq_error_iff.mp h with hfirst | ⟨value, -, hrest⟩
    · exact ⟨first, List.mem_cons_self, _, hfirst⟩
    · obtain ⟨field, hmem, hfault⟩ := ih hrest
      exact ⟨field, List.mem_cons_of_mem first hmem, hfault⟩

/-- An entity without members is no object. -/
theorem members_eq_error {α : Type} [Entity α] {entity : α} {fault : CodecFault}
    (h : codec.members entity = .error fault) :
    ∃ other, fault = .entityNotObject codec.metadata.indexName other := by
  unfold members at h
  split at h
  · cases h
  · cases h
    exact ⟨_, rfl⟩

/-- An entity that cannot be stored is no object, or has a fault in a field. -/
theorem toWireDocument_eq_error {α : Type} [Entity α] {entity : α} {fault : CodecFault}
    (h : codec.toWireDocument entity = .error fault) :
    (∃ other, fault = .entityNotObject codec.metadata.indexName other) ∨
      codec.IsFieldFault fault := by
  rcases Except.bind_eq_error_iff.mp h with hmembers | ⟨members, -, h⟩
  · exact .inl (members_eq_error hmembers)
  · rcases Except.bind_eq_error_iff.mp h with hfields | ⟨document, -, h⟩
    · exact .inr (exists_of_writeFields_eq_error hfields)
    · cases h

/-- Given values that cannot be written have a fault in a field. -/
theorem fieldsDocument_eq_error {pairs : List (String × Json)} {fault : CodecFault}
    (h : codec.fieldsDocument pairs = .error fault) : codec.IsFieldFault fault := by
  have hwritten : (codec.givenPairs pairs).mapM codec.writePair = .error fault := by
    rcases Except.bind_eq_error_iff.mp h with hwritten | ⟨written, -, h⟩
    · exact hwritten
    · cases h
  obtain ⟨pair, hpair, hfault⟩ := Except.exists_mem_of_mapM_eq_error hwritten
  obtain ⟨-, hkey⟩ := mem_givenPairs.mp hpair
  rcases Except.bind_eq_error_iff.mp hfault with hvalue | ⟨stored, -, h⟩
  · unfold fieldValue at hvalue
    split at hvalue
    · next field hfield =>
      obtain ⟨hdeclared, hname⟩ := mem_of_descriptor? hfield
      refine ⟨field, mem_storedFields.mpr ⟨hdeclared, ?_⟩, _, hvalue⟩
      rwa [hname]
    · cases hvalue
  · cases h

end Codec
end SearchMapper
