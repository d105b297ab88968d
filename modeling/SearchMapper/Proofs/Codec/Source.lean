import SearchMapper.Proofs.Codec.Formatted
import SearchMapper.Proofs.Codec.Stored

/-!
# The stored source of an entity

Which entities can be stored, and what is stored of them, with any date formats. Each declared
field but the key has the value of the entity, or null without one, in the format of the field, if
the strategy of the field keeps what it has become. Nothing else is stored, and the order in which
the fields are declared does not matter.
-/

namespace SearchMapper.Codec

variable {codec : Codec}

/-- What the members give to the declared fields can be written. -/
def IsWritable (codec : Codec) (members : Members Json) : Prop :=
  ∀ field ∈ codec.metadata.fields, codec.metadata.keyField ≠ some field.name →
    ∃ value, codec.Rewrites field (valueOf members field.name) value

/-- The document is the stored source of the members: under a name it has what the value of the
members is rewritten to, if the name is that of a declared field other than the key, whose strategy
keeps what is written. -/
structure IsSource (codec : Codec) (members document : Members Json) : Prop where
  sorted : document.Sorted
  find?_eq_some_iff : ∀ name value, Members.find? name document = some value ↔
    ∃ field ∈ codec.metadata.fields, field.name = name ∧ codec.metadata.keyField ≠ some name ∧
      codec.Rewrites field (valueOf members name) value ∧ field.strategy.Keeps value

/-- There is only one stored source. -/
theorem IsSource.unique {members first second : Members Json} (h : codec.IsSource members first)
    (h' : codec.IsSource members second) : first = second := by
  refine h.sorted.ext h'.sorted fun name => Option.ext fun value => ?_
  rw [h.find?_eq_some_iff, h'.find?_eq_some_iff]

/-! ## Writing all fields -/

/-- What is written of all fields is the stored source. -/
theorem isSource_of_writeFields {members document : Members Json}
    (hdistinct : (codec.metadata.fields.map (·.name)).Nodup)
    (h : codec.writeFields [] members codec.metadata.storedFields = .ok document) :
    codec.IsSource members document := by
  have hstored := nodup_storedFields hdistinct
  refine ⟨sorted_of_writeFields Members.sorted_nil h, fun name value => ⟨?_, ?_⟩⟩
  · intro hfind
    -- a name that has a value is that of a field, since the document began without any
    have hfield : ∃ field ∈ codec.metadata.storedFields, field.name = name := by
      by_contra hnone
      rw [find?_of_writeFields_of_not_mem h fun field hmem heq => hnone ⟨field, hmem, heq⟩] at hfind
      cases hfind
    obtain ⟨field, hmem, rfl⟩ := hfield
    obtain ⟨written, hwritten, hkept⟩ := find?_of_writeFields_of_mem hstored h hmem
    rw [hkept] at hfind
    split at hfind
    · next hadmits =>
      cases hfind
      obtain ⟨hdeclared, hkey⟩ := mem_storedFields.mp hmem
      exact ⟨field, hdeclared, rfl, hkey, formatDate_eq_ok_iff.mp hwritten,
        (field.strategy.admits_iff value).mp hadmits⟩
    · cases hfind
  · rintro ⟨field, hdeclared, rfl, hkey, hrewrites, hkeeps⟩
    obtain ⟨written, hwritten, hkept⟩ :=
      find?_of_writeFields_of_mem hstored h (mem_storedFields.mpr ⟨hdeclared, hkey⟩)
    obtain rfl := hrewrites.unique (formatDate_eq_ok_iff.mp hwritten)
    rw [hkept, if_pos ((field.strategy.admits_iff value).mpr hkeeps)]

/-- All fields can be written exactly if each can. -/
theorem exists_writeFields_iff {members : Members Json}
    (hdistinct : (codec.metadata.fields.map (·.name)).Nodup) :
    (∃ document, codec.writeFields [] members codec.metadata.storedFields = .ok document) ↔
      codec.IsWritable members := by
  have hstored := nodup_storedFields hdistinct
  constructor
  · rintro ⟨document, hdocument⟩ field hdeclared hkey
    obtain ⟨value, hvalue, -⟩ := find?_of_writeFields_of_mem hstored hdocument
      (mem_storedFields.mpr ⟨hdeclared, hkey⟩)
    exact ⟨value, formatDate_eq_ok_iff.mp hvalue⟩
  · intro h
    refine exists_of_writeFields [] hstored fun field hmem => ?_
    obtain ⟨hdeclared, hkey⟩ := mem_storedFields.mp hmem
    obtain ⟨value, hvalue⟩ := h field hdeclared hkey
    exact ⟨value, formatDate_eq_ok_iff.mpr hvalue⟩

/-! ## Entities -/

/-- Only an object has a stored source. -/
theorem exists_of_toWireDocument {α : Type} [Entity α] {entity : α} {stored : Json}
    (h : codec.toWireDocument entity = .ok stored) :
    ∃ members document, Entity.toJson entity = .object members ∧ stored = .object document ∧
      codec.writeFields [] members codec.metadata.storedFields = .ok document := by
  obtain ⟨members, hmembers, h⟩ := Except.bind_eq_ok_iff.mp h
  obtain ⟨document, hdocument, h⟩ := Except.bind_eq_ok_iff.mp h
  cases h
  refine ⟨members, document, ?_, rfl, hdocument⟩
  unfold Codec.members at hmembers
  split at hmembers
  · next hentity =>
    cases hmembers
    exact hentity
  · cases hmembers

/-- The stored source of an entity, if it has one. -/
theorem toWireDocument_eq_ok_iff {α : Type} [Entity α] {entity : α} {stored : Json}
    (hdistinct : (codec.metadata.fields.map (·.name)).Nodup) :
    codec.toWireDocument entity = .ok stored ↔
      ∃ members document, Entity.toJson entity = .object members ∧ stored = .object document ∧
        codec.IsWritable members ∧ codec.IsSource members document := by
  constructor
  · intro h
    obtain ⟨members, document, hmembers, hstored, hdocument⟩ := exists_of_toWireDocument h
    exact ⟨members, document, hmembers, hstored,
      (exists_writeFields_iff hdistinct).mp ⟨document, hdocument⟩,
      isSource_of_writeFields hdistinct hdocument⟩
  · rintro ⟨members, document, hmembers, rfl, hwritable, hsource⟩
    obtain ⟨written, hwritten⟩ := (exists_writeFields_iff hdistinct).mpr hwritable
    obtain rfl := hsource.unique (isSource_of_writeFields hdistinct hwritten)
    exact toWireDocument_eq_ok hmembers hwritten

/-- Which entities have a stored source. -/
theorem exists_toWireDocument_iff {α : Type} [Entity α] {entity : α}
    (hdistinct : (codec.metadata.fields.map (·.name)).Nodup) :
    (∃ stored, codec.toWireDocument entity = .ok stored) ↔
      ∃ members, Entity.toJson entity = .object members ∧ codec.IsWritable members := by
  constructor
  · rintro ⟨stored, h⟩
    obtain ⟨members, document, hmembers, -, hwritable, -⟩ := (toWireDocument_eq_ok_iff hdistinct).mp h
    exact ⟨members, hmembers, hwritable⟩
  · rintro ⟨members, hmembers, hwritable⟩
    obtain ⟨document, hdocument⟩ := (exists_writeFields_iff hdistinct).mpr hwritable
    exact ⟨_, toWireDocument_eq_ok hmembers hdocument⟩

/-! ## The order of the fields -/

section order

variable {other : Codec} (hformat : other.dateFormat = codec.dateFormat)
  (hkey : other.metadata.keyField = codec.metadata.keyField)
  (hfields : other.metadata.fields.Perm codec.metadata.fields)

include hformat in
/-- Of a codec, only the configured format counts for a single value. -/
theorem rewrites_congr {field : FieldDescriptor} {value stored : Json} :
    other.Rewrites field value stored ↔ codec.Rewrites field value stored := by
  obtain ⟨metadata, dateFormat⟩ := codec
  obtain rfl : other.dateFormat = dateFormat := hformat
  rw [← formatDate_eq_ok_iff, ← formatDate_eq_ok_iff]
  rfl

include hformat hkey hfields

theorem isWritable_congr {members : Members Json} :
    other.IsWritable members ↔ codec.IsWritable members := by
  simp only [IsWritable, hkey, hfields.mem_iff, rewrites_congr hformat]

theorem isSource_congr {members document : Members Json} :
    other.IsSource members document ↔ codec.IsSource members document := by
  have hvalues : ∀ name value,
      (∃ field ∈ other.metadata.fields, field.name = name ∧
        other.metadata.keyField ≠ some name ∧
          other.Rewrites field (valueOf members name) value ∧ field.strategy.Keeps value) ↔
      ∃ field ∈ codec.metadata.fields, field.name = name ∧
        codec.metadata.keyField ≠ some name ∧
          codec.Rewrites field (valueOf members name) value ∧ field.strategy.Keeps value := by
    intro name value
    simp only [hkey, hfields.mem_iff, rewrites_congr hformat]
  constructor
  · intro h
    exact ⟨h.sorted, fun name value => (h.find?_eq_some_iff name value).trans (hvalues name value)⟩
  · intro h
    exact ⟨h.sorted, fun name value =>
      (h.find?_eq_some_iff name value).trans (hvalues name value).symm⟩

end order

/-! ## Main result -/

/-- **The stored source.** Where all declared names are different, an entity cannot be stored
exactly if it is no object or has, in a declared field other than the key, a date without a text
in the format of the field. Else its stored source is the object that has under a name what the
value of the entity, or null without one, is rewritten to, if the name is that of a declared field
other than the key whose strategy keeps what is written. The order of the fields, and the name of
the index, do not matter. -/
theorem stored_source {α : Type} [Entity α]
    (hdistinct : (codec.metadata.fields.map (·.name)).Nodup) (entity : α) :
    ((∃ fault, codec.toWireDocument entity = .error fault) ↔
      (∀ members, Entity.toJson entity ≠ .object members) ∨
        ∃ members, Entity.toJson entity = .object members ∧
          ∃ field ∈ codec.metadata.fields, codec.metadata.keyField ≠ some field.name ∧
            ∃ format, codec.HasNoText field (valueOf members field.name) format) ∧
      (∀ stored, codec.toWireDocument entity = .ok stored →
        ∃ members document, Entity.toJson entity = .object members ∧
          stored = .object document ∧ codec.IsSource members document) ∧
      ∀ other : Codec, other.dateFormat = codec.dateFormat →
        other.metadata.keyField = codec.metadata.keyField →
          other.metadata.fields.Perm codec.metadata.fields →
            ∀ stored, other.toWireDocument entity = .ok stored ↔
              codec.toWireDocument entity = .ok stored := by
  refine ⟨?_, ?_, ?_⟩
  · rw [Except.exists_eq_error_iff, exists_toWireDocument_iff hdistinct]
    simp only [IsWritable, exists_rewrites_iff]
    constructor
    · intro h
      by_cases hobject : ∃ members, Entity.toJson entity = .object members
      · obtain ⟨members, hmembers⟩ := hobject
        refine .inr ⟨members, hmembers, ?_⟩
        by_contra hnone
        refine h ⟨members, hmembers, fun field hdeclared hkey format hno => hnone ?_⟩
        exact ⟨field, hdeclared, hkey, format, hno⟩
      · exact .inl fun members hmembers => hobject ⟨members, hmembers⟩
    · rintro (hnone | ⟨members, hmembers, field, hdeclared, hkey, format, hno⟩)
        ⟨members', hmembers', hwritable⟩
      · exact hnone members' hmembers'
      · obtain rfl : members = members' := Json.object.inj (hmembers.symm.trans hmembers')
        exact hwritable field hdeclared hkey format hno
  · intro stored h
    obtain ⟨members, document, hmembers, hstored, -, hsource⟩ :=
      (toWireDocument_eq_ok_iff hdistinct).mp h
    exact ⟨members, document, hmembers, hstored, hsource⟩
  · intro other hformat hkey hfields stored
    have hdistinct' : (other.metadata.fields.map (·.name)).Nodup :=
      (hfields.map (·.name)).nodup_iff.mpr hdistinct
    rw [toWireDocument_eq_ok_iff hdistinct, toWireDocument_eq_ok_iff hdistinct']
    simp only [isWritable_congr hformat hkey hfields, isSource_congr hformat hkey hfields]

/-- A date in the format of its own field is stored, and a missing value as null; a date in a field
with the configured format, which has only an offset in any spelling, cannot be stored. -/
theorem stored_source_of_dates :
    let fields : List FieldDescriptor :=
      [{ name := "eid" }, { name := "note" }, { name := "tags", strategy := .notNull },
        { name := "day", strategy := .notNull, kind := .dateTime },
        { name := "at", kind := .dateTime, dateFormat := some "%d.%m.%Y" }]
    let codec : Codec := ⟨{ indexName := "events", keyField := some "eid", fields }, some "%#z"⟩
    let members : Members Json :=
      [("at", .string "2024-03-01T23:30:00-05:00"), ("eid", .string "e1"), ("hidden", .null)]
    let reversed : Codec :=
      ⟨{ indexName := "events", keyField := some "eid", fields := fields.reverse }, some "%#z"⟩
    (fields.map (·.name)).Nodup ∧
      codec.IsSource members [("at", .string "02.03.2024"), ("note", .null)] ∧
      reversed.toWireDocument (Json.object members) =
        .ok (.object [("at", .string "02.03.2024"), ("note", .null)]) ∧
      ∃ fault, codec.toWireDocument
        (Json.object [("day", .string "2024-03-01T12:00:00Z")]) = .error fault := by
  intro fields codec members reversed
  have hdistinct : (codec.metadata.fields.map (·.name)).Nodup := by decide
  have hstored : codec.toWireDocument (Json.object members) =
      .ok (.object [("at", .string "02.03.2024"), ("note", .null)]) := by
    have hoption : (codec.toWireDocument (Json.object members)).toOption =
        some (.object [("at", .string "02.03.2024"), ("note", .null)]) := by decide +kernel
    exact Except.eq_ok_of_toOption hoption
  obtain ⟨-, hsource, horder⟩ := stored_source hdistinct (Json.object members)
  refine ⟨hdistinct, ?_, ?_, ?_⟩
  · obtain ⟨_, _, ⟨⟩, ⟨⟩, hsource⟩ := hsource _ hstored
    exact hsource
  · exact (horder reversed rfl rfl fields.reverse_perm _).mpr hstored
  · have hraw : Timestamp.ofRfc3339 "2024-03-01T12:00:00Z" = .ok ⟨1709294400, 0⟩ := by
      have hread : (Timestamp.ofRfc3339 "2024-03-01T12:00:00Z").toOption =
          some ⟨1709294400, 0⟩ := by decide +kernel
      exact Except.eq_ok_of_toOption hread
    have hnone : (DatePattern.parse "%#z").bind (DatePattern.print? ⟨1709294400, 0⟩) = none := by
      decide +kernel
    refine (stored_source hdistinct _).1.mpr (.inr ⟨_, rfl,
      { name := "day", strategy := .notNull, kind := .dateTime }, by decide, by decide, "%#z",
      ⟨1709294400, 0⟩, ⟨.configured rfl rfl rfl, _, rfl, hraw⟩, fun text htext => ?_⟩)
    rw [inFormat_iff, hnone] at htext
    cases htext

end SearchMapper.Codec
