import SearchMapper.Proofs.Codec.Formatted
import SearchMapper.Proofs.Json.Sorted
import SearchMapper.Proofs.Outcome

/-!
# What is stored of an entity

The members of a stored document, name by name: a declared field apart from the key has the value
that the entity gives it, if the strategy of the field keeps that value, and nothing else is
stored. This holds where no stored field has a date format; then reading the document leaves its
members as they are.
-/

namespace SearchMapper

/-! ## Strategies -/

/-- The values that a strategy keeps. -/
def FieldStrategy.Keeps : FieldStrategy → Json → Prop
  | always, _ | ignored, _ => True
  | notNull, value => value ≠ .null
  | notEmpty, value => value ≠ .null ∧ value ≠ .string ""

theorem Json.isNull_eq_false_iff {value : Json} : (!value.isNull) = true ↔ value ≠ .null := by
  cases value with
  | null => exact ⟨nofun, fun h => absurd rfl h⟩
  | _ => exact ⟨fun _ => nofun, fun _ => rfl⟩

theorem FieldStrategy.admits_iff (strategy : FieldStrategy) (value : Json) :
    strategy.admits value = true ↔ strategy.Keeps value := by
  cases strategy with
  | always => exact ⟨fun _ => trivial, fun _ => rfl⟩
  | ignored => exact ⟨fun _ => trivial, fun _ => rfl⟩
  | notNull => exact Json.isNull_eq_false_iff
  | notEmpty =>
    unfold admits Keeps
    rw [Bool.and_eq_true, Json.isNull_eq_false_iff, bne_iff_ne]

namespace Codec

variable {codec : Codec}

/-- The value that members give a field: null if they have none. -/
def valueOf (members : Members Json) (name : String) : Json :=
  (Members.find? name members).getD .null

/-! ## Values without a format -/

theorem formatDate_of_no_format {field : FieldDescriptor} (h : codec.fieldFormat? field = none)
    (value : Json) : codec.formatDate field value = .ok value := by
  refine formatDate_of_not_isDate fun format instant hdate => ?_
  have hformat := fieldFormat?_eq_some_iff.mpr hdate.hasFormat
  rw [h] at hformat
  cases hformat

theorem parseDate_of_no_format {field : FieldDescriptor} (h : codec.fieldFormat? field = none)
    (value : Json) : codec.parseDate field value = value := by
  unfold parseDate
  rw [h]

/-! ## Writing fields -/

/-- One field is written, and then the others, from what is left of the members. -/
theorem writeFields_cons_eq_ok_iff {document left written : Members Json} {field : FieldDescriptor}
    {rest : List FieldDescriptor} :
    codec.writeFields document left (field :: rest) = .ok written ↔
      ∃ value, codec.formatDate field (valueOf left field.name) = .ok value ∧
        codec.writeFields
          (if field.strategy.admits value then Members.insert field.name value document
            else document)
          (Members.erase field.name left) rest = .ok written := Except.bind_eq_ok_iff

/-- Writing keeps a document sorted. -/
theorem sorted_of_writeFields {fields : List FieldDescriptor} {document left written : Members Json}
    (hsorted : document.Sorted) (h : codec.writeFields document left fields = .ok written) :
    written.Sorted := by
  induction fields generalizing document left with
  | nil =>
    cases h
    exact hsorted
  | cons field rest ih =>
    obtain ⟨value, -, hrest⟩ := writeFields_cons_eq_ok_iff.mp h
    refine ih ?_ hrest
    split
    · exact hsorted.insert field.name value
    · exact hsorted

theorem find?_kept_self (kept : Bool) (name : String) (value : Json) (document : Members Json) :
    Members.find? name (if kept then Members.insert name value document else document) =
      if kept then some value else Members.find? name document := by
  cases kept with
  | false => rfl
  | true => exact Members.find?_insert_self name value document

/-- Writing a field, or not, leaves other names as they are. -/
theorem find?_kept_of_ne {name other : String} (h : name ≠ other) (kept : Bool) (value : Json)
    (document : Members Json) :
    Members.find? name (if kept then Members.insert other value document else document) =
      Members.find? name document := by
  cases kept with
  | false => rfl
  | true => exact Members.find?_insert_of_ne h value document

/-- Names of no field that is written stay as they are. -/
theorem find?_of_writeFields_of_not_mem {fields : List FieldDescriptor}
    {document left written : Members Json}
    (h : codec.writeFields document left fields = .ok written) {name : String}
    (hname : ∀ field ∈ fields, field.name ≠ name) :
    Members.find? name written = Members.find? name document := by
  induction fields generalizing document left with
  | nil =>
    cases h
    rfl
  | cons field rest ih =>
    obtain ⟨value, -, hrest⟩ := writeFields_cons_eq_ok_iff.mp h
    have hne : name ≠ field.name := (hname field List.mem_cons_self).symm
    rw [ih hrest fun other hmem => hname other (List.mem_cons_of_mem _ hmem)]
    exact find?_kept_of_ne hne _ value document

theorem valueOf_erase_of_ne {name other : String} (h : name ≠ other) (members : Members Json) :
    valueOf (Members.erase other members) name = valueOf members name := by
  unfold valueOf
  rw [Members.find?_erase, if_neg h]

/-- Where all names are different, the first is not that of a later field. -/
theorem nodup_names_cons {first : FieldDescriptor} {rest : List FieldDescriptor}
    (h : ((first :: rest).map (·.name)).Nodup) :
    (∀ field ∈ rest, field.name ≠ first.name) ∧ (rest.map (·.name)).Nodup := by
  obtain ⟨hfresh, hrest⟩ := List.nodup_cons.mp h
  refine ⟨fun field hmem heq => hfresh ?_, hrest⟩
  exact List.mem_map.mpr ⟨field, hmem, heq⟩

/-- Each field takes its value from the members, if all names are different. -/
theorem find?_of_writeFields_of_mem {fields : List FieldDescriptor}
    {document left written : Members Json} (hdistinct : (fields.map (·.name)).Nodup)
    (h : codec.writeFields document left fields = .ok written) {field : FieldDescriptor}
    (hfield : field ∈ fields) :
    ∃ value, codec.formatDate field (valueOf left field.name) = .ok value ∧
      Members.find? field.name written =
        if field.strategy.admits value then some value else Members.find? field.name document := by
  induction fields generalizing document left with
  | nil => cases hfield
  | cons first rest ih =>
    obtain ⟨value, hvalue, hrest⟩ := writeFields_cons_eq_ok_iff.mp h
    obtain ⟨hother, hdistinct⟩ := nodup_names_cons hdistinct
    rcases List.mem_cons.mp hfield with rfl | hmem
    · -- the fields after this one do not touch it
      refine ⟨value, hvalue, ?_⟩
      rw [find?_of_writeFields_of_not_mem hrest hother]
      exact find?_kept_self _ field.name value document
    · have hne := hother field hmem
      obtain ⟨value', hvalue', hfind⟩ := ih hdistinct hrest hmem
      rw [valueOf_erase_of_ne hne] at hvalue'
      refine ⟨value', hvalue', hfind.trans ?_⟩
      rw [find?_kept_of_ne hne]

/-- Fields whose values can be written are written. -/
theorem exists_of_writeFields {fields : List FieldDescriptor} (document : Members Json)
    {left : Members Json} (hdistinct : (fields.map (·.name)).Nodup)
    (hvalues : ∀ field ∈ fields,
      ∃ value, codec.formatDate field (valueOf left field.name) = .ok value) :
    ∃ written, codec.writeFields document left fields = .ok written := by
  induction fields generalizing document left with
  | nil => exact ⟨document, rfl⟩
  | cons first rest ih =>
    obtain ⟨value, hvalue⟩ := hvalues first List.mem_cons_self
    obtain ⟨hother, hdistinct⟩ := nodup_names_cons hdistinct
    have hrest : ∀ field ∈ rest, ∃ value,
        codec.formatDate field (valueOf (Members.erase first.name left) field.name) =
          .ok value := by
      intro field hmem
      rw [valueOf_erase_of_ne (hother field hmem)]
      exact hvalues field (List.mem_cons_of_mem _ hmem)
    obtain ⟨written, hwritten⟩ := ih _ hdistinct hrest
    exact ⟨written, writeFields_cons_eq_ok_iff.mpr ⟨value, hvalue, hwritten⟩⟩

/-! ## Documents -/

theorem not_isKey_iff {name : String} :
    (!codec.metadata.isKey name) = true ↔ codec.metadata.keyField ≠ some name := by
  rw [Metadata.isKey, Bool.not_eq_true', beq_eq_false_iff_ne]

theorem mem_storedFields {field : FieldDescriptor} :
    field ∈ codec.metadata.storedFields ↔
      field ∈ codec.metadata.fields ∧ codec.metadata.keyField ≠ some field.name := by
  rw [Metadata.storedFields, List.mem_filter, not_isKey_iff]

theorem mem_storedFields_iff {key : String} (hkey : codec.metadata.keyField = some key)
    {field : FieldDescriptor} :
    field ∈ codec.metadata.storedFields ↔ field ∈ codec.metadata.fields ∧ field.name ≠ key := by
  rw [mem_storedFields, hkey, ne_eq, Option.some.injEq]
  exact and_congr_right fun _ => not_congr eq_comm

theorem nodup_storedFields (h : (codec.metadata.fields.map (·.name)).Nodup) :
    (codec.metadata.storedFields.map (·.name)).Nodup :=
  h.sublist (List.filter_sublist.map _)

theorem members_eq_ok_iff {α : Type} [Entity α] {entity : α} {members : Members Json} :
    codec.members entity = .ok members ↔ Entity.toJson entity = .object members := by
  unfold Codec.members
  cases Entity.toJson entity <;> simp

/-- What is written of the members of an entity is its stored source. -/
theorem toWireDocument_eq_ok {α : Type} [Entity α] {entity : α} {members document : Members Json}
    (hmembers : Entity.toJson entity = .object members)
    (hdocument : codec.writeFields [] members codec.metadata.storedFields = .ok document) :
    codec.toWireDocument entity = .ok (.object document) := by
  refine Except.bind_eq_ok_iff.mpr ⟨members, members_eq_ok_iff.mpr hmembers, ?_⟩
  exact Except.bind_eq_ok_iff.mpr ⟨document, hdocument, rfl⟩

/-- The document holds what the entity's members give the stored fields, and nothing else. -/
structure Stores (codec : Codec) (members document : Members Json) : Prop where
  sorted : document.Sorted
  kept : ∀ field ∈ codec.metadata.storedFields,
    field.strategy.Keeps (valueOf members field.name) →
      Members.find? field.name document = some (valueOf members field.name)
  left_out : ∀ field ∈ codec.metadata.storedFields,
    ¬ field.strategy.Keeps (valueOf members field.name) → Members.find? field.name document = none
  undeclared : ∀ name, (∀ field ∈ codec.metadata.storedFields, field.name ≠ name) →
    Members.find? name document = none

/-- Without date formats an entity that is an object is stored. -/
theorem exists_stores {α : Type} [Entity α] {entity : α} {members : Members Json}
    (hmembers : Entity.toJson entity = .object members)
    (hdistinct : (codec.metadata.fields.map (·.name)).Nodup)
    (hformats : ∀ field ∈ codec.metadata.storedFields, codec.fieldFormat? field = none) :
    ∃ document, codec.toWireDocument entity = .ok (.object document) ∧
      codec.Stores members document := by
  have hstored := nodup_storedFields hdistinct
  obtain ⟨document, hdocument⟩ : ∃ document,
      codec.writeFields [] members codec.metadata.storedFields = .ok document :=
    exists_of_writeFields [] hstored fun field hmem =>
      ⟨_, formatDate_of_no_format (hformats field hmem) _⟩
  have hfind : ∀ field ∈ codec.metadata.storedFields, Members.find? field.name document =
      if field.strategy.admits (valueOf members field.name) then
        some (valueOf members field.name) else none := by
    intro field hmem
    obtain ⟨value, hvalue, hfind⟩ := find?_of_writeFields_of_mem hstored hdocument hmem
    rw [formatDate_of_no_format (hformats field hmem)] at hvalue
    cases hvalue
    exact hfind
  refine ⟨document, toWireDocument_eq_ok hmembers hdocument,
    sorted_of_writeFields Members.sorted_nil hdocument, ?_, ?_, ?_⟩
  · intro field hmem hkeeps
    rw [hfind field hmem, if_pos ((field.strategy.admits_iff _).mpr hkeeps)]
  · intro field hmem hkeeps
    rw [hfind field hmem, if_neg fun hadmits => hkeeps ((field.strategy.admits_iff _).mp hadmits)]
  · intro name hname
    exact find?_of_writeFields_of_not_mem hdocument hname

/-! ## Reading -/

/-- Without date formats reading leaves a sorted source as it is. -/
theorem readDates_of_no_format {fields : List FieldDescriptor} {source : Members Json}
    (hsorted : source.Sorted) (hformats : ∀ field ∈ fields, codec.fieldFormat? field = none) :
    codec.readDates source fields = source := by
  induction fields with
  | nil => rfl
  | cons field rest ih =>
    have hrest := ih fun other hmem => hformats other (List.mem_cons_of_mem _ hmem)
    unfold readDates
    split
    · next value hvalue =>
      rw [parseDate_of_no_format (hformats field List.mem_cons_self),
        hsorted.insert_of_find? hvalue, hrest]
    · exact hrest

end Codec
end SearchMapper
