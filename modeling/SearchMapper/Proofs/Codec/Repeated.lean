import SearchMapper.Metadata.Registry
import SearchMapper.Proofs.Codec.Stored

/-!
# Fields that are declared more than once

Writing takes the value of a field out of the members, so of several fields of one name the first
one finds the value and the others find null. A later one whose strategy keeps null writes it over
the value. Here names need not be different, and no stored field has a date format.
-/

namespace SearchMapper

namespace FieldStrategy

instance (strategy : FieldStrategy) (value : Json) : Decidable (strategy.Keeps value) :=
  decidable_of_iff _ (strategy.admits_iff value)

/-- Every strategy keeps a value other than null and the empty text. -/
theorem keeps_of_ne {value : Json} (hnull : value ≠ .null) (hempty : value ≠ .string "")
    (strategy : FieldStrategy) : strategy.Keeps value := by
  cases strategy with
  | always => exact trivial
  | ignored => exact trivial
  | notNull => exact hnull
  | notEmpty => exact ⟨hnull, hempty⟩

end FieldStrategy

namespace Codec

variable {codec : Codec}

/-- The strategies of the fields of a name, in order. -/
def strategiesOf (name : String) (fields : List FieldDescriptor) : List FieldStrategy :=
  (fields.filter (·.name == name)).map (·.strategy)

/-- What fields of one name leave in a document, where `old` stands under the name before: the
first field has the value, and each later one has null. -/
def storedBy (value : Json) (old : Option Json) : List FieldStrategy → Option Json
  | [] => old
  | first :: later => storedBy .null (if first.admits value then some value else old) later

theorem strategiesOf_cons_self (field : FieldDescriptor) (rest : List FieldDescriptor) :
    strategiesOf field.name (field :: rest) = field.strategy :: strategiesOf field.name rest := by
  have hfilter : (field :: rest).filter (·.name == field.name) =
      field :: rest.filter (·.name == field.name) :=
    List.filter_cons_of_pos (beq_self_eq_true field.name)
  unfold strategiesOf
  rw [hfilter, List.map_cons]

theorem strategiesOf_cons_of_ne {name : String} {field : FieldDescriptor} (h : name ≠ field.name)
    (rest : List FieldDescriptor) :
    strategiesOf name (field :: rest) = strategiesOf name rest := by
  have hfilter : (field :: rest).filter (·.name == name) = rest.filter (·.name == name) :=
    List.filter_cons_of_neg fun heq => h (eq_of_beq heq).symm
  unfold strategiesOf
  rw [hfilter]

theorem valueOf_erase_self (name : String) (members : Members Json) :
    valueOf (Members.erase name members) name = .null := by
  unfold valueOf
  rw [Members.find?_erase, if_pos rfl]
  rfl

/-- Fields that find null write it if one of them keeps it. -/
theorem storedBy_null (old : Option Json) (strategies : List FieldStrategy) :
    storedBy .null old strategies =
      if ∃ strategy ∈ strategies, strategy.Keeps .null then some .null else old := by
  induction strategies generalizing old with
  | nil => rw [if_neg fun ⟨_, hmem, _⟩ => List.not_mem_nil hmem, storedBy]
  | cons first later ih =>
    rw [storedBy, ih]
    simp only [List.exists_mem_cons_iff, first.admits_iff]
    by_cases hlater : ∃ strategy ∈ later, strategy.Keeps .null
    · -- null is written again, over whatever the first field left
      rw [if_pos hlater, if_pos (.inr hlater)]
    · rw [if_neg hlater]
      by_cases hfirst : first.Keeps .null
      · rw [if_pos hfirst, if_pos (.inl hfirst)]
      · rw [if_neg hfirst, if_neg (not_or_intro hfirst hlater)]

/-! ## Writing -/

/-- Without date formats every list of fields is written. -/
theorem exists_of_writeFields_of_no_format {fields : List FieldDescriptor}
    (document left : Members Json)
    (hformats : ∀ field ∈ fields, codec.fieldFormat? field = none) :
    ∃ written, codec.writeFields document left fields = .ok written := by
  induction fields generalizing document left with
  | nil => exact ⟨document, rfl⟩
  | cons first rest ih =>
    obtain ⟨written, hwritten⟩ :=
      ih _ _ fun field hmem => hformats field (List.mem_cons_of_mem _ hmem)
    have hfirst := formatDate_of_no_format (hformats first List.mem_cons_self)
    exact ⟨written, writeFields_cons_eq_ok_iff.mpr ⟨_, hfirst _, hwritten⟩⟩

/-- What is written under a name, whichever fields have it. -/
theorem find?_of_writeFields_of_no_format {fields : List FieldDescriptor}
    {document left written : Members Json}
    (hformats : ∀ field ∈ fields, codec.fieldFormat? field = none)
    (h : codec.writeFields document left fields = .ok written) (name : String) :
    Members.find? name written =
      storedBy (valueOf left name) (Members.find? name document) (strategiesOf name fields) := by
  induction fields generalizing document left with
  | nil =>
    cases h
    rfl
  | cons first rest ih =>
    obtain ⟨value, hvalue, hrest⟩ := writeFields_cons_eq_ok_iff.mp h
    rw [formatDate_of_no_format (hformats first List.mem_cons_self)] at hvalue
    cases hvalue
    have hlater := ih (fun field hmem => hformats field (List.mem_cons_of_mem _ hmem)) hrest
    rw [hlater]
    by_cases hname : name = first.name
    · subst hname
      -- the value is taken, so that the rest of the fields finds null
      rw [valueOf_erase_self, strategiesOf_cons_self, storedBy, find?_kept_self]
    · rw [valueOf_erase_of_ne hname, strategiesOf_cons_of_ne hname, find?_kept_of_ne hname]

/-! ## Documents -/

/-- Without date formats an entity that is an object is stored, under each name by the strategies
of its fields. -/
theorem exists_storedBy {α : Type} [Entity α] {entity : α} {members : Members Json}
    (hmembers : Entity.toJson entity = .object members)
    (hformats : ∀ field ∈ codec.metadata.storedFields, codec.fieldFormat? field = none) :
    ∃ document, codec.toWireDocument entity = .ok (.object document) ∧
      ∀ name, Members.find? name document =
        storedBy (valueOf members name) none (strategiesOf name codec.metadata.storedFields) := by
  obtain ⟨document, hdocument⟩ := exists_of_writeFields_of_no_format [] members hformats
  exact ⟨document, toWireDocument_eq_ok hmembers hdocument,
    find?_of_writeFields_of_no_format hformats hdocument⟩

/-- **The value of a repeated field.** Without date formats an entity that is an object is stored.
A value other than null and the empty text is stored under the name of its field exactly if no
field but the first of that name keeps null; otherwise null is stored in its place. -/
theorem value_stored_iff {α : Type} [Entity α] {entity : α} {members : Members Json}
    (hmembers : Entity.toJson entity = .object members)
    (hformats : ∀ field ∈ codec.metadata.storedFields, codec.fieldFormat? field = none) :
    ∃ document, codec.toWireDocument entity = .ok (.object document) ∧
      ∀ name first later, strategiesOf name codec.metadata.storedFields = first :: later →
        valueOf members name ≠ .null → valueOf members name ≠ .string "" →
          (Members.find? name document = some (valueOf members name) ↔
            ∀ strategy ∈ later, ¬ strategy.Keeps .null) ∧
          (Members.find? name document ≠ some (valueOf members name) →
            Members.find? name document = some .null) := by
  obtain ⟨document, hdocument, hstored⟩ := exists_storedBy hmembers hformats
  refine ⟨document, hdocument, ?_⟩
  intro name first later hstrategies hnull hempty
  have hfirst : first.admits (valueOf members name) = true :=
    (first.admits_iff _).mpr (FieldStrategy.keeps_of_ne hnull hempty first)
  rw [hstored name, hstrategies, storedBy, storedBy_null, if_pos hfirst]
  -- the first field has the value; all that matters is whether a later one writes null over it
  by_cases hlater : ∃ strategy ∈ later, strategy.Keeps .null
  · rw [if_pos hlater]
    refine ⟨⟨fun heq => ?_, fun hnone => ?_⟩, fun _ => rfl⟩
    · exact absurd (Option.some.inj heq).symm hnull
    · obtain ⟨strategy, hmem, hkeeps⟩ := hlater
      exact absurd hkeeps (hnone strategy hmem)
  · rw [if_neg hlater]
    refine ⟨⟨fun _ strategy hmem hkeeps => hlater ⟨strategy, hmem, hkeeps⟩, fun _ => rfl⟩, ?_⟩
    exact fun hne => absurd rfl hne

/-- A field that is declared twice, where the second field is written only with a value other than
null. -/
theorem value_stored_iff_notNull :
    let codec : Codec :=
      ⟨{ indexName := "items", fields := [{ name := "a" }, { name := "a", strategy := .notNull }] },
        none⟩
    ∃ document, codec.toWireDocument (Json.object [("a", .uint64 1)]) = .ok (.object document) ∧
      Members.find? "a" document = some (.uint64 1) := by
  intro codec
  have hmembers : Entity.toJson (Json.object [("a", .uint64 1)]) =
      .object [("a", .uint64 1)] := rfl
  have hformats : ∀ field ∈ codec.metadata.storedFields, codec.fieldFormat? field = none := by
    decide
  obtain ⟨document, hdocument, hvalues⟩ := value_stored_iff hmembers hformats
  have hkept := (hvalues "a" .always [.notNull] rfl nofun nofun).1
  refine ⟨document, hdocument, hkept.mpr ?_⟩
  decide

/-- Two fields of one name that are always written are accepted, and lose every value. -/
theorem stored_null_of_declared_twice :
    let codec : Codec :=
      ⟨{ indexName := "items", keyField := some "id", fields := [{ name := "a" }, { name := "a" }] },
        none⟩
    (({} : Registry Unit).get () codec.metadata).result = .ok codec.metadata ∧
      (∀ field ∈ codec.metadata.storedFields, codec.fieldFormat? field = none) ∧
      codec.toWireDocument (Json.object [("a", .uint64 1)]) = .ok (.object [("a", .null)]) := by
  refine ⟨?_, by decide, rfl⟩
  rfl

end Codec
end SearchMapper
