import SearchMapper.Proofs.Codec.Stored
import SearchMapper.Proofs.Text.Numerals

/-!
# Reading back what was written

An entity that is written and read back under its own identifier has what was stored of it, and
the identifier in its key field. As an untyped entity it is exactly that object. An entity type
whose key is an integer refuses the identifier as a text, and then gets the integer of which the
identifier is the text.
-/

namespace SearchMapper.Codec

variable {α : Type} [Entity α] {codec : Codec}

/-! ## What is restored -/

/-- The object has the identifier under the key, what the members give the other declared fields
as far as their strategies keep it, and nothing else. -/
structure Restores (codec : Codec) (key id : String) (members restored : Members Json) :
    Prop where
  sorted : restored.Sorted
  key_eq : Members.find? key restored = some (.string id)
  kept : ∀ field ∈ codec.metadata.fields, field.name ≠ key →
    field.strategy.Keeps (valueOf members field.name) →
      Members.find? field.name restored = some (valueOf members field.name)
  left_out : ∀ field ∈ codec.metadata.fields, field.name ≠ key →
    ¬ field.strategy.Keeps (valueOf members field.name) →
      Members.find? field.name restored = none
  undeclared : ∀ name, name ≠ key → (∀ field ∈ codec.metadata.fields, field.name ≠ name) →
    Members.find? name restored = none

/-- There is one such object at most. -/
theorem Restores.unique {key id : String} {members first second : Members Json}
    (hfirst : codec.Restores key id members first)
    (hsecond : codec.Restores key id members second) : first = second := by
  refine hfirst.sorted.ext hsecond.sorted fun name => ?_
  by_cases hkey : name = key
  · rw [hkey, hfirst.key_eq, hsecond.key_eq]
  by_cases hdeclared : ∃ field ∈ codec.metadata.fields, field.name = name
  · obtain ⟨field, hmem, rfl⟩ := hdeclared
    by_cases hkeeps : field.strategy.Keeps (valueOf members field.name)
    · rw [hfirst.kept field hmem hkey hkeeps, hsecond.kept field hmem hkey hkeeps]
    · rw [hfirst.left_out field hmem hkey hkeeps, hsecond.left_out field hmem hkey hkeeps]
  · have hundeclared : ∀ field ∈ codec.metadata.fields, field.name ≠ name :=
      fun field hmem heq => hdeclared ⟨field, hmem, heq⟩
    rw [hfirst.undeclared name hkey hundeclared, hsecond.undeclared name hkey hundeclared]

/-- The identifier over what is stored is what is to be restored. -/
theorem Stores.restores {key : String} {members document : Members Json}
    (h : codec.Stores members document) (hkey : codec.metadata.keyField = some key)
    (id : String) : codec.Restores key id members (Members.insert key (.string id) document) := by
  have hfind : ∀ name, name ≠ key →
      Members.find? name (Members.insert key (.string id) document) =
        Members.find? name document :=
    fun name hne => Members.find?_insert_of_ne hne _ _
  refine ⟨h.sorted.insert _ _, Members.find?_insert_self _ _ _, ?_, ?_, ?_⟩
  · intro field hmem hne hkeeps
    rw [hfind field.name hne]
    exact h.kept field ((mem_storedFields_iff hkey).mpr ⟨hmem, hne⟩) hkeeps
  · intro field hmem hne hkeeps
    rw [hfind field.name hne]
    exact h.left_out field ((mem_storedFields_iff hkey).mpr ⟨hmem, hne⟩) hkeeps
  · intro name hne hundeclared
    rw [hfind name hne]
    refine h.undeclared name fun field hmem => ?_
    exact hundeclared field ((mem_storedFields_iff hkey).mp hmem).1

/-- A document without date formats is read with the identifier as its key. -/
theorem ofWireHit_of_stores {key : String} {members document : Members Json}
    (h : codec.Stores members document) (hkey : codec.metadata.keyField = some key)
    (hformats : ∀ field ∈ codec.metadata.storedFields, codec.fieldFormat? field = none)
    (id : String) :
    (codec.ofWireHit (.object document) id true : Except CodecFault α) =
      decodeWithId document key id := by
  have hread := readDates_of_no_format h.sorted hformats
  unfold ofWireHit
  rw [hkey]
  show decodeWithId (codec.readDates document codec.metadata.storedFields) key id = _
  rw [hread]

/-! ## Integer keys -/

/-- Entities of the type are read only with an integer under the key, and that is their key. -/
structure ReadsIntegerKey (α : Type) [Entity α] (key : String) (keyOf : α → Option Int) :
    Prop where
  refuses_text : ∀ (members : Members Json) (text : String), ∃ refusal,
    (Entity.decode (.object (Members.insert key (.string text) members)) : Except Refusal α) =
      .error refusal
  reads_integer : ∀ (members : Members Json) (n : Int) range (entity : α),
    Entity.decode (.object (Members.insert key (.number (.int n range)) members)) = .ok entity →
      keyOf entity = some n

/-- If the text of an integer is refused as a key, the integer is the key. -/
theorem decodeWithId_toString {key : String} {n : Int}
    (range : -0x8000000000000000 ≤ n ∧ n < 0x10000000000000000) {document : Members Json}
    {refusal : Refusal}
    (h : (Entity.decode (.object (Members.insert key (.string (toString n)) document)) :
      Except Refusal α) = .error refusal) :
    (decodeWithId document key (toString n) : Except CodecFault α) =
      (Entity.decode (.object (Members.insert key (.number (.int n range)) document))).mapError
        .refused := by
  unfold decodeWithId
  rw [h]
  simp only [idNumber?_toString range]

theorem identifierOf_eq {key : String} {entity : α} {members : Members Json}
    (hkey : codec.metadata.keyField = some key)
    (hmembers : Entity.toJson entity = .object members) :
    codec.identifierOf entity = .ok ((Members.find? key members).bind Json.toId?) := by
  unfold identifierOf
  rw [hkey]
  show (do return (Members.find? key (← codec.members entity)).bind Json.toId?) = _
  rw [members_eq_ok_iff.mpr hmembers]
  rfl

/-! ## Main result -/

/-- **Reading undoes writing.** An entity that is an object is stored if all names of its fields
are different and none of the stored ones has a date format. Read as an untyped entity under its
identifier, the document is exactly the object with that identifier in its key field, the values
of the other declared fields that their strategies keep, and nothing more. For a type with an
integer key, the document is read with the integer that the key of the entity is, so that an
entity that can be read from it has the same key. -/
theorem read_back_restores {key : String} (hkey : codec.metadata.keyField = some key)
    (hdistinct : (codec.metadata.fields.map (·.name)).Nodup)
    (hformats : ∀ field ∈ codec.metadata.storedFields, codec.fieldFormat? field = none)
    {entity : α} {members : Members Json} (hmembers : Entity.toJson entity = .object members) :
    ∃ document, codec.toWireDocument entity = .ok (.object document) ∧
      (∀ id, codec.identifierOf entity = .ok (some id) →
        ∃ restored, codec.ofWireHit (.object document) id true = .ok (Json.object restored) ∧
          codec.Restores key id members restored) ∧
      ∀ keyOf, ReadsIntegerKey α key keyOf →
        ∀ n range, Members.find? key members = some (.number (.int n range)) →
          codec.identifierOf entity = .ok (some (toString n)) ∧
            ∀ back : α, Entity.decode (.object
                (Members.insert key (.number (.int n range)) document)) = .ok back →
              codec.ofWireHit (.object document) (toString n) true = .ok back ∧
                keyOf back = some n := by
  obtain ⟨document, hdocument, hstores⟩ := exists_stores hmembers hdistinct hformats
  refine ⟨document, hdocument, ?_, ?_⟩
  · intro id _
    refine ⟨Members.insert key (.string id) document, ?_, hstores.restores hkey id⟩
    rw [ofWireHit_of_stores hstores hkey hformats id]
    rfl
  · intro keyOf hreads n range hfind
    refine ⟨?_, ?_⟩
    · rw [identifierOf_eq hkey hmembers, hfind]
      rfl
    · intro back hback
      refine ⟨?_, hreads.reads_integer document n range back hback⟩
      obtain ⟨refusal, hrefused⟩ := hreads.refuses_text document (toString n)
      rw [ofWireHit_of_stores hstores hkey hformats, decodeWithId_toString range hrefused, hback]
      rfl

/-! ## An entity type with an integer key -/

/-- A counter under an unsigned number. -/
structure Counter where
  id : UInt64
  hits : UInt64
deriving DecidableEq

instance : Entity Counter where
  toJson counter := .object [("hits", .uint64 counter.hits), ("id", .uint64 counter.id)]
  decode value := do
    let fields ← Decode.fields ["id", "hits"] "a counter" value
    return {
      id := ← fields.required "id" Decode.uint64
      hits := ← fields.required "hits" Decode.uint64 }

theorem toNat_of_uint64 {n : Int} {range} {id : UInt64}
    (h : Decode.uint64 (.number (.int n range)) = .ok id) : (id.toNat : Int) = n := by
  have hread : Decode.uint64 (.number (.int n range)) =
      (if 0 ≤ n ∧ n < 0x10000000000000000 then Except.ok n
        else .error (.wrongValue (.number (.int n range)) "an unsigned integer")).map
          fun n => UInt64.ofNat n.toNat := rfl
  rw [hread] at h
  by_cases hin : 0 ≤ n ∧ n < 0x10000000000000000
  · rw [if_pos hin] at h
    cases h
    have hlt : n.toNat < 2 ^ 64 := by omega
    rw [UInt64.toNat_ofNat_of_lt' hlt]
    exact Int.toNat_of_nonneg hin.1
  · rw [if_neg hin] at h
    cases h

/-- The value under the key is the one that was put there. -/
theorem decode_counter (value : Json) (members : Members Json) :
    (Entity.decode (.object (Members.insert "id" value members)) : Except Refusal Counter) = do
      let id ← Decode.uint64 value
      let hits ← Decode.Fields.required ⟨Members.insert "id" value members, false⟩ "hits"
        Decode.uint64
      return { id, hits } := by
  have hrequired : Decode.Fields.required ⟨Members.insert "id" value members, false⟩ "id"
      Decode.uint64 = Decode.uint64 value := by
    unfold Decode.Fields.required
    rw [Members.find?_insert_self]
  rw [← hrequired]
  rfl

/-- A counter is read only with an integer under its key. -/
theorem readsIntegerKey_counter :
    ReadsIntegerKey Counter "id" fun counter => some (counter.id.toNat : Int) := by
  refine ⟨fun members text => ?_, fun members n range entity h => ?_⟩
  · rw [decode_counter]
    exact ⟨_, rfl⟩
  · rw [decode_counter] at h
    obtain ⟨id, hid, h⟩ := Except.bind_eq_ok_iff.mp h
    obtain ⟨hits, -, h⟩ := Except.bind_eq_ok_iff.mp h
    cases h
    exact congrArg some (toNat_of_uint64 hid)

/-- A counter under the largest unsigned number, which is not a signed one. -/
theorem read_back_restores_counter :
    let codec : Codec :=
      ⟨{ indexName := "counters", keyField := some "id", fields := [{ name := "hits" }] }, none⟩
    let counter : Counter := ⟨18446744073709551615, 3⟩
    (codec.identifierOf counter = .ok (some "18446744073709551615")) ∧
      ∃ document, codec.toWireDocument counter = .ok (.object document) ∧
        codec.ofWireHit (.object document) "18446744073709551615" true = .ok counter ∧
        ∃ restored, codec.ofWireHit (.object document) "18446744073709551615" true =
            .ok (Json.object restored) ∧
          codec.Restores "id" "18446744073709551615"
            [("hits", .uint64 3), ("id", .uint64 counter.id)] restored := by
  intro codec counter
  have hkey : codec.metadata.keyField = some "id" := rfl
  have hformats : ∀ field ∈ codec.metadata.storedFields, codec.fieldFormat? field = none := by
    decide
  have hmembers : Entity.toJson counter =
      .object [("hits", .uint64 3), ("id", .uint64 counter.id)] := rfl
  obtain ⟨document, hdocument, huntyped, hinteger⟩ :=
    read_back_restores hkey (by decide) hformats hmembers
  have hstored : document = [("hits", .uint64 3)] := by
    cases hdocument
    rfl
  subst hstored
  obtain ⟨hid, hback⟩ := hinteger _ readsIntegerKey_counter 18446744073709551615 (by decide) rfl
  exact ⟨hid, _, hdocument, (hback counter rfl).1, huntyped _ hid⟩

end SearchMapper.Codec
