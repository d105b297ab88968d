import SearchMapper.Proofs.Codec.ReadBack
import SearchMapper.Proofs.Json.Typed

/-!
# Identifiers written into entities

An entity is read again from its own members with the identifier under the key, first as a text,
then as the integer that the identifier is a numeral of. It takes the place of the entity only when
all of it has been read. An object takes any identifier as it is. An entity type with an integer key
takes what the identifier stands for, and tells it as the decimal text of that integer.
-/

namespace SearchMapper.Codec

variable {α : Type} [Entity α] {codec : Codec}

/-! ## In place -/

/-- The entity is replaced by what the assignment gives, and left as it was without one. -/
theorem run_assign (codec : Codec) (entity : α) (id : String) :
    (codec.assign id).run.run entity =
      ((codec.assignIdentifier entity id).map fun _ => (),
        (codec.assignIdentifier entity id).toOption.getD entity) := by
  have hset : ∀ result : Except CodecFault α,
      (do set (← result) : ExceptT CodecFault (StateM α) Unit).run.run entity =
        (result.map fun _ => (), result.toOption.getD entity) := by
    intro result
    cases result <;> rfl
  exact hset _

theorem run_assign_eq_ok_iff {entity after : α} {id : String} :
    (codec.assign id).run.run entity = (.ok (), after) ↔
      codec.assignIdentifier entity id = .ok after := by
  rw [run_assign]
  cases codec.assignIdentifier entity id with
  | ok assigned =>
    constructor
    · intro h
      cases h
      rfl
    · intro h
      cases h
      rfl
  | error fault => constructor <;> nofun

theorem eq_of_run_assign_eq_error {entity after : α} {id : String} {fault : CodecFault}
    (h : (codec.assign id).run.run entity = (.error fault, after)) : after = entity := by
  rw [run_assign] at h
  cases hassigned : codec.assignIdentifier entity id with
  | ok assigned =>
    rw [hassigned] at h
    cases h
  | error fault' =>
    rw [hassigned] at h
    exact (congrArg Prod.snd h).symm

/-- The identifier is read with the members of the entity. -/
theorem assignIdentifier_eq_ok_iff {key : String} (hkey : codec.metadata.keyField = some key)
    {entity after : α} {id : String} :
    codec.assignIdentifier entity id = .ok after ↔
      ∃ members, Entity.toJson entity = .object members ∧
        decodeWithId members key id = .ok after := by
  have hassign : codec.assignIdentifier entity id =
      codec.members entity >>= fun members => decodeWithId members key id := by
    unfold assignIdentifier
    rw [hkey]
  rw [hassign, Except.bind_eq_ok_iff]
  exact exists_congr fun members => and_congr_left fun _ => members_eq_ok_iff

/-! ## Integer keys -/

/-- Entities of the type have an integer under the key. A text is not read as one, and an integer is
written as it was read. So is everything else that was read of an entity: with another value under
the key its members are read as before. -/
structure KeepsIntegerKey (α : Type) [Entity α] (key : String) (keyOf : α → Option Int) : Prop
    extends ReadsIntegerKey α key keyOf where
  writes_key : ∀ {entity : α} {n : Int}, keyOf entity = some n →
    ∃ members range, Entity.toJson entity = .object members ∧
      Members.find? key members = some (.number (.int n range))
  reads_again : ∀ {entity read : α} {members written : Members Json} {value : Json},
    Entity.toJson entity = .object members →
      Entity.decode (.object (Members.insert key value members)) = .ok read →
        Entity.toJson read = .object written →
          ∀ other, (Entity.decode (.object (Members.insert key other written)) : Except Refusal α) =
            Entity.decode (.object (Members.insert key other members))

section

variable {key : String} {keyOf : α → Option Int}

/-- Where a text is no key, the integer is read that the identifier is a numeral of. -/
theorem ReadsIntegerKey.decodeWithId_eq_ok_iff (h : ReadsIntegerKey α key keyOf)
    {members : Members Json} {id : String} {entity : α} :
    decodeWithId members key id = .ok entity ↔
      ∃ n range, Text.IsNumeral id n ∧
        Entity.decode (.object (Members.insert key (.number (.int n range)) members)) =
          .ok entity := by
  obtain ⟨refusal, hrefused⟩ := h.refuses_text members id
  unfold decodeWithId
  rw [hrefused]
  cases hnumber : idNumber? id with
  | none =>
    constructor
    · nofun
    · rintro ⟨n, range, hnumeral, -⟩
      rw [idNumber?_eq_some_iff.mpr ⟨n, range, hnumeral, rfl⟩] at hnumber
      cases hnumber
  | some number =>
    obtain ⟨n, range, hnumeral, rfl⟩ := idNumber?_eq_some_iff.mp hnumber
    rw [Except.mapError_eq_ok_iff]
    constructor
    · exact fun hread => ⟨n, range, hnumeral, hread⟩
    · rintro ⟨m, range', hnumeral', hread⟩
      have hsame := idNumber?_eq_some_iff.mpr ⟨m, range', hnumeral', rfl⟩
      rw [hnumber] at hsame
      rw [Option.some.inj hsame]
      exact hread

/-- What was assigned first plays no part in what is assigned next. -/
theorem KeepsIntegerKey.assignIdentifier_again (h : KeepsIntegerKey α key keyOf)
    (hkey : codec.metadata.keyField = some key) {entity after : α} {id : String}
    (hassigned : codec.assignIdentifier entity id = .ok after) {second : String} {last : α} :
    codec.assignIdentifier after second = .ok last ↔
      codec.assignIdentifier entity second = .ok last := by
  obtain ⟨members, hmembers, hread⟩ := (assignIdentifier_eq_ok_iff hkey).mp hassigned
  obtain ⟨n, range, -, hdecode⟩ := h.decodeWithId_eq_ok_iff.mp hread
  obtain ⟨written, -, hwritten, -⟩ := h.writes_key (h.reads_integer members n range after hdecode)
  have hagain := h.reads_again hmembers hdecode hwritten
  simp only [assignIdentifier_eq_ok_iff hkey, hmembers, hwritten, Json.object.injEq,
    exists_eq_left', h.decodeWithId_eq_ok_iff, hagain]

end

/-! ## Main result -/

/-- **Assigning an identifier.** An assignment that fails leaves the entity as it was, and without a
key field nothing changes. An object takes any identifier as a text under its key, and keeps its
other members. An entity of a type with an integer key takes the integer of 64 bits that the
identifier is a numeral of, whatever its leading zeros and its sign, and then has the decimal text
of that integer as its identifier. A later assignment gives the same as if it were the only one. -/
theorem assigns_identifier (codec : Codec) (entity : α) (id : String) :
    (∀ fault after, (codec.assign id).run.run entity = (.error fault, after) → after = entity) ∧
      (codec.metadata.keyField = none → (codec.assign id).run.run entity = (.ok (), entity)) ∧
      ∀ key, codec.metadata.keyField = some key →
        (∀ members : Members Json, ∃ assigned : Members Json,
          (codec.assign id).run.run (Json.object members) = (.ok (), .object assigned) ∧
            (∀ name, name ≠ key → Members.find? name assigned = Members.find? name members) ∧
            codec.identifierOf (Json.object assigned) = .ok (some id) ∧
            ∀ second, (codec.assign second).run.run (Json.object assigned) =
              (codec.assign second).run.run (Json.object members)) ∧
        ∀ keyOf, KeepsIntegerKey α key keyOf →
          ∀ after, (codec.assign id).run.run entity = (.ok (), after) →
            (∃ n, (-0x8000000000000000 ≤ n ∧ n < 0x10000000000000000) ∧ Text.IsNumeral id n ∧
              keyOf after = some n ∧ codec.identifierOf after = .ok (some (toString n))) ∧
            ∀ second last, (codec.assign second).run.run after = (.ok (), last) ↔
              (codec.assign second).run.run entity = (.ok (), last) := by
  refine ⟨fun fault after => eq_of_run_assign_eq_error, fun hnone => ?_, fun key hkey => ⟨?_, ?_⟩⟩
  · have hsame : codec.assignIdentifier entity id = .ok entity := by
      unfold assignIdentifier
      rw [hnone]
    exact run_assign_eq_ok_iff.mpr hsame
  · intro members
    have hassign : ∀ (given : Members Json) (text : String),
        (codec.assign text).run.run (Json.object given) =
          (.ok (), .object (Members.insert key (.string text) given)) :=
      fun given text => run_assign_eq_ok_iff.mpr
        ((assignIdentifier_eq_ok_iff hkey).mpr ⟨given, rfl, rfl⟩)
    refine ⟨Members.insert key (.string id) members, hassign members id, ?_, ?_, ?_⟩
    · intro name hne
      exact Members.find?_insert_of_ne hne _ _
    · rw [identifierOf_eq hkey rfl, Members.find?_insert_self]
      rfl
    · intro second
      rw [hassign, hassign, Members.insert_insert]
  · intro keyOf hkeeps after hafter
    have hassigned := run_assign_eq_ok_iff.mp hafter
    constructor
    · obtain ⟨members, -, hread⟩ := (assignIdentifier_eq_ok_iff hkey).mp hassigned
      obtain ⟨n, range, hnumeral, hdecode⟩ := hkeeps.decodeWithId_eq_ok_iff.mp hread
      have hkeyOf := hkeeps.reads_integer members n range after hdecode
      obtain ⟨written, _, hwritten, hfind⟩ := hkeeps.writes_key hkeyOf
      refine ⟨n, range, hnumeral, hkeyOf, ?_⟩
      rw [identifierOf_eq hkey hwritten, hfind]
      rfl
    · intro second last
      rw [run_assign_eq_ok_iff, run_assign_eq_ok_iff]
      exact hkeeps.assignIdentifier_again hkey hassigned

/-! ## Counters -/

/-- The members of a counter with another value under its key. -/
theorem decode_members_counter {counter : Counter} {members : Members Json}
    (h : Entity.toJson counter = .object members) (value : Json) :
    (Entity.decode (.object (Members.insert "id" value members)) : Except Refusal Counter) =
      (Decode.uint64 value).map fun id => { counter with id } := by
  cases h
  have hhits : Decode.Fields.required ⟨Members.insert "id" value
      [("hits", .uint64 counter.hits), ("id", .uint64 counter.id)], false⟩ "hits" Decode.uint64 =
        .ok counter.hits := by
    unfold Decode.Fields.required
    rw [Members.find?_insert_of_ne (by decide)]
    exact Decode.uint64_uint64 counter.hits
  rw [decode_counter, hhits]
  rfl

/-- A counter keeps its number, and its hits under any number. -/
theorem keepsIntegerKey_counter :
    KeepsIntegerKey Counter "id" fun counter => some (counter.id.toNat : Int) := by
  refine ⟨readsIntegerKey_counter, ?_, ?_⟩
  · intro counter n hn
    cases hn
    exact ⟨_, _, rfl, rfl⟩
  · intro counter read members written value hmembers hread hwritten other
    rw [decode_members_counter hmembers] at hread
    rw [decode_members_counter hmembers, decode_members_counter hwritten]
    cases hid : Decode.uint64 value with
    | error refusal =>
      rw [hid] at hread
      cases hread
    | ok id =>
      rw [hid] at hread
      cases hread
      rfl

/-- A number beyond the signed range, with a sign and a leading zero, and another one after it. -/
theorem assigns_identifier_counter :
    let codec : Codec :=
      ⟨{ indexName := "counters", keyField := some "id", fields := [{ name := "hits" }] }, none⟩
    let counter : Counter := ⟨5, 3⟩
    (codec.assign "+018446744073709551615").run.run counter =
        (.ok (), ⟨18446744073709551615, 3⟩) ∧
      codec.identifierOf (⟨18446744073709551615, 3⟩ : Counter) =
        .ok (some "18446744073709551615") ∧
      (codec.assign "-7").run.run counter =
        (.error (.refused (.wrongValue (.number (.int (-7))) "an unsigned integer")), counter) ∧
      (codec.assign "007").run.run (⟨18446744073709551615, 3⟩ : Counter) = (.ok (), ⟨7, 3⟩) := by
  intro codec counter
  have hassigned : (codec.assign "+018446744073709551615").run.run counter =
      (.ok (), ⟨18446744073709551615, 3⟩) :=
    run_assign_eq_ok_iff.mpr (Except.eq_ok_of_toOption (by decide +kernel))
  obtain ⟨-, -, hkey⟩ := assigns_identifier codec counter "+018446744073709551615"
  obtain ⟨⟨n, -, -, hn, hid⟩, hagain⟩ :=
    (hkey "id" rfl).2 _ keepsIntegerKey_counter _ hassigned
  cases hn
  have hsecond : (codec.assign "007").run.run counter = (.ok (), ⟨7, 3⟩) :=
    run_assign_eq_ok_iff.mpr (Except.eq_ok_of_toOption (by decide +kernel))
  exact ⟨hassigned, hid, rfl, (hagain "007" _).mpr hsecond⟩

end SearchMapper.Codec
