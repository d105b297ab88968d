import SearchMapper.Proofs.Codec.ReadBack
import SearchMapper.Proofs.Mapper.DateFormats

/-!
# Identifiers read from key fields

Where entities bring their identifiers with them, these are read from the key field. Metadata that
ask for such identifiers and have no key field are refused. Where they leave the mode to the
configuration, the check does not see it: a mapper is made, and refuses every entity.
-/

namespace SearchMapper

variable {σ α : Type}

/-! ## Identifiers -/

/-- The value of a key field is an identifier: a text that is not blank, or the text of a number. -/
inductive Json.IsId : Json → String → Prop
  | text {id : String} (h : Text.isBlank id = false) : IsId (.string id) id
  | number (n : JsonNumber) : IsId (.number n) n.text

/-- The entity is an object with the identifier in its key field. -/
def Codec.Identifies [Entity α] (codec : Codec) (entity : α) (id : String) : Prop :=
  ∃ key members value, codec.metadata.keyField = some key ∧
    Entity.toJson entity = .object members ∧ Members.find? key members = some value ∧
    value.IsId id

/-! ## Reading identifiers -/

theorem Json.isId_iff {value : Json} {id : String} :
    value.IsId id ↔ value.toId? = some id ∧ Text.isBlank id = false := by
  constructor
  · rintro (⟨h⟩ | ⟨n⟩)
    · exact ⟨rfl, h⟩
    · exact ⟨rfl, n.isBlank_text⟩
  · rintro ⟨hid, hblank⟩
    cases value with
    | string text =>
      cases hid
      exact .text hblank
    | number n =>
      cases hid
      exact .number n
    | _ => cases hid

namespace Codec

variable [Entity α] {codec : Codec} {entity : α} {id : String}

/-- An entity is identified by what is read from its key field, unless that is blank. -/
theorem identifies_iff :
    codec.Identifies entity id ↔
      codec.identifierOf entity = .ok (some id) ∧ Text.isBlank id = false := by
  constructor
  · rintro ⟨key, members, value, hkey, hmembers, hvalue, hid⟩
    obtain ⟨hread, hblank⟩ := Json.isId_iff.mp hid
    rw [identifierOf_eq hkey hmembers, hvalue]
    exact ⟨congrArg Except.ok hread, hblank⟩
  · rintro ⟨hread, hblank⟩
    cases hkey : codec.metadata.keyField with
    | none =>
      unfold identifierOf at hread
      rw [hkey] at hread
      cases hread
    | some key =>
      unfold identifierOf at hread
      rw [hkey] at hread
      obtain ⟨members, hmembers, hfound⟩ := Except.bind_eq_ok_iff.mp hread
      obtain ⟨value, hvalue, hid⟩ := Option.bind_eq_some_iff.mp (Except.ok.inj hfound)
      exact ⟨key, members, value, hkey, members_eq_ok_iff.mp hmembers, hvalue,
        Json.isId_iff.mpr ⟨hid, hblank⟩⟩

end Codec

theorem requireId_eq_ok_iff {given id : String} :
    requireId given = .ok id ↔ given = id ∧ Text.isBlank id = false := by
  unfold requireId
  split
  · next hblank =>
    constructor
    · nofun
    · rintro ⟨rfl, hnot⟩
      rw [hnot] at hblank
      cases hblank
  · next hblank =>
    rw [Bool.not_eq_true] at hblank
    constructor
    · rintro ⟨⟩
      exact ⟨rfl, hblank⟩
    · rintro ⟨rfl, -⟩
      rfl

namespace Mapper

variable {mapper : Mapper α} {transport : Transport σ}

/-- A mapper is without a key field in the custom mode only if the configuration chose that mode. -/
theorem custom_without_key_iff {metadata : Metadata} {config : Config}
    (hmapper : ofMetadata metadata config = .ok mapper) :
    mapper.idType = .custom ∧ mapper.metadata.keyField = none ↔
      metadata.idType = none ∧ config.defaultIdType = .custom ∧ metadata.keyField = none := by
  obtain ⟨-, hvalid, rfl⟩ := ofMetadata_eq_ok_iff.mp hmapper
  -- the check has seen the metadata, and not the mode that the configuration chooses
  have hchecked : ¬ (metadata.idType = some .custom ∧ metadata.keyField = none) :=
    fun h => (Metadata.validate_eq_ok_iff metadata).mp hvalid (.inr (.inl h))
  have hmode : (⟨metadata, config⟩ : Mapper α).idType =
      metadata.idType.getD config.defaultIdType := rfl
  rw [hmode]
  cases hdeclared : metadata.idType with
  | none => exact ⟨fun h => ⟨rfl, h⟩, fun h => h.2⟩
  | some declared =>
    constructor
    · rintro ⟨rfl, hkey⟩
      exact absurd ⟨hdeclared, hkey⟩ hchecked
    · rintro ⟨⟨⟩, -⟩

/-! ## Choosing identifiers -/

variable [Entity α]

/-- The step makes no calls, and has exactly the value that `P` says, if any. -/
def Chooses {β : Type} (P : β → Prop) (calls : List Call) (result : Except MapperError β) : Prop :=
  calls = [] ∧ ∀ b, result = .ok b ↔ P b

/-- The identifier of an entity is read from its key field without a call. -/
theorem chooses_keyOf (missing : Invalid) (entity : α) :
    (mapper.keyOf missing entity).Ensures transport (Chooses (mapper.codec.Identifies entity)) := by
  unfold keyOf
  cases hread : mapper.codec.identifierOf entity with
  | error fault =>
    refine Program.ensures_done ⟨rfl, fun id => ?_⟩
    rw [Codec.identifies_iff, hread]
    exact ⟨nofun, nofun⟩
  | ok given? =>
    cases given? with
    | none =>
      refine Program.ensures_done ⟨rfl, fun id => ?_⟩
      rw [Codec.identifies_iff, hread]
      exact ⟨nofun, nofun⟩
    | some given =>
      refine Program.ensures_done ⟨rfl, fun id => ?_⟩
      rw [Codec.identifies_iff, hread, Except.mapError_eq_ok_iff, requireId_eq_ok_iff,
        Except.ok.injEq, Option.some.injEq]

/-- In the custom mode an insert is made under the identifier of the entity. -/
theorem chooses_insertId (hmode : mapper.idType = .custom) (entity : α) :
    (mapper.insertId entity).Ensures transport
      (Chooses fun id? => ∃ id, mapper.codec.Identifies entity id ∧ id? = some id) := by
  unfold insertId
  rw [hmode]
  refine (chooses_keyOf _ entity).bind ?_ ?_
  · rintro calls e ⟨rfl, hnone⟩
    refine ⟨rfl, fun id? => ⟨nofun, ?_⟩⟩
    rintro ⟨id, hid, -⟩
    cases (hnone id).mpr hid
  · rintro calls given ⟨rfl, hgiven⟩
    refine Program.ensures_done ⟨rfl, fun id? => ?_⟩
    constructor
    · rintro ⟨⟩
      exact ⟨given, (hgiven given).mp rfl, rfl⟩
    · rintro ⟨id, hid, rfl⟩
      cases (hgiven id).mpr hid
      rfl

/-- An entity with an identifier is sent under it. -/
theorem ensures_insert_of_identifies (hmode : mapper.idType = .custom) {entity : α} {id : String}
    (hid : mapper.codec.Identifies entity id) {document : Json}
    (hdocument : mapper.codec.toWireDocument entity = .ok document) :
    (mapper.insert entity).Ensures transport fun calls _ =>
      calls = [.indexDocument mapper.indexName (some id) document] := by
  refine (chooses_insertId hmode entity).bind ?_ ?_
  · -- an identifier was to be chosen
    rintro calls e ⟨-, hnone⟩
    cases (hnone (some id)).mpr ⟨id, hid, rfl⟩
  · rintro calls id? ⟨rfl, hgiven⟩
    cases (hgiven (some id)).mpr ⟨id, hid, rfl⟩
    rw [hdocument]
    refine (Operation.ensures_send _).bind ?_ ?_
    · rintro calls e ⟨rfl, -⟩
      rfl
    · rintro calls response ⟨rfl, -⟩
      exact Program.ensures_done rfl

/-- Without a key field there is no entity that can be inserted in the custom mode. -/
theorem ensures_insert_of_no_key (hmode : mapper.idType = .custom)
    (hkey : mapper.metadata.keyField = none) (entity : α) :
    (mapper.insert entity).Ensures transport fun calls result =>
      calls = [] ∧ result = .error (.validation (.customIdMissing mapper.indexName)) := by
  have hread : mapper.codec.identifierOf entity = .ok none := by
    have hcodec : mapper.codec.metadata.keyField = none := hkey
    unfold Codec.identifierOf
    rw [hcodec]
  have hinsert : mapper.insert entity =
      Program.fail (.validation (.customIdMissing mapper.indexName)) := by
    unfold insert insertId keyOf
    rw [hmode, hread]
    rfl
  rw [hinsert]
  exact Program.ensures_done ⟨rfl, rfl⟩

/-! ## Main result -/

/-- **Identifiers read from key fields.** Whether a mapper is made does not depend on the identifier
mode of its configuration. So a mapper with custom identifiers has a key field to read them from,
unless its metadata name no mode, have no key field, and the configured mode is the custom one. In
the custom mode an identifier is chosen for an entity, without a call, exactly if it is an object
with a text that is not blank or a number in its key field; it is that text or the text of that
number, and an entity that can be stored is sent under it. Without a key field every entity is
refused before anything is sent. -/
theorem custom_ids_of_key_field {metadata : Metadata} {config : Config}
    (hmapper : ofMetadata metadata config = .ok mapper) (transport : Transport σ) :
    (∀ mode, ∃ other : Mapper α,
        ofMetadata metadata (config.withDefaultIdType mode) = .ok other) ∧
      (mapper.idType = .custom ∧ mapper.metadata.keyField = none ↔
        metadata.idType = none ∧ config.defaultIdType = .custom ∧ metadata.keyField = none) ∧
      (mapper.idType = .custom → ∀ entity,
        ((mapper.insertId entity).Ensures transport
          (Chooses fun id? => ∃ id, mapper.codec.Identifies entity id ∧ id? = some id)) ∧
        (∀ id document, mapper.codec.Identifies entity id →
          mapper.codec.toWireDocument entity = .ok document →
            (mapper.insert entity).Ensures transport fun calls _ =>
              calls = [.indexDocument mapper.indexName (some id) document]) ∧
        (mapper.metadata.keyField = none →
          (mapper.insert entity).Ensures transport fun calls result =>
            calls = [] ∧
              result = .error (.validation (.customIdMissing mapper.indexName)))) := by
  refine ⟨fun mode => ?_, custom_without_key_iff hmapper, fun hmode entity => ⟨?_, ?_, ?_⟩⟩
  · obtain ⟨hformat, hvalid, -⟩ := ofMetadata_eq_ok_iff.mp hmapper
    exact ⟨_, ofMetadata_eq_ok_iff.mpr ⟨hformat, hvalid, rfl⟩⟩
  · exact chooses_insertId hmode entity
  · exact fun id document hid => ensures_insert_of_identifies hmode hid
  · exact fun hkey => ensures_insert_of_no_key hmode hkey entity

/-- A number under the key of metadata that leave the mode to the configuration. -/
theorem custom_ids_of_key_field_number :
    let metadata : Metadata := { indexName := "people", keyField := some "id" }
    let mapper : Mapper Json := ⟨metadata, { defaultIdType := .custom }⟩
    let ada : Json := .object [("id", .number (.int 7))]
    ofMetadata metadata mapper.config = .ok mapper ∧ mapper.idType = .custom ∧
      mapper.codec.Identifies ada "7" ∧
      (mapper.insert ada).Ensures Script.transport fun calls _ =>
        calls = [.indexDocument "people" (some "7") (.object [])] := by
  intro metadata mapper ada
  have hmapper : ofMetadata metadata mapper.config = .ok mapper :=
    ofMetadata_eq_ok_iff.mpr ⟨nofun, Except.eq_ok_of_toOption (by decide +kernel), rfl⟩
  have hid : mapper.codec.Identifies ada "7" := by
    refine ⟨"id", _, _, rfl, rfl, rfl, ?_⟩
    exact .number (.int 7)
  obtain ⟨-, -, hcustom⟩ := custom_ids_of_key_field hmapper Script.transport
  exact ⟨hmapper, rfl, hid, (hcustom rfl ada).2.1 "7" _ hid rfl⟩

/-- The custom mode is refused without a key field if the metadata ask for it, and accepted if the
configuration does. -/
theorem custom_by_default_without_key :
    let metadata : Metadata := { indexName := "plain", fields := [{ name := "name" }] }
    let mapper : Mapper Json := ⟨metadata, { defaultIdType := .custom }⟩
    ofMetadata (α := Json) { metadata with idType := some .custom } mapper.config =
        .error (.noKeyField "plain") ∧
      ofMetadata metadata mapper.config = .ok mapper ∧ mapper.idType = .custom ∧
      mapper.metadata.keyField = none := by
  intro metadata mapper
  have hmapper : ofMetadata metadata mapper.config = .ok mapper :=
    ofMetadata_eq_ok_iff.mpr ⟨nofun, Except.eq_ok_of_toOption (by decide +kernel), rfl⟩
  have hinvalid : { metadata with idType := some .custom }.validate =
      .error (.noKeyField "plain") := by
    have hname : ¬ Text.isBlank "plain" = true := by decide +kernel
    exact (if_neg hname).trans (if_pos ⟨rfl, rfl⟩)
  exact ⟨Except.bind_eq_error_iff.mpr (.inl hinvalid), hmapper, rfl, rfl⟩

end Mapper

end SearchMapper
