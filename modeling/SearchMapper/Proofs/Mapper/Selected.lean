import SearchMapper.Mapper
import SearchMapper.Proofs.Json.Typed
import SearchMapper.Proofs.Outcome
import SearchMapper.Proofs.Query.Requests
import SearchMapper.Proofs.Transport.Runs
import SearchMapper.Transport.Scripted

/-!
# Identifiers of selected entities

A search with a projection asks for some of the source fields only, and the entities that are read
from its hits have the identifier in their key field or not. `Codec.includesIdentifier` decides it:
where the projection keeps the key field, the identifier is set. It is also set where both lists of
the projection are given and both name the key field, or neither does; the projection leaves the
key field out there.
-/

namespace SearchMapper

/-! ## Projections -/

/-- The projection of a query keeps the source field of a name: it is included, if some fields are,
and not excluded. -/
def SearchQuery.Keeps (query : SearchQuery) (name : String) : Prop :=
  (query.includes = [] ∨ name ∈ query.includes) ∧ name ∉ query.excludes

instance (query : SearchQuery) (name : String) : Decidable (query.Keeps name) :=
  inferInstanceAs (Decidable ((_ ∨ _) ∧ _))

/-- The items that the source filter of a search request lists under `part`, if it has one. -/
def filterItems (body : Json) (part : String) : List Json :=
  (((body.member? "_source").bind (Json.member? part)).bind Json.array?).getD []

/-- A search request asks for the source field of a name. Its source filter may list fields to
include and fields to exclude. -/
def AsksFor (body : Json) (name : String) : Prop :=
  (filterItems body "includes" = [] ∨ .string name ∈ filterItems body "includes") ∧
    .string name ∉ filterItems body "excludes"

namespace SearchQuery

variable {query : SearchQuery}

/-- A request has a source filter exactly if its query has a projection. -/
theorem source_of_build {size : UInt64} {body : Json} (h : query.build size = .ok body) :
    body.member? "_source" = if query.hasProjection then some query.sourceFilter else none := by
  obtain ⟨tree, -, -, hmember⟩ := member?_of_build h
  simp [hmember]

/-- The source filter of a request lists what the query includes and excludes. -/
theorem filterItems_of_build {size : UInt64} {body : Json} (h : query.build size = .ok body) :
    filterItems body "includes" = query.includes.map .string ∧
      filterItems body "excludes" = query.excludes.map .string := by
  unfold filterItems
  rw [source_of_build h]
  unfold hasProjection sourceFilter
  -- a list that is empty is left out, and reads as an empty one
  cases query.includes with
  | nil =>
    cases query.excludes with
    | nil => exact ⟨rfl, rfl⟩
    | cons name rest => exact ⟨rfl, rfl⟩
  | cons name rest =>
    cases query.excludes with
    | nil => exact ⟨rfl, rfl⟩
    | cons name' rest' => exact ⟨rfl, rfl⟩

/-- The request for a query asks for the fields that its projection keeps. -/
theorem asksFor_of_build {size : UInt64} {body : Json} (h : query.build size = .ok body)
    (name : String) : AsksFor body name ↔ query.Keeps name := by
  obtain ⟨hincludes, hexcludes⟩ := filterItems_of_build h
  unfold AsksFor Keeps
  rw [hincludes, hexcludes]
  simp

end SearchQuery

/-! ## The rule for identifiers -/

namespace Codec

theorem includesIdentifier_iff (key : String) (includes excludes : List String) :
    includesIdentifier (some key) includes excludes = true ↔
      (includes = [] ∧ excludes = []) ∨ key ∈ includes ∨ (excludes ≠ [] ∧ key ∉ excludes) := by
  unfold includesIdentifier
  by_cases hnone : includes = [] ∧ excludes = []
  · obtain ⟨rfl, rfl⟩ := hnone
    exact ⟨fun _ => .inl ⟨rfl, rfl⟩, fun _ => rfl⟩
  · have hsome : (includes.isEmpty && excludes.isEmpty) = false := by
      rw [Bool.eq_false_iff, ne_eq, Bool.and_eq_true, List.isEmpty_iff, List.isEmpty_iff]
      exact hnone
    rw [hsome, or_iff_right hnone]
    simp

/-- Where the projection keeps the key field, the identifier is set. -/
theorem includesIdentifier_of_keeps {query : SearchQuery} {key : String} (h : query.Keeps key) :
    includesIdentifier (some key) query.includes query.excludes = true := by
  obtain ⟨hincludes, hexcludes⟩ := h
  rw [includesIdentifier_iff]
  rcases hincludes with hempty | hmem
  · by_cases hnone : query.excludes = []
    · exact .inl ⟨hempty, hnone⟩
    · exact .inr (.inr ⟨hnone, hexcludes⟩)
  · exact .inr (.inl hmem)

/-- It is not set elsewhere, unless both lists are given and agree on the key field. -/
theorem includesIdentifier_iff_keeps (query : SearchQuery) (key : String) :
    (includesIdentifier (some key) query.includes query.excludes = true ↔ query.Keeps key) ↔
      ¬ (query.includes ≠ [] ∧ query.excludes ≠ [] ∧
        (key ∈ query.includes ↔ key ∈ query.excludes)) := by
  rw [includesIdentifier_iff]
  unfold SearchQuery.Keeps
  by_cases hincludes : query.includes = []
  · -- the excluded fields decide both
    by_cases hexcludes : query.excludes = []
    · simp [hincludes, hexcludes]
    · simp [hincludes, hexcludes]
  · by_cases hexcludes : query.excludes = []
    · -- the included fields decide both
      simp [hincludes, hexcludes]
    · -- either list may set the identifier, and both together keep the key field
      by_cases hincluded : key ∈ query.includes
      · simp [hincludes, hexcludes, hincluded]
      · simp [hincludes, hexcludes, hincluded]

/-! ## Reading hits -/

/-- Reading dates leaves the names of all other fields as they are. -/
theorem find?_readDates_of_not_mem (codec : Codec) {fields : List FieldDescriptor} {name : String}
    (source : Members Json) (hname : ∀ field ∈ fields, field.name ≠ name) :
    Members.find? name (codec.readDates source fields) = Members.find? name source := by
  induction fields generalizing source with
  | nil => rfl
  | cons field rest ih =>
    obtain ⟨hfield, hrest⟩ := List.forall_mem_cons.mp hname
    unfold readDates
    split
    · rw [ih _ hrest, Members.find?_insert_of_ne hfield.symm]
    · exact ih _ hrest

/-- The key field is never read as a date. -/
theorem ne_of_mem_storedFields {metadata : Metadata} {key : String}
    (hkey : metadata.keyField = some key) {field : FieldDescriptor}
    (hfield : field ∈ metadata.storedFields) : field.name ≠ key := by
  rintro rfl
  have hnot := (List.mem_filter.mp hfield).2
  unfold Metadata.isKey at hnot
  rw [hkey, beq_self_eq_true] at hnot
  cases hnot

/-- An entity is read from a hit: its key field is the identifier of the hit, as a text or as the
number that the text stands for, if `withId`, and otherwise what the source has. -/
structure ReadFrom {α : Type} [Entity α] (codec : Codec) (key : String) (hit : SearchHit)
    (withId : Bool) (entity : α) (source members : Members Json) : Prop where
  source_eq : hit.source = .object source ∨ (hit.source = .null ∧ source = [])
  decoded : Entity.decode (.object members) = .ok entity
  identifier : withId = true → Members.find? key members = some (.string hit.id) ∨
    ∃ number, idNumber? hit.id = some number ∧ Members.find? key members = some number
  key_kept : withId = false → Members.find? key members = Members.find? key source
  others : ∀ name, name ≠ key → Members.find? name members =
    Members.find? name (codec.readDates source codec.metadata.storedFields)

variable {α : Type} [Entity α] {codec : Codec} {key : String}

/-- A successful reading with an identifier had it under the key, as a text or as a number. -/
theorem exists_of_decodeWithId {source : Members Json} {id : String} {entity : α}
    (h : decodeWithId source key id = .ok entity) :
    ∃ value, Entity.decode (.object (Members.insert key value source)) = .ok entity ∧
      (value = .string id ∨ idNumber? id = some value) := by
  unfold decodeWithId at h
  split at h
  · next decoded hdecoded =>
    cases h
    exact ⟨.string id, hdecoded, .inl rfl⟩
  · split at h
    · cases h
    · next number hnumber =>
      exact ⟨number, Except.mapError_eq_ok_iff.mp h, .inr hnumber⟩

/-- What a hit is read as. -/
theorem exists_readFrom (hkey : codec.metadata.keyField = some key) {hit : SearchHit}
    {withId : Bool} {entity : α} (h : codec.ofWireHit hit.source hit.id withId = .ok entity) :
    ∃ source members, codec.ReadFrom key hit withId entity source members := by
  obtain ⟨source, hsource, h⟩ : ∃ source,
      (hit.source = .object source ∨ (hit.source = .null ∧ source = [])) ∧
        codec.ofWireHit (.object source) hit.id withId = .ok entity := by
    cases hsource : hit.source with
    | object source =>
      rw [hsource] at h
      exact ⟨source, .inl rfl, h⟩
    | null =>
      rw [hsource] at h
      exact ⟨[], .inr ⟨rfl, rfl⟩, h⟩
    | _ =>
      rw [hsource] at h
      cases h
  have hkept : Members.find? key (codec.readDates source codec.metadata.storedFields) =
      Members.find? key source :=
    codec.find?_readDates_of_not_mem source fun _ hfield => ne_of_mem_storedFields hkey hfield
  unfold ofWireHit at h
  rw [hkey] at h
  cases withId with
  | false =>
    have hdecoded := Except.mapError_eq_ok_iff.mp h
    exact ⟨source, _, hsource, hdecoded, nofun, fun _ => hkept, fun _ _ => rfl⟩
  | true =>
    -- the identifier goes over what the source has under the key
    obtain ⟨value, hdecoded, hvalue⟩ := exists_of_decodeWithId h
    refine ⟨source, _, hsource, hdecoded, fun _ => ?_, nofun, ?_⟩
    · rw [Members.find?_insert_self]
      rcases hvalue with rfl | hnumber
      · exact .inl rfl
      · exact .inr ⟨value, hnumber, rfl⟩
    · intro name hname
      exact Members.find?_insert_of_ne hname _ _

end Codec

/-! ## Selecting -/

namespace Mapper

variable {σ α : Type} [Entity α]

/-- How the entities that match a query are selected, where `withId` tells whether they have the
identifiers of their hits in their key field. -/
structure Selects (mapper : Mapper α) (transport : Transport σ) (query : SearchQuery)
    (key : String) (withId : Bool) : Prop where
  /-- A query without a request body is refused before anything is sent. -/
  of_not_built : ∀ e, query.build mapper.config.defaultSize = .error e → ∀ state,
    ((mapper.selectList query).run transport state).calls = [] ∧
      ((mapper.selectList query).run transport state).result = .error e
  /-- If the search fails, the selection fails with it. -/
  of_search_failed : ∀ body, query.build mapper.config.defaultSize = .ok body → ∀ state e,
    (transport.send (.search mapper.indexName body) state).1 = .error e →
      ((mapper.selectList query).run transport state).calls = [.search mapper.indexName body] ∧
        ((mapper.selectList query).run transport state).result = .error e
  /-- If it is answered, its hits are read in order, unless one of them cannot be read. -/
  of_answered : ∀ body, query.build mapper.config.defaultSize = .ok body →
    ∀ (state : σ) (response : SearchResponse),
      (transport.send (.search mapper.indexName body) state).1 = .ok response →
        ((mapper.selectList query).run transport state).calls =
            [.search mapper.indexName body] ∧
          ((∃ hit ∈ response.hits, ∃ fault,
            (mapper.codec.ofWireHit hit.source hit.id withId : Except CodecFault α) =
                .error fault ∧
              ((mapper.selectList query).run transport state).result =
                .error (.serialization fault)) ∨
          ∃ entities, ((mapper.selectList query).run transport state).result = .ok entities ∧
            entities.length = response.hits.length ∧
            ∀ (i : Nat) (hit : SearchHit), response.hits[i]? = some hit →
              ∃ entity source members, entities[i]? = some entity ∧
                mapper.codec.ReadFrom key hit withId entity source members)

variable (mapper : Mapper α) (transport : Transport σ) {query : SearchQuery}

theorem selectList_of_built {body : Json}
    (h : query.build mapper.config.defaultSize = .ok body) :
    mapper.selectList query =
      Operation.send (.search mapper.indexName body) >>= fun response =>
        Operation.coded <| (SearchResponse.hits response).mapM fun hit =>
          mapper.codec.ofWireHit hit.source hit.id
            (Codec.includesIdentifier mapper.metadata.keyField query.includes query.excludes) := by
  unfold selectList search
  rw [h]
  rfl

/-- Entities are selected by the rule for identifiers. -/
theorem selects_includesIdentifier (query : SearchQuery) {key : String}
    (hkey : mapper.metadata.keyField = some key) :
    mapper.Selects transport query key
      (Codec.includesIdentifier (some key) query.includes query.excludes) := by
  refine ⟨?_, ?_, ?_⟩
  · intro e hbuild state
    unfold selectList search
    rw [hbuild]
    exact ⟨rfl, rfl⟩
  · intro body hbuild state e hfailed
    rw [selectList_of_built mapper hbuild, Operation.run_send_bind_of_error hfailed]
    exact ⟨rfl, rfl⟩
  · intro body hbuild state response hanswered
    rw [selectList_of_built mapper hbuild, Operation.run_send_bind_of_ok hanswered, hkey]
    refine ⟨rfl, ?_⟩
    -- how the hits are read does not depend on the rule for `withId`
    generalize Codec.includesIdentifier (some key) query.includes query.excludes = withId
    cases hread : response.hits.mapM fun hit =>
        (mapper.codec.ofWireHit hit.source hit.id withId : Except CodecFault α) with
    | error fault =>
      obtain ⟨hit, hmem, hhit⟩ := Except.exists_mem_of_mapM_eq_error hread
      exact .inl ⟨hit, hmem, fault, hhit, rfl⟩
    | ok entities =>
      obtain ⟨hlength, hget⟩ := Except.getElem?_of_mapM hread
      refine .inr ⟨entities, rfl, hlength, ?_⟩
      intro i hit hhit
      obtain ⟨entity, hentity, hdecoded⟩ := hget i hit hhit
      obtain ⟨source, members, hfrom⟩ := Codec.exists_readFrom hkey hdecoded
      exact ⟨entity, source, members, hentity, hfrom⟩

/-- **Identifiers under a projection.** A selection reads each hit with its identifier in the key
field exactly if there is no projection, or the key field is included, or some fields are excluded
and the key field is not. So it does wherever the projection that is sent keeps the key field, and
nowhere else, unless fields are both included and excluded and the key field is in both lists or in
neither. -/
theorem selects_identifiers (query : SearchQuery) {key : String}
    (hkey : mapper.metadata.keyField = some key) :
    let withId := Codec.includesIdentifier (some key) query.includes query.excludes
    mapper.Selects transport query key withId ∧
      (withId = true ↔ (query.includes = [] ∧ query.excludes = []) ∨ key ∈ query.includes ∨
        (query.excludes ≠ [] ∧ key ∉ query.excludes)) ∧
      (∀ size body, query.build size = .ok body → (AsksFor body key ↔ query.Keeps key)) ∧
      (query.Keeps key → withId = true) ∧
      ((withId = true ↔ query.Keeps key) ↔
        ¬ (query.includes ≠ [] ∧ query.excludes ≠ [] ∧
          (key ∈ query.includes ↔ key ∈ query.excludes))) := by
  refine ⟨selects_includesIdentifier mapper transport query hkey, ?_, ?_, ?_, ?_⟩
  · exact Codec.includesIdentifier_iff key query.includes query.excludes
  · exact fun size body hbuild => SearchQuery.asksFor_of_build hbuild key
  · exact Codec.includesIdentifier_of_keeps
  · exact Codec.includesIdentifier_iff_keeps query key

/-- Notes that are read with an identifier, since only their text is left out. -/
theorem selects_identifiers_without_text :
    let notes : Mapper Json := ⟨{ indexName := "notes", keyField := some "id" }, {}⟩
    let query : SearchQuery := { excludes := ["text"] }
    let hit : Json := .ofPairs [("id", .string "7"), ("source", .single "title" (.string "New"))]
    let script : Script := { replies := [.ofPairs [("hits", .array [hit]), ("total", .uint64 1),
      ("took_ms", .uint64 1)]] }
    query.Keeps "id" ∧
      ∃ note source members,
        ((notes.selectList query).run Script.transport script).result = .ok [note] ∧
          notes.codec.ReadFrom "id" { id := "7", source := .single "title" (.string "New") } true
            note source members := by
  intro notes query hit script
  have hkeeps : query.Keeps "id" := by decide
  have hkey : notes.metadata.keyField = some "id" := rfl
  obtain ⟨hselects, -, -, hset, -⟩ := selects_identifiers notes Script.transport query hkey
  rw [hset hkeeps] at hselects
  obtain ⟨body, hbody⟩ : ∃ body, query.build notes.config.defaultSize = .ok body := ⟨_, rfl⟩
  obtain ⟨-, hread⟩ := hselects.of_answered body hbody script
    { hits := [{ id := "7", source := .single "title" (.string "New") }], total := 1, tookMs := 1 }
    rfl
  refine ⟨hkeeps, ?_⟩
  rcases hread with ⟨hit', hmem, fault, hfault, -⟩ | ⟨entities, hresult, hlength, hget⟩
  · rw [List.mem_singleton.mp hmem] at hfault
    cases hfault
  · obtain ⟨note, source, members, hnote, hfrom⟩ := hget 0 _ rfl
    obtain ⟨only, rfl⟩ := List.length_eq_one_iff.mp hlength
    cases hnote
    exact ⟨note, source, members, hresult, hfrom⟩

/-- With both lists given, the identifier is set although the projection leaves the key field
out: it is in neither list, or in both. -/
theorem identifier_set_of_key_left_out :
    let notes : Mapper Json := ⟨{ indexName := "notes", keyField := some "id" }, {}⟩
    let neither : SearchQuery := { includes := ["title"], excludes := ["text"] }
    let both : SearchQuery := { includes := ["id"], excludes := ["id"] }
    let hit : Json := .ofPairs [("id", .string "7"), ("source", .single "title" (.string "New"))]
    let script : Script := { replies := [.ofPairs [("hits", .array [hit]), ("total", .uint64 1),
      ("took_ms", .uint64 1)]] }
    ¬ neither.Keeps "id" ∧ ¬ both.Keeps "id" ∧
      Codec.includesIdentifier (some "id") neither.includes neither.excludes = true ∧
      Codec.includesIdentifier (some "id") both.includes both.excludes = true ∧
      ((notes.selectList neither).run Script.transport script).result =
        .ok [.object [("id", .string "7"), ("title", .string "New")]] := by
  intro notes neither both hit script
  refine ⟨by decide, by decide, by decide, by decide, ?_⟩
  rfl

end Mapper
end SearchMapper
