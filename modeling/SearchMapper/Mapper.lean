import SearchMapper.Bulk.Summary
import SearchMapper.Codec
import SearchMapper.Condition.Build
import SearchMapper.Metadata.Index
import SearchMapper.Metadata.Validate
import SearchMapper.Query.Request
import SearchMapper.Transport.Call

/-!
# The document mapper

The operations on the documents of one entity type: insert, update, delete and select, one at
a time, in batches and by condition. Each is a program over calls to the backend. Whatever
can be refused is refused before anything is sent.
-/

namespace SearchMapper

/-- The identifier must not be blank. -/
def requireId (id : String) : Except Invalid String :=
  if Text.isBlank id then .error .blankId else .ok id

/-- None of the identifiers from a position on must be blank. -/
def requireIdsFrom (position : Nat) : List String → Except Invalid Unit
  | [] => .ok ()
  | id :: rest =>
    if Text.isBlank id then .error (.blankIdAt position) else requireIdsFrom (position + 1) rest

/-- There must be identifiers, and none of them blank. -/
def requireIds (ids : List String) : Except Invalid Unit :=
  if ids.isEmpty then .error .noIds else requireIdsFrom 0 ids

/-- What an update by condition writes. -/
inductive UpdateSet (α : Type) where
  /-- The fields of an entity, by their strategies. -/
  | entity (entity : α)
  /-- Exactly these fields, nulls included. -/
  | fields (fields : List (String × Json))

/-- A mapper for the entities of a type. -/
structure Mapper (α : Type) where
  metadata : Metadata
  config : Config

namespace Mapper
variable {α : Type} (mapper : Mapper α)

/-- A mapper, if the configured date format and the metadata are valid. -/
def ofMetadata (metadata : Metadata) (config : Config) : Except Invalid (Mapper α) := do
  match config.dateFormat with
  | some format => validateDateFormat format
  | none => pure ()
  metadata.validate
  return { metadata, config }

/-- A mapper for entities that describe themselves. -/
def new [Document α] (config : Config) : Except Invalid (Mapper α) :=
  ofMetadata (Document.metadata α) config

/-- The index of all operations. -/
def indexName : String := mapper.metadata.indexName

/-- The codec of the entity type. -/
def codec : Codec := { metadata := mapper.metadata, dateFormat := mapper.config.dateFormat }

/-- The identifier mode in effect. -/
def idType : IdType := mapper.metadata.resolveIdType mapper.config.defaultIdType

/-! ## Identifiers -/

/-- The identifier in the key field of an entity, which must be there and not be blank. -/
def keyOf [Entity α] (missing : Invalid) (entity : α) : Operation String := do
  match ← Operation.coded (mapper.codec.identifierOf entity) with
  | some id => Operation.check (requireId id)
  | none => Program.fail (.validation missing)

/-- The identifier that an entity is inserted with. Without one the backend chooses. -/
def insertId [Entity α] (entity : α) : Operation (Option String) :=
  match mapper.idType with
  | .backend => return none
  | .uuid => .newId fun id => return some id
  | .custom => return some (← mapper.keyOf (.customIdMissing mapper.indexName) entity)

/-- The identifier of an entity that is stored already. -/
def existingId [Entity α] (entity : α) : Operation String :=
  mapper.keyOf (.entityWithoutId mapper.indexName) entity

/-! ## Batches -/

/-- Sends operations in one bulk request, if there are any and not too many. -/
def execute (operations : List BulkOperation) (policy : BatchPolicy) :
    Operation BatchSummary := do
  if operations.isEmpty then return .empty
  Operation.check (validateBatchSize mapper.config.maxBatchSize operations.length)
  let response ← Operation.send (.bulk mapper.indexName operations)
  Program.lift (response.reconcile operations policy)

/-- The operations for entities, in order. -/
def operations (make : α → Operation BulkOperation) : List α → Operation (List BulkOperation)
  | [] => return []
  | entity :: rest => do
    let operation ← make entity
    return operation :: (← operations make rest)

/-- Sends one operation for each entity, once all of them are made. -/
def executeEach (entities : List α) (make : α → Operation BulkOperation)
    (policy : BatchPolicy) : Operation BatchSummary := do
  if entities.isEmpty then return .empty
  Operation.check (validateBatchSize mapper.config.maxBatchSize entities.length)
  mapper.execute (← operations make entities) policy

/-! ## Insert -/

/-- Inserts an entity. A document that replaces another one does not count as affected. -/
def insert [Entity α] (entity : α) : Operation WriteOutcome := do
  let id ← mapper.insertId entity
  let document ← Operation.coded (mapper.codec.toWireDocument entity)
  let response ← Operation.send (.indexDocument mapper.indexName id document)
  return { affected := if response.status = 201 then 1 else 0, id := some response.id }

/-- The operation that inserts an entity. -/
def insertOperation [Entity α] (entity : α) : Operation BulkOperation := do
  let id ← mapper.insertId entity
  return .index id (← Operation.coded (mapper.codec.toWireDocument entity))

/-- Inserts entities in one bulk request, all or none as far as the answer tells. -/
def insertBatch [Entity α] (entities : List α) : Operation BatchSummary :=
  mapper.executeEach entities mapper.insertOperation .failFast

/-! ## Update -/

/-- The identifiers of the documents that match, up to the configured page size. -/
def matchingIds (conditions : Conditions) : Operation (List String) := do
  let query : SearchQuery := { conditions }
  let body ← Program.lift (query.idsOnly mapper.config.defaultSize)
  let response ← Operation.send (.search mapper.indexName body)
  return response.ids

/-- The document that an update writes. -/
def updateDocument [Entity α] : UpdateSet α → Except CodecFault Json
  | .entity entity => mapper.codec.toWireDocument entity
  | .fields fields => mapper.codec.fieldsDocument fields

/-- Updates all documents that match, in one bulk request by their identifiers. -/
def update [Entity α] (set : UpdateSet α) (conditions : Conditions) : Operation BatchSummary := do
  let document ← Operation.coded (mapper.updateDocument set)
  let ids ← mapper.matchingIds conditions
  mapper.execute (ids.map fun id => .update id document) .tally

/-- Updates the document of an entity. -/
def updateById [Entity α] (entity : α) : Operation WriteOutcome := do
  let id ← mapper.existingId entity
  let document ← Operation.coded (mapper.codec.toWireDocument entity)
  let response ← Operation.send (.updateDocument mapper.indexName id document)
  return { affected := if response.status = 200 then 1 else 0, id := some id }

/-- The operation that updates the document of an entity. -/
def updateOperation [Entity α] (entity : α) : Operation BulkOperation := do
  let id ← mapper.existingId entity
  return .update id (← Operation.coded (mapper.codec.toWireDocument entity))

/-- Updates the documents of entities in one bulk request. -/
def updateBatchById [Entity α] (entities : List α) : Operation BatchSummary :=
  mapper.executeEach entities mapper.updateOperation .tally

/-! ## Delete -/

/-- Deletes all documents that match, in one bulk request by their identifiers. -/
def delete (conditions : Conditions) : Operation BatchSummary := do
  let ids ← mapper.matchingIds conditions
  mapper.execute (ids.map .delete) .tally

/-- Deletes a document. -/
def deleteById (id : String) : Operation WriteOutcome := do
  let id ← Operation.check (requireId id)
  let response ← Operation.send (.deleteDocument mapper.indexName id)
  return { affected := if response.status = 200 then 1 else 0, id := some id }

/-- Deletes documents in one bulk request. -/
def deleteBatchByIds (ids : List String) : Operation BatchSummary := do
  Operation.check (requireIds ids)
  mapper.execute (ids.map .delete) .tally

/-! ## Select -/

/-- The answer to a query as it is. -/
def search (query : SearchQuery) : Operation SearchResponse := do
  let body ← Program.lift (query.build mapper.config.defaultSize)
  Operation.send (.search mapper.indexName body)

/-- The entities that match a query. -/
def selectList [Entity α] (query : SearchQuery) : Operation (List α) := do
  let response ← mapper.search query
  let withId :=
    Codec.includesIdentifier mapper.metadata.keyField query.includes query.excludes
  Operation.coded <| response.hits.mapM fun hit => mapper.codec.ofWireHit hit.source hit.id withId

/-- The query for the document with an identifier. -/
def byId (id : String) : SearchQuery :=
  { conditions := .compare .eq "_id" (.string id), limit := some 1 }

/-- The entity with an identifier, if there is one. -/
def selectById [Entity α] (id : String) : Operation (Option α) := do
  let id ← Operation.check (requireId id)
  return (← mapper.selectList (byId id)).head?

/-- The number of documents that match. -/
def selectCount (conditions : Conditions) : Operation UInt64 := do
  let query : SearchQuery := { conditions }
  let body ← Program.lift query.count
  return (← Operation.send (.search mapper.indexName body)).total

/-- The body of the request for a query, as readable text. -/
def source (query : SearchQuery) : Except MapperError String :=
  (query.build mapper.config.defaultSize).map Json.pretty

/-! ## Indices -/

/-- The index exists. -/
def existsIndex (index : String) : Operation Bool := Operation.send (.indexExists index)

/-- Creates an index. -/
def createIndex (index : String) (body : Json) : Operation Bool :=
  Operation.send (.createIndex index body)

/-- Deletes an index. -/
def deleteIndex (index : String) : Operation Bool := Operation.send (.deleteIndex index)

/-- The definition of the index of the mapper. -/
def indexDefinition : IndexDefinition :=
  .ofMetadata mapper.metadata mapper.config.dateFormat

end Mapper
end SearchMapper
