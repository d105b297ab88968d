import SearchMapper.Bulk.Wire
import SearchMapper.Mapper
import SearchMapper.Sample.Document
import SearchMapper.Text.Quoted

/-!
# The sample session

A fixed sequence of operations against one index: create the index, write documents, read
them back in several ways, update and delete them, and drop the index. The session ends at the
first failure.
-/

namespace SearchMapper

/-- Why a session ends early. -/
inductive SessionError where
  | mapper (error : MapperError)
  /-- A step read something else than the session wrote. -/
  | unexpected (step detail : String)
deriving DecidableEq, Repr

/-- The text of an error. -/
def SessionError.message : SessionError → String
  | mapper error => "Mapper error: " ++ error.message
  | unexpected step detail => "Unexpected result in step '" ++ step ++ "': " ++ detail

/-- What a session counted. -/
structure SessionReport where
  inserted : Nat
  /-- The documents of the grouped query. -/
  matched : Nat
  updated : Nat
  deleted : Nat
  /-- The documents left after deleting. -/
  remaining : UInt64
deriving DecidableEq, Repr

/-- The written form of a report. -/
def SessionReport.toJson (report : SessionReport) : Json :=
  .ofPairs [("inserted", .count report.inserted), ("matched", .count report.matched),
    ("updated", .count report.updated), ("deleted", .count report.deleted),
    ("remaining", .uint64 report.remaining)]

namespace Session

/-- A step of the session. -/
abbrev Step : Type → Type := Program SessionError

/-- An operation of the mapper as a step. -/
def step {α : Type} (operation : Operation α) : Step α := operation.mapError .mapper

/-- A number given by its decimal digits, of which the last two are behind the point. -/
def hundredths (negative : Bool) (digits : Nat) : Double := .ofDecimal negative digits (-2)

/-- Half past nine in the morning of a day of March 2024. -/
def march (day : Nat) : Timestamp :=
  .ofDateTime ⟨CivilDate.dayNumber ⟨2024, 3, day⟩⟩
    { hour := 9, minute := 30, second := 0, nanos := 0 }

/-- The document that is inserted on its own. Its creator is empty and so not stored. -/
def single : SampleDocument :=
  { SampleDocument.make "doc-1" "rust basics" with
    content := some "hello world"
    creator := some ""
    location := some ⟨hundredths false 5250, hundredths false 1335⟩ }

/-- The documents that are inserted as a batch. -/
def batch : List SampleDocument := [
  { id := some "doc-2", title := some "rust ownership", content := some "borrowing rules"
    creator := some "ann", created := some (march 2)
    location := some ⟨hundredths false 5252, hundredths false 1340⟩ },
  { id := some "doc-3", title := some "rust traits", content := some "dynamic dispatch"
    creator := some "bob", created := some (march 3)
    location := some ⟨hundredths false 4814, hundredths false 1158⟩ },
  { id := some "doc-4", title := some "search engines", content := some "inverted index"
    creator := some "ann", created := some (march 4)
    location := some ⟨hundredths false 4071, hundredths true 7400⟩ },
  { id := some "doc-5", title := some "rust async", content := some "futures and wakers"
    creator := some "cid", created := some (march 5)
    location := some ⟨hundredths false 5240, hundredths false 1306⟩ }]

/-- Titles that begin with a word, by one of two creators. -/
def groupedQuery : SearchQuery :=
  { conditions := .build [
      .compare .likeRight "title" (.string "rust"),
      .group .all [
        .compare .eq "creator" (.string "ann"),
        .orChain,
        .compare .eq "creator" (.string "bob")]]
    sorts := [{ fields := ["gmt_create"], ascending := true }]
    highlights := [{ fields := ["title"], preTag := "<em>", postTag := "</em>" }] }

/-- Titles near a place. -/
def nearbyQuery : SearchQuery :=
  { geo := some (.make "location"
      (.distance ⟨hundredths false 5252, hundredths false 1340⟩ "50km"))
    includes := ["title"] }

/-- The number of documents by creator. -/
def creatorQuery : SearchQuery :=
  { conditions := .build [.present "creator"]
    limit := some 0
    aggregations := [{ name := "per_creator", field := "creator", kind := .terms }] }

/-- Documents of some days that one creator did not write. -/
def recentConditions : Conditions :=
  .build [
    .between "gmt_create" (.string "2024-03-03 00:00:00") (.string "2024-03-31 00:00:00"),
    .notAmong "creator" [.string "cid"]]

/-- The documents that one creator wrote. -/
def creatorConditions : Conditions := .compare .eq "creator" (.string "ann")

/-- What the documents of that creator are updated with. -/
def reviewed : UpdateSet SampleDocument := .fields [("content", .string "reviewed by ann")]

/-- A document of the batch under another title. -/
def renamed : SampleDocument :=
  { SampleDocument.make "doc-3" "rust traits and generics" with creator := some "bob" }

/-- Titles that end with a word. -/
def engineConditions : Conditions := .compare .likeLeft "title" (.string "engines")

variable (mapper : Mapper SampleDocument)

/-- The definition of the index: that of the mapper, with the mappings of two fields. -/
def indexDefinition : IndexDefinition :=
  let mapping (type : String) : Json := .single "type" (.string type)
  (mapper.indexDefinition.withProperty "location" (mapping "geo_point")).withProperty "creator"
    (mapping "keyword")

/-- Creates the index if it is missing. -/
def ensureIndex : Step Unit := do
  if !(← step (Mapper.existsIndex mapper.indexName)) then
    let _ ← step (Mapper.createIndex mapper.indexName (indexDefinition mapper).body)

/-- Inserts one document on its own and the others as a batch. -/
def writeDocuments : Step Nat := do
  let outcome ← step (mapper.insert single)
  let summary ← step (mapper.insertBatch batch)
  return outcome.affected + summary.succeeded

/-- The step at which something unexpected was read back. -/
def unexpectedReading (detail : String) : SessionError := .unexpected "round trip" detail

/-- The single document as it was read back must have its identifier and no creator. -/
def checkReading : Option SampleDocument → Except SessionError Unit
  | none => .error (unexpectedReading "doc-1 not found")
  | some document =>
    if document.id ≠ some "doc-1" then
      .error (unexpectedReading ("expected id doc-1, got " ++ Text.quoteOption document.id))
    else if document.creator.isSome then
      .error (unexpectedReading
        ("expected no creator, got " ++ Text.quoteOption document.creator))
    else .ok ()

/-- Reads the single document back. -/
def checkRoundTrip : Step Unit := do
  Program.lift (checkReading (← step (mapper.selectById "doc-1")))

/-- Asks several queries. The answer is the number of documents of the grouped one. -/
def queryDocuments : Step Nat := do
  let _ ← step (.lift (mapper.source groupedQuery))
  let documents ← step (mapper.selectList groupedQuery)
  let _ ← step (mapper.selectList nearbyQuery)
  let _ ← step (mapper.search creatorQuery)
  let _ ← step (mapper.selectCount recentConditions)
  return documents.length

/-- Updates documents by condition, and one by its identifier. -/
def updateDocuments : Step Nat := do
  let summary ← step (mapper.update reviewed creatorConditions)
  let outcome ← step (mapper.updateById renamed)
  return summary.succeeded + outcome.affected

/-- Deletes one document, two as a batch, and others by condition. -/
def deleteDocuments : Step Nat := do
  let one ← step (mapper.deleteById "doc-1")
  let two ← step (mapper.deleteBatchByIds ["doc-2", "doc-3"])
  let others ← step (mapper.delete engineConditions)
  return one.affected + two.succeeded + others.succeeded

/-- The whole session. With `cleanup` the index is dropped at the end. -/
def run (cleanup : Bool) : Step SessionReport := do
  ensureIndex mapper
  let inserted ← writeDocuments mapper
  checkRoundTrip mapper
  let matched ← queryDocuments mapper
  let updated ← updateDocuments mapper
  let deleted ← deleteDocuments mapper
  let remaining ← step (mapper.selectCount [])
  if cleanup then
    let _ ← step (Mapper.deleteIndex mapper.indexName)
  return { inserted, matched, updated, deleted, remaining }

end Session
end SearchMapper
