import SearchMapper.Proofs.Mapper.Documents
import SearchMapper.Sample.Session

/-!
# The stages of the sample session

What a session asks of its mapper, one operation after another. `Stage.ensures_sends` says which
requests a stage may send, whatever the backend answers: the index is checked, created and dropped
by the stages for it alone. `Stage.ensures_counts` says what the values of stages count.
-/

namespace SearchMapper.Session

variable {σ : Type} {transport : Transport σ}

/-- What a session asks of its mapper, in order. -/
inductive Stage where
  | checkIndex
  | createIndex
  | insertSingle
  | insertBatch
  | readBack
  | showGrouped
  | selectGrouped
  | selectNearby
  | searchCreators
  | countRecent
  | updateMatching
  | updateOne
  | deleteOne
  | deleteTwo
  | deleteMatching
  | countRemaining
  | dropIndex
deriving DecidableEq

namespace Stage

/-- The values of a stage. -/
abbrev Value : Stage → Type
  | checkIndex | createIndex | dropIndex => Bool
  | insertSingle | updateOne | deleteOne => WriteOutcome
  | insertBatch | updateMatching | deleteTwo | deleteMatching => BatchSummary
  | readBack => Option SampleDocument
  | showGrouped => String
  | selectGrouped | selectNearby => List SampleDocument
  | searchCreators => SearchResponse
  | countRecent | countRemaining => UInt64

/-- The operation of a stage, with the values that the session has for it. -/
def operation (mapper : Mapper SampleDocument) : (stage : Stage) → Operation stage.Value
  | checkIndex => Mapper.existsIndex mapper.indexName
  | createIndex => Mapper.createIndex mapper.indexName (indexDefinition mapper).body
  | insertSingle => mapper.insert single
  | insertBatch => mapper.insertBatch batch
  | readBack => mapper.selectById "doc-1"
  | showGrouped => .lift (mapper.source groupedQuery)
  | selectGrouped => mapper.selectList groupedQuery
  | selectNearby => mapper.selectList nearbyQuery
  | searchCreators => mapper.search creatorQuery
  | countRecent => mapper.selectCount recentConditions
  | updateMatching => mapper.update reviewed creatorConditions
  | updateOne => mapper.updateById renamed
  | deleteOne => mapper.deleteById "doc-1"
  | deleteTwo => mapper.deleteBatchByIds ["doc-2", "doc-3"]
  | deleteMatching => mapper.delete engineConditions
  | countRemaining => mapper.selectCount []
  | dropIndex => Mapper.deleteIndex mapper.indexName

/-- The session goes on after the value: the document that was read back has its identifier and no
creator, and the values of other stages are not looked at. -/
def Accepts : (stage : Stage) → stage.Value → Prop
  | readBack, read? => ∃ document, read? = some document ∧ document.id = some "doc-1" ∧
      document.creator = none
  | _, _ => True

/-- The requests that a stage may send. -/
def Sends (mapper : Mapper SampleDocument) : Stage → List Call → Prop
  | checkIndex, calls => calls = [.indexExists mapper.indexName]
  | createIndex, calls => ∃ body, calls = [.createIndex mapper.indexName body]
  | dropIndex, calls => calls = [.deleteIndex mapper.indexName]
  | _, calls => ∀ c ∈ calls, c.OnDocuments

/-- What the values of a stage count. -/
def Counts : (stage : Stage) → stage.Value → Prop
  | insertSingle, outcome => outcome.affected ≤ 1
  | insertBatch, summary => summary.Tallies .failFast batch.length
  | updateMatching, summary | deleteTwo, summary | deleteMatching, summary =>
    summary.succeeded = summary.results.countP (·.success)
  | _, _ => True

variable {mapper : Mapper SampleDocument}

/-- A stage sends what it may, whatever the backend answers. -/
theorem ensures_sends (stage : Stage) :
    (stage.operation mapper).Ensures transport fun calls _ => stage.Sends mapper calls := by
  cases stage with
  | checkIndex => exact (Operation.ensures_send _).mono fun _ _ h => h.1
  | createIndex => exact (Operation.ensures_send _).mono fun _ _ h => ⟨_, h.1⟩
  | dropIndex => exact (Operation.ensures_send _).mono fun _ _ h => h.1
  | insertSingle => exact Mapper.onDocuments_insert _
  | insertBatch => exact Mapper.onDocuments_insertBatch _
  | readBack => exact Mapper.onDocuments_selectById _
  | showGrouped => exact Program.ensures_done nofun
  | selectGrouped => exact Mapper.onDocuments_selectList _
  | selectNearby => exact Mapper.onDocuments_selectList _
  | searchCreators => exact Mapper.onDocuments_search _
  | countRecent => exact Mapper.onDocuments_selectCount _
  | updateMatching => exact Mapper.onDocuments_update _ _
  | updateOne => exact Mapper.onDocuments_updateById _
  | deleteOne => exact Mapper.onDocuments_deleteById _
  | deleteTwo => exact Mapper.onDocuments_deleteBatchByIds _
  | deleteMatching => exact Mapper.onDocuments_delete _
  | countRemaining => exact Mapper.onDocuments_selectCount _

/-- The value of a stage counts what its results tell. -/
theorem ensures_counts (stage : Stage) :
    (stage.operation mapper).Ensures transport (ComesTo stage.Counts) := by
  have htally (operations : List BulkOperation) :
      (mapper.execute operations .tally).Ensures transport
        (ComesTo fun summary => summary.succeeded = summary.results.countP (·.success)) :=
    (Mapper.tallies_execute operations .tally).mono fun _ _ h summary hok =>
      (h summary hok).succeeded_eq
  cases stage with
  | insertSingle => exact Mapper.affected_insert single
  | insertBatch => exact Mapper.tallies_insertBatch batch
  | updateMatching => exact comesTo_bind fun _ => comesTo_bind fun _ => htally _
  | deleteTwo => exact comesTo_bind fun _ => htally _
  | deleteMatching => exact comesTo_bind fun _ => htally _
  | _ => exact fun _ _ _ => trivial

/-- The stage that a request about an index as a whole belongs to. -/
def ofCall? : Call → Option Stage
  | .indexExists _ => some checkIndex
  | .createIndex _ _ => some createIndex
  | .deleteIndex _ => some dropIndex
  | _ => none

theorem ofCall?_eq_none {c : Call} (h : c.OnDocuments) : ofCall? c = none := by
  cases c with
  | indexExists | createIndex | deleteIndex => exact h.elim
  | _ => rfl

/-- Requests about an index are sent by the stage that they belong to, and by no other. -/
theorem Sends.eq_of_ofCall? {stage owner : Stage} {calls : List Call} {c : Call}
    (h : stage.Sends mapper calls) (hmem : c ∈ calls) (howner : ofCall? c = some owner) :
    stage = owner := by
  cases stage with
  | checkIndex | dropIndex =>
    obtain rfl : calls = _ := h
    obtain rfl := List.mem_singleton.mp hmem
    exact Option.some.inj howner
  | createIndex =>
    obtain ⟨body, rfl⟩ := h
    obtain rfl := List.mem_singleton.mp hmem
    exact Option.some.inj howner
  | _ =>
    -- the other stages keep to documents, and requests about these belong to no stage
    rw [ofCall?_eq_none (h c hmem)] at howner
    cases howner

end Stage
end SearchMapper.Session
