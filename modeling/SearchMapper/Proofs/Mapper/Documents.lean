import SearchMapper.Proofs.Mapper.Batches
import SearchMapper.Proofs.Mapper.OverHttp

/-!
# Operations on documents

What operations on documents have in common, whatever the backend answers. They send requests about
documents only, and never create or drop an index. Of a batch they count as successes the results
that its policy counts.
-/

namespace SearchMapper

/-! ## Requests about documents -/

/-- The request is about documents, and not about an index as a whole. -/
def Call.OnDocuments : Call → Prop
  | indexExists _ | createIndex _ _ | deleteIndex _ => False
  | indexDocument .. | updateDocument .. | deleteDocument .. | bulk .. | search .. => True

variable {σ α β : Type} {transport : Transport σ}

/-- All requests are about documents. -/
def OnDocuments (calls : List Call) (_ : Except MapperError α) : Prop :=
  ∀ c ∈ calls, c.OnDocuments

theorem onDocuments_send {c : Call} (h : c.OnDocuments) :
    (Operation.send c).Ensures transport OnDocuments := by
  refine (Operation.ensures_send c).mono ?_
  rintro _ _ ⟨rfl, -⟩ call hmem
  rw [List.mem_singleton.mp hmem]
  exact h

variable {p : Operation α} {f : α → Operation β}

theorem onDocuments_of_silent (h : p.Ensures transport Silent) :
    p.Ensures transport OnDocuments := by
  refine h.mono ?_
  rintro _ _ ⟨rfl, -⟩
  nofun

theorem onDocuments_bind (h : p.Ensures transport OnDocuments)
    (hnext : ∀ a, (f a).Ensures transport OnDocuments) :
    (p >>= f).Ensures transport OnDocuments := by
  refine h.bind (fun _ _ hcalls => hcalls) fun calls a hcalls => ?_
  refine (hnext a).mono fun later _ hlater c hmem => ?_
  rcases List.mem_append.mp hmem with hmem | hmem
  · exact hcalls c hmem
  · exact hlater c hmem

theorem onDocuments_silent_bind (h : p.Ensures transport Silent)
    (hnext : ∀ a, (f a).Ensures transport OnDocuments) :
    (p >>= f).Ensures transport OnDocuments :=
  onDocuments_bind (onDocuments_of_silent h) hnext

theorem onDocuments_send_pure {c : Call} {outcome : c.Reply → β} (h : c.OnDocuments) :
    (Operation.send c >>= fun reply => pure (outcome reply)).Ensures transport OnDocuments :=
  onDocuments_bind (onDocuments_send h) fun _ => onDocuments_of_silent (silent_pure _)

namespace Mapper

variable {mapper : Mapper α}

theorem onDocuments_execute (operations : List BulkOperation) (policy : BatchPolicy) :
    (mapper.execute operations policy).Ensures transport OnDocuments := by
  unfold execute
  split
  · exact onDocuments_of_silent (silent_pure _)
  · refine onDocuments_silent_bind (silent_check _) fun _ => ?_
    exact onDocuments_bind (onDocuments_send trivial) fun _ => Program.ensures_done nofun

theorem onDocuments_matchingIds (conditions : Conditions) :
    (mapper.matchingIds conditions).Ensures transport OnDocuments :=
  onDocuments_silent_bind (silent_lift fun _ => SearchQuery.isLocal_of_idsOnly) fun _ =>
    onDocuments_send_pure trivial

theorem onDocuments_search (query : SearchQuery) :
    (mapper.search query).Ensures transport OnDocuments :=
  onDocuments_silent_bind (silent_lift fun _ => SearchQuery.isLocal_of_build) fun _ =>
    onDocuments_send trivial

theorem onDocuments_delete (conditions : Conditions) :
    (mapper.delete conditions).Ensures transport OnDocuments :=
  onDocuments_bind (onDocuments_matchingIds conditions) fun _ => onDocuments_execute _ _

theorem onDocuments_deleteById (id : String) :
    (mapper.deleteById id).Ensures transport OnDocuments :=
  onDocuments_silent_bind (silent_check _) fun _ => onDocuments_send_pure trivial

theorem onDocuments_deleteBatchByIds (ids : List String) :
    (mapper.deleteBatchByIds ids).Ensures transport OnDocuments :=
  onDocuments_silent_bind (silent_check _) fun _ => onDocuments_execute _ _

theorem onDocuments_selectCount (conditions : Conditions) :
    (mapper.selectCount conditions).Ensures transport OnDocuments :=
  onDocuments_silent_bind (silent_lift fun _ => SearchQuery.isLocal_of_count) fun _ =>
    onDocuments_send_pure trivial

variable [Entity α]

theorem onDocuments_insert (entity : α) :
    (mapper.insert entity).Ensures transport OnDocuments :=
  onDocuments_silent_bind (silent_insertId entity) fun _ =>
    onDocuments_silent_bind (silent_coded _) fun _ => onDocuments_send_pure trivial

theorem onDocuments_insertBatch (entities : List α) :
    (mapper.insertBatch entities).Ensures transport OnDocuments := by
  unfold insertBatch executeEach
  split
  · exact onDocuments_of_silent (silent_pure _)
  · refine onDocuments_silent_bind (silent_check _) fun _ => ?_
    refine onDocuments_silent_bind (silent_operations silent_insertOperation entities) fun _ => ?_
    exact onDocuments_execute _ _

theorem onDocuments_update (set : UpdateSet α) (conditions : Conditions) :
    (mapper.update set conditions).Ensures transport OnDocuments :=
  onDocuments_silent_bind (silent_coded _) fun _ =>
    onDocuments_bind (onDocuments_matchingIds conditions) fun _ => onDocuments_execute _ _

theorem onDocuments_updateById (entity : α) :
    (mapper.updateById entity).Ensures transport OnDocuments :=
  onDocuments_silent_bind (silent_keyOf _ entity) fun _ =>
    onDocuments_silent_bind (silent_coded _) fun _ => onDocuments_send_pure trivial

theorem onDocuments_selectList (query : SearchQuery) :
    (mapper.selectList query).Ensures transport OnDocuments :=
  onDocuments_bind (onDocuments_search query) fun _ => onDocuments_of_silent (silent_coded _)

theorem onDocuments_selectById (id : String) :
    (mapper.selectById id).Ensures transport OnDocuments :=
  onDocuments_silent_bind (silent_check _) fun _ =>
    onDocuments_bind (onDocuments_selectList _) fun _ => onDocuments_of_silent (silent_pure _)

end Mapper

/-! ## What values count -/

/-- The value, if there is one, is as `P` says. -/
def ComesTo (P : α → Prop) (_ : List Call) (result : Except MapperError α) : Prop :=
  ∀ a, result = .ok a → P a

theorem comesTo_pure {P : α → Prop} {a : α} (h : P a) :
    (pure a : Operation α).Ensures transport (ComesTo P) := by
  refine Program.ensures_done ?_
  rintro _ ⟨⟩
  exact h

/-- The value of a program is that of its last step. -/
theorem comesTo_bind {P : β → Prop} (hnext : ∀ a, (f a).Ensures transport (ComesTo P)) :
    (p >>= f).Ensures transport (ComesTo P) := by
  have hp : p.Ensures transport fun _ _ => True := fun _ => trivial
  exact hp.bind (fun _ _ _ => nofun) fun _ a _ => hnext a

/-- What a batch counts as its successes. -/
def BatchPolicy.counts : BatchPolicy → BatchResult → Bool
  | failFast, result => result.created
  | tally, result => result.success

/-- The successes are the results that the policy counts, of as many as there are operations. -/
structure BatchSummary.Tallies (policy : BatchPolicy) (size : Nat) (summary : BatchSummary) :
    Prop where
  length_eq : summary.results.length = size
  succeeded_eq : summary.succeeded = summary.results.countP policy.counts

theorem BatchSummary.Tallies.succeeded_le {policy : BatchPolicy} {size : Nat}
    {summary : BatchSummary} (h : summary.Tallies policy size) : summary.succeeded ≤ size := by
  rw [h.succeeded_eq, ← h.length_eq]
  exact List.countP_le_length

theorem BulkResponse.tallies_of_reconcile {response : BulkResponse}
    {operations : List BulkOperation} {policy : BatchPolicy} {summary : BatchSummary}
    (h : response.reconcile operations policy = .ok summary) :
    summary.Tallies policy operations.length := by
  obtain ⟨hlength, -, hresults⟩ := eq_of_reconcile h
  refine ⟨length_results_of_reconcile h, ?_⟩
  rw [hresults]
  cases policy with
  | tally =>
    rw [reconcile_tally hlength] at h
    cases h
    exact (countP_success hlength).symm
  | failFast =>
    rw [reconcile_failFast hlength] at h
    split at h
    · cases h
    · cases h
      exact (countP_created hlength).symm

namespace Mapper

variable {mapper : Mapper α}

/-- Operations that are executed are tallied by the policy. -/
theorem tallies_execute (operations : List BulkOperation) (policy : BatchPolicy) :
    (mapper.execute operations policy).Ensures transport
      (ComesTo (BatchSummary.Tallies policy operations.length)) := by
  cases operations with
  | nil => cases policy <;> exact comesTo_pure ⟨rfl, rfl⟩
  | cons operation rest =>
    refine comesTo_bind fun _ => comesTo_bind fun response => ?_
    exact Program.ensures_done fun summary => BulkResponse.tallies_of_reconcile

variable [Entity α]

/-- Of a batch that is inserted, the documents that were created count. -/
theorem tallies_insertBatch (entities : List α) :
    (mapper.insertBatch entities).Ensures transport
      (ComesTo (BatchSummary.Tallies .failFast entities.length)) := by
  unfold insertBatch executeEach
  split
  · next hempty =>
    rw [List.isEmpty_iff.mp hempty]
    exact comesTo_pure ⟨rfl, rfl⟩
  · refine comesTo_bind fun _ => ?_
    -- there are as many operations as entities once all of them are made
    refine (yields_operations yields_insertOperation entities).bind (fun _ _ _ => nofun) ?_
    rintro _ operations ⟨-, hmade⟩
    rw [← (hmade operations rfl).1]
    exact tallies_execute operations .failFast

theorem affected_insert (entity : α) :
    (mapper.insert entity).Ensures transport (ComesTo fun outcome => outcome.affected ≤ 1) := by
  refine comesTo_bind fun _ => comesTo_bind fun _ => comesTo_bind fun response => ?_
  refine comesTo_pure ?_
  show (if response.status = 201 then 1 else 0) ≤ 1
  split <;> decide

end Mapper

end SearchMapper
