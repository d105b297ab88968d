import SearchMapper.Mapper
import SearchMapper.Proofs.Bulk.Reconciled
import SearchMapper.Proofs.Outcome
import SearchMapper.Proofs.Transport.Runs

/-!
# Runs of a batch

What `Mapper.execute` sends and comes to: nothing for an empty batch and for one over the limit,
and otherwise one bulk request, whose answer is reconciled with the operations. A batch that comes
to a summary was sent, unless it was empty.
-/

namespace SearchMapper.Mapper

variable {σ α : Type}

/-! ## Sizes -/

theorem validateBatchSize_of_le {limit : Option UInt64} {size : Nat}
    (h : ∀ max, limit = some max → size ≤ max.toNat) : validateBatchSize limit size = .ok () := by
  cases limit with
  | none => rfl
  | some max =>
    have hle : ¬ size > max.toNat := Nat.not_lt.mpr (h max rfl)
    exact if_neg hle

theorem validateBatchSize_of_lt {limit : UInt64} {size : Nat} (h : limit.toNat < size) :
    validateBatchSize (some limit) size = .error (.batchTooLarge size limit.toNat) := if_pos h

/-! ## Runs -/

variable (mapper : Mapper α) (transport : Transport σ) (policy : BatchPolicy) (state : σ)

/-- An empty batch is not sent. -/
theorem run_execute_nil :
    (mapper.execute [] policy).run transport state =
      { result := .ok .empty, calls := [], state } := rfl

variable {operations : List BulkOperation}

/-- A batch over the limit is refused, with nothing sent. -/
theorem run_execute_of_too_many {limit : UInt64} (hlimit : mapper.config.maxBatchSize = some limit)
    (hsize : limit.toNat < operations.length) :
    (mapper.execute operations policy).run transport state =
      { result := .error (.validation (.batchTooLarge operations.length limit.toNat))
        calls := [], state } := by
  have hempty : operations.isEmpty = false := by
    cases operations with
    | nil => exact absurd hsize (Nat.not_lt_zero _)
    | cons operation rest => rfl
  unfold execute
  rw [hempty, hlimit, validateBatchSize_of_lt hsize]
  rfl

/-- A batch within the limit is one bulk request, and comes to what its answer says. -/
theorem run_execute_of_le (hne : operations ≠ [])
    (hsize : ∀ limit, mapper.config.maxBatchSize = some limit → operations.length ≤ limit.toNat) :
    let run := (mapper.execute operations policy).run transport state
    run.calls = [.bulk mapper.indexName operations] ∧
      run.result = (transport.send (.bulk mapper.indexName operations) state).1.bind
        fun response => BulkResponse.reconcile response operations policy := by
  have hempty : operations.isEmpty = false := by
    cases operations with
    | nil => exact absurd rfl hne
    | cons operation rest => rfl
  have hexecute : mapper.execute operations policy =
      Operation.send (.bulk mapper.indexName operations) >>= fun response =>
        Program.lift (BulkResponse.reconcile response operations policy) := by
    unfold execute
    rw [hempty, validateBatchSize_of_le hsize]
    rfl
  rw [hexecute]
  cases hsend : (transport.send (.bulk mapper.indexName operations) state).1 with
  | error e =>
    rw [Operation.run_send_bind_of_error hsend]
    exact ⟨rfl, rfl⟩
  | ok response =>
    rw [Operation.run_send_bind_of_ok hsend]
    exact ⟨rfl, rfl⟩

/-- A batch that comes to a summary is within the limit. -/
theorem length_le_of_run_execute {summary : BatchSummary} {limit : UInt64}
    (h : ((mapper.execute operations policy).run transport state).result = .ok summary)
    (hlimit : mapper.config.maxBatchSize = some limit) : operations.length ≤ limit.toNat := by
  refine Nat.le_of_not_lt fun hsize => ?_
  rw [run_execute_of_too_many mapper transport policy state hlimit hsize] at h
  cases h

/-- A summary of operations is that of the answer to their bulk request. -/
theorem exists_response_of_run_execute {summary : BatchSummary} (hne : operations ≠ [])
    (h : ((mapper.execute operations policy).run transport state).result = .ok summary) :
    ∃ response : BulkResponse,
      (transport.send (.bulk mapper.indexName operations) state).1 = .ok response ∧
        response.reconcile operations policy = .ok summary := by
  have hsize : ∀ limit, mapper.config.maxBatchSize = some limit →
      operations.length ≤ limit.toNat := fun limit hlimit =>
    length_le_of_run_execute mapper transport policy state h hlimit
  obtain ⟨-, hresult⟩ := run_execute_of_le mapper transport policy state hne hsize
  rw [hresult] at h
  obtain ⟨response, hsend, hreconcile⟩ := Except.bind_eq_ok_iff.mp h
  exact ⟨response, hsend, hreconcile⟩

end SearchMapper.Mapper
