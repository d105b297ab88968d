import SearchMapper.Proofs.Bulk.Reconciled

/-!
# The counts of a summary

Three things are said of an item that answers an operation: that the operation was carried out, that
it created a document, and that it failed. A summary counts them by its policy, and its counts are
those of the items: `BulkResponse.reconcile_counts`.
-/

namespace SearchMapper

/-! ## Items -/

/-- The operation was carried out: the status is one of 200 to 299, and no error is told. -/
def BulkItem.CarriedOut (item : BulkItem) : Prop :=
  item.error = none ∧ 200 ≤ item.status.toNat ∧ item.status.toNat ≤ 299

namespace BulkItem

theorem isSuccess_iff (item : BulkItem) : item.isSuccess = true ↔ item.CarriedOut := by
  unfold isSuccess CarriedOut
  simp only [Bool.and_eq_true, Option.isNone_iff_eq_none, decide_eq_true_eq, UInt16.le_iff_toNat_le,
    UInt16.lt_iff_toNat_lt, and_assoc]
  exact and_congr_right fun _ => and_congr_right fun _ => Nat.lt_succ_iff

instance (item : BulkItem) : Decidable item.CarriedOut :=
  decidable_of_iff (item.isSuccess = true) item.isSuccess_iff

theorem isSuccess_eq_decide (item : BulkItem) : item.isSuccess = decide item.CarriedOut := by
  rw [Bool.eq_iff_iff, decide_eq_true_iff, isSuccess_iff]

/-- Of the operations that were carried out, those with the status for it created a document. -/
theorem isCreated_eq (item : BulkItem) (h : item.isSuccess = true) :
    item.isCreated = (item.status == 201) := by
  have herror : item.error = none := (item.isSuccess_iff.mp h).1
  rw [isCreated, herror]
  rfl

theorem isSuccess_of_isCreated {item : BulkItem} (h : item.isCreated = true) :
    item.isSuccess = true := by
  rw [isCreated, Bool.and_eq_true, Option.isNone_iff_eq_none, beq_iff_eq] at h
  obtain ⟨herror, hstatus⟩ := h
  refine item.isSuccess_iff.mpr ⟨herror, ?_⟩
  rw [hstatus]
  decide

end BulkItem

/-! ## Results -/

/-- Where each item has its operation, what is said of results as of their items is true of as many
of them. -/
theorem BatchResult.countP_ofItems {ofResult : BatchResult → Bool} {ofItem : BulkItem → Bool}
    (hsame : ∀ position item operation,
      ofResult (BatchResult.ofItem position item operation) = ofItem item)
    {items : List BulkItem} {operations : List BulkOperation}
    (hlength : items.length = operations.length) (position : Nat) :
    (ofItems position items operations).countP ofResult = items.countP ofItem := by
  induction items generalizing position operations with
  | nil => rw [ofItems_nil_left, List.countP_nil, List.countP_nil]
  | cons item items ih =>
    cases operations with
    | nil => cases hlength
    | cons operation operations =>
      rw [ofItems_cons, List.countP_cons, List.countP_cons, hsame, ih (Nat.succ.inj hlength)]

/-- A result is that of an item. -/
theorem BatchResult.exists_of_mem_ofItems {items : List BulkItem} {operations : List BulkOperation}
    {position : Nat} {result : BatchResult} (h : result ∈ ofItems position items operations) :
    ∃ item : BulkItem, result.success = item.isSuccess ∧ result.created = item.isCreated := by
  induction items generalizing position operations with
  | nil =>
    rw [ofItems_nil_left] at h
    cases h
  | cons item items ih =>
    cases operations with
    | nil =>
      rw [ofItems_nil_right] at h
      cases h
    | cons operation operations =>
      rw [ofItems_cons, List.mem_cons] at h
      rcases h with rfl | h
      · exact ⟨item, rfl, rfl⟩
      · exact ih h

namespace BulkResponse

variable {response : BulkResponse} {operations : List BulkOperation}

/-- Every operation was carried out or failed. -/
theorem countP_isSuccess_add_failedCount (response : BulkResponse) :
    response.items.countP BulkItem.isSuccess + response.failedCount = response.items.length := by
  rw [List.length_eq_countP_add_countP BulkItem.isSuccess, failedCount]
  simp only [Bool.not_eq_true, Bool.decide_eq_false]

theorem failedCount_pos_iff (response : BulkResponse) :
    0 < response.failedCount ↔ ∃ item ∈ response.items, ¬ item.CarriedOut := by
  rw [failedCount, List.countP_pos_iff]
  simp only [Bool.not_eq_true', ← Bool.not_eq_true, BulkItem.isSuccess_iff]

/-! ## Summaries -/

/-- The summary of as many items as operations, of which `succeeded` count as successes. -/
def summary (response : BulkResponse) (operations : List BulkOperation) (succeeded : Nat) :
    BatchSummary :=
  { total := operations.length
    succeeded
    failed := response.failedCount
    results := BatchResult.ofItems 0 response.items operations }

section

variable (h : response.items.length = operations.length)

include h

theorem countP_failed :
    (BatchResult.ofItems 0 response.items operations).countP (!·.success) =
      response.failedCount := by
  unfold failedCount
  exact BatchResult.countP_ofItems (fun _ _ _ => rfl) h 0

theorem countP_success :
    (BatchResult.ofItems 0 response.items operations).countP (·.success) =
      response.items.countP BulkItem.isSuccess :=
  BatchResult.countP_ofItems (fun _ _ _ => rfl) h 0

theorem countP_created :
    (BatchResult.ofItems 0 response.items operations).countP (·.created) =
      response.items.countP BulkItem.isCreated :=
  BatchResult.countP_ofItems (fun _ _ _ => rfl) h 0

theorem reconcile_tally : response.reconcile operations .tally =
    .ok (response.summary operations (response.items.countP BulkItem.isSuccess)) := by
  unfold reconcile
  rw [if_neg (not_not_intro h)]
  simp only [countP_failed h, countP_success h]
  rfl

theorem reconcile_failFast : response.reconcile operations .failFast =
    if 0 < response.failedCount then
      .error (.batchFailure operations.length response.failedCount)
    else .ok (response.summary operations (response.items.countP BulkItem.isCreated)) := by
  unfold reconcile
  rw [if_neg (not_not_intro h)]
  simp only [countP_failed h, countP_created h]
  rfl

end

/-- A summary counts at least the created documents as successes, and at most all operations. -/
theorem succeeded_of_reconcile {policy : BatchPolicy} {summary : BatchSummary}
    (h : response.reconcile operations policy = .ok summary) :
    summary.results.countP (·.created) ≤ summary.succeeded ∧
      summary.succeeded ≤ summary.total := by
  obtain ⟨hlength, htotal, hresults⟩ := eq_of_reconcile h
  have hcreated : response.items.countP BulkItem.isCreated ≤
      response.items.countP BulkItem.isSuccess :=
    List.countP_mono_left fun item _ => BulkItem.isSuccess_of_isCreated
  have hsuccess : response.items.countP BulkItem.isSuccess ≤ response.items.length :=
    List.countP_le_length
  rw [hresults, countP_created hlength, htotal, ← hlength]
  cases policy with
  | tally =>
    rw [reconcile_tally hlength] at h
    cases h
    exact ⟨hcreated, hsuccess⟩
  | failFast =>
    rw [reconcile_failFast hlength] at h
    split at h
    · cases h
    · cases h
      exact ⟨Nat.le_refl _, Nat.le_trans hcreated hsuccess⟩

/-- At most as many identifiers are assigned as documents were created. -/
theorem countP_assignedIds_le (summary : BatchSummary) :
    summary.assignedIds.countP Option.isSome ≤ summary.results.countP (·.created) := by
  rw [BatchSummary.assignedIds, List.countP_map]
  refine List.countP_mono_left fun result _ hsome => ?_
  cases hcreated : result.created with
  | true => rfl
  | false =>
    rw [Function.comp_apply, hcreated] at hsome
    cases hsome

/-! ## Main result -/

/-- **The counts of a batch.** An answer with another number of items than there are operations is a
transport error. Else as many operations failed as items tell so. Counting, the batch succeeds, and
its successes are the operations carried out. Failing fast, it fails exactly if some operation was
not carried out, and reports no success then; if all were, its successes are the items with the
status of a created document. Under either policy only operations carried out create documents, and
no more identifiers are assigned than there are successes. What the answer says of errors as a whole
plays no part. -/
theorem reconcile_counts (response : BulkResponse) (operations : List BulkOperation) :
    (response.items.length ≠ operations.length → ∀ policy, response.reconcile operations policy =
        .error (.transport (.itemCount response.items.length operations.length))) ∧
      (response.items.length = operations.length →
        (∃ summary, response.reconcile operations .tally = .ok summary ∧
          summary.total = operations.length ∧
          summary.total = summary.succeeded + summary.failed ∧
          summary.failed = response.failedCount ∧
          summary.succeeded = response.items.countP fun item => decide item.CarriedOut) ∧
        ((∃ item ∈ response.items, ¬ item.CarriedOut) ↔
          ∃ error, response.reconcile operations .failFast = .error error ∧
            error.failureCounts? = some
              { total := operations.length, failed := response.failedCount, succeeded := 0 }) ∧
        ((∀ item ∈ response.items, item.CarriedOut) →
          ∃ summary, response.reconcile operations .failFast = .ok summary ∧
            summary.total = operations.length ∧
            summary.failed = response.failedCount ∧ summary.failed = 0 ∧
            summary.succeeded = response.items.countP fun item => item.status == 201)) ∧
      (∀ policy summary, response.reconcile operations policy = .ok summary →
        summary.succeeded ≤ summary.total ∧
          (∀ result ∈ summary.results, result.created = true → result.success = true) ∧
          summary.assignedIds.countP Option.isSome ≤ summary.succeeded) ∧
      ∀ policy errors, ({ response with errors } : BulkResponse).reconcile operations policy =
        response.reconcile operations policy := by
  refine ⟨fun h policy => reconcile_of_length_ne policy h, fun h => ⟨?_, ?_, ?_⟩, ?_, ?_⟩
  · refine ⟨_, reconcile_tally h, rfl, ?_, rfl, ?_⟩
    · exact h.symm.trans response.countP_isSuccess_add_failedCount.symm
    · exact List.countP_congr fun item _ => by rw [item.isSuccess_eq_decide]
  · rw [← failedCount_pos_iff, reconcile_failFast h]
    constructor
    · intro hpos
      exact ⟨_, if_pos hpos, rfl⟩
    · rintro ⟨error, herror, -⟩
      split at herror
      · assumption
      · cases herror
  · intro hall
    have hnone : ¬ 0 < response.failedCount := by
      rw [failedCount_pos_iff]
      rintro ⟨item, hmem, hnot⟩
      exact hnot (hall item hmem)
    refine ⟨_, (reconcile_failFast h).trans (if_neg hnone), rfl, rfl, ?_, ?_⟩
    · exact Nat.eq_zero_of_not_pos hnone
    · refine List.countP_congr fun item hmem => ?_
      rw [item.isCreated_eq (item.isSuccess_iff.mpr (hall item hmem))]
  · intro policy summary h
    obtain ⟨hcreated, htotal⟩ := succeeded_of_reconcile h
    refine ⟨htotal, fun result hmem hresult => ?_, ?_⟩
    · rw [(eq_of_reconcile h).2.2] at hmem
      obtain ⟨item, hsuccess, hitem⟩ := BatchResult.exists_of_mem_ofItems hmem
      rw [hsuccess]
      exact BulkItem.isSuccess_of_isCreated (hitem ▸ hresult)
    · exact Nat.le_trans (countP_assignedIds_le summary) hcreated
  · exact fun _ _ => rfl

/-- A created document, one written with an error and one that is missing without one, in an answer
that tells of no errors as a whole. -/
theorem reconcile_counts_mixed :
    let response : BulkResponse := ⟨3, false, [⟨.index, some "1", 201, none⟩,
      ⟨.update, some "2", 200, some "shard failed"⟩, ⟨.delete, some "3", 404, none⟩]⟩
    let operations : List BulkOperation :=
      [.index none (.object []), .update "2" (.object []), .delete "3"]
    (∃ summary, response.reconcile operations .tally = .ok summary ∧
        summary.succeeded = 1 ∧ summary.failed = 2) ∧
      ∃ error, response.reconcile operations .failFast = .error error ∧
        error.failureCounts? = some { total := 3, failed := 2, succeeded := 0 } := by
  intro response operations
  obtain ⟨-, hcounts, -⟩ := reconcile_counts response operations
  obtain ⟨⟨summary, hsummary, -, -, hfailed, hsucceeded⟩, hfailFast, -⟩ := hcounts rfl
  refine ⟨⟨summary, hsummary, hsucceeded, hfailed⟩, hfailFast.mp ?_⟩
  exact ⟨⟨.delete, some "3", 404, none⟩, by decide, by decide⟩

end BulkResponse
end SearchMapper
