import SearchMapper.Bulk.Summary

/-!
# Batch results by position

Reconciling a bulk response pairs its items with the operations that they answer. The pairing
stops at the shorter of the two lists, so it is the count, checked before, that makes it reach
all of them: a summary has one result for every operation, at its own place.
-/

namespace SearchMapper

/-! ## Pairing items with operations -/

/-- The result of the operation at a position, with the item that answers it. -/
def BatchResult.ofItem (position : Nat) (item : BulkItem) (operation : BulkOperation) :
    BatchResult :=
  { position
    id := item.id.or operation.id?
    status := item.status
    success := item.isSuccess
    created := item.isCreated
    error := item.error }

namespace BatchResult

theorem ofItems_cons (position : Nat) (item : BulkItem) (items : List BulkItem)
    (operation : BulkOperation) (operations : List BulkOperation) :
    ofItems position (item :: items) (operation :: operations) =
      ofItem position item operation :: ofItems (position + 1) items operations := rfl

theorem ofItems_nil_left (position : Nat) (operations : List BulkOperation) :
    ofItems position [] operations = [] := by
  cases operations <;> rfl

theorem ofItems_nil_right (position : Nat) (items : List BulkItem) :
    ofItems position items [] = [] := by
  cases items <;> rfl

theorem length_ofItems (position : Nat) (items : List BulkItem)
    (operations : List BulkOperation) :
    (ofItems position items operations).length = min items.length operations.length := by
  induction items generalizing position operations with
  | nil => rw [ofItems_nil_left, List.length_nil, List.length_nil, Nat.zero_min]
  | cons item items ih =>
    cases operations with
    | nil => rw [ofItems_nil_right, List.length_nil, List.length_nil, Nat.min_zero]
    | cons operation operations =>
      rw [ofItems_cons, List.length_cons, ih, List.length_cons, List.length_cons]
      omega

/-- The result at a place is made of the item and the operation at that place. -/
theorem getElem?_ofItems {items : List BulkItem} {operations : List BulkOperation} {i : Nat}
    {item : BulkItem} {operation : BulkOperation} (position : Nat) (hitem : items[i]? = some item)
    (hoperation : operations[i]? = some operation) :
    (ofItems position items operations)[i]? = some (ofItem (position + i) item operation) := by
  induction items generalizing position operations i with
  | nil => cases hitem
  | cons first items ih =>
    cases operations with
    | nil => cases hoperation
    | cons firstOperation operations =>
      rw [ofItems_cons]
      cases i with
      | zero =>
        rw [List.getElem?_cons_zero, Option.some.injEq] at hitem hoperation ⊢
        rw [hitem, hoperation, Nat.add_zero]
      | succ i =>
        rw [List.getElem?_cons_succ] at hitem hoperation ⊢
        rw [ih (position + 1) hitem hoperation]
        have hposition : position + 1 + i = position + (i + 1) := by omega
        rw [hposition]

end BatchResult

/-! ## Summaries -/

namespace BulkResponse

variable {response : BulkResponse} {operations : List BulkOperation} {policy : BatchPolicy}

/-- Without an item for every operation and no more there is no summary. -/
theorem reconcile_of_length_ne (policy : BatchPolicy)
    (h : response.items.length ≠ operations.length) :
    response.reconcile operations policy =
      .error (.transport (.itemCount response.items.length operations.length)) := by
  unfold reconcile
  exact if_pos h

/-- A summary is one of as many items as operations, and holds their results in order. -/
theorem eq_of_reconcile {summary : BatchSummary}
    (h : response.reconcile operations policy = .ok summary) :
    response.items.length = operations.length ∧ summary.total = operations.length ∧
      summary.results = BatchResult.ofItems 0 response.items operations := by
  by_cases hlength : response.items.length = operations.length
  · refine ⟨hlength, ?_⟩
    unfold reconcile at h
    rw [if_neg (not_not_intro hlength)] at h
    cases policy with
    | failFast =>
      simp only at h
      split at h
      · cases h
      · cases h
        exact ⟨rfl, rfl⟩
    | tally =>
      cases h
      exact ⟨rfl, rfl⟩
  · rw [reconcile_of_length_ne policy hlength] at h
    cases h

/-- A summary has a result for each operation. -/
theorem length_results_of_reconcile {summary : BatchSummary}
    (h : response.reconcile operations policy = .ok summary) :
    summary.results.length = operations.length := by
  obtain ⟨hlength, -, hresults⟩ := eq_of_reconcile h
  rw [hresults, BatchResult.length_ofItems, hlength, Nat.min_self]

/-- The result at a place is that of the operation there, with the item there. -/
theorem getElem?_results_of_reconcile {summary : BatchSummary} {i : Nat} {item : BulkItem}
    {operation : BulkOperation} (h : response.reconcile operations policy = .ok summary)
    (hitem : response.items[i]? = some item) (hoperation : operations[i]? = some operation) :
    summary.results[i]? = some (.ofItem i item operation) := by
  obtain ⟨-, -, hresults⟩ := eq_of_reconcile h
  have hget := BatchResult.getElem?_ofItems 0 hitem hoperation
  rw [Nat.zero_add] at hget
  rw [hresults, hget]

/-- Every result of a summary stands at its own position. -/
theorem position_of_reconcile {summary : BatchSummary} {i : Nat} {result : BatchResult}
    (h : response.reconcile operations policy = .ok summary)
    (hresult : summary.results[i]? = some result) : result.position = i := by
  have hi : i < operations.length := by
    have hlt := (List.getElem?_eq_some_iff.mp hresult).1
    rwa [length_results_of_reconcile h] at hlt
  have hi' : i < response.items.length := by
    rwa [(eq_of_reconcile h).1]
  have hget := getElem?_results_of_reconcile h (List.getElem?_eq_getElem hi')
    (List.getElem?_eq_getElem hi)
  rw [hresult, Option.some.injEq] at hget
  rw [hget]
  rfl

end BulkResponse
end SearchMapper
