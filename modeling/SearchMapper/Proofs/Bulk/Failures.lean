import SearchMapper.Proofs.Bulk.Counts
import SearchMapper.Proofs.Response.Parsed

/-!
# Two views of failed operations

A bulk response says in two ways that operations failed. One way goes by the flag of the body and by
the errors that its items tell, the other counts the items that were not carried out. An item with a
status of failure and without an error, as for the deletion of a document that is missing, is seen
by the second one only.
-/

namespace SearchMapper

/-! ## What items tell -/

/-- The item tells of an error, be it null. -/
def Json.TellsError (item : Json) : Prop := ∃ error, item.outcome? "error" = some error

/-- The item tells a status outside 200 to 299. -/
def Json.TellsFailure (item : Json) : Prop :=
  ∃ status, item.outcomeStatus? = some status ∧
    ¬ (200 ≤ status.toNat ∧ status.toNat ≤ 299)

section

variable {item : Json} {answer : BulkItem}

theorem BulkItem.tellsError_iff (h : ofBody item = .ok answer) :
    answer.error.isSome = true ↔ item.TellsError := by
  obtain ⟨-, -, herror⟩ := eq_of_ofBody h
  rw [herror, Option.isSome_map, Option.isSome_iff_exists]
  rfl

/-- An operation was not carried out if its item tells of an error or of a failure. -/
theorem BulkItem.not_carriedOut_iff (h : ofBody item = .ok answer) :
    ¬ answer.CarriedOut ↔ item.TellsError ∨ item.TellsFailure := by
  obtain ⟨hstatus, -, -⟩ := eq_of_ofBody h
  have hfailure : item.TellsFailure ↔
      ¬ (200 ≤ answer.status.toNat ∧ answer.status.toNat ≤ 299) := by
    unfold Json.TellsFailure
    rw [hstatus]
    simp
  rw [CarriedOut, not_and_or, hfailure, ← tellsError_iff h, Option.isSome_iff_ne_none]

end

/-! ## Both views -/

namespace BulkResponse

variable {body : Json} {items : List Json} {response : BulkResponse}

/-- The flag of a response is that of its body. -/
theorem errors_iff_of_ofBody (h : ofBody body = .ok response) :
    response.errors = true ↔ body.member? "errors" = some (.bool true) := by
  have herrors : response.errors = ((body.member? "errors").bind Json.bool?).getD false := by
    unfold ofBody at h
    split at h
    · cases h
    · obtain ⟨answers, -, h⟩ := Except.bind_eq_ok_iff.mp h
      cases h
      rfl
  rw [herrors]
  rcases body.member? "errors" with _ | value
  · simp
  · cases value <;> simp [Json.bool?]

section

variable (hitems : body.member? "items" = some (.array items)) (h : ofBody body = .ok response)

include hitems h

/-- One view: the flag, or an item that tells of an error. -/
theorem hasFailures_iff_of_ofBody :
    response.hasFailures = true ↔
      body.member? "errors" = some (.bool true) ∨ ∃ item ∈ items, item.TellsError := by
  have hread := items_of_ofBody (Json.bind_array?_eq_some_iff.mpr hitems) h
  rw [hasFailures, Bool.or_eq_true, errors_iff_of_ofBody h, List.any_eq_true,
    Except.exists_mem_mapM_iff hread fun item answer => BulkItem.tellsError_iff]

/-- The other view: an item that tells of an error, or one that tells of a failure. -/
theorem failedCount_pos_iff_of_ofBody :
    0 < response.failedCount ↔
      (∃ item ∈ items, item.TellsError) ∨ ∃ item ∈ items, item.TellsFailure := by
  have hread := items_of_ofBody (Json.bind_array?_eq_some_iff.mpr hitems) h
  rw [failedCount_pos_iff,
    Except.exists_mem_mapM_iff hread fun item answer => BulkItem.not_carriedOut_iff]
  simp only [and_or_left, exists_or]

/-! ## Main result -/

/-- **Two views of failed operations.** If the flag of a body says whether some of its items tell of
an error, the response has failures exactly if some item does, and counts failed operations exactly
if some item tells of an error or has a status of failure. So failures are always counted, and the
two views agree exactly if there is an item with an error wherever there is one with a status of
failure. -/
theorem failures_agree_iff
    (hflag : body.member? "errors" = some (.bool true) ↔ ∃ item ∈ items, item.TellsError) :
    (response.hasFailures = true ↔ ∃ item ∈ items, item.TellsError) ∧
      (0 < response.failedCount ↔
        (∃ item ∈ items, item.TellsError) ∨ ∃ item ∈ items, item.TellsFailure) ∧
      (response.hasFailures = true → 0 < response.failedCount) ∧
      ((response.hasFailures = true ↔ 0 < response.failedCount) ↔
        ((∃ item ∈ items, item.TellsFailure) → ∃ item ∈ items, item.TellsError)) := by
  have hfailures : response.hasFailures = true ↔ ∃ item ∈ items, item.TellsError := by
    rw [hasFailures_iff_of_ofBody hitems h, hflag, or_self]
  have hcount := failedCount_pos_iff_of_ofBody hitems h
  refine ⟨hfailures, hcount, fun hsome => hcount.mpr (.inl (hfailures.mp hsome)), ?_⟩
  rw [hfailures, hcount]
  exact iff_comm.trans or_iff_left_iff_imp

end

/-- Two items with a status of failure, of which one tells of an error. -/
theorem failures_agree_iff_conflict :
    let conflict : Json := .single "create"
      (.ofPairs [("status", .number (.int 409)), ("error", .single "reason" (.string "exists"))])
    let missing : Json := .single "delete" (.single "status" (.number (.int 404)))
    let body : Json :=
      .ofPairs [("errors", .bool true), ("items", .array [conflict, missing])]
    ∃ response, ofBody body = .ok response ∧ response.hasFailures = true ∧
      0 < response.failedCount := by
  intro conflict missing body
  have hitems : body.member? "items" = some (.array [conflict, missing]) := rfl
  have htells : ∃ item ∈ [conflict, missing], item.TellsError :=
    ⟨conflict, List.mem_cons_self, _, rfl⟩
  have hread : ∃ response, ofBody body = .ok response := ⟨_, rfl⟩
  obtain ⟨response, hresponse⟩ := hread
  obtain ⟨hfailures, -, hcounted, -⟩ :=
    failures_agree_iff hitems hresponse (iff_of_true rfl htells)
  exact ⟨response, hresponse, hfailures.mpr htells, hcounted (hfailures.mpr htells)⟩

/-- The deletion of a document that is missing counts as failed in a response without failures. -/
theorem missing_document_in_one_view :
    let missing : Json := .single "delete" (.single "status" (.number (.int 404)))
    let body : Json := .ofPairs [("errors", .bool false), ("items", .array [missing])]
    ∃ response, ofBody body = .ok response ∧
      (body.member? "errors" = some (.bool true) ↔ ∃ item ∈ [missing], item.TellsError) ∧
      response.hasFailures = false ∧ response.failedCount = 1 := by
  intro missing body
  refine ⟨_, rfl, ?_, rfl, rfl⟩
  -- the flag is not set, and rightly so, as there is no error to tell of
  refine iff_of_false (fun hflag => ?_) ?_
  · cases hflag
  · rintro ⟨item, hmem, error, herror⟩
    rw [List.mem_singleton.mp hmem] at herror
    cases herror

end BulkResponse
end SearchMapper
