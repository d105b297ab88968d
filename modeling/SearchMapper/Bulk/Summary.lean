import SearchMapper.Bulk.Basic
import SearchMapper.Error

/-!
# Summaries of batches

The answers of a bulk request matched with its operations, by position. Under the policy to
fail fast the batch fails as a whole if any operation did; under the other one successes are
counted.
-/

namespace SearchMapper

/-- How a batch deals with operations that fail. -/
inductive BatchPolicy where
  /-- The batch fails, and success means that a document was created. -/
  | failFast
  /-- The batch succeeds, and counts the operations that did. -/
  | tally
deriving DecidableEq, Repr

/-- What one operation of a batch came to. -/
structure BatchResult where
  position : Nat
  id : Option String
  status : UInt16
  success : Bool
  created : Bool
  error : Option String
deriving DecidableEq, Repr

/-- What a batch came to. -/
structure BatchSummary where
  total : Nat
  succeeded : Nat
  failed : Nat
  results : List BatchResult
deriving DecidableEq, Repr

namespace BatchSummary

/-- The summary of a batch without operations. -/
def empty : BatchSummary := { total := 0, succeeded := 0, failed := 0, results := [] }

/-- For each position the identifier of the document, if one was created. -/
def assignedIds (summary : BatchSummary) : List (Option String) :=
  summary.results.map fun result => if result.created then result.id else none

end BatchSummary

/-- The results of operations from a position on, each with the item that answers it. -/
def BatchResult.ofItems (position : Nat) : List BulkItem → List BulkOperation → List BatchResult
  | item :: items, operation :: operations =>
    { position
      id := item.id.or operation.id?
      status := item.status
      success := item.isSuccess
      created := item.isCreated
      error := item.error } :: ofItems (position + 1) items operations
  | _, _ => []

/-- The summary of a bulk response. It has to have as many items as there are operations. -/
def BulkResponse.reconcile (response : BulkResponse) (operations : List BulkOperation)
    (policy : BatchPolicy) : Except MapperError BatchSummary :=
  let total := operations.length
  if response.items.length ≠ total then
    .error (.transport (.itemCount response.items.length total))
  else
    let results := BatchResult.ofItems 0 response.items operations
    let failed := results.countP (!·.success)
    match policy with
    | .failFast =>
      if failed > 0 then .error (.batchFailure total failed)
      else .ok { total, succeeded := results.countP (·.created), failed, results }
    | .tally => .ok { total, succeeded := results.countP (·.success), failed, results }

/-- Checks the size of a batch against a limit. -/
def validateBatchSize (limit : Option UInt64) (size : Nat) : Except Invalid Unit :=
  match limit with
  | some max => if size > max.toNat then .error (.batchTooLarge size max.toNat) else .ok ()
  | none => .ok ()

end SearchMapper
