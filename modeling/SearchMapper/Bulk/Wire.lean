import SearchMapper.Bulk.Summary

/-!
# The written form of batches

The JSON form of bulk operations, of the answers to them, and of what writes and batches came
to. Counts are natural numbers, which are written as unsigned integers of 64 bits.
-/

namespace SearchMapper

/-- A count. -/
def Json.count (n : Nat) : Json := .uint64 (UInt64.ofNat n)

/-- The written form of an operation; a deletion has no document. -/
def BulkOperation.toJson (operation : BulkOperation) : Json :=
  .object <| Members.insertSome "document" operation.document? <| Members.ofPairs
    [("action", .string operation.action.name), ("id", .optionString operation.id?)]

/-- Reads the answer to one operation. -/
def BulkItem.decode : Decoder BulkItem := fun value => do
  let fields ← Decode.variantFields value
  let name ← fields.required "action" Decode.string
  match BulkAction.ofName? name with
  | none => throw (.unknownVariant name)
  | some action =>
    return {
      action
      id := ← fields.optional "id" Decode.string
      status := ← fields.required "status" Decode.uint16
      error := ← fields.optional "error" Decode.string }

/-- The written form of an answer, with what it means. -/
def BulkItem.toJson (item : BulkItem) : Json :=
  .ofPairs [("action", .string item.action.name), ("id", .optionString item.id),
    ("status", .uint16 item.status), ("error", .optionString item.error),
    ("success", .bool item.isSuccess), ("created", .bool item.isCreated)]

/-- The written form of the answer to a bulk request. -/
def BulkResponse.toJson (response : BulkResponse) : Json :=
  .ofPairs [("took_ms", .uint64 response.tookMs), ("errors", .bool response.errors),
    ("has_failures", .bool response.hasFailures), ("failed_count", .count response.failedCount),
    ("items", .array (response.items.map BulkItem.toJson))]

/-- The written form of the answer to a single write. -/
def WriteResponse.toJson (response : WriteResponse) : Json :=
  .ofPairs [("status", .uint16 response.status), ("id", .string response.id),
    ("result", .optionString response.result)]

/-- The written form of what a single write came to. -/
def WriteOutcome.toJson (outcome : WriteOutcome) : Json :=
  .ofPairs [("affected", .count outcome.affected), ("id", .optionString outcome.id)]

/-- The written form of what one operation of a batch came to. -/
def BatchResult.toJson (result : BatchResult) : Json :=
  .ofPairs [("position", .count result.position), ("id", .optionString result.id),
    ("status", .uint16 result.status), ("success", .bool result.success),
    ("created", .bool result.created), ("error", .optionString result.error)]

/-- The written form of what a batch came to. -/
def BatchSummary.toJson (summary : BatchSummary) : Json :=
  .ofPairs [("total", .count summary.total), ("succeeded", .count summary.succeeded),
    ("failed", .count summary.failed),
    ("assigned_ids", .array (summary.assignedIds.map Json.optionString)),
    ("results", .array (summary.results.map BatchResult.toJson))]

end SearchMapper
