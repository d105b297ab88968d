import SearchMapper.Bulk.Basic
import SearchMapper.Error
import SearchMapper.Response.Search

/-!
# Bodies of responses

Reading what the backend sends: answers to writes, to bulk requests and to searches. A body
is read as a whole or not at all; no item or hit is passed over.
-/

namespace SearchMapper

/-- The answer to a single write. -/
def WriteResponse.ofBody (status : UInt16) (body : Json) : Except TransportFault WriteResponse :=
  match (body.member? "_id").bind Json.string? with
  | some id => .ok { status, id, result := (body.member? "result").bind Json.string? }
  | none => .error (.writeWithoutId body)

/-- The reason of an error, with its type before it. Without a reason it is the error itself,
as JSON text. -/
def errorReason (error : Json) : String :=
  match (error.member? "type").bind Json.string?, (error.member? "reason").bind Json.string? with
  | some kind, some reason => kind ++ ": " ++ reason
  | none, some reason => reason
  | _, none => error.compact

/-- A status code. -/
def Json.status? (value : Json) : Option UInt16 :=
  value.uint64?.bind fun n => if n < 65536 then some n.toUInt16 else none

/-- The first member of an item: its action and what came of it. -/
def firstMember? : Json → Option (String × Json)
  | .object (first :: _) => some first
  | _ => none

/-- The answer to one operation. -/
def BulkItem.ofBody (item : Json) : Except TransportFault BulkItem :=
  match firstMember? item with
  | none => .error (.malformedItem item)
  | some (name, result) =>
    match BulkAction.ofName? name with
    | none => .error (.unknownAction name)
    | some action =>
      match (result.member? "status").bind Json.status? with
      | none => .error (.itemWithoutStatus item)
      | some status =>
        .ok {
          action
          id := (result.member? "_id").bind Json.string?
          status
          error := (result.member? "error").map errorReason }

/-- An unsigned number of a body, or zero. -/
def countOr0 (value : Option Json) : UInt64 :=
  (value.bind Json.uint64?).getD 0

/-- The answer to a bulk request. -/
def BulkResponse.ofBody (body : Json) : Except TransportFault BulkResponse :=
  match (body.member? "items").bind Json.array? with
  | none => .error .bulkWithoutItems
  | some items => do
    return {
      tookMs := countOr0 (body.member? "took")
      errors := ((body.member? "errors").bind Json.bool?).getD false
      items := ← items.mapM BulkItem.ofBody }

/-- One hit. -/
def SearchHit.ofBody (hit : Json) : Except TransportFault SearchHit :=
  match (hit.member? "_id").bind Json.string? with
  | none => .error (.hitWithoutId hit)
  | some id =>
    .ok {
      id
      score := (hit.member? "_score").bind Json.double?
      source := (hit.member? "_source").getD .null
      highlight := hit.member? "highlight" }

/-- The number of all matching documents, given as a number or as an object with a value. -/
def totalOf (hits : Json) : UInt64 :=
  match hits.member? "total" with
  | some (.number n) => countOr0 (some (.number n))
  | some total => countOr0 (total.member? "value")
  | none => 0

/-- The answer to a search. -/
def SearchResponse.ofBody (body : Json) : Except TransportFault SearchResponse :=
  match body.member? "hits" with
  | none => .error .searchWithoutHits
  | some hits => do
    return {
      hits := ← (((hits.member? "hits").bind Json.array?).getD []).mapM SearchHit.ofBody
      total := totalOf hits
      tookMs := countOr0 (body.member? "took")
      aggregations := body.member? "aggregations" }

end SearchMapper
