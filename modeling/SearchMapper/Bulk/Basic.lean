import SearchMapper.Json.Basic

/-!
# Bulk operations

Many document operations in one request, and what the backend answers to each of them.
-/

namespace SearchMapper

/-- The kinds of operations. -/
inductive BulkAction where
  | index
  | update
  | delete
deriving DecidableEq, Repr

/-- The name of an action in requests. -/
def BulkAction.name : BulkAction → String
  | index => "index"
  | update => "update"
  | delete => "delete"

/-- The action that an answer names. Creating a document is one way of indexing it. -/
def BulkAction.ofName? : String → Option BulkAction
  | "index" | "create" => some .index
  | "update" => some .update
  | "delete" => some .delete
  | _ => none

/-- One operation of a bulk request. -/
inductive BulkOperation where
  /-- Stores a document. Without an identifier the backend chooses one. -/
  | index (id : Option String) (document : Json)
  /-- Merges fields into a stored document. -/
  | update (id : String) (document : Json)
  | delete (id : String)
deriving DecidableEq, Repr

namespace BulkOperation

/-- The kind of an operation. -/
def action : BulkOperation → BulkAction
  | index _ _ => .index
  | update _ _ => .update
  | delete _ => .delete

/-- The identifier that an operation is sent with. -/
def id? : BulkOperation → Option String
  | index id _ => id
  | update id _ => some id
  | delete id => some id

/-- The document of an operation. -/
def document? : BulkOperation → Option Json
  | index _ document => some document
  | update _ document => some document
  | delete _ => none

end BulkOperation

/-- The answer to one operation. -/
structure BulkItem where
  action : BulkAction
  id : Option String
  status : UInt16
  /-- Why the operation failed. -/
  error : Option String
deriving DecidableEq, Repr

namespace BulkItem

/-- The operation was carried out. -/
def isSuccess (item : BulkItem) : Bool :=
  item.error.isNone && 200 ≤ item.status && item.status < 300

/-- The operation created a document. -/
def isCreated (item : BulkItem) : Bool :=
  item.error.isNone && item.status == 201

end BulkItem

/-- The answer to a bulk request, in the order of its operations. -/
structure BulkResponse where
  tookMs : UInt64
  /-- The backend says that some operation failed. -/
  errors : Bool
  items : List BulkItem
deriving DecidableEq, Repr

namespace BulkResponse

/-- Some operation failed, by what the backend says or by the errors of the items. -/
def hasFailures (response : BulkResponse) : Bool :=
  response.errors || response.items.any (·.error.isSome)

/-- The number of operations that were not carried out. -/
def failedCount (response : BulkResponse) : Nat :=
  response.items.countP (!·.isSuccess)

end BulkResponse

/-- The answer to a single write. -/
structure WriteResponse where
  status : UInt16
  id : String
  /-- What was done, in a word of the backend. -/
  result : Option String
deriving DecidableEq, Repr

/-- What a single write came to. -/
structure WriteOutcome where
  /-- The number of documents affected, 0 or 1. -/
  affected : Nat
  id : Option String
deriving DecidableEq, Repr

/-- The outcome of a write that was not made. -/
def WriteOutcome.none : WriteOutcome := { affected := 0, id := .none }

end SearchMapper
