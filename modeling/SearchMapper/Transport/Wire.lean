import SearchMapper.Bulk.Wire
import SearchMapper.Transport.Call

/-!
# The written form of calls

The JSON form of calls, under their names, and of the replies to them.
-/

namespace SearchMapper.Call

/-- The name of a call. -/
def name : Call → String
  | indexDocument .. => "index_document"
  | updateDocument .. => "update_document"
  | deleteDocument .. => "delete_document"
  | bulk .. => "bulk"
  | search .. => "search"
  | indexExists .. => "index_exists"
  | createIndex .. => "create_index"
  | deleteIndex .. => "delete_index"

/-- The index that a call is made to. -/
def index : Call → String
  | indexDocument index _ _ | updateDocument index _ _ | deleteDocument index _ | bulk index _
  | search index _ | indexExists index | createIndex index _ | deleteIndex index => index

/-- What a call carries, apart from the index. -/
def arguments : Call → List (String × Json)
  | indexDocument _ id document => [("id", .optionString id), ("document", document)]
  | updateDocument _ id document => [("id", .string id), ("document", document)]
  | deleteDocument _ id => [("id", .string id)]
  | bulk _ operations => [("operations", .array (operations.map BulkOperation.toJson))]
  | search _ body => [("body", body)]
  | createIndex _ body => [("body", body)]
  | indexExists _ | deleteIndex _ => []

/-- The written form of a call. -/
def toJson (c : Call) : Json :=
  .ofPairs (("call", .string c.name) :: ("index", .string c.index) :: c.arguments)

/-- The written form of a reply. -/
def replyToJson : (c : Call) → c.Reply → Json
  | indexDocument .., reply => WriteResponse.toJson reply
  | updateDocument .., reply => WriteResponse.toJson reply
  | deleteDocument .., reply => WriteResponse.toJson reply
  | bulk .., reply => BulkResponse.toJson reply
  | search .., reply => SearchResponse.toJson reply
  | indexExists .., reply => .bool reply
  | createIndex .., reply => .bool reply
  | deleteIndex .., reply => .bool reply

end SearchMapper.Call
