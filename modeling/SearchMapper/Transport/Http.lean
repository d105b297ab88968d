import SearchMapper.Json.Reader
import SearchMapper.Response.Body
import SearchMapper.Transport.Call

/-!
# Calls over HTTP

How calls are made as HTTP requests, and what the answers mean. A status outside 200 to 299
is an error, except that a document to delete and an index asked for may be missing.
-/

namespace SearchMapper.Http

/-- The methods of requests. -/
inductive Method where
  | get
  | head
  | post
  | put
  | delete
deriving DecidableEq, Repr

/-- The name of a method. -/
def Method.name : Method → String
  | get => "GET"
  | head => "HEAD"
  | post => "POST"
  | put => "PUT"
  | delete => "DELETE"

/-- The body of a request. -/
inductive Body where
  | empty
  | json (value : Json)
  /-- Values, each on a line of its own. -/
  | lines (values : List Json)
deriving DecidableEq, Repr

/-- A request. -/
structure Request where
  method : Method
  path : String
  body : Body
deriving DecidableEq, Repr

/-- An answer. -/
structure Reply where
  status : UInt16
  text : String
deriving DecidableEq, Repr

/-! ## Paths -/

/-- The byte stands for itself in a part of a path. -/
def isUnreserved (byte : UInt8) : Bool :=
  let c := Char.ofNat byte.toNat
  c.isAlphanum || c == '*' || c == ',' || c == '-' || c == '.' || c == '_'

/-- A byte of a part of a path, escaped if need be. -/
def escapeByte (byte : UInt8) : List Char :=
  if isUnreserved byte then [Char.ofNat byte.toNat]
  else
    let digit (n : Nat) : Char := (Nat.digitChar n).toUpper
    ['%', digit (byte.toNat / 16), digit (byte.toNat % 16)]

/-- A part of a path. -/
def escapePart (part : String) : String :=
  String.ofList (part.toUTF8.toList.flatMap escapeByte)

/-- A path of parts. -/
def path (parts : List String) : String :=
  String.join (parts.map fun part => "/" ++ part)

/-! ## Requests -/

/-- The line that announces an operation. -/
def actionLine (operation : BulkOperation) : Json :=
  .single operation.action.name <|
    match operation.id? with
    | some id => .single "_id" (.string id)
    | none => .object []

/-- The lines of an operation: what to do, and the document to do it with. -/
def operationLines : BulkOperation → List Json
  | .index id document => [actionLine (.index id document), document]
  | .update id document => [actionLine (.update id document), .single "doc" document]
  | .delete id => [actionLine (.delete id)]

/-- The lines of a bulk request. -/
def bulkLines (operations : List BulkOperation) : List Json :=
  operations.flatMap operationLines

/-- The request for a call. -/
def request : Call → Request
  | .indexDocument index id document =>
    let place := [escapePart index, "_doc"] ++ (id.map escapePart).toList
    { method := .post, path := path place, body := .json document }
  | .updateDocument index id document =>
    { method := .post, path := path [escapePart index, "_update", escapePart id]
      body := .json (.single "doc" document) }
  | .deleteDocument index id =>
    { method := .delete, path := path [escapePart index, "_doc", escapePart id], body := .empty }
  | .bulk index operations =>
    { method := .post, path := path [escapePart index, "_bulk"]
      body := .lines (bulkLines operations) }
  | .search index body =>
    { method := .post, path := path [escapePart index, "_search"], body := .json body }
  | .indexExists index => { method := .head, path := path [escapePart index], body := .empty }
  | .createIndex index body =>
    { method := .put, path := path [escapePart index], body := .json body }
  | .deleteIndex index => { method := .delete, path := path [escapePart index], body := .empty }

/-! ## Replies -/

/-- The status says that the request was carried out. -/
def Reply.isSuccess (reply : Reply) : Bool :=
  200 ≤ reply.status && reply.status < 300

/-- The body of a successful reply. -/
def Reply.success (reply : Reply) (operation : String) : Except TransportFault String :=
  if reply.isSuccess then .ok reply.text
  else .error (.failedStatus operation reply.status reply.text)

/-- The body of a successful reply as JSON. -/
def Reply.json (reply : Reply) (operation : String) : Except TransportFault Json := do
  match Json.parse? (← reply.success operation) with
  | some body => return body
  | none => throw .unreadableBody

/-- The reply says that the request was acknowledged. -/
def acknowledged (body : Json) : Bool :=
  ((body.member? "acknowledged").bind Json.bool?).getD false

/-- The answer to a document that was to be deleted and does not exist. -/
def notFound (id : String) : WriteResponse :=
  { status := 404, id, result := some "not_found" }

/-- What a reply answers to a call. -/
def interpret : (c : Call) → Reply → Except TransportFault c.Reply
  | .indexDocument .., reply => do WriteResponse.ofBody reply.status (← reply.json "Index")
  | .updateDocument .., reply => do WriteResponse.ofBody reply.status (← reply.json "Update")
  | .deleteDocument _ id, reply =>
    if reply.status = 404 then .ok (notFound id)
    else do WriteResponse.ofBody reply.status (← reply.json "Delete")
  | .bulk .., reply => do BulkResponse.ofBody (← reply.json "Bulk")
  | .search .., reply => do SearchResponse.ofBody (← reply.json "Search")
  | .indexExists _, reply =>
    if reply.status = 200 then .ok true
    else if reply.status = 404 then .ok false
    else do
      let _ ← reply.success "Index exists"
      return false
  | .createIndex .., reply => do return acknowledged (← reply.json "Create index")
  | .deleteIndex _, reply => do return acknowledged (← reply.json "Delete index")

/-! ## The transport -/

/-- What carries requests to the backend. Without a reply the backend was not reached. -/
structure Link (σ : Type) where
  exchange : Request → σ → Option Reply × σ
  newId : σ → String × σ

/-- The transport that makes calls over a link. -/
def Link.transport {σ : Type} (link : Link σ) : Transport σ where
  send c state :=
    match link.exchange (request c) state with
    | (some reply, state) => ((interpret c reply).mapError .transport, state)
    | (none, state) => (.error (.transport .unreachable), state)
  newId := link.newId

end SearchMapper.Http
