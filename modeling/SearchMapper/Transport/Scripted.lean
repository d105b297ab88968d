import SearchMapper.Date.Digits
import SearchMapper.Response.Body
import SearchMapper.Transport.Wire

/-!
# A scripted transport

A transport whose replies are given in advance, in their written form, to run programs without
a backend. Each call takes the next reply, whatever the call is; a reply that does not fit it
is an error, as is a call without a reply. Identifiers are numbered.
-/

namespace SearchMapper

/-- The replies to come, and the number of identifiers handed out. -/
structure Script where
  replies : List Json
  ids : Nat := 0
deriving DecidableEq, Repr

namespace Script

/-- Reads the reply to a single write. -/
def writeReply? (reply : Json) : Option WriteResponse := do
  return {
    status := ← (reply.member? "status").bind Json.status?
    id := ← (reply.member? "id").bind Json.string?
    result := (reply.member? "result").bind Json.string? }

/-- Reads the reply to a bulk request. -/
def bulkReply? (reply : Json) : Option BulkResponse := do
  let items ← (reply.member? "items").bind Json.array?
  return {
    tookMs := countOr0 (reply.member? "took_ms")
    errors := ((reply.member? "errors").bind Json.bool?).getD false
    items := ← items.mapM fun item => (BulkItem.decode item).toOption }

/-- Reads the reply to a call about an index. -/
def indexReply? (reply : Json) : Option Bool := (reply.member? "ok").bind Json.bool?

/-- Reads the reply to a call. -/
def reply? : (c : Call) → Json → Option c.Reply
  | .indexDocument .., reply => writeReply? reply
  | .updateDocument .., reply => writeReply? reply
  | .deleteDocument .., reply => writeReply? reply
  | .bulk .., reply => bulkReply? reply
  | .search .., reply => (SearchResponse.decode reply).toOption
  | .indexExists .., reply => indexReply? reply
  | .createIndex .., reply => indexReply? reply
  | .deleteIndex .., reply => indexReply? reply

/-- What a reply answers to a call. A reply may also say that the call fails. -/
def answer (c : Call) (reply : Json) : Except TransportFault c.Reply :=
  match (reply.member? "fail").bind Json.string? with
  | some text => .error (.other text)
  | none =>
    match reply? c reply with
    | some reply => .ok reply
    | none => .error (.other "bad reply")

/-- Answers a call with the next reply. -/
def send (c : Call) (script : Script) : Except MapperError c.Reply × Script :=
  match script.replies with
  | [] => (.error (.transport (.other "no reply scripted")), script)
  | reply :: rest => ((answer c reply).mapError .transport, { script with replies := rest })

/-- The next identifier, which has the form of a random one. -/
def newId (script : Script) : String × Script :=
  ("7c1d5e90-42b3-4f68-9a0e-" ++ String.ofList (zeroPadded 12 script.ids),
    { script with ids := script.ids + 1 })

/-- The transport that follows a script. -/
def transport : Transport Script := { send, newId }

end Script
end SearchMapper
