import SearchMapper.Bulk.Basic
import SearchMapper.Error
import SearchMapper.Response.Search

/-!
# Calls and programs

A `Call` is one request to the backend, with the type of its reply. A `Program` is an
operation that makes calls: each call names what comes next for every reply, so a program says
what it does under all behaviours of the backend. A `Transport` answers calls, and running a
program on it yields the result and the calls that were made.
-/

namespace SearchMapper

/-- One request to the backend. -/
inductive Call where
  | indexDocument (index : String) (id : Option String) (document : Json)
  | updateDocument (index id : String) (document : Json)
  | deleteDocument (index id : String)
  | bulk (index : String) (operations : List BulkOperation)
  | search (index : String) (body : Json)
  | indexExists (index : String)
  | createIndex (index : String) (body : Json)
  | deleteIndex (index : String)
deriving DecidableEq, Repr

/-- What a call is answered with. -/
abbrev Call.Reply : Call → Type
  | indexDocument .. | updateDocument .. | deleteDocument .. => WriteResponse
  | bulk .. => BulkResponse
  | search .. => SearchResponse
  | indexExists .. | createIndex .. | deleteIndex .. => Bool

/-- An operation that makes calls and ends with a value or an error. -/
inductive Program (ε α : Type) where
  | done (result : Except ε α)
  /-- Makes a call and goes on with its reply. -/
  | call (call : Call) (next : Except MapperError call.Reply → Program ε α)
  /-- Goes on with a new random identifier. -/
  | newId (next : String → Program ε α)

namespace Program
variable {ε δ α β : Type}

/-- Goes on with the value of a program; an error ends it. -/
protected def bind : Program ε α → (α → Program ε β) → Program ε β
  | done (.ok a), f => f a
  | done (.error e), _ => done (.error e)
  | call c next, f => call c fun reply => (next reply).bind f
  | newId next, f => newId fun id => (next id).bind f

instance : Monad (Program ε) where
  pure a := done (.ok a)
  bind := Program.bind

/-- The same program with other errors. -/
def mapError (f : ε → δ) : Program ε α → Program δ α
  | done result => done (result.mapError f)
  | call c next => call c fun reply => (next reply).mapError f
  | newId next => newId fun id => (next id).mapError f

/-- The program, and after an error the other one in its place. -/
def orElse : Program ε α → Program ε α → Program ε α
  | done (.ok a), _ => done (.ok a)
  | done (.error _), other => other
  | call c next, other => call c fun reply => (next reply).orElse other
  | newId next, other => newId fun id => (next id).orElse other

/-- A program that makes no calls. -/
def lift (result : Except ε α) : Program ε α := done result

/-- Ends with an error. -/
def fail (error : ε) : Program ε α := done (.error error)

end Program

/-- A program of a mapper. -/
abbrev Operation : Type → Type := Program MapperError

namespace Operation
variable {α : Type}

/-- Makes one call. -/
def send (c : Call) : Operation c.Reply := .call c .done

/-- A check that has to succeed. -/
def check (result : Except Invalid α) : Operation α :=
  .done (result.mapError MapperError.validation)

/-- An encoding or decoding that has to succeed. -/
def coded (result : Except CodecFault α) : Operation α :=
  .done (result.mapError MapperError.serialization)

end Operation

/-- What answers calls, with a state of its own. -/
structure Transport (σ : Type) where
  send : (c : Call) → σ → Except MapperError c.Reply × σ
  newId : σ → String × σ

/-- What running a program came to. -/
structure Run (σ ε α : Type) where
  result : Except ε α
  /-- The calls that were made, in order. -/
  calls : List Call
  state : σ

/-- Runs a program on a transport. -/
def Program.run {σ ε α : Type} (transport : Transport σ) : Program ε α → σ → Run σ ε α
  | done result, state => { result, calls := [], state }
  | call c next, state =>
    let (reply, state) := transport.send c state
    let rest := (next reply).run transport state
    { rest with calls := c :: rest.calls }
  | newId next, state =>
    let (id, state) := transport.newId state
    (next id).run transport state

end SearchMapper
