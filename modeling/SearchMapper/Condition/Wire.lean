import SearchMapper.Condition.Basic
import SearchMapper.Json.Decode

/-!
# The written form of conditions

Conditions are stored and sent as JSON. Each type has a `toJson` and a decoder that reads it
back; the names of the alternatives are fixed and exact.
-/

namespace SearchMapper

/-- The operators under their written names. -/
def Operator.names : List (String × Operator) :=
  [("EQ", .exact), ("MATCH", .fullText), ("PREFIX", .startsWith), ("WILDCARD", .wildcard),
    ("RANGE", .range), ("TERMS", .terms), ("EXISTS", .present)]

/-- The written name of an operator. -/
def Operator.name : Operator → String
  | exact => "EQ"
  | fullText => "MATCH"
  | startsWith => "PREFIX"
  | wildcard => "WILDCARD"
  | range => "RANGE"
  | terms => "TERMS"
  | present => "EXISTS"

/-- The clauses under their written names. -/
def Clause.names : List (String × Clause) :=
  [("MUST", .must), ("FILTER", .filter), ("SHOULD", .should), ("MUST_NOT", .mustNot),
    ("GT", .gt), ("LT", .lt), ("GE", .ge), ("LE", .le), ("BETWEEN", .between),
    ("NOT_BETWEEN", .notBetween), ("IN", .among), ("NOT_IN", .notAmong), ("EXISTS", .present),
    ("NOT_EXISTS", .absent), ("LIKE_LEFT", .likeLeft), ("LIKE_RIGHT", .likeRight)]

/-- The written name of a clause. -/
def Clause.name : Clause → String
  | must => "MUST"
  | filter => "FILTER"
  | should => "SHOULD"
  | mustNot => "MUST_NOT"
  | gt => "GT"
  | lt => "LT"
  | ge => "GE"
  | le => "LE"
  | between => "BETWEEN"
  | notBetween => "NOT_BETWEEN"
  | among => "IN"
  | notAmong => "NOT_IN"
  | present => "EXISTS"
  | absent => "NOT_EXISTS"
  | likeLeft => "LIKE_LEFT"
  | likeRight => "LIKE_RIGHT"

/-- The markers under their written names. -/
def Marker.names : List (String × Marker) :=
  [("AND_GROUP_OPEN", .andOpen), ("OR_GROUP_OPEN", .orOpen), ("AND_GROUP_CLOSE", .andClose),
    ("OR_GROUP_CLOSE", .orClose), ("OR_CHAIN", .orChain)]

/-- The written name of a marker. -/
def Marker.name : Marker → String
  | andOpen => "AND_GROUP_OPEN"
  | orOpen => "OR_GROUP_OPEN"
  | andClose => "AND_GROUP_CLOSE"
  | orClose => "OR_GROUP_CLOSE"
  | orChain => "OR_CHAIN"

/-- The written form of an operand. -/
def Operand.toJson : Operand → Json
  | none => .string "none"
  | single value => .single "single" value
  | many values => .single "many" (.array values)
  | bounds low high => .single "bounds" (.ofPairs [("low", low), ("high", high)])

/-- Reads an operand. -/
def Operand.decode : Decoder Operand := fun value => do
  let (name, data) ← Decode.variant value
  match name with
  | "none" => Decode.unit none data
  | "single" => return single (← Decode.data Decode.json data)
  | "many" => return many (← Decode.data (Decode.list Decode.json) data)
  | "bounds" =>
    let fields ← Decode.data Decode.variantFields data
    return bounds (← fields.required "low" Decode.json) (← fields.required "high" Decode.json)
  | other => throw (.unknownVariant other)

/-- The written form of a predicate; the boost is left out when there is none. -/
def Predicate.toJson (p : Predicate) : Json :=
  .object <| Members.insertSome "boost" (p.boost.map Json.ofSingle) <| Members.ofPairs [
    ("field", .string p.field), ("operator", .string p.operator.name),
    ("clause", .string p.clause.name), ("original_clause", .string p.givenClause.name),
    ("value", p.operand.toJson)]

/-- Reads a predicate. Without a value its operand is `none`. -/
def Predicate.decode : Decoder Predicate := fun value => do
  let fields ← Decode.fields ["field", "operator", "clause", "original_clause", "value", "boost"]
    "a predicate" value
  return {
    field := ← fields.required "field" Decode.string
    operator := ← fields.required "operator" (Decode.named Operator.names)
    clause := ← fields.required "clause" (Decode.named Clause.names)
    givenClause := ← fields.required "original_clause" (Decode.named Clause.names)
    operand := ← fields.defaulted "value" .none Operand.decode
    boost := ← fields.defaulted "boost" none (Decode.option Decode.single) }

/-- The written form of a marker. -/
def Marker.toJson (marker : Marker) : Json := .string marker.name

/-- Reads a marker. -/
def Marker.decode : Decoder Marker := Decode.named Marker.names

/-- The written form of an entry. -/
def Entry.toJson : Entry → Json
  | batch predicates => .single "predicates" (.array (predicates.map Predicate.toJson))
  | marker m => .single "marker" m.toJson

/-- Reads an entry. -/
def Entry.decode : Decoder Entry := fun value => do
  let (name, data) ← Decode.variant value
  match name with
  | "predicates" => return batch (← Decode.data (Decode.list Predicate.decode) data)
  | "marker" => return marker (← Decode.data Marker.decode data)
  | other => throw (.unknownVariant other)

/-- The written form of a condition list. -/
def Conditions.toJson (conditions : Conditions) : Json :=
  .array (conditions.map Entry.toJson)

/-- Reads a condition list. -/
def Conditions.decode : Decoder Conditions := Decode.list Entry.decode

end SearchMapper
