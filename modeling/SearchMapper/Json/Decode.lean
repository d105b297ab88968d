import SearchMapper.Text.Quoted
import SearchMapper.Json.Printer

/-!
# Typed readings of JSON

What values of typed records look like in JSON. A record is an object with its fields as
members, where unknown members do not matter, or an array of its fields in declared order. A
choice is the name of an alternative, or an object with that name alone and the data of the
alternative. A `Refusal` says why a value is not of the type that was asked for.
-/

namespace SearchMapper

/-- Why a JSON value is not of the wanted type. -/
inductive Refusal where
  | wrongType (found : Json) (wanted : String)
  | wrongValue (found : Json) (wanted : String)
  | missingField (name : String)
  | wrongLength (found : Nat) (wanted : String)
  | unknownVariant (name : String)
  /-- The text of a string does not have the wanted form. -/
  | malformed (problem : String)
deriving DecidableEq, Repr

namespace Refusal

/-- A value as refusals name it. -/
def describe : Json → String
  | .null => "null"
  | .bool true => "boolean `true`"
  | .bool false => "boolean `false`"
  | .number (.int n h) => "integer `" ++ (JsonNumber.int n h).text ++ "`"
  | .number (.double x h) => "floating point `" ++ (JsonNumber.double x h).text ++ "`"
  | .string text => "string " ++ Text.quote text
  | .array _ => "sequence"
  | .object _ => "map"

/-- The text of a refusal. -/
def message : Refusal → String
  | wrongType found wanted => "invalid type: " ++ describe found ++ ", expected " ++ wanted
  | wrongValue found wanted => "invalid value: " ++ describe found ++ ", expected " ++ wanted
  | missingField name => "missing field `" ++ name ++ "`"
  | wrongLength found wanted => "invalid length " ++ toString found ++ ", expected " ++ wanted
  | unknownVariant name => "unknown variant `" ++ name ++ "`"
  | malformed problem => problem

end Refusal

/-- A typed reading of JSON. -/
abbrev Decoder (α : Type) := Json → Except Refusal α

namespace Decode

/-- Any value, as it is. -/
def json : Decoder Json := .ok

/-- A string. -/
def string : Decoder String
  | .string text => .ok text
  | other => .error (.wrongType other "a string")

/-- A boolean. -/
def bool : Decoder Bool
  | .bool b => .ok b
  | other => .error (.wrongType other "a boolean")

/-- An integer from `low` up to, and without, `high`. -/
def intIn (low high : Int) (wanted : String) : Decoder Int
  | .number (.int n h) =>
    if low ≤ n ∧ n < high then .ok n else .error (.wrongValue (.number (.int n h)) wanted)
  | other => .error (.wrongType other wanted)

/-- A signed integer of 64 bits. -/
def int64 : Decoder Int := intIn (-0x8000000000000000) 0x8000000000000000 "a signed integer"

/-- An unsigned integer of 64 bits. -/
def uint64 (value : Json) : Except Refusal UInt64 :=
  (intIn 0 0x10000000000000000 "an unsigned integer" value).map fun n => UInt64.ofNat n.toNat

/-- An unsigned integer of 32 bits. -/
def uint32 (value : Json) : Except Refusal UInt32 :=
  (intIn 0 0x100000000 "an unsigned integer" value).map fun n => UInt32.ofNat n.toNat

/-- An unsigned integer of 16 bits. -/
def uint16 (value : Json) : Except Refusal UInt16 :=
  (intIn 0 0x10000 "an unsigned integer" value).map fun n => UInt16.ofNat n.toNat

/-- A number, as a double. -/
def double (value : Json) : Except Refusal Double :=
  match value.double? with
  | some x => .ok x
  | none => .error (.wrongType value "f64")

/-- A number, as a single. -/
def single (value : Json) : Except Refusal Single :=
  match value.single? with
  | some x => .ok x
  | none => .error (.wrongType value "a number")

/-- Null for none. -/
def option {α : Type} (decode : Decoder α) : Decoder (Option α)
  | .null => .ok none
  | value => (decode value).map some

/-- An array of values that are all of one type. -/
def list {α : Type} (decode : Decoder α) : Decoder (List α)
  | .array items => items.mapM decode
  | other => .error (.wrongType other "a sequence")

/-! ## Records -/

/-- The fields that a record was given. -/
structure Fields where
  members : Members Json
  /-- The record was written as an array. -/
  positional : Bool

/-- The fields of a record, as members of an object or as items in the order of `names`. -/
def fields (names : List String) (wanted : String) : Decoder Fields
  | .object members => .ok ⟨members, false⟩
  | .array items =>
    if items.length ≤ names.length then .ok ⟨names.zip items, true⟩
    else .error (.wrongLength items.length "fewer elements in array")
  | other => .error (.wrongType other wanted)

/-- The fields of an alternative's data, as members of an object. -/
def variantFields : Decoder Fields
  | .object members => .ok ⟨members, false⟩
  | other => .error (.wrongType other "the fields of an alternative")

namespace Fields
variable {α : Type}

/-- A field that has to be there. -/
def required (fields : Fields) (name : String) (decode : Decoder α) : Except Refusal α :=
  match Members.find? name fields.members with
  | some value => decode value
  | none => .error (.missingField name)

/-- A field with a value of its own when it is missing. -/
def defaulted (fields : Fields) (name : String) (default : α) (decode : Decoder α) :
    Except Refusal α :=
  match Members.find? name fields.members with
  | some value => decode value
  | none => .ok default

/-- A field that may be null, and may be missing from an object. -/
def optional (fields : Fields) (name : String) (decode : Decoder α) :
    Except Refusal (Option α) :=
  match Members.find? name fields.members with
  | some value => option decode value
  | none => if fields.positional then .error (.missingField name) else .ok none

end Fields

/-! ## Choices -/

/-- The name of the chosen alternative, and its data if it was written with data. -/
def variant : Decoder (String × Option Json)
  | .string name => .ok (name, none)
  | .object [(name, data)] => .ok (name, some data)
  | .object members => .error (.wrongValue (.object members) "map with a single key")
  | other => .error (.wrongType other "string or map")

/-- An alternative without data: its name alone, or its name with null. -/
def unit {α : Type} (value : α) : Option Json → Except Refusal α
  | none => .ok value
  | some .null => .ok value
  | some other => .error (.wrongType other "null")

/-- An alternative with data. -/
def data {α : Type} (decode : Decoder α) : Option Json → Except Refusal α
  | some value => decode value
  | none => .error (.malformed "an alternative without its data")

/-- A choice among alternatives without data, each under its name. -/
def named {α : Type} (alternatives : List (String × α)) (value : Json) : Except Refusal α := do
  let (name, data) ← variant value
  match alternatives.lookup name with
  | some found => unit found data
  | none => .error (.unknownVariant name)

end Decode
end SearchMapper
