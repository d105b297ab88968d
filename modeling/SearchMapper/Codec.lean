import SearchMapper.Config
import SearchMapper.Date.Print
import SearchMapper.Date.Read
import SearchMapper.Error

/-!
# The document codec

What is stored of an entity, and how an entity is read back from a hit. Only declared fields
are stored, and never the key: the identifier of the document stands for it. Date-time fields
with a format are written in that format and read back from it.
-/

namespace SearchMapper

/-- Entities: values that can be written as JSON and read from it. Writing does not fail: types with
values that have no JSON form, such as mappings whose keys are no texts, are no entities here. What
is written need not be an object, and reading may fail. -/
class Entity (α : Type) where
  toJson : α → Json
  decode : Decoder α

/-- Any JSON value is an entity of its own. -/
instance : Entity Json where
  toJson value := value
  decode := Decode.json

/-- Entities of a type that describes itself. -/
class Document (α : Type) extends Entity α where
  metadata : Metadata

/-- The codec of an entity type. -/
structure Codec where
  metadata : Metadata
  /-- The format of date-time fields without one of their own. -/
  dateFormat : Option String

/-- The identifier that the value of a key field stands for: a text as it is, a number as it
is written. -/
def Json.toId? : Json → Option String
  | .string id => some id
  | .number n => some n.text
  | _ => none

/-- The strategy writes the value. -/
def FieldStrategy.admits : FieldStrategy → Json → Bool
  | always, _ | ignored, _ => true
  | notNull, value => !value.isNull
  | notEmpty, value => !value.isNull && value != .string ""

namespace Codec

/-! ## Dates -/

/-- The date format in effect for a field. -/
def fieldFormat? (codec : Codec) (field : FieldDescriptor) : Option String :=
  match field.kind with
  | .dateTime => field.dateFormat.or codec.dateFormat
  | .plain => none

/-- Writes an RFC 3339 text in the format of its field. Any other value stays. -/
def formatDate (codec : Codec) (field : FieldDescriptor) (value : Json) :
    Except CodecFault Json :=
  match codec.fieldFormat? field, value with
  | some format, .string raw =>
    match Timestamp.ofRfc3339 raw with
    | .error _ => .ok value
    | .ok instant =>
      match (DatePattern.parse format).bind (DatePattern.print? instant) with
      | some chars => .ok (.string (String.ofList chars))
      | none => .error (.unprintableDate field.name format)
  | _, _ => .ok value

/-- Reads a stored date in the format of its field, and writes it as RFC 3339 text. A text
that does not have the format stays. -/
def parseDate (codec : Codec) (field : FieldDescriptor) (value : Json) : Json :=
  match codec.fieldFormat? field, value with
  | some format, .string raw =>
    match (DatePattern.parse format).bind fun pattern => pattern.readInstant? raw with
    | some instant => .string instant.toRfc3339
    | none => value
  | _, _ => value

/-! ## Writing -/

/-- The members of an entity, which has to be an object. -/
def members {α : Type} [Entity α] (codec : Codec) (entity : α) :
    Except CodecFault (Members Json) :=
  match Entity.toJson entity with
  | .object members => .ok members
  | other => .error (.entityNotObject codec.metadata.indexName other)

/-- Writes fields one after another into a document. Each takes its value from the members
that are left, or null. -/
def writeFields (codec : Codec) (document left : Members Json) :
    List FieldDescriptor → Except CodecFault (Members Json)
  | [] => .ok document
  | field :: rest => do
    let value ← codec.formatDate field ((Members.find? field.name left).getD .null)
    let document :=
      if field.strategy.admits value then Members.insert field.name value document else document
    writeFields codec document (Members.erase field.name left) rest

/-- The stored source of an entity. -/
def toWireDocument {α : Type} [Entity α] (codec : Codec) (entity : α) :
    Except CodecFault Json := do
  return .object (← codec.writeFields [] (← codec.members entity) codec.metadata.storedFields)

/-- The value of a field as it is stored. -/
def fieldValue (codec : Codec) (name : String) (value : Json) : Except CodecFault Json :=
  match codec.metadata.descriptor? name with
  | some field => codec.formatDate field value
  | none => .ok value

/-- A partial document of given field values. Nulls are kept, and the key is left out. -/
def fieldsDocument (codec : Codec) (fields : List (String × Json)) : Except CodecFault Json := do
  let stored := fields.filter fun (name, _) => !codec.metadata.isKey name
  return .ofPairs <| ← stored.mapM fun (name, value) => do
    return (name, ← codec.fieldValue name value)

/-- The text of the stored source of an entity. -/
def encode {α : Type} [Entity α] (codec : Codec) (entity : α) : Except CodecFault String :=
  (codec.toWireDocument entity).map Json.compact

/-! ## Reading -/

/-- Reads the dates of the stored fields. -/
def readDates (codec : Codec) (source : Members Json) : List FieldDescriptor → Members Json
  | [] => source
  | field :: rest =>
    match Members.find? field.name source with
    | some value =>
      readDates codec (Members.insert field.name (codec.parseDate field value) source) rest
    | none => readDates codec source rest

/-- The integer that an identifier stands for, signed or unsigned. -/
def idNumber? (id : String) : Option Json :=
  ((Text.int64? id).or ((Text.uint64? id).map Int.ofNat)).bind Json.int?

/-- Reads an entity whose key is an identifier: as a text, or else as the number that the
text stands for. If there is none, what was wrong with the text counts. -/
def decodeWithId {α : Type} [Entity α] (source : Members Json) (key id : String) :
    Except CodecFault α :=
  match Entity.decode (.object (Members.insert key (.string id) source)) with
  | .ok entity => .ok entity
  | .error refusal =>
    match idNumber? id with
    | none => .error (.refused refusal)
    | some number =>
      (Entity.decode (.object (Members.insert key number source))).mapError .refused

/-- Reads an entity from the source of a hit, with the identifier as its key if it is
wanted. -/
def ofWireHit {α : Type} [Entity α] (codec : Codec) (source : Json) (id : String)
    (withId : Bool) : Except CodecFault α := do
  let members ←
    match source with
    | .object members => .ok members
    | .null => .ok []
    | other => .error (.sourceNotObject id other)
  let members := codec.readDates members codec.metadata.storedFields
  match withId, codec.metadata.keyField with
  | true, some key => decodeWithId members key id
  | _, _ => (Entity.decode (.object members)).mapError .refused

/-! ## Identifiers -/

/-- The identifier that an entity holds in its key field. -/
def identifierOf {α : Type} [Entity α] (codec : Codec) (entity : α) :
    Except CodecFault (Option String) :=
  match codec.metadata.keyField with
  | none => .ok none
  | some key => do return (Members.find? key (← codec.members entity)).bind Json.toId?

/-- The entity with an identifier in its key field. Without a key field it stays as it is. -/
def assignIdentifier {α : Type} [Entity α] (codec : Codec) (entity : α) (id : String) :
    Except CodecFault α :=
  match codec.metadata.keyField with
  | none => .ok entity
  | some key => do decodeWithId (← codec.members entity) key id

/-- Writes an identifier into the key field of an entity in place. An entity that cannot have the
identifier is not touched. -/
def assign {α : Type} [Entity α] (codec : Codec) (id : String) :
    ExceptT CodecFault (StateM α) Unit := do
  set (← codec.assignIdentifier (← get) id)

/-- Entities read under a projection get their identifier: always without a projection, else
if the key is included, or if some fields are excluded and the key is not among them. -/
def includesIdentifier (key : Option String) (includes excludes : List String) : Bool :=
  if includes.isEmpty && excludes.isEmpty then true
  else
    match key with
    | none => false
    | some key => includes.contains key || (!excludes.isEmpty && !excludes.contains key)

end Codec
end SearchMapper
