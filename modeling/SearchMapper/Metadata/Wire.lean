import SearchMapper.Json.Decode
import SearchMapper.Metadata.Basic

/-!
# The written form of metadata

The JSON form of metadata, which holds every key, and the decoders that read it back.
-/

namespace SearchMapper

/-- The strategies under their written names. -/
def FieldStrategy.names : List (String × FieldStrategy) :=
  [("DEFAULT", .always), ("IGNORED", .ignored), ("NOT_NULL", .notNull), ("NOT_EMPTY", .notEmpty)]

/-- The written name of a strategy. -/
def FieldStrategy.name : FieldStrategy → String
  | always => "DEFAULT"
  | ignored => "IGNORED"
  | notNull => "NOT_NULL"
  | notEmpty => "NOT_EMPTY"

/-- Reads a strategy. -/
def FieldStrategy.decode : Decoder FieldStrategy := Decode.named FieldStrategy.names

/-- The identifier modes under their written names. -/
def IdType.names : List (String × IdType) :=
  [("BACKEND", .backend), ("UUID", .uuid), ("CUSTOM", .custom)]

/-- The written name of an identifier mode. -/
def IdType.name : IdType → String
  | backend => "BACKEND"
  | uuid => "UUID"
  | custom => "CUSTOM"

/-- Reads an identifier mode. -/
def IdType.decode : Decoder IdType := Decode.named IdType.names

/-- The kinds of fields under their written names. -/
def FieldKind.names : List (String × FieldKind) :=
  [("plain", .plain), ("date_time", .dateTime)]

/-- The written name of a kind of field. -/
def FieldKind.name : FieldKind → String
  | plain => "plain"
  | dateTime => "date_time"

/-- The written form of a descriptor. -/
def FieldDescriptor.toJson (field : FieldDescriptor) : Json :=
  .ofPairs [("name", .string field.name), ("strategy", .string field.strategy.name),
    ("kind", .string field.kind.name), ("date_format", .optionString field.dateFormat)]

/-- Reads a descriptor. -/
def FieldDescriptor.decode : Decoder FieldDescriptor := fun value => do
  let fields ← Decode.fields ["name", "strategy", "kind", "date_format"]
    "a field descriptor" value
  return {
    name := ← fields.required "name" Decode.string
    strategy := ← fields.required "strategy" FieldStrategy.decode
    kind := ← fields.required "kind" (Decode.named FieldKind.names)
    dateFormat := ← fields.optional "date_format" Decode.string }

/-- The written form of metadata. -/
def Metadata.toJson (metadata : Metadata) : Json :=
  .ofPairs [("index_name", .string metadata.indexName),
    ("key_field", .optionString metadata.keyField),
    ("id_type", .optionString (metadata.idType.map IdType.name)),
    ("fields", .array (metadata.fields.map FieldDescriptor.toJson))]

/-- Reads metadata. -/
def Metadata.decode : Decoder Metadata := fun value => do
  let fields ← Decode.fields ["index_name", "key_field", "id_type", "fields"]
    "metadata" value
  return {
    indexName := ← fields.required "index_name" Decode.string
    keyField := ← fields.optional "key_field" Decode.string
    idType := ← fields.optional "id_type" IdType.decode
    fields := ← fields.required "fields" (Decode.list FieldDescriptor.decode) }

end SearchMapper
