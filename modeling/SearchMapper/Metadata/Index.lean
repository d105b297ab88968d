import SearchMapper.Date.BackendPattern
import SearchMapper.Json.Basic
import SearchMapper.Metadata.Basic

/-!
# Index definitions

The body with which an index is created: its settings, the mappings of its fields, and an
alias. From metadata, date-time fields are mapped as dates in the format they are stored in;
all other fields are left to the backend.
-/

namespace SearchMapper

/-- An index to create. -/
structure IndexDefinition where
  name : String
  aliasName : Option String := none
  shards : UInt32 := 1
  replicas : UInt32 := 1
  /-- The mappings of fields by name. -/
  properties : Members Json := []

/-- The mapping of a date-time field with a format. -/
def dateMapping (format : Option String) : Json :=
  .ofPairs <| ("type", .string "date") ::
    (format.toList.map fun f => ("format", .string (BackendPattern.ofFormat f)))

namespace IndexDefinition

/-- The definition with the mapping of one field, over an earlier one. -/
def withProperty (definition : IndexDefinition) (field : String) (mapping : Json) :
    IndexDefinition :=
  { definition with properties := Members.insert field mapping definition.properties }

/-- The definition with an alias. -/
def withAlias (definition : IndexDefinition) (name : String) : IndexDefinition :=
  { definition with aliasName := some name }

/-- The definition with numbers of shards and replicas. -/
def withShards (definition : IndexDefinition) (shards replicas : UInt32) : IndexDefinition :=
  { definition with shards, replicas }

/-- The definition for metadata. A date-time field without a format of its own is mapped in
the default one. -/
def ofMetadata (metadata : Metadata) (defaultFormat : Option String) : IndexDefinition :=
  metadata.fields.foldl
    (fun definition field =>
      match field.kind with
      | .dateTime =>
        definition.withProperty field.name (dateMapping (field.dateFormat.or defaultFormat))
      | .plain => definition)
    { name := metadata.indexName }

/-- The body of the request. -/
def body (definition : IndexDefinition) : Json :=
  .ofPairs <|
    [("settings", .ofPairs [("number_of_shards", .uint32 definition.shards),
      ("number_of_replicas", .uint32 definition.replicas)]),
    ("mappings", .single "properties" (.object definition.properties))] ++
    (definition.aliasName.toList.map fun name => ("aliases", .single name (.object [])))

end IndexDefinition
end SearchMapper
