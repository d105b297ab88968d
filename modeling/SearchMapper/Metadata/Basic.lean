import SearchMapper.Text.Blank
import SearchMapper.Text.LowerCase

/-!
# Document metadata

What an entity type says about the documents it is stored as: the index, the field that holds
the identifier, how identifiers are made, and a descriptor for every stored field.
-/

namespace SearchMapper

/-- When a field is written. -/
inductive FieldStrategy where
  | always
  /-- Always, whatever its value. -/
  | ignored
  /-- Only a value other than null. -/
  | notNull
  /-- Only a value other than null and the empty text. -/
  | notEmpty
deriving DecidableEq, Repr

/-- How identifiers are made when documents are inserted. -/
inductive IdType where
  /-- The backend chooses one. -/
  | backend
  /-- A random one is generated before. -/
  | uuid
  /-- The entity holds it in its key field. -/
  | custom
deriving DecidableEq, Repr

/-- What a field holds. -/
inductive FieldKind where
  | plain
  | dateTime
deriving DecidableEq, Repr

/-- One stored field. Only a date-time field is subject to date formats. -/
structure FieldDescriptor where
  name : String
  strategy : FieldStrategy := .always
  kind : FieldKind := .plain
  dateFormat : Option String := none
deriving DecidableEq, Repr

/-- The metadata of an entity type. Without an identifier mode the configuration decides. -/
structure Metadata where
  indexName : String
  keyField : Option String := none
  idType : Option IdType := none
  fields : List FieldDescriptor := []
deriving DecidableEq, Repr

/-- The identifier mode that a text names, whatever its case and the blanks around it;
otherwise the text as it was compared. -/
def IdType.ofText (text : String) : Except String IdType :=
  let name := Text.toLower (Text.trim text)
  if name ∈ ["backend", "auto", "none"] then .ok .backend
  else if name = "uuid" then .ok .uuid
  else if name ∈ ["custom", "customize"] then .ok .custom
  else .error name

/-- The text for a name that is no identifier mode. -/
def IdType.unknown (name : String) : String := "Unknown id type '" ++ name ++ "'"

namespace FieldDescriptor

/-- The field written by another strategy. -/
def withStrategy (field : FieldDescriptor) (strategy : FieldStrategy) : FieldDescriptor :=
  { field with strategy }

/-- The field as a date-time field. -/
def asDateTime (field : FieldDescriptor) : FieldDescriptor :=
  { field with kind := .dateTime }

/-- The field as a date-time field with a format of its own. -/
def withDateFormat (field : FieldDescriptor) (format : String) : FieldDescriptor :=
  { field with kind := .dateTime, dateFormat := some format }

end FieldDescriptor

namespace Metadata

/-- The metadata with a key field. -/
def withKeyField (metadata : Metadata) (name : String) : Metadata :=
  { metadata with keyField := some name }

/-- The metadata with an identifier mode. -/
def withIdType (metadata : Metadata) (idType : IdType) : Metadata :=
  { metadata with idType := some idType }

/-- The metadata with one more field. -/
def withField (metadata : Metadata) (field : FieldDescriptor) : Metadata :=
  { metadata with fields := metadata.fields ++ [field] }

/-- The identifier mode in effect. -/
def resolveIdType (metadata : Metadata) (default : IdType) : IdType :=
  metadata.idType.getD default

/-- The first descriptor of a name. -/
def descriptor? (metadata : Metadata) (name : String) : Option FieldDescriptor :=
  metadata.fields.find? (·.name == name)

/-- The name is that of the key field. -/
def isKey (metadata : Metadata) (name : String) : Bool :=
  metadata.keyField == some name

/-- The fields that are stored in documents: all but the key. -/
def storedFields (metadata : Metadata) : List FieldDescriptor :=
  metadata.fields.filter fun field => !metadata.isKey field.name

end Metadata
end SearchMapper
