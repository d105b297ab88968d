import SearchMapper.Date.Pattern
import SearchMapper.Error
import SearchMapper.Metadata.Basic

/-!
# Valid metadata

Metadata can be used if its index has a name, if there is a key field to read identifiers
from where they are read from one, and if all date formats are patterns.
-/

namespace SearchMapper

/-- Checks that a text is a date pattern. -/
def validateDateFormat (format : String) : Except Invalid Unit :=
  if (DatePattern.parse format).isSome then .ok () else .error (.dateFormat format)

/-- Checks the date formats of fields, in order and whatever the kinds of the fields. -/
def validateFieldFormats : List FieldDescriptor → Except Invalid Unit
  | [] => .ok ()
  | field :: rest =>
    match field.dateFormat with
    | none => validateFieldFormats rest
    | some format => do
      validateDateFormat format
      validateFieldFormats rest

/-- Checks metadata before its first use. -/
def Metadata.validate (metadata : Metadata) : Except Invalid Unit :=
  if Text.isBlank metadata.indexName then .error .blankIndex
  else if metadata.idType = some .custom ∧ metadata.keyField = none then
    .error (.noKeyField metadata.indexName)
  else validateFieldFormats metadata.fields

end SearchMapper
