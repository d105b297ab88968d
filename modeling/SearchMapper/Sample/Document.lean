import SearchMapper.Codec
import SearchMapper.Geo.Basic

/-!
# The sample document

The entity type of the sample session: a short text with an author, a creation time and a
place.
-/

namespace SearchMapper

/-- A short text document. -/
structure SampleDocument where
  id : Option String := none
  title : Option String := none
  content : Option String := none
  creator : Option String := none
  created : Option Timestamp := none
  location : Option GeoPoint := none
deriving DecidableEq, Repr

/-- Reads an instant from RFC 3339 text, strict or relaxed. -/
def decodeInstant : Decoder Timestamp
  | .string text =>
    match Timestamp.ofRelaxedRfc3339 text with
    | .ok instant => .ok instant
    | .error fault => .error (.malformed fault.message)
  | other => .error (.wrongType other "an RFC 3339 formatted date and time string")

/-- The written form of an instant. -/
def instantToJson (instant : Timestamp) : Json := .string instant.toRfc3339Z

namespace SampleDocument

/-- The index of sample documents. -/
def index : String := "esplus_test_documents"

/-- The format in which creation times are stored. -/
def dateFormat : String := "%Y-%m-%d %H:%M:%S"

/-- A document with an identifier and a title. -/
def make (id title : String) : SampleDocument := { id := some id, title := some title }

/-- The written form, with all fields. -/
def toJson (document : SampleDocument) : Json :=
  .ofPairs [("id", .optionString document.id), ("title", .optionString document.title),
    ("content", .optionString document.content), ("creator", .optionString document.creator),
    ("gmt_create", (document.created.map instantToJson).getD .null),
    ("location", (document.location.map GeoPoint.toJson).getD .null)]

/-- Reads a document. All fields may be missing; members are looked at in their order. -/
def decode : Decoder SampleDocument := fun value => do
  let fields ← Decode.fields ["id", "title", "content", "creator", "gmt_create", "location"]
    "a sample document" value
  let content ← fields.optional "content" Decode.string
  let creator ← fields.optional "creator" Decode.string
  let created ← fields.optional "gmt_create" decodeInstant
  let id ← fields.optional "id" Decode.string
  let location ← fields.optional "location" GeoPoint.decode
  let title ← fields.optional "title" Decode.string
  return { id, title, content, creator, created, location }

/-- The metadata of sample documents. An empty creator is not stored. -/
def metadata : Metadata :=
  { indexName := index
    keyField := some "id"
    idType := some .custom
    fields := [
      { name := "title" },
      { name := "content", strategy := .notNull },
      { name := "creator", strategy := .notEmpty },
      { name := "gmt_create", kind := .dateTime, dateFormat := some dateFormat },
      { name := "location", strategy := .notNull }] }

instance : Document SampleDocument where
  toJson := toJson
  decode := decode
  metadata := metadata

end SampleDocument
end SearchMapper
