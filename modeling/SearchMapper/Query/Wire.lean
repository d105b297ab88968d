import SearchMapper.Query.Basic

/-!
# The written form of queries

The JSON form of a search query and of its parts, and the decoders that read them back.
-/

namespace SearchMapper

/-- The written form of a sort order. -/
def SortOrder.toJson (sort : SortOrder) : Json :=
  .ofPairs [("fields", .strings sort.fields), ("asc", .bool sort.ascending)]

/-- Reads a sort order. -/
def SortOrder.decode : Decoder SortOrder := fun value => do
  let fields ← Decode.fields ["fields", "asc"] "a sort order" value
  return {
    fields := ← fields.required "fields" (Decode.list Decode.string)
    ascending := ← fields.required "asc" Decode.bool }

/-- The written form of a highlight. -/
def Highlight.toJson (highlight : Highlight) : Json :=
  .ofPairs [("fields", .strings highlight.fields), ("pre_tag", .string highlight.preTag),
    ("post_tag", .string highlight.postTag)]

/-- Reads a highlight. -/
def Highlight.decode : Decoder Highlight := fun value => do
  let fields ← Decode.fields ["fields", "pre_tag", "post_tag"] "a highlight" value
  return {
    fields := ← fields.required "fields" (Decode.list Decode.string)
    preTag := ← fields.required "pre_tag" Decode.string
    postTag := ← fields.required "post_tag" Decode.string }

/-- The written form of a kind of aggregation. -/
def AggregationKind.toJson : AggregationKind → Json
  | other name => .single "other" (.string name)
  | kind => .string kind.name

/-- Reads a kind of aggregation. -/
def AggregationKind.decode : Decoder AggregationKind := fun value => do
  let (name, data) ← Decode.variant value
  match AggregationKind.names.lookup name with
  | some kind => Decode.unit kind data
  | none =>
    if name = "other" then return other (← Decode.data Decode.string data)
    else throw (.unknownVariant name)

/-- The written form of an aggregation. -/
def Aggregation.toJson (aggregation : Aggregation) : Json :=
  .ofPairs [("name", .string aggregation.name), ("field", .string aggregation.field),
    ("kind", aggregation.kind.toJson)]

/-- Reads an aggregation. -/
def Aggregation.decode : Decoder Aggregation := fun value => do
  let fields ← Decode.fields ["name", "field", "kind"] "an aggregation" value
  return {
    name := ← fields.required "name" Decode.string
    field := ← fields.required "field" Decode.string
    kind := ← fields.required "kind" AggregationKind.decode }

/-- The written form of a query; an unset filter, offset or limit is left out. -/
def SearchQuery.toJson (query : SearchQuery) : Json :=
  .object <|
    Members.insertSome "geo" (query.geo.map GeoFilter.toJson) <|
    Members.insertSome "from" (query.offset.map Json.uint64) <|
    Members.insertSome "size" (query.limit.map Json.uint64) <|
    Members.ofPairs [
      ("conditions", query.conditions.toJson),
      ("sorts", .array (query.sorts.map SortOrder.toJson)),
      ("include", .strings query.includes),
      ("exclude", .strings query.excludes),
      ("highlights", .array (query.highlights.map Highlight.toJson)),
      ("aggregations", .array (query.aggregations.map Aggregation.toJson))]

/-- Reads a query. The conditions have to be there; lists that are missing are empty. -/
def SearchQuery.decode : Decoder SearchQuery := fun value => do
  let fields ← Decode.fields ["conditions", "geo", "sorts", "include", "exclude", "from", "size",
    "highlights", "aggregations"] "a search query" value
  return {
    conditions := ← fields.required "conditions" Conditions.decode
    geo := ← fields.optional "geo" GeoFilter.decode
    sorts := ← fields.defaulted "sorts" [] (Decode.list SortOrder.decode)
    includes := ← fields.defaulted "include" [] (Decode.list Decode.string)
    excludes := ← fields.defaulted "exclude" [] (Decode.list Decode.string)
    offset := ← fields.optional "from" Decode.uint64
    limit := ← fields.optional "size" Decode.uint64
    highlights := ← fields.defaulted "highlights" [] (Decode.list Highlight.decode)
    aggregations := ← fields.defaulted "aggregations" [] (Decode.list Aggregation.decode) }

end SearchMapper
