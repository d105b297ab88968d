import SearchMapper.Error
import SearchMapper.Fragment.Body
import SearchMapper.Query.Basic

/-!
# Request bodies

The bodies of search requests: `build` for a query with all it says beside its conditions,
`idsOnly` for the identifiers that match, and `count` for how many do. All three hold the same
compiled query.
-/

namespace SearchMapper.SearchQuery

/-- The query, compiled. -/
def compiled (query : SearchQuery) : Except MapperError Json :=
  match query.conditions.compile query.geo with
  | .ok tree => .ok tree.toJson
  | .error fault => .error (.validation (.conditions fault))

/-- The sort clauses, one a field. -/
def sortClauses (query : SearchQuery) : List Json :=
  query.sorts.flatMap fun sort =>
    let order := if sort.ascending then "asc" else "desc"
    sort.fields.map fun field => .single field (.single "order" (.string order))

/-- The source fields to fetch and to leave out, as far as they are given. -/
def sourceFilter (query : SearchQuery) : Json :=
  let part (name : String) (fields : List String) : List (String × Json) :=
    if fields.isEmpty then [] else [(name, .strings fields)]
  .ofPairs (part "includes" query.includes ++ part "excludes" query.excludes)

/-- The tags of a highlight, as lists of one. -/
def tagMembers (highlight : Highlight) : List (String × Json) :=
  [("pre_tags", .strings [highlight.preTag]), ("post_tags", .strings [highlight.postTag])]

/-- The highlighted fields with their tags; a later highlight of a field counts. -/
def highlightFields (highlights : List Highlight) : Json :=
  .ofPairs <| highlights.flatMap fun highlight =>
    highlight.fields.map fun field => (field, .ofPairs (tagMembers highlight))

/-- The highlight part of a request; its own tags are those of the last highlight. -/
def highlightBody (highlights : List Highlight) : Json :=
  let tags :=
    match highlights.getLast? with
    | some last => tagMembers last
    | none => [("pre_tags", .strings []), ("post_tags", .strings [])]
  .ofPairs (tags ++ [("fields", highlightFields highlights)])

/-- An aggregation as a member of a request, unless its kind is not supported. -/
def aggregationMember (aggregation : Aggregation) : Except MapperError (String × Json) :=
  match aggregation.kind with
  | .other name => .error (.unsupported (.aggregation name aggregation.name))
  | kind =>
    .ok (aggregation.name, .single kind.name (.single "field" (.string aggregation.field)))

/-- The aggregations of a request; a later one of a name counts. -/
def aggregationsBody (aggregations : List Aggregation) : Except MapperError Json := do
  return .ofPairs (← aggregations.mapM aggregationMember)

/-- The body of a search, with the page size of the query or else `size`. -/
def build (query : SearchQuery) (size : UInt64) : Except MapperError Json := do
  let tree ← query.compiled
  let aggregations ← aggregationsBody query.aggregations
  let optional (wanted : Bool) (name : String) (value : Json) : List (String × Json) :=
    if wanted then [(name, value)] else []
  return .ofPairs <|
    [("query", tree)] ++
    (query.offset.toList.map fun offset => ("from", .uint64 offset)) ++
    [("size", .uint64 (query.limit.getD size))] ++
    optional (!query.sorts.isEmpty) "sort" (.array query.sortClauses) ++
    optional query.hasProjection "_source" query.sourceFilter ++
    optional (!query.highlights.isEmpty) "highlight" (highlightBody query.highlights) ++
    optional (!query.aggregations.isEmpty) "aggs" aggregations

/-- The body of a search for identifiers, which fetches no source. -/
def idsOnly (query : SearchQuery) (size : UInt64) : Except MapperError Json := do
  return .ofPairs [("query", ← query.compiled), ("size", .uint64 size), ("_source", .bool false)]

/-- The body of a search that only counts. -/
def count (query : SearchQuery) : Except MapperError Json := do
  return .ofPairs [("query", ← query.compiled), ("size", .uint64 0),
    ("track_total_hits", .bool true)]

end SearchMapper.SearchQuery
