import SearchMapper.Condition.Wire
import SearchMapper.Geo.Basic
import SearchMapper.Text.LowerCase

/-!
# Search queries

A query is a condition list together with what a search request says beside it: a spatial
filter, sorting, the source fields wanted, the page, highlighting and aggregations.
-/

namespace SearchMapper

/-- The page size of a query that names none. -/
def defaultSize : UInt64 := 10000

/-- Fields to sort by, all in one direction. -/
structure SortOrder where
  fields : List String
  ascending : Bool
deriving DecidableEq, Repr

/-- Fields to highlight, and the tags to put around a match. -/
structure Highlight where
  fields : List String
  preTag : String
  postTag : String
deriving DecidableEq, Repr

/-- How the values of a field are summed up. -/
inductive AggregationKind where
  | avg
  | min
  | max
  | sum
  | terms
  /-- A kind that no request can be made of. -/
  | other (name : String)
deriving DecidableEq, Repr

/-- A named aggregation over one field. -/
structure Aggregation where
  name : String
  field : String
  kind : AggregationKind
deriving DecidableEq, Repr

/-- A search query. Empty `include` and `exclude` lists ask for the whole source. -/
structure SearchQuery where
  conditions : Conditions := []
  geo : Option GeoFilter := none
  sorts : List SortOrder := []
  includes : List String := []
  excludes : List String := []
  offset : Option UInt64 := none
  limit : Option UInt64 := none
  highlights : List Highlight := []
  aggregations : List Aggregation := []
deriving DecidableEq, Repr

namespace AggregationKind

/-- The kinds under their names. -/
def names : List (String × AggregationKind) :=
  [("avg", .avg), ("min", .min), ("max", .max), ("sum", .sum), ("terms", .terms)]

/-- The name of a kind. -/
def name : AggregationKind → String
  | avg => "avg"
  | min => "min"
  | max => "max"
  | sum => "sum"
  | terms => "terms"
  | other name => name

/-- The kind that a text names, whatever its case and the blanks around it. -/
def ofText (text : String) : AggregationKind :=
  (names.lookup (Text.toLower (Text.trim text))).getD (.other text)

end AggregationKind

namespace SearchQuery

/-- The query that matches every document. -/
def all : SearchQuery := {}

/-- The query with a spatial filter. -/
def withGeo (query : SearchQuery) (geo : GeoFilter) : SearchQuery :=
  { query with geo := some geo }

/-- The query sorted by more fields, after those it is sorted by already. -/
def orderBy (query : SearchQuery) (fields : List String) (ascending : Bool) : SearchQuery :=
  { query with sorts := query.sorts ++ [{ fields, ascending }] }

/-- The query for certain source fields only. -/
def select (query : SearchQuery) (fields : List String) : SearchQuery :=
  { query with includes := fields }

/-- The query without certain source fields. -/
def notSelect (query : SearchQuery) (fields : List String) : SearchQuery :=
  { query with excludes := fields }

/-- The query for pages of a size. -/
def withLimit (query : SearchQuery) (limit : UInt64) : SearchQuery :=
  { query with limit := some limit }

/-- The query for hits from a place on. -/
def withOffset (query : SearchQuery) (offset : UInt64) : SearchQuery :=
  { query with offset := some offset }

/-- The query with more fields highlighted. -/
def highlight (query : SearchQuery) (fields : List String) (preTag postTag : String) :
    SearchQuery :=
  { query with highlights := query.highlights ++ [{ fields, preTag, postTag }] }

/-- The query with one more aggregation. -/
def aggregate (query : SearchQuery) (kind : AggregationKind) (name field : String) :
    SearchQuery :=
  { query with aggregations := query.aggregations ++ [{ name, field, kind }] }

/-- The page size in effect. -/
def size (query : SearchQuery) : UInt64 := query.limit.getD defaultSize

/-- The query restricts the source fields. -/
def hasProjection (query : SearchQuery) : Bool :=
  !query.includes.isEmpty || !query.excludes.isEmpty

end SearchQuery
end SearchMapper
