import SearchMapper.Fragment.Basic

/-!
# Fragments in the query language

The JSON that the backend understands. A test is an object with the name of the query as its
only member; a boost is left out when there is none.
-/

namespace SearchMapper

/-- The query `name` on a field, in the short form without a boost and the long form with one,
where the value stands under `valueKey`. -/
def fieldQuery (name field valueKey : String) (value : Json) (boost : Option Single) : Json :=
  .single name <| .single field <|
    match boost with
    | none => value
    | some b => .ofPairs [(valueKey, value), ("boost", .ofSingle b)]

/-- Puts a boost over the members of a query, if there is one. -/
def withBoost (boost : Option Single) (members : Members Json) : Json :=
  .object (Members.insertSome "boost" (boost.map Json.ofSingle) members)

/-- The bounds that are set. -/
def Bounds.toMembers (bounds : Bounds) : Members Json :=
  Members.insertSome "gt" bounds.gt <| Members.insertSome "gte" bounds.gte <|
    Members.insertSome "lt" bounds.lt <| Members.insertSome "lte" bounds.lte []

/-- What stands under the field of a shape query. -/
def shapeBody (shape : GeoShape) (relation : Option ShapeRelation) : Json :=
  let asked : String × Json :=
    match shape with
    | .geometry geometry => ("shape", geometry)
    | .indexed id index =>
      ("indexed_shape", .object (Members.insertSome "index" (index.map Json.string)
        [("id", .string id)]))
  .object (Members.insertSome "relation" (relation.map ShapeRelation.toJson) [asked])

/-- The JSON of a spatial test. The field name is put over a distance member of that name,
and the boost over both. -/
def GeoArea.toQuery (field : String) (boost : Option Single) : GeoArea → Json
  | boundingBox topLeft bottomRight =>
    .single "geo_bounding_box" <| withBoost boost
      [(field, .ofPairs [("top_left", topLeft.toJson), ("bottom_right", bottomRight.toJson)])]
  | distance center radius =>
    .single "geo_distance" <| withBoost boost <|
      Members.insert field center.toJson [("distance", .string radius)]
  | polygon points =>
    .single "geo_polygon" <| withBoost boost
      [(field, .single "points" (.array (points.map GeoPoint.toJson)))]
  | shape asked relation =>
    .single "geo_shape" <| withBoost boost [(field, shapeBody asked relation)]

/-- The JSON of a test. -/
def Leaf.toJson (leaf : Leaf) : Json :=
  match leaf.test with
  | .term value => fieldQuery "term" leaf.field "value" value leaf.boost
  | .terms values => .single "terms" (withBoost leaf.boost [(leaf.field, .array values)])
  | .fullText text => fieldQuery "match" leaf.field "query" text leaf.boost
  | .startsWith start => fieldQuery "prefix" leaf.field "value" start leaf.boost
  | .wildcard pattern => fieldQuery "wildcard" leaf.field "value" (.string pattern) leaf.boost
  | .range bounds => .single "range" (.single leaf.field (withBoost leaf.boost bounds.toMembers))
  | .present => .single "exists" (withBoost leaf.boost [("field", .string leaf.field)])
  | .geo area => area.toQuery leaf.field leaf.boost

/-- A boolean query of slots that are already JSON. Slots without clauses are left out. -/
def boolBody (slots : Slots Json) : Json :=
  let slot (name : String) (clauses : List Json) : List (String × Json) :=
    if clauses.isEmpty then [] else [(name, .array clauses)]
  .single "bool" <| .ofPairs <|
    slot "must" slots.must ++ slot "filter" slots.filter ++ slot "should" slots.should ++
      slot "must_not" slots.mustNot

mutual
/-- The JSON of a fragment. -/
def Fragment.toJson : Fragment → Json
  | .leaf l => l.toJson
  | .not inner => boolBody { mustNot := [inner.toJson] }
  | .bool ⟨must, filter, should, mustNot⟩ =>
    boolBody ⟨Fragment.allToJson must, Fragment.allToJson filter, Fragment.allToJson should,
      Fragment.allToJson mustNot⟩

/-- The JSON of the fragments of a slot. -/
def Fragment.allToJson : List Fragment → List Json
  | [] => []
  | fragment :: rest => fragment.toJson :: Fragment.allToJson rest
end

/-- The JSON of a boolean query. -/
def BoolQuery.toJson (query : BoolQuery) : Json := (Fragment.bool query).toJson

end SearchMapper
