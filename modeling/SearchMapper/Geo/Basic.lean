import SearchMapper.Json.Decode

/-!
# Spatial filters

A query may carry one spatial filter: a box, a distance from a centre, a polygon or a shape.
-/

namespace SearchMapper

/-- A point by latitude and longitude. -/
structure GeoPoint where
  lat : Double
  lon : Double
deriving DecidableEq, Repr

/-- How a stored shape has to lie to the shape asked for. -/
inductive ShapeRelation where
  | intersects
  | disjoint
  | within
  | contains
deriving DecidableEq, Repr

/-- The shape asked for. -/
inductive GeoShape where
  /-- A geometry given in the query. -/
  | geometry (geometry : Json)
  /-- A shape stored under an identifier, in another index if one is named. -/
  | indexed (id : String) (index : Option String)
deriving DecidableEq, Repr

/-- What a spatial filter asks of its field. -/
inductive GeoArea where
  | boundingBox (topLeft bottomRight : GeoPoint)
  /-- The distance is a text with its unit. -/
  | distance (center : GeoPoint) (distance : String)
  | polygon (points : List GeoPoint)
  | shape (shape : GeoShape) (relation : Option ShapeRelation)
deriving DecidableEq, Repr

/-- A spatial filter on one field. -/
structure GeoFilter where
  field : String
  area : GeoArea
  boost : Option Single
deriving DecidableEq, Repr

/-- A filter without a boost. -/
def GeoFilter.make (field : String) (area : GeoArea) : GeoFilter :=
  { field, area, boost := none }

/-- The filter with a boost. -/
def GeoFilter.withBoost (filter : GeoFilter) (boost : Single) : GeoFilter :=
  { filter with boost := some boost }

/-! ## The written form -/

/-- The written form of a point. -/
def GeoPoint.toJson (point : GeoPoint) : Json :=
  .ofPairs [("lat", .ofDouble point.lat), ("lon", .ofDouble point.lon)]

/-- Reads a point. The types of the coordinates are looked at before their number. -/
def GeoPoint.decode : Decoder GeoPoint
  | .array items => do
    match ← (items.take 2).mapM Decode.double, items.length with
    | [lat, lon], 2 => return { lat, lon }
    | [_, _], count => throw (.wrongLength count "fewer elements in array")
    | _, count => throw (.wrongLength count "struct GeoPoint with 2 elements")
  | value => do
    let fields ← Decode.fields ["lat", "lon"] "struct GeoPoint" value
    let lat ← fields.defaulted "lat" none fun x => (Decode.double x).map some
    let lon ← fields.defaulted "lon" none fun x => (Decode.double x).map some
    match lat, lon with
    | some lat, some lon => return { lat, lon }
    | none, _ => throw (.missingField "lat")
    | _, none => throw (.missingField "lon")

/-- The relations under their written names. -/
def ShapeRelation.names : List (String × ShapeRelation) :=
  [("intersects", .intersects), ("disjoint", .disjoint), ("within", .within),
    ("contains", .contains)]

/-- The written name of a relation. -/
def ShapeRelation.name : ShapeRelation → String
  | intersects => "intersects"
  | disjoint => "disjoint"
  | within => "within"
  | contains => "contains"

/-- The written form of a relation. -/
def ShapeRelation.toJson (relation : ShapeRelation) : Json := .string relation.name

/-- Reads a relation. -/
def ShapeRelation.decode : Decoder ShapeRelation := Decode.named ShapeRelation.names

/-- The written form of a shape. -/
def GeoShape.toJson : GeoShape → Json
  | geometry value => .single "geometry" value
  | indexed id index =>
    .single "indexed" (.ofPairs [("id", .string id), ("index", .optionString index)])

/-- Reads a shape. -/
def GeoShape.decode : Decoder GeoShape := fun value => do
  let (name, data) ← Decode.variant value
  match name with
  | "geometry" => return geometry (← Decode.data Decode.json data)
  | "indexed" =>
    let fields ← Decode.data Decode.variantFields data
    return indexed (← fields.required "id" Decode.string)
      (← fields.optional "index" Decode.string)
  | other => throw (.unknownVariant other)

/-- The name of the kind of area, and the members that say which one it is. -/
def GeoArea.parts : GeoArea → String × List (String × Json)
  | boundingBox topLeft bottomRight =>
    ("bounding_box", [("top_left", topLeft.toJson), ("bottom_right", bottomRight.toJson)])
  | distance center radius =>
    ("distance", [("center", center.toJson), ("distance", .string radius)])
  | polygon points => ("polygon", [("points", .array (points.map GeoPoint.toJson))])
  | shape asked relation =>
    ("shape", [("shape", asked.toJson),
      ("relation", (relation.map ShapeRelation.toJson).getD .null)])

/-- The written form of a filter; what is not set is written as null. -/
def GeoFilter.toJson (filter : GeoFilter) : Json :=
  let (name, members) := filter.area.parts
  .single name <| .ofPairs <| [("field", .string filter.field)] ++ members ++
    [("boost", (filter.boost.map Json.ofSingle).getD .null)]

/-- Reads the area of a kind from the fields of a filter. -/
def GeoArea.decode (name : String) (fields : Decode.Fields) : Except Refusal GeoArea := do
  match name with
  | "bounding_box" =>
    return boundingBox (← fields.required "top_left" GeoPoint.decode)
      (← fields.required "bottom_right" GeoPoint.decode)
  | "distance" =>
    return distance (← fields.required "center" GeoPoint.decode)
      (← fields.required "distance" Decode.string)
  | "polygon" => return polygon (← fields.required "points" (Decode.list GeoPoint.decode))
  | "shape" =>
    return shape (← fields.required "shape" GeoShape.decode)
      (← fields.optional "relation" ShapeRelation.decode)
  | other => throw (.unknownVariant other)

/-- Reads a filter. -/
def GeoFilter.decode : Decoder GeoFilter := fun value => do
  let (name, data) ← Decode.variant value
  let fields ← Decode.data Decode.variantFields data
  return {
    field := ← fields.required "field" Decode.string
    area := ← GeoArea.decode name fields
    boost := ← fields.optional "boost" Decode.single }

end SearchMapper
