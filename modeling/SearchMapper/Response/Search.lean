import SearchMapper.Json.Decode

/-!
# Search responses

What a search answers: the hits in the order of the backend, how many documents match in
all, and the aggregation results as they came.
-/

namespace SearchMapper

/-- One found document. The source is null when it was not asked for. -/
structure SearchHit where
  id : String
  score : Option Double := none
  source : Json := .null
  highlight : Option Json := none
deriving DecidableEq, Repr

/-- The answer to a search. -/
structure SearchResponse where
  hits : List SearchHit
  total : UInt64
  tookMs : UInt64
  aggregations : Option Json := none
deriving DecidableEq, Repr

/-- The answer without hits. -/
def SearchResponse.empty : SearchResponse := { hits := [], total := 0, tookMs := 0 }

/-- The identifiers of the hits, in order. -/
def SearchResponse.ids (response : SearchResponse) : List String :=
  response.hits.map (·.id)

/-- The written form of a hit; what is not set is left out, except for the source. -/
def SearchHit.toJson (hit : SearchHit) : Json :=
  .object <|
    Members.insertSome "score" (hit.score.map Json.ofDouble) <|
    Members.insertSome "highlight" hit.highlight <|
    Members.ofPairs [("id", .string hit.id), ("source", hit.source)]

/-- Reads a hit. -/
def SearchHit.decode : Decoder SearchHit := fun value => do
  let fields ← Decode.fields ["id", "score", "source", "highlight"] "a hit" value
  return {
    id := ← fields.required "id" Decode.string
    score := ← fields.optional "score" Decode.double
    source := ← fields.defaulted "source" .null Decode.json
    highlight := ← fields.optional "highlight" Decode.json }

/-- The written form of a response. -/
def SearchResponse.toJson (response : SearchResponse) : Json :=
  .object <|
    Members.insertSome "aggregations" response.aggregations <|
    Members.ofPairs [("hits", .array (response.hits.map SearchHit.toJson)),
      ("total", .uint64 response.total), ("took_ms", .uint64 response.tookMs)]

/-- Reads a response. -/
def SearchResponse.decode : Decoder SearchResponse := fun value => do
  let fields ← Decode.fields ["hits", "total", "took_ms", "aggregations"]
    "a search response" value
  return {
    hits := ← fields.required "hits" (Decode.list SearchHit.decode)
    total := ← fields.required "total" Decode.uint64
    tookMs := ← fields.required "took_ms" Decode.uint64
    aggregations := ← fields.optional "aggregations" Decode.json }

end SearchMapper
