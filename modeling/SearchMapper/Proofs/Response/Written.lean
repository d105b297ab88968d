import SearchMapper.Proofs.Json.Typed
import SearchMapper.Proofs.Response.Parsed

/-!
# Responses written and read back

A response that was read from a body is written and read back as the same response, except that
what may be left out is not there when it was given as null: a body with null for its aggregations,
or for the highlight of a hit, is read as one that has them, written with null, and read back
without them.
-/

namespace SearchMapper

/-! ## What is read back -/

/-- The hit without a highlight that is null. -/
def SearchHit.withoutNulls (hit : SearchHit) : SearchHit :=
  { hit with highlight := hit.highlight.filter (!·.isNull) }

/-- The response without aggregations that are null, and without highlights that are. -/
def SearchResponse.withoutNulls (response : SearchResponse) : SearchResponse :=
  { response with
    hits := response.hits.map SearchHit.withoutNulls
    aggregations := response.aggregations.filter (!·.isNull) }

/-- The body has null for something that may be left out of it. -/
inductive Json.HasOptionalNull (body : Json) : Prop
  | aggregations (h : body.member? "aggregations" = some .null)
  | highlight {hits hit : Json} {list : List Json} (hhits : body.member? "hits" = some hits)
      (hlist : hits.member? "hits" = some (.array list)) (hmem : hit ∈ list)
      (hnull : hit.member? "highlight" = some .null)

theorem Json.filter_not_isNull_eq_self_iff {value : Option Json} :
    value.filter (!·.isNull) = value ↔ value ≠ some .null := by
  rcases value with _ | json
  · simp
  · cases json <;> simp [Json.isNull]

theorem SearchHit.withoutNulls_eq_self_iff {hit : SearchHit} :
    hit.withoutNulls = hit ↔ hit.highlight ≠ some .null := by
  rw [← Json.filter_not_isNull_eq_self_iff]
  obtain ⟨id, score, source, highlight⟩ := hit
  simp [withoutNulls]

theorem SearchResponse.withoutNulls_eq_self_iff {response : SearchResponse} :
    response.withoutNulls = response ↔
      response.aggregations ≠ some .null ∧ ∀ hit ∈ response.hits, hit.highlight ≠ some .null := by
  have hhits : response.hits.map SearchHit.withoutNulls = response.hits ↔
      ∀ hit ∈ response.hits, hit.highlight ≠ some .null := by
    have hmap := List.map_eq_map_iff (f := SearchHit.withoutNulls) (g := id) (l := response.hits)
    rw [List.map_id] at hmap
    simp only [hmap, id, SearchHit.withoutNulls_eq_self_iff]
  rw [← Json.filter_not_isNull_eq_self_iff, ← hhits]
  obtain ⟨hits, total, tookMs, aggregations⟩ := response
  simp [withoutNulls, and_comm]

/-! ## Scores -/

/-- All scores are finite, so that they can be written as numbers. -/
def SearchResponse.HasFiniteScores (response : SearchResponse) : Prop :=
  ∀ hit ∈ response.hits, ∀ score ∈ hit.score, score.isFinite = true

/-- A number is a finite double, be it an integer or not. -/
theorem Json.isFinite_of_double? {value : Json} {x : Double} (h : value.double? = some x) :
    x.isFinite = true := by
  unfold double? at h
  split at h
  · next n range =>
    cases h
    exact Double.isFinite_ofInt range
  · next finite =>
    cases h
    exact finite
  · cases h

/-! ## Reading back -/

theorem Decode.Fields.optional_json {fields : Fields} {name : String} {value : Option Json}
    (hobject : fields.positional = false) (hfind : Members.find? name fields.members = value) :
    fields.optional name Decode.json = .ok (value.filter (!·.isNull)) := by
  unfold optional
  rw [hfind]
  rcases value with _ | json
  · rw [hobject]
    rfl
  · cases json <;> rfl

theorem Json.isNull_ofDouble {x : Double} (h : x.isFinite = true) :
    (ofDouble x).isNull = false := by
  unfold ofDouble
  rw [dif_pos h]
  rfl

/-- A hit with a finite score is read back without the null that it may have for a highlight. -/
theorem SearchHit.decode_toJson {hit : SearchHit}
    (hfinite : ∀ score ∈ hit.score, score.isFinite = true) :
    decode hit.toJson = .ok hit.withoutNulls := by
  obtain ⟨id, score, source, highlight⟩ := hit
  unfold toJson
  generalize hwritten : Members.insertSome "score" (score.map Json.ofDouble)
    (Members.insertSome "highlight" highlight
      (Members.ofPairs [("id", .string id), ("source", source)])) = members
  -- members are found by their names, wherever they stand
  have hid : Members.find? "id" members = some (.string id) := by simp [← hwritten]
  have hsource : Members.find? "source" members = some source := by simp [← hwritten]
  have hscore : Members.find? "score" members = score.map Json.ofDouble := by simp [← hwritten]
  have hhighlight : Members.find? "highlight" members = highlight := by simp [← hwritten]
  have hreadId : Decode.Fields.required ⟨members, false⟩ "id" Decode.string = .ok id := by
    simp [Decode.Fields.required, hid, Decode.string]
  have hreadSource : Decode.Fields.defaulted ⟨members, false⟩ "source" .null Decode.json =
      .ok source := by simp [Decode.Fields.defaulted, hsource, Decode.json]
  have hreadScore : Decode.Fields.optional ⟨members, false⟩ "score" Decode.double = .ok score :=
    Decode.Fields.optional_map rfl hscore fun x hx =>
      ⟨Json.isNull_ofDouble (hfinite x hx), Decode.double_ofDouble (hfinite x hx)⟩
  have hreadHighlight : Decode.Fields.optional ⟨members, false⟩ "highlight" Decode.json =
      .ok (highlight.filter (!·.isNull)) := Decode.Fields.optional_json rfl hhighlight
  simp [decode, hreadId, hreadSource, hreadScore, hreadHighlight, withoutNulls]

theorem SearchResponse.decode_toJson {response : SearchResponse}
    (hfinite : response.HasFiniteScores) :
    decode response.toJson = .ok response.withoutNulls := by
  obtain ⟨hits, total, tookMs, aggregations⟩ := response
  unfold toJson
  generalize hwritten : Members.insertSome "aggregations" aggregations
    (Members.ofPairs [("hits", .array (hits.map SearchHit.toJson)), ("total", .uint64 total),
      ("took_ms", .uint64 tookMs)]) = members
  have hhits : Members.find? "hits" members = some (.array (hits.map SearchHit.toJson)) := by
    simp [← hwritten]
  have htotal : Members.find? "total" members = some (.uint64 total) := by simp [← hwritten]
  have htook : Members.find? "took_ms" members = some (.uint64 tookMs) := by simp [← hwritten]
  have haggregations : Members.find? "aggregations" members = aggregations := by
    simp [← hwritten]
  have hreadHits : Decode.list SearchHit.decode (.array (hits.map SearchHit.toJson)) =
      .ok (hits.map SearchHit.withoutNulls) := by
    show (hits.map SearchHit.toJson).mapM SearchHit.decode = _
    rw [List.mapM_map]
    exact Except.mapM_eq_ok_map fun hit hmem => SearchHit.decode_toJson (hfinite hit hmem)
  have hreadAggregations : Decode.Fields.optional ⟨members, false⟩ "aggregations" Decode.json =
      .ok (aggregations.filter (!·.isNull)) := Decode.Fields.optional_json rfl haggregations
  simp [decode, Decode.Fields.required, hhits, htotal, htook, hreadHits, hreadAggregations,
    Decode.uint64_uint64, withoutNulls]

/-! ## Responses of bodies -/

namespace SearchResponse

variable {body : Json} {response : SearchResponse}

/-- A body that is read has hits, which are read one by one. -/
theorem exists_hits_of_ofBody (h : ofBody body = .ok response) :
    ∃ hits, body.member? "hits" = some hits ∧
      hits.hitList.mapM SearchHit.ofBody = .ok response.hits ∧
      response.aggregations = body.member? "aggregations" := by
  cases hhits : body.member? "hits" with
  | none =>
    rw [ofBody_of_no_hits hhits] at h
    cases h
  | some hits =>
    rw [ofBody_of_hits hhits, Except.map_eq_ok_iff] at h
    obtain ⟨found, hfound, rfl⟩ := h
    exact ⟨hits, rfl, hfound, rfl⟩

theorem hasFiniteScores_of_ofBody (h : ofBody body = .ok response) : response.HasFiniteScores := by
  obtain ⟨hits, -, hread, -⟩ := exists_hits_of_ofBody h
  refine (Except.forall_mem_mapM_iff hread (P := fun _ => True) fun hit found hfound => ?_).mpr
    fun _ _ => trivial
  -- a score comes from a number of the body, and these are all finite
  refine iff_of_true (fun score hscore => ?_) trivial
  rw [(SearchHit.ofBody_eq_ok_iff.mp hfound).score, Option.mem_def,
    Option.bind_eq_some_iff] at hscore
  obtain ⟨value, -, hvalue⟩ := hscore
  exact Json.isFinite_of_double? hvalue

/-- What may be left out is null in the response where it is null in the body. -/
theorem withoutNulls_eq_self_iff_of_ofBody (h : ofBody body = .ok response) :
    response.withoutNulls = response ↔ ¬ body.HasOptionalNull := by
  obtain ⟨hits, hhits, hread, haggregations⟩ := exists_hits_of_ofBody h
  have hhighlights : (∀ found ∈ response.hits, found.highlight ≠ some .null) ↔
      ∀ hit ∈ hits.hitList, hit.member? "highlight" ≠ some .null :=
    Except.forall_mem_mapM_iff hread fun hit found hfound =>
      not_congr (Eq.congr_left (SearchHit.ofBody_eq_ok_iff.mp hfound).highlight)
  rw [withoutNulls_eq_self_iff, haggregations, hhighlights, Json.forall_mem_hitList]
  constructor
  · rintro ⟨hnull, hall⟩ (haggregation | ⟨hhits', hlist, hmem, hhighlight⟩)
    · exact hnull haggregation
    · rw [hhits] at hhits'
      cases hhits'
      exact hall _ hlist _ hmem hhighlight
  · intro hnone
    refine ⟨fun hnull => hnone (.aggregations hnull), ?_⟩
    exact fun list hlist hit hmem hnull => hnone (.highlight hhits hlist hmem hnull)

/-! ## Main result -/

/-- **Parsed responses that are written.** Every response that is read from a body is read back from
its written form with all it holds, its hits in order and with their identifiers, scores, sources
and highlights, but for highlights and aggregations that are null: these are left out. So it comes
back as it was exactly if the body has no null where the highlight of a hit or the aggregations
stand. A score that is null is no score from the beginning, and a source that is null stays. -/
theorem read_back_without_nulls (h : ofBody body = .ok response) :
    decode response.toJson = .ok response.withoutNulls ∧
      (decode response.toJson = .ok response ↔ ¬ body.HasOptionalNull) := by
  have hback := decode_toJson (hasFiniteScores_of_ofBody h)
  refine ⟨hback, ?_⟩
  rw [hback, Except.ok.injEq]
  exact withoutNulls_eq_self_iff_of_ofBody h

/-- A hit without a source, with a score that is an integer and a highlight that is null. -/
theorem read_back_without_nulls_highlight :
    let hit : Json := .ofPairs
      [("_id", .string "a"), ("_score", .number (.int 2)), ("highlight", .null)]
    let body : Json :=
      .ofPairs [("hits", .single "hits" (.array [hit])), ("took", .number (.int 4))]
    let response : SearchResponse :=
      { hits := [{ id := "a", score := some (.ofInt 2), highlight := some .null }],
        total := 0, tookMs := 4 }
    ofBody body = .ok response ∧ decode response.toJson =
      .ok { response with hits := [{ id := "a", score := some (.ofInt 2) }] } := by
  intro hit body response
  have hread : ofBody body = .ok response := rfl
  exact ⟨hread, (read_back_without_nulls hread).1⟩

/-- Aggregations that are null are lost between writing and reading. -/
theorem null_aggregations_not_read_back :
    let body : Json := .ofPairs [("hits", .object []), ("aggregations", .null)]
    let response : SearchResponse :=
      { hits := [], total := 0, tookMs := 0, aggregations := some .null }
    ofBody body = .ok response ∧ decode response.toJson = .ok .empty ∧ response ≠ .empty := by
  intro body response
  have hback : decode response.toJson = .ok response.withoutNulls := decode_toJson nofun
  exact ⟨rfl, hback, by decide⟩

end SearchResponse

end SearchMapper
