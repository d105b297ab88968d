import SearchMapper.Proofs.Json.Given
import SearchMapper.Proofs.Outcome
import SearchMapper.Query.Request

/-!
# The bodies of requests

Which queries have request bodies, and what the bodies hold. All three bodies of a query have the
same compiled query and fail alike on conditions that do not compile; only the body of a search
fails on aggregations too, and then names the first one that is not supported. What a query says
several times under one name counts as it is said last.
-/

namespace SearchMapper

/-! ## What a request says -/

/-- Requests can be made of the kind. -/
def AggregationKind.IsSupported (kind : AggregationKind) : Prop := ∀ name, kind ≠ .other name

/-- The part of a request that asks for an aggregation. -/
def Aggregation.part (aggregation : Aggregation) : Json :=
  .single aggregation.kind.name (.single "field" (.string aggregation.field))

/-- The fields of a sort order, each with its direction. -/
def SortOrder.directed (sort : SortOrder) : List (String × Bool) :=
  sort.fields.map fun field => (field, sort.ascending)

/-- The clause sorts by the field in its direction. -/
def SortsBy (directed : String × Bool) (clause : Json) : Prop :=
  clause = .single directed.1 (.single "order" (.string (if directed.2 then "asc" else "desc")))

namespace SearchQuery

/-- The part of a request that highlights: its own tags are those of the last highlight, and each
field has the tags of the last highlight that names it. -/
structure Highlights (query : SearchQuery) (part : Json) : Prop where
  own_tags : ∃ last, query.highlights.getLast? = some last ∧
    part.member? "pre_tags" = some (.strings [last.preTag]) ∧
    part.member? "post_tags" = some (.strings [last.postTag])
  fields : ∃ members : Members Json, part.member? "fields" = some (.object members) ∧
    ∀ field found, Members.find? field members = some found ↔
      ∃ highlight, IsLastNaming Highlight.fields query.highlights field highlight ∧
        found = .ofPairs [("pre_tags", .strings [highlight.preTag]),
          ("post_tags", .strings [highlight.postTag])]

/-- The part of a request that aggregates: each name has the last aggregation of that name. -/
def Aggregates (query : SearchQuery) (part : Json) : Prop :=
  ∃ members : Members Json, part = .object members ∧ ∀ name found,
    Members.find? name members = some found ↔
      ∃ aggregation, IsLastNaming (fun a => [a.name]) query.aggregations name aggregation ∧
        found = aggregation.part

/-- The part of a request that says which source fields are wanted, as far as lists are given. -/
structure Projects (query : SearchQuery) (part : Json) : Prop where
  includes : part.member? "includes" =
    if query.includes = [] then none else some (.strings query.includes)
  excludes : part.member? "excludes" =
    if query.excludes = [] then none else some (.strings query.excludes)

/-- A body has a part under the name exactly if it is wanted, and the part is as it should be. -/
def HasPart (body : Json) (name : String) (wanted : Prop) (isPart : Json → Prop) : Prop :=
  ((∃ part, body.member? name = some part) ↔ wanted) ∧
    ∀ part, body.member? name = some part → isPart part

/-- What the body of a search holds, with the compiled query. -/
structure Requests (query : SearchQuery) (size : UInt64) (tree body : Json) : Prop where
  query_eq : body.member? "query" = some tree
  size_eq : body.member? "size" = some (.uint64 (query.limit.getD size))
  offset : HasPart body "from" (∃ n, query.offset = some n) fun part =>
    ∃ n, query.offset = some n ∧ part = .uint64 n
  sort : HasPart body "sort" (query.sorts ≠ []) fun part =>
    ∃ clauses, part = .array clauses ∧
      List.Forall₂ SortsBy (query.sorts.flatMap SortOrder.directed) clauses
  source : HasPart body "_source" (query.includes ≠ [] ∨ query.excludes ≠ []) query.Projects
  highlight : HasPart body "highlight" (query.highlights ≠ []) query.Highlights
  aggs : HasPart body "aggs" (query.aggregations ≠ []) query.Aggregates

variable {query : SearchQuery} {size : UInt64}

/-! ## Aggregations -/

theorem aggregationMember_eq_ok_iff {aggregation : Aggregation} {member : String × Json} :
    aggregationMember aggregation = .ok member ↔
      aggregation.kind.IsSupported ∧ member = (aggregation.name, aggregation.part) := by
  unfold aggregationMember AggregationKind.IsSupported Aggregation.part
  cases aggregation.kind <;> simp [eq_comm]

theorem aggregationMember_eq_error_iff {aggregation : Aggregation} {error : MapperError} :
    aggregationMember aggregation = .error error ↔
      ∃ kind, aggregation.kind = .other kind ∧
        error = .unsupported (.aggregation kind aggregation.name) := by
  unfold aggregationMember
  cases aggregation.kind <;> simp [eq_comm]

theorem exists_aggregationMember_iff {aggregation : Aggregation} :
    (∃ member, aggregationMember aggregation = .ok member) ↔ aggregation.kind.IsSupported := by
  simp only [aggregationMember_eq_ok_iff, exists_and_left, exists_eq, and_true]

theorem aggregationsBody_eq_ok_iff {aggregations : List Aggregation} {part : Json} :
    aggregationsBody aggregations = .ok part ↔
      (∀ aggregation ∈ aggregations, aggregation.kind.IsSupported) ∧
        part = .ofPairs (aggregations.map fun aggregation =>
          (aggregation.name, aggregation.part)) := by
  have hmembers : (∀ aggregation ∈ aggregations, aggregation.kind.IsSupported) →
      aggregations.mapM aggregationMember =
        .ok (aggregations.map fun aggregation => (aggregation.name, aggregation.part)) :=
    fun h => Except.mapM_eq_ok_map fun aggregation hmem =>
      aggregationMember_eq_ok_iff.mpr ⟨h aggregation hmem, rfl⟩
  unfold aggregationsBody
  rw [Except.bind_eq_ok_iff]
  constructor
  · rintro ⟨members, h, ⟨⟩⟩
    have hsupported : ∀ aggregation ∈ aggregations, aggregation.kind.IsSupported :=
      fun aggregation hmem =>
        exists_aggregationMember_iff.mp (Except.exists_mapM_eq_ok_iff.mp ⟨members, h⟩ _ hmem)
    rw [hmembers hsupported] at h
    cases h
    exact ⟨hsupported, rfl⟩
  · rintro ⟨hsupported, rfl⟩
    exact ⟨_, hmembers hsupported, rfl⟩

/-- The first aggregation that is not supported is the one that is named. -/
theorem aggregationsBody_eq_error_iff {aggregations : List Aggregation} {error : MapperError} :
    aggregationsBody aggregations = .error error ↔
      ∃ before aggregation after kind, aggregations = before ++ aggregation :: after ∧
        (∀ earlier ∈ before, earlier.kind.IsSupported) ∧ aggregation.kind = .other kind ∧
        error = .unsupported (.aggregation kind aggregation.name) := by
  have herror : aggregationsBody aggregations = .error error ↔
      aggregations.mapM aggregationMember = .error error := by
    unfold aggregationsBody
    rw [Except.bind_eq_error_iff, or_iff_left]
    rintro ⟨members, -, h⟩
    cases h
  rw [herror, Except.mapM_eq_error_iff]
  simp only [exists_aggregationMember_iff, aggregationMember_eq_error_iff, exists_and_left]

/-! ## The parts of a search -/

theorem find?_optional (wanted : Bool) (name key : String) (value : Json) :
    Members.find? key (if wanted then [(name, value)] else []).reverse =
      if key = name ∧ wanted = true then some value else none := by
  cases wanted <;> simp

theorem find?_offset (offset : Option UInt64) (key : String) :
    Members.find? key (offset.toList.map fun n => ("from", Json.uint64 n)).reverse =
      if key = "from" then offset.map .uint64 else none := by
  cases offset <;> simp

/-- The members of a search, each under a name of its own. -/
theorem member?_of_build {body : Json} (h : query.build size = .ok body) :
    ∃ tree, query.compiled = .ok tree ∧
      (∀ aggregation ∈ query.aggregations, aggregation.kind.IsSupported) ∧
      ∀ name, body.member? name =
        (if name = "aggs" ∧ (!query.aggregations.isEmpty) = true then
            some (.ofPairs (query.aggregations.map fun aggregation =>
              (aggregation.name, aggregation.part))) else none).or
        ((if name = "highlight" ∧ (!query.highlights.isEmpty) = true then
            some (highlightBody query.highlights) else none).or
        ((if name = "_source" ∧ query.hasProjection = true then
            some query.sourceFilter else none).or
        ((if name = "sort" ∧ (!query.sorts.isEmpty) = true then
            some (.array query.sortClauses) else none).or
        ((if name = "size" then some (.uint64 (query.limit.getD size)) else none).or
        ((if name = "from" then query.offset.map .uint64 else none).or
        (if name = "query" then some tree else none)))))) := by
  obtain ⟨tree, htree, h⟩ := Except.bind_eq_ok_iff.mp h
  obtain ⟨aggregations, haggregations, h⟩ := Except.bind_eq_ok_iff.mp h
  obtain ⟨hsupported, rfl⟩ := aggregationsBody_eq_ok_iff.mp haggregations
  cases h
  refine ⟨tree, htree, hsupported, fun name => ?_⟩
  show Members.find? name (Members.ofPairs _) = _
  simp only [Members.find?_ofPairs, List.reverse_append, Members.find?_append, find?_optional,
    find?_offset, List.reverse_singleton, Members.find?_cons, Members.find?_nil]

theorem forall₂_sortsBy (query : SearchQuery) :
    List.Forall₂ SortsBy (query.sorts.flatMap SortOrder.directed) query.sortClauses := by
  have hclauses : query.sortClauses = (query.sorts.flatMap SortOrder.directed).map fun directed =>
      .single directed.1 (.single "order" (.string (if directed.2 then "asc" else "desc"))) := by
    unfold sortClauses SortOrder.directed
    simp only [List.map_flatMap, List.map_map]
    rfl
  rw [hclauses, List.forall₂_map_right_iff, List.forall₂_same]
  exact fun _ _ => rfl

theorem highlights_highlightBody (hne : query.highlights ≠ []) :
    query.Highlights (highlightBody query.highlights) := by
  have hlast : query.highlights.getLast? = some (query.highlights.getLast hne) :=
    List.getLast?_eq_some_getLast hne
  have hbody : highlightBody query.highlights =
      .ofPairs (tagMembers (query.highlights.getLast hne) ++
        [("fields", highlightFields query.highlights)]) := by
    simp only [highlightBody, hlast]
  rw [hbody]
  refine ⟨⟨_, hlast, rfl, rfl⟩, _, rfl, fun field found => ?_⟩
  exact Members.find?_ofPairs_flatMap_eq_some_iff

theorem aggregates_ofPairs (query : SearchQuery) :
    query.Aggregates (.ofPairs (query.aggregations.map fun aggregation =>
      (aggregation.name, aggregation.part))) := by
  refine ⟨_, rfl, fun name found => ?_⟩
  -- an aggregation is an element with one name
  have hpairs : (query.aggregations.map fun aggregation => (aggregation.name, aggregation.part)) =
      query.aggregations.flatMap fun aggregation =>
        [aggregation.name].map fun other => (other, aggregation.part) := by
    rw [List.map_eq_flatMap]
    rfl
  rw [hpairs]
  exact Members.find?_ofPairs_flatMap_eq_some_iff

theorem hasProjection_iff :
    query.hasProjection = true ↔ query.includes ≠ [] ∨ query.excludes ≠ [] := by
  simp [hasProjection]

theorem projects_sourceFilter (query : SearchQuery) : query.Projects query.sourceFilter := by
  unfold sourceFilter
  constructor <;> cases query.includes <;> cases query.excludes <;> rfl

theorem hasPart_of_eq {body part : Json} {name : String} {condition : Bool} {wanted : Prop}
    {isPart : Json → Prop}
    (hmember : body.member? name = if condition = true then some part else none)
    (hcondition : condition = true ↔ wanted) (hpart : wanted → isPart part) :
    HasPart body name wanted isPart := by
  rw [HasPart, hmember]
  by_cases h : condition = true
  · rw [if_pos h]
    refine ⟨⟨fun _ => hcondition.mp h, fun _ => ⟨part, rfl⟩⟩, ?_⟩
    rintro _ ⟨⟩
    exact hpart (hcondition.mp h)
  · rw [if_neg h]
    exact ⟨⟨nofun, fun hwanted => absurd (hcondition.mpr hwanted) h⟩, nofun⟩

/-- The body of a search holds what its query says. -/
theorem requests_of_build {body : Json} (h : query.build size = .ok body) :
    ∃ tree, query.compiled = .ok tree ∧ query.Requests size tree body := by
  obtain ⟨tree, htree, -, hmember⟩ := member?_of_build h
  have hne : ∀ {α : Type} (given : List α), (!given.isEmpty) = true ↔ given ≠ [] := by
    intro α given
    simp
  have hoffset : body.member? "from" = query.offset.map .uint64 := by simp [hmember]
  refine ⟨tree, htree, by simp [hmember], by simp [hmember], ?_, ?_, ?_, ?_, ?_⟩
  · simp [HasPart, hoffset, eq_comm]
  · exact hasPart_of_eq (by simp [hmember]) (hne query.sorts)
      fun _ => ⟨_, rfl, forall₂_sortsBy query⟩
  · exact hasPart_of_eq (by simp [hmember]) hasProjection_iff fun _ => projects_sourceFilter query
  · exact hasPart_of_eq (by simp [hmember]) (hne query.highlights) highlights_highlightBody
  · exact hasPart_of_eq (by simp [hmember]) (hne query.aggregations)
      fun _ => aggregates_ofPairs query

/-! ## All three bodies -/

theorem compiled_eq_ok_iff {tree : Json} :
    query.compiled = .ok tree ↔
      ∃ compiled, query.conditions.compile query.geo = .ok compiled ∧ tree = compiled.toJson := by
  unfold compiled
  cases query.conditions.compile query.geo <;> simp [eq_comm]

theorem compiled_eq_error {fault : CompileFault}
    (h : query.conditions.compile query.geo = .error fault) :
    query.compiled = .error (.validation (.conditions fault)) := by
  unfold compiled
  rw [h]

theorem query_of_idsOnly {ids : Json} (h : query.idsOnly size = .ok ids) :
    ∃ tree, query.compiled = .ok tree ∧ ids.member? "query" = some tree := by
  obtain ⟨tree, htree, h⟩ := Except.bind_eq_ok_iff.mp h
  cases h
  exact ⟨tree, htree, rfl⟩

theorem query_of_count {counted : Json} (h : query.count = .ok counted) :
    ∃ tree, query.compiled = .ok tree ∧ counted.member? "query" = some tree := by
  obtain ⟨tree, htree, h⟩ := Except.bind_eq_ok_iff.mp h
  cases h
  exact ⟨tree, htree, rfl⟩

theorem exists_idsOnly_and_count (size : UInt64) {tree : Json}
    (h : query.compiled = .ok tree) :
    (∃ ids, query.idsOnly size = .ok ids) ∧ ∃ counted, query.count = .ok counted := by
  unfold idsOnly count
  rw [h]
  exact ⟨⟨_, rfl⟩, _, rfl⟩

/-- A search needs its conditions to compile before its aggregations matter. -/
theorem build_eq_error_iff {tree : Json} (htree : query.compiled = .ok tree) {error : MapperError} :
    query.build size = .error error ↔ aggregationsBody query.aggregations = .error error := by
  unfold build
  rw [htree]
  cases aggregationsBody query.aggregations with
  | ok part => constructor <;> nofun
  | error error' => exact Iff.rfl

theorem exists_build_iff :
    (∃ body, query.build size = .ok body) ↔
      (∃ tree, query.compiled = .ok tree) ∧
        ∀ aggregation ∈ query.aggregations, aggregation.kind.IsSupported := by
  constructor
  · rintro ⟨body, h⟩
    obtain ⟨tree, htree, hsupported, -⟩ := member?_of_build h
    exact ⟨⟨tree, htree⟩, hsupported⟩
  · rintro ⟨⟨tree, htree⟩, hsupported⟩
    have haggregations := aggregationsBody_eq_ok_iff.mpr ⟨hsupported, rfl⟩
    unfold build
    rw [htree, haggregations]
    exact ⟨_, rfl⟩

/-- **The bodies of a query.** There are bodies for its identifiers and for its count exactly if its
conditions compile, and one for its search exactly if its aggregations are supported too. All three
hold the same compiled query, and fail alike if there is none; otherwise a search can only fail with
the first aggregation that is not supported, whatever stands behind it. The body of a search has
each part exactly if the query asks for it: the sort orders field by field, for each highlighted
field the tags of the last highlight that names it, and for each name the last aggregation of that
name. -/
theorem requests_agree (query : SearchQuery) (size : UInt64) :
    ((∃ ids, query.idsOnly size = .ok ids) ↔
      ∃ tree, query.conditions.compile query.geo = .ok tree) ∧
    ((∃ counted, query.count = .ok counted) ↔
      ∃ tree, query.conditions.compile query.geo = .ok tree) ∧
    ((∃ body, query.build size = .ok body) ↔
      (∃ tree, query.conditions.compile query.geo = .ok tree) ∧
        ∀ aggregation ∈ query.aggregations, aggregation.kind.IsSupported) ∧
    (∀ fault, query.conditions.compile query.geo = .error fault →
      query.idsOnly size = .error (.validation (.conditions fault)) ∧
      query.count = .error (.validation (.conditions fault)) ∧
      query.build size = .error (.validation (.conditions fault))) ∧
    ∀ tree, query.conditions.compile query.geo = .ok tree →
      (∀ ids, query.idsOnly size = .ok ids → ids.member? "query" = some tree.toJson) ∧
      (∀ counted, query.count = .ok counted → counted.member? "query" = some tree.toJson) ∧
      (∀ body, query.build size = .ok body → query.Requests size tree.toJson body) ∧
      ∀ error, query.build size = .error error ↔
        ∃ before aggregation after kind, query.aggregations = before ++ aggregation :: after ∧
          (∀ earlier ∈ before, earlier.kind.IsSupported) ∧ aggregation.kind = .other kind ∧
          error = .unsupported (.aggregation kind aggregation.name) := by
  have hcompiled : (∃ tree, query.compiled = .ok tree) ↔
      ∃ tree, query.conditions.compile query.geo = .ok tree := by
    simp only [compiled_eq_ok_iff, exists_comm (α := Json), exists_and_left, exists_eq, and_true]
  refine ⟨?_, ?_, ?_, ?_, ?_⟩
  · rw [← hcompiled]
    refine ⟨fun ⟨ids, hids⟩ => ?_, fun ⟨tree, htree⟩ => (exists_idsOnly_and_count size htree).1⟩
    obtain ⟨tree, htree, -⟩ := query_of_idsOnly hids
    exact ⟨tree, htree⟩
  · rw [← hcompiled]
    refine ⟨fun ⟨counted, hcounted⟩ => ?_,
      fun ⟨tree, htree⟩ => (exists_idsOnly_and_count size htree).2⟩
    obtain ⟨tree, htree, -⟩ := query_of_count hcounted
    exact ⟨tree, htree⟩
  · rw [← hcompiled]
    exact exists_build_iff
  · intro fault hfault
    unfold idsOnly count build
    rw [compiled_eq_error hfault]
    exact ⟨rfl, rfl, rfl⟩
  · intro tree htree
    have hjson : query.compiled = .ok tree.toJson := compiled_eq_ok_iff.mpr ⟨tree, htree, rfl⟩
    have hsame : ∀ other, query.compiled = .ok other → other = tree.toJson := by
      intro other hother
      rw [hjson] at hother
      exact (Except.ok.inj hother).symm
    refine ⟨?_, ?_, ?_, ?_⟩
    · intro ids hids
      obtain ⟨other, hother, hquery⟩ := query_of_idsOnly hids
      rw [hquery, hsame other hother]
    · intro counted hcounted
      obtain ⟨other, hother, hquery⟩ := query_of_count hcounted
      rw [hquery, hsame other hother]
    · intro body hbody
      obtain ⟨other, hother, hrequests⟩ := requests_of_build hbody
      rwa [hsame other hother] at hrequests
    · intro error
      rw [build_eq_error_iff hjson, aggregationsBody_eq_error_iff]

/-- Two aggregations of one name, and a field that two highlights name. -/
theorem requests_agree_repeated :
    let query : SearchQuery :=
      { highlights := [⟨["title", "body"], "<b>", "</b>"⟩, ⟨["title"], "<em>", "</em>"⟩]
        aggregations :=
          [⟨"by_age", "age", .terms⟩, ⟨"most", "age", .max⟩, ⟨"by_age", "born", .min⟩] }
    ∃ body highlight fields aggregations, query.build 20 = .ok body ∧
      body.member? "highlight" = some highlight ∧
      highlight.member? "pre_tags" = some (.strings ["<em>"]) ∧
      highlight.member? "fields" = some (.object fields) ∧
      Members.find? "body" fields =
        some (.ofPairs [("pre_tags", .strings ["<b>"]), ("post_tags", .strings ["</b>"])]) ∧
      body.member? "aggs" = some (.object aggregations) ∧
      Members.find? "by_age" aggregations =
        some (.single "min" (.single "field" (.string "born"))) := by
  intro query
  obtain ⟨-, -, hbuild, -, hbodies⟩ := requests_agree query 20
  have htree : query.conditions.compile query.geo = .ok {} := rfl
  have hsupported : ∀ aggregation ∈ query.aggregations, aggregation.kind.IsSupported := by
    simp [query, AggregationKind.IsSupported]
  obtain ⟨body, hbody⟩ := hbuild.mpr ⟨⟨_, htree⟩, hsupported⟩
  have hrequests := (hbodies {} htree).2.2.1 body hbody
  obtain ⟨highlight, hhighlight⟩ := hrequests.highlight.1.mpr (by decide)
  obtain ⟨⟨last, hlast, htags, -⟩, fields, hfields, hfield⟩ := hrequests.highlight.2 _ hhighlight
  obtain ⟨part, hpart⟩ := hrequests.aggs.1.mpr (by decide)
  obtain ⟨aggregations, rfl, haggregation⟩ := hrequests.aggs.2 _ hpart
  cases hlast
  refine ⟨body, highlight, fields, aggregations, hbody, hhighlight, htags, hfields, ?_, hpart, ?_⟩
  · exact (hfield _ _).mpr
      ⟨⟨["title", "body"], "<b>", "</b>"⟩, ⟨[], [_], rfl, by decide, by decide⟩, rfl⟩
  · exact (haggregation _ _).mpr
      ⟨⟨"by_age", "born", .min⟩, ⟨[_, _], [], rfl, by decide, by decide⟩, rfl⟩

end SearchQuery
end SearchMapper
