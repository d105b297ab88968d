import SearchMapper.Proofs.Conditions.Pass
import SearchMapper.Query.Request

/-!
# When a condition list compiles, and to what

The pass accepts exactly the lists whose groups stand side by side and whose predicates can be
rendered where they are placed, and then the query holds what the parts contribute, in order,
with the spatial filter as its last filter clause. Inside a group only the presence of a chain
marker counts.
-/

namespace SearchMapper

/-! ## Chain markers inside a group -/

namespace Part

/-- The part with the predicates of a group in one batch, and after them a chain marker if the
group had any. -/
def gathered : Part → Part
  | simple e => simple e
  | group kind body =>
    group kind (.batch (body.flatMap SimpleEntry.predicates) ::
      if body.contains .chain then [.chain] else [])

theorem predicates_gathered (part : Part) : part.gathered.predicates = part.predicates := by
  cases part with
  | simple e => rfl
  | group kind body =>
    rw [gathered, predicates, predicates, List.flatMap_cons]
    split <;> exact List.append_nil _

theorem holdsChain_gathered (part : Part) : part.gathered.holdsChain = part.holdsChain := by
  cases part with
  | simple e => rfl
  | group kind body =>
    have hne : (SimpleEntry.chain == .batch (body.flatMap SimpleEntry.predicates)) = false :=
      beq_false_of_ne SimpleEntry.noConfusion
    rw [gathered, holdsChain, holdsChain, List.contains_cons, hne, Bool.false_or]
    split
    · next h => rw [h, List.contains_cons, beq_self_eq_true, Bool.true_or]
    · next h => rw [Bool.not_eq_true] at h; rw [h, List.contains_nil]

theorem clauses_gathered (chained : Bool) (part : Part) :
    part.gathered.clauses chained = part.clauses chained := by
  cases part with
  | simple e => rfl
  | group kind body =>
    have hpredicates := predicates_gathered (group kind body)
    have hchain := holdsChain_gathered (group kind body)
    rw [gathered] at hpredicates hchain ⊢
    rw [clauses, clauses, hpredicates, hchain]

theorem renders_gathered (chained : Bool) (part : Part) :
    part.gathered.Renders chained ↔ part.Renders chained := by
  rw [Renders, Renders, predicates_gathered, holdsChain_gathered]

theorem gathered_beq_chain (part : Part) :
    (part.gathered == .simple .chain) = (part == .simple .chain) := by
  cases part <;> rfl

/-- The query of parts depends on their groups only through their predicates and whether there
is a chain marker among them. -/
theorem query_map_gathered (chained : Bool) (parts : List Part) :
    query chained (parts.map gathered) = query chained parts := by
  induction parts generalizing chained with
  | nil => rfl
  | cons part rest ih =>
    rw [List.map_cons, query_cons, query_cons, clauses_gathered, gathered_beq_chain, ih]

theorem allRenderFrom_map_gathered (chained : Bool) (parts : List Part) :
    AllRenderFrom chained (parts.map gathered) ↔ AllRenderFrom chained parts := by
  induction parts generalizing chained with
  | nil => exact Iff.rfl
  | cons part rest ih =>
    rw [List.map_cons, allRenderFrom_cons, allRenderFrom_cons, renders_gathered,
      gathered_beq_chain, ih]

/-- The clauses of a slot are those that the parts contribute to it. -/
theorem get_query (parts : List Part) (slot : Occur) :
    (query false parts).get slot =
      (parts.mapIdx fun i part => (part.clauses (chainBefore parts i)).get slot).flatten := by
  rw [query, Slots.get_concat, List.mapIdx_eq_zipIdx_map, List.mapIdx_eq_zipIdx_map, List.map_map]
  simp only [Bool.false_or]
  rfl

end Part

/-- The pass can end with a fault only over an open group, not over the spatial filter. -/
theorem Compilation.finish_eq_error {state : Compilation} {geo : Option GeoFilter}
    {fault : CompileFault} (h : state.finish geo = .error fault) (other : Option GeoFilter) :
    state.finish other = .error fault := by
  obtain ⟨outer, group, chaining⟩ := state
  cases group with
  | some group => exact h
  | none => cases geo <;> cases h

namespace Conditions

/-- Two lists of parts compile to the same if their groups have the same predicates, and chain
markers in the same groups. -/
theorem compile_flatten_congr {parts others : List Part} {geo : Option GeoFilter}
    {query : BoolQuery} (hsame : others.map Part.gathered = parts.map Part.gathered)
    (h : compile (Part.flatten parts) geo = .ok query) :
    compile (Part.flatten others) geo = .ok query := by
  obtain ⟨hrender, rfl⟩ := compile_flatten_eq_ok_iff.mp h
  refine compile_flatten_eq_ok_iff.mpr ⟨?_, ?_⟩
  · rwa [← Part.allRenderFrom_map_gathered, hsame, Part.allRenderFrom_map_gathered]
  · rw [← Part.query_map_gathered false others, hsame, Part.query_map_gathered]

/-! ## Main results -/

/-- **What a list compiles to.** A list that compiles reads as parts. All their predicates can be
rendered where they are placed, each slot of the query holds what the parts contribute to it, in
the order of the list, and the spatial filter is the last filter clause. Parts whose groups have
the same predicates, and chain markers in the same groups, compile to the same. -/
theorem slots_of_compile {conditions : Conditions} {geo : Option GeoFilter} {query : BoolQuery}
    (h : conditions.compile geo = .ok query) :
    (∃ parts, conditions = Part.flatten parts) ∧
      ∀ parts, conditions = Part.flatten parts →
        (∀ (i : Nat) (part : Part), parts[i]? = some part →
          part.Renders (Part.chainBefore parts i)) ∧
        (∀ slot, query.get slot =
          (parts.mapIdx fun i part => (part.clauses (Part.chainBefore parts i)).get slot).flatten ++
            (BoolQuery.ofGeo geo).get slot) ∧
        ∀ others : List Part, others.map Part.gathered = parts.map Part.gathered →
          compile (Part.flatten others) geo = .ok query := by
  refine ⟨exists_parts_of_compile h, ?_⟩
  intro parts hparts
  subst hparts
  obtain ⟨hrender, hquery⟩ := compile_flatten_eq_ok_iff.mp h
  refine ⟨?_, ?_, ?_⟩
  · intro i part hpart
    have hi := hrender i part hpart
    rwa [Bool.false_or] at hi
  · intro slot
    rw [hquery, Slots.get_append, Part.get_query]
  · intro others hsame
    exact compile_flatten_congr hsame h

/-- A condition, two alternatives behind a chain marker, one of them a group, and a spatial
filter. -/
theorem slots_of_compile_alternatives :
    ∃ query, compile (build [.compare .eq "name" (.string "Ada"), .orChain,
        .group .any [.orChain, .compare .eq "city" (.string "Rome")],
        .compare .mustNot "status" (.string "closed")])
        (some (.make "place" (.polygon []))) = .ok query ∧
      query.get .must = [.leaf ⟨"name", .term (.string "Ada"), none⟩] ∧
      query.get .filter = [.ofGeo (.make "place" (.polygon []))] ∧
      query.get .should =
        [.bool { should := [.leaf ⟨"city", .term (.string "Rome"), none⟩] },
          .not (.leaf ⟨"status", .fullText (.string "closed"), none⟩)] ∧
      query.get .mustNot = [] := by
  refine ⟨_, rfl, ?_⟩
  have hslot := ((@slots_of_compile _ (some (.make "place" (.polygon []))) _ rfl).2
    [.simple (.batch [.make "name" .exact .must (.single (.string "Ada"))]), .simple .chain,
      .group .any [.chain, .batch [.make "city" .exact .must (.single (.string "Rome"))]],
      .simple (.batch [.make "status" .fullText .mustNot (.single (.string "closed"))])] rfl).2.1
  exact ⟨hslot .must, hslot .filter, hslot .should, hslot .mustNot⟩

/-- A list fails to compile for the same reason whatever the spatial filter. -/
theorem compile_eq_error_of_geo {conditions : Conditions} {geo : Option GeoFilter}
    {fault : CompileFault} (h : conditions.compile geo = .error fault) (other : Option GeoFilter) :
    conditions.compile other = .error fault := by
  rw [compile] at h ⊢
  cases hrun : Compilation.run {} 0 conditions with
  | error e =>
    rw [hrun] at h
    exact h
  | ok state =>
    rw [hrun] at h
    exact Compilation.finish_eq_error h other

/-- **Which lists compile.** A list compiles exactly if its groups stand side by side and each
predicate can be rendered after it was moved to should, if a chain marker outside all groups
stands before it or its own group contains one. A failure is a validation error, and the same
whatever the spatial filter. -/
theorem compiles_iff (conditions : Conditions) (geo : Option GeoFilter) :
    ((∃ query, conditions.compile geo = .ok query) ↔
      conditions.IsFlat ∧
        ∀ parts, conditions = Part.flatten parts →
          ∀ (i : Nat) (part : Part), parts[i]? = some part → ∀ p ∈ part.predicates,
            ∃ fragment, (p.placed (Part.chainBefore parts i || part.holdsChain)).render =
              .ok fragment) ∧
      ∀ fault, conditions.compile geo = .error fault →
        ({ conditions, geo } : SearchQuery).compiled = .error (.validation (.conditions fault)) ∧
          ∀ other, conditions.compile other = .error fault := by
  refine ⟨⟨?_, ?_⟩, ?_⟩
  · intro h
    obtain ⟨query, h⟩ := h
    refine ⟨(isFlat_iff_exists_parts conditions).mpr (exists_parts_of_compile h), ?_⟩
    intro parts h i part hpart p hp
    subst h
    have hrender := (compile_flatten_eq_ok_iff.mp h).1 i part hpart p hp
    rwa [Bool.false_or] at hrender
  · intro h
    obtain ⟨hflat, hrender⟩ := h
    obtain ⟨parts, rfl⟩ := (isFlat_iff_exists_parts conditions).mp hflat
    refine ⟨_, compile_flatten_eq_ok_iff.mpr ⟨fun i part hpart p hp => ?_, rfl⟩⟩
    rw [Bool.false_or]
    exact hrender parts rfl i part hpart p hp
  · intro fault h
    refine ⟨?_, compile_eq_error_of_geo h⟩
    simp only [SearchQuery.compiled, h]

end Conditions
end SearchMapper
