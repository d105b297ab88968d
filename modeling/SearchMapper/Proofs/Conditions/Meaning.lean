import SearchMapper.Proofs.Conditions.Pass
import SearchMapper.Proofs.Fragment.Moved

/-!
# The meaning of a condition list

What documents a compiled list matches, in terms of its predicates. Outside disjunctions all
predicates have to hold; a group with a chain marker asks for one of its predicates. A predicate
keeps its meaning when it is moved to should: what must_not said by its slot, the fragment then
says by its negation.
-/

namespace SearchMapper

namespace Predicate

/-! ## Predicates -/

/-- The leaf that a predicate tests its field with. -/
def leaf (p : Predicate) (test : FieldTest) : Leaf :=
  { field := p.field, test, boost := p.boost }

/-- The predicate asks that its leaf does not match: its clause is must_not, or one that stands
for the negation of another. -/
def isNegative (p : Predicate) : Bool := p.clause.isNegated || p.clause == .mustNot

/-- The predicate holds, where `sat` tells which leaves match. -/
def Holds (sat : Leaf → Prop) (p : Predicate) : Prop :=
  ∃ test, p.clauseTest = .ok test ∧
    if p.isNegative then ¬ sat (p.leaf test) else sat (p.leaf test)

/-- The predicate has the clause it was made with, and is not optional. -/
def IsPlain (p : Predicate) : Prop := p.clause = p.givenClause ∧ p.clause ≠ .should

variable {sat : Leaf → Prop} {p : Predicate} {fragment : Fragment} {test : FieldTest}

theorem holds_iff (h : p.clauseTest = .ok test) :
    p.Holds sat ↔ if p.isNegative then ¬ sat (p.leaf test) else sat (p.leaf test) := by
  constructor
  · intro hholds
    obtain ⟨other, hother, hsat⟩ := hholds
    rw [h] at hother
    cases hother
    exact hsat
  · exact fun hsat => ⟨test, h, hsat⟩

/-- The fragment of a predicate is its leaf, negated or not. -/
theorem exists_test_of_render (h : p.render = .ok fragment) :
    ∃ test, p.clauseTest = .ok test ∧
      fragment = if p.rendersNegated then .not (.leaf (p.leaf test)) else .leaf (p.leaf test) := by
  obtain ⟨-, hfragment⟩ := render_eq_ok_iff.mp h
  exact hfragment

namespace IsPlain

/-- In its own slot a predicate is rendered as a negation for the negated clauses only. -/
theorem rendersNegated_eq (hp : p.IsPlain) : p.rendersNegated = p.clause.isNegated := by
  rw [rendersNegated_eq_isNegated hp.1, hp.1]

/-- Moved to should, a predicate is rendered as a negation exactly if it is negative. -/
theorem rendersNegated_reclassify (hp : p.IsPlain) :
    p.reclassify.rendersNegated = p.isNegative := by
  rw [p.rendersNegated_reclassify, isNegative, hp.1]

/-- The fragment of a predicate under should says what the predicate says. -/
theorem matches_reclassify (hp : p.IsPlain) (h : p.reclassify.render = .ok fragment) :
    fragment.Matches sat ↔ p.Holds sat := by
  obtain ⟨test, htest, rfl⟩ := exists_test_of_render h
  rw [clauseTest_reclassify hp.1] at htest
  rw [holds_iff htest, hp.rendersNegated_reclassify]
  split
  · rfl
  · rfl

/-- A predicate in its own slot makes no should clause. -/
theorem occur_ne_should (hp : p.IsPlain) : p.occur ≠ .should := by
  by_cases hnot : p.clause = .mustNot
  · rw [occur, hnot]
    decide
  · rcases occur_eq_must_or_filter hnot hp.2 with h | h <;> rw [h] <;> decide

theorem should_clauses (hp : p.IsPlain) (h : p.render = .ok fragment) :
    p.clauses.should = [] := by
  rw [clauses_of_render h]
  exact BoolQuery.should_add hp.occur_ne_should fragment

/-- The clauses of a predicate in its own slot say what the predicate says. -/
theorem matches_clauses (hp : p.IsPlain) (h : p.render = .ok fragment) :
    p.clauses.Matches sat ↔ p.Holds sat := by
  obtain ⟨test, htest, hfragment⟩ := exists_test_of_render h
  rw [hp.rendersNegated_eq] at hfragment
  rw [holds_iff htest, clauses_of_render h, isNegative]
  by_cases hnot : p.clause = .mustNot
  · -- the slot says the negation, the fragment is the bare leaf
    have hoccur : p.occur = .mustNot := by rw [occur, hnot]
    rw [hoccur, BoolQuery.matches_add_mustNot, hfragment, hnot]
    rfl
  · -- the slot asks for the fragment, which says the negation itself
    have hnegative : (p.clause == .mustNot) = false := beq_false_of_ne hnot
    rw [BoolQuery.matches_add (occur_eq_must_or_filter hnot hp.2), hfragment, hnegative,
      Bool.or_false]
    split
    · rfl
    · rfl

end IsPlain
end Predicate

variable {sat : Leaf → Prop}

/-! ## Predicates in a row -/

namespace BoolQuery

variable {predicates : List Predicate}

/-- The clauses of a plain predicate that can be rendered, one of a row. -/
theorem should_of_mem_clauses (hplain : ∀ p ∈ predicates, p.IsPlain)
    (hrender : AllRender false predicates) {query : BoolQuery}
    (h : query ∈ predicates.map fun p => (p.placed false).clauses) :
    query.should = [] := by
  rw [List.mem_map] at h
  obtain ⟨p, hp, rfl⟩ := h
  obtain ⟨fragment, hfragment⟩ := hrender p hp
  exact (hplain p hp).should_clauses hfragment

/-- Plain predicates in their own slots make no should clauses. -/
theorem should_ofPredicates (hplain : ∀ p ∈ predicates, p.IsPlain)
    (hrender : AllRender false predicates) : (ofPredicates false predicates).should = [] :=
  should_concat fun _ h => should_of_mem_clauses hplain hrender h

/-- Plain predicates in their own slots all have to hold. -/
theorem matches_ofPredicates (hplain : ∀ p ∈ predicates, p.IsPlain)
    (hrender : AllRender false predicates) :
    (ofPredicates false predicates).Matches sat ↔ ∀ p ∈ predicates, p.Holds sat := by
  rw [ofPredicates, matches_concat fun _ h => should_of_mem_clauses hplain hrender h,
    List.forall_mem_map]
  constructor
  · intro h p hp
    obtain ⟨fragment, hfragment⟩ := hrender p hp
    exact ((hplain p hp).matches_clauses hfragment).mp (h p hp)
  · intro h p hp
    obtain ⟨fragment, hfragment⟩ := hrender p hp
    exact ((hplain p hp).matches_clauses hfragment).mpr (h p hp)

/-- Plain predicates moved to should make one should clause each, which says what the predicate
says, and nothing else. -/
theorem exists_should_of_ofPredicates (hplain : ∀ p ∈ predicates, p.IsPlain)
    (hrender : AllRender true predicates) :
    ∃ fragments : List Fragment, ofPredicates true predicates = { should := fragments } ∧
      (fragments = [] ↔ predicates = []) ∧
      ∀ sat, (∃ fragment ∈ fragments, fragment.Matches sat) ↔ ∃ p ∈ predicates, p.Holds sat := by
  induction predicates with
  | nil =>
    refine ⟨[], rfl, ⟨fun _ => rfl, fun _ => rfl⟩, fun sat => ⟨?_, ?_⟩⟩
    · intro h
      obtain ⟨_, h, _⟩ := h
      cases h
    · intro h
      obtain ⟨_, h, _⟩ := h
      cases h
  | cons p rest ih =>
    rw [List.forall_mem_cons] at hplain
    rw [AllRender.cons_iff] at hrender
    obtain ⟨fragments, hrest, -, hmatches⟩ := ih hplain.2 hrender.2
    obtain ⟨fragment, hfragment⟩ := hrender.1
    have hclauses : (p.placed true).clauses = { should := [fragment] } := by
      rw [Predicate.clauses_of_render hfragment]
      exact should_add_should fragment
    refine ⟨fragment :: fragments, ?_, ?_, fun sat => ?_⟩
    · rw [ofPredicates_cons, hclauses, hrest]
      rfl
    · exact ⟨fun h => absurd h (List.cons_ne_nil _ _), fun h => absurd h (List.cons_ne_nil _ _)⟩
    · have hp : fragment.Matches sat ↔ p.Holds sat := hplain.1.matches_reclassify hfragment
      simp only [List.mem_cons, exists_eq_or_imp, hp, hmatches]

/-- Of plain predicates moved to should one has to hold, if there are any. -/
theorem matches_ofPredicates_disjunctive (hplain : ∀ p ∈ predicates, p.IsPlain)
    (hrender : AllRender true predicates) :
    (ofPredicates true predicates).Matches sat ↔
      (predicates ≠ [] → ∃ p ∈ predicates, p.Holds sat) := by
  obtain ⟨fragments, hquery, hnil, hmatches⟩ := exists_should_of_ofPredicates hplain hrender
  rw [hquery, matches_of_should, hmatches sat, ne_eq, hnil]

end BoolQuery

/-! ## Parts -/

namespace Part

/-- The part holds: of a group with a chain marker one predicate has to hold, if it has any, of
every other part all of them. -/
def Holds (sat : Leaf → Prop) (part : Part) : Prop :=
  if part.holdsChain then part.predicates ≠ [] → ∃ p ∈ part.predicates, p.Holds sat
  else ∀ p ∈ part.predicates, p.Holds sat

variable {part : Part} {kind : GroupKind} {body : List SimpleEntry}

theorem holds_group_of_mem (h : .chain ∈ body) :
    (group kind body).Holds sat ↔ (body.flatMap SimpleEntry.predicates ≠ [] →
      ∃ p ∈ body.flatMap SimpleEntry.predicates, p.Holds sat) := by
  have hchain : (group kind body).holdsChain = true := List.contains_iff_mem.mpr h
  rw [Holds, if_pos hchain, predicates]

theorem holds_group_of_not_mem (h : .chain ∉ body) :
    (group kind body).Holds sat ↔ ∀ p ∈ body.flatMap SimpleEntry.predicates, p.Holds sat := by
  have hchain : ¬ (group kind body).holdsChain = true := fun hc => h (List.contains_iff_mem.mp hc)
  rw [Holds, if_neg hchain, predicates]

/-- The fragment of a group asks for what the group asks for. -/
theorem matches_ofPredicates (hplain : ∀ p ∈ part.predicates, p.IsPlain)
    (hrender : part.Renders false) :
    (BoolQuery.ofPredicates part.holdsChain part.predicates).Matches sat ↔ part.Holds sat := by
  rw [Renders, Bool.false_or] at hrender
  cases hchain : part.holdsChain with
  | true =>
    rw [hchain] at hrender
    rw [BoolQuery.matches_ofPredicates_disjunctive hplain hrender, Holds, if_pos hchain]
  | false =>
    rw [hchain] at hrender
    rw [BoolQuery.matches_ofPredicates hplain hrender, Holds, hchain, if_neg Bool.false_ne_true]

/-- Outside disjunctions, a part contributes no should clauses, and is asked for. -/
theorem matches_clauses (hkind : part.kind? ≠ some .any) (hplain : ∀ p ∈ part.predicates, p.IsPlain)
    (hrender : part.Renders false) :
    (part.clauses false).should = [] ∧ ((part.clauses false).Matches sat ↔ part.Holds sat) := by
  cases part with
  | simple e =>
    have hclauses : (simple e).clauses false = BoolQuery.ofPredicates false e.predicates := rfl
    rw [hclauses, ← matches_ofPredicates hplain hrender, holdsChain, predicates]
    exact ⟨BoolQuery.should_ofPredicates hplain hrender, Iff.rfl⟩
  | group kind body =>
    cases kind with
    | any => exact absurd rfl hkind
    | all =>
      rw [← matches_ofPredicates hplain hrender, clauses_group, Bool.false_or]
      split
      · next hempty =>
        -- a group without predicates contributes nothing, and asks for nothing
        have hnil : (group .all body).predicates = [] := List.isEmpty_iff.mp hempty
        rw [hnil, BoolQuery.ofPredicates_nil]
        exact ⟨rfl, Iff.rfl⟩
      · rw [GroupKind.occur, BoolQuery.matches_add (.inl rfl), BoolQuery.matches_bool]
        exact ⟨BoolQuery.should_add (by decide) _, Iff.rfl⟩

/-! ## Lists of parts -/

variable {parts : List Part}

theorem chainBefore_eq_false (h : .simple .chain ∉ parts) (position : Nat) :
    chainBefore parts position = false := by
  rw [chainBefore, ← Bool.not_eq_true, List.contains_iff_mem]
  exact fun hmem => h (List.mem_of_mem_take hmem)

/-- Without a chain marker outside all groups, no part is told of one. -/
theorem query_of_no_chain (h : .simple .chain ∉ parts) :
    query false parts = Slots.concat (parts.map (clauses false)) := by
  have hmap : (parts.mapIdx fun i part => part.clauses (false || chainBefore parts i)) =
      parts.map (clauses false) := by
    rw [List.mapIdx_eq_iff]
    intro i
    rw [List.getElem?_map, chainBefore_eq_false h, Bool.or_false]
  rw [query, hmap]

theorem renders_of_mem (h : .simple .chain ∉ parts) (hrender : AllRenderFrom false parts)
    (hpart : part ∈ parts) : part.Renders false := by
  obtain ⟨i, hi⟩ := List.getElem?_of_mem hpart
  have := hrender i part hi
  rwa [chainBefore_eq_false h, Bool.or_false] at this

/-- What a list asks for, by kinds of parts: all predicates outside groups and of groups without
chain marker, and one predicate of each other group that has any. -/
theorem forall_holds_iff (hany : ∀ body, .group .any body ∉ parts) :
    (∀ part ∈ parts, part.Holds sat) ↔
      (∀ e, .simple e ∈ parts → ∀ p ∈ e.predicates, p.Holds sat) ∧
        (∀ body, .group .all body ∈ parts → .chain ∉ body →
          ∀ p ∈ body.flatMap SimpleEntry.predicates, p.Holds sat) ∧
        ∀ body, .group .all body ∈ parts → .chain ∈ body →
          body.flatMap SimpleEntry.predicates ≠ [] →
            ∃ p ∈ body.flatMap SimpleEntry.predicates, p.Holds sat := by
  constructor
  · intro h
    refine ⟨fun e he => h _ he, fun body hbody hchain => ?_, fun body hbody hchain => ?_⟩
    · exact (holds_group_of_not_mem hchain).mp (h _ hbody)
    · exact (holds_group_of_mem hchain).mp (h _ hbody)
  · intro h part hpart
    obtain ⟨hsimple, hall, hone⟩ := h
    cases part with
    | simple e => exact hsimple e hpart
    | group kind body =>
      cases kind with
      | any => exact absurd hpart (hany body)
      | all =>
        by_cases hchain : .chain ∈ body
        · exact (holds_group_of_mem hchain).mpr (hone body hpart hchain)
        · exact (holds_group_of_not_mem hchain).mpr (hall body hpart hchain)

/-- Outside disjunctions, what parts contribute has no should clauses, and asks for each part. -/
theorem matches_query (hchain : .simple .chain ∉ parts) (hany : ∀ body, .group .any body ∉ parts)
    (hplain : ∀ part ∈ parts, ∀ p ∈ part.predicates, p.IsPlain)
    (hrender : AllRenderFrom false parts) :
    (query false parts).should = [] ∧
      ((query false parts).Matches sat ↔ ∀ part ∈ parts, part.Holds sat) := by
  have hclauses : ∀ part ∈ parts, (part.clauses false).should = [] ∧
      ((part.clauses false).Matches sat ↔ part.Holds sat) := by
    intro part hpart
    have hkind : part.kind? ≠ some .any := by
      cases part with
      | simple e => exact nofun
      | group kind body =>
        intro h
        cases h
        exact hany body hpart
    exact matches_clauses hkind (hplain part hpart) (renders_of_mem hchain hrender hpart)
  have hshould : ∀ q ∈ parts.map (clauses false), q.should = [] := by
    rw [List.forall_mem_map]
    exact fun part hpart => (hclauses part hpart).1
  rw [query_of_no_chain hchain]
  refine ⟨BoolQuery.should_concat hshould, ?_⟩
  rw [BoolQuery.matches_concat hshould, List.forall_mem_map]
  constructor
  · intro h part hpart
    exact (hclauses part hpart).2.mp (h part hpart)
  · intro h part hpart
    exact (hclauses part hpart).2.mpr (h part hpart)

end Part

/-- A spatial filter is asked for. -/
theorem BoolQuery.matches_ofGeo (geo : Option GeoFilter) :
    (ofGeo geo).should = [] ∧
      ((ofGeo geo).Matches sat ↔
        ∀ filter, geo = some filter → (Fragment.ofGeo filter).Matches sat) := by
  cases geo with
  | none => exact ⟨rfl, fun _ _ h => (nomatch h), fun _ => matches_empty⟩
  | some filter =>
    rw [ofGeo, matches_add (.inr rfl)]
    refine ⟨should_add (by decide) _, ?_⟩
    constructor
    · intro h _ h
      cases h
      exact h
    · exact fun h => h filter rfl

/-! ## Main result -/

namespace Conditions

/-- **What a compiled list matches.** Take a list that compiles, with predicates in the clauses
they were made with, none of them optional, and read it as parts, with no chain marker outside
all groups and no OR group. Whatever documents the leaves match, the query matches those of
which all predicates outside groups and of groups without chain marker hold, one predicate of
each other group with predicates, and the spatial filter. -/
theorem matches_of_compile {Document : Type} (matching : Leaf → Document → Prop)
    {conditions : Conditions} {geo : Option GeoFilter} {query : BoolQuery}
    (h : conditions.compile geo = .ok query)
    (hplain : ∀ p ∈ conditions.predicates, p.clause = p.givenClause ∧ p.clause ≠ .should) :
    (∃ parts, conditions = Part.flatten parts) ∧
      ∀ parts, conditions = Part.flatten parts → .simple .chain ∉ parts →
        (∀ body, .group .any body ∉ parts) →
        ∀ d : Document, query.Matches (matching · d) ↔
          (∀ e, .simple e ∈ parts → ∀ p ∈ e.predicates, p.Holds (matching · d)) ∧
            (∀ body, .group .all body ∈ parts → .chain ∉ body →
              ∀ p ∈ body.flatMap SimpleEntry.predicates, p.Holds (matching · d)) ∧
            (∀ body, .group .all body ∈ parts → .chain ∈ body →
              body.flatMap SimpleEntry.predicates ≠ [] →
                ∃ p ∈ body.flatMap SimpleEntry.predicates, p.Holds (matching · d)) ∧
            ∀ filter, geo = some filter → (Fragment.ofGeo filter).Matches (matching · d) := by
  refine ⟨exists_parts_of_compile h, ?_⟩
  intro parts hlist hchain hany d
  subst hlist
  obtain ⟨hrender, rfl⟩ := compile_flatten_eq_ok_iff.mp h
  rw [predicates_flatten] at hplain
  have hparts : ∀ part ∈ parts, ∀ p ∈ part.predicates, p.IsPlain := fun part hpart p hp =>
    hplain p (List.mem_flatMap.mpr ⟨part, hpart, hp⟩)
  obtain ⟨hshould, hquery⟩ := @Part.matches_query (matching · d) parts hchain hany hparts hrender
  obtain ⟨hgeo, hfilter⟩ := @BoolQuery.matches_ofGeo (matching · d) geo
  rw [BoolQuery.matches_append hshould hgeo, hquery, hfilter, Part.forall_holds_iff hany, and_assoc,
    and_assoc]

/-- A condition, a group of two alternatives and a spatial filter, over documents that list the
fields they match. -/
theorem matches_of_compile_alternatives :
    ∃ query, compile (build [.compare .eq "name" (.string "Ada"),
        .group .all [.compare .filter "city" (.string "Rome"), .orChain,
          .compare .mustNot "status" (.string "closed")]])
        (some (.make "place" (.polygon []))) = .ok query ∧
      ∀ d : List String, query.Matches (fun leaf => leaf.field ∈ d) ↔
        "name" ∈ d ∧ ("city" ∈ d ∨ "status" ∉ d) ∧ "place" ∈ d := by
  refine ⟨_, rfl, fun d => ?_⟩
  have hname : (Predicate.make "name" .exact .must (.single (.string "Ada"))).Holds
      (fun leaf => leaf.field ∈ d) ↔ "name" ∈ d := Predicate.holds_iff rfl
  have hcity : (Predicate.make "city" .exact .filter (.single (.string "Rome"))).Holds
      (fun leaf => leaf.field ∈ d) ↔ "city" ∈ d := Predicate.holds_iff rfl
  have hstatus : (Predicate.make "status" .fullText .mustNot (.single (.string "closed"))).Holds
      (fun leaf => leaf.field ∈ d) ↔ "status" ∉ d := Predicate.holds_iff rfl
  have hplace : (Fragment.ofGeo (.make "place" (.polygon []))).Matches
      (fun leaf => leaf.field ∈ d) ↔ "place" ∈ d := Iff.rfl
  refine ((@matches_of_compile (List String) (fun leaf d => leaf.field ∈ d) _
    (some (.make "place" (.polygon []))) _ rfl (by decide)).2
    [.simple (.batch [.make "name" .exact .must (.single (.string "Ada"))]),
      .group .all [.batch [.make "city" .exact .filter (.single (.string "Rome"))], .chain,
        .batch [.make "status" .fullText .mustNot (.single (.string "closed"))]]] rfl
    (by decide) (by simp) d).trans ?_
  simp [SimpleEntry.predicates, hname, hcity, hstatus, hplace]

end Conditions
end SearchMapper
