import SearchMapper.Proofs.Conditions.Meaning

/-!
# The normal form of compiled lists

What a list compiles to is an outer query, groups in it, and negations of single tests. Groups
stand under must and should of the outer query and are never empty; negations stand under should
and nowhere else, since a negation that would go to must, filter or must_not becomes a test under
must_not. No predicate is lost on the way: `isNormal_of_compile` also counts the clauses.
-/

namespace SearchMapper

/-! ## Normal form -/

namespace Fragment

/-- A clause of a group: a test of a field, or under should the negation of one. -/
inductive SuitsGroup : Occur → Fragment → Prop
  | leaf (slot : Occur) (l : Leaf) : SuitsGroup slot (.leaf l)
  | not (l : Leaf) : SuitsGroup .should (.not (.leaf l))

/-- A clause of an outer query: one as in a group, or under must or should a group, which has
clauses. -/
inductive SuitsQuery : Occur → Fragment → Prop
  | clause {slot : Occur} {fragment : Fragment} (h : SuitsGroup slot fragment) :
      SuitsQuery slot fragment
  | group (kind : GroupKind) {query : BoolQuery} (hclauses : query.isEmpty = false)
      (h : query.Forall SuitsGroup) : SuitsQuery kind.occur (.bool query)

mutual
/-- How many negations and boolean queries stand inside one another in a fragment. -/
def depth : Fragment → Nat
  | .leaf _ => 0
  | .not inner => inner.depth + 1
  | .bool ⟨must, filter, should, mustNot⟩ =>
    max (max (greatestDepth must) (greatestDepth filter))
      (max (greatestDepth should) (greatestDepth mustNot)) + 1

/-- The depth of the deepest fragment of a list. -/
def greatestDepth : List Fragment → Nat
  | [] => 0
  | fragment :: rest => max fragment.depth (greatestDepth rest)
end

theorem greatestDepth_le_iff {fragments : List Fragment} {n : Nat} :
    greatestDepth fragments ≤ n ↔ ∀ fragment ∈ fragments, fragment.depth ≤ n := by
  induction fragments with
  | nil => exact ⟨fun _ _ h => (nomatch h), fun _ => Nat.zero_le n⟩
  | cons fragment rest ih => rw [greatestDepth, Nat.max_le, ih, List.forall_mem_cons]

/-- A boolean query is one deeper than its clauses at most. -/
theorem depth_bool_le {query : BoolQuery} {n : Nat}
    (h : query.Forall fun _ fragment => fragment.depth ≤ n) : (bool query).depth ≤ n + 1 := by
  have hslot := fun slot => greatestDepth_le_iff.mpr (h slot)
  obtain ⟨must, filter, should, mustNot⟩ := query
  rw [depth, Nat.add_le_add_iff_right, Nat.max_le, Nat.max_le, Nat.max_le]
  exact ⟨⟨hslot .must, hslot .filter⟩, hslot .should, hslot .mustNot⟩

theorem SuitsGroup.depth_le {slot : Occur} {fragment : Fragment} (h : SuitsGroup slot fragment) :
    fragment.depth ≤ 1 := by
  cases h with
  | leaf => exact Nat.zero_le 1
  | not => exact Nat.le_refl 1

theorem SuitsQuery.depth_le {slot : Occur} {fragment : Fragment} (h : SuitsQuery slot fragment) :
    fragment.depth ≤ 2 := by
  cases h with
  | clause h => exact Nat.le_succ_of_le h.depth_le
  | group _ _ h => exact depth_bool_le fun slot clause hmem => (h slot clause hmem).depth_le

/-- The boolean query of a fragment that is one. -/
def group? : Fragment → Option BoolQuery
  | .bool query => some query
  | _ => none

end Fragment

namespace BoolQuery

/-- The query holds tests, negations of tests under should, and groups of these under must and
should, none of them empty. -/
def IsNormal (query : BoolQuery) : Prop := query.Forall Fragment.SuitsQuery

/-- A query in normal form goes no deeper than a negation in a group. -/
theorem IsNormal.depth_le {query : BoolQuery} (h : query.IsNormal) :
    (Fragment.bool query).depth ≤ 3 :=
  Fragment.depth_bool_le fun slot clause hmem => (h slot clause hmem).depth_le

/-- The groups that stand under a slot, in order. -/
def groups (query : BoolQuery) (slot : Occur) : List BoolQuery :=
  (query.get slot).filterMap Fragment.group?

theorem groups_append (first second : BoolQuery) (slot : Occur) :
    groups (first ++ second) slot = first.groups slot ++ second.groups slot := by
  unfold groups
  rw [Slots.get_append, List.filterMap_append]

/-- There are no groups inside a group. -/
theorem groups_eq_nil {query : BoolQuery} (h : query.Forall Fragment.SuitsGroup) (slot : Occur) :
    query.groups slot = [] := by
  unfold groups
  rw [List.filterMap_eq_nil_iff]
  intro fragment hmem
  cases h slot fragment hmem with
  | leaf => rfl
  | not => rfl

/-- A group goes to the slot that it is attached to. -/
theorem add_bool (query : BoolQuery) (slot : Occur) (inner : BoolQuery) :
    query.add slot (.bool inner) = query.push (.bool inner) slot := by
  cases slot <;> rfl

theorem groups_add_bool (slot other : Occur) (inner : BoolQuery) :
    (add {} slot (.bool inner)).groups other = if other = slot then [inner] else [] := by
  unfold groups
  rw [add_bool, Slots.get_push, Slots.get_empty]
  split <;> rfl

end BoolQuery

/-! ## Predicates -/

namespace Predicate

variable {p : Predicate} {fragment : Fragment}

/-- A predicate that goes to must_not is not rendered as a negation. -/
theorem rendersNegated_of_occur (h : p.occur = .mustNot) : p.rendersNegated = false := by
  -- only the clause must_not goes there, and it is never replaced by another one
  have hclause : p.clause = .mustNot := by
    unfold occur at h
    split at h
    · cases h
    · cases h
    · assumption
    · cases h
  have hstays : p.isReclassified = false := by
    unfold isReclassified
    rw [hclause]
    rfl
  unfold rendersNegated effectiveClause
  rw [hstays, hclause]
  rfl

/-- The clause that a predicate makes suits a group, whatever clause it was made with. -/
theorem forall_clauses (p : Predicate) : p.clauses.Forall Fragment.SuitsGroup := by
  unfold clauses
  split
  · next fragment hrender =>
    obtain ⟨test, -, rfl⟩ := exists_test_of_render hrender
    have hleaf : ∀ slot, Fragment.SuitsGroup slot (.leaf (p.leaf test)) := fun slot => .leaf slot _
    split
    · next hnegated =>
      -- under must and filter the negation sign is taken off, so the test goes to must_not
      cases hoccur : p.occur with
      | must | filter => exact Slots.forall_empty.push (hleaf .mustNot)
      | should => exact Slots.forall_empty.push (.not _)
      | mustNot =>
        rw [rendersNegated_of_occur hoccur] at hnegated
        cases hnegated
    · cases hoccur : p.occur with
      | must | filter | should | mustNot => exact Slots.forall_empty.push (hleaf _)
  · exact Slots.forall_empty

/-- A disjunctive predicate makes should clauses only. -/
theorem clauses_placed_true (p : Predicate) :
    (p.placed true).clauses = { should := (p.placed true).clauses.should } := by
  have hoccur : (p.placed true).occur = .should := rfl
  unfold clauses
  split
  · rw [hoccur, BoolQuery.should_add_should]
  · rfl

theorem clauseCount_clauses (h : p.render = .ok fragment) : p.clauses.clauseCount = 1 := by
  rw [clauses_of_render h, BoolQuery.clauseCount_add, Slots.clauseCount_empty]

end Predicate

/-! ## Predicates in a row -/

namespace BoolQuery

/-- The clauses of predicates suit a group. -/
theorem forall_ofPredicates (disjunctive : Bool) (predicates : List Predicate) :
    (ofPredicates disjunctive predicates).Forall Fragment.SuitsGroup := by
  induction predicates with
  | nil => exact Slots.forall_empty
  | cons p rest ih =>
    rw [ofPredicates_cons, Slots.forall_append]
    exact ⟨(p.placed disjunctive).forall_clauses, ih⟩

/-- Disjunctive predicates make should clauses only. -/
theorem ofPredicates_true (predicates : List Predicate) :
    ofPredicates true predicates = { should := (ofPredicates true predicates).should } := by
  induction predicates with
  | nil => rfl
  | cons p rest ih =>
    rw [ofPredicates_cons, p.clauses_placed_true, ih]
    rfl

/-- Predicates that can be rendered make one clause each. -/
theorem clauseCount_ofPredicates {disjunctive : Bool} {predicates : List Predicate}
    (h : AllRender disjunctive predicates) :
    (ofPredicates disjunctive predicates).clauseCount = predicates.length := by
  induction predicates with
  | nil => rfl
  | cons p rest ih =>
    rw [AllRender.cons_iff] at h
    obtain ⟨⟨fragment, hp⟩, hrest⟩ := h
    rw [ofPredicates_cons, Slots.clauseCount_append, Predicate.clauseCount_clauses hp, ih hrest,
      List.length_cons, Nat.add_comm]

theorem forall_ofGeo (geo : Option GeoFilter) : (ofGeo geo).Forall Fragment.SuitsGroup := by
  cases geo with
  | none => exact Slots.forall_empty
  | some filter => exact Slots.forall_empty.push (.leaf .filter _)

theorem clauseCount_ofGeo (geo : Option GeoFilter) :
    (ofGeo geo).clauseCount = geo.toList.length := by
  cases geo <;> rfl

/-- What suits a group suits an outer query. -/
theorem isNormal_of_forall {query : BoolQuery} (h : query.Forall Fragment.SuitsGroup) :
    query.IsNormal := fun slot clause hmem => .clause (h slot clause hmem)

end BoolQuery

/-! ## Parts -/

namespace Part

/-- The predicates of a part that stand outside groups. -/
def outside : Part → List Predicate
  | simple e => e.predicates
  | group _ _ => []

/-- The part is a group of the kind, with predicates in it. -/
def fills (kind : GroupKind) : Part → Bool
  | simple _ => false
  | group own body => own == kind && !(body.flatMap SimpleEntry.predicates).isEmpty

variable {chained : Bool} {part : Part}

/-- The query of the predicates of a group. -/
def inner (chained : Bool) (part : Part) : BoolQuery :=
  BoolQuery.ofPredicates (chained || part.holdsChain) part.predicates

/-- Disjunctive predicates make a group of should clauses. -/
theorem inner_of_disjunctive {kind : GroupKind} {body : List SimpleEntry}
    (h : chained = true ∨ .chain ∈ body) :
    ((group kind body).inner chained).must = [] ∧ ((group kind body).inner chained).filter = [] ∧
      ((group kind body).inner chained).mustNot = [] := by
  have hdisjunctive : (chained || (group kind body).holdsChain) = true := by
    rw [holdsChain, Bool.or_eq_true, List.contains_iff_mem]
    exact h
  unfold inner
  rw [hdisjunctive, BoolQuery.ofPredicates_true]
  exact ⟨rfl, rfl, rfl⟩

/-- The clauses of a part suit an outer query. A group has clauses, since it has predicates and
all of them can be rendered. -/
theorem isNormal_clauses (hrender : part.Renders chained) : (part.clauses chained).IsNormal := by
  cases part with
  | simple e => exact BoolQuery.isNormal_of_forall (BoolQuery.forall_ofPredicates chained _)
  | group kind body =>
    rw [clauses_group]
    split
    · -- a group without predicates leaves nothing behind
      exact Slots.forall_empty
    · next hfilled =>
      have hclauses : ((group kind body).inner chained).isEmpty = false := by
        unfold inner
        rw [BoolQuery.isEmpty_ofPredicates hrender]
        exact Bool.eq_false_iff.mpr hfilled
      rw [BoolQuery.add_bool]
      exact Slots.forall_empty.push (.group kind hclauses (BoolQuery.forall_ofPredicates _ _))

/-- A part makes a group under the slot of its kind if it fills one, and no other. -/
theorem groups_clauses (kind : GroupKind) (part : Part) :
    (part.clauses chained).groups kind.occur =
      if part.fills kind then [part.inner chained] else [] := by
  cases part with
  | simple e => exact BoolQuery.groups_eq_nil (BoolQuery.forall_ofPredicates chained _) _
  | group own body =>
    have hslot : kind.occur = own.occur ↔ (own == kind) = true := by
      cases kind <;> cases own <;> decide
    rw [clauses_group, fills]
    by_cases hempty : (body.flatMap SimpleEntry.predicates).isEmpty = true
    · rw [if_pos hempty, hempty, Bool.not_true, Bool.and_false]
      exact BoolQuery.groups_eq_nil Slots.forall_empty _
    · rw [if_neg hempty, BoolQuery.groups_add_bool, Bool.eq_false_iff.mpr hempty, Bool.not_false,
        Bool.and_true]
      simp only [hslot]
      rfl

/-- The clauses of a part are its predicates outside groups, and one for a group that it
fills. -/
theorem clauseCount_clauses (hrender : part.Renders chained) :
    (part.clauses chained).clauseCount =
      part.outside.length + (if part.fills .all then 1 else 0) +
        (if part.fills .any then 1 else 0) := by
  cases part with
  | simple e =>
    rw [Renders, holdsChain, Bool.or_false] at hrender
    exact BoolQuery.clauseCount_ofPredicates hrender
  | group kind body =>
    rw [clauses_group, fills, fills, outside]
    by_cases hempty : (body.flatMap SimpleEntry.predicates).isEmpty = true
    · rw [if_pos hempty, hempty, Bool.not_true, Bool.and_false, Bool.and_false]
      rfl
    · rw [if_neg hempty, BoolQuery.clauseCount_add, Bool.eq_false_iff.mpr hempty]
      cases kind <;> rfl

/-! ## Lists of parts -/

variable {parts : List Part}

theorem isNormal_query (hrender : AllRenderFrom chained parts) :
    (query chained parts).IsNormal := by
  induction parts generalizing chained with
  | nil => exact Slots.forall_empty
  | cons part rest ih =>
    rw [allRenderFrom_cons] at hrender
    rw [query_cons]
    exact Slots.forall_append.mpr ⟨isNormal_clauses hrender.1, ih hrender.2⟩

/-- The clauses of a list are its predicates outside groups, and one for each group with
predicates. -/
theorem clauseCount_query (hrender : AllRenderFrom chained parts) :
    (query chained parts).clauseCount =
      (parts.flatMap outside).length + parts.countP (fills .all) + parts.countP (fills .any) := by
  induction parts generalizing chained with
  | nil => rfl
  | cons part rest ih =>
    rw [allRenderFrom_cons] at hrender
    rw [query_cons, Slots.clauseCount_append, clauseCount_clauses hrender.1, ih hrender.2,
      List.flatMap_cons, List.length_append, List.countP_cons, List.countP_cons]
    omega

theorem length_groups_query (kind : GroupKind) :
    ((query chained parts).groups kind.occur).length = parts.countP (fills kind) := by
  induction parts generalizing chained with
  | nil => cases kind <;> rfl
  | cons part rest ih =>
    rw [query_cons, BoolQuery.groups_append, List.length_append, groups_clauses, ih,
      List.countP_cons, Nat.add_comm]
    split <;> rfl

/-- A group with predicates is found behind those of the groups of its kind before it. -/
theorem getElem?_groups_query {kind : GroupKind} {i : Nat} {part : Part}
    (hpart : parts[i]? = some part) (hfills : part.fills kind = true) :
    ((query chained parts).groups kind.occur)[(parts.take i).countP (fills kind)]? =
      some (part.inner (chained || chainBefore parts i)) := by
  induction parts generalizing chained i with
  | nil => cases hpart
  | cons first rest ih =>
    rw [query_cons, BoolQuery.groups_append, groups_clauses]
    cases i with
    | zero =>
      cases hpart
      have hnone : chainBefore (part :: rest) 0 = false := rfl
      rw [if_pos hfills, hnone, Bool.or_false]
      rfl
    | succ i =>
      -- behind a chain marker the rest is disjunctive
      have hrest := @ih (chained || (first == .simple .chain)) i hpart
      rw [chainBefore_cons_succ, ← Bool.or_assoc, List.take_succ_cons, List.countP_cons]
      split
      · rw [List.singleton_append, List.getElem?_cons_succ]
        exact hrest
      · exact hrest

end Part

/-! ## Main result -/

namespace Conditions

/-- **Normal form.** A list that compiles makes an outer query of tests, negations of tests under
should, and groups of these under must and should, none of them empty and nothing deeper. Read as
parts, it has a clause for each predicate outside groups, for each group with predicates, and for
the spatial filter. The groups stand in the order of the list, AND groups under must and OR groups
under should, and one that has a chain marker in it or a chain marker outside all groups before it
has should clauses only. -/
theorem isNormal_of_compile {conditions : Conditions} {geo : Option GeoFilter} {query : BoolQuery}
    (h : conditions.compile geo = .ok query) :
    query.IsNormal ∧ (Fragment.bool query).depth ≤ 3 ∧
      (∃ parts, conditions = Part.flatten parts) ∧
      ∀ parts, conditions = Part.flatten parts →
        query.clauseCount = (parts.flatMap Part.outside).length + parts.countP (Part.fills .all) +
            parts.countP (Part.fills .any) + geo.toList.length ∧
          ∀ kind : GroupKind,
            (query.groups kind.occur).length = parts.countP (Part.fills kind) ∧
              ∀ (i : Nat) (body : List SimpleEntry), parts[i]? = some (.group kind body) →
                body.flatMap SimpleEntry.predicates ≠ [] →
                  ∃ inner,
                    (query.groups kind.occur)[(parts.take i).countP (Part.fills kind)]? =
                        some inner ∧
                      (Part.chainBefore parts i = true ∨ .chain ∈ body →
                        inner.must = [] ∧ inner.filter = [] ∧ inner.mustNot = []) := by
  have hnormal : query.IsNormal := by
    obtain ⟨parts, rfl⟩ := exists_parts_of_compile h
    obtain ⟨hrender, rfl⟩ := compile_flatten_eq_ok_iff.mp h
    exact Slots.forall_append.mpr
      ⟨Part.isNormal_query hrender, BoolQuery.isNormal_of_forall (BoolQuery.forall_ofGeo geo)⟩
  refine ⟨hnormal, hnormal.depth_le, exists_parts_of_compile h, ?_⟩
  rintro parts rfl
  obtain ⟨hrender, rfl⟩ := compile_flatten_eq_ok_iff.mp h
  -- the spatial filter stands behind the parts, and is no group
  have hgroups : ∀ slot, (Part.query false parts ++ BoolQuery.ofGeo geo).groups slot =
      (Part.query false parts).groups slot := by
    intro slot
    rw [BoolQuery.groups_append, BoolQuery.groups_eq_nil (BoolQuery.forall_ofGeo geo),
      List.append_nil]
  refine ⟨?_, fun kind => ⟨?_, ?_⟩⟩
  · rw [Slots.clauseCount_append, Part.clauseCount_query hrender, BoolQuery.clauseCount_ofGeo]
  · rw [hgroups, Part.length_groups_query]
  · intro i body hbody hpredicates
    have hfills : (Part.group kind body).fills kind = true := by
      rw [Part.fills, beq_self_eq_true, Bool.true_and, Bool.not_eq_true', List.isEmpty_eq_false_iff]
      exact hpredicates
    have hfound := @Part.getElem?_groups_query false parts kind i _ hbody hfills
    rw [Bool.false_or] at hfound
    rw [hgroups]
    exact ⟨_, hfound, Part.inner_of_disjunctive⟩

/-- A list as it may be read from its written form: predicates with another clause than the one
they were made with, an OR group, a group without predicates, and an AND group behind a chain
marker. -/
def decodedConditions : Conditions :=
  [.batch [⟨"age", .terms, .mustNot, .notAmong, .many [.string "30"], none⟩],
    .marker .orOpen, .batch [⟨"city", .terms, .should, .notAmong, .many [.string "Rome"], none⟩],
    .marker .orClose, .marker .andOpen, .marker .andClose, .marker .orChain,
    .marker .andOpen, .batch [⟨"name", .exact, .filter, .mustNot, .single (.string "Ada"), none⟩],
    .marker .andClose]

/-- In this list the negations stay under should, and the filter behind the chain marker, which
was made under must_not, is a negation under should too. -/
theorem isNormal_of_compile_decoded :
    ∃ query, compile decodedConditions (some (.make "place" (.polygon []))) = .ok query ∧
      query.IsNormal ∧ (Fragment.bool query).depth ≤ 3 ∧ query.clauseCount = 4 ∧
      query.groups .must =
        [{ should := [.not (.leaf ⟨"name", .term (.string "Ada"), none⟩)] }] ∧
      ∃ inner, (query.groups .must)[0]? = some inner ∧
        inner.must = [] ∧ inner.filter = [] ∧ inner.mustNot = [] := by
  refine ⟨_, rfl, ?_⟩
  have hcompiled := @isNormal_of_compile decodedConditions
    (some (.make "place" (.polygon []))) _ rfl
  obtain ⟨hnormal, hdepth, hread⟩ := hcompiled
  have hparts := hread.2
    [.simple (.batch [⟨"age", .terms, .mustNot, .notAmong, .many [.string "30"], none⟩]),
      .group .any [.batch [⟨"city", .terms, .should, .notAmong, .many [.string "Rome"], none⟩]],
      .group .all [], .simple .chain,
      .group .all [.batch [⟨"name", .exact, .filter, .mustNot, .single (.string "Ada"), none⟩]]] rfl
  have hgroup := (hparts.2 .all).2 4 _ rfl (List.cons_ne_nil _ _)
  obtain ⟨inner, hinner, honly⟩ := hgroup
  exact ⟨hnormal, hdepth, hparts.1, rfl, inner, hinner, honly (.inl rfl)⟩

end Conditions
end SearchMapper
