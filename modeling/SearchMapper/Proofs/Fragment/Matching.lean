import SearchMapper.Proofs.Fragment.Slots

/-!
# Matching

Which documents a fragment matches, given which of its leaves do. A boolean query asks for all
clauses under must and filter and for none under must_not. Its clauses under should are optional
next to must or filter clauses; without any of those one of them has to match.
-/

namespace SearchMapper

mutual
/-- The fragment matches, where `sat` tells which leaves do. -/
def Fragment.Matches (sat : Leaf → Prop) : Fragment → Prop
  | .leaf l => sat l
  | .not inner => ¬ inner.Matches sat
  | .bool ⟨must, filter, should, mustNot⟩ =>
    Fragment.AllMatch sat must ∧ Fragment.AllMatch sat filter ∧ ¬ Fragment.AnyMatches sat mustNot ∧
      (should ≠ [] → must = [] → filter = [] → Fragment.AnyMatches sat should)

/-- All fragments of a list match. -/
def Fragment.AllMatch (sat : Leaf → Prop) : List Fragment → Prop
  | [] => True
  | fragment :: rest => fragment.Matches sat ∧ Fragment.AllMatch sat rest

/-- Some fragment of a list matches. -/
def Fragment.AnyMatches (sat : Leaf → Prop) : List Fragment → Prop
  | [] => False
  | fragment :: rest => fragment.Matches sat ∨ Fragment.AnyMatches sat rest
end

/-- The boolean query matches. -/
def BoolQuery.Matches (sat : Leaf → Prop) (query : BoolQuery) : Prop :=
  (Fragment.bool query).Matches sat

variable {sat : Leaf → Prop}

namespace Fragment

theorem allMatch_iff {fragments : List Fragment} :
    AllMatch sat fragments ↔ ∀ fragment ∈ fragments, fragment.Matches sat := by
  induction fragments with
  | nil => exact ⟨fun _ _ h => (nomatch h), fun _ => trivial⟩
  | cons fragment rest ih => rw [AllMatch, ih, List.forall_mem_cons]

theorem anyMatches_iff {fragments : List Fragment} :
    AnyMatches sat fragments ↔ ∃ fragment ∈ fragments, fragment.Matches sat := by
  induction fragments with
  | nil => exact ⟨fun h => h.elim, fun ⟨_, h, _⟩ => nomatch h⟩
  | cons fragment rest ih =>
    rw [AnyMatches, ih]
    simp only [List.mem_cons, exists_eq_or_imp]

end Fragment

namespace BoolQuery

theorem matches_bool {query : BoolQuery} :
    (Fragment.bool query).Matches sat ↔ query.Matches sat := Iff.rfl

/-- What a boolean query asks of its slots. -/
theorem matches_iff {query : BoolQuery} :
    query.Matches sat ↔
      (∀ fragment ∈ query.must, fragment.Matches sat) ∧
        (∀ fragment ∈ query.filter, fragment.Matches sat) ∧
        (∀ fragment ∈ query.mustNot, ¬ fragment.Matches sat) ∧
        (query.should ≠ [] → query.must = [] → query.filter = [] →
          ∃ fragment ∈ query.should, fragment.Matches sat) := by
  obtain ⟨must, filter, should, mustNot⟩ := query
  rw [Matches, Fragment.Matches, Fragment.allMatch_iff, Fragment.allMatch_iff,
    Fragment.anyMatches_iff, Fragment.anyMatches_iff]
  simp only [not_exists, not_and]

/-- A query without should clauses asks for each of its clauses alone. -/
theorem matches_iff_of_should_eq_nil {query : BoolQuery} (h : query.should = []) :
    query.Matches sat ↔
      (∀ fragment ∈ query.must, fragment.Matches sat) ∧
        (∀ fragment ∈ query.filter, fragment.Matches sat) ∧
        ∀ fragment ∈ query.mustNot, ¬ fragment.Matches sat := by
  rw [matches_iff]
  constructor
  · intro hmatches
    obtain ⟨hmust, hfilter, hnot, -⟩ := hmatches
    exact ⟨hmust, hfilter, hnot⟩
  · intro hslots
    obtain ⟨hmust, hfilter, hnot⟩ := hslots
    exact ⟨hmust, hfilter, hnot, fun hne => absurd h hne⟩

/-- Every document matches the query without clauses. -/
theorem matches_empty : BoolQuery.Matches sat {} := by
  rw [matches_iff_of_should_eq_nil rfl]
  exact ⟨fun _ h => (nomatch h), fun _ h => (nomatch h), fun _ h => (nomatch h)⟩

/-- Without should clauses, what two queries ask in a row is what each of them asks. -/
theorem matches_append {first second : BoolQuery} (hfirst : first.should = [])
    (hsecond : second.should = []) :
    BoolQuery.Matches sat (first ++ second) ↔ first.Matches sat ∧ second.Matches sat := by
  have hboth : (first ++ second).should = [] := by
    rw [Slots.should_append, hfirst, hsecond, List.append_nil]
  rw [matches_iff_of_should_eq_nil hboth, matches_iff_of_should_eq_nil hfirst,
    matches_iff_of_should_eq_nil hsecond, Slots.must_append, Slots.filter_append,
    Slots.mustNot_append, List.forall_mem_append, List.forall_mem_append, List.forall_mem_append]
  constructor
  · intro h
    obtain ⟨⟨hm, hm'⟩, ⟨hf, hf'⟩, hn, hn'⟩ := h
    exact ⟨⟨hm, hf, hn⟩, hm', hf', hn'⟩
  · intro h
    obtain ⟨⟨hm, hf, hn⟩, hm', hf', hn'⟩ := h
    exact ⟨⟨hm, hm'⟩, ⟨hf, hf'⟩, hn, hn'⟩

/-- A row of queries without should clauses has none. -/
theorem should_concat {queries : List BoolQuery} (h : ∀ query ∈ queries, query.should = []) :
    (Slots.concat queries).should = [] := by
  induction queries with
  | nil => rfl
  | cons query rest ih =>
    rw [List.forall_mem_cons] at h
    rw [Slots.concat_cons, Slots.should_append, h.1, ih h.2, List.append_nil]

/-- Without should clauses, what a row of queries asks is what each of them asks. -/
theorem matches_concat {queries : List BoolQuery} (h : ∀ query ∈ queries, query.should = []) :
    BoolQuery.Matches sat (Slots.concat queries) ↔ ∀ query ∈ queries, query.Matches sat := by
  induction queries with
  | nil => exact ⟨fun _ _ hmem => (nomatch hmem), fun _ => matches_empty⟩
  | cons query rest ih =>
    rw [List.forall_mem_cons] at h
    rw [Slots.concat_cons, matches_append h.1 (should_concat h.2), ih h.2, List.forall_mem_cons]

/-- A query of should clauses only asks for one of them, if there are any. -/
theorem matches_of_should {fragments : List Fragment} :
    BoolQuery.Matches sat { should := fragments } ↔
      (fragments ≠ [] → ∃ fragment ∈ fragments, fragment.Matches sat) := by
  rw [matches_iff]
  constructor
  · intro h hne
    obtain ⟨-, -, -, h⟩ := h
    exact h hne rfl rfl
  · intro h
    exact ⟨fun _ h => (nomatch h), fun _ h => (nomatch h), fun _ h => (nomatch h),
      fun hne _ _ => h hne⟩

/-- Only under should does a fragment become a should clause. -/
theorem should_add {occur : Occur} (h : occur ≠ .should) (fragment : Fragment) :
    (add {} occur fragment).should = [] := by
  cases occur with
  | should => exact absurd rfl h
  | must | filter | mustNot => cases fragment <;> rfl

theorem should_add_should (fragment : Fragment) :
    add {} .should fragment = { should := [fragment] } := by
  cases fragment <;> rfl

/-- A fragment attached to must or filter is asked for, a negation in spite of its move. -/
theorem matches_add {occur : Occur} (h : occur = .must ∨ occur = .filter) (fragment : Fragment) :
    BoolQuery.Matches sat (add {} occur fragment) ↔ fragment.Matches sat := by
  have hshould : (add {} occur fragment).should = [] :=
    should_add (by rcases h with rfl | rfl <;> decide) fragment
  rw [matches_iff_of_should_eq_nil hshould]
  rcases h with rfl | rfl <;> cases fragment <;> simp [add, Slots.push, Fragment.Matches]

/-- A fragment attached to must_not is asked not to match. -/
theorem matches_add_mustNot (fragment : Fragment) :
    BoolQuery.Matches sat (add {} .mustNot fragment) ↔ ¬ fragment.Matches sat := by
  have hshould : (add {} .mustNot fragment).should = [] := should_add (by decide) fragment
  rw [matches_iff_of_should_eq_nil hshould]
  cases fragment <;> simp [add, Slots.push, Fragment.Matches]

end BoolQuery
end SearchMapper
