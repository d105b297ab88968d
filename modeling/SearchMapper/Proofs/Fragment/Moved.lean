import SearchMapper.Proofs.Fragment.Accepted
import SearchMapper.Proofs.Fragment.Matching

/-!
# Predicates moved into a disjunction

A chain marker takes a predicate out of its slot and makes it one alternative among others. Two
things negate what a predicate asks, its clause and the slot for what must not be; the move takes
the second away, and rendering puts it back into the fragment. So the alternative is the condition
that the predicate stood for before: `Predicate.reclassify_keeps_condition`.
-/

namespace SearchMapper
namespace Predicate

variable {p : Predicate}

/-! ## What the move leaves alone -/

/-- The check of the operand looks at the clause that the predicate was made with. -/
theorem validate_reclassify (p : Predicate) : p.reclassify.validate = p.validate := rfl

theorem reclassify_reclassify (p : Predicate) : p.reclassify.reclassify = p.reclassify := rfl

theorem occur_reclassify (p : Predicate) : p.reclassify.occur = .should := rfl

/-- A predicate in its own clause has not been moved, one made for should included. -/
theorem isReclassified_eq_false (h : p.clause = p.givenClause) : p.isReclassified = false := by
  unfold isReclassified
  rw [h]
  cases p.givenClause <;> rfl

theorem clauseTest_reclassify (h : p.clause = p.givenClause) :
    p.reclassify.clauseTest = p.clauseTest := by
  have hown : p.effectiveClause = p.givenClause := effectiveClause_eq_givenClause (.inl h)
  have hmoved : p.reclassify.effectiveClause = p.givenClause :=
    effectiveClause_eq_givenClause (.inr rfl)
  unfold clauseTest
  rw [hown, hmoved]
  rfl

/-- What a predicate asks hangs on the clause that it was made with. -/
theorem asks_of_reclassify {test : FieldTest} (h : p.reclassify.Asks test) : p.Asks test := by
  cases h with
  | value hasks hoperand => exact .value hasks hoperand
  | bounds hclause hoperand => exact .bounds hclause hoperand
  | terms hclause hne hoperand => exact .terms hclause hne hoperand
  | present hclause hoperand => exact .present hclause hoperand
  | slot hclause htest =>
    refine .slot hclause ?_
    cases htest with
    | value hasks hoperand => exact .value hasks hoperand
    | terms hoperator hne hoperand => exact .terms hoperator hne hoperand
    | present hoperator hoperand => exact .present hoperator hoperand

/-! ## What becomes of negations -/

/-- In its own clause a predicate is rendered negated only if the clause is a negated one. -/
theorem rendersNegated_eq_isNegated (h : p.clause = p.givenClause) :
    p.rendersNegated = p.givenClause.isNegated := by
  rw [rendersNegated, effectiveClause_eq_givenClause (.inl h), isReclassified_eq_false h,
    Bool.and_false, Bool.or_false]

/-- Once moved, a predicate that stood under must_not is rendered negated too. -/
theorem rendersNegated_reclassify (p : Predicate) :
    p.reclassify.rendersNegated = (p.givenClause.isNegated || p.givenClause == .mustNot) := by
  have hmoved : p.reclassify.effectiveClause = p.givenClause :=
    effectiveClause_eq_givenClause (.inr rfl)
  have hslot : p.reclassify.isReclassified = (p.givenClause != .should) := rfl
  rw [rendersNegated, hmoved, hslot]
  cases p.givenClause <;> rfl

/-- The fragment of a predicate after the move, from the one before it. -/
def afterMove (p : Predicate) (fragment : Fragment) : Fragment :=
  if p.givenClause = .mustNot then .not fragment else fragment

/-- The move changes nothing about a predicate that cannot be rendered, and of its fragment only the
negation that the slot stood for. -/
theorem render_reclassify (h : p.clause = p.givenClause) :
    p.reclassify.render = p.render.map p.afterMove := by
  unfold render
  rw [validate_reclassify, clauseTest_reclassify h, rendersNegated_reclassify,
    rendersNegated_eq_isNegated h]
  cases p.validate with
  | error fault => rfl
  | ok _ =>
    cases p.clauseTest with
    | error fault => rfl
    | ok test =>
      refine congrArg Except.ok ?_
      unfold afterMove
      -- the clause for must_not is not among the negated ones, so it negates no second time
      cases p.givenClause <;> rfl

/-- A predicate that goes neither to must_not nor to should is asked for. -/
theorem occur_eq_must_or_filter (hmustNot : p.clause ≠ .mustNot) (hshould : p.clause ≠ .should) :
    p.occur = .must ∨ p.occur = .filter := by
  rw [occur]
  split
  · exact .inr rfl
  · next hclause => exact absurd hclause hshould
  · next hclause => exact absurd hclause hmustNot
  · exact .inl rfl

/-- The alternative matches what the predicate alone asked for in its slot. -/
theorem matches_afterMove (h : p.clause = p.givenClause) (sat : Leaf → Prop)
    (fragment : Fragment) :
    (p.afterMove fragment).Matches sat ↔ (BoolQuery.add {} p.occur fragment).Matches sat := by
  unfold afterMove
  rw [← h]
  by_cases hmustNot : p.clause = .mustNot
  · have hoccur : p.occur = .mustNot := by rw [occur, hmustNot]
    rw [if_pos hmustNot, hoccur, BoolQuery.matches_add_mustNot, Fragment.Matches]
  · rw [if_neg hmustNot]
    by_cases hshould : p.clause = .should
    · -- the only alternative is one that has to match
      have hoccur : p.occur = .should := by rw [occur, hshould]
      rw [hoccur, BoolQuery.should_add_should, BoolQuery.matches_of_should]
      simp only [ne_eq, List.cons_ne_nil, not_false_eq_true, forall_const, List.mem_singleton,
        exists_eq_left]
    · rw [BoolQuery.matches_add (occur_eq_must_or_filter hmustNot hshould)]

/-! ## Main result -/

/-- The clauses that say of what they ask that it does not hold. -/
def negatingClauses : List Clause := [.notBetween, .notAmong, .absent, .mustNot]

/-- A moved predicate says not of what it asks exactly if its given clause negates. -/
theorem saysNot_reclassify_iff (p : Predicate) :
    p.reclassify.SaysNot ↔ p.givenClause ∈ negatingClauses := by
  simp only [SaysNot, reclassify, negatingClauses, List.mem_cons, List.not_mem_nil, or_false,
    and_true]

/-- How a predicate takes part in a disjunction, where it is rendered to `moved`. -/
structure IsAlternative (p : Predicate) (moved : Fragment) : Prop where
  /-- It becomes one clause under should, and no other slot changes. -/
  add_eq : ∀ query : BoolQuery,
    query.add p.reclassify.occur moved = { query with should := query.should ++ [moved] }
  /-- It is a test of what the predicate asks, negated exactly if the given clause negates. -/
  exists_asks : ∃ test, p.Asks test ∧
    (p.givenClause ∈ negatingClauses → moved = .not (.leaf ⟨p.field, test, p.boost⟩)) ∧
    (p.givenClause ∉ negatingClauses → moved = .leaf ⟨p.field, test, p.boost⟩)

theorem isAlternative_of_render {moved : Fragment} (hmoved : p.reclassify.render = .ok moved) :
    p.IsAlternative moved := by
  refine ⟨fun query => ?_, ?_⟩
  · rw [occur_reclassify]
    cases moved <;> rfl
  · obtain ⟨hvalid, test, htest, rfl⟩ := render_eq_ok_iff.mp hmoved
    have hasks : p.reclassify.Asks test := (clauseTest_eq_ok_iff (.inr rfl) hvalid).mp htest
    have hnegated : p.reclassify.rendersNegated = true ↔ p.givenClause ∈ negatingClauses :=
      (rendersNegated_iff (.inr rfl)).trans p.saysNot_reclassify_iff
    refine ⟨test, asks_of_reclassify hasks, fun hnegates => ?_, fun hnegates => ?_⟩
    · exact if_pos (hnegated.mpr hnegates)
    · exact if_neg (mt hnegated.mp hnegates)

/-- **Moving into a disjunction keeps the condition.** A predicate in the clause it was made with is
refused after the move exactly if it is refused before, for the same fault. Otherwise the move puts
a negation before its fragment if it stood under must_not, and changes nothing else, so the fragment
matches what the predicate asked for in its slot. It goes to should, as one alternative that is
negated exactly for the clauses that negate, and a second move does nothing. -/
theorem reclassify_keeps_condition (p : Predicate) (h : p.clause = p.givenClause) :
    (∀ fault, p.render = .error fault ↔ p.reclassify.render = .error fault) ∧
      (∀ fragment moved, p.render = .ok fragment → p.reclassify.render = .ok moved →
        (p.givenClause = .mustNot → moved = .not fragment) ∧
          (p.givenClause ≠ .mustNot → moved = fragment) ∧
          ∀ sat, moved.Matches sat ↔ (BoolQuery.add {} p.occur fragment).Matches sat) ∧
      (∀ moved, p.reclassify.render = .ok moved → p.IsAlternative moved) ∧
      p.reclassify.occur = .should ∧
      p.reclassify.reclassify = p.reclassify := by
  refine ⟨fun fault => ?_, fun fragment moved hfragment hmoved => ?_,
    fun moved => isAlternative_of_render, p.occur_reclassify, p.reclassify_reclassify⟩
  · rw [render_reclassify h]
    cases p.render <;> simp [Except.map]
  · rw [render_reclassify h, hfragment] at hmoved
    cases hmoved
    exact ⟨fun hmustNot => if_pos hmustNot, fun hmustNot => if_neg hmustNot,
      fun sat => matches_afterMove h sat fragment⟩

/-- A text that must not occur, in its slot and moved out of it, and the same without the text. -/
theorem reclassify_keeps_condition_mustNot :
    (make "status" .fullText .mustNot (.single (.string "closed"))).reclassify.render =
        .ok (.not (.leaf ⟨"status", .fullText (.string "closed"), none⟩)) ∧
      (∀ sat, (Fragment.not (.leaf ⟨"status", .fullText (.string "closed"), none⟩)).Matches sat ↔
        (BoolQuery.add {} .mustNot
          (.leaf ⟨"status", .fullText (.string "closed"), none⟩)).Matches sat) ∧
      (make "status" .fullText .mustNot (.single (.string "closed"))).IsAlternative
        (.not (.leaf ⟨"status", .fullText (.string "closed"), none⟩)) ∧
      (make "status" .fullText .mustNot .none).reclassify.render =
        .error (.needsOneValue .mustNot "status") := by
  obtain ⟨-, hboth, halternative, -, -⟩ := reclassify_keeps_condition
    (make "status" .fullText .mustNot (.single (.string "closed"))) rfl
  obtain ⟨hfaults, -⟩ := reclassify_keeps_condition (make "status" .fullText .mustNot .none) rfl
  exact ⟨rfl, (hboth _ _ rfl rfl).2.2, halternative _ rfl, (hfaults _).mp rfl⟩

end Predicate
end SearchMapper
