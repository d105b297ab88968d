import SearchMapper.Proofs.Outcome
import SearchMapper.Query.Request

/-!
# Which predicates can be rendered

Two checks stand between a predicate and its fragment: that of its operand against the clause it was
made with, and that of the test itself, each of which lets pass what the other refuses. What passes
both is said here once, by clause and operator, together with the test that is made of it:
`Predicate.Asks`.
-/

namespace SearchMapper

/-! ## What clauses and operators ask -/

/-- The clause only names a slot, and leaves the test to the operator. -/
def Clause.IsSlot (clause : Clause) : Prop :=
  clause = .must ∨ clause = .filter ∨ clause = .should ∨ clause = .mustNot

/-- The text of a value inside a pattern: that of a string is the string itself, and that of any other
value is its JSON text. -/
inductive PatternText : Json → String → Prop
  | string (text : String) : PatternText (.string text) text
  | other {value : Json} (h : ∀ text, value ≠ .string text) : PatternText value value.compact

/-- What a clause that takes one value asks of a field, whatever the operator. -/
inductive Clause.AsksOf : Clause → Json → FieldTest → Prop
  | gt (value : Json) : AsksOf .gt value (.range { gt := some value })
  | ge (value : Json) : AsksOf .ge value (.range { gte := some value })
  | lt (value : Json) : AsksOf .lt value (.range { lt := some value })
  | le (value : Json) : AsksOf .le value (.range { lte := some value })
  | likeLeft {value : Json} {text : String} (h : PatternText value text) :
    AsksOf .likeLeft value (.wildcard ("*" ++ text))
  | likeRight {value : Json} {text : String} (h : PatternText value text) :
    AsksOf .likeRight value (.wildcard (text ++ "*"))

/-- What an operator that takes one value asks of a field, in a slot. -/
inductive Operator.AsksOf : Operator → Json → FieldTest → Prop
  | exact (value : Json) : AsksOf .exact value (.term value)
  | fullText (value : Json) : AsksOf .fullText value (.fullText value)
  | startsWith (value : Json) : AsksOf .startsWith value (.startsWith value)
  | wildcard {value : Json} {text : String} (h : PatternText value text) :
    AsksOf .wildcard value (.wildcard ("*" ++ text ++ "*"))

/-! ## Tests of one value -/

theorem patternText_eq_iff {value : Json} {text : String} :
    patternText value = text ↔ PatternText value text := by
  constructor
  · intro h
    subst h
    unfold patternText
    split
    · exact .string _
    · next hother => exact .other hother
  · intro h
    cases h with
    | string => rfl
    | other hother =>
      unfold patternText
      split
      · next text => exact absurd rfl (hother text)
      · rfl

/-- The test that a clause makes of the one value it takes, whatever the operator. -/
def Clause.valueTest? : Clause → Option (Json → FieldTest)
  | .gt => some fun value => .range { gt := some value }
  | .ge => some fun value => .range { gte := some value }
  | .lt => some fun value => .range { lt := some value }
  | .le => some fun value => .range { lte := some value }
  | .likeLeft => some fun value => .wildcard ("*" ++ patternText value)
  | .likeRight => some fun value => .wildcard (patternText value ++ "*")
  | _ => none

/-- The test that an operator makes of the one value it takes, in a slot. -/
def Operator.valueTest? : Operator → Option (Json → FieldTest)
  | .exact => some .term
  | .fullText => some .fullText
  | .startsWith => some .startsWith
  | .wildcard => some fun value => .wildcard ("*" ++ patternText value ++ "*")
  | _ => none

/-- The kinds of clauses, by the operands that they take. -/
theorem Clause.kinds (clause : Clause) :
    (∃ make, clause.valueTest? = some make) ∨ (clause = .between ∨ clause = .notBetween) ∨
      (clause = .among ∨ clause = .notAmong) ∨ (clause = .present ∨ clause = .absent) ∨
      clause.IsSlot := by
  cases clause <;> simp [valueTest?, IsSlot]

/-- The test that a clause makes of a value is what it asks with that value. -/
theorem Clause.asksOf_iff {clause : Clause} {value : Json} {test : FieldTest} :
    clause.AsksOf value test ↔ ∃ make, clause.valueTest? = some make ∧ test = make value := by
  constructor
  · intro h
    cases h with
    | likeLeft h | likeRight h =>
      rw [← patternText_eq_iff.mpr h]
      exact ⟨_, rfl, rfl⟩
    | _ => exact ⟨_, rfl, rfl⟩
  · rintro ⟨make, hmake, rfl⟩
    cases clause with
    | gt | ge | lt | le =>
      cases hmake
      constructor
    | likeLeft | likeRight =>
      cases hmake
      constructor
      exact patternText_eq_iff.mp rfl
    | _ => cases hmake

/-- The test that an operator makes of a value is what it asks with that value. -/
theorem Operator.asksOf_iff {operator : Operator} {value : Json} {test : FieldTest} :
    operator.AsksOf value test ↔ ∃ make, operator.valueTest? = some make ∧ test = make value := by
  constructor
  · intro h
    cases h with
    | wildcard h =>
      rw [← patternText_eq_iff.mpr h]
      exact ⟨_, rfl, rfl⟩
    | _ => exact ⟨_, rfl, rfl⟩
  · rintro ⟨make, hmake, rfl⟩
    cases operator with
    | exact | fullText | startsWith =>
      cases hmake
      constructor
    | wildcard =>
      cases hmake
      constructor
      exact patternText_eq_iff.mp rfl
    | _ => cases hmake

/-! ## What predicates ask -/

namespace Predicate

variable {p : Predicate} {test : FieldTest}

/-- What a predicate in a slot asks of its field. -/
inductive AsksByOperator (p : Predicate) : FieldTest → Prop
  | value {value : Json} {test : FieldTest} (hasks : p.operator.AsksOf value test)
    (hoperand : p.operand = .single value) : AsksByOperator p test
  | terms {values : List Json} (hoperator : p.operator = .terms) (hne : values ≠ [])
    (hoperand : p.operand = .many values ∨ p.operand = .single (.array values)) :
    AsksByOperator p (.terms values)
  | present (hoperator : p.operator = .present)
    (hoperand : p.operand = .none ∨ ∃ value, p.operand = .single value) :
    AsksByOperator p .present

/-- What a predicate asks of its field. -/
inductive Asks (p : Predicate) : FieldTest → Prop
  | value {value : Json} {test : FieldTest} (hasks : p.givenClause.AsksOf value test)
    (hoperand : p.operand = .single value) : Asks p test
  | bounds {low high : Json} (hclause : p.givenClause = .between ∨ p.givenClause = .notBetween)
    (hoperand : p.operand = .bounds low high) :
    Asks p (.range { gte := some low, lte := some high })
  | terms {values : List Json} (hclause : p.givenClause = .among ∨ p.givenClause = .notAmong)
    (hne : values ≠ []) (hoperand : p.operand = .many values) : Asks p (.terms values)
  | present (hclause : p.givenClause = .present ∨ p.givenClause = .absent)
    (hoperand : p.operand = .none) : Asks p .present
  | slot {test : FieldTest} (hclause : p.givenClause.IsSlot) (htest : p.AsksByOperator test) :
    Asks p test

/-- The predicate says that what it asks fails: it was made with a negated clause, or moved from
must_not into a disjunction. -/
def SaysNot (p : Predicate) : Prop :=
  p.givenClause = .notBetween ∨ p.givenClause = .notAmong ∨ p.givenClause = .absent ∨
    p.givenClause = .mustNot ∧ p.clause = .should

/-! ## Values of operands -/

theorem singleValue_eq_ok_iff {value : Json} :
    p.singleValue = .ok value ↔ p.operand = .single value := by
  unfold singleValue
  cases p.operand <;> simp

theorem manyValues_eq_ok_iff {values : List Json} :
    p.manyValues = .ok values ↔
      values ≠ [] ∧ (p.operand = .many values ∨ p.operand = .single (.array values)) := by
  unfold manyValues
  split
  · grind
  · grind
  · -- the operand is neither a set with values nor one array with values
    next hmany harray =>
    constructor
    · nofun
    · rintro ⟨hne, hoperand⟩
      obtain ⟨value, rest, rfl⟩ := List.exists_cons_of_ne_nil hne
      rcases hoperand with hoperand | hoperand
      · exact absurd hoperand (hmany value rest)
      · exact absurd hoperand (harray value rest)

theorem bothBounds_eq_ok_iff {bounds : Bounds} :
    p.bothBounds = .ok bounds ↔
      ∃ low high, p.operand = .bounds low high ∧ bounds = { gte := some low, lte := some high } := by
  unfold bothBounds
  cases p.operand <;> grind

/-- A test of one value is made exactly of an operand that is one. -/
theorem valueTest_eq_ok_iff {make : Json → FieldTest} :
    (p.singleValue >>= fun value => pure (make value)) = .ok test ↔
      ∃ value, p.operand = .single value ∧ test = make value := by
  simp only [Except.bind_eq_ok_iff, singleValue_eq_ok_iff]
  refine exists_congr fun value => and_congr_right fun _ => ?_
  exact ⟨fun h => (Except.ok.inj h).symm, fun h => congrArg Except.ok h.symm⟩

/-! ## The check of the operand -/

theorem isBlank_of_validate (h : p.validate = .ok ()) : Text.isBlank p.field = false := by
  unfold validate at h
  split at h
  · cases h
  · next hblank => exact Bool.eq_false_iff.mpr hblank

/-- What the check of the operand refuses, and the test does not. -/
theorem operand_of_validate (h : p.validate = .ok ()) :
    ((p.givenClause = .among ∨ p.givenClause = .notAmong) → ∃ values, p.operand = .many values) ∧
      ((p.givenClause = .present ∨ p.givenClause = .absent) → p.operand = .none) ∧
      (p.givenClause.IsSlot → p.operator = .present →
        p.operand = .none ∨ ∃ value, p.operand = .single value) := by
  unfold validate at h
  split at h
  · cases h
  · -- one case for each rule of the check, those that refuse among them
    split at h <;> grind [Clause.IsSlot]

/-- The check of the operand of a clause that takes one value, or of a slot. -/
theorem validate_of_single {value : Json} (hblank : Text.isBlank p.field = false)
    (hclause : p.givenClause.IsSlot ∨ ∃ test, p.givenClause.AsksOf value test)
    (hoperand : p.operand = .single value) : p.validate = .ok () := by
  rw [validate, if_neg (Bool.eq_false_iff.mp hblank), hoperand]
  rcases hclause with (hclause | hclause | hclause | hclause) | ⟨test, hasks⟩
  case inr =>
    generalize p.givenClause = clause at hasks
    cases hasks <;> rfl
  all_goals rw [hclause]

/-- What is asked passes the check of the operand. -/
theorem validate_of_asks (hblank : Text.isBlank p.field = false) (h : p.Asks test) :
    p.validate = .ok () := by
  have hfield := Bool.eq_false_iff.mp hblank
  cases h with
  | value hasks hoperand => exact validate_of_single hblank (.inr ⟨_, hasks⟩) hoperand
  | bounds hclause hoperand | present hclause hoperand =>
    rcases hclause with hclause | hclause <;> rw [validate, if_neg hfield, hclause, hoperand]
  | terms hclause hne hoperand =>
    obtain ⟨value, rest, rfl⟩ := List.exists_cons_of_ne_nil hne
    rcases hclause with hclause | hclause <;> rw [validate, if_neg hfield, hclause, hoperand]
  | slot hclause htest =>
    cases htest with
    | value _ hoperand => exact validate_of_single hblank (.inl hclause) hoperand
    | terms hoperator hne hoperand =>
      obtain ⟨value, rest, rfl⟩ := List.exists_cons_of_ne_nil hne
      rcases hoperand with hoperand | hoperand
      · rcases hclause with hclause | hclause | hclause | hclause <;>
          simp only [validate, if_neg hfield, hclause, hoperand, hoperator, if_true]
      · -- to the check an array is one value like any other
        exact validate_of_single hblank (.inl hclause) hoperand
    | present hoperator hoperand =>
      rcases hoperand with hoperand | ⟨value, hoperand⟩
      · rcases hclause with hclause | hclause | hclause | hclause <;>
          simp only [validate, if_neg hfield, hclause, hoperand, hoperator, if_true]
      · exact validate_of_single hblank (.inl hclause) hoperand

/-! ## The test -/

theorem operatorTest_of_valueTest {make : Json → FieldTest}
    (hmake : p.operator.valueTest? = some make) :
    p.operatorTest = p.singleValue >>= fun value => pure (make value) := by
  unfold operatorTest
  cases hoperator : p.operator <;> rw [hoperator] at hmake <;> cases hmake <;> rfl

/-- The test of a predicate in a slot. Of the operators only that for presence takes any operand. -/
theorem operatorTest_eq_ok_iff :
    p.operatorTest = .ok test ↔
      p.AsksByOperator test ∨ p.operator = .present ∧ test = .present := by
  constructor
  · intro h
    cases hmake : p.operator.valueTest? with
    | some make =>
      rw [operatorTest_of_valueTest hmake] at h
      obtain ⟨value, hoperand, rfl⟩ := valueTest_eq_ok_iff.mp h
      exact .inl (.value (Operator.asksOf_iff.mpr ⟨make, hmake, rfl⟩) hoperand)
    | none =>
      unfold operatorTest at h
      cases hoperator : p.operator with
      | exact | fullText | startsWith | wildcard =>
        rw [hoperator] at hmake
        cases hmake
      | terms =>
        rw [hoperator] at h
        obtain ⟨values, hvalues, ⟨⟩⟩ := Except.bind_eq_ok_iff.mp h
        obtain ⟨hne, hoperand⟩ := manyValues_eq_ok_iff.mp hvalues
        exact .inl (.terms hoperator hne hoperand)
      | present =>
        rw [hoperator] at h
        cases h
        exact .inr ⟨rfl, rfl⟩
      | range =>
        rw [hoperator] at h
        cases h
  · rintro (h | ⟨hoperator, rfl⟩)
    · cases h with
      | value hasks hoperand =>
        obtain ⟨make, hmake, rfl⟩ := Operator.asksOf_iff.mp hasks
        rw [operatorTest_of_valueTest hmake]
        exact valueTest_eq_ok_iff.mpr ⟨_, hoperand, rfl⟩
      | terms hoperator hne hoperand =>
        rw [operatorTest, hoperator]
        exact Except.bind_eq_ok_iff.mpr ⟨_, manyValues_eq_ok_iff.mpr ⟨hne, hoperand⟩, rfl⟩
      | present hoperator hoperand =>
        rw [operatorTest, hoperator]
        rfl
    · rw [operatorTest, hoperator]
      rfl

/-- A predicate in its own clause, or moved into a disjunction, is rendered by its own clause. -/
theorem effectiveClause_eq_givenClause (h : p.clause = p.givenClause ∨ p.clause = .should) :
    p.effectiveClause = p.givenClause := by
  -- should as the given clause is no move, and then it is the clause in effect itself
  unfold effectiveClause isReclassified
  grind

theorem rendersNegated_iff (h : p.clause = p.givenClause ∨ p.clause = .should) :
    p.rendersNegated = true ↔ p.SaysNot := by
  rw [rendersNegated, effectiveClause_eq_givenClause h, SaysNot, isReclassified]
  cases p.givenClause <;> simp [Clause.isNegated]

section

variable (h : p.clause = p.givenClause ∨ p.clause = .should)

include h

theorem clauseTest_of_valueTest {make : Json → FieldTest}
    (hmake : p.givenClause.valueTest? = some make) :
    p.clauseTest = p.singleValue >>= fun value => pure (make value) := by
  unfold clauseTest
  rw [effectiveClause_eq_givenClause h]
  cases hclause : p.givenClause <;> rw [hclause] at hmake <;> cases hmake <;> rfl

theorem clauseTest_of_bounds (hclause : p.givenClause = .between ∨ p.givenClause = .notBetween) :
    p.clauseTest = p.bothBounds >>= fun bounds => pure (.range bounds) := by
  unfold clauseTest
  rw [effectiveClause_eq_givenClause h]
  rcases hclause with hclause | hclause <;> rw [hclause]

theorem clauseTest_of_values (hclause : p.givenClause = .among ∨ p.givenClause = .notAmong) :
    p.clauseTest = p.manyValues >>= fun values => pure (.terms values) := by
  unfold clauseTest
  rw [effectiveClause_eq_givenClause h]
  rcases hclause with hclause | hclause <;> rw [hclause]

theorem clauseTest_of_presence (hclause : p.givenClause = .present ∨ p.givenClause = .absent) :
    p.clauseTest = .ok .present := by
  unfold clauseTest
  rw [effectiveClause_eq_givenClause h]
  rcases hclause with hclause | hclause <;> rw [hclause] <;> rfl

theorem clauseTest_of_isSlot (hclause : p.givenClause.IsSlot) : p.clauseTest = p.operatorTest := by
  unfold clauseTest
  rw [effectiveClause_eq_givenClause h]
  rcases hclause with hclause | hclause | hclause | hclause <;> rw [hclause]

/-- After the check of its operand, the test of a predicate is what it asks. -/
theorem clauseTest_eq_ok_iff (hvalid : p.validate = .ok ()) :
    p.clauseTest = .ok test ↔ p.Asks test := by
  obtain ⟨hvalues, hpresence, hslot⟩ := operand_of_validate hvalid
  constructor
  · intro htest
    rcases p.givenClause.kinds with ⟨make, hmake⟩ | hclause | hclause | hclause | hclause
    · rw [clauseTest_of_valueTest h hmake] at htest
      obtain ⟨value, hoperand, rfl⟩ := valueTest_eq_ok_iff.mp htest
      exact .value (Clause.asksOf_iff.mpr ⟨make, hmake, rfl⟩) hoperand
    · rw [clauseTest_of_bounds h hclause] at htest
      obtain ⟨_, hbounds, ⟨⟩⟩ := Except.bind_eq_ok_iff.mp htest
      obtain ⟨low, high, hoperand, rfl⟩ := bothBounds_eq_ok_iff.mp hbounds
      exact .bounds hclause hoperand
    · rw [clauseTest_of_values h hclause] at htest
      obtain ⟨values, hmany, ⟨⟩⟩ := Except.bind_eq_ok_iff.mp htest
      obtain ⟨hne, hoperand | hoperand⟩ := manyValues_eq_ok_iff.mp hmany
      · exact .terms hclause hne hoperand
      · -- one array goes to the test, but not through the check
        obtain ⟨given, hgiven⟩ := hvalues hclause
        rw [hgiven] at hoperand
        cases hoperand
    · rw [clauseTest_of_presence h hclause] at htest
      cases htest
      exact .present hclause (hpresence hclause)
    · rw [clauseTest_of_isSlot h hclause] at htest
      rcases operatorTest_eq_ok_iff.mp htest with hasks | ⟨hoperator, rfl⟩
      · exact .slot hclause hasks
      · exact .slot hclause (.present hoperator (hslot hclause hoperator))
  · intro hasks
    cases hasks with
    | value hasks hoperand =>
      obtain ⟨make, hmake, rfl⟩ := Clause.asksOf_iff.mp hasks
      rw [clauseTest_of_valueTest h hmake]
      exact valueTest_eq_ok_iff.mpr ⟨_, hoperand, rfl⟩
    | bounds hclause hoperand =>
      rw [clauseTest_of_bounds h hclause, bothBounds_eq_ok_iff.mpr ⟨_, _, hoperand, rfl⟩]
      rfl
    | terms hclause hne hoperand =>
      rw [clauseTest_of_values h hclause, manyValues_eq_ok_iff.mpr ⟨hne, .inl hoperand⟩]
      rfl
    | present hclause hoperand => exact clauseTest_of_presence h hclause
    | slot hclause htest =>
      rw [clauseTest_of_isSlot h hclause]
      exact operatorTest_eq_ok_iff.mpr (.inl htest)

end

/-! ## Rendering -/

/-- A predicate is rendered to its test, once its operand has passed its check. -/
theorem render_eq_ok_iff {fragment : Fragment} :
    p.render = .ok fragment ↔ p.validate = .ok () ∧ ∃ test, p.clauseTest = .ok test ∧
      fragment = if p.rendersNegated then .not (.leaf ⟨p.field, test, p.boost⟩)
        else .leaf ⟨p.field, test, p.boost⟩ := by
  unfold render
  simp only [Except.bind_eq_ok_iff]
  constructor
  · rintro ⟨_, hvalid, test, htest, ⟨⟩⟩
    exact ⟨hvalid, test, htest, rfl⟩
  · rintro ⟨hvalid, test, htest, rfl⟩
    exact ⟨(), hvalid, test, htest, rfl⟩

theorem exists_render_iff (p : Predicate) :
    (∃ fragment, p.render = .ok fragment) ↔
      p.validate = .ok () ∧ ∃ test, p.clauseTest = .ok test := by
  simp only [render_eq_ok_iff]
  constructor
  · rintro ⟨_, hvalid, test, htest, -⟩
    exact ⟨hvalid, test, htest⟩
  · rintro ⟨hvalid, test, htest⟩
    exact ⟨_, hvalid, test, htest, rfl⟩

/-- The fault of a predicate is a validation error of a search for it. -/
theorem compiled_of_render_eq_error {fault : PredicateFault} (h : p.render = .error fault) :
    ({ conditions := [.batch [p]] } : SearchQuery).compiled =
      .error (.validation (.conditions (.predicate fault))) := by
  have hadd : BoolQuery.addBatch {} false [p] = .error fault :=
    Except.bind_eq_error_iff.mpr (.inl h)
  have hbatch : ({} : Compilation).batch [p] = .error fault :=
    Except.bind_eq_error_iff.mpr (.inl hadd)
  have hrun : ({} : Compilation).run 0 [.batch [p]] = .error (.predicate fault) := by
    rw [Compilation.run, hbatch]
    rfl
  have hcompile : Conditions.compile [.batch [p]] none = .error (.predicate fault) :=
    Except.bind_eq_error_iff.mpr (.inl hrun)
  rw [SearchQuery.compiled, hcompile]

/-- No clause that only names a slot takes the operator for ranges. -/
theorem not_asks_of_range (hclause : p.givenClause.IsSlot) (hoperator : p.operator = .range) :
    ¬ p.Asks test := by
  intro h
  cases h with
  | slot _ htest =>
    cases htest with
    | value hasks _ =>
      rw [hoperator] at hasks
      cases hasks
    | terms hother _ _ | present hother _ =>
      rw [hoperator] at hother
      cases hother
  | value hasks _ =>
    rcases hclause with hclause | hclause | hclause | hclause <;> rw [hclause] at hasks <;>
      cases hasks
  | bounds hother _ | terms hother _ _ | present hother _ => grind [Clause.IsSlot]

/-- **Which predicates are rendered, and to what.** A predicate in the clause it was made with, or
moved into a disjunction, is rendered exactly if its field is not blank and its given clause, or in a
slot its operator, asks something with its operand. The fragment is then what it asks as one test of
its field with its boost, negated if the predicate says so. A range in a slot asks nothing. What is
not rendered is a validation error. -/
theorem renders_what_it_asks (p : Predicate)
    (h : p.clause = p.givenClause ∨ p.clause = .should) :
    ((∃ fragment, p.render = .ok fragment) ↔
        Text.isBlank p.field = false ∧ ∃ test, p.Asks test) ∧
      (∀ test, Text.isBlank p.field = false → p.Asks test →
        (p.SaysNot → p.render = .ok (.not (.leaf ⟨p.field, test, p.boost⟩))) ∧
          (¬ p.SaysNot → p.render = .ok (.leaf ⟨p.field, test, p.boost⟩))) ∧
      (p.givenClause.IsSlot → p.operator = .range → ∀ fragment, p.render ≠ .ok fragment) ∧
      ((∀ fragment, p.render ≠ .ok fragment) → ∃ fault, p.render = .error fault ∧
        ({ conditions := [.batch [p]] } : SearchQuery).compiled =
          .error (.validation (.conditions (.predicate fault)))) := by
  have haccepted : (∃ fragment, p.render = .ok fragment) ↔
      Text.isBlank p.field = false ∧ ∃ test, p.Asks test := by
    rw [exists_render_iff]
    constructor
    · rintro ⟨hvalid, test, htest⟩
      exact ⟨isBlank_of_validate hvalid, test, (clauseTest_eq_ok_iff h hvalid).mp htest⟩
    · rintro ⟨hblank, test, hasks⟩
      have hvalid := validate_of_asks hblank hasks
      exact ⟨hvalid, test, (clauseTest_eq_ok_iff h hvalid).mpr hasks⟩
  refine ⟨haccepted, fun test hblank hasks => ?_, ?_, fun hnone => ?_⟩
  · have hvalid := validate_of_asks hblank hasks
    have htest := (clauseTest_eq_ok_iff h hvalid).mpr hasks
    constructor
    · intro hnot
      refine render_eq_ok_iff.mpr ⟨hvalid, test, htest, ?_⟩
      rw [if_pos ((rendersNegated_iff h).mpr hnot)]
    · intro hnot
      refine render_eq_ok_iff.mpr ⟨hvalid, test, htest, ?_⟩
      rw [if_neg (mt (rendersNegated_iff h).mp hnot)]
  · intro hclause hoperator fragment hfragment
    obtain ⟨-, test, hasks⟩ := haccepted.mp ⟨fragment, hfragment⟩
    exact not_asks_of_range hclause hoperator hasks
  · obtain ⟨fault, hfault⟩ := Except.exists_eq_error_iff.mpr (not_exists.mpr hnone)
    exact ⟨fault, hfault, compiled_of_render_eq_error hfault⟩

/-- A set of values given as one array, under must_not and moved into a disjunction: it is rendered
negated, and refused if the array is empty, or if the set stands under a clause for sets. The
pattern of a number has its digits. -/
theorem renders_what_it_asks_of_array :
    let terms (clause : Clause) (values : List Json) : Predicate :=
      { field := "tags", operator := .terms, clause := .should, givenClause := clause,
        operand := .single (.array values), boost := none }
    let like (value : Json) : Predicate := .make "tags" .wildcard .likeRight (.single value)
    (like (.uint64 20)).render = .ok (.leaf ⟨"tags", .wildcard "20*", none⟩) ∧
      (like (.string "20")).render = .ok (.leaf ⟨"tags", .wildcard "20*", none⟩) ∧
      (terms .mustNot [.string "old"]).render =
        .ok (.not (.leaf ⟨"tags", .terms [.string "old"], none⟩)) ∧
      (∃ fault, ({ conditions := [.batch [terms .mustNot []]] } : SearchQuery).compiled =
        .error (.validation (.conditions (.predicate fault)))) ∧
      ∃ fault, ({ conditions := [.batch [terms .among [.string "old"]]] } : SearchQuery).compiled =
        .error (.validation (.conditions (.predicate fault))) := by
  intro terms like
  have hpattern : ∀ value, PatternText value "20" →
      (like value).render = .ok (.leaf ⟨"tags", .wildcard "20*", none⟩) := by
    intro value htext
    obtain ⟨-, hrenders, -, -⟩ := renders_what_it_asks (like value) (.inl rfl)
    have hblank : Text.isBlank "tags" = false := by decide
    have hasks : (like value).Asks (.wildcard "20*") := .value (.likeRight htext) rfl
    refine (hrenders _ hblank hasks).2 fun hnot => ?_
    rcases hnot with hclause | hclause | hclause | ⟨hclause, -⟩ <;> cases hclause
  have hrefused : ∀ clause values, (terms clause values).render.toBool = false →
      ∃ fault, ({ conditions := [.batch [terms clause values]] } : SearchQuery).compiled =
        .error (.validation (.conditions (.predicate fault))) := by
    intro clause values hrender
    obtain ⟨-, -, -, hfault⟩ := renders_what_it_asks (terms clause values) (.inr rfl)
    obtain ⟨fault, -, hcompiled⟩ := hfault fun fragment hfragment => by
      rw [hfragment] at hrender
      cases hrender
    exact ⟨fault, hcompiled⟩
  obtain ⟨-, hrenders, -, -⟩ :=
    renders_what_it_asks (terms .mustNot [.string "old"]) (.inr rfl)
  have hasks : (terms .mustNot [.string "old"]).Asks (.terms [.string "old"]) :=
    .slot (.inr (.inr (.inr rfl))) (.terms rfl nofun (.inr rfl))
  have hnegated := (hrenders _ (by decide) hasks).1 (.inr (.inr (.inr ⟨rfl, rfl⟩)))
  have hnumber : PatternText (.uint64 20) "20" := .other fun _ => by rintro ⟨⟩
  refine ⟨hpattern _ hnumber, hpattern _ (.string "20"), hnegated, ?_, ?_⟩
  · exact hrefused .mustNot [] (by decide +kernel)
  · exact hrefused .among [.string "old"] (by decide +kernel)

end Predicate
end SearchMapper
