import SearchMapper.Proofs.Conditions.Pass
import SearchMapper.Proofs.Fragment.Accepted
import SearchMapper.Query.Request

/-!
# Lists that calls build

A list that comes from builder calls alone compiles unless a call is at fault: one that opens a
group inside a group, names a blank field or gives an empty set of values. The calls pair each
operator with a clause and an operand that fit, so nothing else can go wrong; a boost changes
nothing about it.
-/

namespace SearchMapper

/-! ## Boosts taken off -/

/-- The predicate without its boost. -/
def Predicate.unboosted (p : Predicate) : Predicate := { p with boost := none }

/-- The entry without the boosts of its predicates. -/
def Entry.unboosted : Entry → Entry
  | batch predicates => batch (predicates.map Predicate.unboosted)
  | marker m => marker m

namespace Conditions

theorem map_unboosted_boostLast (weight : Single) (predicates : List Predicate) :
    (boostLast weight predicates).map Predicate.unboosted =
      predicates.map Predicate.unboosted := by
  induction predicates with
  | nil => rfl
  | cons p rest ih =>
    cases rest with
    | nil => rfl
    | cons q rest => exact congrArg (p.unboosted :: ·) ih

theorem map_unboosted_boostFirst (weight : Single) (entries : List Entry) :
    (boostFirst weight entries).map Entry.unboosted = entries.map Entry.unboosted := by
  induction entries with
  | nil => rfl
  | cons e rest ih =>
    cases e with
    | batch predicates =>
      cases predicates with
      | nil => exact congrArg (_ :: ·) ih
      | cons p ps =>
        have hbatch := map_unboosted_boostLast weight (p :: ps)
        rw [boostFirst, List.map_cons, List.map_cons, Entry.unboosted, Entry.unboosted, hbatch]
    | marker m => exact congrArg (_ :: ·) ih

/-- A boost is all that a boost changes. -/
theorem map_unboosted_boost (weight : Single) (conditions : Conditions) :
    (boost weight conditions).map Entry.unboosted = conditions.map Entry.unboosted := by
  rw [boost, List.map_reverse, map_unboosted_boostFirst, List.map_reverse, List.reverse_reverse]

theorem brackets_map_unboosted (conditions : Conditions) :
    brackets (conditions.map Entry.unboosted) = brackets conditions := by
  have hmarker : Entry.marker? ∘ Entry.unboosted = Entry.marker? := by
    funext e
    cases e <;> rfl
  rw [brackets, List.filterMap_map, hmarker]
  rfl

theorem predicates_map_unboosted (conditions : Conditions) :
    predicates (conditions.map Entry.unboosted) =
      (predicates conditions).map Predicate.unboosted := by
  rw [predicates, predicates, List.flatMap_map, List.map_flatMap]
  congr 1
  funext e
  cases e <;> rfl

theorem brackets_boost (weight : Single) (conditions : Conditions) :
    brackets (boost weight conditions) = brackets conditions := by
  rw [← brackets_map_unboosted, map_unboosted_boost, brackets_map_unboosted]

/-- What does not hang on boosts holds of the predicates after a boost as before. -/
theorem forall_predicates_boost {Q : Predicate → Prop} (hQ : ∀ p, Q p.unboosted ↔ Q p)
    (weight : Single) (conditions : Conditions) :
    (∀ p ∈ predicates (boost weight conditions), Q p) ↔ ∀ p ∈ predicates conditions, Q p := by
  have hmap : ∀ list : Conditions, (∀ p ∈ predicates list, Q p) ↔
      ∀ p ∈ predicates (list.map Entry.unboosted), Q p := by
    intro list
    rw [predicates_map_unboosted, List.forall_mem_map]
    simp only [hQ]
  rw [hmap, map_unboosted_boost, ← hmap]

end Conditions

/-! ## The calls of a sequence -/

namespace Step

mutual
/-- The call itself, and the calls inside it if it makes a group. -/
def calls : Step → List Step
  | .group kind steps => .group kind steps :: allCalls steps
  | step => [step]

/-- The calls of a sequence, those inside groups among them. -/
def allCalls : List Step → List Step
  | [] => []
  | step :: rest => calls step ++ allCalls rest
end

/-- The call adds a marker or a batch as it is. -/
def isRaw : Step → Bool
  | .marker _ | .batch _ => true
  | _ => false

/-- The call makes a group. -/
def isGroup : Step → Bool
  | .group _ _ => true
  | _ => false

/-- The field that the call names. -/
def field? : Step → Option String
  | .compare _ field _ | .between field _ _ | .notBetween field _ _ | .among field _
  | .notAmong field _ | .present field | .absent field => some field
  | _ => none

/-- The set of values that the call gives. -/
def values? : Step → Option (List Json)
  | .among _ values | .notAmong _ values => some values
  | _ => none

/-- The predicates that the call adds itself. -/
def predicates : Step → List Predicate
  | .compare comparison field value =>
    [.make field comparison.kind.1 comparison.kind.2 (.single value)]
  | .between field low high => [.make field .range .between (.bounds low high)]
  | .notBetween field low high => [.make field .range .notBetween (.bounds low high)]
  | .among field values => [.make field .terms .among (.many values)]
  | .notAmong field values => [.make field .terms .notAmong (.many values)]
  | .present field => [.make field .present .present .none]
  | .absent field => [.make field .present .absent .none]
  | .batch predicates => predicates
  | .boost _ | .orChain | .group _ _ | .marker _ => []

/-- The open and close markers that the call adds. -/
def brackets : Step → List Marker
  | .group kind steps => kind.open :: (Conditions.build steps).brackets ++ [kind.close]
  | .marker m => Conditions.brackets [.marker m]
  | _ => []

end Step

theorem Step.calls_of_not_isGroup {step : Step} (h : step.isGroup = false) :
    step.calls = [step] := by
  cases step with
  | group kind steps => cases h
  | _ => rfl

namespace Conditions

theorem predicates_append (first second : Conditions) :
    predicates (first ++ second) = predicates first ++ predicates second :=
  List.flatMap_append

/-- A call that neither makes a group nor sets a boost adds its predicates at the end. -/
theorem predicates_extend {step : Step} (hgroup : step.isGroup = false)
    (hboost : ∀ weight, step ≠ .boost weight) (conditions : Conditions) :
    predicates (extend conditions step) = predicates conditions ++ step.predicates := by
  cases step with
  | group kind steps => cases hgroup
  | boost weight => exact absurd rfl (hboost weight)
  | batch ps =>
    have hbatch : predicates [.batch ps] = ps := List.append_nil ps
    rw [extend, predicates_append, hbatch]
    rfl
  | _ => exact predicates_append conditions _

mutual
/-- What does not hang on boosts holds of all predicates after a call if it did before and holds of
those that the call adds, inside a group too. -/
theorem forall_predicates_extend {Q : Predicate → Prop} (hQ : ∀ p, Q p.unboosted ↔ Q p) :
    ∀ (step : Step) (conditions : Conditions),
      (∀ p ∈ predicates (extend conditions step), Q p) ↔
        (∀ p ∈ predicates conditions, Q p) ∧ ∀ call ∈ step.calls, ∀ p ∈ call.predicates, Q p
  | .group kind steps, conditions => by
    have hinner := forall_predicates_extendAll hQ steps []
    have hgrouped : predicates (grouped kind (extendAll [] steps)) =
        predicates (extendAll [] steps) := by
      rw [grouped, List.cons_append, predicates, List.flatMap_cons, List.flatMap_append]
      exact List.append_nil _
    rw [extend, predicates_append, hgrouped, List.forall_mem_append, hinner, Step.calls,
      List.forall_mem_cons]
    simp [predicates, Step.predicates]
  | .boost weight, conditions => by
    rw [extend, forall_predicates_boost hQ, Step.calls_of_not_isGroup rfl]
    simp [Step.predicates]
  | .compare _ _ _, conditions | .between _ _ _, conditions | .notBetween _ _ _, conditions
  | .among _ _, conditions | .notAmong _ _, conditions | .present _, conditions
  | .absent _, conditions | .orChain, conditions | .marker _, conditions
  | .batch _, conditions => by
    rw [predicates_extend rfl fun _ => Step.noConfusion, List.forall_mem_append,
      Step.calls_of_not_isGroup rfl, List.forall_mem_singleton]

theorem forall_predicates_extendAll {Q : Predicate → Prop} (hQ : ∀ p, Q p.unboosted ↔ Q p) :
    ∀ (steps : List Step) (conditions : Conditions),
      (∀ p ∈ predicates (extendAll conditions steps), Q p) ↔
        (∀ p ∈ predicates conditions, Q p) ∧
          ∀ call ∈ Step.allCalls steps, ∀ p ∈ call.predicates, Q p
  | [], conditions => by
    simp [extendAll, Step.allCalls]
  | step :: rest, conditions => by
    rw [extendAll, forall_predicates_extendAll hQ rest, forall_predicates_extend hQ step,
      Step.allCalls, List.forall_mem_append, and_assoc]
end

theorem forall_predicates_build {Q : Predicate → Prop} (hQ : ∀ p, Q p.unboosted ↔ Q p)
    (steps : List Step) :
    (∀ p ∈ predicates (build steps), Q p) ↔
      ∀ call ∈ Step.allCalls steps, ∀ p ∈ call.predicates, Q p := by
  have hnone : ∀ p ∈ predicates [], Q p := fun p hp => nomatch hp
  rw [build, forall_predicates_extendAll hQ]
  exact and_iff_right hnone

/-! ## Groups of a built list -/

theorem brackets_extend (conditions : Conditions) (step : Step) :
    brackets (extend conditions step) = brackets conditions ++ step.brackets := by
  cases step with
  | boost weight =>
    rw [extend, brackets_boost]
    exact (List.append_nil _).symm
  | group kind steps =>
    have hgroup : brackets (grouped kind (build steps)) =
        kind.open :: brackets (build steps) ++ [kind.close] := by
      rw [grouped, List.cons_append, brackets_marker kind.isBracket_open, brackets_append,
        brackets_marker kind.isBracket_close]
      rfl
    rw [extend, brackets_append, Step.brackets, ← hgroup]
    rfl
  | _ => exact brackets_append conditions _

theorem brackets_extendAll (steps : List Step) (conditions : Conditions) :
    brackets (extendAll conditions steps) =
      brackets conditions ++ steps.flatMap Step.brackets := by
  induction steps generalizing conditions with
  | nil => exact (List.append_nil _).symm
  | cons step rest ih =>
    rw [extendAll, ih, brackets_extend, List.flatMap_cons, List.append_assoc]

theorem brackets_build (steps : List Step) :
    brackets (build steps) = steps.flatMap Step.brackets :=
  brackets_extendAll steps []

end Conditions

namespace Step

/-- The calls are those of the builder, also inside groups: none adds markers or batches raw. -/
def AreFluent (steps : List Step) : Prop := ∀ call ∈ allCalls steps, call.isRaw = false

/-- No call, inside or outside groups, makes a group. -/
def HaveNoGroup (steps : List Step) : Prop := ∀ call ∈ allCalls steps, call.isGroup = false

theorem mem_calls_self (step : Step) : step ∈ step.calls := by
  cases step <;> exact List.mem_cons_self

theorem mem_allCalls {call step : Step} {steps : List Step} (hstep : step ∈ steps)
    (hcall : call ∈ step.calls) : call ∈ allCalls steps := by
  induction steps with
  | nil => cases hstep
  | cons first rest ih =>
    rw [allCalls, List.mem_append]
    rcases List.mem_cons.mp hstep with rfl | hrest
    · exact .inl hcall
    · exact .inr (ih hrest)

theorem exists_of_mem_allCalls {call : Step} {steps : List Step} (h : call ∈ allCalls steps) :
    ∃ step ∈ steps, call ∈ step.calls := by
  induction steps with
  | nil => cases h
  | cons first rest ih =>
    rw [allCalls, List.mem_append] at h
    rcases h with h | h
    · exact ⟨first, List.mem_cons_self, h⟩
    · obtain ⟨step, hstep, hcall⟩ := ih h
      exact ⟨step, List.mem_cons_of_mem _ hstep, hcall⟩

/-- Of the calls themselves, none makes a group: then there is none inside either. -/
theorem haveNoGroup_iff (steps : List Step) :
    HaveNoGroup steps ↔ ∀ step ∈ steps, step.isGroup = false := by
  constructor
  · intro h step hstep
    exact h step (mem_allCalls hstep step.mem_calls_self)
  · intro h call hcall
    obtain ⟨step, hstep, hcall⟩ := exists_of_mem_allCalls hcall
    rw [calls_of_not_isGroup (h step hstep), List.mem_singleton] at hcall
    rw [hcall]
    exact h step hstep

/-- Without raw calls, what opens or closes a group in a built list is a call that makes one. -/
theorem brackets_eq_nil {step : Step} (hraw : step.isRaw = false) (hgroup : step.isGroup = false) :
    step.brackets = [] := by
  cases step with
  | group kind steps => cases hgroup
  | marker m => cases hraw
  | _ => rfl

end Step

namespace Conditions

/-- The first open or close marker of a built list opens a group. -/
theorem isOpen_of_brackets_build {steps : List Step}
    (hraw : ∀ step ∈ steps, step.isRaw = false) {m : Marker} {later : List Marker}
    (h : brackets (build steps) = m :: later) : m.isOpen = true := by
  rw [brackets_build] at h
  induction steps with
  | nil => cases h
  | cons step rest ih =>
    obtain ⟨hstep, hrest⟩ := List.forall_mem_cons.mp hraw
    rw [List.flatMap_cons] at h
    by_cases hgroup : step.isGroup = true
    · cases step with
      | group kind steps =>
        obtain ⟨rfl, -⟩ := List.cons_eq_cons.mp h
        cases kind <;> rfl
      | _ => cases hgroup
    · rw [Step.brackets_eq_nil hstep (Bool.not_eq_true _ ▸ hgroup)] at h
      exact ih hrest h

theorem brackets_build_eq_nil_iff {steps : List Step}
    (hraw : ∀ step ∈ steps, step.isRaw = false) :
    brackets (build steps) = [] ↔ Step.HaveNoGroup steps := by
  rw [brackets_build, List.flatMap_eq_nil_iff, Step.haveNoGroup_iff]
  constructor
  · intro h step hstep
    have hnil := h step hstep
    cases step with
    | group kind steps => cases hnil
    | _ => rfl
  · intro h step hstep
    exact Step.brackets_eq_nil (hraw step hstep) (h step hstep)

/-- Behind an open marker, pairs of an open and a close marker go on with the close marker. -/
theorem exists_kinds_of_open {kind : GroupKind} {inside later : List Marker}
    {kinds : List GroupKind} (hinside : ∀ m rest, inside = m :: rest → m.isOpen = true)
    (h : kind.open :: inside ++ [kind.close] ++ later =
      kinds.flatMap fun kind => [kind.open, kind.close]) :
    inside = [] ∧ ∃ rest : List GroupKind,
      later = rest.flatMap fun kind => [kind.open, kind.close] := by
  cases kinds with
  | nil => cases h
  | cons first rest =>
    simp only [List.flatMap_cons, List.cons_append, List.nil_append, List.cons.injEq] at h
    obtain ⟨-, h⟩ := h
    cases inside with
    | nil => exact ⟨rfl, rest, (List.cons_eq_cons.mp h).2⟩
    | cons m inside =>
      have hm : m = first.close := (List.cons_eq_cons.mp h).1
      have hopen := hinside m inside rfl
      rw [hm] at hopen
      cases first <;> cases hopen

/-- A built list is flat exactly if no group of it has an open or close marker inside. -/
theorem isFlat_build_iff_brackets {steps : List Step}
    (hraw : ∀ step ∈ steps, step.isRaw = false)
    (hinner : ∀ kind inner, .group kind inner ∈ steps → ∀ step ∈ inner, step.isRaw = false) :
    (build steps).IsFlat ↔
      ∀ kind inner, .group kind inner ∈ steps → brackets (build inner) = [] := by
  rw [IsFlat, brackets_build]
  induction steps with
  | nil => exact ⟨fun _ _ _ h => (nomatch h), fun _ => ⟨[], rfl⟩⟩
  | cons step rest ih =>
    obtain ⟨hstep, hrest⟩ := List.forall_mem_cons.mp hraw
    have ih := ih hrest fun kind inner h => hinner kind inner (List.mem_cons_of_mem _ h)
    rw [List.flatMap_cons]
    by_cases hgroup : step.isGroup = true
    · cases step with
      | group kind inner =>
        have hopen : ∀ m later, brackets (build inner) = m :: later → m.isOpen = true :=
          fun m later => isOpen_of_brackets_build (hinner kind inner List.mem_cons_self)
        constructor
        · intro h
          obtain ⟨kinds, h⟩ := h
          obtain ⟨hnil, hlater⟩ := exists_kinds_of_open hopen h
          intro kind' inner' hmem
          rcases List.mem_cons.mp hmem with heq | hmem
          · cases heq
            exact hnil
          · exact ih.mp hlater kind' inner' hmem
        · intro h
          obtain ⟨kinds, hkinds⟩ := ih.mpr fun kind' inner' hmem =>
            h kind' inner' (List.mem_cons_of_mem _ hmem)
          refine ⟨kind :: kinds, ?_⟩
          rw [Step.brackets, h kind inner List.mem_cons_self, hkinds]
          rfl
      | _ => cases hgroup
    · rw [Step.brackets_eq_nil hstep (Bool.not_eq_true _ ▸ hgroup), List.nil_append, ih]
      have hne : ∀ kind inner, .group kind inner ≠ step := by
        intro kind inner heq
        rw [← heq] at hgroup
        exact hgroup rfl
      simp only [List.mem_cons, hne, false_or]

/-- The groups of a built list stand side by side exactly if none was made inside another. -/
theorem isFlat_build_iff {steps : List Step} (hfluent : Step.AreFluent steps) :
    (build steps).IsFlat ↔
      ∀ kind inner, .group kind inner ∈ Step.allCalls steps → Step.HaveNoGroup inner := by
  have hraw : ∀ step ∈ steps, step.isRaw = false := fun step hstep =>
    hfluent step (Step.mem_allCalls hstep step.mem_calls_self)
  have hinner : ∀ kind inner, .group kind inner ∈ steps → ∀ step ∈ inner, step.isRaw = false := by
    intro kind inner hgroup step hstep
    have hcall : step ∈ Step.allCalls inner := Step.mem_allCalls hstep step.mem_calls_self
    exact hfluent step (Step.mem_allCalls hgroup (List.mem_cons_of_mem _ hcall))
  rw [isFlat_build_iff_brackets hraw hinner]
  constructor
  · intro h kind inner hcall
    obtain ⟨step, hstep, hcall⟩ := Step.exists_of_mem_allCalls hcall
    by_cases hgroup : step.isGroup = true
    · cases step with
      | group kind' inner' =>
        have hnone : Step.HaveNoGroup inner' :=
          (brackets_build_eq_nil_iff (hinner kind' inner' hstep)).mp (h kind' inner' hstep)
        rcases List.mem_cons.mp hcall with heq | hcall
        · cases heq
          exact hnone
        · -- there is no group inside the group
          cases hnone _ hcall
      | _ => cases hgroup
    · rw [Step.calls_of_not_isGroup (Bool.not_eq_true _ ▸ hgroup), List.mem_singleton] at hcall
      rw [← hcall] at hgroup
      exact absurd rfl hgroup
  · intro h kind inner hgroup
    exact (brackets_build_eq_nil_iff (hinner kind inner hgroup)).mpr
      (h kind inner (Step.mem_allCalls hgroup (Step.mem_calls_self _)))

end Conditions

/-! ## Predicates of a built list -/

namespace Predicate

/-- The operand has the shape that the test of the predicate asks for, in its own slot and moved to
should, once the predicate is valid. -/
def Fits (p : Predicate) : Prop :=
  p.validate = .ok () → ∀ disjunctive, ∃ test, (p.placed disjunctive).clauseTest = .ok test

theorem renders_iff (p : Predicate) :
    p.Renders ↔ p.validate = .ok () ∧ ∃ test, p.clauseTest = .ok test := exists_render_iff p

/-- Whether a predicate is valid does not hang on the slot it goes to. -/
theorem validate_placed (p : Predicate) (disjunctive : Bool) :
    (p.placed disjunctive).validate = p.validate := by
  cases disjunctive <;> rfl

theorem validate_unboosted (p : Predicate) :
    p.unboosted.validate = .ok () ↔ p.validate = .ok () := Iff.rfl

theorem Fits.renders_placed_iff {p : Predicate} (h : p.Fits) (disjunctive : Bool) :
    (p.placed disjunctive).Renders ↔ p.validate = .ok () := by
  rw [renders_iff, validate_placed]
  exact ⟨fun hrenders => hrenders.1, fun hvalid => ⟨hvalid, h hvalid disjunctive⟩⟩

theorem fits_unboosted (p : Predicate) : p.unboosted.Fits ↔ p.Fits := by
  have htest : ∀ disjunctive, (p.unboosted.placed disjunctive).clauseTest =
      (p.placed disjunctive).clauseTest := by
    intro disjunctive
    cases disjunctive <;> rfl
  simp only [Fits, htest]
  rfl

end Predicate

namespace Step

/-- The builder gives every predicate an operand that fits. -/
theorem fits_of_mem_predicates {call : Step} (hraw : call.isRaw = false) {p : Predicate}
    (hp : p ∈ call.predicates) : p.Fits := by
  intro hvalid disjunctive
  cases call with
  | compare comparison field value =>
    cases List.mem_singleton.mp hp
    cases comparison <;> cases disjunctive <;> exact ⟨_, rfl⟩
  | between field low high | notBetween field low high =>
    cases List.mem_singleton.mp hp
    cases disjunctive <;> exact ⟨_, rfl⟩
  | present field | absent field =>
    cases List.mem_singleton.mp hp
    cases disjunctive <;> exact ⟨_, rfl⟩
  | among field values | notAmong field values =>
    cases List.mem_singleton.mp hp
    cases values with
    | nil =>
      -- the empty set of values is not valid
      rw [Predicate.validate] at hvalid
      split at hvalid <;> cases hvalid
    | cons value rest => cases disjunctive <;> exact ⟨_, rfl⟩
  | batch predicates => cases hraw
  | marker m => cases hraw
  | boost weight | orChain | group kind steps => cases hp

/-- The predicates of a call are valid exactly if its field is not blank and its set of values not
empty. -/
theorem forall_validate_iff {call : Step} (hraw : call.isRaw = false) :
    (∀ p ∈ call.predicates, p.validate = .ok ()) ↔
      (∀ field, call.field? = some field → Text.isBlank field = false) ∧
        ∀ values, call.values? = some values → values ≠ [] := by
  have hblank : ∀ field : String,
      ((if Text.isBlank field then .error .blankField else .ok ()) :
        Except PredicateFault Unit) = .ok () ↔ Text.isBlank field = false := by
    intro field
    cases Text.isBlank field <;> simp
  cases call with
  | compare comparison field value =>
    have hvalid : (Predicate.make field comparison.kind.1 comparison.kind.2
        (.single value)).validate =
          if Text.isBlank field then .error .blankField else .ok () := by
      cases comparison <;> rfl
    simp [predicates, field?, values?, hvalid, hblank]
  | between field low high | notBetween field low high =>
    simp [predicates, field?, values?, Predicate.validate, Predicate.make, hblank]
  | present field | absent field =>
    simp [predicates, field?, values?, Predicate.validate, Predicate.make, hblank]
  | among field values | notAmong field values =>
    cases values with
    | nil =>
      simp only [predicates, values?, List.forall_mem_singleton, Predicate.validate,
        Predicate.make]
      cases Text.isBlank field <;> simp
    | cons value rest =>
      simp [predicates, field?, values?, Predicate.validate, Predicate.make, hblank]
  | batch predicates => cases hraw
  | marker m => cases hraw
  | boost weight | orChain | group kind steps => simp [predicates, field?, values?]

/-- The calls are at no fault. -/
structure AreSound (steps : List Step) : Prop where
  /-- No call inside a group makes a group. -/
  groups_apart : ∀ kind inner, .group kind inner ∈ allCalls steps → HaveNoGroup inner
  fields_named : ∀ call ∈ allCalls steps, ∀ field, call.field? = some field →
    Text.isBlank field = false
  sets_filled : ∀ call ∈ allCalls steps, ∀ values, call.values? = some values → values ≠ []

end Step

/-! ## Main results -/

namespace Conditions

/-- A list of predicates that fit compiles exactly if it is flat and its predicates are valid,
whatever is moved to should. -/
theorem compile_iff_of_fits {conditions : Conditions} (hfits : ∀ p ∈ conditions.predicates, p.Fits)
    (geo : Option GeoFilter) :
    (∃ query, conditions.compile geo = .ok query) ↔
      conditions.IsFlat ∧ ∀ p ∈ conditions.predicates, p.validate = .ok () := by
  have hrender : ∀ parts, conditions = Part.flatten parts →
      (Part.AllRenderFrom false parts ↔ ∀ p ∈ conditions.predicates, p.validate = .ok ()) := by
    intro parts hparts
    subst hparts
    rw [predicates_flatten] at hfits ⊢
    constructor
    · intro h p hp
      obtain ⟨part, hpart, hmem⟩ := List.mem_flatMap.mp hp
      obtain ⟨i, hi⟩ := List.mem_iff_getElem?.mp hpart
      exact ((hfits p hp).renders_placed_iff _).mp (h i part hi p hmem)
    · intro h i part hi p hmem
      have hp := List.mem_flatMap.mpr ⟨part, List.mem_of_getElem? hi, hmem⟩
      exact ((hfits p hp).renders_placed_iff _).mpr (h p hp)
  constructor
  · intro h
    obtain ⟨query, h⟩ := h
    obtain ⟨parts, hparts⟩ := exists_parts_of_compile h
    refine ⟨(isFlat_iff_exists_parts _).mpr ⟨parts, hparts⟩, (hrender parts hparts).mp ?_⟩
    rw [hparts] at h
    exact (compile_flatten_eq_ok_iff.mp h).1
  · intro h
    obtain ⟨hflat, hvalid⟩ := h
    obtain ⟨parts, hparts⟩ := (isFlat_iff_exists_parts _).mp hflat
    have hparts' := (hrender parts hparts).mpr hvalid
    rw [hparts]
    exact ⟨_, compile_flatten_eq_ok_iff.mpr ⟨hparts', rfl⟩⟩

/-- **Which built lists compile.** The list that builder calls make compiles exactly if no group is
made inside a group, no field is blank and no set of values is empty, whatever the calls, their
values and the spatial filter. Else it fails, with a validation error. -/
theorem build_compiles_iff {steps : List Step} (hfluent : Step.AreFluent steps)
    (geo : Option GeoFilter) :
    ((∃ query, (build steps).compile geo = .ok query) ↔ Step.AreSound steps) ∧
      (¬ Step.AreSound steps → ∃ fault, (build steps).compile geo = .error fault ∧
        ({ conditions := build steps, geo } : SearchQuery).compiled =
          .error (.validation (.conditions fault))) := by
  have hfits : ∀ p ∈ (build steps).predicates, p.Fits := by
    refine (forall_predicates_build Predicate.fits_unboosted steps).mpr ?_
    intro call hcall p hp
    exact Step.fits_of_mem_predicates (hfluent call hcall) hp
  have hvalid : (∀ p ∈ (build steps).predicates, p.validate = .ok ()) ↔
      ∀ call ∈ Step.allCalls steps, ∀ p ∈ call.predicates, p.validate = .ok () :=
    forall_predicates_build Predicate.validate_unboosted steps
  have hiff : (∃ query, (build steps).compile geo = .ok query) ↔ Step.AreSound steps := by
    rw [compile_iff_of_fits hfits, isFlat_build_iff hfluent, hvalid]
    constructor
    · intro h
      obtain ⟨hgroups, hcalls⟩ := h
      have hsound := fun call hcall =>
        (Step.forall_validate_iff (hfluent call hcall)).mp (hcalls call hcall)
      exact ⟨hgroups, fun call hcall => (hsound call hcall).1,
        fun call hcall => (hsound call hcall).2⟩
    · intro h
      refine ⟨h.groups_apart, fun call hcall => ?_⟩
      exact (Step.forall_validate_iff (hfluent call hcall)).mpr
        ⟨h.fields_named call hcall, h.sets_filled call hcall⟩
  refine ⟨hiff, ?_⟩
  intro hnot
  cases hcompile : (build steps).compile geo with
  | ok query => exact absurd (hiff.mp ⟨query, hcompile⟩) hnot
  | error fault =>
    refine ⟨fault, rfl, ?_⟩
    simp only [SearchQuery.compiled, hcompile]

/-- A condition with a boost and a group of alternatives compile; a group in a group does not. -/
theorem build_compiles_iff_groups :
    (∃ query, (build [.compare .eq "name" (.string "Ada"), .boost ⟨0x40000000⟩,
      .group .any [.orChain, .among "city" [.string "Rome"], .absent "closed"]]).compile none =
        .ok query) ∧
      ∃ fault, (build [.group .all [.group .any [.present "name"]]]).compile none =
        .error fault := by
  constructor
  · have hfluent : Step.AreFluent [.compare .eq "name" (.string "Ada"), .boost ⟨0x40000000⟩,
        .group .any [.orChain, .among "city" [.string "Rome"], .absent "closed"]] := by
      simp [Step.AreFluent, Step.allCalls, Step.calls, Step.isRaw]
    refine (build_compiles_iff hfluent none).1.mpr ⟨?_, ?_, ?_⟩
    · simp [Step.HaveNoGroup, Step.allCalls, Step.calls, Step.isGroup]
    · simp only [Step.allCalls, Step.calls, List.append_nil, List.cons_append, List.nil_append,
        List.forall_mem_cons, Step.field?, Option.some.injEq, forall_eq']
      decide
    · simp [Step.allCalls, Step.calls, Step.values?]
  · have hfluent : Step.AreFluent [.group .all [.group .any [.present "name"]]] := by
      simp [Step.AreFluent, Step.allCalls, Step.calls, Step.isRaw]
    obtain ⟨fault, hfault, -⟩ := (build_compiles_iff hfluent none).2 fun hsound => by
      have hinner := hsound.groups_apart .all [.group .any [.present "name"]] List.mem_cons_self
      cases hinner (.group .any [.present "name"]) List.mem_cons_self
    exact ⟨fault, hfault⟩

end Conditions
end SearchMapper
