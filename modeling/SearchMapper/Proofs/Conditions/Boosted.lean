import SearchMapper.Proofs.Conditions.Appended
import SearchMapper.Proofs.Conditions.Built

/-!
# Boosts

A boost goes to the last predicate of a list, wherever markers and empty batches stand after it, and
leaves everything else as it was. In a group it stays in the group. Nothing that compiling decides
hangs on a boost: with the boosts taken off, a list compiles to what it compiles to otherwise,
less the boosts, or fails for the same fault.
-/

namespace SearchMapper

/-! ## The last predicate -/

namespace Conditions

variable {weight : Single}

theorem boostLast_append (weight : Single) (predicates : List Predicate) (p : Predicate) :
    boostLast weight (predicates ++ [p]) = predicates ++ [p.withBoost weight] := by
  induction predicates with
  | nil => rfl
  | cons first rest ih =>
    have hstep : boostLast weight (first :: (rest ++ [p])) =
        first :: boostLast weight (rest ++ [p]) := by
      cases rest <;> rfl
    rw [List.cons_append, hstep, ih]
    rfl

theorem predicates_eq_nil_iff {conditions : Conditions} :
    predicates conditions = [] ↔ ∀ e ∈ conditions, e.predicates = [] := List.flatMap_eq_nil_iff

/-- The search goes past entries without predicates. -/
theorem boostFirst_append {passed : List Entry} (h : ∀ e ∈ passed, e.predicates = [])
    (rest : List Entry) : boostFirst weight (passed ++ rest) = passed ++ boostFirst weight rest := by
  induction passed with
  | nil => rfl
  | cons e passed ih =>
    obtain ⟨he, hpassed⟩ := List.forall_mem_cons.mp h
    have hstep : boostFirst weight (e :: (passed ++ rest)) =
        e :: boostFirst weight (passed ++ rest) := by
      cases e with
      | marker m => rfl
      | batch predicates =>
        obtain rfl : predicates = [] := he
        rfl
    rw [List.cons_append, hstep, ih hpassed]
    rfl

/-- Without predicates there is nothing to boost. -/
theorem boost_of_predicates_eq_nil {conditions : Conditions} (h : predicates conditions = [])
    (weight : Single) : boost weight conditions = conditions := by
  have hnone : ∀ e ∈ conditions.reverse, e.predicates = [] := fun e he =>
    predicates_eq_nil_iff.mp h e (List.mem_reverse.mp he)
  have hsearch : boostFirst weight (conditions.reverse ++ []) =
      conditions.reverse ++ boostFirst weight [] := boostFirst_append hnone []
  rw [List.append_nil, boostFirst, List.append_nil] at hsearch
  rw [boost, hsearch, List.reverse_reverse]

/-- The predicate that ends the last batch with predicates is the one that is boosted. -/
theorem boost_append (before : Conditions) (ps : List Predicate) (p : Predicate)
    {after : Conditions} (hafter : predicates after = []) (weight : Single) :
    boost weight (before ++ .batch (ps ++ [p]) :: after) =
      before ++ .batch (ps ++ [p.withBoost weight]) :: after := by
  have hnone : ∀ e ∈ after.reverse, e.predicates = [] := fun e he =>
    predicates_eq_nil_iff.mp hafter e (List.mem_reverse.mp he)
  have hreverse : ∀ q : Predicate, (before ++ .batch (ps ++ [q]) :: after).reverse =
      after.reverse ++ .batch (ps ++ [q]) :: before.reverse := by
    intro q
    simp only [List.reverse_append, List.reverse_cons, List.append_assoc, List.singleton_append]
  have hfound : boostFirst weight (.batch (ps ++ [p]) :: before.reverse) =
      .batch (ps ++ [p.withBoost weight]) :: before.reverse := by
    rw [← boostLast_append]
    cases ps <;> rfl
  rw [boost, hreverse, boostFirst_append hnone, hfound, ← hreverse, List.reverse_reverse]

/-- A list with predicates has a last one, which ends a batch. -/
theorem exists_last_predicate {conditions : Conditions} (h : predicates conditions ≠ []) :
    ∃ before ps p after, conditions = before ++ .batch (ps ++ [p]) :: after ∧
      predicates after = [] := by
  induction conditions with
  | nil => exact absurd rfl h
  | cons e rest ih =>
    by_cases hrest : predicates rest = []
    · -- the predicates are those of the first entry
      have he : e.predicates ≠ [] := by
        intro hnone
        exact h (predicates_eq_nil_iff.mpr
          (List.forall_mem_cons.mpr ⟨hnone, predicates_eq_nil_iff.mp hrest⟩))
      cases e with
      | marker m => exact absurd rfl he
      | batch predicates =>
        obtain ⟨ps, p, rfl⟩ := List.eq_nil_or_concat' predicates |>.resolve_left he
        exact ⟨[], ps, p, rest, rfl, hrest⟩
    · -- the last predicate of the rest is the last one of all
      obtain ⟨before, ps, p, after, rfl, hafter⟩ := ih hrest
      exact ⟨e :: before, ps, p, after, rfl, hafter⟩

/-- A second boost takes the place of the first. -/
theorem boost_boost (first second : Single) (conditions : Conditions) :
    boost second (boost first conditions) = boost second conditions := by
  by_cases h : predicates conditions = []
  · rw [boost_of_predicates_eq_nil h first]
  · obtain ⟨before, ps, p, after, rfl, hafter⟩ := exists_last_predicate h
    rw [boost_append _ _ _ hafter, boost_append _ _ _ hafter, boost_append _ _ _ hafter]
    rfl

/-! ## Boosts in groups -/

theorem extendAll_append (conditions : Conditions) (first later : List Step) :
    extendAll conditions (first ++ later) = extendAll (extendAll conditions first) later := by
  induction first generalizing conditions with
  | nil => rfl
  | cons step rest ih =>
    rw [List.cons_append, extendAll, ih]
    rfl

/-- A boost before the first predicate does nothing. -/
theorem build_boost {first : List Step} (h : predicates (build first) = []) (weight : Single)
    (later : List Step) : build (first ++ .boost weight :: later) = build (first ++ later) := by
  have hboost : extend (build first) (.boost weight) = build first :=
    boost_of_predicates_eq_nil h weight
  unfold build at hboost ⊢
  rw [extendAll_append, extendAll, hboost, extendAll_append]

end Conditions

/-! ## Boosts taken off compiled queries -/

mutual
/-- The fragment without the boosts of its tests. -/
def Fragment.unboosted : Fragment → Fragment
  | .leaf l => .leaf { l with boost := none }
  | .not inner => .not inner.unboosted
  | .bool ⟨must, filter, should, mustNot⟩ =>
    .bool ⟨Fragment.allUnboosted must, Fragment.allUnboosted filter,
      Fragment.allUnboosted should, Fragment.allUnboosted mustNot⟩

/-- The fragments of a list without their boosts. -/
def Fragment.allUnboosted : List Fragment → List Fragment
  | [] => []
  | fragment :: rest => fragment.unboosted :: Fragment.allUnboosted rest
end

/-- The spatial filter without its boost. -/
def GeoFilter.unboosted (filter : GeoFilter) : GeoFilter := { filter with boost := none }

theorem Fragment.allUnboosted_append (first second : List Fragment) :
    allUnboosted (first ++ second) = allUnboosted first ++ allUnboosted second := by
  induction first with
  | nil => rfl
  | cons fragment rest ih => exact congrArg (fragment.unboosted :: ·) ih

namespace BoolQuery

/-- The query without the boosts of its tests. -/
def unboosted (query : BoolQuery) : BoolQuery :=
  { must := Fragment.allUnboosted query.must
    filter := Fragment.allUnboosted query.filter
    should := Fragment.allUnboosted query.should
    mustNot := Fragment.allUnboosted query.mustNot }

theorem unboosted_bool (query : BoolQuery) :
    (Fragment.bool query).unboosted = .bool query.unboosted := by
  rw [Fragment.unboosted]
  rfl

theorem isEmpty_unboosted (query : BoolQuery) : query.unboosted.isEmpty = query.isEmpty := by
  have hslot : ∀ fragments : List Fragment,
      (Fragment.allUnboosted fragments).isEmpty = fragments.isEmpty := by
    intro fragments
    cases fragments <;> rfl
  simp only [Slots.isEmpty, unboosted, hslot]

/-- A fragment goes to the same slot with its boosts and without them. -/
theorem unboosted_add (query : BoolQuery) (occur : Occur) (fragment : Fragment) :
    (query.add occur fragment).unboosted = query.unboosted.add occur fragment.unboosted := by
  have hsingle : ∀ fragment, Fragment.allUnboosted [fragment] = [fragment.unboosted] :=
    fun _ => rfl
  cases occur <;> cases fragment <;>
    simp [add, Slots.push, unboosted, Fragment.unboosted, Fragment.allUnboosted_append, hsingle]

end BoolQuery

/-! ## Compiling without boosts -/

namespace Predicate

/-- A predicate is rendered the same, less its boost. -/
theorem render_unboosted (p : Predicate) :
    p.unboosted.render = p.render.map Fragment.unboosted := by
  have hvalid : p.unboosted.validate = p.validate := rfl
  have htest : p.unboosted.clauseTest = p.clauseTest := rfl
  have hnegated : p.unboosted.rendersNegated = p.rendersNegated := rfl
  unfold render
  rw [hvalid, htest, hnegated]
  cases p.validate with
  | error fault => rfl
  | ok _ =>
    cases p.clauseTest with
    | error fault => rfl
    | ok test => cases p.rendersNegated <;> rfl

theorem unboosted_placed (p : Predicate) (disjunctive : Bool) :
    p.unboosted.placed disjunctive = (p.placed disjunctive).unboosted := by
  cases disjunctive <;> rfl

end Predicate

theorem BoolQuery.addBatch_unboosted (query : BoolQuery) (chained : Bool)
    (predicates : List Predicate) :
    query.unboosted.addBatch chained (predicates.map Predicate.unboosted) =
      (query.addBatch chained predicates).map unboosted := by
  induction predicates generalizing query with
  | nil => rfl
  | cons p rest ih =>
    rw [List.map_cons, addBatch_cons, addBatch_cons, Predicate.unboosted_placed,
      Predicate.render_unboosted]
    cases (p.placed chained).render with
    | error fault => rfl
    | ok fragment =>
      have hadd := query.unboosted_add (p.placed chained).occur fragment
      show (query.unboosted.add (p.placed chained).occur fragment.unboosted).addBatch chained _ = _
      rw [← hadd]
      exact ih _

/-- The look ahead sees markers only. -/
theorem lookAhead_unboosted (opening : Marker) (openAt position : Nat) (chained : Bool)
    (entries : List Entry) :
    lookAhead opening openAt chained position (entries.map Entry.unboosted) =
      lookAhead opening openAt chained position entries := by
  induction entries generalizing chained position with
  | nil => rfl
  | cons e rest ih =>
    cases e with
    | batch predicates => exact ih (position + 1) chained
    | marker m =>
      cases m with
      | orChain => exact ih (position + 1) true
      | andOpen | orOpen => rfl
      | andClose | orClose =>
        rw [List.map_cons, Entry.unboosted, lookAhead_isClose rfl, lookAhead_isClose rfl]

namespace Compilation

/-- The state with the boosts taken off what was compiled so far. -/
def unboosted (state : Compilation) : Compilation :=
  { state with
    outer := state.outer.unboosted
    group := state.group.map fun group => { group with query := group.query.unboosted } }

theorem batch_unboosted (state : Compilation) (predicates : List Predicate) :
    state.unboosted.batch (predicates.map Predicate.unboosted) =
      (state.batch predicates).map unboosted := by
  obtain ⟨outer, group, chaining⟩ := state
  cases group with
  | none =>
    unfold batch unboosted
    simp only [Option.map_none, BoolQuery.addBatch_unboosted]
    cases outer.addBatch chaining predicates <;> rfl
  | some group =>
    unfold batch unboosted
    simp only [Option.map_some, BoolQuery.addBatch_unboosted]
    cases group.query.addBatch (chaining || group.chaining) predicates <;> rfl

theorem openGroup_unboosted (state : Compilation) (m : Marker) (position : Nat)
    (rest : List Entry) :
    state.unboosted.openGroup m position (rest.map Entry.unboosted) =
      (state.openGroup m position rest).map unboosted := by
  obtain ⟨outer, group, chaining⟩ := state
  cases group with
  | some group => rfl
  | none =>
    unfold openGroup unboosted
    simp only [Option.map_none, Option.isSome_none, Bool.false_eq_true, if_false,
      lookAhead_unboosted]
    cases lookAhead m position false (position + 1) rest <;> rfl

/-- A group leaves a clause behind or nothing, with its boosts and without them. -/
theorem closeGroup_unboosted (state : Compilation) (m : Marker) (position : Nat) :
    state.unboosted.closeGroup m position = (state.closeGroup m position).map unboosted := by
  obtain ⟨outer, group, chaining⟩ := state
  cases group with
  | none => rfl
  | some group =>
    unfold closeGroup unboosted
    by_cases hclose : group.opening.closing? = some m
    · simp only [Option.map_some, if_pos hclose, BoolQuery.isEmpty_unboosted]
      by_cases hempty : group.query.isEmpty = true
      · simp only [if_pos hempty]
        rfl
      · simp only [if_neg hempty]
        rw [← BoolQuery.unboosted_bool, ← BoolQuery.unboosted_add]
        rfl
    · simp only [Option.map_some, if_neg hclose]
      rfl

theorem bracket_unboosted (state : Compilation) (m : Marker) (position : Nat)
    (rest : List Entry) :
    state.unboosted.bracket m position (rest.map Entry.unboosted) =
      (state.bracket m position rest).map unboosted := by
  unfold bracket
  split
  · exact openGroup_unboosted state m position rest
  · exact closeGroup_unboosted state m position

theorem chain_unboosted (state : Compilation) : state.unboosted.chain = state.chain.unboosted := by
  obtain ⟨outer, group, chaining⟩ := state
  cases group <;> rfl

/-- The pass over a list without boosts keeps its state without boosts. -/
theorem run_unboosted (state : Compilation) (position : Nat) (entries : List Entry) :
    state.unboosted.run position (entries.map Entry.unboosted) =
      (state.run position entries).map unboosted := by
  induction entries generalizing state position with
  | nil => rfl
  | cons e rest ih =>
    rw [List.map_cons]
    rcases Conditions.exists_entry_or_bracket e with ⟨simple, rfl⟩ | ⟨m, hm, rfl⟩
    · cases simple with
      | batch predicates =>
        rw [SimpleEntry.entry, Entry.unboosted, run, run, batch_unboosted]
        cases state.batch predicates with
        | error fault => rfl
        | ok next => exact ih next (position + 1)
      | chain =>
        rw [SimpleEntry.entry, Entry.unboosted, run, run, chain_unboosted]
        exact ih state.chain (position + 1)
    · -- opening a group looks ahead at the rest of the list, which has its boosts taken off too
      rw [Entry.unboosted, run_bracket hm, run_bracket hm, bracket_unboosted]
      cases state.bracket m position rest with
      | error fault => rfl
      | ok next => exact ih next (position + 1)

theorem finish_unboosted (state : Compilation) (geo : Option GeoFilter) :
    state.unboosted.finish (geo.map GeoFilter.unboosted) =
      (state.finish geo).map BoolQuery.unboosted := by
  obtain ⟨outer, group, chaining⟩ := state
  cases group with
  | some group => rfl
  | none =>
    cases geo with
    | none => rfl
    | some filter =>
      exact congrArg Except.ok (outer.unboosted_add .filter (.ofGeo filter)).symm

end Compilation

namespace Conditions

/-- A list without boosts compiles to what the list compiles to, without boosts. -/
theorem compile_unboosted (conditions : Conditions) (geo : Option GeoFilter) :
    compile (conditions.map Entry.unboosted) (geo.map GeoFilter.unboosted) =
      (conditions.compile geo).map BoolQuery.unboosted := by
  have hrun := Compilation.run_unboosted {} 0 conditions
  have hempty : ({} : Compilation).unboosted = {} := rfl
  have hcompile : ∀ (list : Conditions) (filter : Option GeoFilter), list.compile filter =
      Compilation.run {} 0 list >>= fun state => state.finish filter := fun _ _ => rfl
  rw [hempty] at hrun
  rw [hcompile, hcompile, hrun]
  cases Compilation.run {} 0 conditions with
  | error fault => rfl
  | ok state => exact state.finish_unboosted geo

/-- A boost changes nothing about a compiled list but boosts. -/
theorem map_unboosted_compile_boost (weight : Single) (conditions : Conditions)
    (geo : Option GeoFilter) :
    ((boost weight conditions).compile geo).map BoolQuery.unboosted =
      (conditions.compile geo).map BoolQuery.unboosted := by
  rw [← compile_unboosted, map_unboosted_boost, compile_unboosted]

/-! ## Main result -/

/-- **A boost touches the last predicate only.** A list without predicates stays as it is; otherwise
the last of all predicates has the boost, and every entry, every other predicate and everything else
about that one are as they were. A second boost takes the place of the first. What is done in a
group leaves the list before it alone, and a boost before the first predicate of the group does
nothing at all. The boosted list is refused for the same fault as the list, if it is, and otherwise
compiles to the same query up to boosts. -/
theorem boost_touches_last_only (weight : Single) (conditions : Conditions) :
    (predicates conditions = [] → boost weight conditions = conditions) ∧
      (predicates conditions ≠ [] → ∃ before ps p after,
        conditions = before ++ .batch (ps ++ [p]) :: after ∧
        predicates conditions = predicates before ++ ps ++ [p] ∧ predicates after = [] ∧
        boost weight conditions =
          before ++ .batch (ps ++ [{ p with boost := some weight }]) :: after) ∧
      (∀ other, boost other (boost weight conditions) = boost other conditions) ∧
      (∀ kind steps, extend conditions (.group kind steps) =
        conditions ++ .marker kind.open :: build steps ++ [.marker kind.close]) ∧
      (∀ kind first later, predicates (build first) = [] →
        extend conditions (.group kind (first ++ .boost weight :: later)) =
          extend conditions (.group kind (first ++ later))) ∧
      ∀ geo,
        (∀ fault, (boost weight conditions).compile geo = .error fault ↔
          conditions.compile geo = .error fault) ∧
        ∀ query boosted, conditions.compile geo = .ok query →
          (boost weight conditions).compile geo = .ok boosted →
            boosted.unboosted = query.unboosted := by
  refine ⟨fun h => boost_of_predicates_eq_nil h weight, fun h => ?_,
    fun other => boost_boost weight other conditions, fun kind steps => ?_,
    fun kind first later hfirst => ?_, fun geo => ?_⟩
  · obtain ⟨before, ps, p, after, rfl, hafter⟩ := exists_last_predicate h
    refine ⟨before, ps, p, after, rfl, ?_, hafter, boost_append before ps p hafter weight⟩
    have hbatch : predicates (.batch (ps ++ [p]) :: after) = ps ++ [p] := by
      rw [predicates, List.flatMap_cons]
      exact (congrArg (ps ++ [p] ++ ·) hafter).trans (List.append_nil _)
    rw [predicates_append, hbatch, List.append_assoc]
  · rw [extend, grouped, ← build, List.append_assoc]
  · have hinner := build_boost hfirst weight later
    unfold build at hinner
    rw [extend, extend, hinner]
  · have hsame := map_unboosted_compile_boost weight conditions geo
    constructor
    · intro fault
      rw [← Except.map_eq_error_iff, hsame, Except.map_eq_error_iff]
    · intro query boosted hquery hboosted
      rw [hquery, hboosted] at hsame
      exact Except.ok.inj hsame

end Conditions
end SearchMapper
