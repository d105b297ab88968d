import SearchMapper.Fragment.OfConditions
import SearchMapper.Proofs.Conditions.Parts
import SearchMapper.Proofs.Fragment.Slots

/-!
# What the parts of a condition list stand for

The boolean query of a list of parts, said by position and without a pass over the list. A
predicate is disjunctive if a chain marker outside all groups stands before its part, or if its
own group contains a chain marker, wherever it stands there. Each part contributes the clauses
of its predicates, a group as one fragment, and the query is what the parts contribute, in
order.
-/

namespace SearchMapper

/-! ## Predicates -/

namespace Predicate

/-- The predicate as it takes part in a query, moved to should if it is disjunctive. -/
def placed (p : Predicate) (disjunctive : Bool) : Predicate :=
  if disjunctive then p.reclassify else p

/-- The predicate can be rendered. -/
def Renders (p : Predicate) : Prop := ∃ fragment, p.render = .ok fragment

/-- What a predicate contributes to a query: its fragment, attached to its slot. One that cannot
be rendered contributes nothing. -/
def clauses (p : Predicate) : BoolQuery :=
  match p.render with
  | .ok fragment => BoolQuery.add {} p.occur fragment
  | .error _ => {}

theorem clauses_of_render {p : Predicate} {fragment : Fragment} (h : p.render = .ok fragment) :
    p.clauses = BoolQuery.add {} p.occur fragment := by
  rw [clauses, h]

end Predicate

/-- What predicates contribute to a query, in order. -/
def BoolQuery.ofPredicates (disjunctive : Bool) (predicates : List Predicate) : BoolQuery :=
  Slots.concat (predicates.map fun p => (p.placed disjunctive).clauses)

/-- The predicates can be rendered where they are placed. -/
def AllRender (disjunctive : Bool) (predicates : List Predicate) : Prop :=
  ∀ p ∈ predicates, (p.placed disjunctive).Renders

namespace BoolQuery

@[simp] theorem ofPredicates_nil (disjunctive : Bool) : ofPredicates disjunctive [] = {} := rfl

@[simp] theorem ofPredicates_cons (disjunctive : Bool) (p : Predicate) (rest : List Predicate) :
    ofPredicates disjunctive (p :: rest) =
      (p.placed disjunctive).clauses ++ ofPredicates disjunctive rest := rfl

theorem ofPredicates_append (disjunctive : Bool) (first second : List Predicate) :
    ofPredicates disjunctive (first ++ second) =
      ofPredicates disjunctive first ++ ofPredicates disjunctive second := by
  rw [ofPredicates, List.map_append, Slots.concat_append]
  rfl

/-- Predicates that can be rendered leave no clauses only if there are none of them. -/
theorem isEmpty_ofPredicates {disjunctive : Bool} {predicates : List Predicate}
    (h : AllRender disjunctive predicates) :
    (ofPredicates disjunctive predicates).isEmpty = predicates.isEmpty := by
  cases predicates with
  | nil => rfl
  | cons p rest =>
    obtain ⟨fragment, hp⟩ := h p List.mem_cons_self
    rw [ofPredicates_cons, Predicate.clauses_of_render hp, Bool.eq_iff_iff, Slots.isEmpty_append,
      isEmpty_add]
    simp only [Bool.false_eq_true, false_and, List.isEmpty_cons]

/-- The clauses of a spatial filter: its fragment under filter. -/
def ofGeo : Option GeoFilter → BoolQuery
  | some geo => add {} .filter (.ofGeo geo)
  | none => {}

end BoolQuery

namespace AllRender

theorem nil (disjunctive : Bool) : AllRender disjunctive [] := fun _ h => nomatch h

theorem append_iff {disjunctive : Bool} {first second : List Predicate} :
    AllRender disjunctive (first ++ second) ↔
      AllRender disjunctive first ∧ AllRender disjunctive second := by
  simp only [AllRender, List.mem_append]
  constructor
  · intro h
    exact ⟨fun p hp => h p (.inl hp), fun p hp => h p (.inr hp)⟩
  · intro h p hp
    obtain ⟨hfirst, hsecond⟩ := h
    rcases hp with hp | hp
    · exact hfirst p hp
    · exact hsecond p hp

theorem cons_iff {disjunctive : Bool} {p : Predicate} {rest : List Predicate} :
    AllRender disjunctive (p :: rest) ↔
      (p.placed disjunctive).Renders ∧ AllRender disjunctive rest :=
  List.forall_mem_cons

end AllRender

/-! ## Parts -/

/-- The slot of a group: an AND group must match, an OR group is an alternative. -/
def GroupKind.occur : GroupKind → Occur
  | all => .must
  | any => .should

namespace Part

/-- What a part contributes to the outer query, by whether a chain marker outside all groups
stands before it. A group with predicates is one fragment, which holds what they contribute; a
group without predicates contributes nothing. -/
def clauses (chained : Bool) : Part → BoolQuery
  | simple e => BoolQuery.ofPredicates chained e.predicates
  | group kind body =>
    let part := group kind body
    let inner := BoolQuery.ofPredicates (chained || part.holdsChain) part.predicates
    if part.predicates.isEmpty then {} else BoolQuery.add {} kind.occur (.bool inner)

theorem clauses_group (chained : Bool) (kind : GroupKind) (body : List SimpleEntry) :
    (group kind body).clauses chained =
      if (body.flatMap SimpleEntry.predicates).isEmpty then {}
      else
        BoolQuery.add {} kind.occur (.bool (BoolQuery.ofPredicates (chained || body.contains .chain)
          (body.flatMap SimpleEntry.predicates))) := rfl

/-- The predicates of a part can be rendered where they are placed. -/
def Renders (chained : Bool) (part : Part) : Prop :=
  AllRender (chained || part.holdsChain) part.predicates

/-- A chain marker outside all groups stands before a position. -/
def chainBefore (parts : List Part) (position : Nat) : Bool :=
  (parts.take position).contains (.simple .chain)

/-- What parts contribute to the outer query, in order, after a list in which a chain marker
outside all groups has been passed or not. -/
def query (chained : Bool) (parts : List Part) : BoolQuery :=
  Slots.concat (parts.mapIdx fun i part => part.clauses (chained || chainBefore parts i))

/-- The predicates of all parts can be rendered where they are placed. -/
def AllRenderFrom (chained : Bool) (parts : List Part) : Prop :=
  ∀ (i : Nat) (part : Part), parts[i]? = some part → part.Renders (chained || chainBefore parts i)

theorem chainBefore_cons_succ (part : Part) (rest : List Part) (i : Nat) :
    chainBefore (part :: rest) (i + 1) = ((part == .simple .chain) || chainBefore rest i) := by
  rw [chainBefore, List.take_succ_cons, List.contains_cons, Bool.beq_comm]
  rfl

@[simp] theorem query_nil (chained : Bool) : query chained [] = {} := rfl

/-- The first part stands before the others, so it tells them of a chain marker. -/
theorem query_cons (chained : Bool) (part : Part) (rest : List Part) :
    query chained (part :: rest) =
      part.clauses chained ++ query (chained || (part == .simple .chain)) rest := by
  rw [query, List.mapIdx_cons, Slots.concat_cons]
  simp only [chainBefore_cons_succ, ← Bool.or_assoc]
  have hfirst : (chained || chainBefore (part :: rest) 0) = chained := Bool.or_false chained
  rw [hfirst]
  rfl

theorem allRenderFrom_nil (chained : Bool) : AllRenderFrom chained [] := fun _ _ h => nomatch h

theorem allRenderFrom_cons (chained : Bool) (part : Part) (rest : List Part) :
    AllRenderFrom chained (part :: rest) ↔
      part.Renders chained ∧ AllRenderFrom (chained || (part == .simple .chain)) rest := by
  have hfirst : (chained || chainBefore (part :: rest) 0) = chained := Bool.or_false chained
  constructor
  · intro h
    refine ⟨hfirst ▸ h 0 part rfl, fun i other hother => ?_⟩
    have hi := h (i + 1) other hother
    rwa [chainBefore_cons_succ, ← Bool.or_assoc] at hi
  · intro h i other hother
    obtain ⟨hpart, hrest⟩ := h
    cases i with
    | zero =>
      cases hother
      rwa [hfirst]
    | succ i =>
      rw [chainBefore_cons_succ, ← Bool.or_assoc]
      exact hrest i other hother

end Part
end SearchMapper
