import SearchMapper.Proofs.Conditions.Reference
import SearchMapper.Proofs.Outcome

/-!
# The pass over a condition list

The compiler walks a list once, looks ahead at each open marker and switches the query it adds
to. Here its steps are told apart: what a batch adds, what the look ahead answers, and what the
pass does with a group as a whole. One step of the induction takes a part of the list;
`Compilation.run_flatten` is the whole pass.
-/

namespace SearchMapper

/-! ## Batches -/

theorem BoolQuery.addBatch_cons (query : BoolQuery) (chained : Bool) (p : Predicate)
    (rest : List Predicate) :
    query.addBatch chained (p :: rest) =
      (p.placed chained).render >>= fun fragment =>
        (query.add (p.placed chained).occur fragment).addBatch chained rest := rfl

/-- A batch is added exactly if its predicates can be rendered, and adds what they contribute. -/
theorem BoolQuery.addBatch_eq_ok_iff {chained : Bool} {predicates : List Predicate}
    {query result : BoolQuery} :
    query.addBatch chained predicates = .ok result ↔
      AllRender chained predicates ∧ result = query ++ ofPredicates chained predicates := by
  induction predicates generalizing query with
  | nil =>
    rw [addBatch, ofPredicates_nil, Slots.append_empty, Except.ok.injEq]
    exact ⟨fun h => ⟨AllRender.nil chained, h.symm⟩, fun h => h.2.symm⟩
  | cons p rest ih =>
    rw [addBatch_cons, Except.bind_eq_ok_iff, AllRender.cons_iff]
    constructor
    · intro h
      obtain ⟨fragment, hp, h⟩ := h
      obtain ⟨hrest, rfl⟩ := ih.mp h
      refine ⟨⟨⟨fragment, hp⟩, hrest⟩, ?_⟩
      rw [ofPredicates_cons, Predicate.clauses_of_render hp, ← Slots.append_assoc, ← add_eq_append]
    · intro h
      obtain ⟨⟨⟨fragment, hp⟩, hrest⟩, rfl⟩ := h
      refine ⟨fragment, hp, ih.mpr ⟨hrest, ?_⟩⟩
      rw [ofPredicates_cons, Predicate.clauses_of_render hp, ← Slots.append_assoc, ← add_eq_append]

/-- The state that takes up the query of a batch. -/
theorem BoolQuery.addBatch_bind_eq_ok_iff {chained : Bool} {predicates : List Predicate}
    {query : BoolQuery} {result : Compilation} (state : BoolQuery → Compilation) :
    (query.addBatch chained predicates >>= fun added => .ok (state added)) = .ok result ↔
      AllRender chained predicates ∧ result = state (query ++ ofPredicates chained predicates) := by
  rw [Except.bind_eq_ok_iff]
  constructor
  · intro h
    obtain ⟨added, hadded, hstate⟩ := h
    obtain ⟨hrender, rfl⟩ := addBatch_eq_ok_iff.mp hadded
    cases hstate
    exact ⟨hrender, rfl⟩
  · intro h
    obtain ⟨hrender, rfl⟩ := h
    exact ⟨_, addBatch_eq_ok_iff.mpr ⟨hrender, rfl⟩, rfl⟩

/-! ## The look ahead -/

/-- The look ahead passes over simple entries and notes the chain markers among them. -/
theorem lookAhead_body (opening : Marker) (openAt : Nat) (body : List SimpleEntry)
    (chained : Bool) (position : Nat) (rest : List Entry) :
    lookAhead opening openAt chained position (body.map SimpleEntry.entry ++ rest) =
      lookAhead opening openAt (chained || body.contains .chain) (position + body.length) rest := by
  induction body generalizing chained position with
  | nil => rw [List.contains_nil, Bool.or_false]; rfl
  | cons e body ih =>
    rw [List.map_cons, List.cons_append, List.contains_cons, List.length_cons,
      Nat.add_comm body.length, ← Nat.add_assoc, ← Bool.or_assoc]
    cases e with
    | batch predicates =>
      have hne : (SimpleEntry.chain == .batch predicates) = false :=
        beq_false_of_ne SimpleEntry.noConfusion
      rw [SimpleEntry.entry, lookAhead, ih, hne, Bool.or_false]
    | chain => rw [SimpleEntry.entry, lookAhead, ih, beq_self_eq_true, Bool.or_true]

/-- At the close marker of the group the look ahead answers. -/
theorem lookAhead_close (kind : GroupKind) (openAt : Nat) (chained : Bool) (position : Nat)
    (rest : List Entry) :
    lookAhead kind.open openAt chained position (.marker kind.close :: rest) = .ok chained := by
  cases kind <;> rfl

/-- The look ahead from an open marker answers only if simple entries and then the close marker
of the same kind follow. -/
theorem exists_body_of_lookAhead {kind : GroupKind} {openAt position : Nat} {chained answer : Bool}
    {entries : List Entry}
    (h : lookAhead kind.open openAt chained position entries = .ok answer) :
    ∃ (body : List SimpleEntry) (rest : List Entry),
      entries = body.map SimpleEntry.entry ++ .marker kind.close :: rest := by
  induction entries generalizing chained position with
  | nil => cases h
  | cons e entries ih =>
    cases e with
    | batch predicates =>
      obtain ⟨body, rest, rfl⟩ := ih h
      exact ⟨.batch predicates :: body, rest, rfl⟩
    | marker m =>
      cases m with
      | orChain =>
        obtain ⟨body, rest, rfl⟩ := ih h
        exact ⟨.chain :: body, rest, rfl⟩
      | andOpen | orOpen => cases h
      | andClose | orClose =>
        cases kind with
        | all | any =>
          first
            | exact ⟨[], entries, rfl⟩
            | cases h

namespace Compilation

/-! ## Single steps -/

/-- Outside all groups a batch goes to the outer query. -/
theorem batch_outside {outer : BoolQuery} {chaining : Bool} {predicates : List Predicate}
    {result : Compilation} :
    batch ⟨outer, none, chaining⟩ predicates = .ok result ↔
      AllRender chaining predicates ∧
        result = ⟨outer ++ BoolQuery.ofPredicates chaining predicates, none, chaining⟩ := by
  unfold batch
  exact BoolQuery.addBatch_bind_eq_ok_iff fun query => ⟨query, none, chaining⟩

/-- Inside a group a batch goes to the query of the group. -/
theorem batch_inside {outer query : BoolQuery} {opening : Marker} {inner chaining : Bool}
    {predicates : List Predicate} {result : Compilation} :
    batch ⟨outer, some ⟨opening, query, inner⟩, chaining⟩ predicates = .ok result ↔
      AllRender (chaining || inner) predicates ∧
        result = ⟨outer, some ⟨opening,
          query ++ BoolQuery.ofPredicates (chaining || inner) predicates, inner⟩, chaining⟩ := by
  unfold batch
  exact BoolQuery.addBatch_bind_eq_ok_iff fun inside =>
    ⟨outer, some ⟨opening, inside, inner⟩, chaining⟩

/-- The pass goes on after a batch exactly if the batch can be added. -/
theorem run_batch {state result : Compilation} {position : Nat} {predicates : List Predicate}
    {rest : List Entry} :
    state.run position (.batch predicates :: rest) = .ok result ↔
      ∃ next, state.batch predicates = .ok next ∧ next.run (position + 1) rest = .ok result := by
  rw [run, Except.bind_eq_ok_iff]
  simp only [Except.mapError_eq_ok_iff]

/-- Over a batch that can be added the pass goes on with the next state. -/
theorem run_batch_of_ok {state next : Compilation} {predicates : List Predicate}
    (h : state.batch predicates = .ok next) (position : Nat) (rest : List Entry) :
    state.run position (.batch predicates :: rest) = next.run (position + 1) rest := by
  rw [run, h]
  rfl

/-- An open marker outside all groups begins a group as the look ahead answers, or fails with it. -/
theorem run_open_eq (outer : BoolQuery) (chaining : Bool) (kind : GroupKind) (position : Nat)
    (rest : List Entry) :
    run ⟨outer, none, chaining⟩ position (.marker kind.open :: rest) =
      (lookAhead kind.open position false (position + 1) rest).mapError CompileFault.group >>=
        fun inner => run ⟨outer, some ⟨kind.open, {}, inner⟩, chaining⟩ (position + 1) rest := by
  have hrun : run ⟨outer, none, chaining⟩ position (.marker kind.open :: rest) =
      (openGroup ⟨outer, none, chaining⟩ kind.open position rest).mapError CompileFault.group >>=
        fun state => state.run (position + 1) rest := by cases kind <;> rfl
  have hopen : openGroup ⟨outer, none, chaining⟩ kind.open position rest =
      lookAhead kind.open position false (position + 1) rest >>= fun inner =>
        .ok ⟨outer, some ⟨kind.open, {}, inner⟩, chaining⟩ := rfl
  rw [hrun, hopen]
  cases lookAhead kind.open position false (position + 1) rest <;> rfl

/-- An open marker outside all groups begins a group, once the look ahead has answered. -/
theorem run_open {outer : BoolQuery} {chaining : Bool} {kind : GroupKind} {position : Nat}
    {rest : List Entry} {result : Compilation} :
    run ⟨outer, none, chaining⟩ position (.marker kind.open :: rest) = .ok result ↔
      ∃ inner, lookAhead kind.open position false (position + 1) rest = .ok inner ∧
        run ⟨outer, some ⟨kind.open, {}, inner⟩, chaining⟩ (position + 1) rest = .ok result := by
  rw [run_open_eq, Except.bind_eq_ok_iff]
  simp only [Except.mapError_eq_ok_iff]

/-- The close marker of the open group attaches the query of the group, if it has clauses. -/
theorem run_close (outer query : BoolQuery) (kind : GroupKind) (inner chaining : Bool)
    (position : Nat) (rest : List Entry) :
    run ⟨outer, some ⟨kind.open, query, inner⟩, chaining⟩ position (.marker kind.close :: rest) =
      run ⟨if query.isEmpty then outer else outer.add kind.occur (.bool query), none, chaining⟩
        (position + 1) rest := by
  cases kind <;> rfl

/-- Without an open group a close marker is refused. -/
theorem run_close_outside (outer : BoolQuery) (kind : GroupKind) (chaining : Bool) (position : Nat)
    (rest : List Entry) (result : Compilation) :
    run ⟨outer, none, chaining⟩ position (.marker kind.close :: rest) ≠ .ok result := by
  cases kind <;> intro h <;> cases h

/-! ## Groups and parts -/

/-- The body of an open group adds what its predicates contribute. The look ahead has told the
group of its chain markers, so those change nothing. -/
theorem run_body {outer query : BoolQuery} {opening : Marker} {inner chaining : Bool}
    {body : List SimpleEntry} (hinner : .chain ∈ body → inner = true) {position : Nat}
    {rest : List Entry} {result : Compilation} :
    run ⟨outer, some ⟨opening, query, inner⟩, chaining⟩ position
        (body.map SimpleEntry.entry ++ rest) = .ok result ↔
      AllRender (chaining || inner) (body.flatMap SimpleEntry.predicates) ∧
        run ⟨outer, some ⟨opening, query ++ BoolQuery.ofPredicates (chaining || inner)
          (body.flatMap SimpleEntry.predicates), inner⟩, chaining⟩ (position + body.length) rest =
            .ok result := by
  induction body generalizing query position with
  | nil =>
    rw [List.flatMap_nil, BoolQuery.ofPredicates_nil, Slots.append_empty]
    exact ⟨fun h => ⟨AllRender.nil _, h⟩, fun h => h.2⟩
  | cons e body ih =>
    have hbody : .chain ∈ body → inner = true := fun h => hinner (List.mem_cons_of_mem _ h)
    rw [List.map_cons, List.cons_append, List.flatMap_cons, List.length_cons,
      Nat.add_comm body.length, ← Nat.add_assoc, AllRender.append_iff,
      BoolQuery.ofPredicates_append, ← Slots.append_assoc, and_assoc]
    cases e with
    | batch predicates =>
      rw [SimpleEntry.entry, run_batch]
      simp only [batch_inside]
      constructor
      · intro h
        obtain ⟨_, ⟨hrender, rfl⟩, h⟩ := h
        exact ⟨hrender, (ih hbody).mp h⟩
      · intro h
        obtain ⟨hrender, h⟩ := h
        exact ⟨_, ⟨hrender, rfl⟩, (ih hbody).mpr h⟩
    | chain =>
      -- the look ahead has seen this marker, so the group is chained already
      cases hinner List.mem_cons_self
      rw [SimpleEntry.entry, run, SimpleEntry.predicates, BoolQuery.ofPredicates_nil,
        Slots.append_empty]
      exact ⟨fun h => ⟨AllRender.nil _, (ih hbody).mp h⟩, fun h => (ih hbody).mpr h.2⟩

/-- The state after a part that stands outside all groups, or is a whole group. -/
def advance (state : Compilation) (part : Part) : Compilation :=
  { outer := state.outer ++ part.clauses state.chaining
    group := none
    chaining := state.chaining || (part == .simple .chain) }

/-- What a closed group leaves in the outer query is what the group contributes. -/
theorem closed_eq_clauses {outer : BoolQuery} {chaining : Bool} {kind : GroupKind}
    {body : List SimpleEntry} (h : (Part.group kind body).Renders chaining) :
    (if (BoolQuery.ofPredicates (chaining || body.contains .chain)
          (body.flatMap SimpleEntry.predicates)).isEmpty then outer
      else outer.add kind.occur (.bool (BoolQuery.ofPredicates (chaining || body.contains .chain)
        (body.flatMap SimpleEntry.predicates)))) =
      outer ++ (Part.group kind body).clauses chaining := by
  have hempty : (BoolQuery.ofPredicates (chaining || body.contains .chain)
      (body.flatMap SimpleEntry.predicates)).isEmpty =
        (body.flatMap SimpleEntry.predicates).isEmpty := BoolQuery.isEmpty_ofPredicates h
  rw [Part.clauses_group, hempty]
  split
  · rw [Slots.append_empty]
  · rw [← BoolQuery.add_eq_append]

/-- A whole group contributes to the outer query, and nothing else of it remains. -/
theorem run_group {outer : BoolQuery} {chaining : Bool} {kind : GroupKind}
    {body : List SimpleEntry} {position : Nat} {rest : List Entry} {result : Compilation} :
    run ⟨outer, none, chaining⟩ position ((Part.group kind body).entries ++ rest) = .ok result ↔
      (Part.group kind body).Renders chaining ∧
        (advance ⟨outer, none, chaining⟩ (.group kind body)).run
          (position + (Part.group kind body).entries.length) rest = .ok result := by
  have hlook : lookAhead kind.open position false (position + 1)
      (body.map SimpleEntry.entry ++ .marker kind.close :: rest) =
        .ok (body.contains .chain) := by
    rw [lookAhead_body, lookAhead_close, Bool.false_or]
  have hinner : .chain ∈ body → body.contains .chain = true := List.contains_iff_mem.mpr
  have hchaining : (chaining || (Part.group kind body == .simple .chain)) = chaining :=
    Bool.or_false chaining
  have hposition : position + 1 + body.length + 1 =
      position + (Part.group kind body).entries.length := by
    rw [Part.length_entries_group]
    omega
  rw [Part.entries_group_append, run_open, hlook]
  simp only [Except.ok.injEq, exists_eq_left', run_body hinner, Slots.empty_append, run_close,
    hposition]
  constructor
  · intro h
    obtain ⟨hrender, h⟩ := h
    refine ⟨hrender, ?_⟩
    rwa [advance, hchaining, ← closed_eq_clauses hrender]
  · intro h
    obtain ⟨hrender, h⟩ := h
    refine ⟨hrender, ?_⟩
    rwa [advance, hchaining, ← closed_eq_clauses hrender] at h

/-- An entry outside all groups contributes to the outer query, or begins the disjunction. -/
theorem run_simple {outer : BoolQuery} {chaining : Bool} {e : SimpleEntry} {position : Nat}
    {rest : List Entry} {result : Compilation} :
    run ⟨outer, none, chaining⟩ position ((Part.simple e).entries ++ rest) = .ok result ↔
      (Part.simple e).Renders chaining ∧
        (advance ⟨outer, none, chaining⟩ (.simple e)).run
          (position + (Part.simple e).entries.length) rest = .ok result := by
  cases e with
  | batch predicates =>
    have hchaining : (chaining || (Part.simple (.batch predicates) == .simple .chain)) = chaining :=
      Bool.or_false chaining
    have hrenders : (Part.simple (.batch predicates)).Renders chaining ↔
        AllRender chaining predicates := by
      rw [Part.Renders, Part.holdsChain, Bool.or_false]
      rfl
    rw [Part.entries, SimpleEntry.entry, List.cons_append, List.nil_append, run_batch, hrenders,
      advance, hchaining]
    simp only [batch_outside]
    constructor
    · intro h
      obtain ⟨next, ⟨hrender, rfl⟩, h⟩ := h
      exact ⟨hrender, h⟩
    · intro h
      obtain ⟨hrender, h⟩ := h
      exact ⟨_, ⟨hrender, rfl⟩, h⟩
  | chain =>
    have hadvance : advance ⟨outer, none, chaining⟩ (.simple .chain) = ⟨outer, none, true⟩ := by
      have hclauses : (Part.simple .chain).clauses chaining = {} := rfl
      rw [advance, hclauses, Slots.append_empty, beq_self_eq_true, Bool.or_true]
    rw [hadvance]
    exact ⟨fun h => ⟨AllRender.nil _, h⟩, fun h => h.2⟩

/-- One part of a list: the pass gets over it exactly if its predicates can be rendered. -/
theorem run_part {outer : BoolQuery} {chaining : Bool} {part : Part} {position : Nat}
    {rest : List Entry} {result : Compilation} :
    run ⟨outer, none, chaining⟩ position (part.entries ++ rest) = .ok result ↔
      part.Renders chaining ∧
        (advance ⟨outer, none, chaining⟩ part).run (position + part.entries.length) rest =
          .ok result := by
  cases part with
  | simple e => exact run_simple
  | group kind body => exact run_group

/-! ## The whole pass -/

/-- The pass over a list of parts ends exactly if all predicates can be rendered where they are
placed, and then with what the parts contribute. -/
theorem run_flatten {parts : List Part} {outer : BoolQuery} {chaining : Bool} {position : Nat}
    {result : Compilation} :
    run ⟨outer, none, chaining⟩ position (Part.flatten parts) = .ok result ↔
      Part.AllRenderFrom chaining parts ∧
        result = ⟨outer ++ Part.query chaining parts, none,
          chaining || parts.contains (.simple .chain)⟩ := by
  induction parts generalizing outer chaining position with
  | nil =>
    rw [Part.flatten_nil, run, Except.ok.injEq, Part.query_nil, Slots.append_empty,
      List.contains_nil, Bool.or_false]
    exact ⟨fun h => ⟨Part.allRenderFrom_nil _, h.symm⟩, fun h => h.2.symm⟩
  | cons part rest ih =>
    rw [Part.flatten_cons, run_part, advance, ih, Part.allRenderFrom_cons, Part.query_cons,
      List.contains_cons, Bool.beq_comm, ← Bool.or_assoc, ← Slots.append_assoc, and_assoc]

/-- A list that the pass gets through reads as parts. -/
theorem exists_parts_of_run {entries : List Entry} {outer : BoolQuery} {chaining : Bool}
    {position : Nat} {result : Compilation}
    (h : run ⟨outer, none, chaining⟩ position entries = .ok result) :
    ∃ parts, entries = Part.flatten parts := by
  -- a group is taken off as a whole, so the induction is on the length
  induction hlength : entries.length using Nat.strongRecOn
    generalizing entries outer chaining position with
  | ind length ih =>
    cases entries with
    | nil => exact ⟨[], rfl⟩
    | cons e rest =>
      rcases Conditions.exists_entry_or_bracket e with ⟨simple, rfl⟩ | ⟨m, hm, rfl⟩
      · obtain ⟨-, hrest⟩ := run_simple.mp h
        have hlt : rest.length < length := by
          rw [List.length_cons] at hlength
          omega
        obtain ⟨parts, rfl⟩ := ih rest.length hlt hrest rfl
        exact ⟨.simple simple :: parts, rfl⟩
      · obtain ⟨kind, rfl | rfl⟩ := Marker.exists_kind_of_isBracket hm
        · obtain ⟨inner, hlook, -⟩ := run_open.mp h
          obtain ⟨body, after, rfl⟩ := exists_body_of_lookAhead hlook
          rw [← Part.entries_group_append] at h hlength
          obtain ⟨-, hafter⟩ := run_group.mp h
          have hlt : after.length < length := by
            rw [List.length_append, Part.length_entries_group] at hlength
            omega
          obtain ⟨parts, rfl⟩ := ih after.length hlt hafter rfl
          exact ⟨.group kind body :: parts, (Part.entries_group_append kind body _).symm⟩
        · exact absurd h (run_close_outside outer kind chaining position rest result)

end Compilation

/-! ## Compiling -/

namespace Conditions

/-- What a list of parts compiles to, and when. -/
theorem compile_flatten_eq_ok_iff {parts : List Part} {geo : Option GeoFilter} {query : BoolQuery} :
    compile (Part.flatten parts) geo = .ok query ↔
      Part.AllRenderFrom false parts ∧ query = Part.query false parts ++ BoolQuery.ofGeo geo := by
  have hfinish : ∀ (outer : BoolQuery) (chaining : Bool),
      Compilation.finish ⟨outer, none, chaining⟩ geo = .ok (outer ++ BoolQuery.ofGeo geo) := by
    intro outer chaining
    cases geo with
    | none => rw [BoolQuery.ofGeo, Slots.append_empty]; rfl
    | some filter => rw [BoolQuery.ofGeo, ← BoolQuery.add_eq_append]; rfl
  rw [compile, Except.bind_eq_ok_iff]
  simp only [Compilation.run_flatten, Slots.empty_append]
  constructor
  · intro h
    obtain ⟨state, ⟨hrender, rfl⟩, h⟩ := h
    rw [hfinish, Except.ok.injEq] at h
    exact ⟨hrender, h.symm⟩
  · intro h
    obtain ⟨hrender, rfl⟩ := h
    exact ⟨_, ⟨hrender, rfl⟩, hfinish _ _⟩

/-- A list that compiles reads as parts. -/
theorem exists_parts_of_compile {conditions : Conditions} {geo : Option GeoFilter}
    {query : BoolQuery} (h : conditions.compile geo = .ok query) :
    ∃ parts, conditions = Part.flatten parts := by
  rw [compile, Except.bind_eq_ok_iff] at h
  obtain ⟨state, hrun, -⟩ := h
  exact Compilation.exists_parts_of_run hrun

end Conditions
end SearchMapper
