import Mathlib.Data.List.Induction
import SearchMapper.Proofs.Conditions.Pass
import SearchMapper.Query.Request

/-!
# Condition lists one after the other

What a list that compiles leaves to the list appended to it: its query, which comes first in each
slot, and whether a chain marker outside all its groups was passed. The second list compiles as by
itself, after its predicates were moved to should if there was such a marker, and names its
positions from its own beginning.
-/

namespace SearchMapper

/-! ## Positions moved on -/

/-- The fault with its positions moved on by `offset`. -/
def GroupFault.shift (offset : Nat) : GroupFault → GroupFault
  | nested position => nested (offset + position)
  | mismatched marker position opening => mismatched marker (offset + position) opening
  | neverClosed opening position => neverClosed opening (offset + position)
  | noOpen marker position => noOpen marker (offset + position)
  | openWhileOpen position => openWhileOpen (offset + position)
  | closeOfOther marker position opening => closeOfOther marker (offset + position) opening
  | leftOpen opening => leftOpen opening

/-- The fault with its positions moved on by `offset`. That of a predicate has none. -/
def CompileFault.shift (offset : Nat) : CompileFault → CompileFault
  | group fault => group (fault.shift offset)
  | predicate fault => predicate fault

/-! ## Predicates moved to should -/

/-- The entry with its predicates moved to should if they are disjunctive. -/
def Entry.placed (disjunctive : Bool) : Entry → Entry
  | batch predicates => batch (predicates.map (·.placed disjunctive))
  | marker m => marker m

/-- The list with its predicates moved to should if they are disjunctive. -/
def Conditions.placed (disjunctive : Bool) (conditions : Conditions) : Conditions :=
  conditions.map (Entry.placed disjunctive)

namespace Predicate

/-- Moving a predicate to should twice is moving it once. -/
theorem placed_placed (p : Predicate) (first second : Bool) :
    (p.placed first).placed second = p.placed (first || second) := by
  cases first <;> cases second <;> rfl

@[simp] theorem placed_false (p : Predicate) : p.placed false = p := rfl

end Predicate

@[simp] theorem Conditions.placed_false (conditions : Conditions) :
    conditions.placed false = conditions := by
  have hentry : Entry.placed false = id := by
    funext e
    cases e with
    | batch predicates => simp [Entry.placed]
    | marker m => rfl
  rw [Conditions.placed, hentry, List.map_id]

/-- A batch whose predicates were moved before is added as one that is moved now. -/
theorem BoolQuery.addBatch_map_placed (query : BoolQuery) (first second : Bool)
    (predicates : List Predicate) :
    query.addBatch second (predicates.map (·.placed first)) =
      query.addBatch (first || second) predicates := by
  induction predicates generalizing query with
  | nil => rfl
  | cons p rest ih =>
    rw [List.map_cons, addBatch_cons, addBatch_cons, Predicate.placed_placed]
    simp only [ih]

/-- What a query holds before a fragment is attached stays in front. -/
theorem BoolQuery.add_append (before query : BoolQuery) (occur : Occur) (fragment : Fragment) :
    (before ++ query).add occur fragment = before ++ query.add occur fragment := by
  rw [add_eq_append, add_eq_append query, Slots.append_assoc]

/-- What a query holds before a batch is added stays in front. -/
theorem BoolQuery.addBatch_append (before query : BoolQuery) (chained : Bool)
    (predicates : List Predicate) :
    (before ++ query).addBatch chained predicates =
      (query.addBatch chained predicates).map (before ++ ·) := by
  induction predicates generalizing query with
  | nil => rfl
  | cons p rest ih =>
    rw [addBatch_cons, addBatch_cons]
    cases hp : (p.placed chained).render with
    | error fault => rfl
    | ok fragment =>
      show ((before ++ query).add (p.placed chained).occur fragment).addBatch chained rest = _
      rw [add_append, ih]
      rfl

/-! ## The look ahead -/

/-- An answer of the look ahead does not hang on what is appended to the list. -/
theorem lookAhead_append_of_ok {opening : Marker} {openAt position : Nat} {chained answer : Bool}
    {entries : List Entry} (h : lookAhead opening openAt chained position entries = .ok answer)
    (later : List Entry) :
    lookAhead opening openAt chained position (entries ++ later) = .ok answer := by
  induction entries generalizing chained position with
  | nil => cases h
  | cons e rest ih =>
    cases e with
    | batch predicates => exact ih h
    | marker m =>
      cases m with
      | orChain => exact ih h
      | andOpen | orOpen | andClose | orClose => exact h

/-- At a close marker the look ahead ends, whichever kind it is. -/
theorem lookAhead_isClose {m : Marker} (hm : m.isClose = true) (opening : Marker)
    (openAt position : Nat) (chained : Bool) (rest : List Entry) :
    lookAhead opening openAt chained position (.marker m :: rest) =
      if opening.closing? = some m then .ok chained
      else .error (.mismatched m position opening) := by
  cases m with
  | andClose | orClose => rfl
  | andOpen | orOpen | orChain => cases hm

/-- The look ahead sees markers only, and names its positions as it is told them. -/
theorem lookAhead_shift (opening : Marker) (offset openAt position : Nat) (moved chained : Bool)
    (entries : List Entry) :
    lookAhead opening (offset + openAt) chained (offset + position) entries =
      (lookAhead opening openAt chained position (entries.map (Entry.placed moved))).mapError
        (GroupFault.shift offset) := by
  induction entries generalizing chained position with
  | nil => rfl
  | cons e rest ih =>
    cases e with
    | batch predicates => exact ih (position + 1) chained
    | marker m =>
      cases m with
      | orChain => exact ih (position + 1) true
      | andOpen | orOpen => rfl
      | andClose | orClose =>
        rw [List.map_cons, Entry.placed, lookAhead_isClose rfl, lookAhead_isClose rfl]
        split <;> rfl

/-! ## The pass over both lists -/

namespace Compilation

/-- What the pass does with a marker that opens or closes a group. -/
def bracket (state : Compilation) (m : Marker) (position : Nat) (rest : List Entry) :
    Except GroupFault Compilation :=
  if m.isOpen then state.openGroup m position rest else state.closeGroup m position

theorem run_bracket {m : Marker} (hm : m.isBracket = true) (state : Compilation) (position : Nat)
    (rest : List Entry) :
    state.run position (.marker m :: rest) =
      (state.bracket m position rest).mapError CompileFault.group >>= fun next =>
        next.run (position + 1) rest := by
  cases m with
  | andOpen | orOpen | andClose | orClose => rfl
  | orChain => cases hm

/-- A group that was opened opens over a longer list too: its look ahead has answered. -/
theorem bracket_append_of_ok {state next : Compilation} {m : Marker} {position : Nat}
    {rest : List Entry} (h : state.bracket m position rest = .ok next) (later : List Entry) :
    state.bracket m position (rest ++ later) = .ok next := by
  unfold bracket at h ⊢
  by_cases hm : m.isOpen = true
  · rw [if_pos hm] at h ⊢
    unfold openGroup at h ⊢
    by_cases hgroup : state.group.isSome = true
    · rw [if_pos hgroup] at h
      cases h
    · rw [if_neg hgroup] at h ⊢
      obtain ⟨chaining, hlook, hnext⟩ := Except.bind_eq_ok_iff.mp h
      rw [lookAhead_append_of_ok hlook]
      exact hnext
  · rw [if_neg hm] at h ⊢
    exact h

/-- The pass over a longer list goes on from where the pass over its first part ended. -/
theorem run_append_of_ok {first second : List Entry} {state next : Compilation} {position : Nat}
    (h : state.run position first = .ok next) :
    state.run position (first ++ second) = next.run (position + first.length) second := by
  induction first generalizing state position with
  | nil =>
    cases h
    rfl
  | cons e rest ih =>
    have hlength : position + (e :: rest).length = position + 1 + rest.length := by
      rw [List.length_cons]
      omega
    rw [hlength, List.cons_append]
    rcases Conditions.exists_entry_or_bracket e with ⟨simple, rfl⟩ | ⟨m, hm, rfl⟩
    · cases simple with
      | batch predicates =>
        obtain ⟨added, hbatch, hrest⟩ := run_batch.mp h
        exact (run_batch_of_ok hbatch position (rest ++ second)).trans (ih hrest)
      | chain => exact ih h
    · rw [run_bracket hm] at h ⊢
      obtain ⟨opened, hopened, hrest⟩ := Except.bind_eq_ok_iff.mp h
      rw [Except.mapError_eq_ok_iff] at hopened
      rw [bracket_append_of_ok hopened]
      exact ih hrest

/-- The state of a pass that began behind another list: the query of that list stands before its
own, and a chain marker may have been passed there. -/
def behind (query : BoolQuery) (chained : Bool) (state : Compilation) : Compilation :=
  { state with outer := query ++ state.outer, chaining := chained || state.chaining }

theorem batch_behind (query : BoolQuery) (chained : Bool) (state : Compilation)
    (predicates : List Predicate) :
    (state.behind query chained).batch predicates =
      (state.batch (predicates.map (·.placed chained))).map (behind query chained) := by
  obtain ⟨outer, group, chaining⟩ := state
  cases group with
  | none =>
    unfold batch behind
    simp only [BoolQuery.addBatch_map_placed, BoolQuery.addBatch_append]
    cases outer.addBatch (chained || chaining) predicates <;> rfl
  | some group =>
    unfold batch behind
    simp only [BoolQuery.addBatch_map_placed, Bool.or_assoc]
    cases group.query.addBatch (chained || (chaining || group.chaining)) predicates <;> rfl

theorem openGroup_behind (query : BoolQuery) (chained : Bool) (state : Compilation) (m : Marker)
    (offset position : Nat) (rest : List Entry) :
    (state.behind query chained).openGroup m (offset + position) rest =
      ((state.openGroup m position (rest.map (Entry.placed chained))).map
        (behind query chained)).mapError (GroupFault.shift offset) := by
  obtain ⟨outer, group, chaining⟩ := state
  cases group with
  | some group => rfl
  | none =>
    have hlook := lookAhead_shift m offset position (position + 1) chained false rest
    rw [← Nat.add_assoc] at hlook
    unfold openGroup behind
    simp only [Option.isSome_none, Bool.false_eq_true, if_false, hlook]
    cases lookAhead m position false (position + 1) (rest.map (Entry.placed chained)) <;> rfl

theorem closeGroup_behind (query : BoolQuery) (chained : Bool) (state : Compilation) (m : Marker)
    (offset position : Nat) :
    (state.behind query chained).closeGroup m (offset + position) =
      ((state.closeGroup m position).map (behind query chained)).mapError
        (GroupFault.shift offset) := by
  obtain ⟨outer, group, chaining⟩ := state
  cases group with
  | none => rfl
  | some group =>
    unfold closeGroup behind
    by_cases hclose : group.opening.closing? = some m
    · simp only [if_pos hclose]
      by_cases hempty : group.query.isEmpty = true
      · simp only [if_pos hempty]
        rfl
      · simp only [if_neg hempty]
        rw [BoolQuery.add_append]
        rfl
    · simp only [if_neg hclose]
      rfl

theorem bracket_behind (query : BoolQuery) (chained : Bool) (state : Compilation) (m : Marker)
    (offset position : Nat) (rest : List Entry) :
    (state.behind query chained).bracket m (offset + position) rest =
      ((state.bracket m position (rest.map (Entry.placed chained))).map
        (behind query chained)).mapError (GroupFault.shift offset) := by
  unfold bracket
  split
  · exact openGroup_behind query chained state m offset position rest
  · exact closeGroup_behind query chained state m offset position

theorem chain_behind (query : BoolQuery) (chained : Bool) (state : Compilation) :
    (state.behind query chained).chain = state.chain.behind query chained := by
  obtain ⟨outer, group, chaining⟩ := state
  cases group with
  | none => cases chained <;> rfl
  | some group => rfl

/-- Behind another list the pass does what it does by itself with the predicates moved before. -/
theorem run_behind (query : BoolQuery) (chained : Bool) (state : Compilation)
    (offset position : Nat) (entries : List Entry) :
    (state.behind query chained).run (offset + position) entries =
      ((state.run position (entries.map (Entry.placed chained))).map
        (behind query chained)).mapError (CompileFault.shift offset) := by
  induction entries generalizing state position with
  | nil => rfl
  | cons e rest ih =>
    rw [List.map_cons]
    rcases Conditions.exists_entry_or_bracket e with ⟨simple, rfl⟩ | ⟨m, hm, rfl⟩
    · cases simple with
      | batch predicates =>
        rw [SimpleEntry.entry, Entry.placed, run, run, batch_behind]
        cases state.batch (predicates.map (·.placed chained)) with
        | error fault => rfl
        | ok next => exact ih next (position + 1)
      | chain =>
        rw [SimpleEntry.entry, Entry.placed, run, run, chain_behind]
        exact ih state.chain (position + 1)
    · rw [Entry.placed, run_bracket hm, run_bracket hm, bracket_behind]
      cases state.bracket m position (rest.map (Entry.placed chained)) with
      | error fault => rfl
      | ok next => exact ih next (position + 1)

theorem finish_behind (query : BoolQuery) (chained : Bool) (state : Compilation) (offset : Nat)
    (geo : Option GeoFilter) :
    (state.behind query chained).finish geo =
      ((state.finish geo).map (query ++ ·)).mapError (CompileFault.shift offset) := by
  obtain ⟨outer, group, chaining⟩ := state
  cases group with
  | some group => rfl
  | none =>
    cases geo with
    | none => rfl
    | some filter => exact congrArg Except.ok (BoolQuery.add_append query outer .filter _)

end Compilation

/-! ## Chain markers outside groups -/

namespace Conditions

/-- A chain marker stands outside all groups: the groups before it are closed. -/
def ChainsOutside (conditions : Conditions) : Prop :=
  ∃ before after : Conditions, conditions = before ++ .marker .orChain :: after ∧ before.IsFlat

theorem isFlat_flatten (parts : List Part) : (Part.flatten parts).IsFlat :=
  (isFlat_iff_exists_parts _).mpr ⟨parts, rfl⟩

/-- Within a group the list up to there is not flat: its last open or close marker opens. -/
theorem not_isFlat_of_open (before : Conditions) (kind : GroupKind) (body : List SimpleEntry) :
    ¬ (before ++ .marker kind.open :: body.map SimpleEntry.entry).IsFlat := by
  intro h
  obtain ⟨kinds, h⟩ := h
  rw [brackets_append, brackets_marker kind.isBracket_open, brackets_map_entry] at h
  rcases List.eq_nil_or_concat kinds with rfl | ⟨front, last, rfl⟩
  · exact absurd h (List.append_ne_nil_of_right_ne_nil _ (List.cons_ne_nil _ _))
  · have hlast := congrArg List.getLast? h
    simp only [List.concat_eq_append, List.flatMap_append, List.flatMap_singleton,
      List.getLast?_append, List.getLast?_singleton, List.getLast?_cons_cons, Option.some_or,
      Option.some.injEq] at hlast
    cases kind <;> cases last <;> cases hlast

theorem chainsOutside_append_simple (conditions : Conditions) (e : SimpleEntry) :
    (conditions ++ (Part.simple e).entries).ChainsOutside ↔
      conditions.ChainsOutside ∨ (e = .chain ∧ conditions.IsFlat) := by
  constructor
  · intro h
    obtain ⟨before, after, h, hflat⟩ := h
    rcases List.eq_nil_or_concat after with rfl | ⟨front, last, rfl⟩
    · -- the marker is the entry itself
      obtain ⟨rfl, hentry⟩ := List.append_inj' h rfl
      cases e with
      | batch predicates => cases hentry
      | chain => exact .inr ⟨rfl, hflat⟩
    · -- the marker stands before the entry
      rw [List.concat_eq_append, ← List.cons_append, ← List.append_assoc] at h
      exact .inl ⟨before, front, (List.append_inj' h rfl).1, hflat⟩
  · intro h
    rcases h with ⟨before, after, rfl, hflat⟩ | ⟨rfl, hflat⟩
    · refine ⟨before, after ++ (Part.simple e).entries, ?_, hflat⟩
      rw [List.append_assoc, List.cons_append]
    · exact ⟨conditions, [], rfl, hflat⟩

/-- A chain marker inside a group stands outside no group of the list. -/
theorem chainsOutside_append_group (conditions : Conditions) (kind : GroupKind)
    (body : List SimpleEntry) :
    (conditions ++ (Part.group kind body).entries).ChainsOutside ↔ conditions.ChainsOutside := by
  have hopen : Entry.marker .orChain ≠ .marker kind.open := by cases kind <;> decide
  have hclose : Entry.marker .orChain ≠ .marker kind.close := by cases kind <;> decide
  constructor
  · intro h
    obtain ⟨before, after, h, hflat⟩ := h
    rw [← List.append_nil (Part.group kind body).entries, Part.entries_group_append] at h
    rcases List.append_eq_append_iff.mp h with ⟨inside, rfl, hinside⟩ | ⟨rest, rfl, hrest⟩
    · -- the marker would stand inside the group, after its open marker
      exfalso
      rcases List.cons_eq_append_iff.mp hinside with ⟨-, hfirst⟩ | ⟨inside, rfl, hbody⟩
      · exact hopen (List.cons_eq_cons.mp hfirst).1
      rcases List.eq_nil_or_concat after with rfl | ⟨front, last, rfl⟩
      · exact hclose (List.cons_eq_cons.mp (List.append_inj' hbody rfl).2).1.symm
      · rw [List.concat_eq_append, ← List.cons_append, ← List.append_assoc] at hbody
        obtain ⟨first, second, rfl, rfl, -⟩ :=
          List.map_eq_append_iff.mp (List.append_inj' hbody rfl).1
        exact not_isFlat_of_open conditions kind first hflat
    · rcases List.cons_eq_append_iff.mp hrest with ⟨-, hfirst⟩ | ⟨later, rfl, -⟩
      · exact absurd (List.cons_eq_cons.mp hfirst).1.symm hopen
      · exact ⟨before, later, rfl, hflat⟩
  · intro h
    obtain ⟨before, after, rfl, hflat⟩ := h
    refine ⟨before, after ++ (Part.group kind body).entries, ?_, hflat⟩
    rw [List.append_assoc, List.cons_append]

/-- Of a list of parts, the chain markers outside all groups are parts themselves. -/
theorem chainsOutside_flatten (parts : List Part) :
    (Part.flatten parts).ChainsOutside ↔ .simple .chain ∈ parts := by
  induction parts using List.reverseRecOn with
  | nil =>
    refine ⟨?_, nofun⟩
    intro h
    obtain ⟨before, after, h, -⟩ := h
    exact absurd h.symm (List.append_ne_nil_of_right_ne_nil _ (List.cons_ne_nil _ _))
  | append_singleton parts part ih =>
    have hflatten : Part.flatten (parts ++ [part]) = Part.flatten parts ++ part.entries := by
      rw [Part.flatten_append, Part.flatten_cons, Part.flatten_nil, List.append_nil]
    rw [hflatten, List.mem_append, List.mem_singleton]
    cases part with
    | simple e =>
      rw [chainsOutside_append_simple, ih, and_iff_left (isFlat_flatten parts)]
      simp only [Part.simple.injEq, eq_comm]
    | group kind body =>
      rw [chainsOutside_append_group, ih]
      simp only [reduceCtorEq, or_false]

/-! ## Main results -/

/-- The pass over a list that compiles ends outside all groups, with its query, and has passed a
chain marker exactly if one stands outside its groups. -/
theorem run_of_compile {conditions : Conditions} {query : BoolQuery}
    (h : conditions.compile none = .ok query) :
    ∃ chained, (chained = true ↔ conditions.ChainsOutside) ∧
      Compilation.run {} 0 conditions = .ok (({} : Compilation).behind query chained) := by
  obtain ⟨parts, rfl⟩ := exists_parts_of_compile h
  obtain ⟨hrender, hquery⟩ := compile_flatten_eq_ok_iff.mp h
  refine ⟨parts.contains (.simple .chain), ?_, ?_⟩
  · rw [List.contains_iff_mem, chainsOutside_flatten]
  · rw [BoolQuery.ofGeo, Slots.append_empty] at hquery
    rw [Compilation.run_flatten.mpr ⟨hrender, rfl⟩, hquery, Compilation.behind, Slots.empty_append,
      Slots.append_empty, Bool.false_or, Bool.or_false]

/-- The one equation of lists one after the other, from which all else is read off. -/
theorem compile_append_of_ok {first : Conditions} {query : BoolQuery}
    (h : first.compile none = .ok query) (second : Conditions) (geo : Option GeoFilter) :
    ∃ chained, (chained = true ↔ first.ChainsOutside) ∧
      (first ++ second).compile geo =
        (((second.placed chained).compile geo).map (query ++ ·)).mapError
          (CompileFault.shift first.length) := by
  obtain ⟨chained, hchained, hrun⟩ := run_of_compile h
  refine ⟨chained, hchained, ?_⟩
  have hsecond := Compilation.run_behind query chained {} first.length 0 second
  rw [compile, compile, Compilation.run_append_of_ok hrun, Nat.zero_add]
  rw [Nat.add_zero] at hsecond
  rw [hsecond, placed]
  cases Compilation.run {} 0 (second.map (Entry.placed chained)) with
  | error fault => rfl
  | ok state => exact Compilation.finish_behind query chained state first.length geo

/-- How the list `whole` compiles by how its end `alone` compiles by itself, behind `offset` entries
that compile to `query`. -/
structure Continues (query : BoolQuery) (offset : Nat) (geo : Option GeoFilter)
    (alone whole : Conditions) : Prop where
  succeeds_iff : (∃ result, whole.compile geo = .ok result) ↔
    ∃ rest, alone.compile geo = .ok rest
  /-- In each slot the clauses of the first entries come before those of the end. -/
  slots : ∀ result rest, whole.compile geo = .ok result → alone.compile geo = .ok rest →
    ∀ slot, result.get slot = query.get slot ++ rest.get slot
  /-- Both fail for the same reason, but for the positions, and as validation errors. -/
  fails : ∀ fault, alone.compile geo = .error fault →
    whole.compile geo = .error (fault.shift offset) ∧
      ({ conditions := alone, geo } : SearchQuery).compiled =
        .error (.validation (.conditions fault)) ∧
      ({ conditions := whole, geo } : SearchQuery).compiled =
        .error (.validation (.conditions (fault.shift offset)))

theorem continues_of_compile_eq {query : BoolQuery} {offset : Nat} {geo : Option GeoFilter}
    {alone whole : Conditions}
    (h : whole.compile geo =
      ((alone.compile geo).map (query ++ ·)).mapError (CompileFault.shift offset)) :
    Continues query offset geo alone whole := by
  cases halone : alone.compile geo with
  | ok rest =>
    rw [halone] at h
    refine ⟨⟨fun _ => ⟨rest, halone⟩, fun _ => ⟨_, h⟩⟩, ?_, ?_⟩
    · intro result rest' hresult hrest slot
      rw [h] at hresult
      rw [halone] at hrest
      cases hresult
      cases hrest
      exact Slots.get_append query rest slot
    · intro fault hfault
      rw [halone] at hfault
      cases hfault
  | error fault =>
    rw [halone] at h
    refine ⟨⟨?_, ?_⟩, ?_, ?_⟩
    · intro hresult
      obtain ⟨result, hresult⟩ := hresult
      rw [h] at hresult
      cases hresult
    · intro hrest
      obtain ⟨rest, hrest⟩ := hrest
      rw [halone] at hrest
      cases hrest
    · intro result rest _ hrest
      rw [halone] at hrest
      cases hrest
    · intro fault' hfault
      rw [halone] at hfault
      cases hfault
      refine ⟨h, ?_, ?_⟩
      · simp only [SearchQuery.compiled, halone]
      · simp only [SearchQuery.compiled, h]
        rfl

/-- **Lists one after the other.** Behind a list that compiles, a second list compiles as by itself;
if a chain marker stands outside the groups of the first, as by itself with all its predicates moved
to should. In each slot the clauses of the first come first, and a fault names its position from
the beginning of both. A chain marker inside a group of the first list is none of those, so it does
not reach behind the close marker of its group. -/
theorem compile_append {first : Conditions} {query : BoolQuery}
    (h : first.compile none = .ok query) (second : Conditions) (geo : Option GeoFilter) :
    (¬ first.ChainsOutside →
      Continues query first.length geo second (first ++ second)) ∧
    (first.ChainsOutside →
      Continues query first.length geo (second.placed true) (first ++ second)) ∧
    ∀ (before : Conditions) (kind : GroupKind) (body : List SimpleEntry),
      first = before ++ grouped kind (body.map SimpleEntry.entry) →
        (first.ChainsOutside ↔ before.ChainsOutside) := by
  obtain ⟨chained, hchained, heq⟩ := compile_append_of_ok h second geo
  refine ⟨?_, ?_, ?_⟩
  · intro hnot
    have hfalse : chained = false := Bool.eq_false_iff.mpr fun hc => hnot (hchained.mp hc)
    rw [hfalse, placed_false] at heq
    exact continues_of_compile_eq heq
  · intro houtside
    rw [hchained.mpr houtside] at heq
    exact continues_of_compile_eq heq
  · intro before kind body hfirst
    rw [hfirst]
    exact chainsOutside_append_group before kind body

/-- A condition and a chain marker, with a negated condition behind them, or with a close marker
that closes nothing. -/
theorem compile_append_alternative :
    (build [.compare .eq "name" (.string "Ada"), .orChain]).compile none =
        .ok { must := [.leaf ⟨"name", .term (.string "Ada"), none⟩] } ∧
      (build [.compare .eq "name" (.string "Ada"), .orChain]).ChainsOutside ∧
      (∀ slot, (⟨[.leaf ⟨"name", .term (.string "Ada"), none⟩], [],
        [.not (.leaf ⟨"status", .term (.string "closed"), none⟩)], []⟩ : BoolQuery).get slot =
          (⟨[.leaf ⟨"name", .term (.string "Ada"), none⟩], [], [], []⟩ : BoolQuery).get slot ++
            (⟨[], [], [.not (.leaf ⟨"status", .term (.string "closed"), none⟩)], []⟩ :
              BoolQuery).get slot) ∧
      compile [.batch [.make "name" .exact .must (.single (.string "Ada"))], .marker .orChain,
        .marker .orClose] none = .error (.group (.noOpen .orClose 2)) := by
  have hchain : (build [.compare .eq "name" (.string "Ada"), .orChain]).ChainsOutside :=
    ⟨[.batch [.make "name" .exact .must (.single (.string "Ada"))]], [], rfl, [], rfl⟩
  refine ⟨rfl, hchain, ?_, ?_⟩
  · exact ((compile_append rfl (build [.compare .ne "status" (.string "closed")]) none).2.1
      hchain).slots _ _ rfl rfl
  · exact (((compile_append rfl [.marker .orClose] none).2.1 hchain).fails
      (.group (.noOpen .orClose 0)) rfl).1

end Conditions
end SearchMapper
