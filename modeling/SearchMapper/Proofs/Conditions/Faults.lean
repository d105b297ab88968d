import SearchMapper.Proofs.Conditions.Appended

/-!
# Which fault is reported

A list that does not compile fails with its leftmost item that does. An item is a batch or a marker
outside all groups, or a whole group, and a group fails for its markers before any of its predicates
is looked at. `FailsAt` says so by position, without a pass over the list:
`Conditions.reports_leftmost_fault`.

The look ahead has seen every marker of a group before the group is open, so the pass finds nothing
amiss with markers inside a group, or with a group that is left open.
-/

namespace SearchMapper

/-! ## The first predicate that cannot be rendered -/

/-- The fault is that of the first predicate of a list that cannot be rendered where it is placed. -/
def FirstFault (disjunctive : Bool) (predicates : List Predicate) (fault : PredicateFault) : Prop :=
  ∃ (before : List Predicate) (p : Predicate) (after : List Predicate),
    predicates = before ++ p :: after ∧ AllRender disjunctive before ∧
      (p.placed disjunctive).render = .error fault

variable {disjunctive : Bool} {fault : PredicateFault}

/-- Predicates can all be rendered, or one of them is the first that cannot. -/
theorem allRender_or_exists_firstFault (disjunctive : Bool) (predicates : List Predicate) :
    AllRender disjunctive predicates ∨ ∃ fault, FirstFault disjunctive predicates fault := by
  induction predicates with
  | nil => exact .inl (AllRender.nil disjunctive)
  | cons p rest ih =>
    cases hp : (p.placed disjunctive).render with
    | error fault => exact .inr ⟨fault, [], p, rest, rfl, AllRender.nil disjunctive, hp⟩
    | ok fragment =>
      rcases ih with hrest | ⟨fault, before, q, after, rfl, hbefore, hq⟩
      · exact .inl (AllRender.cons_iff.mpr ⟨⟨fragment, hp⟩, hrest⟩)
      · exact .inr ⟨fault, p :: before, q, after, rfl,
          AllRender.cons_iff.mpr ⟨⟨fragment, hp⟩, hbefore⟩, hq⟩

theorem not_firstFault_nil : ¬ FirstFault disjunctive [] fault := by
  rintro ⟨before, p, after, h, -⟩
  exact absurd h.symm (List.append_ne_nil_of_right_ne_nil before (List.cons_ne_nil p after))

/-- Of two lists in a row the second one is looked at only after the first has passed. -/
theorem firstFault_of_append {first second : List Predicate}
    (h : FirstFault disjunctive (first ++ second) fault) :
    FirstFault disjunctive first fault ∨
      AllRender disjunctive first ∧ FirstFault disjunctive second fault := by
  obtain ⟨before, p, after, h, hbefore, hp⟩ := h
  rcases List.append_eq_append_iff.mp h with ⟨between, rfl, rfl⟩ | ⟨between, rfl, hsecond⟩
  · obtain ⟨hfirst, hbetween⟩ := AllRender.append_iff.mp hbefore
    exact .inr ⟨hfirst, between, p, after, rfl, hbetween, hp⟩
  · cases between with
    | nil =>
      rw [List.append_nil]
      exact .inr ⟨hbefore, [], p, after, hsecond.symm, AllRender.nil _, hp⟩
    | cons q between =>
      obtain ⟨rfl, rfl⟩ := List.cons_eq_cons.mp hsecond
      exact .inl ⟨before, p, between, rfl, hbefore, hp⟩

/-- A batch is refused for its first predicate that cannot be rendered. -/
theorem BoolQuery.addBatch_of_firstFault {chained : Bool} {predicates : List Predicate}
    (h : FirstFault chained predicates fault) (query : BoolQuery) :
    query.addBatch chained predicates = .error fault := by
  obtain ⟨before, p, after, rfl, hbefore, hp⟩ := h
  induction before generalizing query with
  | nil => exact Except.bind_eq_error_iff.mpr (.inl hp)
  | cons q before ih =>
    obtain ⟨⟨fragment, hq⟩, hrest⟩ := AllRender.cons_iff.mp hbefore
    rw [List.cons_append, addBatch_cons]
    exact Except.bind_eq_error_iff.mpr (.inr ⟨fragment, hq, ih _ hrest⟩)

/-! ## Items that fail -/

/-- The entries begin with an item that fails, the first of them at `position`, where `chained` says
that a chain marker outside all groups stands before them. -/
inductive FailsAt (chained : Bool) (position : Nat) : List Entry → CompileFault → Prop
  /-- A batch outside all groups. -/
  | batch {predicates : List Predicate} {fault : PredicateFault} (rest : List Entry)
    (h : FirstFault chained predicates fault) :
    FailsAt chained position (.batch predicates :: rest) (.predicate fault)
  /-- A close marker outside all groups. -/
  | close (kind : GroupKind) (rest : List Entry) :
    FailsAt chained position (.marker kind.close :: rest)
      (.group (.noOpen kind.close position))
  /-- A group with an open marker in it. -/
  | nested (kind other : GroupKind) (body : List SimpleEntry) (rest : List Entry) :
    FailsAt chained position
      (.marker kind.open :: (body.map SimpleEntry.entry ++ .marker other.open :: rest))
      (.group (.nested (position + 1 + body.length)))
  /-- A group with a close marker of the other kind. -/
  | mismatched {kind other : GroupKind} (hne : other ≠ kind) (body : List SimpleEntry)
    (rest : List Entry) :
    FailsAt chained position
      (.marker kind.open :: (body.map SimpleEntry.entry ++ .marker other.close :: rest))
      (.group (.mismatched other.close (position + 1 + body.length) kind.open))
  /-- A group without a close marker, up to the end of the list. -/
  | neverClosed (kind : GroupKind) (body : List SimpleEntry) :
    FailsAt chained position (.marker kind.open :: body.map SimpleEntry.entry)
      (.group (.neverClosed kind.open position))
  /-- A group whose markers are in order, for one of its predicates. -/
  | member {body : List SimpleEntry} {fault : PredicateFault} (kind : GroupKind)
    (rest : List Entry) (h : FirstFault (chained || body.contains .chain)
      (body.flatMap SimpleEntry.predicates) fault) :
    FailsAt chained position ((Part.group kind body).entries ++ rest) (.predicate fault)

/-- The list fails with its leftmost item that does: what stands before it is in order. -/
def Conditions.LeftmostFault (conditions : Conditions) (fault : CompileFault) : Prop :=
  ∃ (parts : List Part) (rest : List Entry), conditions = Part.flatten parts ++ rest ∧
    Part.AllRenderFrom false parts ∧
    FailsAt (parts.contains (.simple .chain)) (Part.flatten parts).length rest fault

namespace FailsAt

variable {chained : Bool} {position : Nat} {entries : List Entry} {fault : CompileFault}

/-- What comes after a failing item does not matter, unless the item is a group without an end. -/
theorem append (h : FailsAt chained position entries fault)
    (hclosed : ∀ opening openAt, fault ≠ .group (.neverClosed opening openAt))
    (later : List Entry) : FailsAt chained position (entries ++ later) fault := by
  cases h with
  | batch rest h => exact .batch _ h
  | close kind rest => exact .close kind _
  | nested kind other body rest =>
    rw [List.cons_append, List.append_assoc]
    exact .nested kind other body _
  | mismatched hne body rest =>
    rw [List.cons_append, List.append_assoc]
    exact .mismatched hne body _
  | neverClosed kind body => exact absurd rfl (hclosed kind.open position)
  | member kind rest h =>
    rw [List.append_assoc]
    exact .member kind _ h

/-- An item fails for a predicate, or for markers in a way that the look ahead tells, or for a close
marker outside all groups. -/
theorem not_of_pass (h : FailsAt chained position entries fault) :
    (∀ position, fault ≠ .group (.openWhileOpen position)) ∧
      (∀ m position opening, fault ≠ .group (.closeOfOther m position opening)) ∧
      ∀ opening, fault ≠ .group (.leftOpen opening) := by
  cases h <;> exact ⟨nofun, nofun, nofun⟩

end FailsAt

/-! ## Any list -/

/-- What follows an open marker makes up a group with it, or the marker fails. -/
theorem exists_group_or_failsAt (chained : Bool) (position : Nat) (kind : GroupKind)
    (entries : List Entry) :
    (∃ (body : List SimpleEntry) (rest : List Entry),
        .marker kind.open :: entries = (Part.group kind body).entries ++ rest ∧
          (Part.group kind body).Renders chained) ∨
      ∃ fault, FailsAt chained position (.marker kind.open :: entries) fault := by
  cases hbrackets : Conditions.brackets entries with
  | nil =>
    obtain ⟨body, rfl⟩ := Conditions.exists_body_of_brackets_eq_nil hbrackets
    exact .inr ⟨_, .neverClosed kind body⟩
  | cons m later =>
    have hm : m.isBracket = true := by
      have hmem : m ∈ Conditions.brackets entries := by
        rw [hbrackets]
        exact List.mem_cons_self
      exact (List.mem_filter.mp hmem).2
    obtain ⟨body, rest, rfl, -⟩ := Conditions.exists_body_of_brackets_eq_cons hbrackets
    obtain ⟨other, rfl | rfl⟩ := Marker.exists_kind_of_isBracket hm
    · exact .inr ⟨_, .nested kind other body rest⟩
    · by_cases hkind : other = kind
      · subst hkind
        rw [← Part.entries_group_append]
        rcases allRender_or_exists_firstFault (chained || body.contains .chain)
          (body.flatMap SimpleEntry.predicates) with hrenders | ⟨fault, hfault⟩
        · exact .inl ⟨body, rest, rfl, hrenders⟩
        · exact .inr ⟨_, .member other rest hfault⟩
      · exact .inr ⟨_, .mismatched hkind body rest⟩

/-- A list that is not empty begins with a part whose predicates can be rendered, or fails at once. -/
theorem exists_part_or_failsAt (chained : Bool) (position : Nat) (e : Entry)
    (entries : List Entry) :
    (∃ (part : Part) (rest : List Entry),
        e :: entries = part.entries ++ rest ∧ part.Renders chained) ∨
      ∃ fault, FailsAt chained position (e :: entries) fault := by
  rcases Conditions.exists_entry_or_bracket e with ⟨simple, rfl⟩ | ⟨m, hm, rfl⟩
  · cases simple with
    | chain => exact .inl ⟨.simple .chain, entries, rfl, AllRender.nil _⟩
    | batch predicates =>
      rcases allRender_or_exists_firstFault chained predicates with hrenders | ⟨fault, hfault⟩
      · refine .inl ⟨.simple (.batch predicates), entries, rfl, ?_⟩
        rw [Part.Renders, Part.holdsChain, Bool.or_false]
        exact hrenders
      · exact .inr ⟨_, .batch entries hfault⟩
  · obtain ⟨kind, rfl | rfl⟩ := Marker.exists_kind_of_isBracket hm
    · rcases exists_group_or_failsAt chained position kind entries with
        ⟨body, rest, hentries, hrenders⟩ | hfault
      · exact .inl ⟨.group kind body, rest, hentries, hrenders⟩
      · exact .inr hfault
    · exact .inr ⟨_, .close kind entries⟩

theorem Part.length_entries_pos (part : Part) : 0 < part.entries.length := by
  cases part with
  | simple e => exact Nat.one_pos
  | group kind body =>
    rw [length_entries_group]
    omega

/-- A list reads as parts whose predicates can be rendered, or has such parts up to an item that
fails. -/
theorem exists_parts_or_failsAt (chained : Bool) (position : Nat) (entries : List Entry) :
    ∃ (parts : List Part) (rest : List Entry), entries = Part.flatten parts ++ rest ∧
      Part.AllRenderFrom chained parts ∧
      (rest = [] ∨ ∃ fault, FailsAt (chained || parts.contains (.simple .chain))
        (position + (Part.flatten parts).length) rest fault) := by
  -- a part is taken off as a whole, so the induction is on the length
  induction hlength : entries.length using Nat.strongRecOn
    generalizing entries chained position with
  | ind length ih =>
    cases entries with
    | nil => exact ⟨[], [], rfl, Part.allRenderFrom_nil chained, .inl rfl⟩
    | cons e entries =>
      rcases exists_part_or_failsAt chained position e entries with
        ⟨part, after, hentries, hrenders⟩ | ⟨fault, hfault⟩
      · have hlt : after.length < length := by
          have hpos := part.length_entries_pos
          rw [hentries, List.length_append] at hlength
          omega
        obtain ⟨parts, rest, rfl, hparts, hrest⟩ :=
          ih after.length hlt (chained || (part == .simple .chain))
            (position + part.entries.length) after rfl
        refine ⟨part :: parts, rest, ?_, ?_, ?_⟩
        · rw [hentries, Part.flatten_cons, List.append_assoc]
        · exact (Part.allRenderFrom_cons chained part parts).mpr ⟨hrenders, hparts⟩
        · rw [List.contains_cons, Bool.beq_comm, ← Bool.or_assoc, Part.flatten_cons,
            List.length_append, ← Nat.add_assoc]
          exact hrest
      · refine ⟨[], e :: entries, rfl, Part.allRenderFrom_nil chained, .inr ⟨fault, ?_⟩⟩
        rw [List.contains_nil, Bool.or_false]
        exact hfault

/-! ## What the pass does at an item that fails -/

theorem lookAhead_open (opening : Marker) (openAt : Nat) (chained : Bool) (position : Nat)
    (other : GroupKind) (rest : List Entry) :
    lookAhead opening openAt chained position (.marker other.open :: rest) =
      .error (.nested position) := by
  cases other <;> rfl

theorem lookAhead_close_of_ne {kind other : GroupKind} (hne : other ≠ kind) (openAt : Nat)
    (chained : Bool) (position : Nat) (rest : List Entry) :
    lookAhead kind.open openAt chained position (.marker other.close :: rest) =
      .error (.mismatched other.close position kind.open) := by
  cases kind <;> cases other <;> first | rfl | exact absurd rfl hne

namespace Compilation

theorem batch_outside_of_firstFault {chaining : Bool} {predicates : List Predicate}
    (h : FirstFault chaining predicates fault) (outer : BoolQuery) :
    batch ⟨outer, none, chaining⟩ predicates = .error fault :=
  Except.bind_eq_error_iff.mpr (.inl (BoolQuery.addBatch_of_firstFault h outer))

theorem batch_inside_of_firstFault {inner chaining : Bool} {predicates : List Predicate}
    (h : FirstFault (chaining || inner) predicates fault) (outer query : BoolQuery)
    (opening : Marker) :
    batch ⟨outer, some ⟨opening, query, inner⟩, chaining⟩ predicates = .error fault :=
  Except.bind_eq_error_iff.mpr (.inl (BoolQuery.addBatch_of_firstFault h query))

theorem run_batch_of_error {state : Compilation} {predicates : List Predicate}
    (h : state.batch predicates = .error fault) (position : Nat) (rest : List Entry) :
    state.run position (.batch predicates :: rest) = .error (.predicate fault) := by
  rw [run, h]
  rfl

/-- The body of an open group fails with its first predicate that cannot be rendered. -/
theorem run_body_of_firstFault {inner chaining : Bool} {body : List SimpleEntry}
    (hinner : .chain ∈ body → inner = true)
    (h : FirstFault (chaining || inner) (body.flatMap SimpleEntry.predicates) fault)
    (outer query : BoolQuery) (opening : Marker) (position : Nat) (rest : List Entry) :
    run ⟨outer, some ⟨opening, query, inner⟩, chaining⟩ position
      (body.map SimpleEntry.entry ++ rest) = .error (.predicate fault) := by
  induction body generalizing query position with
  | nil => exact absurd h not_firstFault_nil
  | cons e body ih =>
    have hbody : .chain ∈ body → inner = true := fun hmem => hinner (List.mem_cons_of_mem _ hmem)
    rw [List.flatMap_cons] at h
    rw [List.map_cons, List.cons_append]
    cases e with
    | batch predicates =>
      rw [SimpleEntry.predicates] at h
      rcases firstFault_of_append h with hfirst | ⟨hfirst, hrest⟩
      · exact run_batch_of_error (batch_inside_of_firstFault hfirst outer query opening) _ _
      · rw [SimpleEntry.entry, run_batch_of_ok (batch_inside.mpr ⟨hfirst, rfl⟩)]
        exact ih hbody hrest _ _
    | chain =>
      -- the look ahead has seen this marker, so the group is chained already
      cases hinner List.mem_cons_self
      exact ih hbody h query (position + 1)

/-- At an item that fails the pass ends with its fault. -/
theorem run_of_failsAt {chained : Bool} {position : Nat} {entries : List Entry}
    {fault : CompileFault} (h : FailsAt chained position entries fault) (outer : BoolQuery) :
    run ⟨outer, none, chained⟩ position entries = .error fault := by
  cases h with
  | batch rest h => exact run_batch_of_error (batch_outside_of_firstFault h outer) position rest
  | close kind rest => cases kind <;> rfl
  | nested kind other body rest =>
    rw [run_open_eq, lookAhead_body, lookAhead_open]
    rfl
  | mismatched hne body rest =>
    rw [run_open_eq, lookAhead_body, lookAhead_close_of_ne hne]
    rfl
  | neverClosed kind body =>
    have hlook := lookAhead_body kind.open position body false (position + 1) []
    rw [List.append_nil] at hlook
    rw [run_open_eq, hlook]
    rfl
  | member kind rest h =>
    rw [Part.entries_group_append, run_open_eq, lookAhead_body, lookAhead_close, Bool.false_or]
    exact run_body_of_firstFault List.contains_iff_mem.mpr h outer {} kind.open _ _

end Compilation

/-! ## Main result -/

namespace Conditions

variable {conditions : Conditions} {fault : CompileFault}

theorem compile_of_leftmostFault (h : conditions.LeftmostFault fault) (geo : Option GeoFilter) :
    conditions.compile geo = .error fault := by
  obtain ⟨parts, rest, rfl, hrenders, hfails⟩ := h
  have hparts : Compilation.run {} 0 (Part.flatten parts) =
      .ok ⟨{} ++ Part.query false parts, none, false || parts.contains (.simple .chain)⟩ :=
    Compilation.run_flatten.mpr ⟨hrenders, rfl⟩
  have hrun : Compilation.run {} 0 (Part.flatten parts ++ rest) = .error fault := by
    rw [Compilation.run_append_of_ok hparts, Bool.false_or, Nat.zero_add]
    exact Compilation.run_of_failsAt hfails _
  exact Except.bind_eq_error_iff.mpr (.inl hrun)

theorem leftmostFault_of_compile {geo : Option GeoFilter}
    (h : conditions.compile geo = .error fault) : conditions.LeftmostFault fault := by
  obtain ⟨parts, rest, hconditions, hrenders, hrest⟩ := exists_parts_or_failsAt false 0 conditions
  rcases hrest with rfl | ⟨found, hfails⟩
  · -- without an item that fails the list compiles
    rw [List.append_nil] at hconditions
    rw [hconditions, compile_flatten_eq_ok_iff.mpr ⟨hrenders, rfl⟩] at h
    cases h
  · rw [Bool.false_or, Nat.zero_add] at hfails
    have hfound : conditions.LeftmostFault found := ⟨parts, rest, hconditions, hrenders, hfails⟩
    rw [compile_of_leftmostFault hfound geo] at h
    cases h
    exact hfound

/-- What is appended to a list does not change its leftmost fault, unless a group has no end. -/
theorem LeftmostFault.append (h : conditions.LeftmostFault fault)
    (hclosed : ∀ opening openAt, fault ≠ .group (.neverClosed opening openAt))
    (later : Conditions) : (conditions ++ later).LeftmostFault fault := by
  obtain ⟨parts, rest, rfl, hrenders, hfails⟩ := h
  exact ⟨parts, rest ++ later, List.append_assoc _ _ _, hrenders, hfails.append hclosed later⟩

/-- The leftmost fault is none of those that the pass looks for after the look ahead. -/
theorem LeftmostFault.not_of_pass (h : conditions.LeftmostFault fault) :
    (∀ position, fault ≠ .group (.openWhileOpen position)) ∧
      (∀ m position opening, fault ≠ .group (.closeOfOther m position opening)) ∧
      ∀ opening, fault ≠ .group (.leftOpen opening) := by
  obtain ⟨parts, rest, -, -, hfails⟩ := h
  exact hfails.not_of_pass

/-- **Which fault is reported.** A list fails to compile with a fault exactly if that is the fault of
its leftmost item that fails. The fault is never one that the pass looks for after the look ahead: a
group opened inside another, a close marker of the other kind, a group left open at the end. And
unless that item is a group without an end, the list fails the same way whatever is appended. -/
theorem reports_leftmost_fault (conditions : Conditions) (geo : Option GeoFilter)
    (fault : CompileFault) :
    (conditions.compile geo = .error fault ↔ conditions.LeftmostFault fault) ∧
      (conditions.compile geo = .error fault →
        (∀ position, fault ≠ .group (.openWhileOpen position)) ∧
          (∀ m position opening, fault ≠ .group (.closeOfOther m position opening)) ∧
          (∀ opening, fault ≠ .group (.leftOpen opening)) ∧
          ((∀ opening openAt, fault ≠ .group (.neverClosed opening openAt)) →
            ∀ later : Conditions, (conditions ++ later).compile geo = .error fault)) := by
  refine ⟨⟨leftmostFault_of_compile, fun h => compile_of_leftmostFault h geo⟩, fun h => ?_⟩
  have hleftmost := leftmostFault_of_compile h
  obtain ⟨hopen, hclose, hleft⟩ := hleftmost.not_of_pass
  exact ⟨hopen, hclose, hleft, fun hclosed later =>
    compile_of_leftmostFault (hleftmost.append hclosed later) geo⟩

/-- A group that ends with a marker of the other kind, with a predicate in it that cannot be
rendered, by itself and with the right close marker appended. -/
theorem reports_leftmost_fault_mismatched :
    LeftmostFault [.batch [.make "name" .exact .must (.single (.string "Ada"))], .marker .andOpen,
        .batch [.make "" .exact .must .none], .marker .orClose]
        (.group (.mismatched .orClose 3 .andOpen)) ∧
      compile [.batch [.make "name" .exact .must (.single (.string "Ada"))], .marker .andOpen,
        .batch [.make "" .exact .must .none], .marker .orClose, .marker .andClose] none =
          .error (.group (.mismatched .orClose 3 .andOpen)) := by
  obtain ⟨hiff, hfails⟩ := reports_leftmost_fault
    [.batch [.make "name" .exact .must (.single (.string "Ada"))], .marker .andOpen,
      .batch [.make "" .exact .must .none], .marker .orClose] none
    (.group (.mismatched .orClose 3 .andOpen))
  obtain ⟨-, -, -, hlater⟩ := hfails rfl
  exact ⟨hiff.mp rfl, hlater nofun [.marker .andClose]⟩

end Conditions
end SearchMapper
