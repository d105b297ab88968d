import SearchMapper.Condition.Build

/-!
# Parts of a condition list

A list whose groups stand side by side reads as a list of parts: entries outside all groups, and
groups with what is between their markers. The markers alone tell whether a list reads so:
`Conditions.isFlat_iff_exists_parts`.
-/

namespace SearchMapper

/-- An entry that neither opens nor closes a group. -/
inductive SimpleEntry where
  | batch (predicates : List Predicate)
  | chain
deriving DecidableEq, Repr

namespace SimpleEntry

/-- The entry of the list. -/
def entry : SimpleEntry → Entry
  | batch predicates => .batch predicates
  | chain => .marker .orChain

/-- The predicates of the entry. -/
def predicates : SimpleEntry → List Predicate
  | batch predicates => predicates
  | chain => []

end SimpleEntry

/-- A part of a list whose groups stand side by side. -/
inductive Part where
  /-- An entry outside all groups. -/
  | simple (entry : SimpleEntry)
  /-- A group with the entries between its markers. -/
  | group (kind : GroupKind) (body : List SimpleEntry)
deriving DecidableEq, Repr

namespace Part

/-- The entries of a part, a group with its markers. -/
def entries : Part → List Entry
  | simple e => [e.entry]
  | group kind body => Conditions.grouped kind (body.map SimpleEntry.entry)

/-- The predicates of a part, in order. -/
def predicates : Part → List Predicate
  | simple e => e.predicates
  | group _ body => body.flatMap SimpleEntry.predicates

/-- The part is a group with a chain marker in it. -/
def holdsChain : Part → Bool
  | simple _ => false
  | group _ body => body.contains .chain

/-- The kind of a part that is a group. -/
def kind? : Part → Option GroupKind
  | simple _ => none
  | group kind _ => some kind

/-- The list that parts make up. -/
def flatten (parts : List Part) : Conditions := parts.flatMap entries

@[simp] theorem flatten_nil : flatten [] = [] := rfl

@[simp] theorem flatten_cons (part : Part) (rest : List Part) :
    flatten (part :: rest) = part.entries ++ flatten rest := rfl

theorem flatten_append (first second : List Part) :
    flatten (first ++ second) = flatten first ++ flatten second := List.flatMap_append

/-- Entries outside all groups are a part each. -/
theorem flatten_map_simple (entries : List SimpleEntry) :
    flatten (entries.map simple) = entries.map SimpleEntry.entry := by
  induction entries with
  | nil => rfl
  | cons e rest ih =>
    rw [List.map_cons, flatten_cons, ih, List.map_cons]
    rfl

/-- A group begins with its open marker and ends with its close marker. -/
theorem entries_group_append (kind : GroupKind) (body : List SimpleEntry) (rest : List Entry) :
    (group kind body).entries ++ rest =
      .marker kind.open :: (body.map SimpleEntry.entry ++ .marker kind.close :: rest) := by
  simp only [entries, Conditions.grouped, List.cons_append, List.append_assoc, List.nil_append]

theorem length_entries_group (kind : GroupKind) (body : List SimpleEntry) :
    (group kind body).entries.length = body.length + 2 := by
  simp only [entries, Conditions.grouped, List.cons_append, List.length_cons, List.length_append,
    List.length_map, List.length_nil]

end Part

/-! ## The predicates of a list -/

namespace Conditions

theorem predicates_map_entry (body : List SimpleEntry) :
    predicates (body.map SimpleEntry.entry) = body.flatMap SimpleEntry.predicates := by
  rw [predicates, List.flatMap_map]
  congr 1
  funext e
  cases e <;> rfl

theorem predicates_entries (part : Part) : predicates part.entries = part.predicates := by
  cases part with
  | simple e => exact (predicates_map_entry [e]).trans (List.append_nil _)
  | group kind body =>
    have hbody := predicates_map_entry body
    rw [predicates] at hbody
    rw [Part.entries, grouped, predicates, List.cons_append, List.flatMap_cons, List.flatMap_append,
      hbody]
    exact List.append_nil _

/-- The predicates of a list are those of its parts, in order. -/
theorem predicates_flatten (parts : List Part) :
    predicates (Part.flatten parts) = parts.flatMap Part.predicates := by
  induction parts with
  | nil => rfl
  | cons part rest ih =>
    rw [predicates] at ih
    rw [Part.flatten_cons, predicates, List.flatMap_append, ih, List.flatMap_cons,
      ← predicates_entries part]
    rfl

end Conditions

/-! ## Open and close markers -/

/-- The marker opens or closes a group. -/
def Marker.isBracket (m : Marker) : Bool := m.isOpen || m.isClose

@[simp] theorem GroupKind.isBracket_open (kind : GroupKind) : kind.open.isBracket = true := by
  cases kind <;> rfl

@[simp] theorem GroupKind.isBracket_close (kind : GroupKind) : kind.close.isBracket = true := by
  cases kind <;> rfl

theorem Marker.exists_kind_of_isBracket {m : Marker} (h : m.isBracket = true) :
    ∃ kind : GroupKind, m = kind.open ∨ m = kind.close := by
  cases m with
  | andOpen => exact ⟨.all, .inl rfl⟩
  | orOpen => exact ⟨.any, .inl rfl⟩
  | andClose => exact ⟨.all, .inr rfl⟩
  | orClose => exact ⟨.any, .inr rfl⟩
  | orChain => cases h

namespace Conditions

/-- The open and close markers of a list, in order, without anything else. -/
def brackets (conditions : Conditions) : List Marker :=
  (conditions.filterMap Entry.marker?).filter Marker.isBracket

/-- The groups of a list stand side by side: after each open marker comes the close marker of
the same kind. -/
def IsFlat (conditions : Conditions) : Prop :=
  ∃ kinds : List GroupKind, conditions.brackets = kinds.flatMap fun kind => [kind.open, kind.close]

@[simp] theorem brackets_nil : brackets [] = [] := rfl

@[simp] theorem brackets_append (first second : Conditions) :
    brackets (first ++ second) = brackets first ++ brackets second := by
  rw [brackets, List.filterMap_append, List.filter_append]
  rfl

@[simp] theorem brackets_simple (e : SimpleEntry) (rest : Conditions) :
    brackets (e.entry :: rest) = brackets rest := by
  cases e <;> rfl

@[simp] theorem brackets_marker {m : Marker} (hm : m.isBracket = true) (rest : Conditions) :
    brackets (.marker m :: rest) = m :: brackets rest := by
  simp only [brackets, List.filterMap_cons, Entry.marker?, List.filter_cons, hm, if_true]

@[simp] theorem brackets_map_entry (body : List SimpleEntry) :
    brackets (body.map SimpleEntry.entry) = [] := by
  induction body with
  | nil => rfl
  | cons e rest ih => rw [List.map_cons, brackets_simple, ih]

/-- Any entry is a simple one or a marker that opens or closes a group. -/
theorem exists_entry_or_bracket (e : Entry) :
    (∃ simple : SimpleEntry, e = simple.entry) ∨
      ∃ m : Marker, m.isBracket = true ∧ e = .marker m := by
  cases e with
  | batch predicates => exact .inl ⟨.batch predicates, rfl⟩
  | marker m =>
    cases m with
    | orChain => exact .inl ⟨.chain, rfl⟩
    | andOpen | orOpen | andClose | orClose => exact .inr ⟨_, rfl, rfl⟩

/-- Without open and close markers a list has simple entries only. -/
theorem exists_body_of_brackets_eq_nil {conditions : Conditions} (h : conditions.brackets = []) :
    ∃ body : List SimpleEntry, conditions = body.map SimpleEntry.entry := by
  induction conditions with
  | nil => exact ⟨[], rfl⟩
  | cons e rest ih =>
    rcases exists_entry_or_bracket e with ⟨simple, rfl⟩ | ⟨m, hm, rfl⟩
    · rw [brackets_simple] at h
      obtain ⟨body, rfl⟩ := ih h
      exact ⟨simple :: body, rfl⟩
    · rw [brackets_marker hm] at h
      exact absurd h (List.cons_ne_nil _ _)

/-- Before the first open or close marker there are simple entries only. -/
theorem exists_body_of_brackets_eq_cons {conditions : Conditions} {m : Marker}
    {later : List Marker} (h : conditions.brackets = m :: later) :
    ∃ (body : List SimpleEntry) (rest : Conditions),
      conditions = body.map SimpleEntry.entry ++ .marker m :: rest ∧ rest.brackets = later := by
  induction conditions with
  | nil => exact absurd h.symm (List.cons_ne_nil _ _)
  | cons e rest ih =>
    rcases exists_entry_or_bracket e with ⟨simple, rfl⟩ | ⟨m', hm, rfl⟩
    · rw [brackets_simple] at h
      obtain ⟨body, rest', rfl, hrest⟩ := ih h
      exact ⟨simple :: body, rest', rfl, hrest⟩
    · rw [brackets_marker hm] at h
      obtain ⟨rfl, hrest⟩ := List.cons_eq_cons.mp h
      exact ⟨[], rest, rfl, hrest⟩

/-! ## Reading a list as parts -/

/-- The open and close markers of parts are those of their groups, in pairs. -/
theorem brackets_flatten (parts : List Part) :
    brackets (Part.flatten parts) =
      (parts.filterMap Part.kind?).flatMap fun kind => [kind.open, kind.close] := by
  induction parts with
  | nil => rfl
  | cons part rest ih =>
    rw [Part.flatten_cons]
    cases part with
    | simple e =>
      rw [Part.entries, List.cons_append, List.nil_append, brackets_simple, ih]
      rfl
    | group kind body =>
      rw [Part.entries_group_append, brackets_marker kind.isBracket_open, brackets_append,
        brackets_map_entry, List.nil_append, brackets_marker kind.isBracket_close, ih]
      rfl

/-- A list reads as parts exactly if its groups stand side by side. -/
theorem isFlat_iff_exists_parts (conditions : Conditions) :
    conditions.IsFlat ↔ ∃ parts, conditions = Part.flatten parts := by
  constructor
  · intro h
    obtain ⟨kinds, h⟩ := h
    -- one group after another is cut off at the front, so the induction is on their kinds
    induction kinds generalizing conditions with
    | nil =>
      obtain ⟨body, rfl⟩ := exists_body_of_brackets_eq_nil h
      exact ⟨body.map .simple, (Part.flatten_map_simple body).symm⟩
    | cons kind kinds ih =>
      obtain ⟨front, rest, rfl, hrest⟩ := exists_body_of_brackets_eq_cons h
      obtain ⟨body, after, rfl, hafter⟩ := exists_body_of_brackets_eq_cons hrest
      obtain ⟨parts, rfl⟩ := ih after hafter
      refine ⟨front.map .simple ++ .group kind body :: parts, ?_⟩
      rw [Part.flatten_append, Part.flatten_map_simple, Part.flatten_cons,
        Part.entries_group_append]
  · intro h
    obtain ⟨parts, rfl⟩ := h
    exact ⟨parts.filterMap Part.kind?, brackets_flatten parts⟩

end Conditions
end SearchMapper
