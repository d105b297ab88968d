import SearchMapper.Proofs.Json.Sorted
import SearchMapper.Proofs.Json.Typed

/-!
# Values given under names

A list of named values may give a name several values; in the object that is made of it, the last
one counts. What is found under a name, said by the places of the list.
-/

namespace SearchMapper

variable {α : Type} {pairs : List (String × α)} {name : String} {value : α}

/-- The value is the last one that the pairs give the name. -/
def IsLast (pairs : List (String × α)) (name : String) (value : α) : Prop :=
  ∃ before after, pairs = before ++ (name, value) :: after ∧ ∀ pair ∈ after, pair.1 ≠ name

namespace Members

theorem find?_eq_lookup (name : String) (members : Members α) :
    find? name members = members.lookup name := by
  induction members with
  | nil => rfl
  | cons head rest ih =>
    obtain ⟨key, value⟩ := head
    rw [find?_cons, List.lookup_cons, ih]
    by_cases hkey : name = key
    · simp [hkey]
    · simp [hkey, beq_eq_false_iff_ne.mpr hkey]

theorem find?_reverse_eq_some_iff :
    find? name pairs.reverse = some value ↔ IsLast pairs name value := by
  rw [find?_eq_lookup, List.lookup_eq_some_iff]
  constructor
  · rintro ⟨before, after, hreverse, hbefore⟩
    refine ⟨after.reverse, before.reverse, ?_, fun pair hpair => ?_⟩
    · rw [← List.reverse_reverse pairs, hreverse]
      simp
    · exact (bne_iff_ne.mp (hbefore pair (List.mem_reverse.mp hpair))).symm
  · rintro ⟨before, after, rfl, hafter⟩
    refine ⟨after.reverse, before.reverse, by simp, fun pair hpair => ?_⟩
    exact bne_iff_ne.mpr (hafter pair (List.mem_reverse.mp hpair)).symm

/-- Something is found under the names that some pair has. -/
theorem exists_find?_iff :
    (∃ value, find? name pairs = some value) ↔ ∃ value, (name, value) ∈ pairs := by
  rw [← Option.isSome_iff_exists, find?_eq_lookup, List.lookup_isSome_iff]
  constructor
  · rintro ⟨pair, hpair, hname⟩
    rw [beq_iff_eq.mp hname]
    exact ⟨pair.2, hpair⟩
  · rintro ⟨value, hpair⟩
    exact ⟨_, hpair, beq_self_eq_true name⟩

/-- Leaving out pairs by their names leaves the other names as they are. -/
theorem find?_filter (p : String → Bool) (name : String) (pairs : List (String × α)) :
    find? name (pairs.filter fun pair => p pair.1) =
      if p name then find? name pairs else none := by
  induction pairs with
  | nil => simp
  | cons head rest ih =>
    obtain ⟨key, value⟩ := head
    rw [List.filter_cons, find?_cons]
    by_cases hkey : name = key
    · subst hkey
      by_cases hp : p name = true <;> simp [hp, ih]
    · by_cases hp : p key = true <;> simp [hp, hkey, ih]

theorem sorted_ofPairs (pairs : List (String × α)) : (ofPairs pairs).Sorted := by
  rw [ofPairs, ← List.foldr_reverse]
  induction pairs.reverse with
  | nil => exact sorted_nil
  | cons pair rest ih => exact ih.insert pair.1 pair.2

end Members

/-- A name has a last value exactly if some pair has it. -/
theorem exists_isLast_iff :
    (∃ value, IsLast pairs name value) ↔ ∃ value, (name, value) ∈ pairs := by
  simp only [← Members.find?_reverse_eq_some_iff, Members.exists_find?_iff, List.mem_reverse]

theorem IsLast.mem (h : IsLast pairs name value) : (name, value) ∈ pairs := by
  obtain ⟨before, after, rfl, -⟩ := h
  exact List.mem_append_right before List.mem_cons_self

/-! ## Elements that give several names a value -/

/-- The element is the last one of the list that has the name among its names. -/
def IsLastNaming (names : α → List String) (elements : List α) (name : String) (element : α) :
    Prop :=
  ∃ before after, elements = before ++ element :: after ∧ name ∈ names element ∧
    ∀ later ∈ after, name ∉ names later

/-- The last element of a list is the last one with each of its names, and the others count for the
names that it does not have. -/
theorem isLastNaming_append_singleton {names : α → List String} {rest : List α} {last element : α} :
    IsLastNaming names (rest ++ [last]) name element ↔
      (name ∈ names last ∧ element = last) ∨
        (name ∉ names last ∧ IsLastNaming names rest name element) := by
  constructor
  · rintro ⟨before, after, hsplit, hname, hafter⟩
    cases after using List.reverseRecOn with
    | nil =>
      obtain ⟨-, hlast⟩ := List.append_inj' hsplit rfl
      cases hlast
      exact .inl ⟨hname, rfl⟩
    | append_singleton after last' =>
      have hsplit' : rest ++ [last] = (before ++ element :: after) ++ [last'] := by
        rw [hsplit, List.append_assoc, List.cons_append]
      obtain ⟨rfl, hlast⟩ := List.append_inj' hsplit' rfl
      cases hlast
      obtain ⟨hbefore, hlast⟩ := List.forall_mem_append.mp hafter
      exact .inr ⟨hlast last List.mem_cons_self, before, after, rfl, hname, hbefore⟩
  · rintro (⟨hname, rfl⟩ | ⟨hlast, before, after, rfl, hname, hafter⟩)
    · exact ⟨rest, [], rfl, hname, nofun⟩
    · refine ⟨before, after ++ [last], by simp, hname, ?_⟩
      rw [List.forall_mem_append]
      exact ⟨hafter, List.forall_mem_singleton.mpr hlast⟩

namespace Members

theorem find?_map_const (name : String) (value : α) (names : List String) :
    find? name (names.map fun other => (other, value)) =
      if name ∈ names then some value else none := by
  induction names with
  | nil => rfl
  | cons first rest ih =>
    rw [List.map_cons, find?_cons, ih]
    by_cases hfirst : name = first <;> simp [hfirst]

/-- Of elements that give values to all of their names the last one with a name counts. -/
theorem find?_ofPairs_flatMap_eq_some_iff {β : Type} {names : α → List String} {valueOf : α → β}
    {elements : List α} {found : β} :
    find? name (ofPairs (elements.flatMap fun element =>
        (names element).map fun other => (other, valueOf element))) = some found ↔
      ∃ element, IsLastNaming names elements name element ∧ found = valueOf element := by
  rw [find?_ofPairs]
  induction elements using List.reverseRecOn with
  | nil => simp [IsLastNaming]
  | append_singleton rest last ih =>
    rw [List.flatMap_append, List.flatMap_singleton, List.reverse_append, find?_append,
      ← List.map_reverse, find?_map_const]
    simp only [List.mem_reverse, isLastNaming_append_singleton]
    by_cases hlast : name ∈ names last
    · simp [hlast, eq_comm]
    · simp [hlast, ih]

end Members
end SearchMapper
