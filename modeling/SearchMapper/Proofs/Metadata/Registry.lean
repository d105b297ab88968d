import SearchMapper.Metadata.Registry
import SearchMapper.Proofs.Metadata.Valid

/-!
# Histories of the metadata registry

What a sequence of look-ups of entity types gives, from the registry without records. The types
may give another description each time they are asked for one, valid or not; the registry asks
for one more only until the first that is valid.
-/

namespace SearchMapper.Registry
variable {κ : Type} [DecidableEq κ]

/-! ## One look-up -/

theorem find?_add_self (registry : Registry κ) (key : κ) (record : Shared Metadata) :
    (registry.add key record).find? key = some record := by
  simp [find?, add]

theorem find?_add_of_ne (registry : Registry κ) {key other : κ} (hne : other ≠ key)
    (record : Shared Metadata) : (registry.add key record).find? other = registry.find? other := by
  have hbeq : (other == key) = false := by simpa using hne
  simp [find?, add, List.lookup_cons, hbeq]

/-- A recorded type is not asked for a description. -/
theorem get_of_find?_eq_some {registry : Registry κ} {key : κ} {record : Shared Metadata}
    (h : registry.find? key = some record) (description : Metadata) :
    registry.get key description = { record := .ok record, registry, described := false } := by
  simp [get, h]

/-- An invalid description is not recorded. -/
theorem get_of_isInvalid {registry : Registry κ} {key : κ} (h : registry.find? key = none)
    {description : Metadata} (hinvalid : description.IsInvalid) :
    ∃ invalid, registry.get key description =
      { record := .error invalid, registry, described := true } := by
  obtain ⟨invalid, hvalidate⟩ := description.validate_eq_error_iff.mpr hinvalid
  exact ⟨invalid, by simp [get, h, hvalidate]⟩

/-- A valid description is recorded, in a place of its own. -/
theorem get_of_not_isInvalid {registry : Registry κ} {key : κ} (h : registry.find? key = none)
    {description : Metadata} (hvalid : ¬ description.IsInvalid) :
    registry.get key description =
      { record := .ok (registry.share description)
        registry := registry.add key (registry.share description)
        described := true } := by
  have hvalidate := description.validate_eq_ok_iff.mpr hvalid
  simp [get, h, hvalidate]

/-- The three ways a look-up can go. -/
theorem get_cases (registry : Registry κ) (key : κ) (description : Metadata) :
    (∃ record, registry.find? key = some record ∧ registry.get key description =
        { record := .ok record, registry, described := false }) ∨
      (registry.find? key = none ∧ description.IsInvalid ∧
        ∃ invalid, registry.get key description =
          { record := .error invalid, registry, described := true }) ∨
      (registry.find? key = none ∧ ¬ description.IsInvalid ∧ registry.get key description =
        { record := .ok (registry.share description)
          registry := registry.add key (registry.share description)
          described := true }) := by
  cases h : registry.find? key with
  | some record => exact .inl ⟨record, rfl, get_of_find?_eq_some h description⟩
  | none =>
    by_cases hinvalid : description.IsInvalid
    · exact .inr (.inl ⟨rfl, hinvalid, get_of_isInvalid h hinvalid⟩)
    · exact .inr (.inr ⟨rfl, hinvalid, get_of_not_isInvalid h hinvalid⟩)

/-! ## Look-ups in sequence -/

/-- One look-up of a history. -/
structure Visit (κ : Type) where
  key : κ
  before : Registry κ
  lookup : Lookup κ

/-- The look-up of a type, which was asked for its description `asked key` times before;
`describe key k` is the description that it gives when it is asked after `k` times. -/
def visit (describe : κ → Nat → Metadata) (registry : Registry κ) (asked : κ → Nat) (key : κ) :
    Visit κ :=
  { key, before := registry, lookup := registry.get key (describe key (asked key)) }

/-- How often each type was asked, with the look-up counted. -/
def Visit.count (visit : Visit κ) (asked : κ → Nat) (key : κ) : Nat :=
  if key = visit.key ∧ visit.lookup.described = true then asked key + 1 else asked key

/-- The look-ups of types one after the other. -/
def visits (describe : κ → Nat → Metadata) (registry : Registry κ) (asked : κ → Nat) :
    List κ → List (Visit κ)
  | [] => []
  | key :: keys =>
    let visit := visit describe registry asked key
    visit :: visits describe visit.lookup.registry (visit.count asked) keys

/-- The look-ups of types one after the other, none of them recorded or asked before. -/
def history (describe : κ → Nat → Metadata) (keys : List κ) : List (Visit κ) :=
  visits describe {} (fun _ => 0) keys

/-- An earlier look-up of the type gave the record. -/
def Gave (earlier : List (Visit κ)) (key : κ) (record : Shared Metadata) : Prop :=
  ∃ former ∈ earlier, former.key = key ∧ former.lookup.record = .ok record

/-- How many earlier look-ups asked the type for its description. -/
def timesDescribed (earlier : List (Visit κ)) (key : κ) : Nat :=
  earlier.countP fun former => former.key = key ∧ former.lookup.described = true

/-- What a look-up does, after earlier ones. -/
structure Follows (describe : κ → Nat → Metadata) (earlier : List (Visit κ)) (visit : Visit κ) :
    Prop where
  /-- The type is asked for its description unless an earlier look-up of it succeeded. -/
  described_iff : visit.lookup.described = true ↔ ¬ ∃ record, Gave earlier visit.key record
  /-- The look-up fails, and leaves the registry as it is, if that description is invalid. -/
  fails_iff : visit.lookup.described = true →
    (((∃ invalid, visit.lookup.record = .error invalid) ∧
        visit.lookup.registry = visit.before) ↔
      (describe visit.key (timesDescribed earlier visit.key)).IsInvalid)
  /-- A valid description is recorded, in a place that no look-up gave before. -/
  records : visit.lookup.described = true →
    ¬ (describe visit.key (timesDescribed earlier visit.key)).IsInvalid →
      ∃ record, visit.lookup.record = .ok record ∧
        record.value = describe visit.key (timesDescribed earlier visit.key) ∧
        visit.lookup.registry.find? visit.key = some record ∧
        ∀ key former, Gave earlier key former → former.place ≠ record.place
  /-- A record that was given once is shared by every later look-up of the type. -/
  shares : ∀ record, Gave earlier visit.key record →
    visit.lookup.record = .ok record ∧ visit.lookup.described = false ∧
      visit.lookup.registry = visit.before
  /-- All records are valid. -/
  valid : ∀ entry ∈ visit.lookup.registry.records, ¬ entry.2.value.IsInvalid
  /-- The records of other types stay. -/
  others : ∀ key, key ≠ visit.key →
    visit.lookup.registry.find? key = visit.before.find? key

/-! ## What the registry holds after a history -/

/-- The registry after the look-ups `earlier`, and how often each type was asked. -/
structure After (earlier : List (Visit κ)) (registry : Registry κ) (asked : κ → Nat) : Prop where
  found_iff : ∀ key record, registry.find? key = some record ↔ Gave earlier key record
  asked_eq : ∀ key, asked key = timesDescribed earlier key
  valid : ∀ entry ∈ registry.records, ¬ entry.2.value.IsInvalid
  place_lt : ∀ key record, Gave earlier key record → record.place < registry.records.length

theorem after_nil : After ([] : List (Visit κ)) {} fun _ => 0 where
  found_iff := by simp [find?, Gave]
  asked_eq := by simp [timesDescribed]
  valid := by simp
  place_lt := by simp [Gave]

omit [DecidableEq κ] in
theorem gave_append_singleton (earlier : List (Visit κ)) (visit : Visit κ) (key : κ)
    (record : Shared Metadata) :
    Gave (earlier ++ [visit]) key record ↔
      Gave earlier key record ∨ (visit.key = key ∧ visit.lookup.record = .ok record) := by
  simp [Gave, or_and_right, exists_or]

theorem timesDescribed_append_singleton (earlier : List (Visit κ)) (visit : Visit κ) :
    timesDescribed (earlier ++ [visit]) = visit.count (timesDescribed earlier) := by
  funext key
  by_cases h : key = visit.key ∧ visit.lookup.described = true
  · simp [timesDescribed, Visit.count, h]
  · have hvisit : ¬ (visit.key = key ∧ visit.lookup.described = true) :=
      fun ⟨hkey, hdescribed⟩ => h ⟨hkey.symm, hdescribed⟩
    simp [timesDescribed, Visit.count, List.countP_append, h, hvisit]

namespace After
variable {describe : κ → Nat → Metadata} {earlier : List (Visit κ)} {registry : Registry κ}
  {asked : κ → Nat}

theorem not_gave (h : After earlier registry asked) {key : κ} (hnone : registry.find? key = none)
    (record : Shared Metadata) : ¬ Gave earlier key record := by
  intro hgave
  have hsome := (h.found_iff key record).mpr hgave
  rw [hnone] at hsome
  cases hsome

theorem count_eq (h : After earlier registry asked) (visit : Visit κ) (key : κ) :
    visit.count asked key = timesDescribed (earlier ++ [visit]) key := by
  rw [timesDescribed_append_singleton, show asked = timesDescribed earlier from funext h.asked_eq]

/-- A look-up that records nothing, and gives nothing but what is recorded. -/
theorem append_of_known (h : After earlier registry asked) (visit : Visit κ)
    (hknown : ∀ record, visit.lookup.record = .ok record →
      registry.find? visit.key = some record) :
    After (earlier ++ [visit]) registry (visit.count asked) := by
  have hgave : ∀ key record,
      Gave (earlier ++ [visit]) key record ↔ Gave earlier key record := by
    intro key record
    rw [gave_append_singleton, or_iff_left_iff_imp]
    rintro ⟨rfl, hrecord⟩
    exact (h.found_iff _ _).mp (hknown record hrecord)
  exact {
    found_iff := fun key record => (h.found_iff key record).trans (hgave key record).symm
    asked_eq := h.count_eq visit
    valid := h.valid
    place_lt := fun key record hrecord => h.place_lt key record ((hgave key record).mp hrecord) }

/-- A look-up that records a valid description. -/
theorem append_of_recorded (h : After earlier registry asked) (visit : Visit κ)
    (hnone : registry.find? visit.key = none) {description : Metadata}
    (hvalid : ¬ description.IsInvalid)
    (hrecord : visit.lookup.record = .ok (registry.share description)) :
    After (earlier ++ [visit]) (registry.add visit.key (registry.share description))
      (visit.count asked) where
  found_iff key record := by
    rw [gave_append_singleton, hrecord, Except.ok.injEq]
    by_cases hkey : key = visit.key
    · subst hkey
      have hnot := h.not_gave hnone record
      simp [find?_add_self, hnot]
    · have hkey' : ¬ visit.key = key := fun heq => hkey heq.symm
      simp [find?_add_of_ne registry hkey, h.found_iff, hkey']
  asked_eq := h.count_eq visit
  valid entry hentry := by
    rcases List.mem_cons.mp hentry with rfl | hentry
    · exact hvalid
    · exact h.valid entry hentry
  place_lt key record hgave := by
    have hlength : (registry.add visit.key (registry.share description)).records.length =
        registry.records.length + 1 := rfl
    rw [gave_append_singleton, hrecord, Except.ok.injEq] at hgave
    rcases hgave with hgave | ⟨_, rfl⟩
    · have hlt := h.place_lt key record hgave
      omega
    · rw [hlength]
      exact Nat.lt_succ_self _

/-- What one look-up keeps. -/
theorem step (h : After earlier registry asked) (key : κ) :
    After (earlier ++ [visit describe registry asked key])
      (visit describe registry asked key).lookup.registry
      ((visit describe registry asked key).count asked) := by
  rcases registry.get_cases key (describe key (asked key)) with
    ⟨record, hfind, hget⟩ | ⟨hnone, hinvalid, invalid, hget⟩ | ⟨hnone, hvalid, hget⟩
  · rw [show (visit describe registry asked key).lookup.registry = registry by simp [visit, hget]]
    apply h.append_of_known
    simp [visit, hget, hfind]
  · rw [show (visit describe registry asked key).lookup.registry = registry by simp [visit, hget]]
    apply h.append_of_known
    simp [visit, hget]
  · rw [show (visit describe registry asked key).lookup.registry =
      registry.add key (registry.share (describe key (asked key))) by simp [visit, hget]]
    apply h.append_of_recorded _ hnone hvalid
    simp [visit, hget]

/-- What one look-up does. -/
theorem follows (h : After earlier registry asked) (key : κ) :
    Follows describe earlier (visit describe registry asked key) := by
  have hstep : After (earlier ++ [visit describe registry asked key])
      (visit describe registry asked key).lookup.registry _ := h.step key
  have hasked : timesDescribed earlier key = asked key := (h.asked_eq key).symm
  rcases registry.get_cases key (describe key (asked key)) with
    ⟨record, hfind, hget⟩ | ⟨hnone, hinvalid, invalid, hget⟩ | ⟨hnone, hvalid, hget⟩
  · -- the type has a record: the look-up that gave it is an earlier one
    have hgave := (h.found_iff key record).mp hfind
    exact {
      described_iff := by simpa [visit, hget] using ⟨record, hgave⟩
      fails_iff := by simp [visit, hget]
      records := by simp [visit, hget]
      shares := by
        intro former hformer
        have hsome := (h.found_iff key former).mpr hformer
        rw [hfind, Option.some.injEq] at hsome
        simp [visit, hget, hsome]
      valid := hstep.valid
      others := by simp [visit, hget] }
  · -- without a record no earlier look-up succeeded, and the description is invalid
    have hnot := h.not_gave hnone
    exact {
      described_iff := by simp [visit, hget, hnot]
      fails_iff := by simp [visit, hget, hasked, hinvalid]
      records := by simp [visit, hasked, hinvalid]
      shares := by simp [visit, hnot]
      valid := hstep.valid
      others := by simp [visit, hget] }
  · -- the description is valid, and goes to a place behind all that were given
    have hnot := h.not_gave hnone
    exact {
      described_iff := by simp [visit, hget, hnot]
      fails_iff := by simp [visit, hget, hasked, hvalid]
      records := by
        intro _ _
        refine ⟨_, congrArg Lookup.record hget, ?_, ?_, ?_⟩
        · rw [visit, hasked, share]
        · simp [visit, hget, find?_add_self]
        · intro other former hformer
          exact Nat.ne_of_lt (h.place_lt other former hformer)
      shares := by simp [visit, hnot]
      valid := hstep.valid
      others := by
        intro other hother
        simpa [visit, hget] using find?_add_of_ne registry hother _ }

end After

/-! ## Whole histories -/

theorem length_visits (describe : κ → Nat → Metadata) (registry : Registry κ) (asked : κ → Nat)
    (keys : List κ) : (visits describe registry asked keys).length = keys.length := by
  induction keys generalizing registry asked with
  | nil => rfl
  | cons key keys ih => simp [visits, ih]

/-- What the look-ups do that come after a history. -/
theorem After.follows_visits {describe : κ → Nat → Metadata} {earlier : List (Visit κ)}
    {registry : Registry κ} {asked : κ → Nat} (h : After earlier registry asked) (keys : List κ)
    {i : Nat} {later : Visit κ} (hlater : (visits describe registry asked keys)[i]? = some later) :
    keys[i]? = some later.key ∧
      Follows describe (earlier ++ (visits describe registry asked keys).take i) later := by
  -- along the types: the first look-up joins the earlier ones
  induction keys generalizing earlier registry asked i with
  | nil => simp [visits] at hlater
  | cons key keys ih =>
    cases i with
    | zero =>
      rw [visits, List.getElem?_cons_zero, Option.some.injEq] at hlater
      subst hlater
      exact ⟨rfl, by simpa using h.follows key⟩
    | succ i =>
      rw [visits, List.getElem?_cons_succ] at hlater
      have hrest := ih (h.step key) hlater
      rw [visits, List.take_succ_cons, List.append_cons]
      exact hrest

/-- Every look-up of a history follows the ones before it: the type describes itself until a
description is valid, that one is recorded, and its record is shared from then on. -/
theorem follows_of_history (describe : κ → Nat → Metadata) (keys : List κ) :
    (history describe keys).length = keys.length ∧
      ∀ (i : Nat) (visit : Visit κ), (history describe keys)[i]? = some visit →
        keys[i]? = some visit.key ∧
          Follows describe ((history describe keys).take i) visit := by
  refine ⟨length_visits describe _ _ keys, ?_⟩
  intro i visit hvisit
  exact after_nil.follows_visits keys hvisit

/-- The first type has no index name when it is asked first; the other one comes between. -/
theorem follows_of_history_described_twice :
    let describe : Bool → Nat → Metadata := fun key k =>
      if key then { indexName := "other" } else { indexName := if k = 0 then " " else "named" }
    let records : List (Bool × Shared Metadata) :=
      [(false, ⟨1, { indexName := "named" }⟩), (true, ⟨0, { indexName := "other" }⟩)]
    let visit : Visit Bool :=
      { key := false
        before := { records }
        lookup :=
          { record := .ok ⟨1, { indexName := "named" }⟩, registry := { records }
            described := false } }
    (history describe [false, true, false, false])[3]? = some visit ∧
      [false, true, false, false][3]? = some visit.key ∧
      Follows describe ((history describe [false, true, false, false]).take 3) visit :=
  have hvisit := by rfl
  ⟨hvisit, (follows_of_history _ [false, true, false, false]).2 3 _ hvisit⟩

end SearchMapper.Registry
