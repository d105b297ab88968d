import SearchMapper.Json.Reader
import SearchMapper.Proofs.Json.Sorted

/-!
# Values with sorted members

Every object of a value that is read from text holds its members sorted by name, each name once,
whatever the order in the text. A token is a scalar or holds no value, the open arrays and objects
hold sorted values at every step, and so does what is read in the end.
-/

/-- What every step on an element of a list keeps is kept by the steps on all elements. -/
theorem Option.foldlM_induction {σ α : Type} {motive : σ → Prop} {step : σ → α → Option σ}
    {xs : List α} {first last : σ} (hrun : xs.foldlM step first = some last)
    (hfirst : motive first)
    (hstep : ∀ x ∈ xs, ∀ {before after}, step before x = some after →
      motive before → motive after) : motive last := by
  induction xs generalizing first with
  | nil =>
    cases hrun
    exact hfirst
  | cons x rest ih =>
    obtain ⟨hx, hrest⟩ := List.forall_mem_cons.mp hstep
    rw [List.foldlM_cons] at hrun
    obtain ⟨next, hnext, hrun⟩ := Option.bind_eq_some_iff.mp hrun
    exact ih hrun (hx hnext hfirst) hrest

namespace SearchMapper.Json

/-- All objects in the value hold their members sorted by name. -/
inductive Ordered : Json → Prop where
  | null : Ordered .null
  | bool (value : Bool) : Ordered (.bool value)
  | number (value : JsonNumber) : Ordered (.number value)
  | string (value : String) : Ordered (.string value)
  | array {items : List Json} (hitems : ∀ item ∈ items, Ordered item) : Ordered (.array items)
  | object {members : Members Json} (hsorted : members.Sorted)
      (hmembers : ∀ member ∈ members, Ordered member.2) : Ordered (.object members)

theorem ordered_array {items : List Json} :
    (Json.array items).Ordered ↔ ∀ item ∈ items, item.Ordered := by
  constructor
  · rintro ⟨⟩
    assumption
  · exact .array

theorem ordered_object {members : Members Json} :
    (Json.object members).Ordered ↔ members.Sorted ∧ ∀ member ∈ members, member.2.Ordered := by
  constructor
  · rintro ⟨⟩
    exact ⟨‹_›, ‹_›⟩
  · exact fun h => .object h.1 h.2

/-- The members of a value with sorted members have sorted members. -/
theorem Ordered.member? {value found : Json} {name : String} (h : value.Ordered)
    (hfound : value.member? name = some found) : found.Ordered := by
  cases h with
  | object hsorted hmembers => exact hmembers _ (Members.mem_of_find? hfound)
  | _ => cases hfound

/-! ## Tokens -/

/-- A token that holds a value holds one with sorted members. -/
def Token.Ordered (token : Token) : Prop := ∀ value, token = .scalar value → value.Ordered

theorem ordered_of_finite? {x : Double} {value : Json} (h : finite? x = some value) :
    value.Ordered := by
  unfold finite? at h
  split at h
  · cases h
    exact .number _
  · cases h

theorem ordered_of_int? {n : Int} {value : Json} (h : int? n = some value) : value.Ordered := by
  unfold int? at h
  split at h
  · cases h
    exact .number _
  · cases h

theorem ordered_of_magnitude? {negative : Bool} {chars : List Char} {value : Json}
    (h : magnitude? negative chars = some value) : value.Ordered := by
  unfold magnitude? at h
  dsimp only at h
  obtain ⟨fraction, -, h⟩ := Option.bind_eq_some_iff.mp h
  obtain ⟨_, -, h⟩ := Option.bind_eq_some_iff.mp h
  -- with an exponent and without one, the number is exact or rounded
  split at h <;>
  · obtain ⟨exponent, -, h⟩ := Option.bind_eq_some_iff.mp h
    split at h
    · rcases Option.or_eq_some_iff.mp h with hexact | ⟨-, hrounded⟩
      · exact ordered_of_int? hexact
      · exact ordered_of_finite? hrounded
    · exact ordered_of_finite? h

/-- A word is a truth value, null or a number. -/
theorem ordered_of_word? {chars : List Char} {value : Json} (h : word? chars = some value) :
    value.Ordered := by
  unfold word? at h
  split at h
  · cases h
    exact .bool true
  · split at h
    · cases h
      exact .bool false
    · split at h
      · cases h
        exact .null
      · split at h
        · exact ordered_of_magnitude? h
        · exact ordered_of_magnitude? h

theorem ordered_of_punctuation? {c : Char} {token : Token} (h : punctuation? c = some token) :
    token.Ordered := by
  rintro value rfl
  unfold punctuation? at h
  split at h <;> cases h

theorem ordered_scalar {value : Json} (h : value.Ordered) : (Token.scalar value).Ordered := by
  rintro _ ⟨⟩
  exact h

theorem startToken_ordered {tokens : List Token} {c : Char} {next : Lexing × List Token}
    (h : startToken tokens c = some next) (htokens : ∀ token ∈ tokens, token.Ordered) :
    ∀ token ∈ next.2, token.Ordered := by
  unfold startToken at h
  split at h
  · cases h
    exact htokens
  · split at h
    · cases h
      exact htokens
    · split at h
      · next token htoken =>
        cases h
        exact List.forall_mem_cons.mpr ⟨ordered_of_punctuation? htoken, htokens⟩
      · cases h
        exact htokens

/-- One character adds only tokens with sorted members. -/
theorem lexStep_ordered {state next : Lexing × List Token} {c : Char}
    (h : lexStep state c = some next) (htokens : ∀ token ∈ state.2, token.Ordered) :
    ∀ token ∈ next.2, token.Ordered := by
  obtain ⟨lexing, tokens⟩ := state
  cases lexing with
  | between => exact startToken_ordered h htokens
  | word chars =>
    simp only [lexStep] at h
    split at h
    · -- the character ends the word, and may be a token itself
      obtain ⟨value, hvalue, h⟩ := Option.bind_eq_some_iff.mp h
      have hscalar := ordered_scalar (ordered_of_word? hvalue)
      exact startToken_ordered h (List.forall_mem_cons.mpr ⟨hscalar, htokens⟩)
    · cases h
      exact htokens
  | text chars =>
    simp only [lexStep] at h
    split at h
    · cases h
      exact List.forall_mem_cons.mpr ⟨ordered_scalar (.string _), htokens⟩
    · split at h
      · cases h
        exact htokens
      · split at h
        · cases h
        · cases h
          exact htokens
  | escape chars =>
    simp only [lexStep] at h
    split at h
    · cases h
      exact htokens
    · obtain ⟨_, -, rfl⟩ := Option.map_eq_some_iff.mp h
      exact htokens
  | code chars high digits value =>
    obtain ⟨digit, -, h⟩ := Option.bind_eq_some_iff.mp h
    dsimp only at h
    split at h
    · obtain ⟨_, -, rfl⟩ := Option.map_eq_some_iff.mp h
      exact htokens
    · cases h
      exact htokens
  | pair chars high =>
    simp only [lexStep] at h
    split at h
    · cases h
      exact htokens
    · cases h
  | pairEscape chars high =>
    simp only [lexStep] at h
    split at h
    · cases h
      exact htokens
    · cases h

theorem ordered_of_tokens? {text : String} {tokens : List Token} (h : tokens? text = some tokens) :
    ∀ token ∈ tokens, token.Ordered := by
  unfold tokens? at h
  obtain ⟨⟨lexing, read⟩, hrun, h⟩ := Option.bind_eq_some_iff.mp h
  have hread : ∀ token ∈ read, token.Ordered :=
    Option.foldlM_induction (motive := fun state => ∀ token ∈ state.2, token.Ordered) hrun nofun
      fun _ _ _ _ hstep => lexStep_ordered hstep
  cases lexing with
  | between =>
    cases h
    exact fun token hmem => hread token (List.mem_reverse.mp hmem)
  | word chars =>
    -- the text ends with a word, whose value is the last token
    obtain ⟨value, hvalue, h⟩ := Option.bind_eq_some_iff.mp h
    cases h
    have hall := List.forall_mem_cons.mpr ⟨ordered_scalar (ordered_of_word? hvalue), hread⟩
    exact fun token hmem => hall token (List.mem_reverse.mp hmem)
  | _ => cases h

/-! ## Values -/

/-- What an open array or object holds so far has sorted members. -/
def Opened.Ordered : Opened → Prop
  | .array items => ∀ item ∈ items, item.Ordered
  | .object members _ => members.Sorted ∧ ∀ member ∈ members, member.2.Ordered

/-- All that has been read so far has sorted members. -/
structure OrderedSoFar (state : List Opened × Due) : Prop where
  stack : ∀ opened ∈ state.1, opened.Ordered
  value : ∀ value, state.2 = .finished value → value.Ordered

theorem orderedSoFar_complete {value : Json} {stack : List Opened} (hvalue : value.Ordered)
    (hstack : ∀ opened ∈ stack, opened.Ordered) : OrderedSoFar (complete value stack) := by
  cases stack with
  | nil =>
    refine ⟨nofun, ?_⟩
    rintro _ ⟨⟩
    exact hvalue
  | cons opened outer =>
    -- the value goes into what is open around it
    obtain ⟨hopened, houter⟩ := List.forall_mem_cons.mp hstack
    cases opened with
    | array items =>
      have hitems : (Opened.array (value :: items)).Ordered :=
        List.forall_mem_cons.mpr ⟨hvalue, hopened⟩
      exact ⟨List.forall_mem_cons.mpr ⟨hitems, houter⟩, nofun⟩
    | object members name =>
      have hmembers : (Opened.object (Members.insert name value members) name).Ordered := by
        refine ⟨hopened.1.insert name value, fun member hmem => ?_⟩
        rcases Members.mem_insert hmem with rfl | hmem
        · exact hvalue
        · exact hopened.2 member hmem
      exact ⟨List.forall_mem_cons.mpr ⟨hmembers, houter⟩, nofun⟩

theorem orderedSoFar_enter {opened : Opened} {due : Due} {stack : List Opened}
    {next : List Opened × Due} (h : enter opened due stack = some next) (hopened : opened.Ordered)
    (hdue : ∀ value, due ≠ .finished value) (hstack : ∀ opened ∈ stack, opened.Ordered) :
    OrderedSoFar next := by
  unfold enter at h
  split at h
  · cases h
    refine ⟨List.forall_mem_cons.mpr ⟨hopened, hstack⟩, fun value hvalue => ?_⟩
    exact absurd hvalue (hdue value)
  · cases h

theorem orderedSoFar_closeArray {stack : List Opened} {next : List Opened × Due}
    (h : closeArray stack = some next) (hstack : ∀ opened ∈ stack, opened.Ordered) :
    OrderedSoFar next := by
  unfold closeArray at h
  split at h
  · cases h
    obtain ⟨hitems, houter⟩ := List.forall_mem_cons.mp hstack
    refine orderedSoFar_complete (ordered_array.mpr fun item hmem => ?_) houter
    exact hitems item (List.mem_reverse.mp hmem)
  · cases h

theorem orderedSoFar_closeObject {stack : List Opened} {next : List Opened × Due}
    (h : closeObject stack = some next) (hstack : ∀ opened ∈ stack, opened.Ordered) :
    OrderedSoFar next := by
  unfold closeObject at h
  split at h
  · cases h
    obtain ⟨hmembers, houter⟩ := List.forall_mem_cons.mp hstack
    exact orderedSoFar_complete (ordered_object.mpr hmembers) houter
  · cases h

/-- One token keeps all that is read sorted. -/
theorem OrderedSoFar.readStep {state next : List Opened × Due} {token : Token}
    (h : readStep state token = some next) (htoken : token.Ordered) (hstate : OrderedSoFar state) :
    OrderedSoFar next := by
  obtain ⟨stack, due⟩ := state
  have hstack := hstate.stack
  -- the cases are those of the step, in its order; only the first one brings a value of its own
  unfold Json.readStep at h
  dsimp only at h hstack
  split at h
  · cases h
    exact orderedSoFar_complete (htoken _ rfl) hstack
  · exact orderedSoFar_enter h nofun nofun hstack
  · exact orderedSoFar_enter h ⟨Members.sorted_nil, nofun⟩ nofun hstack
  · exact orderedSoFar_closeArray h hstack
  · exact orderedSoFar_closeObject h hstack
  · -- a name comes into the innermost object, which keeps its members
    split at h
    · cases h
      obtain ⟨hopened, houter⟩ := List.forall_mem_cons.mp hstack
      exact ⟨List.forall_mem_cons.mpr ⟨hopened, houter⟩, nofun⟩
    · cases h
  · cases h
    exact ⟨hstack, nofun⟩
  · split at h <;> cases h <;> exact ⟨hstack, nofun⟩
  · exact orderedSoFar_closeArray h hstack
  · exact orderedSoFar_closeObject h hstack
  · cases h

/-- **Read values have sorted members.** -/
theorem ordered_of_parse? {text : String} {value : Json} (h : parse? text = some value) :
    value.Ordered := by
  unfold parse? at h
  obtain ⟨tokens, htokens, h⟩ := Option.bind_eq_some_iff.mp h
  obtain ⟨⟨stack, due⟩, hrun, h⟩ := Option.bind_eq_some_iff.mp h
  have hlast : OrderedSoFar (stack, due) :=
    Option.foldlM_induction hrun ⟨nofun, nofun⟩ fun token hmem _ _ hstep =>
      OrderedSoFar.readStep hstep (ordered_of_tokens? htokens token hmem)
  cases due with
  | finished read =>
    cases h
    exact hlast.value value rfl
  | _ => cases h

end SearchMapper.Json
