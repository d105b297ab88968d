import SearchMapper.Date.Pattern

/-!
# Directives of a text

Where the directives of a text stand, said on the text itself: it is read from the front, directive
by directive and otherwise character by character. The items of a pattern come in that order, so a
question about its items is one about its directives.
-/

namespace SearchMapper.DatePattern

variable {P : List Char → Prop}

/-- Reading the text from the front reaches a percent sign with something behind it that has the
property. -/
inductive ReachesDirective (P : List Char → Prop) : List Char → Prop
  | here {rest : List Char} (h : P rest) : ReachesDirective P ('%' :: rest)
  | behindDirective {rest after : List Char} {items : DatePattern}
    (h : directive? rest = some (items, after)) (hafter : ReachesDirective P after) :
    ReachesDirective P ('%' :: rest)
  | behindText {c : Char} {rest : List Char} (hc : c ≠ '%') (hrest : ReachesDirective P rest) :
    ReachesDirective P (c :: rest)

theorem not_reachesDirective_nil : ¬ ReachesDirective P [] := nofun

theorem reachesDirective_cons {c : Char} (hc : c ≠ '%') (rest : List Char) :
    ReachesDirective P (c :: rest) ↔ ReachesDirective P rest := by
  constructor
  · intro h
    cases h with
    | here h => exact absurd rfl hc
    | behindDirective h hafter => exact absurd rfl hc
    | behindText _ hrest => exact hrest
  · exact .behindText hc

theorem reachesDirective_percent {rest after : List Char} {items : DatePattern}
    (h : directive? rest = some (items, after)) :
    ReachesDirective P ('%' :: rest) ↔ P rest ∨ ReachesDirective P after := by
  constructor
  · intro hreaches
    cases hreaches with
    | here hP => exact .inl hP
    | behindDirective hsome hafter =>
      rw [h] at hsome
      cases hsome
      exact .inr hafter
    | behindText hc _ => exact absurd rfl hc
  · rintro (hP | hafter)
    · exact .here hP
    · exact .behindDirective h hafter

/-- A run of text without percent signs can be passed over at once. -/
theorem reachesDirective_dropWhile {p : Char → Bool} (hp : p '%' = false) (rest : List Char) :
    ReachesDirective P (rest.dropWhile p) ↔ ReachesDirective P rest := by
  induction rest with
  | nil => rfl
  | cons c rest ih =>
    by_cases hc : p c = true
    · have hne : c ≠ '%' := by
        rintro rfl
        rw [hp] at hc
        cases hc
      rw [List.dropWhile_cons_of_pos hc, ih, reachesDirective_cons hne]
    · rw [List.dropWhile_cons_of_neg hc]

end SearchMapper.DatePattern
