import SearchMapper.Date.Print
import SearchMapper.Proofs.Date.Directives

/-!
# Formats that cannot be written

A pattern can be written for every instant, unless it has the directive for an offset in any
spelling, `%#z`. That directive is there to be read only: with it, a pattern can be written for no
instant at all.
-/

namespace SearchMapper.DatePattern

/-- The text has the directive for an offset in any spelling, `%#z`. -/
def HasAnyOffset : List Char → Prop :=
  ReachesDirective fun rest => ∃ after, rest = '#' :: 'z' :: after

theorem anyOffset_not_mem_of_letter {c : Char} {items : DatePattern}
    (h : ofLetter? c = some items) : .fixed .anyOffset ∉ items := by
  unfold ofLetter? at h
  split at h <;> cases h <;> decide

theorem anyOffset_not_mem_of_padded {pad : Pad} {c : Char} {items : DatePattern}
    (h : padded? pad c = some items) : .fixed .anyOffset ∉ items := by
  unfold padded? at h
  split at h
  · cases h
    exact fun hmem => nomatch List.mem_singleton.mp hmem
  · cases h

/-- Only the directive `%#z` is an offset in any spelling. -/
theorem anyOffset_mem_directive_iff {rest after : List Char} {items : DatePattern}
    (h : directive? rest = some (items, after)) :
    .fixed .anyOffset ∈ items ↔ ∃ after, rest = '#' :: 'z' :: after := by
  -- the rules for letters do not take the mark
  have hmark : ofLetter? '#' = none := rfl
  unfold directive? at h
  split at h
  case h_10 => split at h <;> grind [Option.map_eq_some_iff, anyOffset_not_mem_of_letter]
  all_goals
    grind [Option.map_eq_some_iff, anyOffset_not_mem_of_letter, anyOffset_not_mem_of_padded]

/-- The items of a pattern have an offset in any spelling exactly if its text has the directive. -/
theorem anyOffset_mem_iff {chars : List Char} {pattern : DatePattern}
    (h : ofChars? chars = some pattern) : .fixed .anyOffset ∈ pattern ↔ HasAnyOffset chars := by
  fun_induction ofChars? chars generalizing pattern with
  | case1 =>
    cases h
    exact ⟨nofun, fun h => absurd h not_reachesDirective_nil⟩
  | case2 rest items after hdirective ih =>
    obtain ⟨later, hlater, rfl⟩ := Option.map_eq_some_iff.mp h
    rw [HasAnyOffset, reachesDirective_percent hdirective, List.mem_append,
      anyOffset_mem_directive_iff hdirective]
    exact or_congr_right (ih hlater)
  | case3 rest hdirective => cases h
  | case4 c rest hc hblank ih =>
    obtain ⟨later, hlater, rfl⟩ := Option.map_eq_some_iff.mp h
    have hrest := (ih hlater).trans (reachesDirective_dropWhile (by decide) rest)
    rw [HasAnyOffset, reachesDirective_cons hc, ← hrest, List.mem_cons]
    exact or_iff_right nofun
  | case5 c rest hc hblank ih =>
    obtain ⟨later, hlater, rfl⟩ := Option.map_eq_some_iff.mp h
    have hrest := (ih hlater).trans (reachesDirective_dropWhile (by decide) rest)
    rw [HasAnyOffset, reachesDirective_cons hc, ← hrest, List.mem_cons]
    exact or_iff_right nofun

/-! ## Writing -/

variable (t : Timestamp)

theorem print?_item_eq_none_iff (item : DateItem) :
    item.print? t = none ↔ item = .fixed .anyOffset := by
  cases item with
  | literal text => exact ⟨nofun, nofun⟩
  | blank text => exact ⟨nofun, nofun⟩
  | number part pad => exact ⟨nofun, nofun⟩
  | fixed part =>
    rw [DateItem.fixed.injEq]
    cases part with
    | anyOffset => exact ⟨fun _ => rfl, fun _ => rfl⟩
    | _ => exact ⟨nofun, nofun⟩

/-- A pattern cannot be written exactly if it has an offset in any spelling. -/
theorem print?_eq_none_iff (pattern : DatePattern) :
    pattern.print? t = none ↔ .fixed .anyOffset ∈ pattern := by
  induction pattern with
  | nil => exact ⟨nofun, nofun⟩
  | cons item rest ih =>
    have hnone : DatePattern.print? t (item :: rest) = none ↔
        item.print? t = none ∨ DatePattern.print? t rest = none := by
      rw [DatePattern.print?]
      cases item.print? t <;> cases DatePattern.print? t rest <;> simp
    rw [hnone, ih, print?_item_eq_none_iff, List.mem_cons]
    exact or_congr_left eq_comm

end SearchMapper.DatePattern
