import SearchMapper.Metadata.Validate
import SearchMapper.Proofs.Date.Directives
import SearchMapper.Proofs.Outcome

/-!
# Valid metadata

The three ways in which metadata can be invalid, said without the checks: no index name, no field
to read identifiers from, or a date format with an unknown directive. The checks find exactly
these.
-/

namespace SearchMapper

namespace DatePattern

/-! ## Unknown directives -/

/-- The text has an unknown directive: reading it from the front, directive by directive and
otherwise character by character, a percent sign is reached that begins no directive. -/
inductive HasUnknownDirective : List Char → Prop
  | here {rest : List Char} (h : directive? rest = none) : HasUnknownDirective ('%' :: rest)
  | behindDirective {rest after : List Char} {items : DatePattern}
    (h : directive? rest = some (items, after)) (hafter : HasUnknownDirective after) :
    HasUnknownDirective ('%' :: rest)
  | behindText {c : Char} {rest : List Char} (hc : c ≠ '%') (hrest : HasUnknownDirective rest) :
    HasUnknownDirective (c :: rest)

theorem hasUnknownDirective_iff (chars : List Char) :
    HasUnknownDirective chars ↔ ReachesDirective (fun rest => directive? rest = none) chars := by
  constructor
  · intro h
    induction h with
    | here h => exact .here h
    | behindDirective h _ ih => exact .behindDirective h ih
    | behindText hc _ ih => exact .behindText hc ih
  · intro h
    induction h with
    | here h => exact .here h
    | behindDirective h _ ih => exact .behindDirective h ih
    | behindText hc _ ih => exact .behindText hc ih

/-- A text is a pattern unless it has an unknown directive. -/
theorem ofChars?_eq_none_iff (chars : List Char) :
    ofChars? chars = none ↔ HasUnknownDirective chars := by
  rw [hasUnknownDirective_iff]
  fun_induction ofChars? chars with
  | case1 => simp [not_reachesDirective_nil]
  | case2 rest items after h ih =>
    rw [Option.map_eq_none_iff, ih, reachesDirective_percent h, h]
    exact (or_iff_right nofun).symm
  | case3 rest h => exact ⟨fun _ => .here h, fun _ => rfl⟩
  | case4 c rest hc hblank ih =>
    rw [Option.map_eq_none_iff, ih, reachesDirective_dropWhile (by decide),
      reachesDirective_cons hc]
  | case5 c rest hc hblank ih =>
    rw [Option.map_eq_none_iff, ih, reachesDirective_dropWhile (by decide),
      reachesDirective_cons hc]

end DatePattern

/-! ## The checks -/

namespace Metadata

/-- The metadata cannot be used. -/
def IsInvalid (metadata : Metadata) : Prop :=
  Text.isBlank metadata.indexName = true ∨
    (metadata.idType = some .custom ∧ metadata.keyField = none) ∨
      ∃ field ∈ metadata.fields, ∃ format, field.dateFormat = some format ∧
        DatePattern.HasUnknownDirective format.toList

end Metadata

theorem validateDateFormat_eq_ok_iff (format : String) :
    validateDateFormat format = .ok () ↔ ¬ DatePattern.HasUnknownDirective format.toList := by
  rw [← DatePattern.ofChars?_eq_none_iff, validateDateFormat, DatePattern.parse]
  cases DatePattern.ofChars? format.toList <;> simp

theorem validateFieldFormats_eq_ok_iff (fields : List FieldDescriptor) :
    validateFieldFormats fields = .ok () ↔
      ∀ field ∈ fields, ∀ format, field.dateFormat = some format →
        ¬ DatePattern.HasUnknownDirective format.toList := by
  induction fields with
  | nil => simp [validateFieldFormats]
  | cons field rest ih =>
    rw [validateFieldFormats, List.forall_mem_cons, ← ih]
    cases hformat : field.dateFormat with
    | none => simp
    | some format =>
      simp only [Option.some.injEq, forall_eq', ← validateDateFormat_eq_ok_iff]
      exact Except.bind_eq_ok_iff.trans ⟨fun ⟨_, h⟩ => h, fun h => ⟨(), h⟩⟩

/-- Metadata pass the checks exactly if they are not invalid. -/
theorem Metadata.validate_eq_ok_iff (metadata : Metadata) :
    metadata.validate = .ok () ↔ ¬ metadata.IsInvalid := by
  have hfields : validateFieldFormats metadata.fields = .ok () ↔
      ¬ ∃ field ∈ metadata.fields, ∃ format, field.dateFormat = some format ∧
        DatePattern.HasUnknownDirective format.toList := by
    rw [validateFieldFormats_eq_ok_iff]
    simp only [not_exists, not_and]
  rw [validate, IsInvalid, not_or, not_or, ← hfields]
  by_cases hblank : Text.isBlank metadata.indexName = true
  · simp [hblank]
  · by_cases hkey : metadata.idType = some .custom ∧ metadata.keyField = none
    · simp [hblank, hkey]
    · simp [hblank, hkey]

/-- Metadata fail the checks exactly if they are invalid. -/
theorem Metadata.validate_eq_error_iff (metadata : Metadata) :
    (∃ invalid, metadata.validate = .error invalid) ↔ metadata.IsInvalid := by
  have hok := metadata.validate_eq_ok_iff
  cases hvalidate : metadata.validate with
  | ok u =>
    rw [hvalidate] at hok
    exact ⟨fun ⟨_, h⟩ => (nomatch h), fun h => absurd h (hok.mp rfl)⟩
  | error invalid =>
    rw [hvalidate] at hok
    have hinvalid : metadata.IsInvalid := Classical.byContradiction fun h => nomatch hok.mpr h
    exact ⟨fun _ => hinvalid, fun _ => ⟨invalid, rfl⟩⟩

end SearchMapper
