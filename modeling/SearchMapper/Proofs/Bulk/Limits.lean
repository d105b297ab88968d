import SearchMapper.Config
import SearchMapper.Proofs.Mapper.Execution
import SearchMapper.Proofs.Text.Numerals

/-!
# Limits on batches

Which limit on batches an environment sets. Nothing but the text `none` and a single zero lift the
limit. A zero that is spelled in another way, with a sign or with more zeros, is read as a number
and sets the limit zero, which refuses every batch that has an operation; any other text leaves a
limit that at least a batch of one operation is within.
-/

namespace SearchMapper

/-! ## Spellings of zero -/

namespace Text

/-- The text is a numeral of zero: one or more zeros, behind a plus sign or behind nothing. -/
def IsZero (text : String) : Prop :=
  ∃ n, text.toList = List.replicate (n + 1) '0' ∨ text.toList = '+' :: List.replicate (n + 1) '0'

theorem eq_zero_of_digitValue {c : Char} (hdigit : c.isDigit = true) (hvalue : digitValue c = 0) :
    c = '0' := by
  have hbounds : '0'.toNat ≤ c.toNat := by
    unfold Char.isDigit at hdigit
    rw [Bool.and_eq_true, decide_eq_true_eq] at hdigit
    exact hdigit.1
  unfold digitValue at hvalue
  exact Char.toNat_inj.mp (Nat.le_antisymm (Nat.le_of_sub_eq_zero hvalue) hbounds)

/-- Digits stand for zero only if all of them are zeros, with nothing counted before them. -/
theorem digitsValue_eq_zero_iff {digits : List Char} (hdigits : ∀ c ∈ digits, c.isDigit = true)
    (start : Nat) : digitsValue start digits = 0 ↔ start = 0 ∧ ∀ c ∈ digits, c = '0' := by
  induction digits generalizing start with
  | nil => exact ⟨fun h => ⟨h, nofun⟩, fun h => h.1⟩
  | cons c rest ih =>
    obtain ⟨hc, hrest⟩ := List.forall_mem_cons.mp hdigits
    have hstep : digitsValue start (c :: rest) = digitsValue (10 * start + digitValue c) rest := rfl
    have hvalue : digitValue c = 0 ↔ c = '0' := by
      refine ⟨eq_zero_of_digitValue hc, ?_⟩
      rintro rfl
      rfl
    rw [hstep, ih hrest, List.forall_mem_cons, Nat.add_eq_zero_iff, hvalue, Nat.mul_eq_zero]
    simp [and_assoc]

theorem isDigits_zero_iff {chars : List Char} :
    IsDigits chars 0 ↔ ∃ n, chars = List.replicate (n + 1) '0' := by
  constructor
  · rintro ⟨hne, hdigits, hvalue⟩
    have hzeros := ((digitsValue_eq_zero_iff hdigits 0).mp hvalue).2
    have hlength : chars.length - 1 + 1 = chars.length :=
      Nat.sub_add_cancel (List.length_pos_iff.mpr hne)
    refine ⟨chars.length - 1, ?_⟩
    rw [hlength]
    exact List.eq_replicate_of_mem hzeros
  · rintro ⟨n, rfl⟩
    have hzeros : ∀ c ∈ List.replicate (n + 1) '0', c = '0' := fun c hc =>
      List.eq_of_mem_replicate hc
    have hdigits : ∀ c ∈ List.replicate (n + 1) '0', c.isDigit = true := by
      intro c hc
      rw [hzeros c hc]
      rfl
    exact ⟨List.cons_ne_nil _ _, hdigits, (digitsValue_eq_zero_iff hdigits 0).mpr ⟨rfl, hzeros⟩⟩

/-- An unsigned number is zero exactly if its text is a spelling of zero. -/
theorem uint64?_eq_zero_iff {text : String} : uint64? text = some 0 ↔ IsZero text := by
  have hsize : decide (0 < UInt64.size) = true := rfl
  unfold uint64?
  rw [Option.filter_eq_some_iff, and_iff_left hsize, unsigned?_eq_some_iff, isDigits_zero_iff]
  simp only [isDigits_zero_iff]
  constructor
  · rintro (⟨n, h⟩ | ⟨digits, h, n, rfl⟩)
    · exact ⟨n, .inl h⟩
    · exact ⟨n, .inr h⟩
  · rintro ⟨n, h | h⟩
    · exact .inl ⟨n, h⟩
    · exact .inr ⟨_, h, n, rfl⟩

theorem IsZero.zero_mem {text : String} (h : IsZero text) : '0' ∈ text.toList := by
  obtain ⟨n, h | h⟩ := h
  · rw [h]
    exact List.mem_cons_self
  · rw [h]
    exact List.mem_cons_of_mem _ List.mem_cons_self

/-- Trimming a text adds no characters. -/
theorem mem_of_mem_trim {text : String} {c : Char} (h : c ∈ (trim text).toList) :
    c ∈ text.toList := by
  unfold trim skipBlanks at h
  rw [String.toList_ofList, List.mem_reverse] at h
  exact (List.dropWhile_suffix _).mem (List.mem_reverse.mp ((List.dropWhile_suffix _).mem h))

/-- `none`, with letters of any case, holds no zero. -/
theorem not_isZero_trim_of_none {text : String} (h : asciiLower text = "none") :
    ¬ IsZero (trim text) := by
  intro hzero
  have hmem : Char.toLower '0' ∈ (asciiLower text).toList := by
    unfold asciiLower
    rw [String.toList_ofList]
    exact List.mem_map_of_mem (mem_of_mem_trim hzero.zero_mem)
  rw [h] at hmem
  exact absurd hmem (by decide)

end Text

/-! ## The limit of an environment -/

namespace Config

/-- The value lifts the limit: it is `none` in any case, or a single zero among blanks. -/
def LiftsLimit (value : Option String) : Prop :=
  ∃ text, value = some text ∧ (Text.asciiLower text = "none" ∨ Text.trim text = "0")

/-- The value spells zero in another way than by a single zero. -/
def SpellsZero (value : Option String) : Prop :=
  ∃ text, value = some text ∧ Text.IsZero (Text.trim text) ∧ Text.trim text ≠ "0"

theorem readMaxBatchSize_of_not_lifted {text : String}
    (h : ¬ (Text.asciiLower text = "none" ∨ Text.trim text = "0")) :
    readMaxBatchSize (some text) =
      some (((Text.uint64? (Text.trim text)).map UInt64.ofNat).getD 1000) := by
  unfold readMaxBatchSize
  simp only
  rw [if_neg h]
  cases Text.uint64? (Text.trim text) with
  | some size => rfl
  | none => rfl

theorem readMaxBatchSize_eq_none_iff {value : Option String} :
    readMaxBatchSize value = none ↔ LiftsLimit value := by
  cases value with
  | none => simp [readMaxBatchSize, LiftsLimit]
  | some text =>
    by_cases h : Text.asciiLower text = "none" ∨ Text.trim text = "0"
    · exact iff_of_true (if_pos h) ⟨text, rfl, h⟩
    · rw [readMaxBatchSize_of_not_lifted h]
      refine iff_of_false nofun ?_
      rintro ⟨_, ⟨⟩, hlifts⟩
      exact h hlifts

/-- A number of 64 bits that is read from text is zero only if zero was read. -/
theorem ofNat_eq_zero_iff {text : String} {size : Nat} (h : Text.uint64? text = some size) :
    UInt64.ofNat size = 0 ↔ size = 0 := by
  have hlt : size < UInt64.size := of_decide_eq_true (Option.filter_eq_some_iff.mp h).2
  rw [← UInt64.toNat_inj, UInt64.toNat_ofNat_of_lt' hlt]
  rfl

theorem readMaxBatchSize_eq_zero_iff {value : Option String} :
    readMaxBatchSize value = some 0 ↔ SpellsZero value := by
  cases value with
  | none => simp [readMaxBatchSize, SpellsZero]
  | some text =>
    have hspells : SpellsZero (some text) ↔
        Text.uint64? (Text.trim text) = some 0 ∧ Text.trim text ≠ "0" := by
      rw [Text.uint64?_eq_zero_iff]
      simp [SpellsZero]
    rw [hspells]
    by_cases h : Text.asciiLower text = "none" ∨ Text.trim text = "0"
    · -- the limit is lifted, by a text without a zero or by a single one
      have hlifted : readMaxBatchSize (some text) = none := if_pos h
      rw [hlifted]
      refine iff_of_false nofun ?_
      rintro ⟨hzero, hne⟩
      rcases h with hnone | hsingle
      · exact Text.not_isZero_trim_of_none hnone (Text.uint64?_eq_zero_iff.mp hzero)
      · exact hne hsingle
    · rw [readMaxBatchSize_of_not_lifted h, Option.some.injEq,
        and_iff_left fun hsingle => h (.inr hsingle)]
      cases hread : Text.uint64? (Text.trim text) with
      | none => exact iff_of_false (by decide) nofun
      | some size =>
        rw [Option.map_some, Option.getD_some, ofNat_eq_zero_iff hread, Option.some.injEq]

/-- A limit that is not zero lets batches of one operation pass; zero lets none pass. -/
theorem validateBatchSize_one_iff {limit : Option UInt64} :
    validateBatchSize limit 1 = .ok () ↔ limit ≠ some 0 := by
  constructor
  · rintro h rfl
    cases h
  · intro h
    refine Mapper.validateBatchSize_of_le fun max hmax => ?_
    have hne : max ≠ 0 := by
      rintro rfl
      exact h hmax
    exact Nat.one_le_iff_ne_zero.mpr fun hzero => hne (UInt64.toNat_inj.mp hzero)

/-! ## Main result -/

/-- **Limits of environments.** The limit that an environment sets is lifted by `none` and by a
single zero, and otherwise it is zero exactly if the value is another spelling of zero. Then every
batch that has an operation is refused; in all other environments a batch of one operation is within
the limit. -/
theorem refuses_batches_iff (env : Environment) :
    let value := env.lookup "ESPLUS_MAX_BATCH_SIZE"
    let limit := (ofEnvironment env).maxBatchSize
    (limit = none ↔ LiftsLimit value) ∧
      (limit = some 0 ↔ SpellsZero value) ∧
      (SpellsZero value ↔ ∀ size, 0 < size →
        validateBatchSize limit size = .error (.batchTooLarge size 0)) ∧
      (¬ SpellsZero value ↔ validateBatchSize limit 1 = .ok ()) := by
  intro value limit
  have hzero : limit = some 0 ↔ SpellsZero value := readMaxBatchSize_eq_zero_iff
  have hone : ¬ SpellsZero value ↔ validateBatchSize limit 1 = .ok () := by
    rw [← hzero]
    exact validateBatchSize_one_iff.symm
  refine ⟨readMaxBatchSize_eq_none_iff, hzero, ?_, hone⟩
  constructor
  · intro hspells size hsize
    rw [hzero.mpr hspells]
    exact Mapper.validateBatchSize_of_lt hsize
  · intro hrefused
    by_contra hspells
    have haccepted := hone.mp hspells
    rw [hrefused 1 Nat.one_pos] at haccepted
    cases haccepted

/-- Two zeros are a number and no text that lifts the limit: no batch is within the limit that they
set. -/
theorem limit_zero_of_two_zeros :
    let limit := (ofEnvironment [("ESPLUS_MAX_BATCH_SIZE", "00")]).maxBatchSize
    Text.uint64? (Text.trim "00") = some 0 ∧ limit = some 0 ∧
      validateBatchSize limit 1 = .error (.batchTooLarge 1 0) := by
  decide +kernel

end Config
end SearchMapper
