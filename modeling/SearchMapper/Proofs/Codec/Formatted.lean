import SearchMapper.Codec

/-!
# Dates in the format of their field

What writing makes of a single value, said without the codec: a value that is the RFC 3339 text of
an instant, in a field with a date format, becomes the text of that instant in the format. Any
other value stays as it is. A date that has no text in its format cannot be written.
-/

namespace SearchMapper

/-- The text is that of the instant in the format, which has to be a pattern all of whose items can
be written. -/
def InFormat (format : String) (instant : Timestamp) (text : String) : Prop :=
  ∃ pattern chars, DatePattern.parse format = some pattern ∧
    pattern.print? instant = some chars ∧ text = String.ofList chars

theorem inFormat_iff {format text : String} {instant : Timestamp} :
    InFormat format instant text ↔
      ((DatePattern.parse format).bind (DatePattern.print? instant)).map String.ofList =
        some text := by
  simp only [InFormat, Option.map_eq_some_iff, Option.bind_eq_some_iff]
  constructor
  · rintro ⟨pattern, chars, hparse, hprint, rfl⟩
    exact ⟨chars, ⟨pattern, hparse, hprint⟩, rfl⟩
  · rintro ⟨chars, ⟨pattern, hparse, hprint⟩, rfl⟩
    exact ⟨pattern, chars, hparse, hprint, rfl⟩

/-- An instant has at most one text in a format. -/
theorem InFormat.unique {format first second : String} {instant : Timestamp}
    (h : InFormat format instant first) (h' : InFormat format instant second) : second = first := by
  rw [inFormat_iff] at h h'
  rw [h, Option.some.injEq] at h'
  exact h'.symm

namespace Codec

variable {codec : Codec} {field : FieldDescriptor} {value : Json}

/-- The format is in effect for the field: only a date-time field has one, its own or else the
configured one. -/
inductive HasFormat (codec : Codec) (field : FieldDescriptor) (format : String) : Prop
  | own (hkind : field.kind = .dateTime) (hown : field.dateFormat = some format)
  | configured (hkind : field.kind = .dateTime) (hown : field.dateFormat = none)
    (hformat : codec.dateFormat = some format)

theorem fieldFormat?_eq_some_iff {format : String} :
    codec.fieldFormat? field = some format ↔ codec.HasFormat field format := by
  unfold fieldFormat?
  constructor
  · intro h
    split at h
    · next hkind =>
      rcases Option.or_eq_some_iff.mp h with hown | ⟨hown, hformat⟩
      · exact .own hkind hown
      · exact .configured hkind hown hformat
    · cases h
  · intro h
    cases h with
    | own hkind hown => rw [hkind, hown, Option.some_or]
    | configured hkind hown hformat => rw [hkind, hown, Option.none_or, hformat]

/-- The value is the RFC 3339 text of the instant, in a field that the format is in effect for. -/
structure IsDate (codec : Codec) (field : FieldDescriptor) (value : Json) (format : String)
    (instant : Timestamp) : Prop where
  hasFormat : codec.HasFormat field format
  exists_text : ∃ raw, value = .string raw ∧ Timestamp.ofRfc3339 raw = .ok instant

/-- What is written for a value. -/
inductive Rewrites (codec : Codec) (field : FieldDescriptor) (value : Json) : Json → Prop
  | date {format text : String} {instant : Timestamp}
    (hdate : codec.IsDate field value format instant) (htext : InFormat format instant text) :
    Rewrites codec field value (.string text)
  | other (hother : ∀ format instant, ¬ codec.IsDate field value format instant) :
    Rewrites codec field value value

/-- The value is a date that has no text in the format. -/
def HasNoText (codec : Codec) (field : FieldDescriptor) (value : Json) (format : String) : Prop :=
  ∃ instant, codec.IsDate field value format instant ∧ ∀ text, ¬ InFormat format instant text

/-! ## Writing a value -/

/-- A date is written as its text in the format, or else not at all. -/
theorem formatDate_of_isDate {format : String} {instant : Timestamp}
    (h : codec.IsDate field value format instant) :
    (∃ text, InFormat format instant text ∧ codec.formatDate field value = .ok (.string text)) ∨
      (∀ text, ¬ InFormat format instant text) ∧
        codec.formatDate field value = .error (.unprintableDate field.name format) := by
  obtain ⟨hformat, raw, rfl, hraw⟩ := h
  rw [← fieldFormat?_eq_some_iff] at hformat
  unfold formatDate
  cases hchars : (DatePattern.parse format).bind (DatePattern.print? instant) with
  | some chars =>
    refine .inl ⟨String.ofList chars, inFormat_iff.mpr ?_, ?_⟩
    · rw [hchars, Option.map_some]
    · simp only [hformat, hraw, hchars]
  | none =>
    refine .inr ⟨fun text htext => ?_, ?_⟩
    · rw [inFormat_iff, hchars, Option.map_none] at htext
      cases htext
    · simp only [hformat, hraw, hchars]

theorem formatDate_of_not_isDate (h : ∀ format instant, ¬ codec.IsDate field value format instant) :
    codec.formatDate field value = .ok value := by
  unfold formatDate
  split
  · next format raw hformat =>
    split
    · rfl
    · next instant hraw =>
      rw [fieldFormat?_eq_some_iff] at hformat
      exact absurd ⟨hformat, raw, rfl, hraw⟩ (h format instant)
  · rfl

/-- Writing gives exactly what the value is rewritten to. -/
theorem formatDate_eq_ok_iff {stored : Json} :
    codec.formatDate field value = .ok stored ↔ codec.Rewrites field value stored := by
  by_cases hdate : ∃ format instant, codec.IsDate field value format instant
  · obtain ⟨format, instant, hdate⟩ := hdate
    constructor
    · intro h
      rcases formatDate_of_isDate hdate with ⟨text, htext, hok⟩ | ⟨-, herror⟩
      · rw [hok] at h
        cases h
        exact .date hdate htext
      · rw [herror] at h
        cases h
    · intro h
      cases h with
      | date hdate' htext =>
        rcases formatDate_of_isDate hdate' with ⟨text, htext', hok⟩ | ⟨hno, -⟩
        · rw [hok, htext.unique htext']
        · exact absurd htext (hno _)
      | other hother => exact absurd hdate (hother format instant)
  · have hother : ∀ format instant, ¬ codec.IsDate field value format instant :=
      fun format instant h => hdate ⟨format, instant, h⟩
    rw [formatDate_of_not_isDate hother]
    constructor
    · intro h
      cases h
      exact .other hother
    · intro h
      cases h with
      | date hdate' _ => exact absurd hdate' (hother _ _)
      | other _ => rfl

/-- Writing fails exactly on a date without a text, and names the field and its format. -/
theorem formatDate_eq_error_iff {fault : CodecFault} :
    codec.formatDate field value = .error fault ↔
      ∃ format, codec.HasNoText field value format ∧
        fault = .unprintableDate field.name format := by
  constructor
  · intro h
    by_cases hdate : ∃ format instant, codec.IsDate field value format instant
    · obtain ⟨format, instant, hdate⟩ := hdate
      rcases formatDate_of_isDate hdate with ⟨text, -, hok⟩ | ⟨hno, herror⟩
      · rw [hok] at h
        cases h
      · rw [herror] at h
        cases h
        exact ⟨format, ⟨instant, hdate, hno⟩, rfl⟩
    · rw [formatDate_of_not_isDate fun format instant hdate' => hdate ⟨format, instant, hdate'⟩] at h
      cases h
  · rintro ⟨format, ⟨instant, hdate, hno⟩, rfl⟩
    rcases formatDate_of_isDate hdate with ⟨text, htext, -⟩ | ⟨-, herror⟩
    · exact absurd htext (hno text)
    · exact herror

/-- A value is rewritten to something unless it is a date without a text. -/
theorem exists_rewrites_iff :
    (∃ stored, codec.Rewrites field value stored) ↔ ∀ format, ¬ codec.HasNoText field value format := by
  simp only [← formatDate_eq_ok_iff]
  constructor
  · rintro ⟨stored, hstored⟩ format hno
    rw [formatDate_eq_error_iff.mpr ⟨format, hno, rfl⟩] at hstored
    cases hstored
  · intro h
    cases hvalue : codec.formatDate field value with
    | ok stored => exact ⟨stored, rfl⟩
    | error fault =>
      obtain ⟨format, hno, -⟩ := formatDate_eq_error_iff.mp hvalue
      exact absurd hno (h format)

theorem Rewrites.unique {first second : Json} (h : codec.Rewrites field value first)
    (h' : codec.Rewrites field value second) : first = second := by
  rw [← formatDate_eq_ok_iff] at h h'
  rw [h] at h'
  exact Except.ok.inj h'

/-- Null and the empty text are no dates. -/
theorem rewrites_of_empty (h : value = .null ∨ value = .string "") :
    codec.Rewrites field value value := by
  refine .other fun format instant hdate => ?_
  obtain ⟨-, raw, hvalue, hraw⟩ := hdate
  rcases h with rfl | rfl
  · cases hvalue
  · cases hvalue
    cases hraw

end Codec
end SearchMapper
