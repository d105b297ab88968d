import SearchMapper.Proofs.Codec.Formatted
import SearchMapper.Proofs.Date.Formats
import SearchMapper.Proofs.Date.Rfc3339

/-!
# Stored dates read back

A date-time field with a format of every part of a timestamp stores an RFC 3339 text in that
format, and what is read back is the same instant without the fraction of its second, in UTC.
Values that are no such text are stored as they are.
-/

namespace SearchMapper

namespace Timestamp

variable {t : Timestamp}

theorem IsClock.wholeSecond (h : t.IsClock) : t.wholeSecond.IsClock := by
  have hnanos : t.wholeSecond.nanos ≤ t.nanos := Nat.div_mul_le_self _ _
  refine ⟨Nat.lt_of_le_of_lt hnanos h.nanos_lt, fun hleap => ?_⟩
  exact h.leap (Nat.le_trans hleap hnanos)

theorem wholeSecond_wholeSecond (t : Timestamp) : t.wholeSecond.wholeSecond = t.wholeSecond := by
  have hquotient : t.nanos / nanosPerSecond * nanosPerSecond / nanosPerSecond =
      t.nanos / nanosPerSecond := Nat.mul_div_cancel _ (by decide)
  unfold wholeSecond
  rw [hquotient]

end Timestamp

namespace Codec

variable {codec : Codec} {field : FieldDescriptor}

theorem formatDate_of_ofRfc3339 {format raw : String} {instant : Timestamp}
    {pattern : DatePattern} {chars : List Char} (hformat : codec.fieldFormat? field = some format)
    (hraw : Timestamp.ofRfc3339 raw = .ok instant)
    (hparse : DatePattern.parse format = some pattern)
    (hprint : pattern.print? instant = some chars) :
    codec.formatDate field (.string raw) = .ok (.string (String.ofList chars)) := by
  have hdate : codec.IsDate field (.string raw) format instant :=
    ⟨fieldFormat?_eq_some_iff.mp hformat, raw, rfl, hraw⟩
  exact formatDate_eq_ok_iff.mpr (.date hdate ⟨pattern, chars, hparse, hprint, rfl⟩)

theorem parseDate_of_readInstant? {format stored : String} {instant : Timestamp}
    {pattern : DatePattern} (hformat : codec.fieldFormat? field = some format)
    (hparse : DatePattern.parse format = some pattern)
    (hread : pattern.readInstant? stored = some instant) :
    codec.parseDate field (.string stored) = .string instant.toRfc3339 := by
  have hinstant : (DatePattern.parse format).bind (fun pattern => pattern.readInstant? stored) =
      some instant := by
    rw [hparse]
    exact hread
  unfold parseDate
  simp only [hformat, hinstant]

/-- A value that is no RFC 3339 text is stored as it is. -/
theorem formatDate_of_not_rfc3339 {value : Json}
    (h : ∀ raw, value = .string raw → ∃ fault, Timestamp.ofRfc3339 raw = .error fault) :
    codec.formatDate field value = .ok value := by
  refine formatDate_of_not_isDate fun format instant hdate => ?_
  obtain ⟨-, raw, hvalue, hraw⟩ := hdate
  obtain ⟨fault, hfault⟩ := h raw hvalue
  rw [hraw] at hfault
  cases hfault

/-- **Dates survive.** In a field whose format has every part of a timestamp, an RFC 3339 text of a
year of four digits in UTC is stored as a text that is read back as the RFC 3339 text of the same
instant without the fraction of its second, whatever the offset it was given with. A value that is
no RFC 3339 text is stored as it is. -/
theorem stored_dates_read_back (format : TimestampFormat)
    (hformat : codec.fieldFormat? field = some format.text) :
    (∀ raw instant, Timestamp.ofRfc3339 raw = .ok instant →
      0 ≤ instant.date.year → instant.date.year ≤ 9999 →
        ∃ stored, codec.formatDate field (.string raw) = .ok (.string stored) ∧
          codec.parseDate field (.string stored) = .string instant.wholeSecond.toRfc3339 ∧
          Timestamp.ofRfc3339 instant.wholeSecond.toRfc3339 = .ok instant.wholeSecond) ∧
      ∀ value, (∀ raw, value = .string raw → ∃ fault, Timestamp.ofRfc3339 raw = .error fault) →
        codec.formatDate field value = .ok value := by
  refine ⟨?_, fun value => formatDate_of_not_rfc3339⟩
  intro raw instant hraw hlow hhigh
  have hyear : instant.HasFourDigitYear := ⟨hlow, hhigh⟩
  have hclock : instant.IsClock := Timestamp.isClock_of_ofRfc3339 hraw
  obtain ⟨pattern, chars, hparse, hprint, hread⟩ := format.readInstant?_print? hyear hclock
  refine ⟨String.ofList chars, ?_, ?_, ?_⟩
  · exact formatDate_of_ofRfc3339 hformat hraw hparse hprint
  · exact parseDate_of_readInstant? hformat hparse hread
  · exact Timestamp.ofRfc3339_toRfc3339 hyear hclock.wholeSecond instant.wholeSecond_wholeSecond

/-- Day first, and no marks in the time: `%d/%m/%Y at %H%M%S%z`. -/
def dayFirst : TimestampFormat where
  pieces := [.directive .day, .literal '/', .directive .month, .literal '/', .directive .year,
    .literal ' ', .literal 'a', .literal 't', .literal ' ', .directive .hour, .directive .minute,
    .directive .second]
  zone := .compact
  literal_ne := by
    rintro c hc rfl
    exact absurd hc (by decide)
  complete part := by cases part <;> decide

/-- A leap second before a new year in India, which is still the old year in UTC. -/
theorem stored_dates_read_back_leap_second :
    let codec : Codec := ⟨{ indexName := "readings" }, some "%d/%m/%Y at %H%M%S%z"⟩
    let field : FieldDescriptor := { name := "taken", kind := .dateTime }
    (∃ stored,
      codec.formatDate field (.string "2017-01-01T05:29:60.5+05:30") = .ok (.string stored) ∧
        codec.parseDate field (.string stored) = .string "2016-12-31T23:59:60+00:00" ∧
        Timestamp.ofRfc3339 "2016-12-31T23:59:60+00:00" = .ok ⟨1483228799, 1000000000⟩) ∧
      codec.formatDate field (.string "2017-02-29") = .ok (.string "2017-02-29") := by
  intro codec field
  have hformat : codec.fieldFormat? field = some dayFirst.text := by decide +kernel
  have hraw : Timestamp.ofRfc3339 "2017-01-01T05:29:60.5+05:30" =
      .ok ⟨1483228799, 1500000000⟩ := by
    have hread : (Timestamp.ofRfc3339 "2017-01-01T05:29:60.5+05:30").toOption =
        some ⟨1483228799, 1500000000⟩ := by decide +kernel
    exact Except.eq_ok_of_toOption hread
  have hyear : (⟨1483228799, 1500000000⟩ : Timestamp).date.year = 2016 := by decide +kernel
  have htext : (⟨1483228799, 1500000000⟩ : Timestamp).wholeSecond.toRfc3339 =
      "2016-12-31T23:59:60+00:00" := by decide +kernel
  obtain ⟨hdates, hothers⟩ := stored_dates_read_back dayFirst hformat
  refine ⟨?_, hothers _ ?_⟩
  · rw [← htext]
    exact hdates _ _ hraw (by omega) (by omega)
  · rintro raw ⟨⟩
    exact ⟨.tooShort, rfl⟩

end Codec
end SearchMapper
