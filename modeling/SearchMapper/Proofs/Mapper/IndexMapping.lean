import SearchMapper.Mapper
import SearchMapper.Proofs.Codec.Dates
import SearchMapper.Proofs.Date.MappedFormats

/-!
# Mappings of date-time fields

The index definition of a mapper maps a date-time field in the very format that the codec stores
it in. If all directives of that format have a symbol of the backend, what is stored matches the
mapped pattern. A directive without a symbol stands as literal text in the pattern, which then
matches nothing that is stored.
-/

namespace SearchMapper

/-! ## The properties of an index definition -/

namespace IndexDefinition

/-- The definition after one more field. -/
def mapField (defaultFormat : Option String) (definition : IndexDefinition)
    (field : FieldDescriptor) : IndexDefinition :=
  match field.kind with
  | .dateTime =>
    definition.withProperty field.name (dateMapping (field.dateFormat.or defaultFormat))
  | .plain => definition

theorem ofMetadata_eq_foldl (metadata : Metadata) (defaultFormat : Option String) :
    ofMetadata metadata defaultFormat =
      metadata.fields.foldl (mapField defaultFormat) { name := metadata.indexName } := rfl

/-- Other fields leave the mapping of a name as it is. -/
theorem find?_foldl_mapField {name : String} {fields : List FieldDescriptor}
    (h : ∀ field ∈ fields, field.kind = .dateTime → field.name ≠ name)
    (defaultFormat : Option String) (definition : IndexDefinition) :
    Members.find? name (fields.foldl (mapField defaultFormat) definition).properties =
      Members.find? name definition.properties := by
  induction fields generalizing definition with
  | nil => rfl
  | cons field rest ih =>
    obtain ⟨hfield, hrest⟩ := List.forall_mem_cons.mp h
    rw [List.foldl_cons, ih hrest]
    unfold mapField
    split
    · next hkind => exact Members.find?_insert_of_ne (hfield hkind).symm _ _
    · rfl

/-- A date-time field is mapped in its format, or else in the default one, unless a later field
has the same name. -/
theorem find?_ofMetadata {metadata : Metadata} {before after : List FieldDescriptor}
    {field : FieldDescriptor} (hfields : metadata.fields = before ++ field :: after)
    (hkind : field.kind = .dateTime)
    (hlast : ∀ other ∈ after, other.kind = .dateTime → other.name ≠ field.name)
    (defaultFormat : Option String) :
    Members.find? field.name (ofMetadata metadata defaultFormat).properties =
      some (dateMapping (field.dateFormat.or defaultFormat)) := by
  rw [ofMetadata_eq_foldl, hfields, List.foldl_append, List.foldl_cons,
    find?_foldl_mapField hlast]
  unfold mapField
  rw [hkind]
  exact Members.find?_insert_self _ _ _

end IndexDefinition

/-! ## Stored dates -/

namespace Mapper

variable {α : Type}

/-- **The mapping of a date-time field.** The last date-time field of a name is mapped in the format
that the codec stores it in. If all directives of that format have a symbol of the backend, the
mapped pattern is read as these symbols with the literal text of the format between them, and every
RFC 3339 text of an instant of the common era before the year 10000, leap seconds apart, is stored
as a text that matches it. -/
theorem mapped_as_stored (mapper : Mapper α) {before after : List FieldDescriptor}
    {field : FieldDescriptor} (hfields : mapper.metadata.fields = before ++ field :: after)
    (hkind : field.kind = .dateTime)
    (hlast : ∀ other ∈ after, other.kind = .dateTime → other.name ≠ field.name) :
    Members.find? field.name mapper.indexDefinition.properties =
        some (dateMapping (mapper.codec.fieldFormat? field)) ∧
      ∀ format : MappedFormat, mapper.codec.fieldFormat? field = some format.text →
        BackendPattern.read (BackendPattern.ofFormat format.text).toList = some format.mapped ∧
          ∀ raw instant, Timestamp.ofRfc3339 raw = .ok instant → instant.IsOrdinary →
            ∃ stored, mapper.codec.formatDate field (.string raw) = .ok (.string stored) ∧
              Matches instant format.mapped stored.toList := by
  have hformat : mapper.codec.fieldFormat? field =
      field.dateFormat.or mapper.config.dateFormat := by
    unfold Codec.fieldFormat?
    rw [hkind]
    rfl
  refine ⟨?_, ?_⟩
  · rw [hformat]
    exact IndexDefinition.find?_ofMetadata hfields hkind hlast mapper.config.dateFormat
  · -- the format that is mapped is the one that dates are written in
    intro format hmapped
    refine ⟨format.read_ofFormat, ?_⟩
    intro raw instant hraw hordinary
    obtain ⟨text, hwritten, hmatches⟩ := format.exists_matches hordinary
    obtain ⟨pattern, hparse, hprint⟩ := Option.bind_eq_some_iff.mp hwritten
    refine ⟨String.ofList text, Codec.formatDate_of_ofRfc3339 hmapped hraw hparse hprint, ?_⟩
    rw [String.toList_ofList]
    exact hmatches

/-- The day before the month by its short name: `%d. %b %Y, %H o'clock`. -/
def monthByName : MappedFormat where
  pieces := [.directive .day, .literal '.', .literal ' ', .directive .shortMonth, .literal ' ',
    .directive .year, .literal ',', .literal ' ', .directive .hour, .literal ' ', .literal 'o',
    .literal '\'', .literal 'c', .literal 'l', .literal 'o', .literal 'c', .literal 'k']
  literal_ne := by
    rintro c hc rfl
    exact absurd hc (by decide)
  apart := by decide

/-- Letters and a quote between directives, in the configured format. -/
theorem mapped_as_stored_month_by_name :
    let mapper : Mapper Json :=
      ⟨{ indexName := "events", fields := [{ name := "at", kind := .dateTime }] },
        { dateFormat := some "%d. %b %Y, %H o'clock" }⟩
    Members.find? "at" mapper.indexDefinition.properties =
        some (.object [("format", .string "dd. MMM yyyy, HH' o''clock'"),
          ("type", .string "date")]) ∧
      ∃ stored, mapper.codec.formatDate { name := "at", kind := .dateTime }
          (.string "2024-03-01T23:30:00-05:00") = .ok (.string stored) ∧
        Matches ⟨1709353800, 0⟩ monthByName.mapped stored.toList := by
  intro mapper
  have hfields : mapper.metadata.fields = [] ++ { name := "at", kind := .dateTime } :: [] := rfl
  have hformat : mapper.codec.fieldFormat? { name := "at", kind := .dateTime } =
      some monthByName.text := by decide +kernel
  have hraw : Timestamp.ofRfc3339 "2024-03-01T23:30:00-05:00" = .ok ⟨1709353800, 0⟩ := by
    have hread : (Timestamp.ofRfc3339 "2024-03-01T23:30:00-05:00").toOption =
        some ⟨1709353800, 0⟩ := by decide +kernel
    exact Except.eq_ok_of_toOption hread
  have hordinary : (⟨1709353800, 0⟩ : Timestamp).IsOrdinary :=
    ⟨by decide +kernel, by decide⟩
  obtain ⟨hmapping, hstored⟩ := mapped_as_stored mapper hfields rfl nofun
  refine ⟨hmapping.trans ?_, (hstored monthByName hformat).2 _ _ hraw hordinary⟩
  decide +kernel

/-- A configured format with a directive that the backend has no symbol for is accepted. It is
mapped as literal text, which no stored date is. -/
theorem unmapped_directive_is_literal :
    let metadata : Metadata :=
      { indexName := "events", fields := [{ name := "at", kind := .dateTime }] }
    let config : Config := { dateFormat := some "%F" }
    let mapper : Mapper Json := ⟨metadata, config⟩
    Mapper.ofMetadata metadata config = .ok mapper ∧
      Members.find? "at" mapper.indexDefinition.properties =
        some (.object [("format", .string "'%F'"), ("type", .string "date")]) ∧
      mapper.codec.formatDate { name := "at", kind := .dateTime }
        (.string "2024-03-01T12:00:00Z") = .ok (.string "2024-03-01") ∧
      BackendPattern.read "'%F'".toList = some [.literal '%', .literal 'F'] ∧
      ∀ t, ¬ Matches t [.literal '%', .literal 'F'] "2024-03-01".toList := by
  intro metadata config mapper
  have hvalid : validateDateFormat "%F" = .ok () := by
    have hparse : (DatePattern.parse "%F").isSome = true := by decide +kernel
    exact if_pos hparse
  have hstored : (mapper.codec.formatDate { name := "at", kind := .dateTime }
      (.string "2024-03-01T12:00:00Z")).toOption = some (.string "2024-03-01") := by
    decide +kernel
  refine ⟨?_, by decide +kernel, Except.eq_ok_of_toOption hstored, by decide +kernel, ?_⟩
  · have hmetadata : Metadata.validate
        { indexName := "events", fields := [{ name := "at", kind := .dateTime }] } = .ok () := rfl
    refine Except.bind_eq_ok_iff.mpr ⟨(), hvalid, ?_⟩
    exact Except.bind_eq_ok_iff.mpr ⟨(), hmetadata, rfl⟩
  · -- the text would have to begin with a percent sign
    intro t h
    cases h

end Mapper
end SearchMapper
