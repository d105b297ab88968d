import SearchMapper.Metadata.Wire
import SearchMapper.Proofs.Json.Typed
import SearchMapper.Query.Wire

/-!
# Reading back queries and metadata

Conditions, spatial filters, queries and metadata are read back from their written form, and the
written form is one for all spellings that are read as the same value.
-/

namespace SearchMapper

/-! ## Names -/

theorem Operator.lookup_name (operator : Operator) :
    Operator.names.lookup operator.name = some operator := by
  cases operator <;> rfl

theorem Clause.lookup_name (clause : Clause) : Clause.names.lookup clause.name = some clause := by
  cases clause <;> rfl

theorem Marker.lookup_name (marker : Marker) :
    Marker.names.lookup marker.name = some marker := by
  cases marker <;> rfl

theorem ShapeRelation.lookup_name (relation : ShapeRelation) :
    ShapeRelation.names.lookup relation.name = some relation := by
  cases relation <;> rfl

theorem FieldStrategy.lookup_name (strategy : FieldStrategy) :
    FieldStrategy.names.lookup strategy.name = some strategy := by
  cases strategy <;> rfl

theorem IdType.lookup_name (idType : IdType) : IdType.names.lookup idType.name = some idType := by
  cases idType <;> rfl

theorem FieldKind.lookup_name (kind : FieldKind) :
    FieldKind.names.lookup kind.name = some kind := by
  cases kind <;> rfl

/-! ## Conditions -/

/-- A boost that is set is finite. -/
def IsFiniteBoost (boost : Option Single) : Prop := ∀ x ∈ boost, x.isFinite = true

/-- The boost of the predicate is finite, if it has one. -/
def Predicate.IsFinite (p : Predicate) : Prop := IsFiniteBoost p.boost

/-- All boosts of the conditions are finite. -/
def Conditions.IsFinite (conditions : Conditions) : Prop :=
  ∀ p ∈ conditions.predicates, p.IsFinite

theorem Operand.decode_toJson (operand : Operand) : decode operand.toJson = .ok operand := by
  cases operand with
  | none => rfl
  | single value => rfl
  | many values => simp [decode, toJson, Decode.data, Decode.list_json]
  | bounds low high =>
    simp [decode, toJson, Decode.data, Json.ofPairs, Decode.Fields.required, Decode.json]

theorem Predicate.decode_toJson {p : Predicate} (h : p.IsFinite) : decode p.toJson = .ok p := by
  have hoperator := Decode.named_string p.operator.lookup_name
  have hclause := Decode.named_string p.clause.lookup_name
  have hgiven := Decode.named_string p.givenClause.lookup_name
  have hoperand := p.operand.decode_toJson
  have hboost := Decode.option_getD_null fun x hx => Decode.single_ofSingle (h x hx)
  cases p with
  | mk field operator clause givenClause operand boost =>
    -- a boost that is not set has no member, and a member that is missing is no boost
    cases boost with
    | none =>
      simp [decode, toJson, Decode.Fields.required, Decode.Fields.defaulted, Decode.string,
        hoperator, hclause, hgiven, hoperand]
    | some x =>
      rw [Option.map_some, Option.getD_some] at hboost
      simp [decode, toJson, Decode.Fields.required, Decode.Fields.defaulted, Decode.string,
        hoperator, hclause, hgiven, hoperand, hboost]

theorem Entry.decode_toJson {entry : Entry} (h : ∀ p ∈ entry.predicates, p.IsFinite) :
    decode entry.toJson = .ok entry := by
  cases entry with
  | marker m =>
    have hmarker := Decode.named_string m.lookup_name
    simp [decode, toJson, Decode.data, Marker.decode, Marker.toJson, hmarker]
  | batch predicates =>
    have hpredicates : Decode.list Predicate.decode (.array (predicates.map Predicate.toJson)) =
        .ok predicates := Decode.list_array fun p hp => Predicate.decode_toJson (h p hp)
    simp [decode, toJson, Decode.data, hpredicates]

theorem Conditions.decode_toJson {conditions : Conditions} (h : conditions.IsFinite) :
    decode conditions.toJson = .ok conditions := by
  apply Decode.list_array
  intro entry hentry
  apply Entry.decode_toJson
  intro p hp
  exact h p (List.mem_flatMap.mpr ⟨entry, hentry, hp⟩)

/-! ## Spatial filters -/

/-- Both coordinates are finite. -/
def GeoPoint.IsFinite (point : GeoPoint) : Prop :=
  point.lat.isFinite = true ∧ point.lon.isFinite = true

/-- The points that an area is made of. -/
def GeoArea.points : GeoArea → List GeoPoint
  | boundingBox topLeft bottomRight => [topLeft, bottomRight]
  | distance center _ => [center]
  | polygon points => points
  | shape _ _ => []

/-- The coordinates of the filter are finite, and its boost, if it has one. -/
structure GeoFilter.IsFinite (filter : GeoFilter) : Prop where
  points : ∀ point ∈ filter.area.points, point.IsFinite
  boost : IsFiniteBoost filter.boost

theorem GeoPoint.decode_toJson {point : GeoPoint} (h : point.IsFinite) :
    decode point.toJson = .ok point := by
  have hlat := Decode.double_ofDouble h.1
  have hlon := Decode.double_ofDouble h.2
  simp [decode, toJson, Json.ofPairs, Decode.Fields.defaulted, hlat, hlon, Except.map]

theorem ShapeRelation.decode_toJson (relation : ShapeRelation) :
    decode relation.toJson = .ok relation :=
  Decode.named_string relation.lookup_name

theorem GeoShape.decode_toJson (shape : GeoShape) : decode shape.toJson = .ok shape := by
  cases shape with
  | geometry value => rfl
  | indexed id index =>
    have hindex := Decode.Fields.optional_string "index" index
    simp [decode, toJson, Decode.data, Json.ofPairs, Decode.Fields.required, Decode.string, hindex]

/-- The area is read from any fields that hold its parts. -/
theorem GeoArea.decode_parts {area : GeoArea} (h : ∀ point ∈ area.points, point.IsFinite)
    {fields : Decode.Fields}
    (hfields : ∀ part ∈ area.parts.2, Members.find? part.1 fields.members = some part.2) :
    decode area.parts.1 fields = .ok area := by
  cases area with
  | boundingBox topLeft bottomRight =>
    simp only [points, List.forall_mem_cons] at h
    simp only [parts, List.forall_mem_cons] at hfields
    simp [decode, parts, Decode.Fields.required, hfields, GeoPoint.decode_toJson h.1,
      GeoPoint.decode_toJson h.2.1]
  | distance center radius =>
    simp only [points, List.forall_mem_cons] at h
    simp only [parts, List.forall_mem_cons] at hfields
    simp [decode, parts, Decode.Fields.required, hfields, GeoPoint.decode_toJson h.1,
      Decode.string]
  | polygon corners =>
    have hcorners : Decode.list GeoPoint.decode (.array (corners.map GeoPoint.toJson)) =
        .ok corners := Decode.list_array fun point hpoint => GeoPoint.decode_toJson (h point hpoint)
    simp only [parts, List.forall_mem_cons] at hfields
    simp [decode, parts, Decode.Fields.required, hfields, hcorners]
  | shape asked relation =>
    simp only [parts, List.forall_mem_cons] at hfields
    have hrelation : fields.optional "relation" ShapeRelation.decode = .ok relation :=
      Decode.Fields.optional_getD_null hfields.2.1 fun x _ => ⟨rfl, x.decode_toJson⟩
    simp [decode, parts, Decode.Fields.required, hfields, asked.decode_toJson, hrelation]

/-- The members of a filter are found beside those of its area. -/
theorem GeoFilter.find?_members (field boost : Json) (area : GeoArea) :
    let members := Members.ofPairs ([("field", field)] ++ area.parts.2 ++ [("boost", boost)])
    Members.find? "field" members = some field ∧ Members.find? "boost" members = some boost ∧
      ∀ part ∈ area.parts.2, Members.find? part.1 members = some part.2 := by
  cases area <;> simp [GeoArea.parts]

theorem GeoFilter.decode_toJson {filter : GeoFilter} (h : filter.IsFinite) :
    decode filter.toJson = .ok filter := by
  obtain ⟨hfield, hboost, hparts⟩ := find?_members (.string filter.field)
    ((filter.boost.map Json.ofSingle).getD .null) filter.area
  generalize hmembers : Members.ofPairs ([("field", .string filter.field)] ++ filter.area.parts.2 ++
    [("boost", (filter.boost.map Json.ofSingle).getD .null)]) = members at hfield hboost hparts
  have harea : GeoArea.decode filter.area.parts.1 ⟨members, false⟩ = .ok filter.area :=
    GeoArea.decode_parts h.points hparts
  have hread : Decode.Fields.optional ⟨members, false⟩ "boost" Decode.single = .ok filter.boost :=
    Decode.Fields.optional_getD_null hboost fun x hx => Decode.single_ofSingle (h.boost x hx)
  have hwritten : filter.toJson = .single filter.area.parts.1 (.object members) := by
    rw [← hmembers]
    rfl
  simp [decode, hwritten, Decode.data, Decode.Fields.required, hfield, Decode.string, harea, hread]

theorem GeoFilter.isNull_toJson (filter : GeoFilter) : filter.toJson.isNull = false := rfl

/-! ## Queries -/

/-- The boosts and the coordinates of the query are finite. -/
structure SearchQuery.IsFinite (query : SearchQuery) : Prop where
  conditions : query.conditions.IsFinite
  geo : ∀ filter ∈ query.geo, filter.IsFinite

theorem SortOrder.decode_toJson (sort : SortOrder) : decode sort.toJson = .ok sort := by
  have hfields := Decode.list_strings sort.fields
  simp [decode, toJson, Json.ofPairs, Decode.Fields.required, hfields, Decode.bool]

theorem Highlight.decode_toJson (highlight : Highlight) :
    decode highlight.toJson = .ok highlight := by
  have hfields := Decode.list_strings highlight.fields
  simp [decode, toJson, Json.ofPairs, Decode.Fields.required, hfields, Decode.string]

theorem AggregationKind.decode_toJson (kind : AggregationKind) :
    decode kind.toJson = .ok kind := by
  cases kind <;> rfl

theorem Aggregation.decode_toJson (aggregation : Aggregation) :
    decode aggregation.toJson = .ok aggregation := by
  have hkind := aggregation.kind.decode_toJson
  simp [decode, toJson, Json.ofPairs, Decode.Fields.required, hkind, Decode.string]

theorem SearchQuery.decode_toJson {query : SearchQuery} (h : query.IsFinite) :
    decode query.toJson = .ok query := by
  have hconditions := Conditions.decode_toJson h.conditions
  have hincludes := Decode.list_strings query.includes
  have hexcludes := Decode.list_strings query.excludes
  have hsorts : Decode.list SortOrder.decode (.array (query.sorts.map SortOrder.toJson)) =
      .ok query.sorts := Decode.list_array fun sort _ => sort.decode_toJson
  have hhighlights :
      Decode.list Highlight.decode (.array (query.highlights.map Highlight.toJson)) =
        .ok query.highlights := Decode.list_array fun highlight _ => highlight.decode_toJson
  have haggregations :
      Decode.list Aggregation.decode (.array (query.aggregations.map Aggregation.toJson)) =
        .ok query.aggregations := Decode.list_array fun aggregation _ => aggregation.decode_toJson
  -- what is not set is left out
  have hgeo : ∀ members, Members.find? "geo" members = query.geo.map GeoFilter.toJson →
      Decode.Fields.optional ⟨members, false⟩ "geo" GeoFilter.decode = .ok query.geo :=
    fun _ hfind => Decode.Fields.optional_map rfl hfind fun filter hfilter =>
      ⟨filter.isNull_toJson, GeoFilter.decode_toJson (h.geo filter hfilter)⟩
  have hoffset := Decode.Fields.optional_uint64 "from" query.offset
  have hlimit := Decode.Fields.optional_uint64 "size" query.limit
  simp [decode, toJson, Decode.Fields.required, Decode.Fields.defaulted, hconditions, hincludes,
    hexcludes, hsorts, hhighlights, haggregations, hgeo, hoffset, hlimit]

/-! ## Metadata -/

theorem FieldDescriptor.decode_toJson (field : FieldDescriptor) :
    decode field.toJson = .ok field := by
  have hstrategy := Decode.named_string field.strategy.lookup_name
  have hkind := Decode.named_string field.kind.lookup_name
  have hformat := Decode.Fields.optional_string "date_format" field.dateFormat
  simp [decode, toJson, Json.ofPairs, Decode.Fields.required, FieldStrategy.decode, hstrategy,
    hkind, hformat, Decode.string]

theorem Metadata.decode_toJson (metadata : Metadata) : decode metadata.toJson = .ok metadata := by
  have hfields : Decode.list FieldDescriptor.decode
      (.array (metadata.fields.map FieldDescriptor.toJson)) = .ok metadata.fields :=
    Decode.list_array fun field _ => field.decode_toJson
  have hkey := Decode.Fields.optional_string "key_field" metadata.keyField
  have hidType : ∀ members, Members.find? "id_type" members =
      some (.optionString (metadata.idType.map IdType.name)) →
        Decode.Fields.optional ⟨members, false⟩ "id_type" IdType.decode = .ok metadata.idType := by
    intro members hfind
    rw [Json.optionString_eq, Option.map_map] at hfind
    exact Decode.Fields.optional_getD_null hfind fun idType _ =>
      ⟨rfl, Decode.named_string idType.lookup_name⟩
  simp [decode, toJson, Json.ofPairs, Decode.Fields.required, hfields, hkey, hidType,
    Decode.string]

/-! ## Normal forms -/

/-- The written form of a value is a normal form: the value is read back from it, and whatever
else is read as the value, writing that and reading it again changes nothing. -/
structure IsNormalForm {α : Type} (toJson : α → Json) (decode : Decoder α) (IsFinite : α → Prop) :
    Prop where
  read_back : ∀ value, IsFinite value → decode (toJson value) = .ok value
  read_again : ∀ json value, decode json = .ok value → IsFinite value →
    (decode json >>= fun read => decode (toJson read)) = decode json

theorem IsNormalForm.of_read_back {α : Type} {toJson : α → Json} {decode : Decoder α}
    {IsFinite : α → Prop} (h : ∀ value, IsFinite value → decode (toJson value) = .ok value) :
    IsNormalForm toJson decode IsFinite where
  read_back := h
  read_again := by
    intro json value hread hfinite
    rw [hread, Except.ok_bind, h value hfinite]

/-- Conditions, queries and spatial filters with finite numbers, and all metadata, have normal
forms. -/
theorem written_isNormalForm :
    IsNormalForm Conditions.toJson Conditions.decode Conditions.IsFinite ∧
      IsNormalForm SearchQuery.toJson SearchQuery.decode SearchQuery.IsFinite ∧
      IsNormalForm GeoFilter.toJson GeoFilter.decode GeoFilter.IsFinite ∧
      IsNormalForm Metadata.toJson Metadata.decode fun _ => True := by
  refine ⟨.of_read_back ?_, .of_read_back ?_, .of_read_back ?_, .of_read_back ?_⟩
  · intro conditions hfinite
    exact Conditions.decode_toJson hfinite
  · intro query hfinite
    exact SearchQuery.decode_toJson hfinite
  · intro filter hfinite
    exact GeoFilter.decode_toJson hfinite
  · intro metadata _
    exact metadata.decode_toJson

/-- A predicate spelled as an array, with a null operand and a boost of one and a half. -/
theorem written_isNormalForm_spelled :
    let json : Json := .single "conditions" (.array [.single "predicates" (.array [.array [
      .string "name", .single "EQ" .null, .string "MUST", .string "FILTER",
      .single "single" .null, .number (.double ⟨0x3FF8000000000000⟩)]])])
    let query : SearchQuery :=
      { conditions := [.batch [⟨"name", .exact, .must, .filter, .single .null,
          some ⟨0x3FC00000⟩⟩]] }
    SearchQuery.decode json = .ok query ∧ query.IsFinite ∧
      (SearchQuery.decode json >>= fun read => SearchQuery.decode read.toJson) =
        SearchQuery.decode json :=
  have hread := by rfl
  have hfinite := by
    refine ⟨?_, nofun⟩
    simp [Conditions.IsFinite, Conditions.predicates, Entry.predicates, Predicate.IsFinite,
      IsFiniteBoost]
    decide
  ⟨hread, hfinite, written_isNormalForm.2.1.read_again _ _ hread hfinite⟩

end SearchMapper
