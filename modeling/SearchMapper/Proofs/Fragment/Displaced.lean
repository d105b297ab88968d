import SearchMapper.Condition.Build
import SearchMapper.Proofs.Json.Typed
import SearchMapper.Query.Request

/-!
# Fields named like a part of their query

A test of a set of values and a spatial test are written with the field as a member of the same
object as the boost, and as the distance where there is one. A field of the same name takes the
place of the distance, and the boost takes the place of a field of the same name. All other names
have both. Tests that are written with the boost below the field have both under every name.
-/

namespace SearchMapper

/-- What a test has under its field, where the field stands beside the boost: the name of the query,
and the value under the field. -/
def FieldTest.besideBoost? : FieldTest → Option (String × Json)
  | .terms values => some ("terms", .array values)
  | .geo (.boundingBox topLeft bottomRight) =>
    some ("geo_bounding_box",
      .ofPairs [("top_left", topLeft.toJson), ("bottom_right", bottomRight.toJson)])
  | .geo (.distance center _) => some ("geo_distance", center.toJson)
  | .geo (.polygon points) =>
    some ("geo_polygon", .single "points" (.array (points.map GeoPoint.toJson)))
  | .geo (.shape asked relation) => some ("geo_shape", shapeBody asked relation)
  | _ => none

/-- The distance that a test has beside its field. -/
def FieldTest.distance? : FieldTest → Option String
  | .geo (.distance _ radius) => some radius
  | _ => none

/-- What a test has below its field, where the boost stands there too: the name of the query, and
the value under its own name. -/
def FieldTest.aboveBoost? : FieldTest → Option (String × String × Json)
  | .term value => some ("term", "value", value)
  | .fullText text => some ("match", "query", text)
  | .startsWith start => some ("prefix", "value", start)
  | .wildcard pattern => some ("wildcard", "value", .string pattern)
  | _ => none

namespace Leaf

variable {leaf : Leaf} {kind : String} {payload : Json}

/-- The members of a query with the field beside the boost: the field over the distance, and the
boost over both. -/
theorem toJson_of_besideBoost (h : leaf.test.besideBoost? = some (kind, payload)) :
    leaf.toJson = .single kind (withBoost leaf.boost
      (Members.insert leaf.field payload
        (Members.insertSome "distance" (leaf.test.distance?.map Json.string) []))) := by
  obtain ⟨field, test, boost⟩ := leaf
  cases test with
  | terms values =>
    cases h
    rfl
  | geo area =>
    cases area <;>
    · cases h
      rfl
  | _ => cases h

/-- A value under a field beside the boost is neither a boost nor a distance. -/
theorem payload_of_besideBoost (h : leaf.test.besideBoost? = some (kind, payload)) :
    (∀ boost, payload ≠ .ofSingle boost) ∧ ∀ text, payload ≠ .string text := by
  have hshape : (∃ items, payload = .array items) ∨ ∃ members, payload = .object members := by
    obtain ⟨field, test, boost⟩ := leaf
    cases test with
    | terms values =>
      cases h
      exact .inl ⟨_, rfl⟩
    | geo area =>
      cases area <;>
      · cases h
        exact .inr ⟨_, rfl⟩
    | _ => cases h
  have hnumber : ∀ boost, (∃ n, Json.ofSingle boost = .number n) ∨ Json.ofSingle boost = .null := by
    intro boost
    unfold Json.ofSingle Json.ofDouble
    split
    · split
      · exact .inl ⟨_, rfl⟩
      · exact .inr rfl
    · exact .inr rfl
  rcases hshape with ⟨_, rfl⟩ | ⟨_, rfl⟩ <;>
  · constructor
    · intro boost hboost
      rcases hnumber boost with ⟨n, hn⟩ | hn <;>
      · rw [hn] at hboost
        cases hboost
    · rintro text ⟨⟩

/-- The value under the field is kept unless the field is named like a boost that is there. -/
theorem find?_field_iff (h : leaf.test.besideBoost? = some (kind, payload))
    (rest : Members Json) :
    Members.find? leaf.field (Members.insertSome "boost" (leaf.boost.map Json.ofSingle)
        (Members.insert leaf.field payload rest)) = some payload ↔
      ¬ (leaf.field = "boost" ∧ ∃ boost, leaf.boost = some boost) := by
  rw [Members.find?_insertSome, Members.find?_insert_self]
  by_cases hfield : leaf.field = "boost"
  · rw [if_pos hfield]
    cases hboost : leaf.boost with
    | none => simp
    | some boost => simpa [hfield] using ((payload_of_besideBoost h).1 boost).symm
  · simp [hfield]

/-- The distance is kept unless the field has its name. -/
theorem find?_distance_iff (h : leaf.test.besideBoost? = some (kind, payload)) (radius : String)
    (boost : Option Json) :
    Members.find? "distance" (Members.insertSome "boost" boost
        (Members.insert leaf.field payload [("distance", .string radius)])) =
          some (.string radius) ↔ leaf.field ≠ "distance" := by
  rw [Members.find?_insertSome, if_neg (by decide), Members.find?_insert]
  by_cases hfield : "distance" = leaf.field
  · rw [if_pos hfield]
    simpa [hfield.symm] using (payload_of_besideBoost h).2 radius
  · simp [hfield, Ne.symm hfield]

/-- The members of a query with the boost below the field have names of their own. -/
theorem toJson_of_aboveBoost {key : String}
    (h : leaf.test.aboveBoost? = some (kind, key, payload)) :
    leaf.toJson = fieldQuery kind leaf.field key payload leaf.boost ∧ key ≠ "boost" := by
  obtain ⟨field, test, boost⟩ := leaf
  cases test with
  | term _ | fullText _ | startsWith _ | wildcard _ =>
    cases h
    exact ⟨rfl, by decide⟩
  | _ => cases h

/-! ## Main result -/

/-- **Which parts of a query displace one another.** Where a test has its field beside the boost,
the boost is always there; the value under the field is there unless the field is called `boost` and
there is a boost; and a distance is there unless the field is called `distance`. Where a test has
the boost below its field, value and boost are both there whatever the field is called. -/
theorem displaced_only_by_name (leaf : Leaf) :
    (∀ kind payload, leaf.test.besideBoost? = some (kind, payload) →
      ∃ members : Members Json, leaf.toJson = .single kind (.object members) ∧
        (∀ boost, leaf.boost = some boost →
          Members.find? "boost" members = some (.ofSingle boost)) ∧
        (Members.find? leaf.field members = some payload ↔
          ¬ (leaf.field = "boost" ∧ ∃ boost, leaf.boost = some boost)) ∧
        ∀ radius, leaf.test.distance? = some radius →
          (Members.find? "distance" members = some (.string radius) ↔ leaf.field ≠ "distance")) ∧
      ∀ kind key payload, leaf.test.aboveBoost? = some (kind, key, payload) →
        ∃ below, leaf.toJson = .single kind (.single leaf.field below) ∧
          (leaf.boost = none → below = payload) ∧
          ∀ boost, leaf.boost = some boost →
            below.member? key = some payload ∧ below.member? "boost" = some (.ofSingle boost) := by
  constructor
  · intro kind payload h
    refine ⟨_, toJson_of_besideBoost h, ?_, find?_field_iff h _, ?_⟩
    · intro boost hboost
      simp [hboost]
    · intro radius hradius
      rw [hradius]
      exact find?_distance_iff h radius _
  · intro kind key payload h
    obtain ⟨hjson, hkey⟩ := toJson_of_aboveBoost h
    rw [hjson]
    refine ⟨_, rfl, ?_, ?_⟩
    · intro hboost
      rw [hboost]
    · intro boost hboost
      rw [hboost]
      simp [Json.ofPairs, Json.member?, hkey]

/-- A distance from a centre under a field called `distance`, with a boost. -/
theorem displaced_only_by_name_distance :
    let leaf : Leaf := ⟨"distance", .geo (.distance ⟨⟨0⟩, ⟨0⟩⟩ "5km"), some ⟨0x40000000⟩⟩
    ∃ members : Members Json, leaf.toJson = .single "geo_distance" (.object members) ∧
      Members.find? "boost" members = some (.ofSingle ⟨0x40000000⟩) ∧
      Members.find? "distance" members = some (GeoPoint.toJson ⟨⟨0⟩, ⟨0⟩⟩) ∧
      Members.find? "distance" members ≠ some (.string "5km") := by
  intro leaf
  obtain ⟨members, hjson, hboost, hfield, hdistance⟩ :=
    (displaced_only_by_name leaf).1 "geo_distance" (GeoPoint.toJson ⟨⟨0⟩, ⟨0⟩⟩) rfl
  refine ⟨members, hjson, hboost _ rfl, hfield.mpr ?_, ?_⟩
  · rintro ⟨hname, -⟩
    exact absurd hname (by decide)
  · exact fun hfound => (hdistance "5km" rfl).mp hfound rfl

/-- A set of values asked of a field called `boost` with a boost, by a list of calls: the values are
not in the query. -/
theorem values_displaced_by_boost :
    ∃ query, Conditions.compile (Conditions.build
        [.among "boost" [.string "a", .string "b"], .boost ⟨0x40000000⟩]) none = .ok query ∧
      query.must = [.leaf ⟨"boost", .terms [.string "a", .string "b"], some ⟨0x40000000⟩⟩] ∧
      query.toJson = .single "bool" (.single "must" (.array
        [.single "terms" (.single "boost" (.ofSingle ⟨0x40000000⟩))])) :=
  ⟨_, rfl, rfl, rfl⟩

end Leaf
end SearchMapper
