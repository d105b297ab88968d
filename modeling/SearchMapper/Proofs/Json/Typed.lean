import SearchMapper.Json.Decode
import SearchMapper.Proofs.Floating.Exact

/-!
# Typed readings of what was written

How each kind of typed reading gets back a value from its written form: numbers, options, lists,
choices and the fields of records.
-/

@[simp] theorem Except.ok_bind {ε α β : Type} (a : α) (next : α → Except ε β) :
    (Except.ok a >>= next) = next a := rfl

@[simp] theorem Except.pure_eq_ok {ε α : Type} (a : α) : (pure a : Except ε α) = .ok a := rfl

namespace SearchMapper

/-! ## Members -/

@[simp] theorem Members.find?_insertSome {α : Type} (name key : String) (value : Option α)
    (members : Members α) : find? key (insertSome name value members) =
      if key = name then value.or (find? key members) else find? key members := by
  cases value with
  | none => simp [insertSome]
  | some value => simp [insertSome, find?_insert]

@[simp] theorem Members.find?_cons {α : Type} (name key : String) (value : α)
    (rest : Members α) :
    find? name ((key, value) :: rest) = if name = key then some value else find? name rest := rfl

theorem Members.find?_append {α : Type} (name : String) (first second : Members α) :
    find? name (first ++ second) = (find? name first).or (find? name second) := by
  induction first with
  | nil => rfl
  | cons member rest ih =>
    obtain ⟨key, value⟩ := member
    rw [List.cons_append, find?_cons, find?_cons, ih]
    split
    · rfl
    · rfl

/-- Of two pairs of one name the later counts. -/
@[simp] theorem Members.find?_ofPairs {α : Type} (name : String) (pairs : List (String × α)) :
    find? name (ofPairs pairs) = find? name pairs.reverse := by
  rw [ofPairs, ← List.foldr_reverse]
  induction pairs.reverse with
  | nil => rfl
  | cons pair rest ih =>
    obtain ⟨key, value⟩ := pair
    rw [List.foldr_cons, find?_insert, ih, find?_cons]

namespace Json

theorem ofSingle_of_isFinite {boost : Single} (h : boost.isFinite = true) :
    ofSingle boost = .number (.double boost.toDouble (Single.isFinite_toDouble h)) := by
  simp [ofSingle, ofDouble, h, Single.isFinite_toDouble h]

theorem optionString_eq (text : Option String) :
    optionString text = (text.map Json.string).getD .null := by
  cases text <;> rfl

end Json

namespace Decode
variable {α : Type}

/-! ## Values -/

theorem double_ofDouble {x : Double} (h : x.isFinite = true) : double (.ofDouble x) = .ok x := by
  simp [double, Json.ofDouble, h, Json.double?]

/-- A finite single is written as a number, and read back from it. -/
theorem single_ofSingle {x : Single} (h : x.isFinite = true) :
    (Json.ofSingle x).isNull = false ∧ single (.ofSingle x) = .ok x := by
  rw [Json.ofSingle_of_isFinite h]
  exact ⟨rfl, congrArg Except.ok (Single.ofDouble_toDouble h)⟩

theorem uint64_uint64 (n : UInt64) : uint64 (.uint64 n) = .ok n := by
  have hlt := n.toNat_lt
  have hrange : 0 ≤ (n.toNat : Int) ∧ (n.toNat : Int) < 0x10000000000000000 := by omega
  rw [uint64, Json.uint64, intIn, if_pos hrange, Except.map, Int.toNat_natCast, UInt64.ofNat_toNat]

/-- The items of a written list are read back one by one. -/
theorem list_array {decode : Decoder α} {encode : α → Json} {values : List α}
    (h : ∀ value ∈ values, decode (encode value) = .ok value) :
    list decode (.array (values.map encode)) = .ok values := by
  have hitems : (values.map encode).mapM decode = .ok values := by
    induction values with
    | nil => rfl
    | cons first rest ih =>
      obtain ⟨hfirst, hrest⟩ := List.forall_mem_cons.mp h
      rw [List.map_cons, List.mapM_cons, hfirst, ih hrest]
      rfl
  exact hitems

theorem list_json (values : List Json) : list json (.array values) = .ok values := by
  have hread : list json (.array (values.map id)) = .ok values := list_array fun _ _ => rfl
  rwa [List.map_id] at hread

theorem list_strings (texts : List String) : list string (.strings texts) = .ok texts :=
  list_array fun _ _ => rfl

/-- A value that is there is not written as null, so that none and null are the same. -/
theorem option_getD_null {decode : Decoder α} {encode : α → Json} {value : Option α}
    (h : ∀ x ∈ value, (encode x).isNull = false ∧ decode (encode x) = .ok x) :
    option decode ((value.map encode).getD .null) = .ok value := by
  cases value with
  | none => rfl
  | some x =>
    obtain ⟨hnull, hdecode⟩ := h x rfl
    rw [Option.map_some, Option.getD_some]
    cases hencode : encode x <;> simp_all [option, Except.map, Json.isNull]

theorem named_string {alternatives : List (String × α)} {name : String} {value : α}
    (h : alternatives.lookup name = some value) :
    named alternatives (.string name) = .ok value := by
  simp [named, variant, unit, h]

/-! ## Records and alternatives -/

@[simp] theorem fields_object (names : List String) (wanted : String) (members : Members Json) :
    fields names wanted (.object members) = .ok ⟨members, false⟩ := rfl

@[simp] theorem variantFields_object (members : Members Json) :
    variantFields (.object members) = .ok ⟨members, false⟩ := rfl

@[simp] theorem variant_string (name : String) : variant (.string name) = .ok (name, none) := rfl

@[simp] theorem variant_single (name : String) (written : Json) :
    variant (.single name written) = .ok (name, some written) := rfl

/-- A field of an object that is written as null when it is not set. -/
theorem Fields.optional_getD_null {fields : Fields} {name : String} {decode : Decoder α}
    {encode : α → Json} {value : Option α}
    (hfind : Members.find? name fields.members = some ((value.map encode).getD .null))
    (h : ∀ x ∈ value, (encode x).isNull = false ∧ decode (encode x) = .ok x) :
    fields.optional name decode = .ok value := by
  simp [optional, hfind, option_getD_null h]

/-- A field of an object that is left out when it is not set. -/
theorem Fields.optional_map {fields : Fields} {name : String} {decode : Decoder α}
    {encode : α → Json} {value : Option α} (hobject : fields.positional = false)
    (hfind : Members.find? name fields.members = value.map encode)
    (h : ∀ x ∈ value, (encode x).isNull = false ∧ decode (encode x) = .ok x) :
    fields.optional name decode = .ok value := by
  cases value with
  | none => simp [optional, hfind, hobject]
  | some x => exact optional_getD_null hfind h

theorem Fields.optional_string (name : String) (text : Option String) (members : Members Json)
    (hfind : Members.find? name members = some (.optionString text)) :
    optional ⟨members, false⟩ name Decode.string = .ok text := by
  rw [Json.optionString_eq] at hfind
  exact optional_getD_null hfind fun _ _ => ⟨rfl, rfl⟩

theorem Fields.optional_uint64 (name : String) (n : Option UInt64) (members : Members Json)
    (hfind : Members.find? name members = n.map Json.uint64) :
    optional ⟨members, false⟩ name Decode.uint64 = .ok n :=
  optional_map rfl hfind fun n _ => ⟨rfl, uint64_uint64 n⟩

end Decode
end SearchMapper
