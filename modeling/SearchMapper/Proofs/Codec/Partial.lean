import SearchMapper.Proofs.Codec.Source
import SearchMapper.Proofs.Json.Given

/-!
# Partial documents

What is written of given field values: under every given name but that of the key, the last value
given for it, in the format of its field if it is declared. Strategies play no part, so that nulls
and empty texts are kept. The values of an entity are written as they are in its stored source.
-/

namespace SearchMapper.Codec

variable {codec : Codec}

/-! ## Values under names -/

/-- What is written for a value under a name: a declared field has its format. -/
inductive RewritesNamed (codec : Codec) (name : String) (value : Json) : Json → Prop
  | declared {field : FieldDescriptor} {stored : Json} (hdeclared : field ∈ codec.metadata.fields)
    (hname : field.name = name) (hstored : codec.Rewrites field value stored) :
    RewritesNamed codec name value stored
  | undeclared (hundeclared : ∀ field ∈ codec.metadata.fields, field.name ≠ name) :
    RewritesNamed codec name value value

/-- Null and the empty text stay, whatever the name. -/
theorem rewritesNamed_of_empty {value : Json} (h : value = .null ∨ value = .string "")
    (name : String) : codec.RewritesNamed name value value := by
  by_cases hdeclared : ∃ field ∈ codec.metadata.fields, field.name = name
  · obtain ⟨field, hdeclared, hname⟩ := hdeclared
    exact .declared hdeclared hname (rewrites_of_empty h)
  · exact .undeclared fun field hmem hname => hdeclared ⟨field, hmem, hname⟩

/-- The descriptor of a name is declared under that name. -/
theorem mem_of_descriptor? {name : String} {field : FieldDescriptor}
    (h : codec.metadata.descriptor? name = some field) :
    field ∈ codec.metadata.fields ∧ field.name = name := by
  unfold Metadata.descriptor? at h
  have hname := List.find?_some h
  exact ⟨List.mem_of_find?_eq_some h, beq_iff_eq.mp hname⟩

section distinct

variable (hdistinct : (codec.metadata.fields.map (·.name)).Nodup)

include hdistinct

/-- Where all names are different, a declared field is the one of its name. -/
theorem descriptor?_eq_some_iff {name : String} {field : FieldDescriptor} :
    codec.metadata.descriptor? name = some field ↔
      field ∈ codec.metadata.fields ∧ field.name = name := by
  refine ⟨mem_of_descriptor?, ?_⟩
  rintro ⟨hdeclared, rfl⟩
  cases hfind : codec.metadata.descriptor? field.name with
  | none => exact absurd (beq_self_eq_true _) (List.find?_eq_none.mp hfind field hdeclared)
  | some other =>
    obtain ⟨hother, hname⟩ := mem_of_descriptor? hfind
    rw [List.inj_on_of_nodup_map hdistinct hother hdeclared hname]

theorem fieldValue_eq_ok_iff {name : String} {value stored : Json} :
    codec.fieldValue name value = .ok stored ↔ codec.RewritesNamed name value stored := by
  unfold fieldValue
  constructor
  · intro h
    split at h
    · next field hfield =>
      obtain ⟨hdeclared, hname⟩ := (descriptor?_eq_some_iff hdistinct).mp hfield
      exact .declared hdeclared hname (formatDate_eq_ok_iff.mp h)
    · next hnone =>
      cases h
      exact .undeclared fun field hdeclared hname =>
        List.find?_eq_none.mp hnone field hdeclared (beq_iff_eq.mpr hname)
  · intro h
    cases h with
    | declared hdeclared hname hstored =>
      rw [(descriptor?_eq_some_iff hdistinct).mpr ⟨hdeclared, hname⟩]
      exact formatDate_eq_ok_iff.mpr hstored
    | undeclared hundeclared =>
      have hnone : codec.metadata.descriptor? name = none :=
        List.find?_eq_none.mpr fun field hdeclared hname =>
          hundeclared field hdeclared (beq_iff_eq.mp hname)
      rw [hnone]

end distinct

/-! ## Given values -/

/-- The document is what is written of the pairs: under a name other than that of the key, what the
last value of the name is rewritten to. -/
structure IsPartial (codec : Codec) (pairs : List (String × Json)) (document : Members Json) :
    Prop where
  sorted : document.Sorted
  find?_eq_some_iff : ∀ name stored, Members.find? name document = some stored ↔
    codec.metadata.keyField ≠ some name ∧
      ∃ value, IsLast pairs name value ∧ codec.RewritesNamed name value stored

/-- The pairs that are written: all but those of the key. -/
def givenPairs (codec : Codec) (pairs : List (String × Json)) : List (String × Json) :=
  pairs.filter fun pair => !codec.metadata.isKey pair.1

/-- One pair as it is written. -/
def writePair (codec : Codec) (pair : String × Json) : Except CodecFault (String × Json) := do
  return (pair.1, ← codec.fieldValue pair.1 pair.2)

theorem fieldsDocument_eq_ok_iff_writePair {pairs : List (String × Json)} {stored : Json} :
    codec.fieldsDocument pairs = .ok stored ↔
      ∃ written, (codec.givenPairs pairs).mapM codec.writePair = .ok written ∧
        stored = .object (Members.ofPairs written) := by
  have hwritten : codec.fieldsDocument pairs =
      (codec.givenPairs pairs).mapM codec.writePair >>= fun written => .ok (.ofPairs written) := rfl
  rw [hwritten, Except.bind_eq_ok_iff]
  refine exists_congr fun written => and_congr_right fun _ => ?_
  rw [Except.ok.injEq]
  exact eq_comm

theorem writePair_eq_ok_iff {pair written : String × Json} :
    codec.writePair pair = .ok written ↔
      written.1 = pair.1 ∧ codec.fieldValue pair.1 pair.2 = .ok written.2 := by
  constructor
  · intro h
    obtain ⟨stored, hstored, h⟩ := Except.bind_eq_ok_iff.mp h
    cases h
    exact ⟨rfl, hstored⟩
  · rintro ⟨hname, hstored⟩
    refine Except.bind_eq_ok_iff.mpr ⟨written.2, hstored, ?_⟩
    rw [← hname]
    rfl

theorem mem_givenPairs {pairs : List (String × Json)} {pair : String × Json} :
    pair ∈ codec.givenPairs pairs ↔ pair ∈ pairs ∧ codec.metadata.keyField ≠ some pair.1 := by
  rw [givenPairs, List.mem_filter, not_isKey_iff]

theorem find?_reverse_givenPairs {pairs : List (String × Json)} {name : String} {value : Json} :
    Members.find? name (codec.givenPairs pairs).reverse = some value ↔
      codec.metadata.keyField ≠ some name ∧ IsLast pairs name value := by
  have hfilter := Members.find?_filter (fun name => !codec.metadata.isKey name) name pairs.reverse
  rw [givenPairs, ← List.filter_reverse, hfilter, ← Members.find?_reverse_eq_some_iff,
    ← not_isKey_iff]
  cases codec.metadata.isKey name <;> simp

/-- What is found among written pairs is written for what is found among the given ones. -/
theorem find?_of_forall₂ {given written : List (String × Json)}
    (h : List.Forall₂ (fun pair pair' => codec.writePair pair = .ok pair') given written)
    {name : String} {stored : Json} :
    Members.find? name written = some stored ↔
      ∃ value, Members.find? name given = some value ∧
        codec.fieldValue name value = .ok stored := by
  induction h with
  | nil => simp
  | @cons pair pair' given written hpair _ ih =>
    obtain ⟨key, value⟩ := pair
    obtain ⟨key', stored'⟩ := pair'
    obtain ⟨hname, hstored⟩ := writePair_eq_ok_iff.mp hpair
    obtain rfl : key' = key := hname
    rw [Members.find?_cons, Members.find?_cons]
    by_cases hkey : name = key'
    · subst hkey
      simp [hstored]
    · rw [if_neg hkey, if_neg hkey, ih]

/-- Given values can be written exactly if each can that is not under the name of the key. -/
theorem exists_fieldsDocument_iff (hdistinct : (codec.metadata.fields.map (·.name)).Nodup)
    {pairs : List (String × Json)} :
    (∃ stored, codec.fieldsDocument pairs = .ok stored) ↔
      ∀ name value, (name, value) ∈ pairs → codec.metadata.keyField ≠ some name →
        ∃ stored, codec.RewritesNamed name value stored := by
  have hwritten : (∃ stored, codec.fieldsDocument pairs = .ok stored) ↔
      ∃ written, (codec.givenPairs pairs).mapM codec.writePair = .ok written := by
    simp only [fieldsDocument_eq_ok_iff_writePair]
    exact ⟨fun ⟨_, written, h, _⟩ => ⟨written, h⟩, fun ⟨written, h⟩ => ⟨_, written, h, rfl⟩⟩
  rw [hwritten, Except.exists_mapM_eq_ok_iff]
  constructor
  · intro h name value hpair hkey
    obtain ⟨written, hwritten⟩ := h (name, value) (mem_givenPairs.mpr ⟨hpair, hkey⟩)
    exact ⟨written.2, (fieldValue_eq_ok_iff hdistinct).mp (writePair_eq_ok_iff.mp hwritten).2⟩
  · intro h pair hpair
    obtain ⟨hgiven, hkey⟩ := mem_givenPairs.mp hpair
    obtain ⟨stored, hstored⟩ := h pair.1 pair.2 hgiven hkey
    exact ⟨(pair.1, stored),
      writePair_eq_ok_iff.mpr ⟨rfl, (fieldValue_eq_ok_iff hdistinct).mpr hstored⟩⟩

/-- What is written of given values. -/
theorem exists_isPartial (hdistinct : (codec.metadata.fields.map (·.name)).Nodup)
    {pairs : List (String × Json)} {stored : Json} (h : codec.fieldsDocument pairs = .ok stored) :
    ∃ document, stored = .object document ∧ codec.IsPartial pairs document := by
  obtain ⟨written, hwritten, rfl⟩ := fieldsDocument_eq_ok_iff_writePair.mp h
  refine ⟨_, rfl, Members.sorted_ofPairs written, fun name stored => ?_⟩
  -- the last pair of a name counts, so both lists are looked up from their ends
  have hreverse := List.forall₂_reverse_iff.mpr (Except.mapM_eq_ok_iff_forall₂.mp hwritten)
  rw [Members.find?_ofPairs, find?_of_forall₂ hreverse]
  simp only [find?_reverse_givenPairs, fieldValue_eq_ok_iff hdistinct, and_assoc]
  exact exists_and_left

/-! ## Main result -/

/-- The pairs are those of the members, in any order. -/
def ArePairsOf (pairs : List (String × Json)) (members : Members Json) : Prop :=
  ∀ name value, (name, value) ∈ pairs ↔ Members.find? name members = some value

/-- The pairs of an entity that is stored can be written as given values. -/
theorem exists_fieldsDocument_of_isWritable
    (hdistinct : (codec.metadata.fields.map (·.name)).Nodup) {members : Members Json}
    {pairs : List (String × Json)} (hpairs : ArePairsOf pairs members)
    (hwritable : codec.IsWritable members) : ∃ stored, codec.fieldsDocument pairs = .ok stored := by
  refine (exists_fieldsDocument_iff hdistinct).mpr fun name value hpair hkey => ?_
  by_cases hdeclared : ∃ field ∈ codec.metadata.fields, field.name = name
  · obtain ⟨field, hdeclared, rfl⟩ := hdeclared
    obtain ⟨stored, hstored⟩ := hwritable field hdeclared hkey
    rw [valueOf, (hpairs field.name value).mp hpair, Option.getD_some] at hstored
    exact ⟨stored, .declared hdeclared rfl hstored⟩
  · exact ⟨value, .undeclared fun field hmem hname => hdeclared ⟨field, hmem, hname⟩⟩

/-- Under a name that the members have, a partial document has what the stored source has. -/
theorem IsPartial.find?_of_isSource {members document partials : Members Json}
    {pairs : List (String × Json)} (h : codec.IsPartial pairs partials)
    (hsource : codec.IsSource members document) (hpairs : ArePairsOf pairs members)
    {name : String} {value stored : Json} (hvalue : Members.find? name members = some value)
    (hstored : Members.find? name document = some stored) :
    Members.find? name partials = some stored := by
  obtain ⟨field, hdeclared, hname, hkey, hrewrites, -⟩ :=
    (hsource.find?_eq_some_iff name stored).mp hstored
  obtain ⟨last, hlast⟩ := exists_isLast_iff.mpr ⟨value, (hpairs name value).mpr hvalue⟩
  have hfound : Members.find? name members = some last := (hpairs name last).mp hlast.mem
  rw [valueOf, hfound, Option.getD_some] at hrewrites
  exact (h.find?_eq_some_iff name stored).mpr
    ⟨hkey, last, hlast, .declared hdeclared hname hrewrites⟩

/-- **Given values are written as those of entities.** Where all declared names are different: if an
entity is stored, its pairs are written as given values in any order, and under each name that the
entity has, the stored source has nothing but what is written there. Given values can be written
exactly if each can that is not under the name of the key. They are written under exactly the given
names other than that of the key, where the last value of the name counts, and null and the empty
text are kept. -/
theorem given_values_agree {α : Type} [Entity α]
    (hdistinct : (codec.metadata.fields.map (·.name)).Nodup) :
    (∀ (entity : α) members document pairs, Entity.toJson entity = .object members →
      codec.toWireDocument entity = .ok (.object document) → ArePairsOf pairs members →
        ∃ partials, codec.fieldsDocument pairs = .ok (.object partials) ∧
          ∀ name stored, Members.find? name document = some stored →
            ∀ value, Members.find? name members = some value →
              Members.find? name partials = some stored) ∧
      ∀ pairs,
        ((∃ stored, codec.fieldsDocument pairs = .ok stored) ↔
          ∀ name value, (name, value) ∈ pairs → codec.metadata.keyField ≠ some name →
            ∃ stored, codec.RewritesNamed name value stored) ∧
        ∀ stored, codec.fieldsDocument pairs = .ok stored →
          ∃ partials, stored = .object partials ∧ codec.IsPartial pairs partials ∧
            (∀ name, (∃ value, Members.find? name partials = some value) ↔
              codec.metadata.keyField ≠ some name ∧ ∃ value, (name, value) ∈ pairs) ∧
            ∀ name value, value = .null ∨ value = .string "" →
              codec.metadata.keyField ≠ some name → IsLast pairs name value →
                Members.find? name partials = some value := by
  refine ⟨?_, fun pairs => ⟨exists_fieldsDocument_iff hdistinct, ?_⟩⟩
  · intro entity members document pairs hmembers hdocument hpairs
    obtain ⟨members', document', hmembers', hsame, hwritable, hsource⟩ :=
      (toWireDocument_eq_ok_iff hdistinct).mp hdocument
    obtain rfl : members = members' := Json.object.inj (hmembers.symm.trans hmembers')
    obtain rfl : document = document' := Json.object.inj hsame
    obtain ⟨stored, hstored⟩ := exists_fieldsDocument_of_isWritable hdistinct hpairs hwritable
    obtain ⟨partials, rfl, hpartial⟩ := exists_isPartial hdistinct hstored
    refine ⟨partials, hstored, fun name stored hfind value hvalue => ?_⟩
    exact hpartial.find?_of_isSource hsource hpairs hvalue hfind
  · intro stored hstored
    obtain ⟨partials, rfl, hpartial⟩ := exists_isPartial hdistinct hstored
    refine ⟨partials, rfl, hpartial, fun name => ⟨?_, ?_⟩, ?_⟩
    · rintro ⟨value, hvalue⟩
      obtain ⟨hkey, last, hlast, -⟩ := (hpartial.find?_eq_some_iff name value).mp hvalue
      exact ⟨hkey, last, hlast.mem⟩
    · rintro ⟨hkey, hgiven⟩
      obtain ⟨last, hlast⟩ := exists_isLast_iff.mpr hgiven
      obtain ⟨value, hvalue⟩ :=
        (exists_fieldsDocument_iff hdistinct).mp ⟨_, hstored⟩ name last hlast.mem hkey
      exact ⟨value, (hpartial.find?_eq_some_iff name value).mpr ⟨hkey, last, hlast, hvalue⟩⟩
    · intro name value hempty hkey hlast
      exact (hpartial.find?_eq_some_iff name value).mpr
        ⟨hkey, value, hlast, rewritesNamed_of_empty hempty name⟩

/-- A date and an empty text of an entity with a key, in the other order; and given values with a
name that is not declared and has two values. -/
theorem given_values_agree_reversed :
    let codec : Codec :=
      ⟨{ indexName := "events", keyField := some "eid",
          fields := [{ name := "at", kind := .dateTime },
            { name := "note", strategy := .notEmpty }] }, some "%d.%m.%Y"⟩
    let members : Members Json :=
      [("at", .string "2024-03-01T23:30:00-05:00"), ("eid", .string "e1"), ("note", .string "")]
    (codec.metadata.fields.map (·.name)).Nodup ∧
      codec.toWireDocument (Json.object members) = .ok (.object [("at", .string "02.03.2024")]) ∧
      (∃ partials, codec.fieldsDocument members.reverse = .ok (.object partials) ∧
        Members.find? "at" partials = some (.string "02.03.2024")) ∧
      ∃ partials, codec.fieldsDocument [("x", .null), ("eid", .null), ("x", .string "")] =
          .ok (.object partials) ∧
        Members.find? "x" partials = some (.string "") ∧ Members.find? "eid" partials = none := by
  intro codec members
  have hdistinct : (codec.metadata.fields.map (·.name)).Nodup := by decide
  have hstored : codec.toWireDocument (Json.object members) =
      .ok (.object [("at", .string "02.03.2024")]) := by
    have hoption : (codec.toWireDocument (Json.object members)).toOption =
        some (.object [("at", .string "02.03.2024")]) := by decide +kernel
    exact Except.eq_ok_of_toOption hoption
  have hpairs : ArePairsOf members.reverse members := by
    intro name value
    simp only [members, List.reverse_cons, List.reverse_nil, List.nil_append, List.cons_append,
      List.mem_cons, List.not_mem_nil, Prod.mk.injEq, Members.find?_cons, Members.find?_nil]
    grind
  obtain ⟨hagree, hgiven⟩ := given_values_agree (α := Json) hdistinct
  refine ⟨hdistinct, hstored, ?_, ?_⟩
  · obtain ⟨partials, hpartials, hfind⟩ :=
      hagree (Json.object members) members _ members.reverse rfl hstored hpairs
    exact ⟨partials, hpartials, hfind "at" _ rfl _ rfl⟩
  · obtain ⟨hsucceeds, hwritten⟩ := hgiven [("x", .null), ("eid", .null), ("x", .string "")]
    have hempty : ∀ name value,
        (name, value) ∈ [("x", Json.null), ("eid", .null), ("x", .string "")] →
          value = .null ∨ value = .string "" := by
      intro name value hpair
      simp only [List.mem_cons, Prod.mk.injEq, List.not_mem_nil, or_false] at hpair
      grind
    obtain ⟨stored, hok⟩ := hsucceeds.mpr fun name value hpair _ =>
      ⟨value, rewritesNamed_of_empty (hempty name value hpair) name⟩
    obtain ⟨partials, rfl, -, hnames, hkept⟩ := hwritten stored hok
    refine ⟨partials, hok, ?_, ?_⟩
    · exact hkept "x" _ (.inr rfl) (by decide) ⟨[("x", .null), ("eid", .null)], [], rfl, nofun⟩
    · rw [Option.eq_none_iff_forall_ne_some]
      intro value hvalue
      exact ((hnames "eid").mp ⟨value, hvalue⟩).1 rfl

/-- A declared field that an entity lacks is stored as null, and the pairs of the entity write
nothing under its name. -/
theorem null_of_absent_only_in_source :
    let codec : Codec := ⟨{ indexName := "items", fields := [{ name := "a" }] }, none⟩
    (codec.metadata.fields.map (·.name)).Nodup ∧
      codec.toWireDocument (Json.object []) = .ok (.object [("a", .null)]) ∧
      ∀ pairs, ArePairsOf pairs [] →
        ∃ partials, codec.fieldsDocument pairs = .ok (.object partials) ∧
          Members.find? "a" partials = none := by
  refine ⟨by decide, rfl, fun pairs hpairs => ⟨[], ?_, rfl⟩⟩
  have hnil : pairs = [] := by
    refine List.eq_nil_iff_forall_not_mem.mpr fun pair hpair => ?_
    cases (hpairs pair.1 pair.2).mp hpair
  rw [hnil]
  rfl

end SearchMapper.Codec
