import SearchMapper.Proofs.Bulk.Answers
import SearchMapper.Proofs.Json.Ordered

/-!
# Bodies that are read as a whole

What the items of a bulk body and the hits of a search body have to be, said without the readers. A
body is read exactly if all of its elements are as they have to be. Then the elements are read in
their order, each from itself alone; otherwise the reading fails with what is wrong with the first
element that is not as it has to be.
-/

namespace SearchMapper

/-! ## Items of a bulk body -/

/-- The member of an object whose name comes before all others. -/
structure Json.IsFirst (item : Json) (name : String) (told : Json) : Prop where
  member : item.member? name = some told
  least : ∀ other value, item.member? other = some value → name ≤ other

/-- The names that answers have for actions. -/
def BulkAction.answerNames : List String := ["index", "create", "update", "delete"]

/-- The name stands for the action in an answer. -/
inductive BulkAction.IsNamed : BulkAction → String → Prop where
  | own (action : BulkAction) : IsNamed action action.name
  /-- Creating a document is one way of indexing it. -/
  | create : IsNamed .index "create"

/-- The value has the number as its status. -/
def Json.HasStatus (told : Json) (status : Nat) : Prop :=
  status ≤ 65535 ∧ (told.member? "status").bind Json.int64? = some (status : Int)

/-- An item is an object that is not empty; its first member is named after an action and has a
status. -/
def Json.IsItem (item : Json) : Prop :=
  ∃ name told status, item.IsFirst name told ∧ name ∈ BulkAction.answerNames ∧
    told.HasStatus status

/-- The answer is what the first member of the item says. -/
def BulkItem.IsSaidBy (answer : BulkItem) (item : Json) : Prop :=
  ∃ name told, item.IsFirst name told ∧ answer.action.IsNamed name ∧
    told.HasStatus answer.status.toNat ∧ answer.id = (told.member? "_id").bind Json.string? ∧
    answer.error = (told.member? "error").map errorReason

/-- What is wrong with an item. -/
inductive Json.ItemFault (item : Json) : TransportFault → Prop where
  | malformed (hnone : ∀ name told, ¬ item.IsFirst name told) : ItemFault item (.malformedItem item)
  | unknown {name : String} {told : Json} (hfirst : item.IsFirst name told)
      (hname : name ∉ BulkAction.answerNames) : ItemFault item (.unknownAction name)
  | withoutStatus {name : String} {told : Json} (hfirst : item.IsFirst name told)
      (hname : name ∈ BulkAction.answerNames)
      (hstatus : ∀ status, ¬ told.HasStatus status) : ItemFault item (.itemWithoutStatus item)

/-- What is wrong with a bulk body: it has no items, or else what is wrong with the first item that
is not as it has to be. -/
inductive Json.BulkFault (body : Json) : TransportFault → Prop where
  | withoutItems (hnone : ∀ items, body.member? "items" ≠ some (.array items)) :
      BulkFault body .bulkWithoutItems
  | item {before after : List Json} {item : Json} {fault : TransportFault}
      (hitems : body.member? "items" = some (.array (before ++ item :: after)))
      (hbefore : ∀ earlier ∈ before, earlier.IsItem) (hitem : item.ItemFault fault) :
      BulkFault body fault

/-- The first member of an object with sorted members is the one that stands first. -/
theorem firstMember?_eq_some_iff {item : Json} (hitem : item.Ordered) {name : String}
    {told : Json} : firstMember? item = some (name, told) ↔ item.IsFirst name told := by
  cases hitem with
  | @object members hsorted hmembers =>
    cases members with
    | nil =>
      constructor
      · nofun
      · rintro ⟨⟨⟩, -⟩
    | cons head rest =>
      obtain ⟨key, value⟩ := head
      -- all names but that of the head come after it
      obtain ⟨hlt, -⟩ := Members.sorted_cons.mp hsorted
      have hkey : (Json.object ((key, value) :: rest)).member? key = some value := if_pos rfl
      have hother : ∀ {other found}, other ≠ key →
          (Json.object ((key, value) :: rest)).member? other = some found → key < other := by
        intro other found hne hfound
        have hrest : Members.find? other rest = some found := (if_neg hne).symm.trans hfound
        exact hlt (other, found) (Members.mem_of_find? hrest)
      constructor
      · rintro ⟨⟩
        refine ⟨hkey, fun other found hfound => ?_⟩
        by_cases hne : other = name
        · exact hne ▸ le_rfl
        · exact (hother hne hfound).le
      · rintro ⟨hmember, hleast⟩
        by_cases hne : name = key
        · subst hne
          rw [hkey] at hmember
          cases hmember
          rfl
        · exact absurd (hother hne hmember) (hleast key value hkey).not_gt
  | _ =>
    constructor
    · nofun
    · rintro ⟨⟨⟩, -⟩

theorem BulkAction.ofName?_eq_some_iff {name : String} {action : BulkAction} :
    ofName? name = some action ↔ action.IsNamed name := by
  constructor
  · intro h
    unfold ofName? at h
    split at h <;> cases h
    · exact .own .index
    · exact .create
    · exact .own .update
    · exact .own .delete
  · rintro (_ | _)
    · cases action <;> rfl
    · rfl

theorem BulkAction.ofName?_eq_none_iff {name : String} :
    ofName? name = none ↔ name ∉ answerNames := by
  unfold ofName? answerNames
  split <;> simp_all

theorem Json.uint64?_eq_some_iff {value : Json} {n : UInt64} :
    value.uint64? = some n ↔ value.int64? = some (n.toNat : Int) := by
  unfold uint64? int64?
  split
  · next m hrange =>
    have hlt := n.toNat_lt
    rw [Option.some.injEq]
    split
    · next hm =>
      obtain ⟨m, rfl⟩ := Int.eq_ofNat_of_zero_le hm
      have hread : (UInt64.ofNat m).toNat = m := by
        rw [UInt64.toNat_ofNat']
        omega
      rw [Option.some.injEq, Int.toNat_natCast, Int.natCast_inj, ← UInt64.toNat_inj, hread]
    · constructor
      · rintro ⟨⟩
      · omega
  · constructor <;> rintro ⟨⟩

theorem Json.status?_eq_some_iff {value : Json} {status : UInt16} :
    value.status? = some status ↔ value.int64? = some (status.toNat : Int) := by
  unfold status?
  rw [Option.bind_eq_some_iff]
  constructor
  · rintro ⟨n, hn, hstatus⟩
    split at hstatus
    · next hfits =>
      -- below 65536 no bits are lost
      cases hstatus
      have hlt : n.toNat < 65536 := hfits
      have hsame : n.toUInt16.toNat = n.toNat := by
        rw [UInt64.toNat_toUInt16]
        omega
      rw [hsame]
      exact uint64?_eq_some_iff.mp hn
    · cases hstatus
  · intro h
    have hsame : status.toUInt64.toNat = status.toNat := status.toNat_toUInt64
    have hfits : status.toUInt64 < 65536 := by
      rw [UInt64.lt_iff_toNat_lt, hsame]
      exact status.toNat_lt
    refine ⟨status.toUInt64, uint64?_eq_some_iff.mpr (hsame.symm ▸ h), ?_⟩
    rw [if_pos hfits, UInt16.toUInt16_toUInt64]

/-- The statuses that are read are the integers that fit into 16 bits. -/
theorem Json.hasStatus_toNat_iff {told : Json} {status : UInt16} :
    told.HasStatus status.toNat ↔ (told.member? "status").bind status? = some status := by
  have hbound : status.toNat ≤ 65535 := Nat.le_of_lt_succ status.toNat_lt
  unfold HasStatus
  rw [and_iff_right hbound]
  cases told.member? "status" with
  | none => exact ⟨nofun, nofun⟩
  | some value => exact status?_eq_some_iff.symm

theorem Json.exists_hasStatus_iff {told : Json} :
    (∃ status, told.HasStatus status) ↔ ∃ status : UInt16, told.HasStatus status.toNat := by
  constructor
  · rintro ⟨status, hstatus⟩
    have hread : (UInt16.ofNat status).toNat = status :=
      UInt16.toNat_ofNat_of_lt (Nat.lt_succ_of_le hstatus.1)
    exact ⟨.ofNat status, hread.symm ▸ hstatus⟩
  · rintro ⟨status, hstatus⟩
    exact ⟨status.toNat, hstatus⟩

theorem BulkAction.exists_isNamed_iff {name : String} :
    (∃ action, IsNamed action name) ↔ name ∈ answerNames := by
  simp only [← ofName?_eq_some_iff, ← Option.isSome_iff_exists]
  rw [← not_iff_not, ← ofName?_eq_none_iff, Option.not_isSome_iff_eq_none]

/-- The items that say answers are those that are as they have to be. -/
theorem BulkItem.exists_isSaidBy_iff {item : Json} :
    (∃ answer : BulkItem, answer.IsSaidBy item) ↔ item.IsItem := by
  constructor
  · rintro ⟨answer, name, told, hfirst, haction, hstatus, -⟩
    exact ⟨name, told, _, hfirst, BulkAction.exists_isNamed_iff.mp ⟨_, haction⟩, hstatus⟩
  · rintro ⟨name, told, status, hfirst, hname, hstatus⟩
    obtain ⟨action, haction⟩ := BulkAction.exists_isNamed_iff.mpr hname
    obtain ⟨read, hread⟩ := Json.exists_hasStatus_iff.mp ⟨status, hstatus⟩
    exact ⟨⟨action, _, read, _⟩, name, told, hfirst, haction, hread, rfl, rfl⟩

/-- With an item that is not as it has to be something is wrong. -/
theorem Json.isItem_or_itemFault (item : Json) : item.IsItem ∨ ∃ fault, item.ItemFault fault := by
  by_cases hfirst : ∃ name told, item.IsFirst name told
  · obtain ⟨name, told, hfirst⟩ := hfirst
    by_cases hname : name ∈ BulkAction.answerNames
    · by_cases hstatus : ∃ status, told.HasStatus status
      · obtain ⟨status, hstatus⟩ := hstatus
        exact .inl ⟨name, told, status, hfirst, hname, hstatus⟩
      · exact .inr ⟨_, .withoutStatus hfirst hname (not_exists.mp hstatus)⟩
    · exact .inr ⟨_, .unknown hfirst hname⟩
  · exact .inr ⟨_, .malformed fun name told h => hfirst ⟨name, told, h⟩⟩

theorem BulkItem.ofBody_of_isSaidBy {item : Json} (hitem : item.Ordered) {answer : BulkItem}
    (h : answer.IsSaidBy item) : ofBody item = .ok answer := by
  obtain ⟨name, told, hfirst, haction, hstatus, hid, herror⟩ := h
  have hmember := (firstMember?_eq_some_iff hitem).mpr hfirst
  have hname := BulkAction.ofName?_eq_some_iff.mpr haction
  have hread := Json.hasStatus_toNat_iff.mp hstatus
  simp only [ofBody, hmember, hname, hread, ← hid, ← herror]

theorem BulkItem.ofBody_of_itemFault {item : Json} (hitem : item.Ordered) {fault : TransportFault}
    (h : item.ItemFault fault) : ofBody item = .error fault := by
  cases h with
  | malformed hnone =>
    have hmember : firstMember? item = none := by
      refine Option.eq_none_iff_forall_ne_some.mpr ?_
      rintro ⟨name, told⟩ hfirst
      exact hnone name told ((firstMember?_eq_some_iff hitem).mp hfirst)
    simp only [ofBody, hmember]
  | unknown hfirst hname =>
    have hmember := (firstMember?_eq_some_iff hitem).mpr hfirst
    have hunknown := BulkAction.ofName?_eq_none_iff.mpr hname
    simp only [ofBody, hmember, hunknown]
  | @withoutStatus name told hfirst hname hnone =>
    have hmember := (firstMember?_eq_some_iff hitem).mpr hfirst
    obtain ⟨action, haction⟩ := BulkAction.exists_isNamed_iff.mpr hname
    have hknown := BulkAction.ofName?_eq_some_iff.mpr haction
    have hstatus : (told.member? "status").bind Json.status? = none := by
      refine Option.eq_none_iff_forall_ne_some.mpr fun read hread => ?_
      exact hnone read.toNat (Json.hasStatus_toNat_iff.mpr hread)
    simp only [ofBody, hmember, hknown, hstatus]

/-- An item is read as the answer that its first member says. -/
theorem BulkItem.ofBody_eq_ok_iff {item : Json} (hitem : item.Ordered) {answer : BulkItem} :
    ofBody item = .ok answer ↔ answer.IsSaidBy item := by
  constructor
  · intro h
    -- an item says an answer or is at fault, and is read accordingly: there is no third way
    rcases item.isItem_or_itemFault with hgood | ⟨fault, hfault⟩
    · obtain ⟨said, hsaid⟩ := exists_isSaidBy_iff.mpr hgood
      rw [ofBody_of_isSaidBy hitem hsaid] at h
      cases h
      exact hsaid
    · rw [ofBody_of_itemFault hitem hfault] at h
      cases h
  · exact ofBody_of_isSaidBy hitem

theorem BulkItem.exists_ofBody_iff {item : Json} (hitem : item.Ordered) :
    (∃ answer, ofBody item = .ok answer) ↔ item.IsItem := by
  simp only [ofBody_eq_ok_iff hitem, exists_isSaidBy_iff]

/-- An item is refused for what is wrong with it. -/
theorem BulkItem.ofBody_eq_error_iff {item : Json} (hitem : item.Ordered)
    {fault : TransportFault} : ofBody item = .error fault ↔ item.ItemFault fault := by
  constructor
  · intro h
    rcases item.isItem_or_itemFault with hgood | ⟨other, hother⟩
    · obtain ⟨said, hsaid⟩ := exists_isSaidBy_iff.mpr hgood
      rw [ofBody_of_isSaidBy hitem hsaid] at h
      cases h
    · rw [ofBody_of_itemFault hitem hother] at h
      cases h
      exact hother
  · exact ofBody_of_itemFault hitem

/-! ## Bulk bodies -/

/-- What a bulk body is read as. -/
structure BulkResponse.ReadsWhole (body : Json) (read : Except MapperError BulkResponse) :
    Prop where
  success : (∃ response, read = .ok response) ↔
    ∃ items, body.member? "items" = some (.array items) ∧ ∀ item ∈ items, item.IsItem
  /-- The answers come from the items one by one. -/
  items : ∀ response items, read = .ok response → body.member? "items" = some (.array items) →
    List.Forall₂ BulkItem.IsSaidBy response.items items
  failure : ∀ error, read = .error error ↔
    ∃ fault, error = .transport fault ∧ body.BulkFault fault

theorem Json.bind_array?_eq_some_iff {value : Option Json} {items : List Json} :
    value.bind array? = some items ↔ value = some (.array items) := by
  cases value with
  | none => exact ⟨nofun, nofun⟩
  | some value => cases value <;> simp [array?]

theorem BulkResponse.ofBody_of_items {body : Json} {items : List Json}
    (hitems : body.member? "items" = some (.array items)) :
    ofBody body = (items.mapM BulkItem.ofBody).map fun answers => {
      tookMs := countOr0 (body.member? "took")
      errors := ((body.member? "errors").bind Json.bool?).getD false
      items := answers } := by
  unfold ofBody
  rw [hitems]
  rfl

theorem BulkResponse.ofBody_of_no_items {body : Json}
    (hnone : ∀ items, body.member? "items" ≠ some (.array items)) :
    ofBody body = .error .bulkWithoutItems := by
  have hitems : (body.member? "items").bind Json.array? = none := by
    refine Option.eq_none_iff_forall_ne_some.mpr fun items hitems => ?_
    exact hnone items (Json.bind_array?_eq_some_iff.mp hitems)
  unfold ofBody
  rw [hitems]

variable {body : Json} {fault : TransportFault}

/-- The items of a body with sorted members have sorted members. -/
theorem Json.Ordered.items {items : List Json} (hbody : body.Ordered) {name : String}
    (hitems : body.member? name = some (.array items)) : ∀ item ∈ items, item.Ordered :=
  ordered_array.mp (hbody.member? hitems)

theorem BulkResponse.exists_ofBody_iff (hbody : body.Ordered) :
    (∃ response, ofBody body = .ok response) ↔
      ∃ items, body.member? "items" = some (.array items) ∧ ∀ item ∈ items, item.IsItem := by
  by_cases hsome : ∃ items, body.member? "items" = some (.array items)
  · obtain ⟨items, hitems⟩ := hsome
    have hread : ∀ item ∈ items, (∃ answer, BulkItem.ofBody item = .ok answer) ↔ item.IsItem :=
      fun item hmem => BulkItem.exists_ofBody_iff (hbody.items hitems item hmem)
    rw [ofBody_of_items hitems, Except.exists_map_eq_ok_iff, Except.exists_mapM_eq_ok_iff,
      forall₂_congr hread]
    constructor
    · exact fun hall => ⟨items, hitems, hall⟩
    · rintro ⟨_, hother, hall⟩
      rw [hitems] at hother
      cases hother
      exact hall
  · rw [ofBody_of_no_items (not_exists.mp hsome)]
    constructor
    · rintro ⟨_, ⟨⟩⟩
    · rintro ⟨items, hitems, -⟩
      exact absurd ⟨items, hitems⟩ hsome

theorem BulkResponse.ofBody_eq_error_iff (hbody : body.Ordered) :
    ofBody body = .error fault ↔ body.BulkFault fault := by
  constructor
  · intro h
    by_cases hsome : ∃ items, body.member? "items" = some (.array items)
    · obtain ⟨items, hitems⟩ := hsome
      have hordered := hbody.items hitems
      rw [ofBody_of_items hitems, Except.map_eq_error_iff, Except.mapM_eq_error_iff] at h
      obtain ⟨before, item, after, rfl, hbefore, hfails⟩ := h
      have hitem := hordered item (List.mem_append_right before List.mem_cons_self)
      refine .item hitems (fun earlier hmem => ?_) ((BulkItem.ofBody_eq_error_iff hitem).mp hfails)
      have hearlier := hordered earlier (List.mem_append_left _ hmem)
      exact (BulkItem.exists_ofBody_iff hearlier).mp (hbefore earlier hmem)
    · rw [ofBody_of_no_items (not_exists.mp hsome)] at h
      cases h
      exact .withoutItems (not_exists.mp hsome)
  · rintro (hnone | @⟨before, after, item, _, hitems, hbefore, hfault⟩)
    · exact ofBody_of_no_items hnone
    · have hordered := hbody.items hitems
      rw [ofBody_of_items hitems, Except.map_eq_error_iff, Except.mapM_eq_error_iff]
      refine ⟨before, item, after, rfl, fun earlier hmem => ?_, ?_⟩
      · have hearlier := hordered earlier (List.mem_append_left _ hmem)
        exact (BulkItem.exists_ofBody_iff hearlier).mpr (hbefore earlier hmem)
      · have hitem := hordered item (List.mem_append_right before List.mem_cons_self)
        exact (BulkItem.ofBody_eq_error_iff hitem).mpr hfault

theorem BulkResponse.readsWhole (hbody : body.Ordered) :
    ReadsWhole body ((ofBody body).mapError .transport) := by
  constructor
  · simp only [Except.mapError_eq_ok_iff]
    exact exists_ofBody_iff hbody
  · intro response items hread hitems
    have hall : items.mapM BulkItem.ofBody = .ok response.items :=
      items_of_ofBody (Json.bind_array?_eq_some_iff.mpr hitems)
        (Except.mapError_eq_ok_iff.mp hread)
    -- each item is one of the body, so its members are sorted
    have hpairs := (List.forall₂_and_left _ _).mpr
      ⟨hbody.items hitems, Except.mapM_eq_ok_iff_forall₂.mp hall⟩
    exact (hpairs.imp fun item answer h => (BulkItem.ofBody_eq_ok_iff h.1).mp h.2).flip
  · intro error
    simp only [Except.mapError_eq_error_iff, ofBody_eq_error_iff hbody]

/-! ## Search bodies -/

/-- A hit has a text for its identifier. -/
def Json.IsHit (hit : Json) : Prop := ∃ id, hit.member? "_id" = some (.string id)

/-- What is found is what the hit says. -/
structure SearchHit.IsSaidBy (found : SearchHit) (hit : Json) : Prop where
  id : hit.member? "_id" = some (.string found.id)
  score : found.score = (hit.member? "_score").bind Json.double?
  source : found.source = (hit.member? "_source").getD .null
  highlight : found.highlight = hit.member? "highlight"

/-- What is wrong with a search body: it has no hits, or else its first hit that has no
identifier. -/
inductive Json.SearchFault (body : Json) : TransportFault → Prop where
  | withoutHits (hnone : body.member? "hits" = none) : SearchFault body .searchWithoutHits
  | hit {hits hit : Json} {before after : List Json} (hhits : body.member? "hits" = some hits)
      (hlist : hits.member? "hits" = some (.array (before ++ hit :: after)))
      (hbefore : ∀ earlier ∈ before, earlier.IsHit) (hhit : ¬ hit.IsHit) :
      SearchFault body (.hitWithoutId hit)

/-- What a search body is read as. -/
structure SearchResponse.ReadsWhole (body : Json) (read : Except MapperError SearchResponse) :
    Prop where
  success : (∃ response, read = .ok response) ↔
    ∃ hits, body.member? "hits" = some hits ∧
      ∀ list, hits.member? "hits" = some (.array list) → ∀ hit ∈ list, hit.IsHit
  /-- The documents that are found come from the hits one by one. -/
  hits : ∀ response hits list, read = .ok response → body.member? "hits" = some hits →
    hits.member? "hits" = some (.array list) →
      List.Forall₂ SearchHit.IsSaidBy response.hits list
  /-- Without a list of hits nothing is found. -/
  no_hits : ∀ response hits, read = .ok response → body.member? "hits" = some hits →
    (∀ list, hits.member? "hits" ≠ some (.array list)) → response.hits = []
  failure : ∀ error, read = .error error ↔
    ∃ fault, error = .transport fault ∧ body.SearchFault fault

theorem Json.bind_string?_eq_some_iff {value : Option Json} {text : String} :
    value.bind string? = some text ↔ value = some (.string text) := by
  cases value with
  | none => exact ⟨nofun, nofun⟩
  | some value => cases value <;> simp [string?]

theorem SearchHit.ofBody_eq_ok_iff {hit : Json} {found : SearchHit} :
    ofBody hit = .ok found ↔ found.IsSaidBy hit := by
  constructor
  · intro h
    unfold ofBody at h
    split at h
    · cases h
    · next id hid =>
      cases h
      exact ⟨Json.bind_string?_eq_some_iff.mp hid, rfl, rfl, rfl⟩
  · rintro ⟨hid, hscore, hsource, hhighlight⟩
    have hread := Json.bind_string?_eq_some_iff.mpr hid
    simp only [ofBody, hread, ← hscore, ← hsource, ← hhighlight]

theorem SearchHit.exists_ofBody_iff {hit : Json} :
    (∃ found, ofBody hit = .ok found) ↔ hit.IsHit := by
  simp only [ofBody_eq_ok_iff]
  constructor
  · rintro ⟨found, hfound⟩
    exact ⟨found.id, hfound.id⟩
  · rintro ⟨id, hid⟩
    exact ⟨⟨id, _, _, _⟩, hid, rfl, rfl, rfl⟩

theorem SearchHit.ofBody_eq_error_iff {hit : Json} :
    ofBody hit = .error fault ↔ ¬ hit.IsHit ∧ fault = .hitWithoutId hit := by
  constructor
  · intro h
    refine ⟨fun hhit => ?_, ?_⟩
    · obtain ⟨found, hfound⟩ := exists_ofBody_iff.mpr hhit
      rw [hfound] at h
      cases h
    · unfold ofBody at h
      split at h
      · cases h
        rfl
      · cases h
  · rintro ⟨hnone, rfl⟩
    have hid : (hit.member? "_id").bind Json.string? = none := by
      refine Option.eq_none_iff_forall_ne_some.mpr fun id hid => ?_
      exact hnone ⟨id, Json.bind_string?_eq_some_iff.mp hid⟩
    simp only [ofBody, hid]

/-- The list of hits, which is empty where there is none. -/
def Json.hitList (hits : Json) : List Json := ((hits.member? "hits").bind array?).getD []

theorem Json.hitList_eq {hits : Json} {list : List Json}
    (h : hits.member? "hits" = some (.array list)) : hits.hitList = list := by
  unfold hitList
  rw [h]
  rfl

theorem Json.hitList_eq_nil {hits : Json}
    (h : ∀ list, hits.member? "hits" ≠ some (.array list)) : hits.hitList = [] := by
  have hnone : (hits.member? "hits").bind array? = none :=
    Option.eq_none_iff_forall_ne_some.mpr fun list hlist =>
      h list (bind_array?_eq_some_iff.mp hlist)
  unfold hitList
  rw [hnone]
  rfl

theorem Json.forall_mem_hitList {hits : Json} {p : Json → Prop} :
    (∀ hit ∈ hits.hitList, p hit) ↔
      ∀ list, hits.member? "hits" = some (.array list) → ∀ hit ∈ list, p hit := by
  constructor
  · intro h list hlist
    rwa [hitList_eq hlist] at h
  · intro h
    by_cases hsome : ∃ list, hits.member? "hits" = some (.array list)
    · obtain ⟨list, hlist⟩ := hsome
      rw [hitList_eq hlist]
      exact h list hlist
    · rw [hitList_eq_nil (not_exists.mp hsome)]
      nofun

theorem SearchResponse.ofBody_of_hits {hits : Json} (hhits : body.member? "hits" = some hits) :
    ofBody body = (hits.hitList.mapM SearchHit.ofBody).map fun found => {
      hits := found
      total := totalOf hits
      tookMs := countOr0 (body.member? "took")
      aggregations := body.member? "aggregations" } := by
  unfold ofBody
  rw [hhits]
  rfl

theorem SearchResponse.ofBody_of_no_hits (hnone : body.member? "hits" = none) :
    ofBody body = .error .searchWithoutHits := by
  unfold ofBody
  rw [hnone]

theorem SearchResponse.exists_ofBody_iff :
    (∃ response, ofBody body = .ok response) ↔
      ∃ hits, body.member? "hits" = some hits ∧
        ∀ list, hits.member? "hits" = some (.array list) → ∀ hit ∈ list, hit.IsHit := by
  cases hhits : body.member? "hits" with
  | none => simp [ofBody_of_no_hits hhits]
  | some hits =>
    rw [ofBody_of_hits hhits, Except.exists_map_eq_ok_iff, Except.exists_mapM_eq_ok_iff]
    simp only [SearchHit.exists_ofBody_iff, Json.forall_mem_hitList, Option.some.injEq,
      exists_eq_left']

theorem SearchResponse.ofBody_eq_error_iff :
    ofBody body = .error fault ↔ body.SearchFault fault := by
  constructor
  · intro h
    cases hhits : body.member? "hits" with
    | none =>
      rw [ofBody_of_no_hits hhits] at h
      cases h
      exact .withoutHits hhits
    | some hits =>
      rw [ofBody_of_hits hhits, Except.map_eq_error_iff, Except.mapM_eq_error_iff] at h
      obtain ⟨before, hit, after, hlist, hbefore, hfails⟩ := h
      obtain ⟨hhit, rfl⟩ := SearchHit.ofBody_eq_error_iff.mp hfails
      by_cases hsome : ∃ list, hits.member? "hits" = some (.array list)
      · obtain ⟨list, hmember⟩ := hsome
        rw [Json.hitList_eq hmember] at hlist
        subst hlist
        refine .hit hhits hmember (fun earlier hmem => ?_) hhit
        exact SearchHit.exists_ofBody_iff.mp (hbefore earlier hmem)
      · -- without a list there is no hit that could be at fault
        rw [Json.hitList_eq_nil (not_exists.mp hsome)] at hlist
        cases before <;> cases hlist
  · rintro (hnone | @⟨hits, hit, before, after, hhits, hlist, hbefore, hhit⟩)
    · exact ofBody_of_no_hits hnone
    · rw [ofBody_of_hits hhits, Json.hitList_eq hlist, Except.map_eq_error_iff,
        Except.mapM_eq_error_iff]
      exact ⟨before, hit, after, rfl, fun earlier hmem =>
        SearchHit.exists_ofBody_iff.mpr (hbefore earlier hmem),
        SearchHit.ofBody_eq_error_iff.mpr ⟨hhit, rfl⟩⟩

theorem SearchResponse.readsWhole (body : Json) :
    ReadsWhole body ((ofBody body).mapError .transport) := by
  -- a success comes from the list of hits
  have hread : ∀ response hits, (ofBody body).mapError MapperError.transport = .ok response →
      body.member? "hits" = some hits →
        List.Forall₂ SearchHit.IsSaidBy response.hits hits.hitList := by
    intro response hits hread hhits
    rw [Except.mapError_eq_ok_iff, ofBody_of_hits hhits, Except.map_eq_ok_iff] at hread
    obtain ⟨found, hfound, rfl⟩ := hread
    have hpairs := Except.mapM_eq_ok_iff_forall₂.mp hfound
    exact (hpairs.imp fun hit found h => SearchHit.ofBody_eq_ok_iff.mp h).flip
  constructor
  · simp only [Except.mapError_eq_ok_iff]
    exact exists_ofBody_iff
  · intro response hits list hok hhits hlist
    have hall := hread response hits hok hhits
    rwa [Json.hitList_eq hlist] at hall
  · intro response hits hok hhits hnone
    have hall := hread response hits hok hhits
    rwa [Json.hitList_eq_nil hnone, List.forall₂_nil_right_iff] at hall
  · intro error
    simp only [Except.mapError_eq_error_iff, ofBody_eq_error_iff]

/-! ## Main result -/

/-- **Bodies are read as a whole.** A bulk body is read exactly if it has items and each of them is
as it has to be, a search body exactly if it has hits and each one of a list of hits has an
identifier. What is read comes from the elements one by one and in their order. Otherwise the error
is that of the way to the backend and back for the first element that is not as it has to be. The
first member of an item is the one whose name comes first, so members have to be sorted, as they are
in every body that is read from text. -/
theorem bodies_read_whole {body : Json} (hbody : body.Ordered) :
    BulkResponse.ReadsWhole body ((BulkResponse.ofBody body).mapError .transport) ∧
      SearchResponse.ReadsWhole body ((SearchResponse.ofBody body).mapError .transport) :=
  ⟨BulkResponse.readsWhole hbody, SearchResponse.readsWhole body⟩

/-- A body that is read from text. The second one of its items has no status, and its hit has an
identifier. -/
theorem bodies_read_whole_parsed :
    let created : Json := .single "index" (.single "status" (.uint64 201))
    let deleted : Json := .single "delete" (.single "_id" (.string "7"))
    let hit : Json := .single "_id" (.string "a")
    let body : Json := .ofPairs
      [("items", .array [created, deleted]), ("hits", .single "hits" (.array [hit]))]
    Json.parse? body.compact = some body ∧
      (BulkResponse.ofBody body).mapError MapperError.transport =
        .error (.transport (.itemWithoutStatus deleted)) ∧
      ∃ response, (SearchResponse.ofBody body).mapError MapperError.transport = .ok response ∧
        List.Forall₂ SearchHit.IsSaidBy response.hits [hit] := by
  intro created deleted hit body
  have hparsed : Json.parse? body.compact = some body := by
    simp only [body, hit, deleted, created]
    decide +kernel
  have hordered := Json.ordered_of_parse? hparsed
  obtain ⟨hbulk, hsearch⟩ := bodies_read_whole hordered
  have hmember : body.member? "items" = some (.array [created, deleted]) := rfl
  obtain ⟨hcreated, hlater⟩ := List.forall_mem_cons.mp (hordered.items hmember)
  have hdeleted := hlater deleted List.mem_cons_self
  have hgood : created.IsItem :=
    ⟨"index", _, 201, (firstMember?_eq_some_iff hcreated).mp rfl, by decide, by decide, rfl⟩
  have hfault : deleted.ItemFault (.itemWithoutStatus deleted) := by
    refine .withoutStatus ((firstMember?_eq_some_iff hdeleted).mp rfl) (by decide) ?_
    rintro status ⟨-, ⟨⟩⟩
  have hhits : ∀ list, some (Json.array [hit]) = some (.array list) → ∀ hit ∈ list, hit.IsHit := by
    rintro _ ⟨⟩
    exact List.forall_mem_singleton.mpr ⟨"a", rfl⟩
  obtain ⟨response, hresponse⟩ := hsearch.success.mpr ⟨_, rfl, hhits⟩
  refine ⟨hparsed, (hbulk.failure _).mpr ⟨_, rfl, ?_⟩, response, hresponse, ?_⟩
  · exact @Json.BulkFault.item body [created] [] deleted _ hmember
      (List.forall_mem_singleton.mpr hgood) hfault
  · exact hsearch.hits response _ _ hresponse rfl rfl

end SearchMapper
