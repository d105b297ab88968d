import SearchMapper.Proofs.Response.Parsed
import SearchMapper.Proofs.Transport.Exchanges

/-!
# Replies that serve a call

What a reply has to be for a call to be answered by it, said without the reading of replies: its
status tells of success, and its body is what the call needs; or the call asks for something that
may be missing, and the reply says that it is. All other replies fail, and one that is refused for
its status is told with its status and text.
-/

namespace SearchMapper

/-! ## What replies have to be -/

/-- What the call asks for may be missing. -/
def Call.MayBeMissing : Call → Prop
  | deleteDocument _ _ | indexExists _ => True
  | _ => False

/-- What the body of a successful reply has to be for the call. -/
def Call.Needs (body : Json) : Call → Prop
  | indexDocument .. | updateDocument .. | deleteDocument .. =>
    ∃ id, body.member? "_id" = some (.string id)
  | bulk _ operations => ∃ items, body.member? "items" = some (.array items) ∧
      (∀ item ∈ items, item.IsItem) ∧ items.length = operations.length
  | search .. => ∃ hits, body.member? "hits" = some hits ∧
      ∀ list, hits.member? "hits" = some (.array list) → ∀ hit ∈ list, hit.IsHit
  | indexExists _ | createIndex .. | deleteIndex _ => True

namespace Http

/-- The status is one of 200 to 299. -/
def Reply.Succeeds (reply : Reply) : Prop := 200 ≤ reply.status.toNat ∧ reply.status.toNat ≤ 299

/-- The call can be answered by the reply. -/
inductive Reply.Serves (reply : Reply) (c : Call) : Prop
  | read {body : Json} (hsuccess : reply.Succeeds) (hbody : Json.parse? reply.text = some body)
      (hneeds : c.Needs body)
  /-- Whether an index exists is told by the status alone. -/
  | unread {index : String} (hsuccess : reply.Succeeds) (hcall : c = .indexExists index)
  | missing (hstatus : reply.status = 404) (hcall : c.MayBeMissing)

/-- The status does not answer the call, whatever the body. -/
def Reply.Refuses (reply : Reply) (c : Call) : Prop :=
  ¬ reply.Succeeds ∧ ¬ (reply.status = 404 ∧ c.MayBeMissing)

/-- The backend was reached, and its reply serves the call. -/
def Exchange.IsServed (exchange : Exchange) : Prop :=
  ∃ reply, exchange.reply? = some reply ∧ reply.Serves exchange.call

theorem Reply.not_serves_of_refuses {reply : Reply} {c : Call} (h : reply.Refuses c) :
    ¬ reply.Serves c := by
  obtain ⟨hstatus, hmissing⟩ := h
  rintro (⟨hsuccess, -, -⟩ | ⟨hsuccess, -⟩ | ⟨h404, hcall⟩)
  · exact hstatus hsuccess
  · exact hstatus hsuccess
  · exact hmissing ⟨h404, hcall⟩

/-! ## Reading replies -/

variable {reply : Reply} {c : Call}

theorem Reply.isSuccess_iff : reply.isSuccess = true ↔ reply.Succeeds := by
  unfold isSuccess Succeeds
  simp only [Bool.and_eq_true, decide_eq_true_eq, UInt16.le_iff_toNat_le, UInt16.lt_iff_toNat_lt]
  exact and_congr_right fun _ => Nat.lt_succ_iff

theorem Reply.success_of_not_succeeds (h : ¬ reply.Succeeds) (operation : String) :
    reply.success operation = .error (.failedStatus operation reply.status reply.text) :=
  if_neg (mt isSuccess_iff.mp h)

theorem Reply.json_of_not_succeeds (h : ¬ reply.Succeeds) (operation : String) :
    reply.json operation = .error (.failedStatus operation reply.status reply.text) := by
  unfold json
  rw [success_of_not_succeeds h]
  rfl

theorem Reply.json_eq_ok_iff {operation : String} {body : Json} :
    reply.json operation = .ok body ↔ reply.Succeeds ∧ Json.parse? reply.text = some body := by
  constructor
  · intro h
    obtain ⟨text, htext, hbody⟩ := Except.bind_eq_ok_iff.mp h
    by_cases hsuccess : reply.Succeeds
    · have hread : reply.success operation = .ok reply.text := if_pos (isSuccess_iff.mpr hsuccess)
      rw [hread] at htext
      cases htext
      split at hbody
      · next found hparse =>
        cases hbody
        exact ⟨hsuccess, hparse⟩
      · cases hbody
    · rw [success_of_not_succeeds hsuccess] at htext
      cases htext
  · rintro ⟨hsuccess, hbody⟩
    exact json_of_isSuccess operation (isSuccess_iff.mpr hsuccess) hbody

end Http

/-- The answer is one to the call: there are as many items as operations. -/
def Call.Fits : (c : Call) → c.Reply → Prop
  | bulk _ operations, response => (BulkResponse.items response).length = operations.length
  | _, _ => True

theorem WriteResponse.exists_ofBody_iff {status : UInt16} {body : Json} :
    (∃ response, ofBody status body = .ok response) ↔
      ∃ id, body.member? "_id" = some (.string id) := by
  simp only [← Json.bind_string?_eq_some_iff]
  unfold ofBody
  split
  · next id hid => exact ⟨fun _ => ⟨id, hid⟩, fun _ => ⟨_, rfl⟩⟩
  · next hnone => simp [hnone]

theorem WriteResponse.eq_of_ofBody {status : UInt16} {body : Json} {response : WriteResponse}
    (h : ofBody status body = .ok response) : response.status = status := by
  unfold ofBody at h
  split at h
  · cases h
    rfl
  · cases h

/-- A bulk body is read as so many answers as it has items. -/
theorem BulkResponse.exists_ofBody_of_length_iff {body : Json} (hbody : body.Ordered) {n : Nat} :
    (∃ response, ofBody body = .ok response ∧ response.items.length = n) ↔
      ∃ items, body.member? "items" = some (.array items) ∧ (∀ item ∈ items, item.IsItem) ∧
        items.length = n := by
  have hlength : ∀ {items response}, body.member? "items" = some (.array items) →
      ofBody body = .ok response → response.items.length = items.length := by
    intro items response hitems hresponse
    have hread := items_of_ofBody (Json.bind_array?_eq_some_iff.mpr hitems) hresponse
    exact (Except.getElem?_of_mapM hread).1
  constructor
  · rintro ⟨response, hresponse, hn⟩
    obtain ⟨items, hitems, hall⟩ := (exists_ofBody_iff hbody).mp ⟨response, hresponse⟩
    exact ⟨items, hitems, hall, (hlength hitems hresponse).symm.trans hn⟩
  · rintro ⟨items, hitems, hall, hn⟩
    obtain ⟨response, hresponse⟩ := (exists_ofBody_iff hbody).mpr ⟨items, hitems, hall⟩
    exact ⟨response, hresponse, (hlength hitems hresponse).trans hn⟩

namespace Http

variable {reply : Reply} {c : Call}

/-- Unless something is missing, the call is served by a body that is as it needs. -/
theorem Reply.serves_iff (hmissing : ¬ (reply.status = 404 ∧ c.MayBeMissing))
    (hbody : ∀ index, c ≠ .indexExists index) :
    reply.Serves c ↔
      reply.Succeeds ∧ ∃ body, Json.parse? reply.text = some body ∧ c.Needs body := by
  constructor
  · rintro (⟨hsuccess, hbody, hneeds⟩ | ⟨-, hcall⟩ | ⟨hstatus, hcall⟩)
    · exact ⟨hsuccess, _, hbody, hneeds⟩
    · exact absurd hcall (hbody _)
    · exact absurd ⟨hstatus, hcall⟩ hmissing
  · rintro ⟨hsuccess, body, hbody, hneeds⟩
    exact .read hsuccess hbody hneeds

theorem Reply.serves_indexExists_iff {index : String} :
    reply.Serves (.indexExists index) ↔ reply.Succeeds ∨ reply.status = 404 := by
  constructor
  · rintro (⟨hsuccess, -, -⟩ | ⟨hsuccess, -⟩ | ⟨hstatus, -⟩)
    · exact .inl hsuccess
    · exact .inl hsuccess
    · exact .inr hstatus
  · rintro (hsuccess | hstatus)
    · exact .unread hsuccess rfl
    · exact .missing hstatus trivial

/-- A call whose answer is read from the body of a successful reply is served if the body can be
read as an answer that fits. -/
theorem exists_json_bind_iff (c : Call) (hmissing : ¬ (reply.status = 404 ∧ c.MayBeMissing))
    (hbody : ∀ index, c ≠ .indexExists index) {operation : String}
    {read : Json → Except TransportFault c.Reply}
    (hread : ∀ body : Json, body.Ordered →
      ((∃ answer, read body = .ok answer ∧ c.Fits answer) ↔ c.Needs body)) :
    (∃ answer, (reply.json operation >>= read) = .ok answer ∧ c.Fits answer) ↔
      reply.Serves c := by
  rw [Reply.serves_iff hmissing hbody]
  constructor
  · rintro ⟨answer, h, hfits⟩
    obtain ⟨body, hjson, hanswer⟩ := Except.bind_eq_ok_iff.mp h
    obtain ⟨hsuccess, hparsed⟩ := Reply.json_eq_ok_iff.mp hjson
    have hordered := Json.ordered_of_parse? hparsed
    exact ⟨hsuccess, body, hparsed, (hread body hordered).mp ⟨answer, hanswer, hfits⟩⟩
  · rintro ⟨hsuccess, body, hparsed, hneeds⟩
    have hordered := Json.ordered_of_parse? hparsed
    obtain ⟨answer, hanswer, hfits⟩ := (hread body hordered).mpr hneeds
    have hjson : reply.json operation = .ok body := Reply.json_eq_ok_iff.mpr ⟨hsuccess, hparsed⟩
    exact ⟨answer, Except.bind_eq_ok_iff.mpr ⟨body, hjson, hanswer⟩, hfits⟩

/-- An index exists if its status is 200, and does not for any other status that is served. -/
theorem interpret_indexExists {index : String} (h : reply.Serves (.indexExists index)) :
    interpret (.indexExists index) reply = .ok (decide (reply.status = 200)) := by
  by_cases hfound : reply.status = 200
  · rw [decide_eq_true hfound]
    exact if_pos hfound
  · rw [decide_eq_false hfound]
    refine (if_neg hfound).trans ?_
    rcases Reply.serves_indexExists_iff.mp h with hsuccess | hstatus
    · have hread : reply.success "Index exists" = .ok reply.text :=
        if_pos (Reply.isSuccess_iff.mpr hsuccess)
      rw [hread]
      split
      · rfl
      · rfl
    · exact if_pos hstatus

/-- A status that is refused is told with the text of the reply. -/
theorem interpret_of_refuses (h : reply.Refuses c) :
    ∃ operation, interpret c reply = .error (.failedStatus operation reply.status reply.text) := by
  obtain ⟨hstatus, hmissing⟩ := h
  have hbind : ∀ {γ : Type} (operation : String) (read : Json → Except TransportFault γ),
      (reply.json operation >>= read) =
        .error (.failedStatus operation reply.status reply.text) := by
    intro γ operation read
    rw [Reply.json_of_not_succeeds hstatus]
    rfl
  cases c with
  | indexDocument index id document => exact ⟨_, hbind "Index" _⟩
  | updateDocument index id document => exact ⟨_, hbind "Update" _⟩
  | deleteDocument index id =>
    have hread : reply.status ≠ 404 := fun h404 => hmissing ⟨h404, trivial⟩
    exact ⟨_, (if_neg hread).trans (hbind "Delete" _)⟩
  | bulk index operations => exact ⟨_, hbind "Bulk" _⟩
  | search index query => exact ⟨_, hbind "Search" _⟩
  | indexExists index =>
    have hfound : reply.status ≠ 200 := by
      intro h200
      refine hstatus ?_
      rw [Reply.Succeeds, h200]
      decide
    have hread : reply.status ≠ 404 := fun h404 => hmissing ⟨h404, trivial⟩
    refine ⟨"Index exists", (if_neg hfound).trans ((if_neg hread).trans ?_)⟩
    rw [Reply.success_of_not_succeeds hstatus]
    rfl
  | createIndex index definition => exact ⟨_, hbind "Create index" _⟩
  | deleteIndex index => exact ⟨_, hbind "Delete index" _⟩

/-- A reply is read as an answer that fits exactly if it serves the call. -/
theorem exists_interpret_iff :
    (∃ answer, interpret c reply = .ok answer ∧ c.Fits answer) ↔ reply.Serves c := by
  -- the answers to all three writes are read alike
  have hwrite : ∀ body : Json,
      (∃ answer, WriteResponse.ofBody reply.status body = .ok answer ∧ True) ↔
        ∃ id, body.member? "_id" = some (.string id) := by
    intro body
    simp only [and_true]
    exact WriteResponse.exists_ofBody_iff
  cases c with
  | indexDocument index id document =>
    exact exists_json_bind_iff (.indexDocument index id document) (fun h => h.2) (fun _ => nofun)
      fun body _ => hwrite body
  | updateDocument index id document =>
    exact exists_json_bind_iff (.updateDocument index id document) (fun h => h.2) (fun _ => nofun)
      fun body _ => hwrite body
  | deleteDocument index id =>
    by_cases h404 : reply.status = 404
    · exact ⟨fun _ => .missing h404 trivial, fun _ => ⟨_, if_pos h404, trivial⟩⟩
    · have hread : interpret (.deleteDocument index id) reply =
          reply.json "Delete" >>= WriteResponse.ofBody reply.status := if_neg h404
      rw [hread]
      exact exists_json_bind_iff (.deleteDocument index id) (fun h => h404 h.1) (fun _ => nofun)
        fun body _ => hwrite body
  | bulk index operations =>
    exact exists_json_bind_iff (.bulk index operations) (fun h => h.2) (fun _ => nofun)
      fun body hbody => BulkResponse.exists_ofBody_of_length_iff hbody
  | search index query =>
    refine exists_json_bind_iff (.search index query) (fun h => h.2) (fun _ => nofun)
      fun body _ => ?_
    simp only [Call.Fits, and_true]
    exact SearchResponse.exists_ofBody_iff
  | indexExists index =>
    constructor
    · rintro ⟨answer, h, -⟩
      -- a status that does not serve is refused
      by_contra hserves
      rw [Reply.serves_indexExists_iff, not_or] at hserves
      obtain ⟨operation, hrefused⟩ := interpret_of_refuses (c := .indexExists index)
        ⟨hserves.1, fun h => hserves.2 h.1⟩
      rw [hrefused] at h
      cases h
    · intro hserves
      exact ⟨_, interpret_indexExists hserves, trivial⟩
  | createIndex index definition =>
    exact exists_json_bind_iff (.createIndex index definition) (fun h => h.2) (fun _ => nofun)
      fun body _ => ⟨fun _ => trivial, fun _ => ⟨_, rfl, trivial⟩⟩
  | deleteIndex index =>
    exact exists_json_bind_iff (.deleteIndex index) (fun h => h.2) (fun _ => nofun)
      fun body _ => ⟨fun _ => trivial, fun _ => ⟨_, rfl, trivial⟩⟩

end Http
end SearchMapper
