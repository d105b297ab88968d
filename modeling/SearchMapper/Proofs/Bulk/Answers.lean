import SearchMapper.Proofs.Bulk.Reconciled
import SearchMapper.Proofs.Outcome
import SearchMapper.Transport.Http

/-!
# Results and the items that answer them

The backend answers a bulk request with one item for each operation.
`BatchResult.Answers` says that a result is that of an item of the body, read as it stands there:
nothing is known of an item but the value of its first member.
-/

namespace SearchMapper

/-! ## Items of a body -/

/-- What an item of a bulk body tells under a name, in the value of its first member. -/
def Json.outcome? (name : String) (item : Json) : Option Json :=
  (firstMember? item).bind fun member => member.2.member? name

/-- The status that an item tells. -/
def Json.outcomeStatus? (item : Json) : Option UInt16 := (item.outcome? "status").bind Json.status?

/-- The identifier that an item tells. -/
def Json.outcomeId? (item : Json) : Option String := (item.outcome? "_id").bind Json.string?

/-- An item is read as its first member tells. -/
theorem BulkItem.eq_of_ofBody {item : Json} {answer : BulkItem}
    (h : BulkItem.ofBody item = .ok answer) :
    item.outcomeStatus? = some answer.status ∧ answer.id = item.outcomeId? ∧
      answer.error = (item.outcome? "error").map errorReason := by
  unfold BulkItem.ofBody at h
  split at h
  · cases h
  · next name result hfirst =>
    split at h
    · cases h
    · next action haction =>
      split at h
      · cases h
      · next status hstatus =>
        cases h
        have houtcome : ∀ key, item.outcome? key = result.member? key := by
          intro key
          unfold Json.outcome?
          rw [hfirst]
          rfl
        unfold Json.outcomeStatus? Json.outcomeId?
        rw [houtcome, houtcome, houtcome]
        exact ⟨hstatus, rfl, rfl⟩

/-- A body is read item by item. -/
theorem BulkResponse.items_of_ofBody {body : Json} {items : List Json} {response : BulkResponse}
    (hitems : (body.member? "items").bind Json.array? = some items)
    (h : BulkResponse.ofBody body = .ok response) :
    items.mapM BulkItem.ofBody = .ok response.items := by
  unfold BulkResponse.ofBody at h
  rw [hitems] at h
  obtain ⟨answers, hanswers, h⟩ := Except.bind_eq_ok_iff.mp h
  cases h
  exact hanswers

/-! ## Results -/

/-- The result is that of the operation at a position, and the item is what answers it. -/
structure BatchResult.Answers (result : BatchResult) (position : Nat) (item : Json)
    (operation : BulkOperation) : Prop where
  position_eq : result.position = position
  status_eq : item.outcomeStatus? = some result.status
  /-- The identifier is that of the item, or else the one that was sent. -/
  id_eq : result.id = item.outcomeId?.or operation.id?
  /-- A document was created if the item says so and tells of no error. -/
  created_iff : result.created = true ↔
    item.outcomeStatus? = some 201 ∧ item.outcome? "error" = none

theorem BatchResult.answers_ofItem {item : Json} {answer : BulkItem} (position : Nat)
    (operation : BulkOperation) (h : BulkItem.ofBody item = .ok answer) :
    (BatchResult.ofItem position answer operation).Answers position item operation := by
  obtain ⟨hstatus, hid, herror⟩ := BulkItem.eq_of_ofBody h
  refine ⟨rfl, hstatus, ?_, ?_⟩
  · show answer.id.or operation.id? = _
    rw [hid]
  · show answer.isCreated = true ↔ _
    unfold BulkItem.isCreated
    rw [hstatus, herror, Bool.and_eq_true, Option.isNone_iff_eq_none, Option.map_eq_none_iff,
      beq_iff_eq, Option.some.injEq]
    exact And.comm

/-- The results of a summary answer the items of the body and the operations of the request. -/
theorem BulkResponse.exists_answers_of_reconcile {body : Json} {items : List Json}
    {response : BulkResponse} {operations : List BulkOperation} {policy : BatchPolicy}
    {summary : BatchSummary} (hitems : (body.member? "items").bind Json.array? = some items)
    (hresponse : BulkResponse.ofBody body = .ok response)
    (h : response.reconcile operations policy = .ok summary) {i : Nat} {operation : BulkOperation}
    (hoperation : operations[i]? = some operation) :
    ∃ item result, items[i]? = some item ∧ summary.results[i]? = some result ∧
      result.Answers i item operation := by
  obtain ⟨hlength, hread⟩ := Except.getElem?_of_mapM (items_of_ofBody hitems hresponse)
  have hi : i < items.length := by
    have hlt := (List.getElem?_eq_some_iff.mp hoperation).1
    have hcount := (eq_of_reconcile h).1
    omega
  obtain ⟨answer, hanswer, hofBody⟩ := hread i items[i] (List.getElem?_eq_getElem hi)
  refine ⟨items[i], _, List.getElem?_eq_getElem hi,
    getElem?_results_of_reconcile h hanswer hoperation, ?_⟩
  exact BatchResult.answers_ofItem i operation hofBody

/-- Identifiers are assigned by position, where a document was created. -/
theorem BatchSummary.getElem?_assignedIds {summary : BatchSummary} {i : Nat} {result : BatchResult}
    (h : summary.results[i]? = some result) :
    summary.assignedIds[i]? = some (if result.created then result.id else none) := by
  unfold assignedIds
  rw [List.getElem?_map, h]
  rfl

/-! ## Replies -/

namespace Http

/-- A successful reply with a readable text has that body. -/
theorem Reply.json_of_isSuccess {reply : Reply} {body : Json} (operation : String)
    (hsuccess : reply.isSuccess = true) (hbody : Json.parse? reply.text = some body) :
    reply.json operation = .ok body := by
  have htext : reply.success operation = .ok reply.text := if_pos hsuccess
  refine Except.bind_eq_ok_iff.mpr ⟨reply.text, htext, ?_⟩
  simp only [hbody]
  rfl

/-- A successful reply to a bulk request is read from its body. -/
theorem interpret_bulk {reply : Reply} {body : Json} (index : String)
    (operations : List BulkOperation) (hsuccess : reply.isSuccess = true)
    (hbody : Json.parse? reply.text = some body) :
    interpret (.bulk index operations) reply = BulkResponse.ofBody body := by
  show reply.json "Bulk" >>= BulkResponse.ofBody = _
  rw [Reply.json_of_isSuccess "Bulk" hsuccess hbody]
  rfl

/-- A call that gets a reply is answered with what the reply says. -/
theorem Link.send_eq {σ : Type} {link : Link σ} {c : Call} {state : σ} {reply : Reply}
    (h : (link.exchange (request c) state).1 = some reply) :
    (link.transport.send c state).1 = (interpret c reply).mapError .transport := by
  unfold transport
  dsimp only
  generalize link.exchange (request c) state = exchanged at h ⊢
  obtain ⟨reply?, after⟩ := exchanged
  obtain rfl : reply? = some reply := h
  rfl

end Http
end SearchMapper
