import SearchMapper.Proofs.Bulk.Answers
import SearchMapper.Proofs.Bulk.Lines
import SearchMapper.Proofs.Mapper.Execution

/-!
# Batches over HTTP

A batch of entities becomes operations, lines of a request, items of the answer, and results.
`AlignedBatch` says that all of these stand at the positions of the entities, whatever the backend
answers. What an operation holds of its entity is told by `Inserts` and `Updates`, and on which two
lines it is sent by `BulkOperation.SentAs`.
-/

namespace SearchMapper

variable {σ α β : Type} {transport : Transport σ}

/-! ## Lines of operations -/

/-- The two lines that an operation with a document is sent as: one that names the action and the
identifier, if there is one, and one with the document, which an update has under `doc`. -/
inductive BulkOperation.SentAs : BulkOperation → Json → Json → Prop
  | index (document : Json) :
    SentAs (.index none document) (.object [("index", .object [])]) document
  | indexUnder (id : String) (document : Json) :
    SentAs (.index (some id) document) (.object [("index", .object [("_id", .string id)])]) document
  | update (id : String) (document : Json) :
    SentAs (.update id document) (.object [("update", .object [("_id", .string id)])])
      (.object [("doc", document)])

/-- The operation is sent as two lines. -/
def BulkOperation.HasTwoLines (operation : BulkOperation) : Prop :=
  ∃ line source, Http.operationLines operation = [line, source] ∧ operation.SentAs line source

theorem BulkOperation.hasTwoLines_index (id : Option String) (document : Json) :
    (index id document).HasTwoLines := by
  cases id with
  | none => exact ⟨_, _, rfl, .index document⟩
  | some id => exact ⟨_, _, rfl, .indexUnder id document⟩

theorem BulkOperation.hasTwoLines_update (id : String) (document : Json) :
    (update id document).HasTwoLines :=
  ⟨_, _, rfl, .update id document⟩

theorem BulkOperation.HasTwoLines.length_eq {operation : BulkOperation}
    (h : operation.HasTwoLines) : (Http.operationLines operation).length = 2 := by
  obtain ⟨line, source, hlines, -⟩ := h
  rw [hlines]
  rfl

/-! ## Values of steps without calls -/

/-- The step makes no calls, and the value it comes to, if any, is as `P` says. -/
def Yields (P : α → Prop) (calls : List Call) (result : Except MapperError α) : Prop :=
  calls = [] ∧ ∀ a, result = .ok a → P a

variable {P : α → Prop} {Q : β → Prop}

theorem yields_pure {a : α} (h : P a) : (pure a : Operation α).Ensures transport (Yields P) := by
  refine Program.ensures_done ⟨rfl, ?_⟩
  intro _ hok
  cases hok
  exact h

theorem yields_check {result : Except Invalid α} (h : ∀ a, result = .ok a → P a) :
    (Operation.check result).Ensures transport (Yields P) :=
  Program.ensures_done ⟨rfl, fun a hok => h a (Except.mapError_eq_ok_iff.mp hok)⟩

theorem yields_coded {result : Except CodecFault α} (h : ∀ a, result = .ok a → P a) :
    (Operation.coded result).Ensures transport (Yields P) :=
  Program.ensures_done ⟨rfl, fun a hok => h a (Except.mapError_eq_ok_iff.mp hok)⟩

/-- What a step yields, the steps after it may rely on. -/
theorem yields_bind {p : Operation α} {f : α → Operation β} (h : p.Ensures transport (Yields P))
    (hnext : ∀ a, P a → (f a).Ensures transport (Yields Q)) :
    (p >>= f).Ensures transport (Yields Q) := by
  refine h.bind ?_ ?_
  · intro calls e hstep
    exact ⟨hstep.1, nofun⟩
  · intro calls a hstep
    obtain ⟨rfl, hvalue⟩ := hstep
    exact hnext a (hvalue a rfl)

namespace Mapper

variable (mapper : Mapper α)

/-! ## The operation of an entity -/

/-- The identifier is one to insert the entity with: that in its key field if identifiers are
custom, and none if the backend chooses them. -/
structure InsertsWith [Entity α] (entity : α) (id : Option String) : Prop where
  of_custom : mapper.idType = .custom → id.isSome ∧ mapper.codec.identifierOf entity = .ok id
  of_backend : mapper.idType = .backend → id = none
  of_uuid : mapper.idType = .uuid → id.isSome

/-- The operation inserts the entity: it holds its document and an identifier for it. -/
def Inserts [Entity α] (entity : α) (operation : BulkOperation) : Prop :=
  ∃ id document, operation = .index id document ∧
    mapper.codec.toWireDocument entity = .ok document ∧ mapper.InsertsWith entity id

/-- The operation updates the document under the identifier of the entity to its document. -/
def Updates [Entity α] (entity : α) (operation : BulkOperation) : Prop :=
  ∃ id document, operation = .update id document ∧
    mapper.codec.toWireDocument entity = .ok document ∧
    mapper.codec.identifierOf entity = .ok (some id)

variable {mapper}

theorem eq_of_requireId {id id' : String} (h : requireId id = .ok id') : id' = id := by
  unfold requireId at h
  split at h
  · cases h
  · cases h
    rfl

/-- The key of an entity is its identifier as it stands in the key field. -/
theorem yields_keyOf [Entity α] (missing : Invalid) (entity : α) :
    (mapper.keyOf missing entity).Ensures transport
      (Yields fun id => mapper.codec.identifierOf entity = .ok (some id)) := by
  refine yields_bind (yields_coded fun id? h => h) fun id? hid? => ?_
  cases id? with
  | none => exact Program.ensures_done ⟨rfl, nofun⟩
  | some id =>
    refine yields_check fun id' hid' => ?_
    rw [eq_of_requireId hid', hid?]

theorem yields_insertId [Entity α] (entity : α) :
    (mapper.insertId entity).Ensures transport (Yields (mapper.InsertsWith entity)) := by
  unfold insertId
  cases hmode : mapper.idType with
  | backend =>
    refine yields_pure ⟨?_, fun _ => rfl, ?_⟩ <;> rw [hmode] <;> nofun
  | uuid =>
    refine Program.ensures_newId fun id => yields_pure ⟨?_, ?_, fun _ => rfl⟩ <;> rw [hmode] <;>
      nofun
  | custom =>
    refine yields_bind (yields_keyOf _ entity) fun id hid => ?_
    refine yields_pure ⟨fun _ => ⟨rfl, hid⟩, ?_, ?_⟩ <;> rw [hmode] <;> nofun

theorem yields_insertOperation [Entity α] (entity : α) :
    (mapper.insertOperation entity).Ensures transport (Yields (mapper.Inserts entity)) := by
  refine yields_bind (yields_insertId entity) fun id hid => ?_
  refine yields_bind (yields_coded fun document h => h) fun document hdocument => ?_
  exact yields_pure ⟨id, document, rfl, hdocument, hid⟩

theorem yields_updateOperation [Entity α] (entity : α) :
    (mapper.updateOperation entity).Ensures transport (Yields (mapper.Updates entity)) := by
  refine yields_bind (yields_keyOf _ entity) fun id hid => ?_
  refine yields_bind (yields_coded fun document h => h) fun document hdocument => ?_
  exact yields_pure ⟨id, document, rfl, hdocument, hid⟩

/-! ## The operations of a batch -/

variable {make : α → Operation BulkOperation} {Writes : α → BulkOperation → Prop}

/-- The operations of a batch stand at the positions of their entities. -/
theorem yields_operations
    (hmake : ∀ entity, (make entity).Ensures transport (Yields (Writes entity)))
    (entities : List α) :
    (operations make entities).Ensures transport (Yields fun made =>
      made.length = entities.length ∧
        ∀ (i : Nat) (entity : α), entities[i]? = some entity →
          ∃ operation, made[i]? = some operation ∧ Writes entity operation) := by
  induction entities with
  | nil => exact yields_pure ⟨rfl, nofun⟩
  | cons first rest ih =>
    refine yields_bind (hmake first) fun operation hoperation => ?_
    refine yields_bind ih fun made hmade => ?_
    refine yields_pure ⟨congrArg (· + 1) hmade.1, ?_⟩
    intro i entity hentity
    cases i with
    | zero =>
      rw [List.getElem?_cons_zero, Option.some.injEq] at hentity
      subst hentity
      exact ⟨operation, rfl, hoperation⟩
    | succ i =>
      rw [List.getElem?_cons_succ] at hentity
      exact hmade.2 i entity hentity

variable {entities : List α}

/-- Every operation of a batch is that of an entity. -/
theorem exists_entity_of_mem {made : List BulkOperation} (hlength : made.length = entities.length)
    (hwrites : ∀ (i : Nat) (entity : α), entities[i]? = some entity →
      ∃ operation, made[i]? = some operation ∧ Writes entity operation)
    {operation : BulkOperation} (hmem : operation ∈ made) : ∃ entity, Writes entity operation := by
  obtain ⟨i, hi, rfl⟩ := List.getElem_of_mem hmem
  have hi' : i < entities.length := by rwa [← hlength]
  obtain ⟨operation, hget, hwritten⟩ := hwrites i entities[i] (List.getElem?_eq_getElem hi')
  rw [List.getElem?_eq_getElem hi, Option.some.injEq] at hget
  exact ⟨entities[i], hget ▸ hwritten⟩

/-- A batch within the limit is executed once its operations are made. -/
theorem executeEach_of_le (make : α → Operation BulkOperation) (policy : BatchPolicy)
    (hne : entities ≠ [])
    (hsize : ∀ limit, mapper.config.maxBatchSize = some limit → entities.length ≤ limit.toNat) :
    mapper.executeEach entities make policy =
      operations make entities >>= fun made => mapper.execute made policy := by
  have hempty : entities.isEmpty = false := by
    cases entities with
    | nil => exact absurd rfl hne
    | cons entity rest => rfl
  unfold executeEach
  rw [hempty, validateBatchSize_of_le hsize]
  rfl

/-! ## Alignment -/

/-- The run of a batch, answered with `items`, keeps entities, operations, lines, items and
results at the same positions. `Writes` says what operation an entity has. -/
structure AlignedBatch (mapper : Mapper α) (entities : List α) (items : List Json)
    (Writes : α → BulkOperation → Prop) (run : Run σ MapperError BatchSummary) : Prop where
  /-- Another number of items than of entities is an error, once the request was sent. -/
  of_count_ne : items.length ≠ entities.length →
    (∀ summary, run.result ≠ .ok summary) ∧
      (run.calls ≠ [] →
        run.result = .error (.transport (.itemCount items.length entities.length)))
  of_ok : ∀ summary, run.result = .ok summary →
    summary.results.length = entities.length ∧
      ∃ operations, run.calls = [.bulk mapper.indexName operations] ∧
        operations.length = entities.length ∧
          ∀ (i : Nat) (entity : α), entities[i]? = some entity →
            ∃ operation item result, operations[i]? = some operation ∧ items[i]? = some item ∧
              summary.results[i]? = some result ∧ Writes entity operation ∧
              (∃ line source, ((Http.bulkLines operations).drop (2 * i)).take 2 = [line, source] ∧
                operation.SentAs line source) ∧
              result.Answers i item operation

/-- A bulk request that is answered with a readable body has that body for its reply. -/
theorem send_bulk_of_reply {link : Http.Link σ} {index : String}
    {operations : List BulkOperation} {state : σ} {reply : Http.Reply} {body : Json}
    {response : BulkResponse}
    (hreply : (link.exchange (Http.request (.bulk index operations)) state).1 = some reply)
    (hsuccess : reply.isSuccess = true) (hbody : Json.parse? reply.text = some body)
    (hresponse : BulkResponse.ofBody body = .ok response) :
    (link.transport.send (.bulk index operations) state).1 = .ok response := by
  rw [Http.Link.send_eq hreply, Http.interpret_bulk index operations hsuccess hbody, hresponse]
  rfl

/-- Batches of operations with a document each are aligned. -/
theorem alignedBatch_executeEach {link : Http.Link σ} {state : σ} (policy : BatchPolicy)
    (hmake : ∀ entity, (make entity).Ensures link.transport (Yields (Writes entity)))
    (hlines : ∀ entity operation, Writes entity operation → operation.HasTwoLines)
    (hne : entities ≠ [])
    (hsize : ∀ limit, mapper.config.maxBatchSize = some limit → entities.length ≤ limit.toNat)
    {body : Json} {items : List Json} {response : BulkResponse}
    (hitems : (body.member? "items").bind Json.array? = some items)
    (hresponse : BulkResponse.ofBody body = .ok response)
    (hsend : ∀ operations after,
      (link.transport.send (.bulk mapper.indexName operations) after).1 = .ok response) :
    AlignedBatch mapper entities items Writes
      ((mapper.executeEach entities make policy).run link.transport state) := by
  have hread := (Except.getElem?_of_mapM (BulkResponse.items_of_ofBody hitems hresponse)).1
  have hoperations := yields_operations hmake entities state
  rw [executeEach_of_le make policy hne hsize, Program.run_bind]
  generalize (operations make entities).run link.transport state = made at hoperations ⊢
  obtain ⟨result, calls, after⟩ := made
  obtain ⟨hcalls, hvalues⟩ := hoperations
  obtain rfl : calls = [] := hcalls
  cases result with
  | error e => exact ⟨fun _ => ⟨nofun, fun hsent => absurd rfl hsent⟩, nofun⟩
  | ok operations =>
    obtain ⟨hlength, hwrites⟩ := hvalues operations rfl
    have hne' : operations ≠ [] := by
      rintro rfl
      exact hne (List.length_eq_zero_iff.mp hlength.symm)
    rw [← hlength] at hsize
    obtain ⟨hsent, hresult⟩ := run_execute_of_le mapper link.transport policy after hne' hsize
    rw [hsend] at hresult
    refine ⟨?_, ?_⟩
    · intro hcount
      have hmismatch : response.reconcile operations policy =
          .error (.transport (.itemCount items.length entities.length)) := by
        rw [← hread, ← hlength] at hcount ⊢
        exact BulkResponse.reconcile_of_length_ne policy hcount
      have herror := hresult.trans hmismatch
      refine ⟨fun summary hok => ?_, fun _ => herror⟩
      cases herror.symm.trans hok
    · intro summary hok
      have hreconcile : response.reconcile operations policy = .ok summary :=
        hresult.symm.trans hok
      refine ⟨(BulkResponse.length_results_of_reconcile hreconcile).trans hlength, operations,
        hsent, hlength, ?_⟩
      intro i entity hentity
      obtain ⟨operation, hoperation, hwritten⟩ := hwrites i entity hentity
      obtain ⟨item, answer, hitem, hanswer, hanswers⟩ :=
        BulkResponse.exists_answers_of_reconcile hitems hresponse hreconcile hoperation
      have htwo : ∀ other ∈ operations, (Http.operationLines other).length = 2 := by
        intro other hmem
        obtain ⟨entity, hwritten⟩ := exists_entity_of_mem hlength hwrites hmem
        exact (hlines entity other hwritten).length_eq
      obtain ⟨line, source, hpair, hsentAs⟩ := hlines entity operation hwritten
      rw [← Http.take_drop_bulkLines htwo hoperation] at hpair
      exact ⟨operation, item, answer, hoperation, hitem, hanswer, hwritten,
        ⟨line, source, hpair, hsentAs⟩, hanswers⟩

/-- In an aligned batch identifiers are assigned where the item tells that a document was
created, and the result has one. -/
theorem AlignedBatch.assignedIds {items : List Json} {run : Run σ MapperError BatchSummary}
    (haligned : AlignedBatch mapper entities items Writes run) {summary : BatchSummary}
    (hok : run.result = .ok summary) :
    summary.assignedIds.length = entities.length ∧
      ∀ (i : Nat) (item : Json), items[i]? = some item → ∀ id,
        summary.assignedIds[i]? = some (some id) ↔
          item.outcomeStatus? = some 201 ∧ item.outcome? "error" = none ∧
            ∃ result, summary.results[i]? = some result ∧ result.id = some id := by
  obtain ⟨hlength, operations, -, -, hpositions⟩ := haligned.of_ok summary hok
  have hassigned : summary.assignedIds.length = entities.length := by
    unfold BatchSummary.assignedIds
    rw [List.length_map, hlength]
  refine ⟨hassigned, ?_⟩
  intro i item hitem id
  -- there are as many items as entities, or the batch would have failed
  have hi : i < entities.length := by
    by_cases hcount : items.length = entities.length
    · rw [← hcount]
      exact (List.getElem?_eq_some_iff.mp hitem).1
    · exact absurd hok ((haligned.of_count_ne hcount).1 summary)
  obtain ⟨operation, item', result, -, hitem', hresult, -, -, hanswers⟩ :=
    hpositions i entities[i] (List.getElem?_eq_getElem hi)
  obtain rfl : item = item' := Option.some.inj (hitem.symm.trans hitem')
  rw [BatchSummary.getElem?_assignedIds hresult, hresult]
  by_cases hcreated : result.created = true
  · rw [if_pos hcreated]
    obtain ⟨hstatus, herror⟩ := hanswers.created_iff.mp hcreated
    constructor
    · intro h
      exact ⟨hstatus, herror, result, rfl, Option.some.inj h⟩
    · rintro ⟨-, -, result', hresult', hid⟩
      cases hresult'
      rw [hid]
  · rw [if_neg hcreated]
    constructor
    · intro h
      cases h
    · rintro ⟨hstatus, herror, -⟩
      exact absurd (hanswers.created_iff.mpr ⟨hstatus, herror⟩) hcreated

/-! ## Main result -/

/-- **Batches keep their order through every layer.** For a batch within the limit, and any
reply of status 2xx whose body is readable: the operation at a position, and the two lines it is
sent as, hold the document of the entity there, under the identifier chosen for it; the result
there tells the status and the identifier of the item there, or else the identifier that was
sent; and identifiers are assigned where the item tells that a document was created. A reply with
another number of items is an error. -/
theorem batches_aligned [Entity α] (mapper : Mapper α) (link : Http.Link σ) (state : σ)
    (entities : List α) (hne : entities ≠ [])
    (hsize : ∀ limit, mapper.config.maxBatchSize = some limit → entities.length ≤ limit.toNat)
    {reply : Http.Reply} {body : Json} {items : List Json} {response : BulkResponse}
    (hreply : ∀ operations after,
      (link.exchange (Http.request (.bulk mapper.indexName operations)) after).1 = some reply)
    (hsuccess : reply.isSuccess = true) (hbody : Json.parse? reply.text = some body)
    (hitems : (body.member? "items").bind Json.array? = some items)
    (hresponse : BulkResponse.ofBody body = .ok response) :
    let inserted := (mapper.insertBatch entities).run link.transport state
    let updated := (mapper.updateBatchById entities).run link.transport state
    AlignedBatch mapper entities items mapper.Inserts inserted ∧
      AlignedBatch mapper entities items mapper.Updates updated ∧
      ∀ summary, inserted.result = .ok summary →
        summary.assignedIds.length = entities.length ∧
          ∀ (i : Nat) (item : Json), items[i]? = some item → ∀ id,
            summary.assignedIds[i]? = some (some id) ↔
              item.outcomeStatus? = some 201 ∧ item.outcome? "error" = none ∧
                ∃ result, summary.results[i]? = some result ∧ result.id = some id := by
  have hsend : ∀ operations after,
      (link.transport.send (.bulk mapper.indexName operations) after).1 = .ok response :=
    fun operations after => send_bulk_of_reply (hreply operations after) hsuccess hbody hresponse
  have hinserted : AlignedBatch mapper entities items mapper.Inserts
      ((mapper.insertBatch entities).run link.transport state) := by
    refine alignedBatch_executeEach .failFast yields_insertOperation ?_ hne hsize hitems hresponse
      hsend
    rintro entity operation ⟨id, document, rfl, -⟩
    exact BulkOperation.hasTwoLines_index id document
  refine ⟨hinserted, ?_, ?_⟩
  · refine alignedBatch_executeEach .tally yields_updateOperation ?_ hne hsize hitems hresponse
      hsend
    rintro entity operation ⟨id, document, rfl, -⟩
    exact BulkOperation.hasTwoLines_update id document
  · intro summary hok
    exact hinserted.assignedIds hok

/-- Two entities, of which one was created and one replaced a document. -/
theorem batches_aligned_created_and_replaced :
    let people : Mapper Json :=
      ⟨{ indexName := "people", keyField := some "id", idType := some .custom
         fields := [{ name := "name" }] }, {}⟩
    let person (id name : String) : Json := .object [("id", .string id), ("name", .string name)]
    let item (members : List (String × Json)) : Json := .single "index" (.object members)
    let items : List Json := [item [("_id", .string "7"), ("status", .uint64 201)],
      item [("status", .uint64 200)]]
    let reply : Http.Reply :=
      { status := 200, text := (Json.single "items" (.array items)).compact }
    let link : Http.Link Unit :=
      { exchange := fun _ state => (some reply, state), newId := fun state => ("", state) }
    let entities := [person "7" "Ada", person "8" "Bo"]
    let run := (people.insertBatch entities).run link.transport ()
    AlignedBatch people entities items people.Inserts run ∧
      run.result.toOption.map BatchSummary.assignedIds = some [some "7", none] := by
  intro people person item items reply link entities run
  have hparsed : Json.parse? reply.text = some (.single "items" (.array items)) := by
    simp only [reply, items, item]
    decide +kernel
  have hresponse : BulkResponse.ofBody (.single "items" (.array items)) =
      .ok { tookMs := 0, errors := false, items := [⟨.index, some "7", 201, none⟩,
        ⟨.index, none, 200, none⟩] } := rfl
  have hsize : ∀ limit, people.config.maxBatchSize = some limit →
      entities.length ≤ limit.toNat := by
    intro limit hlimit
    cases hlimit
    decide
  have haligned := batches_aligned people link () entities nofun hsize
    (fun _ _ => rfl) rfl hparsed rfl hresponse
  refine ⟨haligned.1, ?_⟩
  simp only [run, entities, link, reply, items, item, person, people]
  decide +kernel

end Mapper
end SearchMapper
