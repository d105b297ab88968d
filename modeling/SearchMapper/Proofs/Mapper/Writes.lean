import SearchMapper.Mapper
import SearchMapper.Proofs.Transport.Runs

/-!
# What write operations send

A write by entity or identifier sends at most one request, and a write by condition at most a
search and then a bulk request. Whatever a write refuses on its own account, it refuses before
anything is written: the steps that can refuse make no calls, and they all stand before the
request that writes.
-/

namespace SearchMapper

/-! ## Local errors -/

/-- The error is one that a mapper finds by itself, without the backend. -/
def MapperError.IsLocal : MapperError → Prop
  | validation _ | unsupported _ | serialization _ => True
  | transport _ | batchFailure _ _ => False

variable {σ α β : Type} {transport : Transport σ}

/-! ## Steps that make no calls -/

/-- The step makes no calls, and if it fails, then with a local error. -/
def Silent (calls : List Call) (result : Except MapperError α) : Prop :=
  calls = [] ∧ ∀ e, result = .error e → e.IsLocal

/-- The step makes no calls, and fails with a local error. -/
def Refused (calls : List Call) (result : Except MapperError α) : Prop :=
  calls = [] ∧ ∃ e, result = .error e ∧ e.IsLocal

variable {p : Operation α} {f : α → Operation β}

/-- After a step without calls, what the program ensures is what its other steps do. -/
theorem ensures_bind_of_silent {Q : List Call → Except MapperError β → Prop}
    (h : p.Ensures transport Silent) (hlocal : ∀ e : MapperError, e.IsLocal → Q [] (.error e))
    (hnext : ∀ a, (f a).Ensures transport Q) : (p >>= f).Ensures transport Q := by
  refine h.bind ?_ ?_
  · intro calls e hstep
    obtain ⟨rfl, he⟩ := hstep
    exact hlocal e (he e rfl)
  · intro calls a hstep
    obtain ⟨rfl, -⟩ := hstep
    exact hnext a

theorem silent_of_isLocal (e : MapperError) (he : e.IsLocal) :
    Silent [] (.error e : Except MapperError β) := by
  refine ⟨rfl, ?_⟩
  intro _ h
  cases h
  exact he

/-- Steps without calls in a row make no calls. -/
theorem silent_bind (h : p.Ensures transport Silent)
    (hnext : ∀ a, (f a).Ensures transport Silent) : (p >>= f).Ensures transport Silent :=
  ensures_bind_of_silent h silent_of_isLocal hnext

theorem silent_pure (a : α) : (pure a : Operation α).Ensures transport Silent :=
  Program.ensures_done ⟨rfl, nofun⟩

theorem silent_check (result : Except Invalid α) :
    (Operation.check result).Ensures transport Silent := by
  refine Program.ensures_done ⟨rfl, fun e he => ?_⟩
  cases result with
  | ok a => cases he
  | error cause =>
    cases he
    trivial

theorem silent_coded (result : Except CodecFault α) :
    (Operation.coded result).Ensures transport Silent := by
  refine Program.ensures_done ⟨rfl, fun e he => ?_⟩
  cases result with
  | ok a => cases he
  | error fault =>
    cases he
    trivial

theorem refused_of_isLocal (e : MapperError) (he : e.IsLocal) :
    Refused [] (.error e : Except MapperError β) := ⟨rfl, e, rfl, he⟩

/-- A program whose first step always fails, without calls, is refused. -/
theorem refused_bind (h : p.Ensures transport Refused) : (p >>= f).Ensures transport Refused := by
  refine h.bind ?_ ?_
  · intro calls e hstep
    obtain ⟨rfl, _, ⟨⟩, he⟩ := hstep
    exact refused_of_isLocal e he
  · intro calls a hstep
    obtain ⟨-, _, ⟨⟩, -⟩ := hstep

namespace Mapper

variable {mapper : Mapper α}

/-- Reading the identifier of an entity makes no calls. -/
theorem silent_keyOf [Entity α] (missing : Invalid) (entity : α) :
    (mapper.keyOf missing entity).Ensures transport Silent := by
  refine silent_bind (silent_coded _) fun id? => ?_
  cases id? with
  | some id => exact silent_check _
  | none => exact Program.ensures_done (silent_of_isLocal _ trivial)

/-- Choosing an identifier makes no calls. -/
theorem silent_insertId [Entity α] (entity : α) :
    (mapper.insertId entity).Ensures transport Silent := by
  unfold insertId
  cases mapper.idType with
  | backend => exact silent_pure _
  | uuid => exact Program.ensures_newId fun id => silent_pure _
  | custom => exact silent_bind (silent_keyOf _ entity) fun id => silent_pure _

/-- Making the operation that inserts an entity makes no calls. -/
theorem silent_insertOperation [Entity α] (entity : α) :
    (mapper.insertOperation entity).Ensures transport Silent :=
  silent_bind (silent_insertId entity) fun _ =>
    silent_bind (silent_coded _) fun _ => silent_pure _

/-- Making the operation that updates the document of an entity makes no calls. -/
theorem silent_updateOperation [Entity α] (entity : α) :
    (mapper.updateOperation entity).Ensures transport Silent :=
  silent_bind (silent_keyOf _ entity) fun _ =>
    silent_bind (silent_coded _) fun _ => silent_pure _

variable {make : α → Operation BulkOperation}

/-- Making the operations of a batch makes no calls. -/
theorem silent_operations (hmake : ∀ entity, (make entity).Ensures transport Silent)
    (entities : List α) : (operations make entities).Ensures transport Silent := by
  induction entities with
  | nil => exact silent_pure _
  | cons entity rest ih =>
    exact silent_bind (hmake entity) fun _ => silent_bind ih fun _ => silent_pure _

/-- One entity without an operation refuses the batch, wherever it stands. -/
theorem refused_operations (hmake : ∀ entity, (make entity).Ensures transport Silent)
    {bad : α} (hbad : (make bad).Ensures transport Refused) {entities : List α}
    (hmem : bad ∈ entities) : (operations make entities).Ensures transport Refused := by
  induction entities with
  | nil => cases hmem
  | cons entity rest ih =>
    cases hmem with
    | head => exact refused_bind hbad
    | tail _ hrest =>
      exact ensures_bind_of_silent (hmake entity) refused_of_isLocal fun _ =>
        refused_bind (ih hrest)

end Mapper

/-! ## Requests that write -/

/-- One request at most is sent, none before a local error, and a single bulk request before the
failure of a batch. -/
structure SendsOnce (calls : List Call) (result : Except MapperError α) : Prop where
  length_le_one : calls.length ≤ 1
  eq_nil_of_isLocal : ∀ e, result = .error e → e.IsLocal → calls = []
  eq_bulk_of_batchFailure : ∀ total failed, result = .error (.batchFailure total failed) →
    ∃ index operations, calls = [.bulk index operations]

/-- One request at most is sent, as `SendsOnce` says, and it is a bulk request. -/
def SendsBulk (calls : List Call) (result : Except MapperError α) : Prop :=
  SendsOnce calls result ∧ ∀ c ∈ calls, ∃ index operations, c = .bulk index operations

theorem sendsOnce_of_isLocal (e : MapperError) (he : e.IsLocal) :
    SendsOnce [] (.error e : Except MapperError α) := by
  refine ⟨Nat.zero_le 1, fun _ _ _ => rfl, ?_⟩
  intro total failed h
  cases h
  exact he.elim

theorem sendsOnce_ok (calls : List Call) (h : calls.length ≤ 1) (a : α) :
    SendsOnce calls (.ok a) := ⟨h, nofun, nofun⟩

/-- A program that ends after one request, and then with no local error, sends once. -/
theorem sendsOnce_of_send (hfails : transport.FailsAsTransport) {c : Call}
    {f : c.Reply → Operation β}
    (hnext : ∀ reply, (f reply).Ensures transport fun later result =>
      later = [] ∧ ∀ e, result = .error e → ¬ e.IsLocal ∧
        ∀ total failed, e = .batchFailure total failed →
          ∃ index operations, c = .bulk index operations) :
    (Operation.send c >>= f).Ensures transport fun calls result =>
      SendsOnce calls result ∧ calls = [c] := by
  refine (Operation.ensures_send c).bind ?_ ?_
  · -- the request itself failed
    intro calls e h
    obtain ⟨rfl, state, he⟩ := h
    obtain ⟨fault, rfl⟩ := hfails c state e he.symm
    refine ⟨⟨Nat.le_refl 1, ?_, nofun⟩, rfl⟩
    intro _ h hlocal
    cases h
    exact hlocal.elim
  · intro calls reply h
    obtain ⟨rfl, -⟩ := h
    refine (hnext reply).mono ?_
    intro later result h
    obtain ⟨rfl, hresult⟩ := h
    refine ⟨⟨Nat.le_refl 1, fun e he hlocal => absurd hlocal (hresult e he).1, ?_⟩, rfl⟩
    intro total failed he
    obtain ⟨index, operations, rfl⟩ := (hresult _ he).2 total failed rfl
    exact ⟨index, operations, rfl⟩

/-- A request whose reply is only read sends once. -/
theorem sendsOnce_send_pure (hfails : transport.FailsAsTransport) (c : Call)
    (outcome : c.Reply → β) :
    (Operation.send c >>= fun reply => pure (outcome reply)).Ensures transport SendsOnce := by
  refine (sendsOnce_of_send hfails fun reply => ?_).mono fun _ _ h => h.1
  exact Program.ensures_done ⟨rfl, nofun⟩

/-- A bulk response that does not fit fails as a transport error or as a batch. -/
theorem BulkResponse.not_isLocal_of_reconcile {response : BulkResponse}
    {operations : List BulkOperation} {policy : BatchPolicy} {e : MapperError}
    (h : response.reconcile operations policy = .error e) : ¬ e.IsLocal := by
  rw [reconcile] at h
  split at h
  · cases h
    exact id
  · cases policy with
    | failFast =>
      simp only at h
      split at h
      · cases h
        exact id
      · cases h
    | tally => cases h

namespace Mapper

variable {mapper : Mapper α}

/-- Operations are sent in one bulk request, or not at all. -/
theorem sendsBulk_execute (hfails : transport.FailsAsTransport) (operations : List BulkOperation)
    (policy : BatchPolicy) :
    (mapper.execute operations policy).Ensures transport SendsBulk := by
  unfold execute
  split
  · exact Program.ensures_done ⟨sendsOnce_ok [] (Nat.zero_le 1) _, nofun⟩
  · refine ensures_bind_of_silent (silent_check _) ?_ fun _ => ?_
    · exact fun e he => ⟨sendsOnce_of_isLocal e he, nofun⟩
    · refine (sendsOnce_of_send hfails fun response => ?_).mono ?_
      · refine Program.ensures_done ⟨rfl, fun e he => ⟨?_, fun _ _ _ => ⟨_, _, rfl⟩⟩⟩
        exact BulkResponse.not_isLocal_of_reconcile he
      · intro calls result h
        obtain ⟨honce, rfl⟩ := h
        refine ⟨honce, fun c hc => ?_⟩
        rw [List.mem_singleton] at hc
        exact ⟨_, _, hc⟩

variable {make : α → Operation BulkOperation}

/-- A batch of entities is sent in one bulk request, or not at all. -/
theorem sendsOnce_executeEach (hfails : transport.FailsAsTransport)
    (hmake : ∀ entity, (make entity).Ensures transport Silent) (entities : List α)
    (policy : BatchPolicy) :
    (mapper.executeEach entities make policy).Ensures transport SendsOnce := by
  unfold executeEach
  split
  · exact Program.ensures_done (sendsOnce_ok [] (Nat.zero_le 1) _)
  · refine ensures_bind_of_silent (silent_check _) sendsOnce_of_isLocal fun _ => ?_
    refine ensures_bind_of_silent (silent_operations hmake entities) sendsOnce_of_isLocal
      fun operations => ?_
    exact (sendsBulk_execute hfails operations policy).mono fun _ _ h => h.1

/-- One entity without an operation refuses the batch, before anything is sent. -/
theorem refused_executeEach (hmake : ∀ entity, (make entity).Ensures transport Silent)
    {bad : α} (hbad : (make bad).Ensures transport Refused) {entities : List α}
    (hmem : bad ∈ entities) (policy : BatchPolicy) :
    (mapper.executeEach entities make policy).Ensures transport Refused := by
  have hne : ¬ entities.isEmpty = true := by
    rw [List.isEmpty_iff]
    exact List.ne_nil_of_mem hmem
  rw [executeEach, if_neg hne]
  refine ensures_bind_of_silent (silent_check _) refused_of_isLocal fun _ => ?_
  exact refused_bind (refused_operations hmake hbad hmem)

end Mapper

/-! ## Writes by condition -/

/-- A search at most is sent, and after it a bulk request at most. Before a local error there is
nothing but the search, and before the failure of a batch both. -/
structure SearchesFirst (calls : List Call) (result : Except MapperError α) : Prop where
  eq_search_bulk : calls = [] ∨ (∃ index body, calls = [.search index body]) ∨
    ∃ index body target operations, calls = [.search index body, .bulk target operations]
  eq_search_of_isLocal : ∀ e, result = .error e → e.IsLocal →
    calls = [] ∨ ∃ index body, calls = [.search index body]
  eq_bulk_of_batchFailure : ∀ total failed, result = .error (.batchFailure total failed) →
    ∃ index body target operations, calls = [.search index body, .bulk target operations]

theorem searchesFirst_of_isLocal (e : MapperError) (he : e.IsLocal) :
    SearchesFirst [] (.error e : Except MapperError α) := by
  refine ⟨.inl rfl, fun _ _ _ => .inl rfl, ?_⟩
  intro total failed h
  cases h
  exact he.elim

/-- After a search that failed there is no other request. -/
theorem searchesFirst_of_transport (index : String) (body : Json) (fault : TransportFault) :
    SearchesFirst [.search index body] (.error (.transport fault) : Except MapperError α) :=
  ⟨.inr (.inl ⟨index, body, rfl⟩), fun _ _ _ => .inr ⟨index, body, rfl⟩, nofun⟩

/-- After a search there is a bulk request at most. -/
theorem SendsBulk.searchesFirst {later : List Call} {result : Except MapperError α}
    (h : SendsBulk later result) (index : String) (body : Json) :
    SearchesFirst (.search index body :: later) result := by
  obtain ⟨⟨hlength, hlocal, hbatch⟩, hbulk⟩ := h
  refine ⟨?_, fun e he hisLocal => ?_, fun total failed he => ?_⟩
  · match later, hlength with
    | [], _ => exact .inr (.inl ⟨index, body, rfl⟩)
    | [c], _ =>
      obtain ⟨target, operations, rfl⟩ := hbulk c List.mem_cons_self
      exact .inr (.inr ⟨index, body, target, operations, rfl⟩)
  · obtain rfl := hlocal e he hisLocal
    exact .inr ⟨index, body, rfl⟩
  · obtain ⟨target, operations, rfl⟩ := hbatch total failed he
    exact ⟨index, body, target, operations, rfl⟩

/-- The query for identifiers fails only if its conditions do not compile. -/
theorem SearchQuery.exists_validation_of_idsOnly {query : SearchQuery} {size : UInt64}
    {e : MapperError} (h : query.idsOnly size = .error e) : ∃ cause, e = .validation cause := by
  unfold idsOnly at h
  cases hcompiled : query.compiled with
  | ok tree =>
    rw [hcompiled] at h
    cases h
  | error e' =>
    rw [hcompiled] at h
    cases h
    unfold compiled at hcompiled
    split at hcompiled
    · cases hcompiled
    · cases hcompiled
      exact ⟨_, rfl⟩

namespace Mapper

variable {mapper : Mapper α}

/-- The search for identifiers is not sent if the conditions do not compile, and fails only if
the transport does. -/
theorem ensures_matchingIds (hfails : transport.FailsAsTransport) (conditions : Conditions) :
    (mapper.matchingIds conditions).Ensures transport fun calls result =>
      Refused calls result ∨ ∃ body, calls = [.search mapper.indexName body] ∧
        ∀ e, result = .error e → ∃ fault, e = .transport fault := by
  rw [matchingIds]
  cases hbody : ({ conditions } : SearchQuery).idsOnly mapper.config.defaultSize with
  | error e =>
    obtain ⟨cause, rfl⟩ := SearchQuery.exists_validation_of_idsOnly hbody
    exact Program.ensures_done (.inl ⟨rfl, _, rfl, trivial⟩)
  | ok body =>
    show (Operation.send (.search mapper.indexName body) >>= fun response =>
      (pure response.ids : Operation _)).Ensures transport _
    refine (Operation.ensures_send _).bind ?_ ?_
    · intro calls e h
      obtain ⟨rfl, state, he⟩ := h
      obtain ⟨fault, rfl⟩ := hfails _ state e he.symm
      refine .inr ⟨body, rfl, ?_⟩
      intro _ h
      cases h
      exact ⟨fault, rfl⟩
    · intro calls response h
      obtain ⟨rfl, -⟩ := h
      exact Program.ensures_done (.inr ⟨body, rfl, nofun⟩)

/-- What is written for the identifiers that match is written after the search for them. -/
theorem searchesFirst_matchingIds_bind (hfails : transport.FailsAsTransport)
    (conditions : Conditions) {f : List String → Operation β}
    (hnext : ∀ ids, (f ids).Ensures transport SendsBulk) :
    (mapper.matchingIds conditions >>= f).Ensures transport SearchesFirst := by
  refine (ensures_matchingIds hfails conditions).bind ?_ ?_
  · intro calls e h
    rcases h with ⟨rfl, _, ⟨⟩, he⟩ | ⟨body, rfl, hfault⟩
    · exact searchesFirst_of_isLocal e he
    · obtain ⟨fault, rfl⟩ := hfault e rfl
      exact searchesFirst_of_transport mapper.indexName body fault
  · intro calls ids h
    rcases h with ⟨-, _, ⟨⟩, -⟩ | ⟨body, rfl, -⟩
    exact (hnext ids).mono fun later result h => h.searchesFirst mapper.indexName body

/-! ## The writes -/

/-- A document is sent in one request, once everything that can be refused has been. -/
theorem sendsOnce_insert [Entity α] (hfails : transport.FailsAsTransport) (entity : α) :
    (mapper.insert entity).Ensures transport SendsOnce := by
  refine ensures_bind_of_silent (silent_insertId entity) sendsOnce_of_isLocal fun id => ?_
  refine ensures_bind_of_silent (silent_coded _) sendsOnce_of_isLocal fun document => ?_
  exact sendsOnce_send_pure hfails _ _

theorem sendsOnce_updateById [Entity α] (hfails : transport.FailsAsTransport) (entity : α) :
    (mapper.updateById entity).Ensures transport SendsOnce := by
  refine ensures_bind_of_silent (silent_keyOf _ entity) sendsOnce_of_isLocal fun id => ?_
  refine ensures_bind_of_silent (silent_coded _) sendsOnce_of_isLocal fun document => ?_
  exact sendsOnce_send_pure hfails _ _

theorem sendsOnce_deleteById (hfails : transport.FailsAsTransport) (id : String) :
    (mapper.deleteById id).Ensures transport SendsOnce := by
  refine ensures_bind_of_silent (silent_check _) sendsOnce_of_isLocal fun id => ?_
  exact sendsOnce_send_pure hfails _ _

theorem sendsOnce_deleteBatchByIds (hfails : transport.FailsAsTransport) (ids : List String) :
    (mapper.deleteBatchByIds ids).Ensures transport SendsOnce := by
  refine ensures_bind_of_silent (silent_check _) sendsOnce_of_isLocal fun _ => ?_
  exact (sendsBulk_execute hfails _ _).mono fun _ _ h => h.1

theorem searchesFirst_update [Entity α] (hfails : transport.FailsAsTransport) (set : UpdateSet α)
    (conditions : Conditions) : (mapper.update set conditions).Ensures transport SearchesFirst := by
  refine ensures_bind_of_silent (silent_coded _) searchesFirst_of_isLocal fun document => ?_
  exact searchesFirst_matchingIds_bind hfails conditions fun ids => sendsBulk_execute hfails _ _

theorem searchesFirst_delete (hfails : transport.FailsAsTransport) (conditions : Conditions) :
    (mapper.delete conditions).Ensures transport SearchesFirst :=
  searchesFirst_matchingIds_bind hfails conditions fun _ => sendsBulk_execute hfails _ _

/-- A batch with an entity that cannot be written is refused before anything is sent. -/
theorem refused_of_fails {make : α → Operation BulkOperation}
    (hmake : ∀ entity, (make entity).Ensures transport Silent) {bad : α}
    (hbad : ∀ state, ∃ e, ((make bad).run transport state).result = .error e) :
    (make bad).Ensures transport Refused := by
  intro state
  obtain ⟨hcalls, hlocal⟩ := hmake bad state
  obtain ⟨e, he⟩ := hbad state
  exact ⟨hcalls, e, he, hlocal e he⟩

/-! ## Main result -/

/-- **What writes send, and when they fail.** On a transport that itself fails with transport
errors only, whatever its replies: the writes by entity and identifier send at most one request,
and the writes by condition at most a search and then a bulk request. After a local error
nothing was sent, or nothing but that search, and after the failure of a batch one bulk request
was. An entity for which no operation can be made, wherever it stands in a batch, makes the
batch fail locally with nothing sent. -/
theorem writes_ensure [Entity α] (mapper : Mapper α) (transport : Transport σ)
    (hfails : transport.FailsAsTransport) :
    (∀ entity, (mapper.insert entity).Ensures transport SendsOnce) ∧
      (∀ entities, (mapper.insertBatch entities).Ensures transport SendsOnce) ∧
      (∀ entity, (mapper.updateById entity).Ensures transport SendsOnce) ∧
      (∀ entities, (mapper.updateBatchById entities).Ensures transport SendsOnce) ∧
      (∀ id, (mapper.deleteById id).Ensures transport SendsOnce) ∧
      (∀ ids, (mapper.deleteBatchByIds ids).Ensures transport SendsOnce) ∧
      (∀ set conditions, (mapper.update set conditions).Ensures transport SearchesFirst) ∧
      (∀ conditions, (mapper.delete conditions).Ensures transport SearchesFirst) ∧
      (∀ entities, ∀ bad ∈ entities,
        (∀ state, ∃ e, ((mapper.insertOperation bad).run transport state).result = .error e) →
          (mapper.insertBatch entities).Ensures transport Refused) ∧
      ∀ entities, ∀ bad ∈ entities,
        (∀ state, ∃ e, ((mapper.updateOperation bad).run transport state).result = .error e) →
          (mapper.updateBatchById entities).Ensures transport Refused := by
  refine ⟨sendsOnce_insert hfails, ?_, sendsOnce_updateById hfails, ?_, sendsOnce_deleteById hfails,
    sendsOnce_deleteBatchByIds hfails, searchesFirst_update hfails, searchesFirst_delete hfails,
    ?_, ?_⟩
  · exact fun entities => sendsOnce_executeEach hfails silent_insertOperation entities _
  · exact fun entities => sendsOnce_executeEach hfails silent_updateOperation entities _
  · intro entities bad hmem hbad
    exact refused_executeEach silent_insertOperation
      (refused_of_fails silent_insertOperation hbad) hmem _
  · intro entities bad hmem hbad
    exact refused_executeEach silent_updateOperation
      (refused_of_fails silent_updateOperation hbad) hmem _

/-- A batch under identifiers of the entities, the last of which has none. -/
theorem writes_ensure_without_id :
    Script.transport.FailsAsTransport ∧
      ((⟨{ indexName := "people", keyField := some "id", idType := some .custom }, {}⟩ :
        Mapper Json).insertBatch
          [.object [("id", .string "1")], .object [("name", .string "Ada")]]).Ensures
        Script.transport Refused := by
  refine ⟨Script.failsAsTransport, ?_⟩
  refine (writes_ensure _ Script.transport Script.failsAsTransport).2.2.2.2.2.2.2.2.1 _
    (.object [("name", .string "Ada")]) ?_ fun state =>
      ⟨.validation (.customIdMissing "people"), ?_⟩
  · exact List.mem_cons_of_mem _ List.mem_cons_self
  · rfl

end Mapper
end SearchMapper
