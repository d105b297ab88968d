import SearchMapper.Proofs.Bulk.Counts
import SearchMapper.Proofs.Mapper.Writes
import SearchMapper.Proofs.Query.Requests
import SearchMapper.Proofs.Response.Served

/-!
# Operations over HTTP

What operations come to for the replies that they get. `Heeds` says that an operation fails on the
way to the backend and back exactly if some call was not served by its reply, and sends nothing
after that call; every operation of a mapper is made of steps that do. `Reports` says which status
counts as a document that was affected.
-/

namespace SearchMapper

variable {σ α β : Type} {link : Http.Link σ}

/-! ## Heeding replies -/

/-- The result is what the replies allow. -/
structure Heeds (exchanges : List Http.Exchange) (result : Except MapperError α) : Prop where
  /-- It is an error of the way to the backend and back exactly if some call was not served. -/
  fails_iff : (∃ fault, result = .error (.transport fault)) ↔
    ∃ exchange ∈ exchanges, ¬ exchange.IsServed
  /-- Nothing is sent after a call that was not served. -/
  served_before : ∀ exchange ∈ exchanges.dropLast, exchange.IsServed
  /-- A status that is refused is told, with the text of its reply. -/
  tells_refused : ∀ call reply, ⟨call, some reply⟩ ∈ exchanges → reply.Refuses call →
    ∃ operation, result = .error (.transport (.failedStatus operation reply.status reply.text))

/-- Without calls there is no reply to heed, and no error on the way. -/
theorem heeds_nil {result : Except MapperError α}
    (h : ∀ fault, result ≠ .error (.transport fault)) : Heeds [] result := by
  refine ⟨?_, nofun, nofun⟩
  constructor
  · rintro ⟨fault, hfault⟩
    exact absurd hfault (h fault)
  · rintro ⟨exchange, ⟨⟩, -⟩

/-- A program with a value was served by all of its replies. -/
theorem Heeds.isServed_of_ok {exchanges : List Http.Exchange} {a : α}
    (h : Heeds exchanges (.ok a : Except MapperError α)) {exchange : Http.Exchange}
    (hmem : exchange ∈ exchanges) : exchange.IsServed := by
  by_contra hnot
  obtain ⟨fault, ⟨⟩⟩ := h.fails_iff.mpr ⟨exchange, hmem, hnot⟩

/-- An error ends the program, whatever it was to go on with. -/
theorem Heeds.error {exchanges : List Http.Exchange} {e : MapperError}
    (h : Heeds exchanges (.error e : Except MapperError α)) :
    Heeds exchanges (.error e : Except MapperError β) := by
  have hsame : ∀ {e' : MapperError}, (.error e : Except MapperError β) = .error e' ↔
      (.error e : Except MapperError α) = .error e' := by
    intro e'
    constructor <;> rintro ⟨⟩ <;> rfl
  obtain ⟨hfails, hserved, htells⟩ := h
  refine ⟨?_, hserved, ?_⟩
  · simpa only [hsame] using hfails
  · simpa only [hsame] using htells

/-- After calls that were all served, the later ones matter. -/
theorem Heeds.append {first later : List Http.Exchange} {result : Except MapperError α}
    (h : Heeds later result) (hfirst : ∀ exchange ∈ first, exchange.IsServed) :
    Heeds (first ++ later) result := by
  obtain ⟨hfails, hserved, htells⟩ := h
  refine ⟨?_, ?_, ?_⟩
  · rw [hfails]
    constructor
    · rintro ⟨exchange, hmem, hnot⟩
      exact ⟨exchange, List.mem_append_right first hmem, hnot⟩
    · rintro ⟨exchange, hmem, hnot⟩
      rcases List.mem_append.mp hmem with hmem | hmem
      · exact absurd (hfirst exchange hmem) hnot
      · exact ⟨exchange, hmem, hnot⟩
  · intro exchange hmem
    rw [List.dropLast_append] at hmem
    split at hmem
    · -- nothing was exchanged later, so that the last of the first calls is left out
      exact hfirst exchange (List.dropLast_subset first hmem)
    · rcases List.mem_append.mp hmem with hmem | hmem
      · exact hfirst exchange hmem
      · exact hserved exchange hmem
  · intro call reply hmem hrefuses
    rcases List.mem_append.mp hmem with hmem | hmem
    · obtain ⟨reply', hreply, hserves⟩ := hfirst _ hmem
      cases hreply
      exact absurd hserves (Http.Reply.not_serves_of_refuses hrefuses)
    · exact htells call reply hmem hrefuses

variable {p : Operation α} {f : α → Operation β}

/-- Steps in a row heed replies if each of them does. -/
theorem heeds_bind (h : p.EnsuresOver link Heeds) (hnext : ∀ a, (f a).EnsuresOver link Heeds) :
    (p >>= f).EnsuresOver link Heeds := by
  refine h.bind (fun exchanges e hstep => hstep.error) fun exchanges a hstep => ?_
  -- the first step has a value, so all of its calls were served
  exact (hnext a).mono fun later result hrest =>
    hrest.append fun _ hmem => hstep.isServed_of_ok hmem

theorem heeds_of_silent (h : p.Ensures link.transport Silent) : p.EnsuresOver link Heeds := by
  intro state
  obtain ⟨hcalls, hlocal⟩ := h state
  rw [(p.exchanges_eq_nil_iff link state).mpr hcalls]
  exact heeds_nil fun fault hfault => hlocal _ hfault

theorem heeds_pure (a : α) : (pure a : Operation α).EnsuresOver link Heeds :=
  heeds_of_silent (silent_pure a)

/-- After a step without calls it is the other steps that have replies to heed. -/
theorem heeds_silent_bind (h : p.Ensures link.transport Silent)
    (hnext : ∀ a, (f a).EnsuresOver link Heeds) : (p >>= f).EnsuresOver link Heeds :=
  heeds_bind (heeds_of_silent h) hnext

/-- A call that was not served ends the program with a fault, which is that of a status that is
refused. -/
theorem heeds_failed {exchange : Http.Exchange} {fault : TransportFault}
    (hnot : ¬ exchange.IsServed)
    (htells : ∀ call reply, exchange = ⟨call, some reply⟩ → reply.Refuses call →
      ∃ operation, fault = .failedStatus operation reply.status reply.text) :
    Heeds [exchange] (.error (.transport fault) : Except MapperError α) := by
  refine ⟨⟨fun _ => ⟨exchange, List.mem_cons_self, hnot⟩, fun _ => ⟨fault, rfl⟩⟩, nofun, ?_⟩
  intro call reply hmem hrefuses
  obtain ⟨operation, rfl⟩ := htells call reply (List.mem_singleton.mp hmem).symm hrefuses
  exact ⟨operation, rfl⟩

theorem send_of_unreached {c : Call} {state : σ}
    (h : (link.exchange (Http.request c) state).1 = none) :
    (link.transport.send c state).1 = .error (.transport .unreachable) := by
  unfold Http.Link.transport
  dsimp only
  generalize link.exchange (Http.request c) state = exchanged at h ⊢
  obtain ⟨reply?, after⟩ := exchanged
  obtain rfl : reply? = none := h
  rfl

/-- A call heeds its reply, if the program goes on with an answer that fits, and fails for any
other. -/
theorem heeds_call {c : Call} {next : Except MapperError c.Reply → Operation α}
    (herror : ∀ fault, next (.error (.transport fault)) = .fail (.transport fault))
    (hunfit : ∀ answer, ¬ c.Fits answer → ∃ fault, next (.ok answer) = .fail (.transport fault))
    (hfit : ∀ answer, c.Fits answer → (next (.ok answer)).EnsuresOver link Heeds) :
    (Program.call c next).EnsuresOver link Heeds := by
  intro state
  show Heeds (⟨c, (link.exchange (Http.request c) state).1⟩ ::
    (next (link.transport.send c state).1).exchanges link (link.transport.send c state).2)
    ((next (link.transport.send c state).1).run link.transport
      (link.transport.send c state).2).result
  generalize (link.transport.send c state).2 = after
  cases hreply : (link.exchange (Http.request c) state).1 with
  | none =>
    rw [send_of_unreached hreply, herror]
    exact heeds_failed (fun ⟨_, h, _⟩ => nomatch h) (fun _ _ h => nomatch h)
  | some reply =>
    rw [Http.Link.send_eq hreply]
    by_cases hserves : reply.Serves c
    · obtain ⟨answer, hanswer, hfits⟩ := Http.exists_interpret_iff.mpr hserves
      rw [hanswer, ← List.singleton_append]
      exact (hfit answer hfits after).append (List.forall_mem_singleton.mpr ⟨reply, rfl, hserves⟩)
    · -- the reply is not read, or not as an answer to the call
      obtain ⟨fault, hfails, htells⟩ : ∃ fault,
          next ((Http.interpret c reply).mapError .transport) = .fail (.transport fault) ∧
            ∀ operation,
              Http.interpret c reply = .error (.failedStatus operation reply.status reply.text) →
                fault = .failedStatus operation reply.status reply.text := by
        cases hanswer : Http.interpret c reply with
        | error fault => exact ⟨fault, herror fault, fun operation h => Except.error.inj h⟩
        | ok answer =>
          have hmisfit : ¬ c.Fits answer := fun hfits =>
            hserves (Http.exists_interpret_iff.mp ⟨answer, hanswer, hfits⟩)
          obtain ⟨fault, hfault⟩ := hunfit answer hmisfit
          exact ⟨fault, hfault, nofun⟩
      rw [hfails]
      refine heeds_failed ?_ ?_
      · rintro ⟨_, ⟨⟩, h⟩
        exact hserves h
      · rintro _ _ ⟨⟩ hrefuses
        obtain ⟨operation, hrefused⟩ := Http.interpret_of_refuses hrefuses
        exact ⟨operation, htells operation hrefused⟩

theorem heeds_send (c : Call) (hfits : ∀ answer, c.Fits answer) :
    (Operation.send c).EnsuresOver link Heeds :=
  heeds_call (fun _ => rfl) (fun answer h => absurd (hfits answer) h) fun answer _ =>
    heeds_pure answer

theorem heeds_send_pure (c : Call) (outcome : c.Reply → β) (hfits : ∀ answer, c.Fits answer) :
    (Operation.send c >>= fun answer => pure (outcome answer)).EnsuresOver link Heeds :=
  heeds_bind (heeds_send c hfits) fun _ => heeds_pure _

/-! ## Errors without a call -/

/-- What a mapper finds by itself, it finds without a call. -/
theorem silent_lift {transport : Transport σ} {result : Except MapperError α}
    (h : ∀ e, result = .error e → e.IsLocal) :
    (Program.lift result : Operation α).Ensures transport Silent :=
  Program.ensures_done ⟨rfl, h⟩

namespace SearchQuery

variable {query : SearchQuery} {e : MapperError}

theorem isLocal_of_compiled (h : query.compiled = .error e) : e.IsLocal := by
  unfold compiled at h
  split at h
  · cases h
  · cases h
    trivial

theorem isLocal_of_count (h : query.count = .error e) : e.IsLocal := by
  rcases Except.bind_eq_error_iff.mp h with hcompiled | ⟨_, -, h⟩
  · exact isLocal_of_compiled hcompiled
  · cases h

theorem isLocal_of_idsOnly {size : UInt64} (h : query.idsOnly size = .error e) : e.IsLocal := by
  obtain ⟨cause, rfl⟩ := exists_validation_of_idsOnly h
  trivial

theorem isLocal_of_build {size : UInt64} (h : query.build size = .error e) : e.IsLocal := by
  rcases Except.bind_eq_error_iff.mp h with hcompiled | ⟨tree, htree, -⟩
  · exact isLocal_of_compiled hcompiled
  · obtain ⟨_, _, _, _, -, -, -, rfl⟩ :=
      aggregationsBody_eq_error_iff.mp ((build_eq_error_iff htree).mp h)
    trivial

end SearchQuery

/-- An answer with as many items as operations is no error of the way to the backend. -/
theorem BulkResponse.reconcile_ne_transport {response : BulkResponse}
    {operations : List BulkOperation} (h : response.items.length = operations.length)
    (policy : BatchPolicy) (fault : TransportFault) :
    response.reconcile operations policy ≠ .error (.transport fault) := by
  cases policy with
  | tally =>
    rw [reconcile_tally h]
    exact nofun
  | failFast =>
    rw [reconcile_failFast h]
    split
    · exact nofun
    · exact nofun

/-! ## Operations -/

namespace Mapper

variable {mapper : Mapper α}

theorem heeds_execute (operations : List BulkOperation) (policy : BatchPolicy) :
    (mapper.execute operations policy).EnsuresOver link Heeds := by
  unfold execute
  split
  · exact heeds_pure _
  · refine heeds_silent_bind (silent_check _) fun _ => ?_
    refine heeds_call (fun _ => rfl) ?_ ?_
    · intro response hcount
      exact ⟨_, congrArg Program.lift (BulkResponse.reconcile_of_length_ne policy hcount)⟩
    · intro response hcount _
      exact heeds_nil (BulkResponse.reconcile_ne_transport hcount policy)

theorem heeds_executeEach {make : α → Operation BulkOperation}
    (hmake : ∀ entity, (make entity).Ensures link.transport Silent) (entities : List α)
    (policy : BatchPolicy) : (mapper.executeEach entities make policy).EnsuresOver link Heeds := by
  unfold executeEach
  split
  · exact heeds_pure _
  · refine heeds_silent_bind (silent_check _) fun _ => ?_
    refine heeds_silent_bind (silent_operations hmake entities) fun operations => ?_
    exact heeds_execute operations policy

theorem heeds_matchingIds (conditions : Conditions) :
    (mapper.matchingIds conditions).EnsuresOver link Heeds := by
  refine heeds_silent_bind (silent_lift fun _ => SearchQuery.isLocal_of_idsOnly) ?_
  exact fun body => heeds_send_pure _ _ fun _ => trivial

theorem heeds_search (query : SearchQuery) : (mapper.search query).EnsuresOver link Heeds :=
  heeds_silent_bind (silent_lift fun _ => SearchQuery.isLocal_of_build) fun _ =>
    heeds_send _ fun _ => trivial

variable [Entity α]

theorem heeds_selectList (query : SearchQuery) :
    (mapper.selectList query).EnsuresOver link Heeds :=
  heeds_bind (heeds_search query) fun _ => heeds_of_silent (silent_coded _)

/-- What a mapper offers that makes calls. -/
inductive Offers (mapper : Mapper α) : {β : Type} → Operation β → Prop
  | insert (entity : α) : Offers mapper (mapper.insert entity)
  | insertBatch (entities : List α) : Offers mapper (mapper.insertBatch entities)
  | update (set : UpdateSet α) (conditions : Conditions) :
    Offers mapper (mapper.update set conditions)
  | updateById (entity : α) : Offers mapper (mapper.updateById entity)
  | updateBatchById (entities : List α) : Offers mapper (mapper.updateBatchById entities)
  | delete (conditions : Conditions) : Offers mapper (mapper.delete conditions)
  | deleteById (id : String) : Offers mapper (mapper.deleteById id)
  | deleteBatchByIds (ids : List String) : Offers mapper (mapper.deleteBatchByIds ids)
  | search (query : SearchQuery) : Offers mapper (mapper.search query)
  | selectList (query : SearchQuery) : Offers mapper (mapper.selectList query)
  | selectById (id : String) : Offers mapper (mapper.selectById id)
  | selectCount (conditions : Conditions) : Offers mapper (mapper.selectCount conditions)
  | existsIndex (index : String) : Offers mapper (existsIndex index)
  | createIndex (index : String) (body : Json) : Offers mapper (createIndex index body)
  | deleteIndex (index : String) : Offers mapper (deleteIndex index)

/-- All operations heed replies. -/
theorem Offers.heeds {operation : Operation β} (h : mapper.Offers operation) :
    operation.EnsuresOver link Heeds := by
  cases h with
  | insert entity =>
    refine heeds_silent_bind (silent_insertId entity) fun id => ?_
    refine heeds_silent_bind (silent_coded _) fun document => ?_
    exact heeds_send_pure _ _ fun _ => trivial
  | insertBatch entities => exact heeds_executeEach silent_insertOperation entities _
  | update set conditions =>
    refine heeds_silent_bind (silent_coded _) fun document => ?_
    exact heeds_bind (heeds_matchingIds conditions) fun ids => heeds_execute _ _
  | updateById entity =>
    refine heeds_silent_bind (silent_keyOf _ entity) fun id => ?_
    refine heeds_silent_bind (silent_coded _) fun document => ?_
    exact heeds_send_pure _ _ fun _ => trivial
  | updateBatchById entities => exact heeds_executeEach silent_updateOperation entities _
  | delete conditions =>
    exact heeds_bind (heeds_matchingIds conditions) fun ids => heeds_execute _ _
  | deleteById id =>
    refine heeds_silent_bind (silent_check _) fun id => ?_
    exact heeds_send_pure _ _ fun _ => trivial
  | deleteBatchByIds ids =>
    exact heeds_silent_bind (silent_check _) fun _ => heeds_execute _ _
  | search query => exact heeds_search query
  | selectList query => exact heeds_selectList query
  | selectById id =>
    refine heeds_silent_bind (silent_check _) fun id => ?_
    exact heeds_bind (heeds_selectList _) fun _ => heeds_pure _
  | selectCount conditions =>
    refine heeds_silent_bind (silent_lift fun _ => SearchQuery.isLocal_of_count) ?_
    exact fun body => heeds_send_pure _ _ fun _ => trivial
  | existsIndex index => exact heeds_send _ fun _ => trivial
  | createIndex index body => exact heeds_send _ fun _ => trivial
  | deleteIndex index => exact heeds_send _ fun _ => trivial

end Mapper

/-! ## Documents that were affected -/

/-- A write fails before its call, or makes one call, and served by a reply with the status
`counted` it affected one document, with another status none. -/
inductive Reports (counted : UInt16) (exchanges : List Http.Exchange)
    (result : Except MapperError WriteOutcome) : Prop
  | unsent (e : MapperError) (hlocal : e.IsLocal) (hexchanges : exchanges = [])
      (hresult : result = .error e)
  | sent (exchange : Http.Exchange) (hexchanges : exchanges = [exchange])
      (hresult : ∀ reply, exchange.reply? = some reply → reply.Serves exchange.call →
        ∃ id, result = .ok { affected := if reply.status = counted then 1 else 0, id := some id })

theorem reports_of_isLocal {counted : UInt16} (e : MapperError) (he : e.IsLocal) :
    Reports counted [] (.error e) := .unsent e he rfl rfl

/-- After a step without calls, what the program ensures is what its other steps do. -/
theorem ensuresOver_bind_of_silent {Q : List Http.Exchange → Except MapperError β → Prop}
    (h : p.Ensures link.transport Silent)
    (hlocal : ∀ e : MapperError, e.IsLocal → Q [] (.error e))
    (hnext : ∀ a, (f a).EnsuresOver link Q) : (p >>= f).EnsuresOver link Q := by
  have hp : p.EnsuresOver link fun exchanges result =>
      exchanges = [] ∧ ∀ e, result = .error e → e.IsLocal := by
    intro state
    obtain ⟨hcalls, herror⟩ := h state
    exact ⟨(p.exchanges_eq_nil_iff link state).mpr hcalls, herror⟩
  refine hp.bind ?_ ?_
  · rintro exchanges e ⟨rfl, herror⟩
    exact hlocal e (herror e rfl)
  · rintro exchanges a ⟨rfl, -⟩
    exact hnext a

/-- A call is exchanged for a reply, and answered as the reply is read. -/
theorem ensuresOver_send (c : Call) :
    (Operation.send c).EnsuresOver link fun exchanges result =>
      ∃ reply?, exchanges = [⟨c, reply?⟩] ∧ ∀ reply answer, reply? = some reply →
        Http.interpret c reply = .ok answer → result = .ok answer := by
  intro state
  refine ⟨(link.exchange (Http.request c) state).1, rfl, ?_⟩
  intro reply answer hreply hanswer
  show (link.transport.send c state).1 = .ok answer
  rw [Http.Link.send_eq hreply, hanswer]
  rfl

/-- A call whose reply is only read comes to what is read. -/
theorem ensuresOver_send_pure (c : Call) (outcome : c.Reply → β) :
    (Operation.send c >>= fun answer => pure (outcome answer)).EnsuresOver link
      fun exchanges result => ∃ reply?, exchanges = [⟨c, reply?⟩] ∧
        ∀ reply answer, reply? = some reply → Http.interpret c reply = .ok answer →
          result = .ok (outcome answer) := by
  refine (ensuresOver_send c).bind ?_ ?_
  · rintro exchanges e ⟨reply?, rfl, hresult⟩
    refine ⟨reply?, rfl, fun reply answer hreply hanswer => ?_⟩
    cases hresult reply answer hreply hanswer
  · rintro exchanges answer ⟨reply?, rfl, hresult⟩ state
    refine ⟨reply?, rfl, fun reply answer' hreply hanswer => ?_⟩
    rw [Except.ok.inj (hresult reply answer' hreply hanswer)]
    rfl

/-- If every answer to a call is read as `counted` tells, what is read reports so. -/
theorem reports_send {counted : UInt16} (c : Call) (outcome : c.Reply → WriteOutcome)
    (h : ∀ reply answer, Http.interpret c reply = .ok answer → ∃ id,
      outcome answer = { affected := if reply.status = counted then 1 else 0, id := some id }) :
    (Operation.send c >>= fun answer => pure (outcome answer)).EnsuresOver link
      (Reports counted) := by
  refine (ensuresOver_send_pure c outcome).mono ?_
  rintro exchanges result ⟨reply?, rfl, hresult⟩
  refine .sent _ rfl fun reply hreply hserves => ?_
  obtain ⟨answer, hanswer, -⟩ := Http.exists_interpret_iff.mpr hserves
  obtain ⟨id, hid⟩ := h reply answer hanswer
  exact ⟨id, (hresult reply answer hreply hanswer).trans (congrArg Except.ok hid)⟩

/-- The answer read from a body has the status of the reply. -/
theorem Http.Reply.status_of_json_bind {reply : Http.Reply} {operation : String}
    {response : WriteResponse}
    (h : (reply.json operation >>= WriteResponse.ofBody reply.status) = .ok response) :
    response.status = reply.status := by
  obtain ⟨body, -, hbody⟩ := Except.bind_eq_ok_iff.mp h
  exact WriteResponse.eq_of_ofBody hbody

theorem Http.status_of_interpret_deleteDocument {index id : String} {reply : Http.Reply}
    {response : WriteResponse}
    (h : Http.interpret (.deleteDocument index id) reply = .ok response) :
    response.status = reply.status := by
  by_cases h404 : reply.status = 404
  · have hmissing : Http.interpret (.deleteDocument index id) reply = .ok (Http.notFound id) :=
      if_pos h404
    rw [hmissing] at h
    cases h
    exact h404.symm
  · have hread : Http.interpret (.deleteDocument index id) reply =
        reply.json "Delete" >>= WriteResponse.ofBody reply.status := if_neg h404
    rw [hread] at h
    exact Http.Reply.status_of_json_bind h

namespace Mapper

variable {mapper : Mapper α}

theorem reports_insert [Entity α] (entity : α) :
    (mapper.insert entity).EnsuresOver link (Reports 201) := by
  refine ensuresOver_bind_of_silent (silent_insertId entity) reports_of_isLocal fun id => ?_
  refine ensuresOver_bind_of_silent (silent_coded _) reports_of_isLocal fun document => ?_
  refine reports_send _ _ fun reply response hresponse => ⟨response.id, ?_⟩
  rw [Http.Reply.status_of_json_bind hresponse]

theorem reports_updateById [Entity α] (entity : α) :
    (mapper.updateById entity).EnsuresOver link (Reports 200) := by
  refine ensuresOver_bind_of_silent (silent_keyOf _ entity) reports_of_isLocal fun id => ?_
  refine ensuresOver_bind_of_silent (silent_coded _) reports_of_isLocal fun document => ?_
  refine reports_send _ _ fun reply response hresponse => ⟨id, ?_⟩
  rw [Http.Reply.status_of_json_bind hresponse]

theorem reports_deleteById (id : String) :
    (mapper.deleteById id).EnsuresOver link (Reports 200) := by
  refine ensuresOver_bind_of_silent (silent_check _) reports_of_isLocal fun id => ?_
  refine reports_send _ _ fun reply response hresponse => ⟨id, ?_⟩
  rw [Http.status_of_interpret_deleteDocument hresponse]

/-- The deletion of a document is sent for its identifier, and reports that identifier. -/
theorem ensuresOver_deleteById {id : String} (hid : Text.isBlank id = false) :
    (mapper.deleteById id).EnsuresOver link fun exchanges result =>
      ∃ reply?, exchanges = [⟨.deleteDocument mapper.indexName id, reply?⟩] ∧
        ∀ reply, reply? = some reply → reply.status = 404 →
          result = .ok { affected := 0, id := some id } := by
  have hdelete : mapper.deleteById id =
      Operation.send (.deleteDocument mapper.indexName id) >>= fun response =>
        pure { affected := if response.status = 200 then 1 else 0, id := some id } := by
    have hrequire : requireId id = .ok id := by
      unfold requireId
      rw [hid]
      rfl
    unfold deleteById
    rw [hrequire]
    rfl
  rw [hdelete]
  refine (ensuresOver_send_pure _ _).mono ?_
  rintro exchanges result ⟨reply?, rfl, hresult⟩
  refine ⟨reply?, rfl, fun reply hreply h404 => ?_⟩
  exact hresult reply (Http.notFound id) hreply (if_pos h404)

/-- Whether an index exists is told by the status of the reply. -/
theorem ensuresOver_existsIndex (index : String) :
    (existsIndex index).EnsuresOver link fun exchanges result =>
      ∃ reply?, exchanges = [⟨.indexExists index, reply?⟩] ∧
        ∀ reply, reply? = some reply → reply.Succeeds ∨ reply.status = 404 →
          result = .ok (decide (reply.status = 200)) := by
  refine (ensuresOver_send _).mono ?_
  rintro exchanges result ⟨reply?, rfl, hresult⟩
  refine ⟨reply?, rfl, fun reply hreply hserves => hresult reply _ hreply ?_⟩
  exact Http.interpret_indexExists (Http.Reply.serves_indexExists_iff.mpr hserves)

/-! ## Main result -/

/-- **Failed replies are never successes.** Over any link, whatever the replies: an operation of a
mapper fails on the way to the backend and back exactly if some reply does not serve its call, which
is then the last; a status that is refused is told with the text of its reply. An insert that is
served affects a document exactly for the status 201, an update or a deletion by identifier for 200.
A document to delete that is missing is reported with its identifier and none affected, and an
index exists for the status 200 alone, whatever the body. -/
theorem failed_replies_fail [Entity α] (mapper : Mapper α) (link : Http.Link σ) :
    (∀ {β : Type} (operation : Operation β), mapper.Offers operation →
        operation.EnsuresOver link Heeds) ∧
      (∀ entity, (mapper.insert entity).EnsuresOver link (Reports 201)) ∧
      (∀ entity, (mapper.updateById entity).EnsuresOver link (Reports 200)) ∧
      (∀ id, (mapper.deleteById id).EnsuresOver link (Reports 200)) ∧
      (∀ id, Text.isBlank id = false →
        (mapper.deleteById id).EnsuresOver link fun exchanges result =>
          ∃ reply?, exchanges = [⟨.deleteDocument mapper.indexName id, reply?⟩] ∧
            ∀ reply, reply? = some reply → reply.status = 404 →
              result = .ok { affected := 0, id := some id }) ∧
      ∀ index, (existsIndex index).EnsuresOver link fun exchanges result =>
        ∃ reply?, exchanges = [⟨.indexExists index, reply?⟩] ∧
          ∀ reply, reply? = some reply → reply.Succeeds ∨ reply.status = 404 →
            result = .ok (decide (reply.status = 200)) :=
  ⟨fun _ => Offers.heeds, reports_insert, reports_updateById, reports_deleteById,
    fun _ => ensuresOver_deleteById, ensuresOver_existsIndex⟩

/-- A deletion by condition that finds a document and is then refused, and the deletion of a
document that is missing. -/
theorem failed_replies_fail_busy :
    let link : Http.Link (List Http.Reply) :=
      ⟨fun _ replies => (replies.head?, replies.tail), fun replies => ("new", replies)⟩
    let mapper : Mapper Json := ⟨{ indexName := "people" }, {}⟩
    let hits : Json := .single "hits" (.single "hits" (.array [.single "_id" (.string "7")]))
    (∃ operation, ((mapper.delete (.compare .eq "name" (.string "Ada"))).run link.transport
        [⟨200, hits.compact⟩, ⟨503, "busy"⟩]).result =
          .error (.transport (.failedStatus operation 503 "busy"))) ∧
      Text.isBlank "7" = false ∧
      ((mapper.deleteById "7").run link.transport [⟨404, "gone"⟩]).result =
        .ok { affected := 0, id := some "7" } := by
  intro link mapper hits
  have hblank : Text.isBlank "7" = false := by decide +kernel
  obtain ⟨hheeds, -, -, -, hdelete, -⟩ := failed_replies_fail mapper link
  refine ⟨?_, hblank, ?_⟩
  · have hbulk : ⟨.bulk "people" [.delete "7"], some ⟨503, "busy"⟩⟩ ∈
        (mapper.delete (.compare .eq "name" (.string "Ada"))).exchanges link
          [⟨200, hits.compact⟩, ⟨503, "busy"⟩] := by decide +kernel
    refine (hheeds _ (.delete _) _).tells_refused _ _ hbulk ⟨?_, ?_⟩
    · unfold Http.Reply.Succeeds
      decide
    · rintro ⟨-, hmissing⟩
      exact hmissing
  · obtain ⟨reply?, hexchanges, hresult⟩ := hdelete "7" hblank [⟨404, "gone"⟩]
    have hreply : some ⟨404, "gone"⟩ = reply? := congrArg Http.Exchange.reply?
      (List.head_eq_of_cons_eq hexchanges)
    exact hresult _ hreply.symm rfl

end Mapper
end SearchMapper
