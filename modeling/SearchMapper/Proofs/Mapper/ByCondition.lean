import SearchMapper.Proofs.Mapper.Execution
import SearchMapper.Transport.Scripted

/-!
# Writes by condition

An update or a deletion by condition first searches for the documents that match and then writes
them by identifier. `ActsOnHits` says what such a write does for every answer to its search: it
sends one operation for each hit, in the order of the hits, and nothing for any other document.
Both writes are one program with an operation to make for each identifier, so the property is
proved once, of that program.
-/

namespace SearchMapper.Mapper

variable {σ α : Type}

/-! ## What such writes do -/

/-- The search for the documents that a compiled query matches: one page of the configured size,
without sources. -/
def hitSearch (mapper : Mapper α) (tree : BoolQuery) : Call :=
  .search mapper.indexName <| .ofPairs
    [("query", tree.toJson), ("size", .uint64 mapper.config.defaultSize), ("_source", .bool false)]

/-- What a write sends and comes to once its search was answered with `hits`, where `make` tells
the operation for the identifier of a hit and `after` is the state that the search left. -/
structure WritesHits (mapper : Mapper α) (transport : Transport σ) (search : Call) (after : σ)
    (hits : List SearchHit) (make : String → BulkOperation)
    (run : Run σ MapperError BatchSummary) : Prop where
  /-- Without hits nothing more is sent. -/
  of_no_hits : hits = [] → run.result = .ok .empty ∧ run.calls = [search]
  /-- Neither is it if there are more hits than a batch may hold. -/
  of_too_many : ∀ limit, mapper.config.maxBatchSize = some limit → limit.toNat < hits.length →
    run.result = .error (.validation (.batchTooLarge hits.length limit.toNat)) ∧
      run.calls = [search]
  /-- Otherwise one bulk request is sent, with one operation a hit, and its answer counts. -/
  of_hits : hits ≠ [] →
    (∀ limit, mapper.config.maxBatchSize = some limit → hits.length ≤ limit.toNat) →
      let operations := hits.map fun hit => make hit.id
      run.calls = [search, .bulk mapper.indexName operations] ∧
        run.result = (transport.send (.bulk mapper.indexName operations) after).1.bind
          fun response => BulkResponse.reconcile response operations .tally
  /-- A summary has one result a hit, each at the position of its hit. -/
  of_ok : ∀ summary, run.result = .ok summary →
    summary.total = hits.length ∧ summary.results.length = hits.length ∧
      ∀ (i : Nat) (result : BatchResult), summary.results[i]? = some result → result.position = i

/-- The write acts on exactly the hits of its search, which is sent only if the conditions
compile. -/
structure ActsOnHits (mapper : Mapper α) (transport : Transport σ) (conditions : Conditions)
    (make : String → BulkOperation) (write : Operation BatchSummary) : Prop where
  /-- Conditions that do not compile are refused before anything is sent. -/
  of_not_compiled : ∀ fault, conditions.compile none = .error fault → ∀ state,
    (write.run transport state).calls = [] ∧
      (write.run transport state).result = .error (.validation (.conditions fault))
  /-- If the search fails, the write fails with it. -/
  of_search_failed : ∀ tree, conditions.compile none = .ok tree → ∀ state e,
    (transport.send (mapper.hitSearch tree) state).1 = .error e →
      (write.run transport state).calls = [mapper.hitSearch tree] ∧
        (write.run transport state).result = .error e
  /-- If the search is answered, its hits are written. -/
  of_answered : ∀ tree, conditions.compile none = .ok tree →
    ∀ (state : σ) (response : SearchResponse),
      (transport.send (mapper.hitSearch tree) state).1 = .ok response →
        WritesHits mapper transport (mapper.hitSearch tree)
          (transport.send (mapper.hitSearch tree) state).2 response.hits make
          (write.run transport state)

/-! ## Writing the hits -/

variable (mapper : Mapper α) (transport : Transport σ)

/-- A batch of one operation a hit, sent after the search, writes the hits. -/
theorem writesHits_execute (search : Call) (after : σ) (hits : List SearchHit)
    (make : String → BulkOperation) :
    let batch := (mapper.execute (hits.map fun hit => make hit.id) .tally).run transport after
    WritesHits mapper transport search after hits make
      { batch with calls := search :: batch.calls } := by
  have hlength : (hits.map fun hit => make hit.id).length = hits.length := List.length_map _
  have hmap : hits ≠ [] → hits.map (fun hit => make hit.id) ≠ [] := by
    intro hne h
    exact hne (List.map_eq_nil_iff.mp h)
  refine ⟨?_, ?_, ?_, ?_⟩
  · rintro rfl
    rw [List.map_nil, run_execute_nil]
    exact ⟨rfl, rfl⟩
  · intro limit hlimit hsize
    rw [← hlength] at hsize ⊢
    rw [run_execute_of_too_many mapper transport .tally after hlimit hsize]
    exact ⟨rfl, rfl⟩
  · intro hne hsize
    rw [← hlength] at hsize
    obtain ⟨hcalls, hresult⟩ := run_execute_of_le mapper transport .tally after (hmap hne) hsize
    exact ⟨congrArg (search :: ·) hcalls, hresult⟩
  · intro summary hsummary
    by_cases hne : hits = []
    · subst hne
      cases hsummary
      exact ⟨rfl, rfl, nofun⟩
    · obtain ⟨response, -, hreconcile⟩ :=
        exists_response_of_run_execute mapper transport .tally after (hmap hne) hsummary
      have htotal := (BulkResponse.eq_of_reconcile hreconcile).2.1
      have hresults := BulkResponse.length_results_of_reconcile hreconcile
      refine ⟨htotal.trans hlength, hresults.trans hlength, ?_⟩
      intro i result hresult
      exact BulkResponse.position_of_reconcile hreconcile hresult

/-! ## Resolving conditions -/

section
variable {conditions : Conditions} (state : σ)

/-- Conditions that do not compile are not searched for. -/
theorem run_matchingIds_of_not_compiled {fault : CompileFault}
    (h : conditions.compile none = .error fault) :
    (mapper.matchingIds conditions).run transport state =
      { result := .error (.validation (.conditions fault)), calls := [], state } := by
  have hbody : ({ conditions } : SearchQuery).idsOnly mapper.config.defaultSize =
      .error (.validation (.conditions fault)) := by
    unfold SearchQuery.idsOnly SearchQuery.compiled
    rw [h]
    rfl
  show (Program.lift (SearchQuery.idsOnly { conditions } _) >>= _).run transport state = _
  rw [hbody]
  rfl

variable {tree : BoolQuery}

/-- Resolving conditions that compile is one request, which comes to the identifiers of its
hits. -/
theorem matchingIds_of_compiled (h : conditions.compile none = .ok tree) :
    mapper.matchingIds conditions =
      Operation.send (mapper.hitSearch tree) >>= fun response =>
        (pure (SearchResponse.ids response) : Operation (List String)) := by
  have hbody : ({ conditions } : SearchQuery).idsOnly mapper.config.defaultSize =
      .ok (.ofPairs [("query", tree.toJson), ("size", .uint64 mapper.config.defaultSize),
        ("_source", .bool false)]) := by
    unfold SearchQuery.idsOnly SearchQuery.compiled
    rw [h]
    rfl
  show (Program.lift (SearchQuery.idsOnly { conditions } _) >>= _) = _
  rw [hbody]
  rfl

theorem run_matchingIds_of_error {e : MapperError} (h : conditions.compile none = .ok tree)
    (hsearch : (transport.send (mapper.hitSearch tree) state).1 = .error e) :
    (mapper.matchingIds conditions).run transport state =
      { result := .error e
        calls := [mapper.hitSearch tree]
        state := (transport.send (mapper.hitSearch tree) state).2 } := by
  rw [matchingIds_of_compiled mapper h, Operation.run_send_bind_of_error hsearch]

theorem run_matchingIds_of_ok {response : SearchResponse}
    (h : conditions.compile none = .ok tree)
    (hsearch : (transport.send (mapper.hitSearch tree) state).1 = .ok response) :
    (mapper.matchingIds conditions).run transport state =
      { result := .ok response.ids
        calls := [mapper.hitSearch tree]
        state := (transport.send (mapper.hitSearch tree) state).2 } := by
  rw [matchingIds_of_compiled mapper h, Operation.run_send_bind_of_ok hsearch]
  rfl

end

/-- Resolving conditions to identifiers and writing those acts on the hits. -/
theorem actsOnHits_matchingIds_bind (conditions : Conditions) (make : String → BulkOperation) :
    ActsOnHits mapper transport conditions make
      (mapper.matchingIds conditions >>= fun ids => mapper.execute (ids.map make) .tally) := by
  refine ⟨?_, ?_, ?_⟩
  · intro fault hfault state
    rw [Program.run_bind, run_matchingIds_of_not_compiled mapper transport state hfault]
    exact ⟨rfl, rfl⟩
  · intro tree htree state e hfailed
    rw [Program.run_bind, run_matchingIds_of_error mapper transport state htree hfailed]
    exact ⟨rfl, rfl⟩
  · intro tree htree state response hanswered
    have hids : response.ids.map make = response.hits.map fun hit => make hit.id := List.map_map
    rw [Program.run_bind, run_matchingIds_of_ok mapper transport state htree hanswered]
    show WritesHits mapper transport _ _ response.hits make
      (let batch := (mapper.execute (response.ids.map make) .tally).run transport _
       { batch with calls := [mapper.hitSearch tree] ++ batch.calls })
    rw [hids]
    exact writesHits_execute mapper transport _ _ response.hits make

/-! ## Main result -/

/-- **Writes by condition act on the hits of their search.** An update whose document cannot be
encoded sends nothing. Any other update, and any deletion, is refused with nothing sent if its
conditions do not compile; else it first sends the search for identifiers, and then at most one
bulk request, which holds for each hit, in order and as often as the hit occurs, the update of
that document to the one that was encoded, or its deletion. -/
theorem writes_act_on_hits [Entity α] (conditions : Conditions) :
    (∀ set fault, mapper.updateDocument set = .error fault → ∀ state,
      ((mapper.update set conditions).run transport state).calls = [] ∧
        ((mapper.update set conditions).run transport state).result =
          .error (.serialization fault)) ∧
      (∀ set document, mapper.updateDocument set = .ok document →
        ActsOnHits mapper transport conditions (.update · document)
          (mapper.update set conditions)) ∧
      ActsOnHits mapper transport conditions .delete (mapper.delete conditions) := by
  refine ⟨?_, ?_, ?_⟩
  · intro set fault hfault state
    unfold update
    rw [hfault]
    exact ⟨rfl, rfl⟩
  · intro set document hdocument
    unfold update
    rw [hdocument]
    exact actsOnHits_matchingIds_bind mapper transport conditions (.update · document)
  · exact actsOnHits_matchingIds_bind mapper transport conditions .delete

/-- An update for a search with a hit that occurs twice. -/
theorem writes_act_on_hits_repeated :
    let notes : Mapper Json := ⟨{ indexName := "notes" }, {}⟩
    let drafts : Conditions := .compare .eq "state" (.string "draft")
    let tree : BoolQuery := { must := [.leaf ⟨"state", .term (.string "draft"), none⟩] }
    let hit (id : String) : Json := .ofPairs [("id", .string id)]
    let script : Script := { replies := [.ofPairs [("hits", .array [hit "b", hit "a", hit "b"]),
      ("total", .uint64 7), ("took_ms", .uint64 1)]] }
    let document : Json := .single "state" (.string "final")
    notes.updateDocument (.fields [("state", .string "final")]) = .ok document ∧
      drafts.compile none = .ok tree ∧
      ((notes.update (.fields [("state", .string "final")]) drafts).run
          Script.transport script).calls =
        [notes.hitSearch tree, .bulk "notes"
          [.update "b" document, .update "a" document, .update "b" document]] := by
  intro notes drafts tree hit script document
  have hdocument : notes.updateDocument (.fields [("state", .string "final")]) = .ok document :=
    rfl
  have hcompiled : drafts.compile none = .ok tree := rfl
  have hacts := (writes_act_on_hits notes Script.transport drafts).2.1 _ document hdocument
  have hwrites := hacts.of_answered tree hcompiled script
    { hits := [{ id := "b" }, { id := "a" }, { id := "b" }], total := 7, tookMs := 1 } rfl
  refine ⟨hdocument, hcompiled, (hwrites.of_hits nofun ?_).1⟩
  intro limit hlimit
  cases hlimit
  decide

end SearchMapper.Mapper
