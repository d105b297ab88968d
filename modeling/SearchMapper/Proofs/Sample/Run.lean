import SearchMapper.Proofs.Sample.Log

/-!
# Runs of the sample session

The phases of a session, each with the stages that its log goes along and what it counts of them.
Put together they say of a whole run that nothing is sent after a failure, when the index is created
and dropped, and what the report counts: `Session.run_stops_at_first_failure`.
-/

namespace SearchMapper.Session

variable {σ α : Type} {mapper : Mapper SampleDocument} {transport : Transport σ}

/-! ## Phases -/

/-- The stages that make sure of the index. -/
def opening (isThere : Bool) : List Stage :=
  .checkIndex :: if isThere then [] else [.createIndex]

open Stage in
/-- The stages after that, by the phases of the session. -/
def closing (cleanup : Bool) : List Stage :=
  [insertSingle, insertBatch] ++ (
  [readBack] ++ (
  [showGrouped, selectGrouped, selectNearby, searchCreators, countRecent] ++ (
  [updateMatching, updateOne] ++ (
  [deleteOne, deleteTwo, deleteMatching] ++
  countRemaining :: if cleanup then [dropIndex] else []))))

/-- All stages of a session, by whether the index is there at the beginning. -/
def stages (isThere cleanup : Bool) : List Stage := opening isThere ++ closing cleanup

/-- Of the single document and the batch, those are counted that were created. -/
def Inserted (log : List Event) (inserted : Nat) : Prop :=
  ∃ outcome summary, Came log .insertSingle outcome ∧ Came log .insertBatch summary ∧
    inserted = outcome.affected + summary.results.countP (·.created) ∧ inserted ≤ 5

/-- The documents of the grouped query are counted. -/
def Matched (log : List Event) (matched : Nat) : Prop :=
  ∃ documents : List SampleDocument, Came log .selectGrouped documents ∧
    matched = documents.length

/-- The updates that succeeded are counted. -/
def Updated (log : List Event) (updated : Nat) : Prop :=
  ∃ summary outcome, Came log .updateMatching summary ∧ Came log .updateOne outcome ∧
    updated = summary.results.countP (·.success) + outcome.affected

/-- The deletions that succeeded are counted. -/
def Deleted (log : List Event) (deleted : Nat) : Prop :=
  ∃ outcome two others, Came log .deleteOne outcome ∧ Came log .deleteTwo two ∧
    Came log .deleteMatching others ∧
    deleted = outcome.affected + two.results.countP (·.success) +
      others.results.countP (·.success)

/-- The report counts what the stages of the log came to. -/
structure Reports (log : List Event) (report : SessionReport) : Prop where
  inserted : Inserted log report.inserted
  matched : Matched log report.matched
  updated : Updated log report.updated
  deleted : Deleted log report.deleted
  remaining : Came log .countRemaining report.remaining

/-- The index is created exactly if it is answered that it is not there. -/
def CreatesIfMissing (log : List Event) : Prop :=
  .createIndex ∈ log.map Event.stage ↔ Came log .checkIndex false

theorem follows_createIndex :
    Follows mapper transport (step (Stage.operation mapper .createIndex) >>= fun _ => pure ())
      fun log _ => ∃ calls came, log = [⟨.createIndex, calls, came⟩] := by
  refine (follows_stage .createIndex fun _ => trivial).bind ?_ ?_
  · rintro _ _ ⟨calls, came, rfl, -⟩
    exact ⟨calls, came, rfl⟩
  · rintro _ _ ⟨calls, came, rfl, -⟩
    exact follows_pure ⟨calls, came, rfl⟩

theorem follows_ensureIndex :
    Follows mapper transport (ensureIndex mapper) fun log result =>
      CreatesIfMissing log ∧ ∃ isThere, Along (opening isThere) (fun _ _ => True) log result := by
  refine (follows_stage .checkIndex fun _ => trivial).bind ?_ ?_
  · rintro _ e ⟨calls, came, rfl, hresult, -⟩
    obtain ⟨cause, -, rfl⟩ := Except.mapError_eq_error_iff.mp hresult.symm
    refine ⟨?_, true, List.prefix_rfl, nofun⟩
    constructor
    · rintro (_ | ⟨_, ⟨⟩⟩)
    · rintro ⟨_, _ | ⟨_, ⟨⟩⟩⟩
  · rintro _ isThere ⟨calls, came, rfl, hresult, -⟩
    obtain rfl := Except.mapError_eq_ok_iff.mp hresult.symm
    cases isThere with
    | true =>
      refine follows_pure ⟨?_, true, List.prefix_rfl, fun _ _ => ⟨rfl, trivial⟩⟩
      constructor
      · rintro (_ | ⟨_, ⟨⟩⟩)
      · rintro ⟨_, _ | ⟨_, ⟨⟩⟩⟩
    | false =>
      refine follows_createIndex.mono ?_
      rintro _ _ ⟨calls', came, rfl⟩
      refine ⟨?_, false, List.prefix_rfl, fun _ _ => ⟨rfl, trivial⟩⟩
      exact iff_of_true (by simp) ⟨calls, by simp⟩

theorem along_writeDocuments :
    Follows mapper transport (writeDocuments mapper)
      (Along [.insertSingle, .insertBatch] Inserted) := by
  refine along_stage_bind .insertSingle (fun _ => trivial) fun calls outcome haffected => ?_
  refine along_stage_bind .insertBatch (fun _ => trivial) fun calls' summary htallies => ?_
  refine along_pure ⟨outcome, summary, ⟨calls, by simp⟩, ⟨calls', by simp⟩, ?_, ?_⟩
  · rw [htallies.succeeded_eq]
    rfl
  · exact Nat.add_le_add haffected htallies.succeeded_le

theorem along_checkRoundTrip :
    Follows mapper transport (checkRoundTrip mapper) (Along [.readBack] fun _ _ => True) := by
  refine follows_checkRoundTrip.mono ?_
  rintro _ _ ⟨calls, came, rfl⟩
  exact ⟨List.prefix_rfl, fun _ _ => ⟨rfl, trivial⟩⟩

theorem along_queryDocuments :
    Follows mapper transport (queryDocuments mapper)
      (Along [.showGrouped, .selectGrouped, .selectNearby, .searchCreators, .countRecent]
        Matched) := by
  refine along_stage_bind .showGrouped (fun _ => trivial) fun _ _ _ => ?_
  refine along_stage_bind .selectGrouped (fun _ => trivial) fun calls documents _ => ?_
  refine along_stage_bind .selectNearby (fun _ => trivial) fun _ _ _ => ?_
  refine along_stage_bind .searchCreators (fun _ => trivial) fun _ _ _ => ?_
  refine along_stage_bind .countRecent (fun _ => trivial) fun _ _ _ => ?_
  exact along_pure ⟨documents, ⟨calls, by simp⟩, rfl⟩

theorem along_updateDocuments :
    Follows mapper transport (updateDocuments mapper)
      (Along [.updateMatching, .updateOne] Updated) := by
  refine along_stage_bind .updateMatching (fun _ => trivial) fun calls summary hcounts => ?_
  refine along_stage_bind .updateOne (fun _ => trivial) fun calls' outcome _ => ?_
  refine along_pure ⟨summary, outcome, ⟨calls, by simp⟩, ⟨calls', by simp⟩, ?_⟩
  exact congrArg (· + outcome.affected) hcounts

theorem along_deleteDocuments :
    Follows mapper transport (deleteDocuments mapper)
      (Along [.deleteOne, .deleteTwo, .deleteMatching] Deleted) := by
  refine along_stage_bind .deleteOne (fun _ => trivial) fun calls outcome _ => ?_
  refine along_stage_bind .deleteTwo (fun _ => trivial) fun calls' two htwo => ?_
  refine along_stage_bind .deleteMatching (fun _ => trivial) fun calls'' others hothers => ?_
  refine along_pure ⟨outcome, two, others, ⟨calls, by simp⟩, ⟨calls', by simp⟩,
    ⟨calls'', by simp⟩, ?_⟩
  exact congrArg₂ (outcome.affected + · + ·) htwo hothers

section

variable {log log' : List Event}

theorem Came.mono {stage : Stage} {value : stage.Value} (h : Came log stage value)
    (hsub : log ⊆ log') : Came log' stage value := by
  obtain ⟨calls, hmem⟩ := h
  exact ⟨calls, hsub hmem⟩

theorem Inserted.mono {inserted : Nat} (h : Inserted log inserted) (hsub : log ⊆ log') :
    Inserted log' inserted := by
  obtain ⟨outcome, summary, houtcome, hsummary, hcount⟩ := h
  exact ⟨outcome, summary, houtcome.mono hsub, hsummary.mono hsub, hcount⟩

theorem Matched.mono {matched : Nat} (h : Matched log matched) (hsub : log ⊆ log') :
    Matched log' matched := by
  obtain ⟨documents, hdocuments, hcount⟩ := h
  exact ⟨documents, hdocuments.mono hsub, hcount⟩

theorem Updated.mono {updated : Nat} (h : Updated log updated) (hsub : log ⊆ log') :
    Updated log' updated := by
  obtain ⟨summary, outcome, hsummary, houtcome, hcount⟩ := h
  exact ⟨summary, outcome, hsummary.mono hsub, houtcome.mono hsub, hcount⟩

theorem Deleted.mono {deleted : Nat} (h : Deleted log deleted) (hsub : log ⊆ log') :
    Deleted log' deleted := by
  obtain ⟨outcome, two, others, houtcome, htwo, hothers, hcount⟩ := h
  exact ⟨outcome, two, others, houtcome.mono hsub, htwo.mono hsub, hothers.mono hsub, hcount⟩

theorem Reports.mono {report : SessionReport} (h : Reports log report) (hsub : log ⊆ log') :
    Reports log' report :=
  ⟨h.inserted.mono hsub, h.matched.mono hsub, h.updated.mono hsub, h.deleted.mono hsub,
    h.remaining.mono hsub⟩

end

theorem Came.mem_stages {stage : Stage} {value : stage.Value} {log : List Event}
    (h : Came log stage value) : stage ∈ log.map Event.stage := by
  obtain ⟨calls, hmem⟩ := h
  exact List.mem_map_of_mem hmem

/-- Of the stages after the index was made sure of, none is about that. -/
theorem not_mem_closing (cleanup : Bool) :
    .checkIndex ∉ closing cleanup ∧ .createIndex ∉ closing cleanup := by
  cases cleanup <;> decide

theorem CreatesIfMissing.append {opened later : List Event} {cleanup : Bool}
    (h : CreatesIfMissing opened) (hlater : later.map Event.stage <+: closing cleanup) :
    CreatesIfMissing (opened ++ later) := by
  obtain ⟨hcheck, hcreate⟩ := not_mem_closing cleanup
  have hnone : .createIndex ∉ later.map Event.stage := fun hmem => hcreate (hlater.subset hmem)
  unfold CreatesIfMissing at h ⊢
  rw [List.map_append, List.mem_append, or_iff_left hnone, h]
  constructor
  · exact fun hcame => hcame.mono (List.subset_append_left ..)
  · rintro ⟨calls, hmem⟩
    rcases List.mem_append.mp hmem with hmem | hmem
    · exact ⟨calls, hmem⟩
    · have hcame : Came later .checkIndex false := ⟨calls, hmem⟩
      exact absurd (hlater.subset hcame.mem_stages) hcheck

/-- A session goes along its stages, and reports what they came to. -/
theorem follows_run (cleanup : Bool) :
    Follows mapper transport (run mapper cleanup) fun log result =>
      CreatesIfMissing log ∧ ∃ isThere, Along (stages isThere cleanup) Reports log result := by
  refine follows_ensureIndex.bind ?_ ?_
  · -- an error at the beginning: the log goes along no other stages
    rintro log e ⟨hcreated, isThere, hreach, -⟩
    exact ⟨hcreated, isThere, hreach.trans (List.prefix_append ..), nofun⟩
  · rintro opened ⟨⟩ ⟨hcreated, isThere, -, hok⟩
    refine Follows.mono (Q := Along (closing cleanup) Reports) ?_ fun later result halong => ?_
    · refine along_bind along_writeDocuments fun written inserted hinserted => ?_
      refine along_bind along_checkRoundTrip fun checked _ _ => ?_
      refine along_bind along_queryDocuments fun queried matched hmatched => ?_
      refine along_bind along_updateDocuments fun changed updated hupdated => ?_
      refine along_bind along_deleteDocuments fun dropped deleted hdeleted => ?_
      refine along_stage_bind .countRemaining (fun _ => trivial) fun calls remaining _ => ?_
      -- with cleanup one event more follows, which changes no count
      have hreports (tail : List Event) :
          Reports (written ++ (checked ++ (queried ++ (changed ++ (dropped ++
            ⟨.countRemaining, calls, .ok remaining⟩ :: tail)))))
            { inserted, matched, updated, deleted, remaining } := by
        refine ⟨hinserted.mono ?_, hmatched.mono ?_, hupdated.mono ?_, hdeleted.mono ?_,
          calls, by simp⟩ <;>
        · intro event hmem
          simp [hmem]
      cases cleanup with
      | false => exact along_pure (hreports [])
      | true =>
        refine along_stage_bind .dropIndex (fun _ => trivial) fun calls' gone _ => ?_
        exact along_pure (hreports _)
    · refine ⟨hcreated.append halong.isPrefix, isThere, ?_⟩
      refine Along.append ⟨halong.isPrefix, fun report hreport => ?_⟩ (hok () rfl).1
      obtain ⟨hstages, hreports⟩ := halong.of_ok report hreport
      exact ⟨hstages, hreports.mono (List.subset_append_right ..)⟩

/-! ## Requests about the index -/

section

variable {state : σ} {log : List Event} {stage : Stage} {result : Except SessionError α}

/-- What is sent in a log is what its stages may send. -/
theorem Chained.sends {after : σ} (h : Chained mapper transport state log after) :
    ∀ event ∈ log, event.stage.Sends mapper event.calls :=
  h.forall_of_ensures Stage.ensures_sends

/-- A request about an index was sent by the stage that it belongs to. -/
theorem mem_stages_of_mem_calls {c : Call}
    (hsends : ∀ event ∈ log, event.stage.Sends mapper event.calls)
    (hmem : c ∈ log.flatMap Event.calls) (hstage : Stage.ofCall? c = some stage) :
    stage ∈ log.map Event.stage := by
  obtain ⟨event, hevent, hmem⟩ := List.mem_flatMap.mp hmem
  rw [← (hsends event hevent).eq_of_ofCall? hmem hstage]
  exact List.mem_map_of_mem hevent

/-- An index is created exactly in the stage for it. -/
theorem exists_createIndex_iff (hsends : ∀ event ∈ log, event.stage.Sends mapper event.calls) :
    (∃ index body, .createIndex index body ∈ log.flatMap Event.calls) ↔
      .createIndex ∈ log.map Event.stage := by
  constructor
  · rintro ⟨index, body, hmem⟩
    exact mem_stages_of_mem_calls hsends hmem rfl
  · intro hmem
    obtain ⟨⟨stage, calls, came⟩, hevent, hstage⟩ := List.mem_map.mp hmem
    obtain rfl : stage = .createIndex := hstage
    obtain ⟨body, hcalls⟩ := hsends _ hevent
    refine ⟨mapper.indexName, body, List.mem_flatMap.mpr ⟨_, hevent, ?_⟩⟩
    rw [hcalls]
    exact List.mem_singleton_self _

/-- A log that ends with a result has an event, if there are stages to go along. -/
theorem Along.ne_nil {first : Stage} {rest : List Stage} {V : List Event → α → Prop}
    (h : Along (first :: rest) V log result) (hends : Ends log result) : log ≠ [] := by
  rintro rfl
  cases result with
  | ok a => cases (h.of_ok a rfl).1
  | error e =>
    obtain ⟨earlier, last, hlog, -⟩ := hends
    exact List.append_ne_nil_of_right_ne_nil _ (List.cons_ne_nil _ _) hlog.symm

/-- The first stage comes to what its operation does at the beginning. -/
theorem Chained.came_head_iff {after : σ} {rest : List Stage} {value : stage.Value}
    (h : Chained mapper transport state log after) (hstages : log.map Event.stage = stage :: rest)
    (hnot : stage ∉ rest) :
    Came log stage value ↔
      ((stage.operation mapper).run transport state).result = .ok value := by
  cases h with
  | nil => cases hstages
  | cons first h =>
    obtain ⟨hfirst, rfl⟩ := List.cons.inj hstages
    obtain rfl : first = stage := hfirst
    constructor
    · rintro ⟨calls, hmem⟩
      rcases List.mem_cons.mp hmem with hhead | hmem
      · rw [Event.mk.injEq] at hhead
        exact (eq_of_heq hhead.2.2).symm
      · exact absurd (List.mem_map_of_mem hmem) hnot
    · intro hresult
      refine ⟨((first.operation mapper).run transport state).calls, ?_⟩
      rw [← hresult]
      exact List.mem_cons_self

end

/-- A session begins with the check whether the index is there, and does not repeat it. -/
theorem exists_stages_eq (isThere cleanup : Bool) :
    ∃ rest, stages isThere cleanup = .checkIndex :: rest ∧ .checkIndex ∉ rest := by
  cases isThere <;> cases cleanup <;> exact ⟨_, rfl, by decide⟩

/-- With cleanup there is one stage more, at the end. -/
theorem stages_cleanup (isThere : Bool) :
    stages isThere true = stages isThere false ++ [.dropIndex] := by
  cases isThere <;> rfl

theorem not_mem_stages (isThere : Bool) : .dropIndex ∉ stages isThere false := by
  cases isThere <;> decide

/-- Where the index is dropped, that is the last stage. -/
theorem eq_of_dropIndex_mem {isThere cleanup : Bool} {reached : List Stage}
    (hreach : reached <+: stages isThere cleanup) (hmem : .dropIndex ∈ reached) :
    reached = stages isThere false ++ [.dropIndex] := by
  cases cleanup with
  | false => exact absurd (hreach.subset hmem) (not_mem_stages isThere)
  | true =>
    rw [stages_cleanup, List.prefix_concat_iff] at hreach
    refine hreach.resolve_right fun hreach => ?_
    exact not_mem_stages isThere (hreach.subset hmem)

theorem exists_last_of_map_eq {log : List Event} {front : List Stage} {stage : Stage}
    (h : log.map Event.stage = front ++ [stage]) :
    ∃ earlier last, log = earlier ++ [last] ∧ earlier.map Event.stage = front ∧
      last.stage = stage := by
  obtain ⟨earlier, tail, rfl, hearlier, htail⟩ := List.map_eq_append_iff.mp h
  obtain ⟨last, rfl, hlast⟩ := List.map_eq_singleton_iff.mp htail
  exact ⟨earlier, last, rfl, hearlier, hlast⟩

section

variable {state : σ} {cleanup isThere : Bool} {log : List Event} {run : Run σ SessionError α}

/-- A session sends the request to create the index exactly if its first request, whether the index
is there, is answered with no. -/
theorem Logs.createIndex_sent_iff (h : Logs mapper transport state log run)
    (hcreated : CreatesIfMissing log) {V : List Event → α → Prop}
    (halong : Along (stages isThere cleanup) V log run.result) :
    (∃ index body, .createIndex index body ∈ run.calls) ↔
      (transport.send (.indexExists mapper.indexName) state).1 = .ok false := by
  obtain ⟨rest, hstages, hnot⟩ := exists_stages_eq isThere cleanup
  rw [hstages] at halong
  -- the first event is the check, in the state that the session begins in
  have hne : log.map Event.stage ≠ [] := mt List.map_eq_nil_iff.mp (halong.ne_nil h.ends)
  obtain ⟨reached, hreached, hreach⟩ :=
    (List.prefix_cons_iff.mp halong.isPrefix).resolve_left hne
  rw [h.calls_eq, exists_createIndex_iff h.chained.sends]
  refine hcreated.trans ?_
  exact h.chained.came_head_iff hreached fun hmem => hnot (hreach.subset hmem)

/-- Where the index was to be dropped and the session fails, it fails with that. -/
theorem Logs.exists_last_of_deleteIndex (h : Logs mapper transport state log run)
    (hreach : log.map Event.stage <+: stages isThere cleanup) {error : SessionError}
    (herror : run.result = .error error) {index : String} (hmem : .deleteIndex index ∈ run.calls) :
    ∃ earlier last, log = earlier ++ [last] ∧ last.stage = .dropIndex ∧ last.FailsWith error := by
  rw [h.calls_eq] at hmem
  have hdrop := mem_stages_of_mem_calls h.chained.sends hmem rfl
  -- no stage comes after the one that drops the index, so it is the one that failed
  obtain ⟨earlier, last, rfl, -, hlast⟩ := exists_last_of_map_eq (eq_of_dropIndex_mem hreach hdrop)
  have hends : Ends (earlier ++ [last]) run.result := h.ends
  rw [herror] at hends
  obtain ⟨before, failed, hlog, -, hfails⟩ := hends
  obtain ⟨rfl, ⟨⟩⟩ := List.append_inj' hlog rfl
  exact ⟨earlier, last, rfl, hlast, hfails⟩

/-- Without cleanup, nothing that a session sends drops an index. -/
theorem deleteIndex_not_mem_calls
    (hsends : ∀ event ∈ log, event.stage.Sends mapper event.calls)
    (hstages : log.map Event.stage = stages isThere false) (index : String) :
    .deleteIndex index ∉ log.flatMap Event.calls := by
  intro hmem
  have hdrop := mem_stages_of_mem_calls hsends hmem rfl
  rw [hstages] at hdrop
  exact not_mem_stages isThere hdrop

/-- With cleanup, the last request of all stages drops the index, and no other one does. -/
theorem exists_calls_eq_of_cleanup
    (hsends : ∀ event ∈ log, event.stage.Sends mapper event.calls)
    (hstages : log.map Event.stage = stages isThere true) :
    ∃ earlier, log.flatMap Event.calls = earlier ++ [.deleteIndex mapper.indexName] ∧
      ∀ index, .deleteIndex index ∉ earlier := by
  rw [stages_cleanup] at hstages
  obtain ⟨earlier, ⟨stage, calls, came⟩, rfl, hearlier, hlast⟩ := exists_last_of_map_eq hstages
  obtain rfl : stage = .dropIndex := hlast
  obtain ⟨hsendsEarlier, hsendsLast⟩ := List.forall_mem_append.mp hsends
  obtain rfl : calls = [.deleteIndex mapper.indexName] :=
    hsendsLast _ (List.mem_singleton_self _)
  refine ⟨earlier.flatMap Event.calls, ?_, deleteIndex_not_mem_calls hsendsEarlier hearlier⟩
  rw [List.flatMap_append, List.flatMap_singleton]

end

/-! ## Main result -/

/-- **A session stops at the first failure.** For any mapper, any backend and either setting of
`cleanup`, a run is told by a log of stages in their fixed order. What the stages sent is all that
was sent. With a report all stages succeeded; with an error the log ends with the first that did
not: the mapper failed, or the document that was read back was missing, had another identifier or
had a creator. The index is created exactly if the backend answers that it is not there. It is not
dropped before an error, unless dropping it is what failed; with a report it was dropped by the very
last request if `cleanup` is set, and else not at all. A report counts what the stages came to. -/
theorem run_stops_at_first_failure (mapper : Mapper SampleDocument) (transport : Transport σ)
    (cleanup : Bool) (state : σ) :
    let session := (run mapper cleanup).run transport state
    ∃ log isThere, Logs mapper transport state log session ∧
      Along (stages isThere cleanup) Reports log session.result ∧
      ((∃ index body, .createIndex index body ∈ session.calls) ↔
        (transport.send (.indexExists mapper.indexName) state).1 = .ok false) ∧
      (∀ error, session.result = .error error → (∃ index, .deleteIndex index ∈ session.calls) →
        ∃ earlier last, log = earlier ++ [last] ∧ last.stage = .dropIndex ∧
          last.FailsWith error) ∧
      ∀ report, session.result = .ok report →
        if cleanup then
          ∃ earlier, session.calls = earlier ++ [.deleteIndex mapper.indexName] ∧
            ∀ index, .deleteIndex index ∉ earlier
        else ∀ index, .deleteIndex index ∉ session.calls := by
  intro session
  have hfollows : Follows mapper transport (run mapper cleanup) _ := follows_run cleanup
  obtain ⟨log, hlogs, hcreated, isThere, halong⟩ := hfollows state
  refine ⟨log, isThere, hlogs, halong, hlogs.createIndex_sent_iff hcreated halong, ?_, ?_⟩
  · rintro error herror ⟨index, hmem⟩
    exact hlogs.exists_last_of_deleteIndex halong.isPrefix herror hmem
  · intro report hreport
    have hcalls : session.calls = log.flatMap Event.calls := hlogs.calls_eq
    have hsends := hlogs.chained.sends
    have hstages := (halong.of_ok report hreport).1
    rw [hcalls]
    cases cleanup with
    | false => exact deleteIndex_not_mem_calls hsends hstages
    | true => exact exists_calls_eq_of_cleanup hsends hstages

-- a backend without the index that takes all writes: the session ends where it reads back a
-- document, unless there is one
example :
    let transport (found : SearchResponse) : Transport Unit :=
      { newId := fun state => ("new", state)
        send := fun c state => match c with
          | .indexDocument .. => (.ok ⟨201, "doc-1", none⟩, state)
          | .updateDocument .. | .deleteDocument .. => (.ok ⟨200, "doc-1", none⟩, state)
          | .bulk _ operations =>
            (.ok ⟨1, false, operations.map fun o => ⟨o.action, o.id?, 201, none⟩⟩, state)
          | .search .. => (.ok found, state)
          | .indexExists _ | .createIndex .. | .deleteIndex _ => (.ok false, state) }
    let session (found : SearchResponse) :=
      (run ⟨SampleDocument.metadata, {}⟩ true).run (transport found) ()
    (session .empty).result.toOption = none ∧ (session .empty).calls.length = 5 ∧
      (session ⟨[⟨"doc-1", none, .object [], none⟩], 1, 1, none⟩).result.toOption = some
        { inserted := 5, matched := 1, updated := 2, deleted := 4, remaining := 1 } := by
  decide +kernel

end SearchMapper.Session
