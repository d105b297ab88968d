import SearchMapper.Proofs.Sample.Stages

/-!
# Logs of the sample session

A run of a session is told by a log of its stages, each with the requests that it sent and what it
came to. `Session.Logs` says that a log tells all of a run, and that the run ended with the first
stage that failed. `Session.Follows` says of all runs of a step what their logs are, and is proved
along the steps.
-/

namespace SearchMapper.Session

/-! ## Logs -/

/-- A stage as it went. -/
structure Event where
  stage : Stage
  /-- The requests that were sent. -/
  calls : List Call
  /-- What the mapper came to. -/
  result : Except MapperError stage.Value

/-- The stage came to a value after which the session goes on. -/
def Event.Succeeds (event : Event) : Prop :=
  ∃ value, event.result = .ok value ∧ event.stage.Accepts value

/-- The stage ends the session with an error: that of the mapper, or one that tells what else was
read back than was written. -/
def Event.FailsWith (event : Event) (error : SessionError) : Prop :=
  (∃ cause, event.result = .error cause ∧ error = .mapper cause) ∨
    ∃ value detail, event.result = .ok value ∧ ¬ event.stage.Accepts value ∧
      error = unexpectedReading detail

/-- The stage came to the value in some event of the log. -/
def Came (log : List Event) (stage : Stage) (value : stage.Value) : Prop :=
  ∃ calls, ⟨stage, calls, .ok value⟩ ∈ log

variable {σ α β : Type}

/-- The stages of the log run on the transport, from a state to another one, each in the state that
the one before has left. -/
inductive Chained (mapper : Mapper SampleDocument) (transport : Transport σ) :
    σ → List Event → σ → Prop
  | nil (state : σ) : Chained mapper transport state [] state
  | cons (stage : Stage) {state after : σ} {log : List Event}
      (h : Chained mapper transport ((stage.operation mapper).run transport state).state log after) :
      Chained mapper transport state
        (⟨stage, ((stage.operation mapper).run transport state).calls,
          ((stage.operation mapper).run transport state).result⟩ :: log) after

/-- The result is that of the log: with a value all stages succeeded, and with an error all but the
last, which fails with it. -/
def Ends (log : List Event) : Except SessionError α → Prop
  | .ok _ => ∀ event ∈ log, event.Succeeds
  | .error error => ∃ earlier last, log = earlier ++ [last] ∧
      (∀ event ∈ earlier, event.Succeeds) ∧ last.FailsWith error

/-- The log tells all of a run: its stages ran one after another, what they sent is all that was
sent, and the first that failed was the last and gave the error. -/
structure Logs (mapper : Mapper SampleDocument) (transport : Transport σ) (state : σ)
    (log : List Event) (run : Run σ SessionError α) : Prop where
  chained : Chained mapper transport state log run.state
  calls_eq : run.calls = log.flatMap Event.calls
  ends : Ends log run.result

section

variable {mapper : Mapper SampleDocument} {transport : Transport σ}

theorem Chained.append {state between after : σ} {log later : List Event}
    (h : Chained mapper transport state log between)
    (hlater : Chained mapper transport between later after) :
    Chained mapper transport state (log ++ later) after := by
  induction h with
  | nil state => exact hlater
  | cons stage _ ih => exact .cons stage (ih hlater)

/-- What all runs of a stage ensure holds of its events. -/
theorem Chained.forall_of_ensures {state after : σ} {log : List Event}
    {Q : (stage : Stage) → List Call → Except MapperError stage.Value → Prop}
    (h : Chained mapper transport state log after)
    (hQ : ∀ stage : Stage, (stage.operation mapper).Ensures transport (Q stage)) :
    ∀ event ∈ log, Q event.stage event.calls event.result := by
  induction h with
  | nil state => exact List.forall_mem_nil _
  | cons stage _ ih =>
    rintro event (_ | ⟨_, hmem⟩)
    · exact hQ stage _
    · exact ih event hmem

theorem ends_singleton_ok {event : Event} (h : event.Succeeds) (a : α) :
    Ends [event] (.ok a) := by
  rintro _ (_ | ⟨_, ⟨⟩⟩)
  exact h

theorem ends_singleton_error {event : Event} {e : SessionError} (h : event.FailsWith e) :
    Ends [event] (.error e : Except SessionError α) :=
  ⟨[], event, rfl, List.forall_mem_nil _, h⟩

theorem Ends.append {log later : List Event} {result : Except SessionError α}
    (h : ∀ event ∈ log, event.Succeeds) (hlater : Ends later result) :
    Ends (log ++ later) result := by
  cases result with
  | ok a => exact List.forall_mem_append.mpr ⟨h, hlater⟩
  | error e =>
    obtain ⟨earlier, last, rfl, hearlier, hlast⟩ := hlater
    refine ⟨log ++ earlier, last, (List.append_assoc ..).symm, ?_, hlast⟩
    exact List.forall_mem_append.mpr ⟨h, hearlier⟩

/-- A run that goes on after another one is logged after it. -/
theorem Logs.append {state : σ} {log later : List Event} {a : α} {calls : List Call} {between : σ}
    {run : Run σ SessionError β}
    (h : Logs mapper transport state log { result := .ok a, calls, state := between })
    (hlater : Logs mapper transport between later run) :
    Logs mapper transport state (log ++ later) { run with calls := calls ++ run.calls } := by
  obtain ⟨hchained, hcalls, hends⟩ := h
  refine ⟨hchained.append hlater.chained, ?_, Ends.append hends hlater.ends⟩
  rw [List.flatMap_append, ← hlater.calls_eq, ← hcalls]

end

/-! ## Steps -/

/-- All runs of the step are logged, with logs and results as `Q` says. -/
def Follows (mapper : Mapper SampleDocument) (transport : Transport σ) (p : Step α)
    (Q : List Event → Except SessionError α → Prop) : Prop :=
  ∀ state, ∃ log, Logs mapper transport state log (p.run transport state) ∧
    Q log (p.run transport state).result

variable {mapper : Mapper SampleDocument} {transport : Transport σ} {p : Step α}
  {f : α → Step β} {Q : List Event → Except SessionError α → Prop}

theorem follows_pure {a : α} (h : Q [] (.ok a)) : Follows mapper transport (pure a) Q :=
  fun state => ⟨[], ⟨.nil state, rfl, List.forall_mem_nil _⟩, h⟩

theorem Follows.mono {R : List Event → Except SessionError α → Prop}
    (h : Follows mapper transport p Q) (himp : ∀ log result, Q log result → R log result) :
    Follows mapper transport p R := by
  intro state
  obtain ⟨log, hlogs, hQ⟩ := h state
  exact ⟨log, hlogs, himp _ _ hQ⟩

/-- The log of a step goes before those of the steps that follow; an error ends it. -/
theorem Follows.bind {R : List Event → Except SessionError β → Prop}
    (h : Follows mapper transport p Q) (herror : ∀ log e, Q log (.error e) → R log (.error e))
    (hnext : ∀ log a, Q log (.ok a) →
      Follows mapper transport (f a) fun later result => R (log ++ later) result) :
    Follows mapper transport (p >>= f) R := by
  intro state
  obtain ⟨log, hlogs, hQ⟩ := h state
  rw [Program.run_bind]
  generalize p.run transport state = first at hlogs hQ ⊢
  obtain ⟨result, calls, between⟩ := first
  cases result with
  | error e =>
    -- the log of the first step is that of both: what follows is not run
    exact ⟨log, ⟨hlogs.chained, hlogs.calls_eq, hlogs.ends⟩, herror log e hQ⟩
  | ok a =>
    obtain ⟨later, hlater, hR⟩ := hnext log a hQ between
    exact ⟨log ++ later, hlogs.append hlater, hR⟩

/-- A stage is logged as one event, if that gives the result. -/
theorem logs_stage (stage : Stage) (state : σ) {result : Except SessionError α} :
    let run := (stage.operation mapper).run transport state
    Ends [⟨stage, run.calls, run.result⟩] result →
      Logs mapper transport state [⟨stage, run.calls, run.result⟩]
        { result, calls := run.calls, state := run.state } :=
  fun hends => ⟨.cons stage (.nil _), (List.flatMap_singleton ..).symm, hends⟩

/-- A stage whose value is not looked at ends the session if the mapper fails. -/
theorem follows_stage (stage : Stage) (haccepts : ∀ value, stage.Accepts value) :
    Follows mapper transport (step (stage.operation mapper)) fun log result =>
      ∃ calls came, log = [⟨stage, calls, came⟩] ∧ result = came.mapError .mapper ∧
        ∀ value, came = .ok value → stage.Counts value := by
  intro state
  unfold step
  rw [Program.run_mapError]
  -- the session renames the errors of the mapper, and its event keeps them as they are
  refine ⟨_, logs_stage stage state ?_, _, _, rfl, rfl, stage.ensures_counts state⟩
  cases ((stage.operation mapper).run transport state).result with
  | ok value => exact ends_singleton_ok ⟨value, rfl, haccepts value⟩ _
  | error cause => exact ends_singleton_error (.inl ⟨cause, rfl, rfl⟩)

theorem checkReading_of_accepts {read? : Option SampleDocument}
    (h : Stage.Accepts .readBack read?) : checkReading read? = .ok () := by
  obtain ⟨document, rfl, hid, hcreator⟩ := h
  rw [checkReading, if_neg (not_not_intro hid), hcreator]
  rfl

theorem exists_checkReading_of_not_accepts {read? : Option SampleDocument}
    (h : ¬ Stage.Accepts .readBack read?) :
    ∃ detail, checkReading read? = .error (unexpectedReading detail) := by
  cases read? with
  | none => exact ⟨_, rfl⟩
  | some document =>
    by_cases hid : document.id = some "doc-1"
    · cases hcreator : document.creator with
      | none => exact absurd ⟨document, rfl, hid, hcreator⟩ h
      | some creator =>
        rw [checkReading, if_neg (not_not_intro hid), hcreator]
        exact ⟨_, rfl⟩
    · exact ⟨_, if_pos hid⟩

/-- Reading back sends what its stage does, and checks what it comes to. -/
theorem run_checkRoundTrip (state : σ) :
    (checkRoundTrip mapper).run transport state =
      let run := (Stage.operation mapper .readBack).run transport state
      { result := (run.result.mapError .mapper).bind checkReading
        calls := run.calls
        state := run.state } := by
  show (step (Stage.operation mapper .readBack) >>= fun read? =>
    Program.lift (checkReading read?)).run transport state = _
  unfold step
  rw [Program.run_bind, Program.run_mapError]
  generalize (Stage.operation mapper .readBack).run transport state = run
  obtain ⟨result, calls, after⟩ := run
  cases result with
  | error cause => rfl
  | ok read? =>
    show Run.mk (checkReading read?) (calls ++ []) after = _
    rw [List.append_nil]
    rfl

/-- Reading back ends the session if the mapper fails or something else was read. -/
theorem follows_checkRoundTrip :
    Follows mapper transport (checkRoundTrip mapper) fun log _ =>
      ∃ calls came, log = [⟨.readBack, calls, came⟩] := by
  intro state
  rw [run_checkRoundTrip]
  refine ⟨_, logs_stage .readBack state ?_, _, _, rfl⟩
  generalize (Stage.operation mapper .readBack).run transport state = run
  obtain ⟨result, calls, after⟩ := run
  cases result with
  | error cause => exact ends_singleton_error (.inl ⟨cause, rfl, rfl⟩)
  | ok read? =>
    show Ends _ (checkReading read?)
    by_cases haccepts : Stage.Accepts .readBack read?
    · rw [checkReading_of_accepts haccepts]
      exact ends_singleton_ok ⟨read?, rfl, haccepts⟩ ()
    · obtain ⟨detail, hreading⟩ := exists_checkReading_of_not_accepts haccepts
      rw [hreading]
      exact ends_singleton_error (.inr ⟨read?, detail, rfl, haccepts, rfl⟩)

/-! ## Stages in a row -/

/-- The log goes along the stages: with a value to their end, and then log and value are as `V`
says. -/
structure Along (stages : List Stage) (V : List Event → α → Prop) (log : List Event)
    (result : Except SessionError α) : Prop where
  isPrefix : log.map Event.stage <+: stages
  of_ok : ∀ a, result = .ok a → log.map Event.stage = stages ∧ V log a

variable {first rest : List Stage} {V : List Event → α → Prop} {W : List Event → β → Prop}

/-- A log that goes along all of some stages goes on along the other ones. -/
theorem Along.append {log later : List Event} {result : Except SessionError β}
    (h : Along rest (fun later => W (log ++ later)) later result)
    (hfirst : log.map Event.stage = first) : Along (first ++ rest) W (log ++ later) result := by
  refine ⟨?_, fun b hb => ?_⟩
  · rw [List.map_append, hfirst]
    exact (List.prefix_append_right_inj _).mpr h.isPrefix
  · obtain ⟨hrest, hW⟩ := h.of_ok b hb
    rw [List.map_append, hfirst, hrest]
    exact ⟨rfl, hW⟩

theorem along_pure {a : α} (h : V [] a) : Follows mapper transport (pure a) (Along [] V) := by
  refine follows_pure ⟨List.nil_prefix, ?_⟩
  rintro _ ⟨⟩
  exact ⟨rfl, h⟩

theorem along_bind (h : Follows mapper transport p (Along first V))
    (hnext : ∀ log a, V log a →
      Follows mapper transport (f a) (Along rest fun later => W (log ++ later))) :
    Follows mapper transport (p >>= f) (Along (first ++ rest) W) := by
  refine h.bind ?_ ?_
  · rintro log e ⟨hreach, -⟩
    exact ⟨hreach.trans (List.prefix_append ..), nofun⟩
  · rintro log a ⟨-, hok⟩
    obtain ⟨hstages, hV⟩ := hok a rfl
    exact (hnext log a hV).mono fun later result halong => halong.append hstages

/-- A stage is followed by the other ones, which may rely on what its value counts. -/
theorem along_stage_bind (stage : Stage) {f : stage.Value → Step β}
    (haccepts : ∀ value, stage.Accepts value)
    (hnext : ∀ calls value, stage.Counts value → Follows mapper transport (f value)
      (Along rest fun later => W (⟨stage, calls, .ok value⟩ :: later))) :
    Follows mapper transport (step (stage.operation mapper) >>= f) (Along (stage :: rest) W) := by
  have hstage : Follows mapper transport (step (stage.operation mapper))
      (Along [stage] fun log value => ∃ calls, log = [⟨stage, calls, .ok value⟩] ∧
        stage.Counts value) := by
    refine (follows_stage stage haccepts).mono ?_
    rintro _ _ ⟨calls, came, rfl, rfl, hcounts⟩
    refine ⟨List.prefix_rfl, fun value hvalue => ⟨rfl, calls, ?_⟩⟩
    obtain rfl := Except.mapError_eq_ok_iff.mp hvalue
    exact ⟨rfl, hcounts value rfl⟩
  refine along_bind hstage ?_
  rintro _ value ⟨calls, rfl, hcounts⟩
  exact hnext calls value hcounts

end SearchMapper.Session
