import SearchMapper.Transport.Scripted

/-!
# What runs of a program ensure

`Program.Ensures` says of all runs of a program on a transport what calls they make and what
they come to. A program is taken apart along its steps: the calls of a step come before those
of the steps that follow, and an error ends the program with the calls made so far.
-/

namespace SearchMapper

namespace Program

variable {σ ε α β : Type} {transport : Transport σ}

/-! ## Runs -/

/-- A program runs its first step, and goes on with its value in the state it left. -/
theorem run_bind (p : Program ε α) (f : α → Program ε β) (state : σ) :
    (p >>= f).run transport state =
      match p.run transport state with
      | { result := .ok a, calls, state } =>
        let rest := (f a).run transport state
        { rest with calls := calls ++ rest.calls }
      | { result := .error e, calls, state } => { result := .error e, calls, state } := by
  show (p.bind f).run transport state = _
  induction p generalizing state with
  | done result =>
    cases result with
    | ok a => rfl
    | error e => rfl
  | call c next ih =>
    rw [Program.bind, run, run]
    simp only [ih]
    generalize (next (transport.send c state).1).run transport (transport.send c state).2 = first
    obtain ⟨result, calls, after⟩ := first
    cases result with
    | ok a => rfl
    | error e => rfl
  | newId next ih =>
    rw [Program.bind, run, run]
    exact ih _ _

/-- A program sends the same and goes on the same, whatever its errors are called. -/
theorem run_mapError {δ : Type} (f : ε → δ) (p : Program ε α) (state : σ) :
    (p.mapError f).run transport state =
      { result := (p.run transport state).result.mapError f
        calls := (p.run transport state).calls
        state := (p.run transport state).state } := by
  induction p generalizing state with
  | done result => rfl
  | call c next ih =>
    rw [mapError, run, run]
    simp only [ih]
  | newId next ih =>
    rw [mapError, run, run]
    exact ih _ _

/-! ## Postconditions -/

/-- All runs of the program on the transport make calls and come to a result as `Q` says. -/
def Ensures (transport : Transport σ) (p : Program ε α) (Q : List Call → Except ε α → Prop) :
    Prop :=
  ∀ state, Q (p.run transport state).calls (p.run transport state).result

variable {p : Program ε α} {f : α → Program ε β} {Q : List Call → Except ε α → Prop}

theorem ensures_done {result : Except ε α} (h : Q [] result) :
    (done result).Ensures transport Q := fun _ => h

theorem ensures_newId {next : String → Program ε α}
    (h : ∀ id, (next id).Ensures transport Q) : (newId next).Ensures transport Q :=
  fun _ => h _ _

theorem Ensures.mono {R : List Call → Except ε α → Prop} (h : p.Ensures transport Q)
    (himp : ∀ calls result, Q calls result → R calls result) : p.Ensures transport R :=
  fun state => himp _ _ (h state)

/-- A step that ends in an error ends the program; otherwise its calls come before those of
the steps that follow. -/
theorem Ensures.bind {R : List Call → Except ε β → Prop} (h : p.Ensures transport Q)
    (herror : ∀ calls e, Q calls (.error e) → R calls (.error e))
    (hnext : ∀ calls a, Q calls (.ok a) →
      (f a).Ensures transport fun later result => R (calls ++ later) result) :
    (p >>= f).Ensures transport R := by
  intro state
  have hp := h state
  rw [run_bind]
  generalize p.run transport state = first at hp ⊢
  obtain ⟨result, calls, after⟩ := first
  cases result with
  | ok a => exact hnext calls a hp after
  | error e => exact herror calls e hp

end Program

/-! ## Requests -/

/-- The transport itself fails with transport errors only. -/
def Transport.FailsAsTransport {σ : Type} (transport : Transport σ) : Prop :=
  ∀ (c : Call) (state : σ) (e : MapperError),
    (transport.send c state).1 = .error e → ∃ fault, e = .transport fault

/-- A scripted transport fails with transport errors only. -/
theorem Script.failsAsTransport : Script.transport.FailsAsTransport := by
  intro c script e h
  have hsend : (Script.send c script).1 = .error e := h
  unfold Script.send at hsend
  split at hsend
  · cases hsend
    exact ⟨_, rfl⟩
  · next reply rest _ =>
    cases hanswer : Script.answer c reply with
    | ok a =>
      rw [hanswer] at hsend
      cases hsend
    | error fault =>
      rw [hanswer] at hsend
      cases hsend
      exact ⟨fault, rfl⟩

namespace Operation

variable {σ : Type} {transport : Transport σ}

/-- After a request that failed, nothing more is done. -/
theorem run_send_bind_of_error {β : Type} {c : Call} {f : c.Reply → Operation β} {state : σ}
    {e : MapperError} (h : (transport.send c state).1 = .error e) :
    (send c >>= f).run transport state =
      { result := .error e, calls := [c], state := (transport.send c state).2 } := by
  have hsend : (send c).run transport state =
      { result := .error e, calls := [c], state := (transport.send c state).2 } := by
    rw [← h]
    rfl
  rw [Program.run_bind, hsend]

/-- After a request that was answered, the program goes on with the reply. -/
theorem run_send_bind_of_ok {β : Type} {c : Call} {f : c.Reply → Operation β} {state : σ}
    {reply : c.Reply} (h : (transport.send c state).1 = .ok reply) :
    (send c >>= f).run transport state =
      let rest := (f reply).run transport (transport.send c state).2
      { rest with calls := c :: rest.calls } := by
  have hsend : (send c).run transport state =
      { result := .ok reply, calls := [c], state := (transport.send c state).2 } := by
    rw [← h]
    rfl
  rw [Program.run_bind, hsend]
  rfl

/-- A request is one call, with what the transport says as its result. -/
theorem ensures_send (c : Call) :
    (send c).Ensures transport fun calls result =>
      calls = [c] ∧ ∃ state, result = (transport.send c state).1 :=
  fun state => ⟨rfl, state, rfl⟩

end Operation
end SearchMapper
