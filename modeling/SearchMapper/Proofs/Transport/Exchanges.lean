import SearchMapper.Proofs.Transport.Runs
import SearchMapper.Transport.Http

/-!
# What runs over HTTP exchange

The calls of a run over a link, each with the reply that it got. `Program.EnsuresOver` says of all
runs of a program over a link what they exchange and what they come to, and is taken apart along the
steps of the program: what a step exchanges comes before what the steps after it do.
-/

namespace SearchMapper

/-- A call, and the reply to it. Without a reply the backend was not reached. -/
structure Http.Exchange where
  call : Call
  reply? : Option Http.Reply
deriving DecidableEq, Repr

namespace Program

variable {σ ε α β : Type} (link : Http.Link σ)

/-! ## Exchanges -/

/-- What a run of the program over the link exchanges, in order. -/
def exchanges : Program ε α → σ → List Http.Exchange
  | done _, _ => []
  | call c next, state =>
    ⟨c, (link.exchange (Http.request c) state).1⟩ ::
      (next (link.transport.send c state).1).exchanges (link.transport.send c state).2
  | newId next, state => (next (link.newId state).1).exchanges (link.newId state).2

/-- The calls of a run are those that it exchanges. -/
theorem map_call_exchanges (p : Program ε α) (state : σ) :
    (p.exchanges link state).map Http.Exchange.call = (p.run link.transport state).calls := by
  induction p generalizing state with
  | done result => rfl
  | call c next ih =>
    rw [exchanges, run, List.map_cons, ih]
  | newId next ih =>
    rw [exchanges, run, ih]
    rfl

theorem exchanges_eq_nil_iff (p : Program ε α) (state : σ) :
    p.exchanges link state = [] ↔ (p.run link.transport state).calls = [] := by
  rw [← map_call_exchanges, List.map_eq_nil_iff]

variable {link} {p : Program ε α} {f : α → Program ε β} {state : σ}

/-- After a step with a value, the program exchanges what its other steps do. -/
theorem exchanges_bind_of_ok {a : α} (h : (p.run link.transport state).result = .ok a) :
    (p >>= f).exchanges link state = p.exchanges link state ++
      (f a).exchanges link (p.run link.transport state).state := by
  show (p.bind f).exchanges link state = _
  induction p generalizing state with
  | done result =>
    obtain rfl : result = .ok a := h
    rfl
  | call c next ih =>
    have hnext : ((next (link.transport.send c state).1).run link.transport
      (link.transport.send c state).2).result = .ok a := h
    rw [Program.bind, exchanges, exchanges, ih _ hnext]
    rfl
  | newId next ih =>
    rw [Program.bind, exchanges, exchanges, ih _ h]
    rfl

/-- After a step that failed, nothing more is exchanged. -/
theorem exchanges_bind_of_error {e : ε} (h : (p.run link.transport state).result = .error e) :
    (p >>= f).exchanges link state = p.exchanges link state := by
  show (p.bind f).exchanges link state = _
  induction p generalizing state with
  | done result =>
    obtain rfl : result = .error e := h
    rfl
  | call c next ih =>
    have hnext : ((next (link.transport.send c state).1).run link.transport
      (link.transport.send c state).2).result = .error e := h
    rw [Program.bind, exchanges, exchanges, ih _ hnext]
  | newId next ih =>
    rw [Program.bind, exchanges, exchanges, ih _ h]

/-! ## Postconditions -/

variable {Q : List Http.Exchange → Except ε α → Prop}

/-- All runs of the program over the link exchange and come to what `Q` says. -/
def EnsuresOver (link : Http.Link σ) (p : Program ε α)
    (Q : List Http.Exchange → Except ε α → Prop) : Prop :=
  ∀ state, Q (p.exchanges link state) (p.run link.transport state).result

theorem EnsuresOver.mono {R : List Http.Exchange → Except ε α → Prop} (h : p.EnsuresOver link Q)
    (himp : ∀ exchanges result, Q exchanges result → R exchanges result) :
    p.EnsuresOver link R :=
  fun state => himp _ _ (h state)

/-- A step that ends in an error ends the program; otherwise what it exchanges comes before what
the steps that follow do. -/
theorem EnsuresOver.bind {R : List Http.Exchange → Except ε β → Prop} (h : p.EnsuresOver link Q)
    (herror : ∀ exchanges e, Q exchanges (.error e) → R exchanges (.error e))
    (hnext : ∀ exchanges a, Q exchanges (.ok a) →
      (f a).EnsuresOver link fun later result => R (exchanges ++ later) result) :
    (p >>= f).EnsuresOver link R := by
  intro state
  have hp := h state
  cases hresult : (p.run link.transport state).result with
  | ok a =>
    rw [hresult] at hp
    rw [exchanges_bind_of_ok hresult, run_bind]
    generalize p.run link.transport state = first at hresult ⊢
    obtain ⟨result, calls, after⟩ := first
    obtain rfl : result = .ok a := hresult
    exact hnext _ a hp after
  | error e =>
    rw [hresult] at hp
    rw [exchanges_bind_of_error hresult, run_bind]
    generalize p.run link.transport state = first at hresult ⊢
    obtain ⟨result, calls, after⟩ := first
    obtain rfl : result = .error e := hresult
    exact herror _ e hp

end Program
end SearchMapper
