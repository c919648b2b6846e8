import Cadence.Log.Event

/-! # Journaled computations

A computation that may fail and that keeps a journal of events. The journal
survives a failure: it holds what happened up to that point. The outcome never
depends on the journal, and `outcome` turns a sequence of steps into the same
sequence of plain steps. -/

namespace Cadence

/-- An outcome, and the events on the way to it. -/
structure Journaled (ε α : Type) where
  outcome : Except ε α
  events : List Log.Event

namespace Journaled

variable {ε α β : Type}

/-- A result without events. -/
def result (a : α) : Journaled ε α := ⟨.ok a, []⟩

/-- Goes on with a result, and keeps the events of both steps. -/
def andThen (x : Journaled ε α) (f : α → Journaled ε β) : Journaled ε β :=
  match x.outcome with
  | .ok a => ⟨(f a).outcome, x.events ++ (f a).events⟩
  | .error e => ⟨.error e, x.events⟩

instance : Monad (Journaled ε) where
  pure := result
  bind := andThen

/-- A plain step. -/
def lift (x : Except ε α) : Journaled ε α := ⟨x, []⟩

/-- A plain step that notes its success. -/
def noting (x : Except ε α) (note : α → Log.Event) : Journaled ε α :=
  match x with
  | .ok a => ⟨.ok a, [note a]⟩
  | .error e => ⟨.error e, []⟩

/-- Stops with an error. -/
def fail (e : ε) : Journaled ε α := ⟨.error e, []⟩

/-! ### Outcomes -/

@[simp] theorem outcome_pure (a : α) : (pure a : Journaled ε α).outcome = .ok a := rfl

@[simp] theorem outcome_bind (x : Journaled ε α) (f : α → Journaled ε β) :
    (x >>= f).outcome = x.outcome >>= fun a => (f a).outcome := by
  change (x.andThen f).outcome = _
  unfold andThen
  cases x.outcome <;> rfl

@[simp] theorem outcome_lift (x : Except ε α) : (lift x).outcome = x := rfl

@[simp] theorem outcome_noting (x : Except ε α) (note : α → Log.Event) :
    (noting x note).outcome = x := by
  cases x <;> rfl

@[simp] theorem outcome_fail (e : ε) : (fail e : Journaled ε α).outcome = .error e := rfl

end Journaled

end Cadence
