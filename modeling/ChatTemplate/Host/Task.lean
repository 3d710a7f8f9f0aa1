/-!
Computations that may be suspended. A task shows what a computation does as seen from outside: it is
done, or it hands control back for a while and then goes on, or it hands control back for good. At
every such moment the state of the computation can be seen. Whoever waits for a task may give up
when it is suspended, and at no other moment.
-/

set_option autoImplicit false

namespace ChatTemplate

/-- What a computation does: it is done with a value, it is suspended and resumed later, or it is
suspended and never resumed. -/
inductive Task (σ α : Type) where
  | done (state : σ) (value : α)
  | suspended (state : σ) (rest : Task σ α)
  | stuck (state : σ)

namespace Task

variable {σ τ α β : Type}

/-- The task that goes on with another one where the first is done. -/
def bind : Task σ α → (σ → α → Task σ β) → Task σ β
  | .done state value, next => next state value
  | .suspended state rest, next => .suspended state (rest.bind next)
  | .stuck state, _ => .stuck state

/-- The task with every state seen through a function. -/
def mapState (view : σ → τ) : Task σ α → Task τ α
  | .done state value => .done (view state) value
  | .suspended state rest => .suspended (view state) (rest.mapState view)
  | .stuck state => .stuck (view state)

/-- The last state of a task and, unless it is stuck, its value. -/
def outcome : Task σ α → σ × Option α
  | .done state value => (state, some value)
  | .suspended _ rest => rest.outcome
  | .stuck state => (state, none)

/-- When someone who waits for a task gives up. Moments are numbered by the suspensions so far. A
time limit that has not run out before is sure to do so while a task is stuck. -/
structure Patience (σ : Type) where
  limited : Bool
  /-- Whether the time limit has run out at a suspension. -/
  expired : Nat → Bool
  /-- Whether the task has been aborted at a suspension, in the state that it then has. -/
  aborted : Nat → σ → Bool

inductive Ending (α : Type) where
  | finished (value : α)
  | timedOut
  | aborted
  | waiting

/-- Waits for a task that has been suspended `count` times. At a suspension the time limit is looked
at first and an abort after it; a task that is done is finished, whatever has happened since it was
last suspended. -/
def await (patience : Patience σ) (count : Nat) : Task σ α → σ × Ending α
  | .done state value => (state, .finished value)
  | .suspended state rest =>
      if patience.limited && patience.expired count then (state, .timedOut)
      else if patience.aborted count state then (state, .aborted)
      else rest.await patience (count + 1)
  | .stuck state =>
      if patience.limited && patience.expired count then (state, .timedOut)
      else if patience.aborted count state then (state, .aborted)
      else if patience.limited then (state, .timedOut)
      else (state, .waiting)

@[simp] theorem bind_done (task : Task σ α) : task.bind .done = task := by
  induction task with
  | done => rfl
  | suspended _ _ ih => simp [bind, ih]
  | stuck => rfl

theorem bind_assoc {γ : Type} (task : Task σ α) (next : σ → α → Task σ β)
    (last : σ → β → Task σ γ) :
    (task.bind next).bind last = task.bind fun state value => (next state value).bind last := by
  induction task with
  | done => rfl
  | suspended _ _ ih => simp [bind, ih]
  | stuck => rfl

@[simp] theorem outcome_bind (task : Task σ α) (next : σ → α → Task σ β) :
    (task.bind next).outcome =
      match task.outcome with
      | (state, some value) => (next state value).outcome
      | (state, none) => (state, none) := by
  induction task with
  | done => rfl
  | suspended _ _ ih => exact ih
  | stuck => rfl

end Task

end ChatTemplate
