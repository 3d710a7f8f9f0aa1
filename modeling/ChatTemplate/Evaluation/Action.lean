import ChatTemplate.Host.Basic

/-!
Steps of an evaluation. An action turns a state into a task that ends with a value or a failure; the
state that it has reached is kept in both cases. Actions in sequence stop at the first failure.
-/

set_option autoImplicit false

namespace ChatTemplate

/-- A step of an evaluation over states `σ` that yields a value of type `α` or fails. -/
def Action (σ α : Type) : Type := σ → Task σ (Except Failure α)

namespace Action

variable {σ τ α β : Type}

def yield (value : α) : Action σ α := fun state => .done state (.ok value)

def andThen (action : Action σ α) (next : α → Action σ β) : Action σ β := fun state =>
  (action state).bind fun state result =>
    match result with
    | .ok value => next value state
    | .error failure => .done state (.error failure)

instance : Monad (Action σ) where
  pure := yield
  bind := andThen

instance : LawfulMonad (Action σ) :=
  LawfulMonad.mk' _
    (by
      intro α action
      funext state
      show (action state).bind _ = action state
      refine (congrArg (Task.bind (action state)) ?_).trans (Task.bind_done _)
      funext state result
      cases result <;> rfl)
    (by
      intro α β value next
      rfl)
    (by
      intro α β γ action next last
      funext state
      show ((action state).bind _).bind _ = (action state).bind _
      rw [Task.bind_assoc]
      congr 1
      funext state result
      cases result <;> rfl)

def fail (failure : Failure) : Action σ α := fun state => .done state (.error failure)

def failAt (span : Span) (cause : Cause) : Action σ α :=
  fail ⟨cause, some span⟩

def state : Action σ σ := fun state => .done state (.ok state)

def modify (change : σ → σ) : Action σ Unit := fun state => .done (change state) (.ok ())

/-- A result that is known, with the place of a failure. -/
def located (span : Span) : Except Cause α → Action σ α
  | .ok value => yield value
  | .error cause => failAt span cause

def focus (part : σ → τ) (replace : σ → τ → σ) (action : Action τ α) : Action σ α := fun state =>
  (action (part state)).mapState (replace state)

/-- Runs an action and then changes the state, also when the action has failed. -/
def ensuring (action : Action σ α) (change : σ → σ) : Action σ α := fun state =>
  (action state).bind fun state result => .done (change state) result

def forEach (items : List α) (action : α → Action σ Unit) : Action σ Unit :=
  match items with
  | [] => yield ()
  | item :: rest => andThen (action item) fun _ => forEach rest action

end Action

end ChatTemplate
