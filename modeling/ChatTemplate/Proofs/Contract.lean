import ChatTemplate.Evaluation.Action
import ChatTemplate.Proofs.Task

/-!
Contracts of actions. A contract says which states an action may be seen in and end in, seen from
the state that it was started in, and which failures it may end with there. An action meets a
contract in sequence, in loops and in blocks if its parts do, so that this has to be shown for the
primitive actions only. A sequence stops at the first failure: what has failed is carried back
behind what was kept before it, and nothing is ever added to it.
-/

set_option autoImplicit false

namespace ChatTemplate

variable {σ ρ α β : Type}

/-- Relations between the state that an action is started in and those that follow: the states that
it is suspended in, that it ends in with a value, and that it ends in with a failure. -/
structure Contract (σ : Type) where
  seen : σ → σ → Prop
  kept : σ → σ → Prop
  failed : σ → σ → Failure → Prop
  refl : ∀ state, kept state state
  trans : ∀ {first second third}, kept first second → kept second third → kept first third
  trans_seen : ∀ {first second third}, kept first second → seen second third → seen first third
  trans_failed : ∀ {first second third failure},
    kept first second → failed second third failure → failed first third failure

def Contract.ends (contract : Contract σ) (start state : σ) : Except Failure α → Prop
  | .ok _ => contract.kept start state
  | .error failure => contract.failed start state failure

namespace Action

/-- From a state, an action goes through states as its contract says. -/
def MeetsFrom (contract : Contract σ) (action : Action σ α) (start : σ) : Prop :=
  (action start).Always (contract.seen start) (contract.ends start)

/-- An action meets a contract if it does so from every state. -/
def Meets (contract : Contract σ) (action : Action σ α) : Prop :=
  ∀ start, action.MeetsFrom contract start

section Meets

variable {contract : Contract σ}

theorem meets_pure (value : α) : (pure value : Action σ α).Meets contract := contract.refl

theorem meets_state : (state : Action σ σ).Meets contract := contract.refl

theorem meets_failAt {span : Span} {cause : Cause}
    (fails : ∀ state, contract.failed state state ⟨cause, some span⟩) :
    (failAt span cause : Action σ α).Meets contract :=
  fails

theorem meets_located {span : Span} {result : Except Cause α}
    (fails : ∀ cause, result = .error cause →
      ∀ state, contract.failed state state ⟨cause, some span⟩) :
    (located span result : Action σ α).Meets contract := by
  cases result with
  | ok value => exact meets_pure value
  | error cause => exact meets_failAt (fails cause rfl)

/-- What follows an action may rely on the state that the action leaves and on its value. -/
theorem MeetsFrom.bind {first : Action σ α} {next : α → Action σ β} {start : σ}
    (meets : first.MeetsFrom contract start)
    (after : ∀ state value, (first start).outcome = (state, some (.ok value)) →
      contract.kept start state → (next value).MeetsFrom contract state) :
    (first >>= next).MeetsFrom contract start := by
  refine Task.Always.bind meets.and_outcome ?_
  rintro state result ⟨ends, ended⟩
  cases result with
  | error failure => exact ends
  | ok value =>
      -- What the contract says from the middle state is carried back to the start.
      refine (after state value ended ends).imp (fun _ => contract.trans_seen ends) ?_
      intro final result reached
      cases result with
      | ok => exact contract.trans ends reached
      | error => exact contract.trans_failed ends reached

theorem Meets.bind {first : Action σ α} {next : α → Action σ β} (meets : first.Meets contract)
    (after : ∀ value, (next value).Meets contract) : (first >>= next).Meets contract :=
  fun start => (meets start).bind fun state value _ _ => after value state

theorem Meets.forEach {items : List α} {action : α → Action σ Unit}
    (meets : ∀ item, (action item).Meets contract) : (forEach items action).Meets contract := by
  induction items with
  | nil => exact meets_pure ()
  | cons item rest ih => exact (meets item).bind fun _ => ih

/-- An action on a part of the state meets for the whole what it meets for the part. -/
theorem Meets.focus {inner : Contract ρ} {action : Action ρ α} {part : σ → ρ}
    {replace : σ → ρ → σ} (meets : action.Meets inner)
    (seen : ∀ state after, inner.seen (part state) after →
      contract.seen state (replace state after))
    (kept : ∀ state after, inner.kept (part state) after →
      contract.kept state (replace state after))
    (failed : ∀ state after failure, inner.failed (part state) after failure →
      contract.failed state (replace state after) failure) :
    (action.focus part replace).Meets contract := by
  intro start
  refine (meets (part start)).mapState (seen start) ?_
  intro state result ends
  cases result with
  | ok => exact kept start state ends
  | error failure => exact failed start state failure ends

/-- An action that is entered and left through changes of the state. How a state is left may depend
on the state before it was entered. -/
theorem Meets.around {action : Action σ α} {enter : σ → σ} {leave : σ → σ → σ}
    (meets : action.Meets contract)
    (seen : ∀ outer state, contract.seen (enter outer) state → contract.seen outer state)
    (kept : ∀ outer state, contract.kept (enter outer) state →
      contract.kept outer (leave outer state))
    (failed : ∀ outer state failure, contract.failed (enter outer) state failure →
      contract.failed outer (leave outer state) failure) :
    Meets contract fun outer => action.ensuring (leave outer) (enter outer) := by
  intro outer
  refine Task.Always.bind ((meets (enter outer)).imp (seen outer) fun _ _ ends => ends) ?_
  intro state result ends
  cases result with
  | ok => exact kept outer state ends
  | error failure => exact failed outer state failure ends

theorem Meets.ended {action : Action σ α} (meets : action.Meets contract) {start final : σ}
    {result : Except Failure α} (ended : (action start).outcome = (final, some result)) :
    contract.ends start final result :=
  (meets start).outcome ended

end Meets

end Action

end ChatTemplate
