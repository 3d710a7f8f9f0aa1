import ChatTemplate.Proofs.Composition
import ChatTemplate.Proofs.CoupledEvaluation

/-!
Actions that look alike. What follows an action matters only where the action can end, and two
actions in sequence look alike if their parts do. The history of a machine records the expressions
at which the host is called; no evaluation depends on what it shows of them.
-/

set_option autoImplicit false

namespace ChatTemplate

variable {σ : Type}

/-! ## Actions that end alike -/

theorem Task.bind_congr_outcome {α β : Type} {task : Task σ α} {next next' : σ → α → Task σ β}
    (same : ∀ final value, task.outcome = (final, some value) →
      next final value = next' final value) : task.bind next = task.bind next' := by
  induction task with
  | done state value => exact same state value rfl
  | suspended state rest ih => exact congrArg (Task.suspended state) (ih same)
  | stuck => rfl

/-- What follows an action matters only for the value that it yields. -/
theorem Action.bind_congr_outcome {α β : Type} {first : Action σ α} {next next' : α → Action σ β}
    {start : σ} (same : ∀ final value, (first start).outcome = (final, some (.ok value)) →
      next value final = next' value final) : (first >>= next) start = (first >>= next') start := by
  refine Task.bind_congr_outcome fun final result ended => ?_
  cases result with
  | ok value => exact same final value ended
  | error => rfl

theorem Action.outcome_bind_of_ok {α β : Type} {first : Action σ α} {next : α → Action σ β}
    {start middle : σ} {value : α} (ended : (first start).outcome = (middle, some (.ok value))) :
    ((first >>= next) start).outcome = (next value middle).outcome := by
  change ((first start).bind _).outcome = _
  rw [Task.outcome_bind, ended]

/-- Tasks that look alike go on alike if what follows does, wherever the first one can end. -/
theorem Task.mapState_bind_congr {τ α β : Type} {view : σ → τ} {task task' : Task σ α}
    {next next' : σ → α → Task σ β} (same : task.mapState view = task'.mapState view)
    (after : ∀ final final' value, task.outcome = (final, some value) → view final = view final' →
      (next final value).mapState view = (next' final' value).mapState view) :
    (task.bind next).mapState view = (task'.bind next').mapState view := by
  -- Tasks that look alike are of the same form, so both are taken apart in step.
  induction task generalizing task' with
  | done state value =>
      cases task' with
      | done state' value' =>
          obtain ⟨states, rfl⟩ := Task.done.inj same
          exact after state state' value rfl states
      | suspended => cases same
      | stuck => cases same
  | suspended state rest ih =>
      cases task' with
      | suspended state' rest' =>
          obtain ⟨states, rests⟩ := Task.suspended.inj same
          change Task.suspended (view state) _ = Task.suspended (view state') _
          rw [states, ih rests after]
      | done => cases same
      | stuck => cases same
  | stuck state =>
      cases task' with
      | stuck state' => exact congrArg Task.stuck (Task.stuck.inj same)
      | done => cases same
      | suspended => cases same

theorem Task.mapState_mapState {τ ρ α : Type} (inner : σ → τ) (outer : τ → ρ) (task : Task σ α) :
    (task.mapState inner).mapState outer = task.mapState fun state => outer (inner state) := by
  induction task with
  | done => rfl
  | suspended state rest ih => exact congrArg (Task.suspended _) ih
  | stuck => rfl

/-- Two actions look alike from states that look alike. -/
def Action.Alike {τ α : Type} (view : σ → τ) (action action' : Action σ α) : Prop :=
  ∀ start start', view start = view start' →
    (action start).mapState view = (action' start').mapState view

theorem Action.mapState_bind_congr {τ α β : Type} {view : σ → τ} {first first' : Action σ α}
    {next next' : α → Action σ β} {start start' : σ}
    (same : (first start).mapState view = (first' start').mapState view)
    (after : ∀ final final' value, (first start).outcome = (final, some (.ok value)) →
      view final = view final' →
        (next value final).mapState view = (next' value final').mapState view) :
    ((first >>= next) start).mapState view = ((first' >>= next') start').mapState view := by
  refine Task.mapState_bind_congr same fun final final' result ended states => ?_
  cases result with
  | ok value => exact after final final' value ended states
  | error failure =>
      change Task.done (view final) _ = Task.done (view final') _
      rw [states]

theorem Action.Alike.bind {τ α β : Type} {view : σ → τ} {first first' : Action σ α}
    {next next' : α → Action σ β} (alike : first.Alike view first')
    (after : ∀ value, (next value).Alike view (next' value)) :
    (first >>= next).Alike view (first' >>= next') := by
  intro start start' states
  refine Action.mapState_bind_congr (alike start start' states) ?_
  exact fun final final' value _ states => after value final final' states

/-! ## Histories that show less of the sites -/

/-- An event that shows of a call expression only so much. -/
def HostEvent.viewed (view : Expression → Expression) : HostEvent → HostEvent
  | .called site function arguments scope => .called (view site) function arguments scope
  | .answered reply => .answered reply

namespace Machine

def viewed (view : Expression → Expression) (machine : Machine σ) : Machine σ :=
  { machine with history := machine.history.map (HostEvent.viewed view) }

variable {view : Expression → Expression} {machine machine' : Machine σ}

private theorem viewed_eq_iff : machine.viewed view = machine'.viewed view ↔
    machine.scope = machine'.scope ∧ machine.world = machine'.world ∧
      machine.history.map (HostEvent.viewed view) =
        machine'.history.map (HostEvent.viewed view) := by
  simp only [viewed, Machine.mk.injEq]

private theorem viewed_record (event : HostEvent) (machine : Machine σ) :
    (machine.record event).viewed view = (machine.viewed view).record (event.viewed view) := by
  simp only [viewed, record, Array.map_push]

/-- A call looks alike from call expressions of which the same is seen. -/
theorem invoke_alike (host : Host σ) {site site' : Expression} (sites : view site = view site')
    (spans : site.span = site'.span) (function : Nat) (arguments : List Value) :
    (invoke host site function arguments).Alike (viewed view)
      (invoke host site' function arguments) := by
  intro machine machine' same
  obtain ⟨scopes, worlds, histories⟩ := viewed_eq_iff.mp same
  have asking : ∀ world : σ, (machine.asking site function arguments world).viewed view =
      (machine'.asking site' function arguments world).viewed view := by
    intro world
    refine viewed_eq_iff.mpr ⟨scopes, rfl, ?_⟩
    simp only [Machine.asking, record, Array.map_push, histories, HostEvent.viewed, sites, scopes]
  rw [invoke_eq, invoke_eq, ← worlds, ← spans]
  refine Task.mapState_bind_congr ?_ fun during during' reply _ states => ?_
  · rw [Task.mapState_mapState, Task.mapState_mapState]
    exact congrArg (Task.mapState · _) (funext asking)
  · have answered : (during.record (.answered reply)).viewed view =
        (during'.record (.answered reply)).viewed view := by
      rw [viewed_record, viewed_record, states]
    exact congrArg (Task.done · _) answered

private theorem writePlace_alike (implicit : Bool) (place : Place) (value : Value) (span : Span) :
    (writePlace implicit place value span : Action (Machine σ) Unit).Alike (viewed view)
      (writePlace implicit place value span) := by
  intro machine machine' same
  obtain ⟨scopes, worlds, histories⟩ := viewed_eq_iff.mp same
  rw [writePlace_eq, writePlace_eq, ← scopes]
  cases place.write implicit value machine.scope with
  | ok scope =>
      refine congrArg (Task.done · _) ?_
      exact viewed_eq_iff.mpr ⟨rfl, worlds, histories⟩
  | error cause => exact congrArg (Task.done · _) same

theorem alike_composable (view : Expression → Expression) (host : Host σ) (implicit : Bool) :
    Machine.Composable host implicit fun _ action => action.Alike (viewed view) action where
  yields _ _ _ same := congrArg (Task.done · _) same
  fails _ _ _ _ same := congrArg (Task.done · _) same
  sequence alike after := alike.bind after
  looks {_ next} held machine machine' same := by
    change (next machine.scope machine).mapState _ = (next machine'.scope machine').mapState _
    rw [(viewed_eq_iff.mp same).1]
    exact held machine'.scope machine machine' same
  calls site := invoke_alike host rfl rfl
  writes := writePlace_alike implicit

end Machine

end ChatTemplate
