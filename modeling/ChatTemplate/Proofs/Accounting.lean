import ChatTemplate.Proofs.Draft.Trace
import ChatTemplate.Proofs.Frame

/-!
How a walk accounts for its failures. It fails in one of three ways: the host has reported the
failure of a call, and nothing has happened since; a node or an expression of the template has
failed where it stands; or the draft has refused the last operation of the log. As long as none of
this has happened, all that the host has been asked is answered without a report, and what has been
done to the draft are operations of the nodes of the template.
-/

set_option autoImplicit false

namespace ChatTemplate

variable {σ : Type}

/-! ## Environments -/

/-- There are as many environments as before, and the current one is the same. -/
def Scope.Level (before after : Scope) : Prop :=
  before.environments ≠ [] →
    after.environments.length = before.environments.length ∧ after.current = before.current

/-- The scope without the environments that have been opened inside an outer one. -/
def Scope.cutTo (scope outer : Scope) : Scope :=
  ⟨scope.environments.take outer.environments.length, outer.current⟩

namespace Scope

theorem Level.refl (scope : Scope) : scope.Level scope :=
  fun _ => ⟨rfl, rfl⟩

theorem Level.nonempty {before after : Scope} (level : before.Level after)
    (nonempty : before.environments ≠ []) : after.environments ≠ [] := by
  rw [← List.length_pos_iff, (level nonempty).1, List.length_pos_iff]
  exact nonempty

theorem Level.trans {first second third : Scope} (before : first.Level second)
    (after : second.Level third) : first.Level third := by
  intro nonempty
  obtain ⟨count, current⟩ := before nonempty
  obtain ⟨count', current'⟩ := after (before.nonempty nonempty)
  exact ⟨count'.trans count, current'.trans current⟩

theorem Framed.level {gained written : String → Prop} {before after : Scope}
    (framed : Framed gained written before after) : before.Level after :=
  fun _ => ⟨framed.count, framed.current⟩

theorem cutTo_self (scope : Scope) : scope.cutTo scope = scope := by
  rw [cutTo, List.take_length]

private theorem cutTo_congr (scope : Scope) {outer other : Scope}
    (count : other.environments.length = outer.environments.length)
    (current : other.current = outer.current) : scope.cutTo other = scope.cutTo outer := by
  rw [cutTo, cutTo, count, current]

/-- Returning to where a block was entered drops the environments opened since. -/
theorem rewind_push (scope outer : Scope) (nonempty : outer.environments ≠ [])
    (within : outer.environments.length ≤ scope.environments.length) :
    scope.rewind outer.push.1 = scope.cutTo outer := by
  have positive := List.length_pos_iff.mpr nonempty
  rw [rewind, push, if_pos (by simp [positive, within]), cutTo]

theorem level_rewind {scope outer : Scope} (nonempty : outer.environments ≠ [])
    (within : outer.environments.length ≤ scope.environments.length) :
    outer.Level (scope.rewind outer.push.1) := by
  rw [rewind_push scope outer nonempty within]
  exact fun _ => ⟨List.length_take_of_le within, rfl⟩

private theorem rewind_cutTo {scope inner outer : Scope} (nonempty : outer.environments ≠ [])
    (below : outer.environments.length ≤ inner.environments.length)
    (within : inner.environments.length ≤ scope.environments.length) :
    (scope.cutTo inner).rewind outer.push.1 = scope.cutTo outer := by
  have deep : outer.environments.length ≤ (scope.cutTo inner).environments.length := by
    rw [cutTo, List.length_take_of_le within]
    exact below
  rw [rewind_push _ outer nonempty deep, cutTo, cutTo, cutTo, List.take_take, Nat.min_eq_left below]

end Scope

/-! ## Reports of the host -/

/-- The event does not report a failure. -/
def HostEvent.Calm : HostEvent → Prop
  | .answered (.error _) => False
  | .called .. | .answered (.ok _) => True

/-- Between two states the host has not reported a failure. -/
def Machine.Calm (before after : Machine σ) : Prop :=
  ∃ events, after.history.toList = before.history.toList ++ events ∧ ∀ event ∈ events, event.Calm

theorem Machine.Calm.of_eq {before after : Machine σ} (same : after.history = before.history) :
    before.Calm after :=
  ⟨[], by rw [same, List.append_nil], nofun⟩

theorem Machine.Calm.trans {first second third : Machine σ} (before : first.Calm second)
    (after : second.Calm third) : first.Calm third := by
  obtain ⟨early, history, calm⟩ := before
  obtain ⟨late, history', calm'⟩ := after
  refine ⟨early ++ late, by rw [history', history, List.append_assoc], ?_⟩
  intro event member
  rcases List.mem_append.mp member with earlier | later
  · exact calm event earlier
  · exact calm' event later

/-- A call that the host has reported the failure of, with the variables as they were then. -/
structure FailedCall where
  callee : Expression
  arguments : List Expression
  optional : Bool
  place : Span
  function : Nat
  values : List Value
  scope : Scope
  report : HostFailure

namespace FailedCall

/-- The expression that has made the call. -/
def site (call : FailedCall) : Expression :=
  .call call.callee call.arguments call.optional call.place

def events (call : FailedCall) : List HostEvent :=
  [.called call.site call.function call.values call.scope, .answered (.error call.report)]

end FailedCall

/-- The host has reported the failure of a call of one of the expressions. Since then nothing has
happened but that the environments opened since the start have been dropped. -/
structure Machine.BrokenBy (call : FailedCall) (all : List Expression)
    (before after : Machine σ) (failure : Failure) : Prop where
  site : call.site ∈ all
  history : ∃ calm, after.history.toList = before.history.toList ++ calm ++ call.events ∧
    ∀ event ∈ calm, event.Calm
  failure : failure = call.report.atCall call.place
  scope : before.scope.environments ≠ [] →
    before.scope.environments.length ≤ call.scope.environments.length ∧
      after.scope = call.scope.cutTo before.scope

theorem Machine.BrokenBy.behind {call : FailedCall} {all : List Expression}
    {first second third : Machine σ} {failure : Failure} (calm : first.Calm second)
    (level : first.scope.Level second.scope) (broken : BrokenBy call all second third failure) :
    BrokenBy call all first third failure where
  site := broken.site
  history := by
    obtain ⟨early, before, quiet⟩ := calm
    obtain ⟨late, after, quiet'⟩ := broken.history
    refine ⟨early ++ late, by rw [after, before]; simp, ?_⟩
    intro event member
    rcases List.mem_append.mp member with earlier | later
    · exact quiet event earlier
    · exact quiet' event later
  failure := broken.failure
  scope nonempty := by
    obtain ⟨count, current⟩ := level nonempty
    obtain ⟨within, cut⟩ := broken.scope (level.nonempty nonempty)
    exact ⟨count ▸ within, cut.trans (call.scope.cutTo_congr count current)⟩

/-! ## Evaluations -/

/-- The contract of an evaluation among the given expressions. -/
def Machine.accounting (all : List Expression) : Contract (Machine σ) where
  seen := Calm
  kept before after := Calm before after ∧ before.scope.Level after.scope
  failed before after failure := (∃ call, BrokenBy call all before after failure) ∨
    Calm before after ∧ ¬ failure.cause.Belated ∧ ∃ node ∈ all, failure.span = some node.span
  refl machine := ⟨.of_eq rfl, .refl machine.scope⟩
  trans before after := ⟨before.1.trans after.1, before.2.trans after.2⟩
  trans_seen before after := before.1.trans after
  trans_failed := by
    rintro first second third failure ⟨calm, level⟩ (⟨call, broken⟩ | ⟨later, located⟩)
    · exact .inl ⟨call, broken.behind calm level⟩
    · exact .inr ⟨calm.trans later, located⟩

theorem Machine.invoke_accounts (host : Host σ) {all : List Expression} {callee : Expression}
    {arguments : List Expression} {optional : Bool} {place : Span}
    (member : .call callee arguments optional place ∈ all) (function : Nat) (values : List Value) :
    (Machine.invoke host (.call callee arguments optional place) function values).Meets
      (accounting all) := by
  intro machine
  refine (always_invoke host _ function values machine).imp ?_ ?_
  · rintro during ⟨-, history⟩
    exact ⟨[_], by rw [history, Array.toList_push], by simp [HostEvent.Calm]⟩
  · rintro after _ ⟨scope, reply, history, rfl⟩
    cases reply with
    | ok value =>
        refine ⟨⟨[.called (.call callee arguments optional place) function values machine.scope,
          .answered (.ok value)], ?_, ?_⟩, ?_⟩
        · simp [history]
        · simp [HostEvent.Calm]
        · rw [scope]
          exact .refl machine.scope
    | error report =>
        left
        refine ⟨⟨callee, arguments, optional, place, function, values, machine.scope, report⟩, ?_⟩
        refine ⟨member, ⟨[], ?_, nofun⟩, rfl, fun _ => ⟨Nat.le_refl _, ?_⟩⟩
        · rw [history, Array.toList_push, Array.toList_push, List.append_nil, List.append_assoc]
          rfl
        · rw [scope, Scope.cutTo_self]

theorem Machine.writePlace_accounts {all : List Expression} {node : Expression}
    (member : node ∈ all) (implicit : Bool) (place : Place) (value : Value) :
    (writePlace implicit place value node.span : Action (Machine σ) Unit).Meets
      (accounting all) := by
  intro machine
  refine always_writePlace ?_ ?_
  · intro scope wrote
    have framed : Scope.Framed (fun _ => True) (fun _ => True) machine.scope scope :=
      Place.framed_write wrote trivial fun _ _ _ => trivial
    exact ⟨.of_eq rfl, framed.level⟩
  · intro cause refused
    exact .inr ⟨.of_eq rfl, place.prompt_write _ _ _ cause refused, node, member, rfl⟩

theorem Machine.accounting_meeting (host : Host σ) (implicit : Bool) (all : List Expression) :
    Machine.Meeting (Machine.accounting all) host implicit all where
  fails node member _ prompt _ := .inr ⟨.of_eq rfl, prompt, node, member, rfl⟩
  invoke _ _ _ _ member := invoke_accounts host member
  assign _ _ _ member root path _ _ new :=
    writePlace_accounts member implicit ⟨root, path⟩ new
  rewrite _ member root _ path _ _ after _ _ new :=
    writePlace_accounts member implicit ⟨root, path⟩ new after

/-! ## Walks -/

/-- Operations that nodes of the template do, in the order of the log. -/
def Template.DoesAll (template : Template) (operations : List Draft.Operation) : Prop :=
  ∀ operation ∈ operations, operation.Walked ∧ ∃ node ∈ template.nodes, node.Does operation

theorem Template.DoesAll.append {template : Template} {early late : List Draft.Operation}
    (before : template.DoesAll early) (after : template.DoesAll late) :
    template.DoesAll (early ++ late) := by
  intro operation member
  rcases List.mem_append.mp member with earlier | later
  · exact before operation earlier
  · exact after operation later

/-- The log has had operations added, and the draft is as they leave it. -/
def Walk.Logged (template : Template) (before after : Walk σ) : Prop :=
  ∃ operations, after.operations.toList = before.operations.toList ++ operations ∧
    before.draft.applyAll operations = (.ok (), after.draft) ∧ template.DoesAll operations

/-- The draft has refused the last operation of the log, which some node of the template does. -/
structure Walk.RefusedAt (template : Template) (before after : Walk σ) (failure : Failure)
    (operations : List Draft.Operation) (reached : Draft) (node : Template)
    (operation : Draft.Operation) (cause : Cause) : Prop where
  log : after.operations.toList = before.operations.toList ++ operations ++ [operation]
  applied : before.draft.applyAll operations = (.ok (), reached)
  done : template.DoesAll operations
  member : node ∈ template.nodes
  does : node.Does operation
  walked : operation.Walked
  refused : reached.apply operation = (.error cause, after.draft)
  failure : failure = ⟨cause, some ((after.draft.origin? cause).getD node.span)⟩

/-- A place of a node of the template, or of an expression in it. -/
def Template.HasPlace (template : Template) (place : Span) : Prop :=
  (∃ node ∈ template.nodes, node.span = place) ∨
    ∃ expression ∈ template.expressions, expression.span = place

/-- The contract of the walk of a template. -/
def Walk.accounting (template : Template) : Contract (Walk σ) where
  seen before during := before.machine.Calm during.machine
  kept before after := before.machine.Calm after.machine ∧
    before.machine.scope.Level after.machine.scope ∧ Logged template before after
  failed before after failure :=
    (∃ call, Machine.BrokenBy call template.expressions before.machine after.machine failure) ∨
      before.machine.Calm after.machine ∧
        ((¬ failure.cause.Belated ∧ ∃ place, failure.span = some place ∧ template.HasPlace place) ∨
          ∃ operations reached node operation cause,
            RefusedAt template before after failure operations reached node operation cause)
  refl walk := ⟨.of_eq rfl, .refl _, [], by simp, rfl, nofun⟩
  trans := by
    rintro first second third ⟨calm, level, early, log, reached, done⟩
      ⟨calm', level', late, log', reached', done'⟩
    refine ⟨calm.trans calm', level.trans level', early ++ late, ?_, ?_, done.append done'⟩
    · rw [log', log, List.append_assoc]
    · rw [Draft.applyAll_append_of_ok reached, reached']
  trans_seen before after := before.1.trans after
  trans_failed := by
    rintro first second third failure ⟨calm, level, early, log, reached, done⟩
      (⟨call, broken⟩ | ⟨calm', located | ⟨late, refusing, node, operation, cause, refused⟩⟩)
    · exact .inl ⟨call, broken.behind calm level⟩
    · exact .inr ⟨calm.trans calm', .inl located⟩
    · refine .inr ⟨calm.trans calm', .inr ⟨early ++ late, refusing, node, operation, cause, ?_⟩⟩
      exact {
        refused with
        log := by rw [refused.log, log, List.append_assoc first.operations.toList]
        applied := by rw [Draft.applyAll_append_of_ok reached, refused.applied]
        done := done.append refused.done }

namespace Walk

private theorem perform_accounts {template node : Template} {operation : Draft.Operation}
    (member : node ∈ template.nodes) (does : node.Does operation) (walked : operation.Walked) :
    (Walk.perform (σ := σ) operation node.span).Meets (accounting template) := by
  intro walk
  rw [Action.MeetsFrom, perform_eq]
  cases result : (walk.draft.apply operation).1 with
  | ok =>
      have applied : walk.draft.apply operation = (.ok (), (walk.draft.apply operation).2) :=
        Prod.ext result rfl
      refine ⟨.of_eq rfl, .refl _, [operation], by simp, ?_, ?_⟩
      · rw [Draft.applyAll, applied]
        rfl
      · simpa [Template.DoesAll] using ⟨walked, node, member, does⟩
  | error cause =>
      refine .inr ⟨.of_eq rfl, .inr ⟨[], walk.draft, node, operation, cause, ?_⟩⟩
      exact {
        log := by simp
        applied := rfl
        done := nofun
        member, does, walked
        refused := Prod.ext result rfl
        failure := rfl }

private theorem inBlock_accounts {template : Template} (bindings : List (String × Value))
    {body : Action (Walk σ) Unit} (meets : body.Meets (accounting template)) :
    (Walk.inBlock bindings body).Meets (accounting template) := by
  -- Inside a block there is one environment more than around it.
  have opened : ∀ outer : Scope, (bindings.foldl
      (fun scope binding => scope.declare binding.1 binding.2) outer.push.2).environments.length =
        outer.environments.length + 1 :=
    fun outer => (outer.declare_all_after_push bindings).1
  have nonempty : ∀ outer : Scope, (bindings.foldl
      (fun scope binding => scope.declare binding.1 binding.2) outer.push.2).environments ≠ [] := by
    intro outer
    rw [← List.length_pos_iff, opened]
    exact Nat.succ_pos _
  refine meets.around (fun _ _ calm => calm) ?_ ?_
  · rintro outer walk ⟨calm, level, logged⟩
    refine ⟨calm, fun around => ?_, logged⟩
    have count := (level (nonempty outer.machine.scope)).1.trans (opened outer.machine.scope)
    have within : outer.machine.scope.environments.length ≤
        walk.machine.scope.environments.length := by omega
    exact Scope.level_rewind around within around
  · rintro outer walk failure (⟨call, broken⟩ | ⟨calm, located | ⟨_, _, _, _, _, refused⟩⟩)
    · refine .inl ⟨call, broken.site, broken.history, broken.failure, fun around => ?_⟩
      obtain ⟨within, cut⟩ := broken.scope (nonempty outer.machine.scope)
      have deeper : outer.machine.scope.environments.length <
          (bindings.foldl (fun scope binding => scope.declare binding.1 binding.2)
            outer.machine.scope.push.2).environments.length := by
        rw [opened]
        exact Nat.lt_succ_self _
      have below := Nat.le_of_lt deeper
      have rewound := Scope.rewind_cutTo around below within
      refine ⟨Nat.le_trans below within, ?_⟩
      exact (congrArg (Scope.rewind · outer.machine.scope.push.1) cut).trans rewound
    · exact .inr ⟨calm, .inl located⟩
    · exact .inr ⟨calm, .inr ⟨_, _, _, _, _, { refused with }⟩⟩

private theorem accounting_meeting (host : Host σ) (implicit : Bool) (template : Template) :
    Walk.Meeting (Walk.accounting template) (Machine.accounting template.expressions) host implicit
      template.nodes template.expressions where
  machine := Machine.accounting_meeting host implicit template.expressions
  evaluating action meets := by
    refine meets.focus (fun _ _ calm => calm) ?_ ?_
    · rintro walk machine ⟨calm, level⟩
      exact ⟨calm, level, [], by simp, rfl, nofun⟩
    · rintro walk machine failure (⟨call, broken⟩ | ⟨calm, prompt, node, member, located⟩)
      · exact .inl ⟨call, broken⟩
      · exact .inr ⟨calm, .inl ⟨prompt, node.span, located, .inr ⟨node, member, rfl⟩⟩⟩
  fails node member _ prompt _ :=
    .inr ⟨.of_eq rfl, .inl ⟨prompt, node.span, rfl, .inl ⟨node, member, rfl⟩⟩⟩
  failsIn expression member _ prompt _ :=
    .inr ⟨.of_eq rfl, .inl ⟨prompt, expression.span, rfl, .inr ⟨expression, member, rfl⟩⟩⟩
  perform _ member _ does walked := perform_accounts member does walked
  block bindings _ := inBlock_accounts bindings

end Walk

theorem Template.walk_accounts (host : Host σ) (implicit : Bool) (template : Template) :
    (template.walk host implicit).Meets (Walk.accounting template) :=
  template.walk_meets (Walk.accounting_meeting host implicit template) (List.Subset.refl _)
    (List.Subset.refl _)

end ChatTemplate
