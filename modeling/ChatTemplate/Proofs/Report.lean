import ChatTemplate.Proofs.Accounting
import ChatTemplate.Proofs.Compilation

/-!
What a report of the host does. Once the host has reported that a call has failed, the host is not
called again and nothing is written: the walk ends with the report as it is, placed at the call
unless it has a place of its own.
-/

set_option autoImplicit false

namespace ChatTemplate

variable {σ α : Type}

/-- If the host has reported a failure, that is the last that has passed between expressions and
host. It answers a call of one of the expressions and gives the result; and of the variables as they
were at the call, those in the environments that were there at the start are left. -/
def AbortsAtReport (all : List Expression) (before after : Machine σ) (result : Except Failure α) :
    Prop :=
  ∀ earlier report later,
    after.history.toList = before.history.toList ++ earlier ++ .answered (.error report) :: later →
      later = [] ∧ ∃ call : FailedCall, call.site ∈ all ∧ call.report = report ∧
        (∃ calls, earlier =
          calls ++ [.called call.site call.function call.values call.scope]) ∧
        before.scope.environments.length ≤ call.scope.environments.length ∧
        after.scope = call.scope.cutTo before.scope ∧
        match report with
        | .message text => result = .error ⟨.callError text, some call.place⟩
        | .compilation ⟨cause, some place⟩ => result = .error ⟨cause, some place⟩
        | .compilation ⟨cause, none⟩ => result = .error ⟨cause, some call.place⟩

theorem Machine.Calm.aborts {all : List Expression} {before after : Machine σ}
    (calm : before.Calm after) (result : Except Failure α) :
    AbortsAtReport all before after result := by
  obtain ⟨events, history, calm⟩ := calm
  intro earlier report later split
  rw [history, List.append_assoc, List.append_right_inj] at split
  have reported : HostEvent.answered (.error report) ∈ events := by
    rw [split]
    exact List.mem_append_right _ List.mem_cons_self
  exact absurd reported (calm _)

theorem Machine.BrokenBy.aborts {call : FailedCall} {all : List Expression}
    {before after : Machine σ} {failure : Failure} (broken : BrokenBy call all before after failure)
    (nonempty : before.scope.environments ≠ []) :
    AbortsAtReport all before after (.error failure : Except Failure α) := by
  obtain ⟨site, ⟨calls, history, calm⟩, rfl, scope⟩ := broken
  obtain ⟨within, cut⟩ := scope nonempty
  intro earlier report later split
  have asked : calls ++ [.called call.site call.function call.values call.scope] ++
      [.answered (.error call.report)] = earlier ++ .answered (.error report) :: later := by
    rw [history, List.append_assoc, List.append_assoc, List.append_right_inj] at split
    rw [List.append_assoc]
    exact split
  rcases List.eq_nil_or_concat later with rfl | ⟨rest, last, rfl⟩
  · obtain ⟨rfl, same⟩ := List.append_inj' asked rfl
    cases List.singleton_inj.mp same
    refine ⟨rfl, call, site, rfl, ⟨calls, rfl⟩, within, cut, ?_⟩
    rcases call.report with ⟨cause, _ | place⟩ | text
    · rfl
    · rfl
    · rfl
  · -- An earlier report would be among the events before the last, which are calm.
    rw [List.concat_eq_append, ← List.cons_append, ← List.append_assoc] at asked
    have same := (List.append_inj' asked rfl).1
    have reported : HostEvent.answered (.error report) ∈
        calls ++ [.called call.site call.function call.values call.scope] := by
      rw [same]
      exact List.mem_append_right _ List.mem_cons_self
    rcases List.mem_append.mp reported with among | last
    · exact absurd among (calm _)
    · cases List.mem_singleton.mp last

theorem Settings.environments_prepare_ne_nil {settings : Settings} {registry : Registry} {now : Int}
    {scope : Scope} (nonempty : scope.environments ≠ []) :
    (settings.prepare registry now scope).environments ≠ [] := by
  have installed : ∀ (functions : List (String × Nat)) (scope : Scope), (functions.foldl
      (fun scope entry => scope.declareGlobal entry.1 (.function entry.2))
        scope).environments.length = scope.environments.length := by
    intro functions
    induction functions with
    | nil => exact fun _ => rfl
    | cons entry rest ih =>
        intro scope
        exact (ih _).trans (scope.length_declareAt 0 entry.1 _)
  have count : (settings.prepare registry now scope).environments.length =
      scope.environments.length := by
    unfold prepare
    split
    · exact (Scope.length_declareAt _ 0 _ _).trans (installed registry.functions.entries scope)
    · exact installed registry.functions.entries scope
  rw [← List.length_pos_iff, count, List.length_pos_iff]
  exact nonempty

theorem Walk.aborts_of_accounting {template : Template} {before after : Walk σ} {failure : Failure}
    (failed : (Walk.accounting template).failed before after failure)
    (nonempty : before.machine.scope.environments ≠ []) :
    AbortsAtReport template.expressions before.machine after.machine
      (.error failure : Except Failure α) := by
  rcases failed with ⟨call, broken⟩ | ⟨calm, -⟩
  · exact broken.aborts nonempty
  · exact calm.aborts _

/-- Walks and compilations abort at the first report of the host. Whenever one is suspended, or
waits for ever, the host has not reported a failure yet. -/
theorem Template.aborts_at_report (host : Host σ) (template : Template) {marks : List Scope.Mark}
    {scope : Scope} (reachable : Scope.Reachable marks scope) :
    (∀ (implicit : Bool) (walk : Walk σ), walk.machine.scope = scope →
      (template.walk host implicit walk).Always (fun during => walk.machine.Calm during.machine)
        fun final result =>
          AbortsAtReport template.expressions walk.machine final.machine result) ∧
    ∀ (settings : Settings) (registry : Registry) (now : Int) (world : σ),
      let start : Machine σ := .starting settings registry now scope world
      (template.compile settings registry host now scope world).Always start.Calm
        (AbortsAtReport template.expressions start) := by
  constructor
  · rintro implicit walk rfl
    refine (template.walk_accounts host implicit walk).imp (fun _ calm => calm) ?_
    intro final result ends
    cases result with
    | ok => exact ends.1.aborts _
    | error failure => exact Walk.aborts_of_accounting ends reachable.environments_ne_nil
  · intro settings registry now world start
    let walk : Walk σ := .starting settings registry now scope world
    refine Task.Always.mapState ?_ (fun _ calm => calm) fun _ _ aborts => aborts
    refine Task.Always.bind (template.walk_accounts host _ walk) ?_
    intro final result ends
    cases result with
    | ok => exact ends.1.aborts _
    | error failure =>
        refine Walk.aborts_of_accounting ends ?_
        exact Settings.environments_prepare_ne_nil reachable.environments_ne_nil

/-- The host that reports every call as failed. -/
def Host.offline : Host Unit := ⟨fun _ _ world => .done world (.error (.message "offline"))⟩

/-- A loop that adds the result of a call to a variable; the call is the right operand of a sum. -/
def Template.polling : Template :=
  .loop (.array [.literal (.string "a") {}, .literal (.string "b") {}] {}) "item" none
    [.interpolation (.assignment .plain (.identifier "last" {})
      (.binary (.arithmetic .add) (.identifier "item" {})
        (.call (.identifier "poll" {}) [] false ⟨7, 13⟩) {}) {}) {}]
    none {}

def Walk.pollingStart : Walk Unit :=
  ⟨⟨Scope.empty.declare "poll" (.function 0), (), #[]⟩, {}, #[]⟩

theorem polling_aborts :
    ∃ final : Walk Unit,
      (Template.polling.walk Host.offline true Walk.pollingStart).outcome =
          (final, some (.error ⟨.callError "offline", some ⟨7, 13⟩⟩)) ∧
        final.machine.history.size = 2 ∧
        AbortsAtReport Template.polling.expressions Walk.pollingStart.machine final.machine
          (.error ⟨.callError "offline", some ⟨7, 13⟩⟩ : Except Failure Unit) := by
  have reachable := Scope.Reachable.empty.declare "poll" (.function 0)
  have aborts := (Template.aborts_at_report Host.offline Template.polling reachable).1 true
    Walk.pollingStart rfl
  have failed : (Template.polling.walk Host.offline true Walk.pollingStart).outcome.2 =
      some (.error ⟨.callError "offline", some ⟨7, 13⟩⟩) := rfl
  exact ⟨_, Prod.ext rfl failed, rfl, aborts.outcome (Prod.ext rfl failed)⟩

end ChatTemplate
