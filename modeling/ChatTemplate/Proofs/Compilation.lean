import ChatTemplate.Compilation
import ChatTemplate.Proofs.Draft.Step
import ChatTemplate.Proofs.Rendering

/-!
Compilations that yield messages. Behind such a compilation stands a walk that has ended, and behind
that a run of the operations that the walk has recorded.
-/

set_option autoImplicit false

namespace ChatTemplate

variable {σ : Type}

def Machine.starting (settings : Settings) (registry : Registry) (now : Int) (scope : Scope)
    (world : σ) : Machine σ :=
  ⟨settings.prepare registry now scope, world, #[]⟩

def Walk.starting (settings : Settings) (registry : Registry) (now : Int) (scope : Scope)
    (world : σ) : Walk σ :=
  ⟨.starting settings registry now scope world, .ofSettings settings, #[]⟩

/-- A compilation that is not cut off comes from a walk that has ended, however impatiently it was
waited for. -/
theorem Template.walked_of_compileWithin {settings : Settings} {registry : Registry}
    {host : Host σ} {now : Int} {interruption : Interruption σ} {template : Template}
    {scope : Scope} {world : σ} {machine : Machine σ} {result : Except Failure (List Message)}
    (compiled : template.compileWithin settings registry host now interruption scope world =
      (machine, some result))
    (uncancelled : ∀ reason, result ≠ cancelled reason) :
    ∃ (final : Walk σ) (walked : Except Failure Unit),
      (template.walk host settings.implicitDeclarations
        (.starting settings registry now scope world)).outcome = (final, some walked) ∧
      final.machine = machine ∧ result = walked.bind fun _ => final.draft.finish := by
  unfold compileWithin at compiled
  split at compiled
  · cases compiled
    exact absurd rfl (uncancelled _)
  · dsimp only at compiled
    split at compiled
    · rename_i waited
      cases compiled
      have ended := Task.outcome_of_await waited
      rw [compile, render, Task.outcome_mapState] at ended
      obtain ⟨same, given⟩ := Prod.mk.inj ended
      change ((template.walk host settings.implicitDeclarations _).bind _).outcome.1.machine =
        _ at same
      change ((template.walk host settings.implicitDeclarations _).bind _).outcome.2 = _ at given
      rw [Task.outcome_bind] at same given
      split at given
      · rename_i final walked reached
        rw [reached] at same
        refine ⟨final, walked, reached, ?_⟩
        cases walked with
        | ok =>
            cases given
            exact ⟨same, rfl⟩
        | error failure =>
            cases given
            exact ⟨same, rfl⟩
      · cases given
    · cases compiled
      exact absurd rfl (uncancelled _)
    · cases compiled
      exact absurd rfl (uncancelled _)
    · cases compiled

/-- Messages come from a walk that has ended with a draft that could be finished. -/
theorem Template.walk_of_compileWithin {settings : Settings} {registry : Registry} {host : Host σ}
    {now : Int} {interruption : Interruption σ} {template : Template} {scope : Scope} {world : σ}
    {machine : Machine σ} {messages : List Message}
    (compiled : template.compileWithin settings registry host now interruption scope world =
      (machine, some (.ok messages))) :
    ∃ final : Walk σ,
      (template.walk host settings.implicitDeclarations
        (.starting settings registry now scope world)).outcome = (final, some (.ok ())) ∧
      final.machine = machine ∧ final.draft.finish = .ok messages := by
  obtain ⟨final, walked, ended, same, result⟩ := walked_of_compileWithin compiled nofun
  cases walked with
  | ok => exact ⟨final, ended, same, result.symm⟩
  | error failure => cases result

/-- The promise that a walk's draft is reached by the operations that the walk records. -/
def Walk.recording : Promise (Walk σ) where
  seen _ _ := True
  kept before after := ∃ operations,
    after.operations.toList = before.operations.toList ++ operations ∧
    before.draft.applyAll operations = (.ok (), after.draft) ∧
    ∀ operation ∈ operations, operation.Walked
  failed _ _ := True
  refl walk := ⟨[], by simp, rfl, by simp⟩
  stop _ := trivial
  trans := by
    rintro first second third ⟨early, log, reached, walked⟩ ⟨late, log', reached', walked'⟩
    refine ⟨early ++ late, by rw [log', log, List.append_assoc], ?_, ?_⟩
    · rw [Draft.applyAll_append, reached]
      exact reached'
    · intro operation member
      rcases List.mem_append.mp member with before | after
      · exact walked operation before
      · exact walked' operation after
  trans_seen _ _ := trivial
  trans_failed _ _ := trivial

theorem Walk.recording_keeping (host : Host σ) (implicit : Bool) (all : List Expression) :
    Walk.Keeping Walk.recording .nothing host implicit all where
  machine := .nothing host implicit all
  evaluating action keeps := by
    refine keeps.focus (fun _ _ _ => trivial) ?_ fun _ _ _ => trivial
    exact fun walk machine _ => ⟨[], by simp, rfl, by simp⟩
  perform operation span walked walk := by
    rw [Action.KeepsFrom, Walk.perform_eq]
    cases result : (walk.draft.apply operation).1 with
    | ok =>
        refine ⟨[operation], by simp, ?_, by simpa using walked⟩
        have applied : walk.draft.apply operation = (.ok (), (walk.draft.apply operation).2) :=
          Prod.ext result rfl
        rw [Draft.applyAll, applied]
        rfl
    | error => trivial
  block bindings body keeps := by
    refine keeps.around ?_ ?_ ?_
    · exact fun _ _ _ => trivial
    · exact fun _ _ reached => reached
    · exact fun _ _ _ => trivial

/-- The draft that a walk into a new one leaves is a run of what the walk has recorded. -/
theorem Template.applyAll_of_walk {settings : Settings} {registry : Registry} {host : Host σ}
    {now : Int} {template : Template} {scope : Scope} {world : σ} {implicit : Bool}
    {final : Walk σ}
    (ended : (template.walk host implicit (.starting settings registry now scope world)).outcome =
      (final, some (.ok ()))) :
    (Draft.ofSettings settings).applyAll final.operations.toList = (.ok (), final.draft) ∧
      ∀ operation ∈ final.operations.toList, operation.Walked := by
  have keeping := Walk.recording_keeping host implicit template.expressions
  have keeps := template.walk_keeps keeping (List.Subset.refl _)
  obtain ⟨operations, log, reached, walked⟩ := keeps.ended ended
  rw [Walk.starting, List.nil_append] at log
  rw [log]
  exact ⟨reached, walked⟩

/-- What holds of a new draft and is kept by every operation of a walk holds of the draft that a walk
leaves. -/
theorem Template.invariant_of_walk {settings : Settings} {registry : Registry} {host : Host σ}
    {now : Int} {template : Template} {scope : Scope} {world : σ} {implicit : Bool}
    {final : Walk σ} {invariant : List Draft.Operation → Draft → Prop}
    (ended : (template.walk host implicit (.starting settings registry now scope world)).outcome =
      (final, some (.ok ())))
    (first : invariant [] (.ofSettings settings))
    (step : ∀ operations draft operation after,
      (Draft.ofSettings settings).applyAll operations = (.ok (), draft) → draft.Nested →
        invariant operations draft → operation.Walked → draft.apply operation = (.ok (), after) →
          invariant (operations ++ [operation]) after) :
    invariant final.operations.toList final.draft := by
  obtain ⟨reached, walked⟩ := applyAll_of_walk ended
  exact (Draft.applyAll_induction (Draft.nested_ofSettings settings) first step walked reached).2

/-! ## Known operations -/

/-- A walk that leaves the machine alone and does a known row of operations, if the draft takes
them. -/
def Action.Performs (action : Action (Walk σ) Unit) (machine : Machine σ)
    (operations : List Draft.Operation) : Prop :=
  ∀ draft after log, draft.applyAll operations = (.ok (), after) →
    action ⟨machine, draft, log⟩ = .done ⟨machine, after, log ++ operations.toArray⟩ (.ok ())

section Performs

variable {host : Host σ} {implicit : Bool} {machine : Machine σ} {name : String}
  {attributes : List Attribute} {given : Attributes} {children : List Template} {span : Span}
  {operations : List Draft.Operation} {inside : Action (Walk σ) Unit}

theorem Action.performs_pure (machine : Machine σ) :
    (pure () : Action (Walk σ) Unit).Performs machine [] := by
  intro draft after log applied
  cases applied
  simp [pure, yield]

theorem Walk.performs_perform (machine : Machine σ) (operation : Draft.Operation) (span : Span) :
    (Walk.perform operation span).Performs machine [operation] := by
  intro draft after log applied
  rw [Draft.applyAll] at applied
  split at applied
  · rename_i taken
    cases applied
    rw [perform_eq, taken]
    simp
  · cases applied

theorem Action.Performs.bind {first second : Action (Walk σ) Unit}
    {early late : List Draft.Operation} (performs : first.Performs machine early)
    (then_performs : second.Performs machine late) :
    (first >>= fun _ => second).Performs machine (early ++ late) := by
  intro draft after log applied
  rw [Draft.applyAll_append] at applied
  split at applied
  · rename_i between reached
    show (first _).bind _ = _
    rw [performs draft between log reached]
    show second _ = _
    rw [then_performs between after _ applied]
    simp
  · cases applied

theorem Walk.evaluating_done {α : Type} {action : Action (Machine σ) α} {value : α}
    (evaluated : action machine = .done machine (.ok value)) (draft : Draft)
    (log : Array Draft.Operation) :
    Walk.evaluating action ⟨machine, draft, log⟩ = .done ⟨machine, draft, log⟩ (.ok value) := by
  rw [evaluating, Action.focus, evaluated]
  rfl

theorem Walk.performs_toolCall {closed : Bool} {call : ToolCall}
    (tagged : Tag.ofName name = .ok .toolCall)
    (evaluated : Attributes.evaluate host implicit name attributes machine =
      .done machine (.ok given))
    (declared : given.toolCall children = .ok call) :
    (Walk.element host implicit name attributes children closed span inside).Performs machine
      [.addToolCall ⟨span, call⟩] := by
  intro draft after log applied
  rw [element, tagged]
  show (Walk.evaluating _ _).bind _ = _
  rw [evaluating_done evaluated]
  show (Action.located span (given.toolCall children) >>= _) _ = _
  rw [declared]
  exact performs_perform machine _ span draft after log applied

theorem Walk.performs_message {implied : Option Role} {role : Role} {left : Attributes}
    (tagged : Tag.ofName name = .ok (.message implied))
    (evaluated : Attributes.evaluate host implicit name attributes machine =
      .done machine (.ok given))
    (taken : given.takeRole implied = (.ok role, left)) (checked : left.checkMessageFields = .ok ())
    (performs : inside.Performs machine operations) :
    (Walk.element host implicit name attributes children true span inside).Performs machine
      (.openMessage role left.toJson span :: (operations ++ [.closeMessage])) := by
  intro draft after log applied
  have row := (performs_perform machine (.openMessage role left.toJson span) span).bind
    (performs.bind (performs_perform machine .closeMessage span))
  rw [element, tagged]
  show (Walk.evaluating _ _).bind _ = _
  rw [evaluating_done evaluated]
  dsimp only [Task.bind]
  rw [taken, checked]
  exact row draft after log applied

end Performs

/-- A compilation gives what ending the document gives behind the operations of its walk. -/
theorem Template.compile_of_performs {settings : Settings} {registry : Registry} {host : Host σ}
    {now : Int} {template : Template} {scope : Scope} {world : σ}
    {operations : List Draft.Operation} {after : Draft}
    (performs : (template.walk host settings.implicitDeclarations).Performs
      (.starting settings registry now scope world) operations)
    (applied : (Draft.ofSettings settings).applyAll operations = (.ok (), after)) :
    template.compile settings registry host now scope world =
      .done (.starting settings registry now scope world) after.finish := by
  have walked := performs _ _ #[] applied
  rw [compile, render]
  show ((template.walk host settings.implicitDeclarations _).bind _).mapState _ = _
  rw [← Machine.starting, walked]
  rfl

end ChatTemplate
