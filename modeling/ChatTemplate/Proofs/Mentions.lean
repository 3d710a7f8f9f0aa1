import ChatTemplate.Compilation
import ChatTemplate.Proofs.Alongside
import ChatTemplate.Proofs.CoupledWalk
import Mathlib.Data.List.Forall2

/-!
Templates depend on what they mention. Two walks of a template, or evaluations of an expression, in
scopes that show the names of its identifiers alike go hand in hand: they end in the same way, ask
the host the same, and leave scopes that again show these names alike. Bindings of other names, and
where the names in question are bound, do not matter.
-/

set_option autoImplicit false

namespace ChatTemplate

variable {σ : Type}

/-- Events that differ in the variables around a call only, and not in those that are mentioned. -/
inductive HostEvent.Alike (mentioned : String → Prop) : HostEvent → HostEvent → Prop where
  | called (site : Expression) (function : Nat) (arguments : List Value) {scope scope' : Scope}
      (agree : Scope.Agree mentioned scope scope') :
      Alike mentioned (.called site function arguments scope)
        (.called site function arguments scope')
  | answered (reply : Except HostFailure Value) : Alike mentioned (.answered reply) (.answered reply)

/-- Two machines with the same world, the same events and the same values of what is mentioned. -/
structure Machine.Alike (mentioned : String → Prop) (machine machine' : Machine σ) : Prop where
  world : machine.world = machine'.world
  history : List.Forall₂ (HostEvent.Alike mentioned) machine.history.toList machine'.history.toList
  scope : Scope.Agree mentioned machine.scope machine'.scope

/-- Machines that are alike, with scopes that stand alongside each other. -/
structure Machine.Beside (mentioned : String → Prop) (depths : Scope.Depths)
    (machine machine' : Machine σ) : Prop where
  alike : machine.Alike mentioned machine'
  alongside : ∃ top base base',
    Scope.Alongside mentioned depths machine.scope machine'.scope top base base'

/-- Runs in scopes that show what is mentioned alike. -/
def Machine.mentioning (mentioned : String → Prop) :
    Coupling (Machine σ) (Machine σ) (Deed σ) where
  alike := Machine.Alike mentioned
  seen := Machine.Alike mentioned
  course _ _ _ := True
  quit _ _ _ := False
  later _ _ := True
  stay _ := trivial
  proceed _ _ := trivial
  behind none := none

section Mentioning

variable {mentioned : String → Prop} {depths : Scope.Depths}

theorem Scope.Agree.refl (scope : Scope) : Scope.Agree mentioned scope scope :=
  fun _ _ => rfl

theorem Scope.Agree.resolve {scope scope' : Scope} (agree : Scope.Agree mentioned scope scope')
    {name : String} (member : mentioned name) : scope.resolve name = scope'.resolve name := by
  rw [Scope.resolve, Scope.resolve, agree name member]

theorem Machine.Beside.asking {machine machine' : Machine σ}
    (beside : machine.Beside mentioned depths machine') (site : Expression) (function : Nat)
    (arguments : List Value) (world : σ) :
    (machine.asking site function arguments world).Beside mentioned depths
      (machine'.asking site function arguments world) := by
  obtain ⟨⟨-, history, agree⟩, alongside⟩ := beside
  refine ⟨⟨rfl, ?_, agree⟩, alongside⟩
  rw [Machine.history_asking, Machine.history_asking]
  exact List.rel_append history (.cons (.called site function arguments agree) .nil)

theorem Machine.Beside.answered {machine machine' : Machine σ}
    (beside : machine.Beside mentioned depths machine') (site : Expression) (function : Nat)
    (arguments : List Value) (world : σ) (reply : Except HostFailure Value) :
    (machine.answered site function arguments world reply).Beside mentioned depths
      (machine'.answered site function arguments world reply) := by
  obtain ⟨⟨-, history, agree⟩, alongside⟩ := beside.asking site function arguments world
  refine ⟨⟨rfl, ?_, agree⟩, alongside⟩
  rw [Machine.history_answered, Machine.history_answered]
  exact List.rel_append history (.cons (.answered reply) .nil)

theorem Machine.mentioning_write (implicit : Bool) {place : Place} (member : mentioned place.root)
    (new : Value) (span : Span) (deeds : List (Deed σ)) (machine' : Machine σ) :
    Action.CoupledAt ((Machine.mentioning mentioned).with (Machine.Beside mentioned depths))
      (writePlace implicit place new span) (writePlace implicit place new span) deeds machine' := by
  intro machine beside
  obtain ⟨⟨world, history, -⟩, top, base, base', alongside⟩ := beside
  rw [writePlace_eq, writePlace_eq]
  rcases alongside.write member implicit new with
    ⟨after, after', _, _, _, wrote, wrote', alongside⟩ | ⟨cause, refused, refused'⟩
  · rw [wrote, wrote']
    exact .done ⟨⟨⟨world, history, alongside.agree⟩, _, _, _, alongside⟩, rfl, trivial⟩
  · rw [refused, refused']
    exact .done ⟨⟨⟨world, history, alongside.agree⟩, _, _, _, alongside⟩, rfl, trivial⟩

theorem Machine.mentioning_joining (host : Host σ) (implicit : Bool) (all : List Expression)
    (depths : Scope.Depths) :
    Machine.Joining ((Machine.mentioning (Expression.Mentioned all)).with
      (Machine.Beside (Expression.Mentioned all) depths)) host implicit implicit all where
  resolves name member machine machine' beside := beside.alike.scope.resolve member
  invoke callee arguments optional place _ function values := by
    refine coupled_invoke ?_ ?_ ?_ ?_ ?_
    · exact fun machine machine' beside => beside.alike.world
    · exact fun machine machine' beside world =>
        ⟨(beside.asking _ function values world).alike, [], List.nil_prefix, trivial⟩
    · exact fun machine machine' beside world reply =>
        ⟨beside.answered _ function values world reply, trivial⟩
    · exact fun _ _ _ _ => trivial
    · exact fun _ _ _ _ _ => trivial
  assign target value place _ root path member _ new machine' :=
    mentioning_write implicit member new place _ machine'
  rewrite node _ root _ member path new machine' _ :=
    mentioning_write implicit member new node.span _ machine'
  lasting place new span := fun _ machine _ => Task.always_true _

def Walk.mentioning (mentioned : String → Prop) (depths : Scope.Depths) :
    Coupling (Walk σ) (Walk σ) (Deed σ) :=
  Walk.coupling ((Machine.mentioning mentioned).with (Machine.Beside mentioned depths))
    (fun draft draft' _ => draft = draft') fun _ _ _ => False

theorem Machine.mentioning_unscoped : Machine.Unscoped (σ := σ) (Machine.mentioning mentioned) where
  course _ _ _ _ _ course := course
  quit _ _ _ _ none := none
  later _ _ _ _ later := later

theorem Machine.Beside.entered {machine machine' : Machine σ}
    (beside : machine.Beside mentioned depths machine') (bindings : List (String × Value)) :
    (machine.entered bindings).Beside mentioned { depths with opened := depths.opened + 1 }
      (machine'.entered bindings) := by
  obtain ⟨⟨world, history, -⟩, _, _, _, alongside⟩ := beside
  obtain ⟨top, base, base', opened⟩ := alongside.push.declare_all bindings
  exact ⟨⟨world, history, opened.agree⟩, top, base, base', opened⟩

theorem Machine.Beside.leaving {machine machine' after after' : Machine σ}
    (beside : machine.Beside mentioned depths machine')
    (inside : after.Beside mentioned { depths with opened := depths.opened + 1 } after') :
    (machine.leaving after).Beside mentioned depths (machine'.leaving after') := by
  obtain ⟨-, _, _, _, around⟩ := beside
  obtain ⟨⟨world, history, -⟩, _, base, base', within⟩ := inside
  obtain ⟨top, left⟩ := around.rewind within
  exact ⟨⟨world, history, left.agree⟩, top, base, base', left⟩

theorem Walk.mentioning_perform (operation : Draft.Operation) (span : Span) :
    Action.Coupled (Walk.mentioning (σ := σ) mentioned depths) (Walk.perform operation span)
      (Walk.perform operation span) fun _ => [] where
  along walk' walk same := by
    obtain ⟨machines, operations, drafts⟩ := same
    rw [perform_eq, perform_eq, drafts, operations]
    exact .done ⟨⟨machines, rfl, rfl⟩, rfl, trivial⟩
  lasting _ walk _ := Task.always_true _

theorem Walk.mentioning_finish :
    Action.Coupled (Walk.mentioning (σ := σ) mentioned depths) Walk.finish Walk.finish
      fun _ => [] where
  along walk' walk same := .done ⟨same, by rw [same.2.2], trivial⟩
  lasting _ walk _ := Task.always_true _

theorem Walk.mentioning_joining (host : Host σ) (implicit : Bool) (parts : List Template)
    (all : List Expression) :
    Walk.Joining (Walk.mentioning (Expression.Mentioned all))
      (fun depths => (Machine.mentioning (Expression.Mentioned all)).with
        (Machine.Beside (Expression.Mentioned all) depths)) host implicit implicit parts all where
  machine := Machine.mentioning_joining host implicit all
  evaluating _ _ _ _ _ coupled := evaluating_coupled coupled
  perform _ _ _ operation _ _ := mentioning_perform operation _
  block _ _ _ _ _ coupled := by
    refine inBlock_coupled Machine.mentioning_unscoped ?_ coupled
    exact fun machine machine' beside => ⟨_, beside.entered _, fun _ _ => beside.leaving⟩

end Mentioning

/-- Two runs that end with the same result in machines that are alike, or both wait for ever. -/
def Machine.SameRun {α : Type} (mentioned : String → Prop) (run run' : Machine σ × Option α) :
    Prop :=
  run.1.Alike mentioned run'.1 ∧ run.2 = run'.2

section Runs

variable {mentioned : String → Prop} {α : Type}

theorem Machine.sameRun_of_leads {task task' : Task (Machine σ) (Except Failure α)}
    (leads : task.Leads (Machine.Alike mentioned)
      (fun machine result machine' result' => machine.Alike mentioned machine' ∧ result = result')
      (fun _ _ _ => False) task') : Machine.SameRun mentioned task.outcome task'.outcome := by
  rcases leads.outcomes with ⟨_, _, _, _, ended, ended', agreed⟩ | ⟨_, _, stuck, stuck', alike⟩
  · rw [ended, ended']
    exact ⟨agreed.1, congrArg some agreed.2⟩
  · rw [stuck, stuck']
    exact ⟨alike, rfl⟩

theorem Machine.beside_of_agree {marks marks' : List Scope.Mark} {scope scope' : Scope}
    (reachable : Scope.Reachable marks scope) (reachable' : Scope.Reachable marks' scope')
    (agree : Scope.Agree mentioned scope scope') (world : σ) (history : Array HostEvent) :
    ∃ depths, (⟨scope, world, history⟩ : Machine σ).Beside mentioned depths
      ⟨scope', world, history⟩ := by
  obtain ⟨⟨stack, stacked⟩, -⟩ := reachable.stacked
  obtain ⟨⟨stack', stacked'⟩, -⟩ := reachable'.stacked
  refine ⟨_, ⟨rfl, ?_, agree⟩, [], stack, stack', Scope.alongside_of_agree stacked stacked' agree⟩
  refine List.forall₂_same.mpr fun event _ => ?_
  cases event with
  | called site function arguments scope => exact .called site function arguments (.refl scope)
  | answered reply => exact .answered reply

end Runs

/-- Evaluations and compilations in two scopes that show the names of all identifiers alike end in
the same way, with the same calls of the host, and leave these names alike. -/
theorem depends_on_mentioned (host : Host σ) {marks marks' : List Scope.Mark}
    {scope scope' : Scope} (reachable : Scope.Reachable marks scope)
    (reachable' : Scope.Reachable marks' scope') (world : σ) (history : Array HostEvent) :
    (∀ (implicit : Bool) (expression : Expression),
      Scope.Agree (Expression.Mentioned expression.nodes) scope scope' →
        Machine.SameRun (Expression.Mentioned expression.nodes)
          (expression.evaluate host implicit ⟨scope, world, history⟩).outcome
          (expression.evaluate host implicit ⟨scope', world, history⟩).outcome) ∧
      ∀ (settings : Settings) (template : Template),
        Scope.Agree (Expression.Mentioned template.expressions) scope scope' →
          Machine.SameRun (Expression.Mentioned template.expressions)
            (template.render settings host ⟨scope, world, history⟩).outcome
            (template.render settings host ⟨scope', world, history⟩).outcome := by
  constructor
  · intro implicit expression agree
    obtain ⟨depths, beside⟩ := Machine.beside_of_agree reachable reachable' agree world history
    have joining := Machine.mentioning_joining host implicit expression.nodes depths
    have coupled := expression.evaluate_coupled joining (List.Subset.refl _)
    have together := coupled.along _ _ beside
    refine Machine.sameRun_of_leads (together.mono ?_ ?_ ?_)
    · exact fun _ _ underway => underway.1
    · exact fun _ _ _ _ agreed => ⟨agreed.1.alike, agreed.2.1⟩
    · exact fun _ _ _ quitted => quitted.choose_spec.2.1
  · intro settings template agree
    obtain ⟨depths, beside⟩ := Machine.beside_of_agree reachable reachable' agree world history
    have joining := Walk.mentioning_joining host settings.implicitDeclarations template.nodes
      template.expressions
    have walks := template.walk_coupled joining (List.Subset.refl _) (List.Subset.refl _) depths
    have document := walks.before fun _ => Walk.mentioning_finish
    have together := document.along ⟨⟨scope', world, history⟩, .ofSettings settings, #[]⟩
      ⟨⟨scope, world, history⟩, .ofSettings settings, #[]⟩ ⟨beside, rfl, rfl⟩
    refine Machine.sameRun_of_leads (together.mapState ?_ ?_ ?_)
    · exact fun _ _ underway => underway.1
    · exact fun _ _ _ _ agreed => ⟨agreed.1.1.alike, agreed.2.1⟩
    · rintro _ _ _ ⟨_, -, none | none, -⟩
      · exact none
      · exact none

/-- An assignment to what a variable holds already. -/
def Expression.emphasis : Expression :=
  .assignment (.arithmetic .add) (.identifier "greeting" {}) (.literal (.string "!") {}) {}

def Template.emphasized : Template :=
  .fragment [.interpolation .emphasis {}, .interpolation (.identifier "greeting" {}) {}] {}

/-- It does not matter that the greeting is bound one environment further out, beside a variable
that is not mentioned. -/
theorem emphasis_depends_on_greeting :
    let near := Scope.empty.declare "greeting" (.string "hello")
    let far := (near.push.2).declare "unused" .null
    near.lookup "unused" ≠ far.lookup "unused" ∧
      Machine.SameRun (Expression.Mentioned Expression.emphasis.nodes)
        (Expression.emphasis.evaluate Host.silent false ⟨near, (), #[]⟩).outcome
        (Expression.emphasis.evaluate Host.silent false ⟨far, (), #[]⟩).outcome ∧
      Machine.SameRun (Expression.Mentioned Template.emphasized.expressions)
        (Template.emphasized.render {} Host.silent ⟨near, (), #[]⟩).outcome
        (Template.emphasized.render {} Host.silent ⟨far, (), #[]⟩).outcome ∧
      (Template.emphasized.render {} Host.silent ⟨near, (), #[]⟩).outcome.2 =
        some (.ok [{ role := .system, content := [.text "hello!"] }]) := by
  have written : (Template.emphasized.render {} Host.silent
      ⟨Scope.empty.declare "greeting" (.string "hello"), (), #[]⟩).outcome.2 =
        some (.ok [{ role := .system, content := [.text "hello!"] }]) := by rfl
  intro near far
  have reachable : Scope.Reachable [] near := .declare .empty _ _
  have reachable' : Scope.Reachable _ far := .declare (.push reachable) _ _
  have same : near.lookup "greeting" = far.lookup "greeting" := rfl
  obtain ⟨evaluated, rendered⟩ := depends_on_mentioned Host.silent reachable reachable' () #[]
  refine ⟨?_, evaluated false .emphasis ?_, rendered {} .emphasized ?_, written⟩
  · exact (by simp : none ≠ some Value.null)
  · rintro name ⟨place, member⟩
    obtain ⟨rfl, -⟩ : name = "greeting" ∧ place = {} := by
      simpa [Expression.emphasis, Expression.nodes, Expression.inside] using member
    exact same
  · rintro name ⟨place, member⟩
    obtain ⟨rfl, -⟩ : name = "greeting" ∧ place = {} := by
      simpa [Template.emphasized, Template.expressions, Template.expressionsAll,
        Expression.emphasis, Expression.nodes, Expression.inside] using member
    exact same

end ChatTemplate
