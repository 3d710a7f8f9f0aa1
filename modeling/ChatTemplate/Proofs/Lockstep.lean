import ChatTemplate.Proofs.Compilation
import ChatTemplate.Proofs.Draft.Policy

/-!
Compilations that go hand in hand. Two compilations of one template that differ in the policy for
root text alone do the same with the host and with their drafts, moment by moment, until the second
one refuses root text. From then on what the host is asked in the first one comes on top of what it
has been asked in both.
-/

set_option autoImplicit false

namespace ChatTemplate

variable {σ : Type}

/-! ## What passes between expressions and host only grows -/

def Machine.growing : Promise (Machine σ) :=
  .ofPreorder (fun before after => before.history.toList <+: after.history.toList)
    (fun _ => List.prefix_rfl) List.IsPrefix.trans

theorem Machine.history_prefix_of_eq {machine machine' : Machine σ} (same : machine' = machine) :
    machine'.history.toList <+: machine.history.toList := by
  subst same
  exact List.prefix_rfl

theorem Machine.growing_keeping (host : Host σ) (implicit : Bool) (all : List Expression) :
    Machine.Keeping Machine.growing host implicit all where
  invoke site _ function arguments machine := by
    refine (always_invoke host site function arguments machine).imp ?_ ?_
    · rintro during ⟨_, history⟩
      show machine.history.toList <+: during.history.toList
      rw [history, Array.toList_push]
      exact List.prefix_append _ _
    · rintro after result ⟨_, reply, history, _⟩
      have grown : machine.history.toList <+: after.history.toList := by
        rw [history, Array.toList_push, Array.toList_push, List.append_assoc]
        exact List.prefix_append _ _
      cases result with
      | ok => exact grown
      | error => exact grown
  assign _ _ _ _ _ _ _ _ _ _ _ :=
    always_writePlace (fun _ _ => List.prefix_rfl) fun _ _ => List.prefix_rfl
  rewrite _ _ _ _ _ _ _ _ _ _ _ _ :=
    always_writePlace (fun _ _ => List.prefix_rfl) fun _ _ => List.prefix_rfl

theorem Machine.growing_always {α : Type} {action : Action (Machine σ) α}
    (keeps : action.Keeps growing) (machine : Machine σ) :
    (action machine).Always (fun after => machine.history.toList <+: after.history.toList)
      fun after _ => machine.history.toList <+: after.history.toList := by
  refine (keeps machine).imp (fun _ seen => seen) ?_
  intro after result ends
  cases result with
  | ok => exact ends
  | error => exact ends

/-! ## Walks in step -/

namespace Walk

/-- Two walks are in step when they are in the same state of the evaluation, have done the same
operations and have drafts that differ in their policies only. The second may quit when its policy
refuses root text. -/
def lockstep (policy policy' : RootText) : Pairing (Walk σ) (Walk σ) where
  alike walk walk' := walk'.machine = walk.machine ∧ walk'.operations = walk.operations ∧
    Draft.Alike policy policy' walk.draft walk'.draft
  quit _ failure := policy' = .reject ∧ failure.cause = .strayTextOutsideMessage
  later walk' walk := walk'.machine.history.toList <+: walk.machine.history.toList

variable {policy policy' : RootText}

theorem evaluating_leads {α : Type} {action : Action (Machine σ) α}
    (keeps : action.Keeps Machine.growing) :
    Action.Leads (lockstep policy policy') (evaluating action) (evaluating action) := by
  refine Action.leads_focus ?_ ?_ ?_
  · exact fun _ _ same => same.1.symm
  · exact fun _ _ _ same => ⟨rfl, same.2⟩
  · intro walk' walk later
    exact (Machine.growing_always keeps walk.machine).imp (fun _ => later.trans)
      fun _ _ => later.trans

theorem inBlock_leads (bindings : List (String × Value)) {body body' : Action (Walk σ) Unit}
    (leads : Action.Leads (lockstep policy policy') body body') :
    Action.Leads (lockstep policy policy') (inBlock bindings body) (inBlock bindings body') := by
  refine leads.around ?_ ?_ ?_ ?_ ?_ ?_
  · rintro walk walk' ⟨machine, held⟩
    exact ⟨by simp only [changeScope, machine], held⟩
  · rintro outer outer' ⟨scope, -⟩ walk walk' ⟨machine, held⟩
    exact ⟨by simp only [changeScope, machine, scope], held⟩
  · exact fun _ _ _ quit => quit
  · exact fun _ _ later => later
  · exact fun _ _ _ later => later
  · exact fun _ _ _ later => later

theorem perform_leads (tolerant : policy ≠ .reject) (operation : Draft.Operation) (span : Span)
    (walked : operation.Walked) :
    Action.Leads (lockstep policy policy') (Walk.perform (σ := σ) operation span)
      (Walk.perform operation span) where
  along walk walk' same := by
    obtain ⟨machine, operations, drafts⟩ := same
    rw [perform_eq, perform_eq]
    rcases drafts.apply tolerant operation walked with ⟨rejects, refused⟩ | ⟨result, after⟩
    · rw [refused]
      refine .quit ⟨_, rfl, ⟨rejects, rfl⟩, ?_⟩
      exact Machine.history_prefix_of_eq machine
    · refine .done ⟨⟨machine, by rw [operations], after⟩, ?_⟩
      rw [result]
      simp only [after.origin?]
  lasting walk' walk later := by
    rw [perform_eq]
    exact later

theorem closeTag_leads (tolerant : policy ≠ .reject) (name : String) (span : Span) :
    Action.Leads (lockstep policy policy') (closeTag (σ := σ) name span) (closeTag name span) := by
  refine Action.leads_located fun tag _ => ?_
  cases tag with
  | message => exact perform_leads tolerant .closeMessage span trivial
  | content => exact perform_leads tolerant .closeContent span trivial
  | toolCall => exact Action.leads_failAt _ _

theorem element_leads (tolerant : policy ≠ .reject) (host : Host σ) (implicit : Bool)
    (name : String) (attributes : List Attribute) (children : List Template) (closed : Bool)
    (span : Span) {inside inside' : Action (Walk σ) Unit}
    (leads : Action.Leads (lockstep policy policy') inside inside') :
    Action.Leads (lockstep policy policy')
      (element host implicit name attributes children closed span inside)
      (element host implicit name attributes children closed span inside') := by
  have closes : ∀ operation : Draft.Operation, operation.Walked →
      Action.Leads (lockstep policy policy')
        (if closed then Walk.perform (σ := σ) operation span else pure ())
        (if closed then Walk.perform operation span else pure ()) := by
    intro operation walked
    split
    · exact perform_leads tolerant operation span walked
    · exact Action.leads_pure ()
  have evaluates := Attributes.evaluate_keeps (Machine.growing_keeping host implicit _) name
    attributes (List.Subset.refl _)
  refine Action.leads_located fun tag _ => ?_
  refine (evaluating_leads evaluates).bind fun attributes => ?_
  cases tag with
  | message implied =>
      refine Action.leads_located fun role _ => ?_
      refine Action.leads_located fun _ checked => ?_
      have reserved := Attributes.contains_toJson_of_checked checked
      refine (perform_leads tolerant (.openMessage role _ span) span reserved).bind fun _ => ?_
      exact leads.bind fun _ => closes .closeMessage trivial
  | content implied =>
      refine Action.leads_located fun kind _ => ?_
      refine (perform_leads tolerant (.openContent kind span) span trivial).bind fun _ => ?_
      exact leads.bind fun _ => closes .closeContent trivial
  | toolCall =>
      refine Action.leads_located fun call accepted => ?_
      have object := Attributes.arguments_of_toolCall accepted
      exact perform_leads tolerant (.addToolCall ⟨span, call⟩) span object

end Walk

section Leads

variable {policy policy' : RootText} (host : Host σ) (implicit : Bool)

theorem Expression.evaluate_leads (expression : Expression) :
    Action.Leads (Walk.lockstep policy policy')
      (Walk.evaluating (expression.evaluate host implicit))
      (Walk.evaluating (expression.evaluate host implicit)) :=
  Walk.evaluating_leads
    (expression.evaluate_keeps (Machine.growing_keeping host implicit _) (List.Subset.refl _))

mutual

theorem Template.walk_leads (tolerant : policy ≠ .reject) : (template : Template) →
    Action.Leads (Walk.lockstep policy policy') (template.walk host implicit)
      (template.walk host implicit)
  | .fragment children _ => by
      rw [walk]
      exact walkAll_leads tolerant children
  | .text data span => by
      rw [walk]
      exact Walk.perform_leads tolerant _ span trivial
  | .comment _ _ => by
      rw [walk]
      exact Action.leads_pure ()
  | .interpolation expression span => by
      rw [walk]
      refine (expression.evaluate_leads host implicit).bind fun value => ?_
      split
      · exact Action.leads_pure ()
      · exact Walk.perform_leads tolerant _ span trivial
  | .element name attributes children closed span => by
      rw [walk]
      exact Walk.element_leads tolerant host implicit name attributes children closed span
        (walkAll_leads tolerant children)
  | .closing name span => by
      rw [walk]
      exact Walk.closeTag_leads tolerant name span
  | .branch test children otherwise _ => by
      rw [walk]
      refine (test.evaluate_leads host implicit).bind fun value => ?_
      split
      · exact Walk.inBlock_leads [] (walkAll_leads tolerant children)
      · exact walkOtherwise_leads tolerant otherwise
  | .loop collection item index children otherwise _ => by
      rw [walk]
      refine (collection.evaluate_leads host implicit).bind fun value => ?_
      refine Action.leads_located fun elements _ => ?_
      split
      · exact walkOtherwise_leads tolerant otherwise
      · exact Action.Leads.forEach fun element =>
          Walk.inBlock_leads _ (walkAll_leads tolerant children)

theorem Template.walkAll_leads (tolerant : policy ≠ .reject) : (templates : List Template) →
    Action.Leads (Walk.lockstep policy policy') (Template.walkAll host implicit templates)
      (Template.walkAll host implicit templates)
  | [] => by
      rw [walkAll]
      exact Action.leads_pure ()
  | template :: rest => by
      rw [walkAll]
      exact (walk_leads tolerant template).bind fun _ => walkAll_leads tolerant rest

theorem Template.walkOtherwise_leads (tolerant : policy ≠ .reject) :
    (otherwise : Option (List Template)) →
    Action.Leads (Walk.lockstep policy policy') (Template.walkOtherwise host implicit otherwise)
      (Template.walkOtherwise host implicit otherwise)
  | none => by
      rw [walkOtherwise]
      exact Action.leads_pure ()
  | some children => by
      rw [walkOtherwise]
      exact Walk.inBlock_leads [] (walkAll_leads tolerant children)

end

end Leads

/-! ## Compilations in step -/

section Compilations

variable {policy policy' : RootText}

/-- Two documents end with the same failure or with messages, and with the same messages where the
second policy refuses root text. -/
def SameEnd (policy' : RootText) (result result' : Except Failure (List Message)) : Prop :=
  (∀ failure, result = .error failure ↔ result' = .error failure) ∧
    (policy' = .reject → result = result')

theorem SameEnd.refl (policy' : RootText) (result : Except Failure (List Message)) :
    SameEnd policy' result result :=
  ⟨fun _ => Iff.rfl, fun _ => rfl⟩

/-- What is left of the first compilation when the second has refused root text: all that follows
has at least the history of the second. -/
def Refused {τ : Type} (policy' : RootText) (machine : τ → Machine σ)
    (rest : Task τ (Except Failure (List Message))) (state' : τ)
    (result' : Except Failure (List Message)) : Prop :=
  policy' = .reject ∧ (∃ place, result' = .error ⟨.strayTextOutsideMessage, place⟩) ∧
    rest.Always (fun state => (machine state').history.toList <+: (machine state).history.toList)
      fun state _ => (machine state').history.toList <+: (machine state).history.toList

theorem Template.document_leads (tolerant : policy ≠ .reject) (host : Host σ) (implicit : Bool)
    (template : Template) {start start' : Walk σ}
    (same : (Walk.lockstep policy policy').alike start start') :
    Task.Leads (fun walk walk' => walk'.machine = walk.machine)
      (fun walk result walk' result' => walk'.machine = walk.machine ∧
        SameEnd policy' result result')
      (Refused policy' Walk.machine)
      ((template.walk host implicit >>= fun _ => Walk.finish) start)
      ((template.walk host implicit >>= fun _ => Walk.finish) start') := by
  have walks := (template.walk_leads host implicit tolerant).along start start' same
  refine Task.Leads.bind (walks.imp fun _ _ same => same.1) ?_ ?_
  · rintro walk result walk' _ ⟨⟨machine, -, drafts⟩, rfl⟩
    cases result with
    | error failure => exact .done ⟨machine, SameEnd.refl policy' _⟩
    | ok =>
        rcases drafts.finish tolerant with ⟨rejects, refused⟩ | ends
        · refine .quit ⟨rejects, refused, ?_⟩
          exact Machine.history_prefix_of_eq machine
        · exact .done ⟨machine, ends⟩
  · rintro rest walk' _ ⟨⟨cause, place⟩, rfl, ⟨rejects, refused⟩, later⟩
    cases refused
    refine .quit ⟨rejects, ⟨place, rfl⟩, later.bind ?_⟩
    intro walk result later
    cases result with
    | error failure => exact later
    | ok => exact later

theorem Template.compile_leads (tolerant : policy ≠ .reject) (settings : Settings)
    (registry : Registry) (host : Host σ) (now : Int) (template : Template) (scope : Scope)
    (world : σ) :
    Task.Leads (fun machine machine' => machine' = machine)
      (fun machine result machine' result' => machine' = machine ∧ SameEnd policy' result result')
      (Refused policy' id)
      (template.compile { settings with rootText := policy } registry host now scope world)
      (template.compile { settings with rootText := policy' } registry host now scope world) := by
  have start : (Walk.lockstep policy policy').alike
      (.starting { settings with rootText := policy } registry now scope world)
      (.starting { settings with rootText := policy' } registry now scope world) :=
    ⟨rfl, rfl, Draft.alike_ofSettings settings policy policy'⟩
  refine (document_leads tolerant host settings.implicitDeclarations template start).mapState
    ?_ ?_ ?_
  · exact fun _ _ same => same
  · exact fun _ _ _ _ agreed => agreed
  · rintro rest walk' result' ⟨rejects, refused, later⟩
    exact ⟨rejects, refused, later.mapState (fun _ seen => seen) fun _ _ ends => ends⟩

/-- Compilations that go hand in hand are cut off in the same way, whoever waits for them. Where the
second quits, what is left of the first may still be waited for. -/
theorem Template.compileWithin_leads {settings settings' : Settings} {registry : Registry}
    {host : Host σ} {now : Int} {template : Template} {scope : Scope} {world : σ}
    {agree : Except Failure (List Message) → Except Failure (List Message) → Prop}
    {quits : Task (Machine σ) (Except Failure (List Message)) → Machine σ →
      Except Failure (List Message) → Prop}
    (leads : Task.Leads (fun machine machine' => machine' = machine)
      (fun machine result machine' result' => machine' = machine ∧ agree result result') quits
      (template.compile settings registry host now scope world)
      (template.compile settings' registry host now scope world))
    (timeout : settings'.timeout = settings.timeout)
    (cancels : ∀ reason, agree (cancelled reason) (cancelled reason))
    (interruption : Interruption σ) :
    let first := template.compileWithin settings registry host now interruption scope world
    let second := template.compileWithin settings' registry host now interruption scope world
    (∃ machine result result', first = (machine, some result) ∧
        second = (machine, some result') ∧ agree result result') ∨
      (∃ machine, first = (machine, none) ∧ second = (machine, none)) ∨
      ∃ rest machine' result', quits rest machine' result' ∧ second = (machine', some result') ∧
        ∀ seen : Machine σ → Prop,
          rest.Always seen (fun machine _ => seen machine) → seen first.1 := by
  simp only [compileWithin, timeout]
  split
  · exact .inl ⟨_, _, _, rfl, rfl, cancels _⟩
  · generalize Task.Patience.mk settings.timeout.isSome interruption.expired
      (fun count (machine : Machine σ) => interruption.aborted count machine.world) = patience
    have waited := leads.await patience (fun _ _ _ same => by rw [same]) 0
    generalize template.compile settings registry host now scope world = task at waited ⊢
    generalize template.compile settings' registry host now scope world = task' at waited ⊢
    rcases waited with ending | ⟨rest, machine', result', passed, quit, ended, left⟩
    · generalize task.await patience 0 = first at ending ⊢
      generalize task'.await patience 0 = second at ending ⊢
      cases ending with
      | finished agreed =>
          obtain ⟨rfl, agreed⟩ := agreed
          exact .inl ⟨_, _, _, rfl, rfl, agreed⟩
      | timedOut same =>
          cases same
          exact .inl ⟨_, _, _, rfl, rfl, cancels _⟩
      | aborted same =>
          cases same
          exact .inl ⟨_, _, _, rfl, rfl, cancels _⟩
      | waiting same =>
          cases same
          exact .inr (.inl ⟨_, rfl, rfl⟩)
    · rw [ended, left]
      refine .inr (.inr ⟨rest, machine', result', quit, rfl, fun seen always => ?_⟩)
      -- Whoever goes on waiting for the first compilation sees only what is left of it.
      have lasting := always.await patience passed
      generalize rest.await patience passed = awaited at lasting ⊢
      rcases awaited with ⟨machine, _ | _ | _ | _⟩
      · exact lasting
      · exact lasting
      · exact lasting
      · exact lasting

/-- How a compilation follows another one: it ends in the same way, or it refuses root text when
its host has been asked a part of what the host of the other is asked. -/
inductive Follows (policy' : RootText) :
    Machine σ × Option (Except Failure (List Message)) →
      Machine σ × Option (Except Failure (List Message)) → Prop where
  | finished (machine : Machine σ) {result result' : Except Failure (List Message)}
      (ends : SameEnd policy' result result') :
      Follows policy' (machine, some result) (machine, some result')
  | waiting (machine : Machine σ) : Follows policy' (machine, none) (machine, none)
  | refused {first : Machine σ × Option (Except Failure (List Message))} {machine' : Machine σ}
      (rejects : policy' = .reject) (place : Option Span)
      (earlier : machine'.history.toList <+: first.1.history.toList) :
      Follows policy' first (machine', some (.error ⟨.strayTextOutsideMessage, place⟩))

section Follows

variable {first second : Machine σ × Option (Except Failure (List Message))}

theorem Follows.history (follows : Follows policy' first second) :
    second.1.history.toList <+: first.1.history.toList := by
  cases follows with
  | finished machine ends => exact List.prefix_rfl
  | waiting machine => exact List.prefix_rfl
  | refused rejects place earlier => exact earlier

/-- A policy that refuses nothing leads to the same machine and to the same failure. -/
theorem Follows.machine (follows : Follows policy' first second) (tolerant : policy' ≠ .reject) :
    second.1 = first.1 := by
  cases follows with
  | finished machine ends => rfl
  | waiting machine => rfl
  | refused rejects place earlier => exact absurd rejects tolerant

theorem Follows.failure_iff (follows : Follows policy' first second) (tolerant : policy' ≠ .reject)
    (failure : Failure) :
    first.2 = some (.error failure) ↔ second.2 = some (.error failure) := by
  cases follows with
  | finished machine ends => simpa using ends.1 failure
  | waiting machine => exact Iff.rfl
  | refused rejects place earlier => exact absurd rejects tolerant

theorem Follows.waiting_iff (follows : Follows policy' first second) (tolerant : policy' ≠ .reject) :
    first.2 = none ↔ second.2 = none := by
  cases follows with
  | finished machine ends => exact ⟨nofun, nofun⟩
  | waiting machine => exact Iff.rfl
  | refused rejects place earlier => exact absurd rejects tolerant

theorem Follows.messages (follows : Follows policy' first second) (tolerant : policy' ≠ .reject)
    {messages : List Message} (made : first.2 = some (.ok messages)) :
    ∃ messages', second.2 = some (.ok messages') := by
  cases follows with
  | @finished machine result result' ends =>
      cases made
      cases result' with
      | ok messages' => exact ⟨messages', rfl⟩
      | error failure => cases (ends.1 failure).mpr rfl
  | waiting machine => cases made
  | refused rejects place earlier => exact absurd rejects tolerant

/-- A policy that refuses root text changes nothing else. -/
theorem Follows.same_or_refused (follows : Follows .reject first second) :
    first = second ∨ ∃ place, second.2 = some (.error ⟨.strayTextOutsideMessage, place⟩) := by
  cases follows with
  | finished machine ends =>
      left
      rw [ends.2 rfl]
  | waiting machine => exact .inl rfl
  | refused rejects place earlier => exact .inr ⟨place, rfl⟩

end Follows

theorem Template.compileWithin_follows (tolerant : policy ≠ .reject) (settings : Settings)
    (registry : Registry) (host : Host σ) (now : Int) (interruption : Interruption σ)
    (template : Template) (scope : Scope) (world : σ) :
    Follows policy'
      (template.compileWithin { settings with rootText := policy } registry host now interruption
        scope world)
      (template.compileWithin { settings with rootText := policy' } registry host now interruption
        scope world) := by
  have leads : Task.Leads _ _ (Refused policy' id) _ _ :=
    compile_leads tolerant settings registry host now template scope world
  have ends := compileWithin_leads leads rfl (fun _ => SameEnd.refl policy' _) interruption
  generalize compileWithin { settings with rootText := policy } registry host now interruption
    template scope world = first at ends ⊢
  rcases ends with ⟨machine, result, result', rfl, second, agreed⟩ | ⟨machine, rfl, second⟩ |
    ⟨rest, machine', _, ⟨rejects, ⟨place, rfl⟩, later⟩, second, lasting⟩
  · rw [second]
    exact .finished machine agreed
  · rw [second]
    exact .waiting machine
  · rw [second]
    exact .refused rejects place (lasting _ later)

end Compilations

end ChatTemplate
