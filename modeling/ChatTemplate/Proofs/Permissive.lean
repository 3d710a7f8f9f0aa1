import ChatTemplate.Proofs.CoupledWalk
import ChatTemplate.Proofs.Draft.Allowance
import ChatTemplate.Proofs.Lockstep

/-!
Options that permit more. A compilation that may leave messages empty, or that may declare variables
by assigning to them, does what one without the option does, moment by moment, until the latter
stops for want of it: where a message is closed without content, or a variable that is not bound is
assigned to. Nothing else of a compilation depends on the options.
-/

set_option autoImplicit false

namespace ChatTemplate

variable {σ : Type}

/-- The first settings permit all that the second permit, and are the same otherwise. -/
structure Settings.Permits (settings settings' : Settings) : Prop where
  messages : settings'.allowEmptyMessages = true → settings.allowEmptyMessages = true
  declarations : settings'.implicitDeclarations = true → settings.implicitDeclarations = true
  rootText : settings.rootText = settings'.rootText
  timeout : settings.timeout = settings'.timeout
  currentTimeBinding : settings.currentTimeBinding = settings'.currentTimeBinding

/-! ## How the narrower compilation stops -/

/-- The last deed is a plain assignment to a variable that is not bound, which is what the failure
says. The host has not been asked since. -/
inductive Deed.Undeclared (all : List Expression) : List (Deed σ) → Machine σ → Failure → Prop where
  | assigned (before : List (Deed σ)) {name : String} {root place : Span} {value : Expression}
      {start machine : Machine σ}
      (member : Expression.assignment .plain (.identifier name root) value place ∈ all)
      (unbound : start.scope.contains name = false) (history : machine.history = start.history)
      (world : machine.world = start.world) :
      Undeclared all
        (before ++ [⟨.assignment .plain (.identifier name root) value place, start⟩]) machine
        ⟨.unboundIdentifier name, some place⟩

/-- The last operation closes a message that is left without content, which is what the failure
says, at the node that does the operation. All operations before it have been done. -/
inductive Draft.LeftEmpty (start : Draft) (parts : List Template) :
    List Draft.Operation → Draft → Failure → Prop where
  | closed {before : List Draft.Operation} {reached after : Draft} {node : Template} {role : String}
      (member : node ∈ parts) (does : node.Does .closeMessage)
      (applied : start.applyAll before = (.ok (), reached))
      (refused : reached.closeMessage = (.error (.emptyMessage role), after)) :
      LeftEmpty start parts (before ++ [.closeMessage]) after ⟨.emptyMessage role, some node.span⟩

/-! ## Evaluations -/

theorem Place.write_of_contains {place : Place} {scope : Scope} (bound : scope.contains place.root)
    (implicit implicit' : Bool) (value : Value) :
    place.write implicit value scope = place.write implicit' value scope := by
  simp [write, bound]

/-- Whether assignments may declare variables shows in a plain one to a variable that is not bound
only. -/
theorem Place.write_implicit (place : Place) (value : Value) (scope : Scope) :
    place.write true value scope = place.write false value scope ∨
      place.path = [] ∧ scope.contains place.root = false ∧
        place.write false value scope = .error (.unboundIdentifier place.root) := by
  by_cases declares : place.path = [] ∧ scope.contains place.root = false
  · obtain ⟨path, unbound⟩ := declares
    have home : scope.home? place.root = none := by simpa [Scope.contains] using unbound
    refine .inr ⟨path, unbound, ?_⟩
    simp [write, Scope.update, home]
  · left
    by_cases path : place.path = []
    · have bound : scope.contains place.root = true := by simpa [path] using declares
      exact write_of_contains bound true false value
    · simp [write, path]

/-- Runs that are the same until the second stops for want of declarations. -/
def Machine.permitting (wider : Prop) (all : List Expression) :
    Coupling (Machine σ) (Machine σ) (Deed σ) where
  alike machine machine' := machine' = machine
  seen machine machine' := machine' = machine
  course _ _ _ := True
  quit deeds machine failure := wider ∧ Deed.Undeclared all deeds machine failure
  later machine' machine := machine'.history.toList <+: machine.history.toList
  stay _ := trivial
  proceed _ _ := trivial
  behind := by
    intro early late machine failure stopped
    obtain ⟨wider, undeclared⟩ := stopped
    cases undeclared with
    | assigned before member unbound history world =>
        rw [← List.append_assoc]
        exact ⟨wider, .assigned _ member unbound history world⟩

section Machines

variable {wider : Prop} {all : List Expression}

theorem Machine.permitting_invoke (host : Host σ) (site : Expression) (function : Nat)
    (arguments : List Value) :
    Action.Coupled (permitting wider all) (Machine.invoke host site function arguments)
      (Machine.invoke host site function arguments) fun machine => [⟨site, machine⟩] := by
  have asked : ∀ (machine : Machine σ) (world : σ),
      machine.history.toList <+: (machine.asking site function arguments world).history.toList := by
    intro machine world
    rw [history_asking]
    exact List.prefix_append _ _
  refine coupled_invoke ?_ ?_ ?_ ?_ ?_
  · intro machine machine' same
    rw [same]
  · intro machine machine' same world
    rw [same]
    exact ⟨rfl, [], List.nil_prefix, trivial⟩
  · intro machine machine' same world reply
    rw [same]
    exact ⟨rfl, trivial⟩
  · intro machine' machine later world
    exact later.trans (asked machine world)
  · intro machine' machine later world reply
    refine (later.trans (asked machine world)).trans ?_
    rw [history_answered]
    exact List.prefix_append _ _

theorem Machine.permitting_write {implicit implicit' : Bool} {place : Place} {new : Value}
    {span : Span} {machine' : Machine σ} (deeds : List (Deed σ))
    (same : place.write implicit new machine'.scope = place.write implicit' new machine'.scope) :
    Action.CoupledAt (permitting wider all) (writePlace implicit place new span)
      (writePlace implicit' place new span) deeds machine' := by
  rintro machine rfl
  rw [writePlace_eq, writePlace_eq, same]
  split
  · exact .done ⟨rfl, rfl, trivial⟩
  · exact .done ⟨rfl, rfl, trivial⟩

theorem Machine.permitting_joining (host : Host σ) {implicit implicit' : Bool}
    (wider : implicit' = true → implicit = true) (all : List Expression) :
    Machine.Joining (Machine.permitting (implicit ≠ implicit') all) host implicit implicit' all where
  resolves name _ machine machine' same := by rw [same]
  invoke callee arguments optional place _ function values :=
    permitting_invoke host _ function values
  assign target value place member root path mentioned identifier new machine' := by
    by_cases same : implicit = implicit'
    · rw [same]
      exact permitting_write _ rfl
    · obtain ⟨rfl, rfl⟩ : implicit = true ∧ implicit' = false := by
        cases implicit' with
        | true => exact absurd (wider rfl) same
        | false => exact ⟨by simpa using same, rfl⟩
      rcases Place.write_implicit ⟨root, path⟩ new machine'.scope with
        written | ⟨none, unbound, refused⟩
      · exact permitting_write _ written
      · obtain ⟨spot, rfl⟩ := identifier none
        rintro machine rfl
        rw [writePlace_eq false, refused]
        refine .quit ⟨_, rfl, ⟨same, .assigned [] member unbound rfl rfl⟩, ?_⟩
        exact always_writePlace (fun _ _ => List.prefix_rfl) fun _ _ => List.prefix_rfl
  rewrite node member root written mentioned path new machine' bound :=
    permitting_write _ (Place.write_of_contains bound implicit implicit' new)
  lasting place new span machine' machine later :=
    always_writePlace (fun _ _ => later) fun _ _ => later

theorem Machine.permitting_unscoped :
    Machine.Unscoped (σ := σ) (Machine.permitting wider all) where
  course _ _ _ _ _ course := course
  quit := by
    intro deeds machine failure scope stopped
    obtain ⟨wider, undeclared⟩ := stopped
    cases undeclared with
    | assigned before member unbound history world =>
        exact ⟨wider, .assigned before member unbound history world⟩
  later _ _ _ _ later := later

end Machines

/-! ## Walks -/

/-- What goes well goes well without its last operation. -/
theorem Draft.applyAll_dropLast {start after : Draft} {operations : List Draft.Operation}
    (applied : start.applyAll operations = (.ok (), after)) :
    ∃ reached, start.applyAll operations.dropLast = (.ok (), reached) := by
  by_cases empty : operations = []
  · rw [empty]
    exact ⟨start, rfl⟩
  · rw [← List.dropLast_concat_getLast empty] at applied
    obtain ⟨middle, before, -⟩ := applyAll_append_ok applied
    exact ⟨middle, before⟩

/-- The promise that a walk stops at the first operation that fails. -/
def Walk.unfailing : Promise (Walk σ) where
  seen _ _ := True
  kept before after := ∃ operations,
    after.operations.toList = before.operations.toList ++ operations ∧
      before.draft.applyAll operations = (.ok (), after.draft)
  failed before after := ∃ operations,
    after.operations.toList = before.operations.toList ++ operations ∧
      ∃ reached, before.draft.applyAll operations.dropLast = (.ok (), reached)
  refl walk := ⟨[], by simp, rfl⟩
  stop walk := ⟨[], by simp, walk.draft, rfl⟩
  trans := by
    intro first second third before after
    obtain ⟨early, log, applied⟩ := before
    obtain ⟨late, log', applied'⟩ := after
    refine ⟨early ++ late, by rw [log', log, List.append_assoc], ?_⟩
    rw [Draft.applyAll_append_of_ok applied, applied']
  trans_seen _ _ := trivial
  trans_failed := by
    intro first second third before after
    obtain ⟨early, log, applied⟩ := before
    obtain ⟨late, log', reached, applied'⟩ := after
    refine ⟨early ++ late, by rw [log', log, List.append_assoc], ?_⟩
    cases late with
    | nil =>
        rw [List.append_nil]
        exact Draft.applyAll_dropLast applied
    | cons operation rest =>
        refine ⟨reached, ?_⟩
        rw [List.dropLast_append_cons, Draft.applyAll_append_of_ok applied, applied']

theorem Walk.unfailing_keeping (host : Host σ) (implicit : Bool) (all : List Expression) :
    Walk.Keeping Walk.unfailing .nothing host implicit all where
  machine := .nothing host implicit all
  evaluating action keeps := by
    refine keeps.focus (fun _ _ _ => trivial) ?_ ?_
    · exact fun walk machine _ => ⟨[], by simp, rfl⟩
    · exact fun walk machine _ => ⟨[], by simp, walk.draft, rfl⟩
  perform operation span walked walk := by
    rw [Action.KeepsFrom, Walk.perform_eq]
    cases result : (walk.draft.apply operation).1 with
    | ok =>
        refine ⟨[operation], by simp, ?_⟩
        rw [Draft.applyAll_singleton]
        exact Prod.ext result rfl
    | error => exact ⟨[operation], by simp, walk.draft, rfl⟩
  block bindings body keeps := by
    refine keeps.around ?_ ?_ ?_
    · exact fun _ _ _ => trivial
    · exact fun _ _ kept => kept
    · exact fun _ _ failed => failed

/-- Walks that are the same, but for the settings of their drafts, until the second stops. -/
def Walk.permitting (settings settings' : Settings) (parts : List Template)
    (all : List Expression) : Coupling (Walk σ) (Walk σ) (Deed σ) :=
  Walk.coupling
    ((Machine.permitting (settings.implicitDeclarations ≠ settings'.implicitDeclarations) all).with
      fun machine machine' => machine' = machine)
    (fun draft draft' operations => draft = draft'.allowing settings.allowEmptyMessages ∧
      draft'.allowEmptyMessages = settings'.allowEmptyMessages ∧
      ∀ reached, (Draft.ofSettings settings').applyAll operations.toList = (.ok (), reached) →
        draft' = reached)
    fun draft operations failure =>
      settings.allowEmptyMessages ≠ settings'.allowEmptyMessages ∧
        ∃ before, operations.toList = before ++ [.closeMessage] ∧
          ∀ reached, (Draft.ofSettings settings').applyAll before = (.ok (), reached) →
            Draft.LeftEmpty (.ofSettings settings') parts operations.toList draft failure

section Walks

variable {settings settings' : Settings} {parts : List Template} {all : List Expression}

theorem Walk.permitting_perform (permits : settings.Permits settings') {node : Template}
    (member : node ∈ parts) {operation : Draft.Operation} (does : node.Does operation)
    (walked : operation.Walked) :
    Action.Coupled (Walk.permitting (σ := σ) settings settings' parts all)
      (Walk.perform operation node.span) (Walk.perform operation node.span) fun _ => [] where
  along walk' walk same := by
    obtain ⟨machines, operations, drafts, allowed, reaches⟩ := same
    rw [perform_eq, perform_eq, operations, drafts]
    have reaching : ∀ reached, (Draft.ofSettings settings').applyAll
        (walk'.operations.push operation).toList = (.ok (), reached) →
          (walk'.draft.apply operation).2 = reached := by
      intro reached applied
      rw [Array.toList_push] at applied
      obtain ⟨middle, before, last⟩ := Draft.applyAll_append_ok applied
      rw [← reaches middle before, Draft.applyAll_singleton] at last
      rw [last]
    have stays := (walk'.draft.allowEmptyMessages_apply walked).trans allowed
    have applies := walk'.draft.apply_allowing settings.allowEmptyMessages
      (allowed ▸ permits.messages) walked
    rcases applies with outcome | ⟨rfl, differ, role, after, refused⟩
    · rw [outcome]
      refine .done ⟨⟨machines, rfl, rfl, stays, reaching⟩, ?_, trivial⟩
      simp only [Draft.Outcome.allowing, Draft.origin?_allowing]
    · rw [refused]
      refine .quit ⟨⟨.emptyMessage role, some node.span⟩, rfl, .inr ⟨allowed ▸ differ, ?_⟩, ?_⟩
      · refine ⟨walk'.operations.toList, Array.toList_push, fun reached applied => ?_⟩
        rw [reaches reached applied] at refused
        rw [Array.toList_push]
        exact .closed member does applied refused
      · exact machines ▸ List.prefix_rfl
  lasting walk' walk later := by
    rw [perform_eq]
    exact later

theorem Walk.permitting_joining (host : Host σ) (permits : settings.Permits settings')
    (parts : List Template) (all : List Expression) :
    Walk.Joining (fun _ : Unit => Walk.permitting settings settings' parts all)
      (fun _ => (Machine.permitting
        (settings.implicitDeclarations ≠ settings'.implicitDeclarations) all).with
          fun machine machine' => machine' = machine)
      host settings.implicitDeclarations settings'.implicitDeclarations parts all where
  machine _ := Machine.permitting_joining host permits.declarations all
  evaluating _ _ _ _ _ coupled := evaluating_coupled coupled
  perform _ node member operation does walked := permitting_perform permits member does walked
  block index bindings body body' deeds coupled := by
    have entering : ∀ machine machine' : Machine σ, machine' = machine → ∃ _ : Unit,
        machine'.entered bindings = machine.entered bindings ∧
          ∀ after after', after' = after → machine'.leaving after' = machine.leaving after := by
      rintro machine _ rfl
      refine ⟨(), rfl, ?_⟩
      rintro after _ rfl
      rfl
    exact @inBlock_coupled σ Unit _ (fun _ machine machine' => machine' = machine) _ _
      Machine.permitting_unscoped index bindings body body' deeds entering coupled

end Walks

/-! ## Compilations -/

/-- How a compilation with an option goes beside one without: in the same way, or the latter stops
where its host has been asked a part of what the host of the former is asked. -/
inductive Conserved (stops : Machine σ → Failure → Prop) :
    Machine σ × Option (Except Failure (List Message)) →
      Machine σ × Option (Except Failure (List Message)) → Prop where
  | same (run : Machine σ × Option (Except Failure (List Message))) : Conserved stops run run
  | stopped {first : Machine σ × Option (Except Failure (List Message))} {machine : Machine σ}
      {failure : Failure} (stop : stops machine failure)
      (earlier : machine.history.toList <+: first.1.history.toList) :
      Conserved stops first (machine, some (.error failure))

theorem Conserved.imp {stops stops' : Machine σ → Failure → Prop}
    {first second : Machine σ × Option (Except Failure (List Message))}
    (conserved : Conserved stops first second)
    (weaker : ∀ machine failure, stops machine failure → stops' machine failure) :
    Conserved stops' first second := by
  cases conserved with
  | same => exact .same _
  | stopped stop earlier => exact .stopped (weaker _ _ stop) earlier

namespace Template

/-- The walk of the template stops where a message is left empty. -/
def StopsEmpty (template : Template) (settings : Settings) (host : Host σ) (start : Walk σ)
    (machine : Machine σ) (failure : Failure) : Prop :=
  ∃ final, (template.walk host settings.implicitDeclarations start).outcome =
      (final, some (.error failure)) ∧ final.machine = machine ∧
    Draft.LeftEmpty (.ofSettings settings) template.nodes final.operations.toList final.draft failure

/-- The walk of the template stops where a variable is not declared. -/
def StopsUndeclared (template : Template) (settings : Settings) (host : Host σ) (start : Walk σ)
    (machine : Machine σ) (failure : Failure) : Prop :=
  Deed.Undeclared template.expressions
    (template.deeds host settings.implicitDeclarations start) machine failure

/-- A walk whose draft refuses to close a message has done all operations before. -/
theorem stopsEmpty_of_refused {template : Template} {settings : Settings} {registry : Registry}
    {host : Host σ} {now : Int} {scope : Scope} {world : σ} {final : Walk σ} {failure : Failure}
    {before : List Draft.Operation}
    (ended : (template.walk host settings.implicitDeclarations
      (.starting settings registry now scope world)).outcome = (final, some (.error failure)))
    (log : final.operations.toList = before ++ [.closeMessage])
    (refused : ∀ reached, (Draft.ofSettings settings).applyAll before = (.ok (), reached) →
      Draft.LeftEmpty (.ofSettings settings) template.nodes final.operations.toList final.draft
        failure) :
    template.StopsEmpty settings host (.starting settings registry now scope world) final.machine
      failure := by
  have keeping := Walk.unfailing_keeping host settings.implicitDeclarations template.expressions
  have keeps := template.walk_keeps keeping (List.Subset.refl _)
  obtain ⟨operations, recorded, reached, applied⟩ := keeps.ended ended
  rw [Walk.starting, List.nil_append] at recorded
  rw [← recorded, log, List.dropLast_concat] at applied
  exact ⟨final, ended, rfl, refused reached applied⟩

/-- The walk of the template stops for want of an option that the first settings have. -/
def StopsFor (template : Template) (settings settings' : Settings) (host : Host σ)
    (start : Walk σ) (machine : Machine σ) (failure : Failure) : Prop :=
  settings.implicitDeclarations ≠ settings'.implicitDeclarations ∧
      template.StopsUndeclared settings' host start machine failure ∨
    settings.allowEmptyMessages ≠ settings'.allowEmptyMessages ∧
      template.StopsEmpty settings' host start machine failure

/-- The second of two tasks stops for such a want, and what is left of the first only asks more. -/
def Stops (template : Template) (settings settings' : Settings) (host : Host σ) (start : Walk σ)
    {τ : Type} (machine : τ → Machine σ) {α β : Type} (rest : Task τ (Except Failure α))
    (state' : τ) (result' : Except Failure β) : Prop :=
  ∃ failure, result' = .error failure ∧
    template.StopsFor settings settings' host start (machine state') failure ∧
    rest.Always (fun state => (machine state').history.toList <+: (machine state).history.toList)
      fun state _ => (machine state').history.toList <+: (machine state).history.toList

section Compilations

variable {settings settings' : Settings} (registry : Registry) (host : Host σ) (now : Int)
  (template : Template) (scope : Scope) (world : σ)

private theorem walk_permitting (permits : settings.Permits settings') :
    Task.Leads (fun walk walk' => walk'.machine = walk.machine)
      (fun walk result walk' result' => walk'.machine = walk.machine ∧ result = result' ∧
        walk'.draft.finish = walk.draft.finish)
      (template.Stops settings settings' host (.starting settings' registry now scope world)
        Walk.machine)
      (template.walk host settings.implicitDeclarations
        (.starting settings registry now scope world))
      (template.walk host settings'.implicitDeclarations
        (.starting settings' registry now scope world)) := by
  have prepared : settings'.prepare registry now scope = settings.prepare registry now scope := by
    simp only [Settings.prepare, permits.currentTimeBinding]
  have machines : Machine.starting settings' registry now scope world =
      Machine.starting settings registry now scope world := by
    rw [Machine.starting, Machine.starting, prepared]
  have drafts : Draft.ofSettings settings =
      (Draft.ofSettings settings').allowing settings.allowEmptyMessages := by
    simp only [Draft.ofSettings, Draft.allowing, permits.rootText]
  have alike : (Walk.permitting settings settings' template.nodes template.expressions).alike
      (.starting settings registry now scope world)
      (.starting settings' registry now scope world) := by
    refine ⟨machines, rfl, drafts, rfl, ?_⟩
    intro reached applied
    cases applied
    rfl
  have joining := Walk.permitting_joining host permits template.nodes template.expressions
  have walks := template.walk_coupled joining (List.Subset.refl _) (List.Subset.refl _) ()
  refine (walks.along _ _ alike).and_outcome.mono ?_ ?_ ?_
  · exact fun during during' underway => underway.1
  · intro walk result walk' result' agreed
    obtain ⟨⟨⟨same, -, drafts, -⟩, equal, -⟩, -⟩ := agreed
    exact ⟨same, equal, by rw [drafts, Draft.finish_allowing]⟩
  · intro rest walk' result' quitted
    obtain ⟨⟨failure, rfl, stopped, later⟩, ended⟩ := quitted
    refine ⟨failure, rfl, ?_, later⟩
    rcases stopped with undeclared | ⟨differ, before, log, refused⟩
    · exact .inl undeclared
    · exact .inr ⟨differ, stopsEmpty_of_refused ended log refused⟩

/-- Compilations go hand in hand until the second stops for want of an option that it lacks. -/
theorem compile_permitting (permits : settings.Permits settings') :
    Task.Leads (fun machine machine' => machine' = machine)
      (fun machine result machine' result' => machine' = machine ∧ result = result')
      (template.Stops settings settings' host (.starting settings' registry now scope world) id)
      (template.compile settings registry host now scope world)
      (template.compile settings' registry host now scope world) := by
  have walks := template.walk_permitting registry host now scope world permits
  have document : Task.Leads (fun walk walk' => walk'.machine = walk.machine)
      (fun walk result walk' result' => walk'.machine = walk.machine ∧ result = result')
      (template.Stops settings settings' host (.starting settings' registry now scope world)
        Walk.machine)
      ((template.walk host settings.implicitDeclarations >>= fun _ => Walk.finish)
        (.starting settings registry now scope world))
      ((template.walk host settings'.implicitDeclarations >>= fun _ => Walk.finish)
        (.starting settings' registry now scope world)) := by
    refine walks.bind ?_ ?_
    · intro walk result walk' result' agreed
      obtain ⟨same, rfl, finish⟩ := agreed
      cases result with
      | ok => exact .done ⟨same, finish.symm⟩
      | error failure => exact .done ⟨same, rfl⟩
    · intro rest walk' result' stops
      obtain ⟨failure, rfl, stopped, later⟩ := stops
      refine .quit ⟨failure, rfl, stopped, later.bind ?_⟩
      intro walk result later
      cases result with
      | ok => exact later
      | error failure => exact later
  refine document.mapState ?_ ?_ ?_
  · exact fun _ _ same => same
  · exact fun _ _ _ _ agreed => agreed
  · intro rest walk' result' stops
    obtain ⟨failure, failed, stopped, later⟩ := stops
    exact ⟨failure, failed, stopped, later.mapState (fun _ seen => seen) fun _ _ ends => ends⟩

private theorem compileWithin_conserved (permits : settings.Permits settings')
    (interruption : Interruption σ) :
    Conserved
      (template.StopsFor settings settings' host (.starting settings' registry now scope world))
      (template.compileWithin settings registry host now interruption scope world)
      (template.compileWithin settings' registry host now interruption scope world) := by
  have leads := template.compile_permitting registry host now scope world permits
  have ends := compileWithin_leads leads permits.timeout.symm (fun _ => rfl) interruption
  generalize template.compileWithin settings registry host now interruption scope world = first
    at ends ⊢
  rcases ends with ⟨machine, result, _, rfl, second, rfl⟩ | ⟨machine, rfl, second⟩ |
    ⟨rest, machine', _, ⟨failure, rfl, stopped, later⟩, second, lasting⟩
  · rw [second]
    exact .same _
  · rw [second]
    exact .same _
  · rw [second]
    exact .stopped stopped (lasting _ later)

end Compilations

/-- Permission to leave messages empty, or to declare variables by assigning to them, changes nothing
of a compilation but where it would stop for want of that permission; and what the host is asked
until then it is asked in either case. -/
theorem permissions_conserve (settings : Settings) (registry : Registry) (host : Host σ) (now : Int)
    (interruption : Interruption σ) (template : Template) (scope : Scope) (world : σ) :
    let compiled (settings : Settings) :=
      template.compileWithin settings registry host now interruption scope world
    let start (settings : Settings) : Walk σ := .starting settings registry now scope world
    let filling := { settings with allowEmptyMessages := false }
    let declaring := { settings with implicitDeclarations := false }
    Conserved (template.StopsEmpty filling host (start filling))
        (compiled { settings with allowEmptyMessages := true }) (compiled filling) ∧
      Conserved (template.StopsUndeclared declaring host (start declaring))
        (compiled { settings with implicitDeclarations := true }) (compiled declaring) := by
  constructor
  · have permits : Settings.Permits { settings with allowEmptyMessages := true }
        { settings with allowEmptyMessages := false } := ⟨fun _ => rfl, id, rfl, rfl, rfl⟩
    have conserved :=
      template.compileWithin_conserved registry host now scope world permits interruption
    refine conserved.imp fun machine failure stopped => ?_
    rcases stopped with ⟨differ, -⟩ | ⟨-, empty⟩
    · exact absurd rfl differ
    · exact empty
  · have permits : Settings.Permits { settings with implicitDeclarations := true }
        { settings with implicitDeclarations := false } := ⟨id, fun _ => rfl, rfl, rfl, rfl⟩
    have conserved :=
      template.compileWithin_conserved registry host now scope world permits interruption
    refine conserved.imp fun machine failure stopped => ?_
    rcases stopped with ⟨-, undeclared⟩ | ⟨differ, -⟩
    · exact undeclared
    · exact absurd rfl differ

end Template

end ChatTemplate
