import ChatTemplate.Proofs.Action
import ChatTemplate.Proofs.Causes
import ChatTemplate.Proofs.Nodes

/-!
What an evaluation does to the machine. It touches the machine in two ways only: it calls the host,
and it writes to places that its assignments name; and it may fail at every node. A contract that is
met by both, and that lets every node fail, is met by the evaluation of every expression. For a
promise nothing has to be said of failures.
-/

set_option autoImplicit false

namespace ChatTemplate

variable {σ : Type}

namespace Machine

theorem outcome_readPlace_ok {place : Place} {span : Span} {machine final : Machine σ}
    {value : Value} (ended : (readPlace place span machine).outcome = (final, some (.ok value))) :
    final = machine ∧ place.read machine.scope = .ok value := by
  obtain ⟨_, _, looked, ended⟩ := Action.outcome_bind_ok ended
  cases looked
  exact Action.outcome_located_ok ended

/-- The steps of an evaluation that change the machine keep a promise: calls of the host, plain
assignments, and writes to places whose root was bound when they were read. `all` holds the
expressions that take part. -/
structure Keeping (promise : Promise (Machine σ)) (host : Host σ) (implicit : Bool)
    (all : List Expression) : Prop where
  invoke : ∀ site ∈ all, ∀ function arguments,
    (Machine.invoke host site function arguments).Keeps promise
  assign : ∀ target value place, Expression.assignment .plain target value place ∈ all →
    ∀ root path, target.targetRoot = .ok root →
      (path = [] → ∃ place, target = .identifier root place) →
        ∀ new span, (writePlace implicit ⟨root, path⟩ new span).Keeps promise
  rewrite : ∀ node ∈ all, ∀ root, node.written? = some root → ∀ path current before after,
    Place.read ⟨root, path⟩ before.scope = .ok current → promise.kept before after →
      ∀ new span, (writePlace implicit ⟨root, path⟩ new span).KeepsFrom promise after

/-- The steps of an evaluation meet a contract: calls of the host at call expressions, plain
assignments and writes to places whose root was bound when they were read, each located at its own
node. Every node may fail with a cause that is found out at once. -/
structure Meeting (contract : Contract (Machine σ)) (host : Host σ) (implicit : Bool)
    (all : List Expression) : Prop where
  fails : ∀ node ∈ all, ∀ cause, ¬ Cause.Belated cause → ∀ machine,
    contract.failed machine machine ⟨cause, some node.span⟩
  invoke : ∀ callee arguments optional place,
    Expression.call callee arguments optional place ∈ all → ∀ function values,
      (Machine.invoke host (.call callee arguments optional place) function values).Meets contract
  assign : ∀ target value place, Expression.assignment .plain target value place ∈ all →
    ∀ root path, target.targetRoot = .ok root →
      (path = [] → ∃ place, target = .identifier root place) →
        ∀ new, (writePlace implicit ⟨root, path⟩ new place).Meets contract
  rewrite : ∀ node ∈ all, ∀ root, node.written? = some root → ∀ path current before after,
    Place.read ⟨root, path⟩ before.scope = .ok current → contract.kept before after →
      ∀ new, (writePlace implicit ⟨root, path⟩ new node.span).MeetsFrom contract after

theorem Keeping.meeting {promise : Promise (Machine σ)} {host : Host σ} {implicit : Bool}
    {all : List Expression} (keeping : Keeping promise host implicit all) :
    Meeting promise.toContract host implicit all where
  fails _ _ _ _ := promise.stop
  invoke _ _ _ _ member function values := keeping.invoke _ member function values
  assign target value place member root path found identifier new :=
    keeping.assign target value place member root path found identifier new place
  rewrite node member root written path current before after read kept new :=
    keeping.rewrite node member root written path current before after read kept new node.span

theorem Keeping.nothing (host : Host σ) (implicit : Bool) (all : List Expression) :
    Keeping .nothing host implicit all where
  invoke _ _ _ _ := Action.keeps_nothing _
  assign _ _ _ _ _ _ _ _ _ _ := Action.keeps_nothing _
  rewrite _ _ _ _ _ _ _ after _ _ _ _ := Action.keeps_nothing _ after

/-- While the host answers a call the variables stay as they are, and the history has the call and
then the answer added. A report becomes the failure of the call as it is. -/
theorem always_invoke (host : Host σ) (site : Expression) (function : Nat)
    (arguments : List Value) (machine : Machine σ) :
    (invoke host site function arguments machine).Always
      (fun during => during.scope = machine.scope ∧
        during.history = machine.history.push (.called site function arguments machine.scope))
      fun after result => after.scope = machine.scope ∧ ∃ reply, after.history =
        (machine.history.push (.called site function arguments machine.scope)).push
          (.answered reply) ∧ result = reply.mapError (·.atCall site.span) := by
  let asked : Machine σ → Prop := fun during => during.scope = machine.scope ∧
    during.history = machine.history.push (.called site function arguments machine.scope)
  have answering : ((host.call function arguments machine.world).mapState fun world =>
      { machine.record (.called site function arguments machine.scope) with world }).Always asked
        fun during _ => asked during :=
    (Task.always_true _).mapState (fun _ _ => ⟨rfl, rfl⟩) fun _ _ _ => ⟨rfl, rfl⟩
  refine answering.bind ?_
  rintro during reply ⟨scope, history⟩
  cases reply with
  | ok value => exact ⟨scope, .ok value, by simp [record, history], rfl⟩
  | error report => exact ⟨scope, .error report, by simp [record, history], rfl⟩

/-- Writing to a place replaces the scope or is refused, and is not suspended. -/
theorem always_writePlace {seen : Machine σ → Prop} {ends : Machine σ → Except Failure Unit → Prop}
    {implicit : Bool} {place : Place} {value : Value} {span : Span} {machine : Machine σ}
    (wrote : ∀ scope, place.write implicit value machine.scope = .ok scope →
      ends { machine with scope } (.ok ()))
    (refused : ∀ cause, place.write implicit value machine.scope = .error cause →
      ends machine (.error ⟨cause, some span⟩)) :
    (writePlace implicit place value span machine).Always seen ends := by
  change (Action.andThen (Action.located span (place.write implicit value machine.scope))
    (fun scope => Action.modify fun machine : Machine σ => { machine with scope })
      machine).Always seen ends
  cases result : place.write implicit value machine.scope with
  | ok scope => exact wrote scope result
  | error cause => exact refused cause result

theorem Meeting.located {contract : Contract (Machine σ)} {host : Host σ} {implicit : Bool}
    {all : List Expression} (meeting : Meeting contract host implicit all) {α : Type}
    {node : Expression} (member : node ∈ all) {result : Except Cause α} (prompt : Prompt result) :
    (Action.located node.span result : Action (Machine σ) α).Meets contract :=
  Action.meets_located fun cause failed => meeting.fails node member cause (prompt cause failed)

/-- What follows the reading of a place may rely on the value that has been read. -/
theorem Meeting.reading {contract : Contract (Machine σ)} {host : Host σ} {implicit : Bool}
    {all : List Expression} (meeting : Meeting contract host implicit all) {node : Expression}
    (member : node ∈ all) {place : Place} {machine : Machine σ} {α : Type}
    {next : Value → Action (Machine σ) α}
    (after : ∀ current, place.read machine.scope = .ok current →
      (next current).MeetsFrom contract machine) :
    (readPlace place node.span >>= next).MeetsFrom contract machine := by
  have reads : (readPlace place node.span).Meets contract :=
    Action.meets_state.bind fun _ => meeting.located member (place.prompt_read _)
  refine (reads machine).bind fun reached current read _ => ?_
  obtain ⟨rfl, readOk⟩ := outcome_readPlace_ok read
  exact after current readOk

end Machine

namespace Expression

theorem outcome_targetRoot_ok {target : Expression} {machine final : Machine σ} {root : String}
    (ended : (Action.located target.span (target.targetRoot.mapError Cause.invalidAssignment)
      machine).outcome = (final, some (.ok root))) :
    target.targetRoot = .ok root := by
  obtain ⟨-, found⟩ := Action.outcome_located_ok ended
  cases same : target.targetRoot with
  | ok name =>
      rw [same] at found
      cases found
      rfl
  | error cause =>
      rw [same] at found
      cases found

/-- Only an identifier is reached from its root without any key. -/
theorem identifier_of_pathOf_nil {host : Host σ} {implicit : Bool} {target : Expression}
    {root : String} {machine final : Machine σ} (found : target.targetRoot = .ok root)
    (ended : (pathOf host implicit target machine).outcome = (final, some (.ok []))) :
    ∃ place, target = .identifier root place := by
  cases target with
  | identifier name place =>
      cases found
      exact ⟨place, rfl⟩
  | member owner property computed optional place =>
      simp only [pathOf] at ended
      obtain ⟨_, path, -, ended⟩ := Action.outcome_bind_ok ended
      obtain ⟨_, key, -, ended⟩ := Action.outcome_bind_ok ended
      have last := (Action.outcome_pure_ok ended).2
      simp at last
  | _ => cases found

section Meets

variable {contract : Contract (Machine σ)} {host : Host σ} {implicit : Bool} {all : List Expression}

private theorem orNull_meets {link : Action (Machine σ) (Option Value)}
    (meets : link.Meets contract) :
    link.orNull.Meets contract :=
  meets.bind fun _ => Action.meets_pure _

private theorem staticKey_meets (meeting : Machine.Meeting contract host implicit all)
    {key : Expression} (member : key ∈ all) :
    (key.staticKey : Action (Machine σ) String).Meets contract := by
  unfold staticKey
  split
  · exact Action.meets_pure _
  · exact Action.meets_pure _
  · exact Action.meets_failAt (meeting.fails key member _ id)

private theorem entryKey_meets (meeting : Machine.Meeting contract host implicit all)
    {key : Expression} (member : key ∈ all) (computed : Bool) {evaluated : Action (Machine σ) Value}
    (meets : evaluated.Meets contract) : (key.entryKey computed evaluated).Meets contract := by
  unfold entryKey
  split
  · refine meets.bind fun value => ?_
    unfold Value.objectKey
    split
    · exact Action.meets_pure _
    · exact Action.meets_pure _
    · exact Action.meets_failAt (meeting.fails key member _ id)
  · exact staticKey_meets meeting member

private theorem memberKey_meets (meeting : Machine.Meeting contract host implicit all)
    {property : Expression} (member : property ∈ all) (computed : Bool)
    {evaluated : Action (Machine σ) Value} (meets : evaluated.Meets contract) :
    (property.memberKey computed evaluated).Meets contract := by
  unfold memberKey
  split
  · exact meets
  · exact (staticKey_meets meeting member).bind fun _ => Action.meets_pure _

/-- What follows the root of a target and the keys that lead to it may rely on both: a target
without keys is an identifier. -/
theorem place_meets (meeting : Machine.Meeting contract host implicit all) {target : Expression}
    (member : target ∈ all) (pathMeets : (pathOf host implicit target).Meets contract) {α : Type}
    {next : String → List Value → Action (Machine σ) α}
    (after : ∀ root path, target.targetRoot = .ok root →
      (path = [] → ∃ place, target = .identifier root place) →
        (next root path).Meets contract) :
    (Action.located target.span (target.targetRoot.mapError Cause.invalidAssignment) >>= fun root =>
      pathOf host implicit target >>= fun path => next root path).Meets contract := by
  intro start
  refine (meeting.located member target.prompt_targetRoot start).bind fun atRoot root rooted _ => ?_
  have found := outcome_targetRoot_ok rooted
  refine (pathMeets atRoot).bind fun atPath path reached _ => ?_
  refine after root path found ?_ atPath
  rintro rfl
  exact identifier_of_pathOf_nil found reached

private theorem assignment_meets (meeting : Machine.Meeting contract host implicit all)
    {target value : Expression} {span : Span}
    (member : .assignment .plain target value span ∈ all) (inside : target ∈ all)
    (pathMeets : (pathOf host implicit target).Meets contract)
    (valueMeets : (link host implicit value).orNull.Meets contract) :
    (link host implicit (.assignment .plain target value span)).Meets contract := by
  rw [link]
  refine place_meets meeting inside pathMeets fun root path found identifier => ?_
  refine valueMeets.bind fun new => ?_
  have assigned := meeting.assign target value span member root path found identifier new
  exact assigned.bind fun _ => Action.meets_pure _

private theorem arithmeticAssignment_meets (meeting : Machine.Meeting contract host implicit all)
    {operator : ArithmeticOperator} {target value : Expression} {span : Span}
    (member : .assignment (.arithmetic operator) target value span ∈ all) (inside : target ∈ all)
    (pathMeets : (pathOf host implicit target).Meets contract)
    (valueMeets : (link host implicit value).orNull.Meets contract) :
    (link host implicit (.assignment (.arithmetic operator) target value span)).Meets contract := by
  rw [link]
  refine place_meets meeting inside pathMeets fun root path found _ before => ?_
  have written : written? (.assignment (.arithmetic operator) target value span) = some root := by
    simp [written?, found, Except.toOption]
  refine meeting.reading member fun current read => ?_
  refine (valueMeets before).bind fun between operand _ kept => ?_
  have computed := meeting.located member (Value.prompt_arithmetic operator current operand)
  refine (computed between).bind fun after new located _ => ?_
  obtain ⟨rfl, -⟩ := Action.outcome_located_ok located
  have rewritten := meeting.rewrite _ member root written path current before after read kept
  exact (rewritten new).bind fun state _ _ _ => Action.meets_pure _ state

private theorem logicalAssignment_meets (meeting : Machine.Meeting contract host implicit all)
    {operator : LogicalOperator} {target value : Expression} {span : Span}
    (member : .assignment (.logical operator) target value span ∈ all) (inside : target ∈ all)
    (pathMeets : (pathOf host implicit target).Meets contract)
    (valueMeets : (link host implicit value).orNull.Meets contract) :
    (link host implicit (.assignment (.logical operator) target value span)).Meets contract := by
  rw [link]
  refine place_meets meeting inside pathMeets fun root path found _ before => ?_
  have written : written? (.assignment (.logical operator) target value span) = some root := by
    simp [written?, found, Except.toOption]
  refine meeting.reading member fun current read => ?_
  split
  · exact Action.meets_pure _ before
  · refine (valueMeets before).bind fun after new _ kept => ?_
    have rewritten := meeting.rewrite _ member root written path current before after read kept
    exact (rewritten new).bind fun state _ _ _ => Action.meets_pure _ state

private theorem update_meets (meeting : Machine.Meeting contract host implicit all)
    {operator : UpdateOperator} {prefixed : Bool} {target : Expression} {span : Span}
    (member : .update operator prefixed target span ∈ all) (inside : target ∈ all)
    (pathMeets : (pathOf host implicit target).Meets contract) :
    (link host implicit (.update operator prefixed target span)).Meets contract := by
  rw [link]
  refine place_meets meeting inside pathMeets fun root path found _ before => ?_
  have written : written? (.update operator prefixed target span) = some root := by
    simp [written?, found, Except.toOption]
  refine meeting.reading member fun current read => ?_
  refine (meeting.located member current.prompt_toNumber before).bind fun after old located kept => ?_
  obtain ⟨rfl, -⟩ := Action.outcome_located_ok located
  have rewritten := meeting.rewrite _ member root written path current after after read kept
  exact (rewritten _).bind fun state _ _ _ => Action.meets_pure _ state

mutual

theorem link_meets (meeting : Machine.Meeting contract host implicit all) :
    (expression : Expression) → expression.nodes ⊆ all →
    (link host implicit expression).Meets contract
  | .literal value span, _ => by
      rw [link]
      exact Action.meets_pure _
  | .identifier name span, within => by
      have member := within (mem_nodes_self _)
      rw [link]
      refine Action.meets_state.bind fun machine => ?_
      have resolved := meeting.located member (machine.scope.prompt_resolve name)
      exact resolved.bind fun _ => Action.meets_pure _
  | .object properties span, within => by
      rw [link]
      refine (entriesOf_meets meeting properties ?_ ∅).bind fun _ => Action.meets_pure _
      exact fun _ member => within (List.mem_cons_of_mem _ member)
  | .array elements span, within => by
      rw [link]
      refine (valuesOf_meets meeting elements ?_).bind fun _ => Action.meets_pure _
      exact fun _ member => within (List.mem_cons_of_mem _ member)
  | .sequence expressions span, within => by
      rw [link]
      refine (lastOf_meets meeting expressions ?_ .null).bind fun _ => Action.meets_pure _
      exact fun _ member => within (List.mem_cons_of_mem _ member)
  | .logical operator left right span, within => by
      simp only [nodes, inside, List.cons_subset, List.append_subset] at within
      have leftMeets := orNull_meets (link_meets meeting left (by simp [nodes, within]))
      have rightMeets := orNull_meets (link_meets meeting right (by simp [nodes, within]))
      rw [link]
      refine leftMeets.bind fun value => ?_
      split
      · exact Action.meets_pure _
      · exact rightMeets.bind fun _ => Action.meets_pure _
  | .binary operator left right span, within => by
      have member := within (mem_nodes_self _)
      simp only [nodes, inside, List.cons_subset, List.append_subset] at within
      have leftMeets := orNull_meets (link_meets meeting left (by simp [nodes, within]))
      have rightMeets := orNull_meets (link_meets meeting right (by simp [nodes, within]))
      rw [link]
      refine leftMeets.bind fun first => rightMeets.bind fun second => ?_
      have computed := meeting.located member (Value.prompt_binary operator first second)
      exact computed.bind fun _ => Action.meets_pure _
  | .unary operator argument span, within => by
      have member := within (mem_nodes_self _)
      simp only [nodes, inside, List.cons_subset] at within
      have argumentMeets := orNull_meets (link_meets meeting argument (by simp [nodes, within]))
      rw [link]
      refine argumentMeets.bind fun value => ?_
      have computed := meeting.located member (Value.prompt_unary operator value)
      exact computed.bind fun _ => Action.meets_pure _
  | .assignment operator target value span, within => by
      have member := within (mem_nodes_self _)
      simp only [nodes, inside, List.cons_subset, List.append_subset] at within
      have pathMeets := pathOf_meets meeting target (by simp [nodes, within])
      have valueMeets := orNull_meets (link_meets meeting value (by simp [nodes, within]))
      cases operator with
      | plain => exact assignment_meets meeting member within.2.1.1 pathMeets valueMeets
      | arithmetic operator =>
          exact arithmeticAssignment_meets meeting member within.2.1.1 pathMeets valueMeets
      | logical operator =>
          exact logicalAssignment_meets meeting member within.2.1.1 pathMeets valueMeets
  | .update operator prefixed target span, within => by
      have member := within (mem_nodes_self _)
      simp only [nodes, inside, List.cons_subset] at within
      have pathMeets := pathOf_meets meeting target (by simp [nodes, within])
      exact update_meets meeting member within.2.1 pathMeets
  | .member owner property computed optional span, within => by
      have member := within (mem_nodes_self _)
      simp only [nodes, inside, List.cons_subset, List.append_subset] at within
      have ownerMeets := link_meets meeting owner (by simp [nodes, within])
      have propertyMeets := orNull_meets (link_meets meeting property (by simp [nodes, within]))
      have keyMeets := memberKey_meets meeting within.2.2.1 computed propertyMeets
      rw [link]
      refine ownerMeets.bind fun owner? => ?_
      cases owner? with
      | none => exact Action.meets_pure _
      | some container =>
          dsimp only
          split
          · exact Action.meets_pure _
          · refine keyMeets.bind fun key => ?_
            have found := meeting.located member (container.prompt_member key)
            exact found.bind fun _ => Action.meets_pure _
  | .conditional test consequent alternate span, within => by
      simp only [nodes, inside, List.cons_subset, List.append_subset] at within
      have testMeets := orNull_meets (link_meets meeting test (by simp [nodes, within]))
      have consequentMeets := orNull_meets (link_meets meeting consequent (by simp [nodes, within]))
      have alternateMeets := orNull_meets (link_meets meeting alternate (by simp [nodes, within]))
      rw [link]
      refine testMeets.bind fun value => ?_
      dsimp only
      split
      · exact consequentMeets.bind fun _ => Action.meets_pure _
      · exact alternateMeets.bind fun _ => Action.meets_pure _
  | .call callee arguments optional span, within => by
      have member := within (mem_nodes_self _)
      simp only [nodes, inside, List.cons_subset, List.append_subset] at within
      have calleeMeets := link_meets meeting callee (by simp [nodes, within])
      have argumentsMeet := valuesOf_meets meeting arguments within.2.2
      rw [link]
      refine calleeMeets.bind fun callee? => ?_
      cases callee? with
      | none => exact Action.meets_pure _
      | some function =>
          dsimp only
          split
          · exact Action.meets_pure _
          · split
            · refine argumentsMeet.bind fun values => ?_
              exact (meeting.invoke _ _ _ _ member _ values).bind fun _ => Action.meets_pure _
            · exact Action.meets_failAt (meeting.fails _ member _ id)
  | .chain inner span, within => by
      simp only [nodes, inside, List.cons_subset] at within
      have innerMeets := orNull_meets (link_meets meeting inner (by simp [nodes, within]))
      rw [link]
      exact innerMeets.bind fun _ => Action.meets_pure _

theorem valuesOf_meets (meeting : Machine.Meeting contract host implicit all) :
    (expressions : List Expression) → insideAll expressions ⊆ all →
    (valuesOf host implicit expressions).Meets contract
  | [], _ => by
      rw [valuesOf]
      exact Action.meets_pure _
  | expression :: rest, within => by
      simp only [insideAll, List.append_subset] at within
      rw [valuesOf]
      refine (orNull_meets (link_meets meeting expression within.1)).bind fun _ => ?_
      exact (valuesOf_meets meeting rest within.2).bind fun _ => Action.meets_pure _

theorem lastOf_meets (meeting : Machine.Meeting contract host implicit all) :
    (expressions : List Expression) → insideAll expressions ⊆ all →
    ∀ last, (lastOf host implicit expressions last).Meets contract
  | [], _, last => by
      rw [lastOf]
      exact Action.meets_pure _
  | expression :: rest, within, last => by
      simp only [insideAll, List.append_subset] at within
      rw [lastOf]
      refine (orNull_meets (link_meets meeting expression within.1)).bind fun value => ?_
      exact lastOf_meets meeting rest within.2 value

theorem entriesOf_meets (meeting : Machine.Meeting contract host implicit all) :
    (properties : List Property) → insideEntries properties ⊆ all →
    ∀ entries, (entriesOf host implicit properties entries).Meets contract
  | [], _, entries => by
      rw [entriesOf]
      exact Action.meets_pure _
  | .mk key value computed :: rest, within, entries => by
      simp only [insideEntries, List.append_subset] at within
      have keyMeets := orNull_meets (link_meets meeting key within.1.1)
      have valueMeets := orNull_meets (link_meets meeting value within.1.2)
      have member := within.1.1 (mem_nodes_self key)
      rw [entriesOf]
      refine (entryKey_meets meeting member computed keyMeets).bind fun _ => ?_
      exact valueMeets.bind fun _ => entriesOf_meets meeting rest within.2 _

theorem pathOf_meets (meeting : Machine.Meeting contract host implicit all) :
    (target : Expression) → target.nodes ⊆ all →
    (pathOf host implicit target).Meets contract
  | .member owner property computed optional span, within => by
      simp only [nodes, inside, List.cons_subset, List.append_subset] at within
      have ownerMeets := pathOf_meets meeting owner (by simp [nodes, within])
      have propertyMeets := orNull_meets (link_meets meeting property (by simp [nodes, within]))
      have keyMeets := memberKey_meets meeting within.2.2.1 computed propertyMeets
      rw [pathOf]
      exact ownerMeets.bind fun _ => keyMeets.bind fun _ => Action.meets_pure _
  | .literal .., _ | .identifier .., _ | .object .., _ | .array .., _ | .sequence .., _
  | .logical .., _ | .binary .., _ | .unary .., _ | .assignment .., _ | .update .., _
  | .conditional .., _ | .call .., _ | .chain .., _ => by
      simp only [pathOf]
      exact Action.meets_pure _

end

theorem evaluate_meets (meeting : Machine.Meeting contract host implicit all)
    (expression : Expression) (within : expression.nodes ⊆ all) :
    (expression.evaluate host implicit).Meets contract :=
  orNull_meets (link_meets meeting expression within)

end Meets

theorem evaluate_keeps {promise : Promise (Machine σ)} {host : Host σ} {implicit : Bool}
    {all : List Expression} (keeping : Machine.Keeping promise host implicit all)
    (expression : Expression) (within : expression.nodes ⊆ all) :
    (expression.evaluate host implicit).Keeps promise :=
  Action.keeps_iff_meets.mpr (expression.evaluate_meets keeping.meeting within)

end Expression

end ChatTemplate
