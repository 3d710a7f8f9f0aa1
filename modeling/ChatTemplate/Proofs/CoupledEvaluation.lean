import ChatTemplate.Proofs.Deeds
import ChatTemplate.Proofs.Frame

/-!
Evaluations in pairs. Evaluations of one expression are coupled, with the deeds of the second, when
names are looked up alike in machines that belong together and when calls of the host and writes are
coupled. A write to what has been read before meets a variable that is bound: nothing that the right
side does takes a variable away.
-/

set_option autoImplicit false

namespace ChatTemplate

variable {σ : Type}

/-- A name that occurs as an identifier. -/
def Expression.Mentioned (all : List Expression) (name : String) : Prop :=
  ∃ place, Expression.identifier name place ∈ all

theorem Expression.Mentioned.mono {few all : List Expression} {name : String}
    (mentioned : Mentioned few name) (within : few ⊆ all) : Mentioned all name := by
  obtain ⟨place, member⟩ := mentioned
  exact ⟨place, within member⟩

theorem Expression.mentioned_of_targetRoot {target : Expression} {root : String}
    (found : target.targetRoot = .ok root) : Mentioned target.nodes root := by
  fun_induction targetRoot target with
  | case1 name place =>
      cases found
      exact ⟨place, List.mem_cons_self⟩
  | case2 owner property computed place ih =>
      obtain ⟨spot, member⟩ := ih found
      exact ⟨spot, List.mem_cons_of_mem _ (List.mem_append_left _ member)⟩
  | case3 => cases found

namespace Machine

/-- The steps of an evaluation are coupled: names are looked up alike, and calls of the host, plain
assignments and writes to variables that are bound are coupled, each as one deed. -/
structure Joining (coupling : Coupling (Machine σ) (Machine σ) (Deed σ)) (host : Host σ)
    (implicit implicit' : Bool) (all : List Expression) : Prop where
  resolves : ∀ name, Expression.Mentioned all name → ∀ machine machine',
    coupling.alike machine machine' → machine.scope.resolve name = machine'.scope.resolve name
  invoke : ∀ callee arguments optional place,
    Expression.call callee arguments optional place ∈ all → ∀ function values,
      Action.Coupled coupling
        (Machine.invoke host (.call callee arguments optional place) function values)
        (Machine.invoke host (.call callee arguments optional place) function values)
        fun machine' => [⟨.call callee arguments optional place, machine'⟩]
  assign : ∀ target value place, Expression.assignment .plain target value place ∈ all →
    ∀ root path, Expression.Mentioned all root →
      (path = [] → ∃ place, target = .identifier root place) → ∀ new machine',
        Action.CoupledAt coupling (writePlace implicit ⟨root, path⟩ new place)
          (writePlace implicit' ⟨root, path⟩ new place)
          [⟨.assignment .plain target value place, machine'⟩] machine'
  rewrite : ∀ node ∈ all, ∀ root, node.written? = some root → Expression.Mentioned all root →
    ∀ path new machine', machine'.scope.contains root →
      Action.CoupledAt coupling (writePlace implicit ⟨root, path⟩ new node.span)
        (writePlace implicit' ⟨root, path⟩ new node.span) [⟨node, machine'⟩] machine'
  lasting : ∀ place new span, Action.Lasting coupling (writePlace implicit place new span)

/-- The machine while a call is answered, with the world as the host has it then. -/
def asking (site : Expression) (function : Nat) (arguments : List Value) (world : σ)
    (machine : Machine σ) : Machine σ :=
  { machine.record (.called site function arguments machine.scope) with world }

def answered (site : Expression) (function : Nat) (arguments : List Value) (world : σ)
    (reply : Except HostFailure Value) (machine : Machine σ) : Machine σ :=
  (machine.asking site function arguments world).record (.answered reply)

theorem history_asking (site : Expression) (function : Nat) (arguments : List Value) (world : σ)
    (machine : Machine σ) : (machine.asking site function arguments world).history.toList =
      machine.history.toList ++ [.called site function arguments machine.scope] := by
  simp only [asking, record, Array.toList_push]

theorem history_answered (site : Expression) (function : Nat) (arguments : List Value) (world : σ)
    (reply : Except HostFailure Value) (machine : Machine σ) :
    (machine.answered site function arguments world reply).history.toList =
      (machine.asking site function arguments world).history.toList ++ [.answered reply] := by
  simp only [answered, record, Array.toList_push]

theorem invoke_eq (host : Host σ) (site : Expression) (function : Nat) (arguments : List Value)
    (machine : Machine σ) :
    invoke host site function arguments machine =
      ((host.call function arguments machine.world).mapState
        fun world => machine.asking site function arguments world).bind fun during reply =>
          .done (during.record (.answered reply)) (reply.mapError (·.atCall site.span)) := by
  unfold invoke
  dsimp only
  congr 1
  funext during reply
  cases reply with
  | ok => rfl
  | error => rfl

theorem writePlace_eq (implicit : Bool) (place : Place) (value : Value) (span : Span)
    (machine : Machine σ) :
    writePlace implicit place value span machine =
      match place.write implicit value machine.scope with
      | .ok scope => .done { machine with scope } (.ok ())
      | .error cause => .done machine (.error ⟨cause, some span⟩) := by
  change Action.andThen (Action.located span (place.write implicit value machine.scope))
    (fun scope => Action.modify fun machine : Machine σ => { machine with scope }) machine = _
  cases place.write implicit value machine.scope with
  | ok scope => rfl
  | error cause => rfl

section Joining

variable {coupling : Coupling (Machine σ) (Machine σ) (Deed σ)} {host : Host σ}
  {implicit implicit' : Bool} {all : List Expression}

/-- Calls are coupled when the worlds are the same and nothing but the question and the answer is
added: the host does the same in both. -/
theorem coupled_invoke {site : Expression} {function : Nat} {arguments : List Value}
    (worlds : ∀ machine machine', coupling.alike machine machine' →
      machine.world = machine'.world)
    (asks : ∀ machine machine', coupling.alike machine machine' → ∀ world,
      coupling.underway machine' [⟨site, machine'⟩] (machine.asking site function arguments world)
        (machine'.asking site function arguments world))
    (answers : ∀ machine machine', coupling.alike machine machine' → ∀ world reply,
      coupling.alike (machine.answered site function arguments world reply)
          (machine'.answered site function arguments world reply) ∧
        coupling.course machine' [⟨site, machine'⟩]
          (machine'.answered site function arguments world reply))
    (asksLater : ∀ machine' machine, coupling.later machine' machine → ∀ world,
      coupling.later machine' (machine.asking site function arguments world))
    (answersLater : ∀ machine' machine, coupling.later machine' machine → ∀ world reply,
      coupling.later machine' (machine.answered site function arguments world reply)) :
    Action.Coupled coupling (invoke host site function arguments)
      (invoke host site function arguments) fun machine' => [⟨site, machine'⟩] where
  along machine' machine alike := by
    have calls : Task.Leads _ _ (fun _ _ _ => False) _ _ :=
      Task.leads_self (host.call function arguments machine.world)
    rw [invoke_eq, invoke_eq, ← worlds machine machine' alike]
    have answering : Task.Leads (coupling.underway machine' [⟨site, machine'⟩])
        (fun during reply during' reply' => reply = reply' ∧ ∃ world,
          during = machine.asking site function arguments world ∧
            during' = machine'.asking site function arguments world)
        (fun _ _ _ => False)
        ((host.call function arguments machine.world).mapState
          fun world => machine.asking site function arguments world)
        ((host.call function arguments machine.world).mapState
          fun world => machine'.asking site function arguments world) := by
      refine calls.mapState ?_ ?_ ?_
      · rintro world _ rfl
        exact asks machine machine' alike world
      · rintro world reply _ _ ⟨rfl, rfl⟩
        exact ⟨rfl, world, rfl, rfl⟩
      · exact fun _ _ _ none => none
    refine answering.bind ?_ fun _ _ _ none => none.elim
    rintro _ reply _ _ ⟨rfl, world, rfl, rfl⟩
    obtain ⟨alikes, course⟩ := answers machine machine' alike world reply
    exact .done ⟨alikes, rfl, course⟩
  lasting machine' machine later := by
    rw [invoke_eq]
    have answering : ((host.call function arguments machine.world).mapState
        fun world => machine.asking site function arguments world).Always
        (coupling.later machine') fun during _ =>
          ∃ world, during = machine.asking site function arguments world :=
      (Task.always_true _).mapState (fun world _ => asksLater machine' machine later world)
        fun world _ _ => ⟨world, rfl⟩
    refine answering.bind ?_
    rintro _ reply ⟨world, rfl⟩
    exact answersLater machine' machine later world reply

private theorem coupled_look {α : Type} {look : Machine σ → Except Cause α} {span : Span}
    (same : ∀ machine machine', coupling.alike machine machine' → look machine = look machine') :
    Action.Coupled coupling (Action.state >>= fun machine => Action.located span (look machine))
      (Action.state >>= fun machine => Action.located span (look machine)) fun _ => [] where
  along machine' machine alike := by
    have located : Action.Coupled coupling (Action.located span (look machine'))
        (Action.located span (look machine')) fun _ => ([] : List (Deed σ)) :=
      Action.coupled_located span (look machine')
    have together := located.along machine' machine alike
    rw [← same machine machine' alike] at together
    show coupling.Together machine' [] (Action.located span (look machine) machine)
      (Action.located span (look machine') machine')
    rwa [← same machine machine' alike]
  lasting machine' machine later := Action.lasting_located span (look machine) machine' machine later

theorem Joining.lookup (joining : Joining coupling host implicit implicit' all) {name : String}
    (mentioned : Expression.Mentioned all name) (span : Span) :
    Action.Coupled coupling
      (Action.state >>= fun machine => Action.located span (machine.scope.resolve name))
      (Action.state >>= fun machine => Action.located span (machine.scope.resolve name))
      fun _ => [] :=
  coupled_look (joining.resolves name mentioned)

theorem Joining.read (joining : Joining coupling host implicit implicit' all) {place : Place}
    (mentioned : Expression.Mentioned all place.root) (span : Span) :
    Action.Coupled coupling (readPlace place span) (readPlace place span) fun _ => [] := by
  refine coupled_look fun machine machine' alike => ?_
  simp only [Place.read, joining.resolves place.root mentioned machine machine' alike]

private theorem lasting_readPlace (place : Place) (span : Span) :
    Action.Lasting coupling (readPlace place span) :=
  fun machine' machine later =>
    Action.lasting_located span (place.read machine.scope) machine' machine later

theorem Joining.lasting_write (joining : Joining coupling host implicit implicit' all)
    {α : Type} (place : Place) (new : Value) (span : Span) (value : α) :
    Action.Lasting coupling (writePlace implicit place new span >>= fun _ => pure value) :=
  (joining.lasting place new span).bind fun _ => Action.lasting_pure value

end Joining

/-- What has been read stays bound while an expression is evaluated. -/
theorem contains_after_read {host : Host σ} {implicit : Bool} {place : Place} {span : Span}
    {machine before after : Machine σ} {current value : Value} {expression : Expression}
    (read : (readPlace place span machine).outcome = (before, some (.ok current)))
    (ended : (expression.evaluate host implicit before).outcome = (after, some (.ok value))) :
    after.scope.contains place.root := by
  obtain ⟨rfl, found⟩ := outcome_readPlace_ok read
  have framing := framing_keeping host implicit expression.nodes
  have framed := (expression.evaluate_keeps framing (List.Subset.refl _)).ended ended
  exact Scope.Framed.contains framed (Place.contains_of_read found)

end Machine

namespace Expression

section Coupled

variable {coupling : Coupling (Machine σ) (Machine σ) (Deed σ)} {host : Host σ}
  {implicit implicit' : Bool} {all : List Expression}

private theorem orNull_coupled {link link' : Action (Machine σ) (Option Value)}
    {deeds : Machine σ → List (Deed σ)} (coupled : Action.Coupled coupling link link' deeds) :
    Action.Coupled coupling link.orNull link'.orNull deeds :=
  coupled.before fun _ => Action.coupled_pure _

private theorem staticKey_coupled (key : Expression) :
    Action.Coupled coupling (key.staticKey : Action (Machine σ) String) key.staticKey
      fun _ => [] := by
  unfold staticKey
  split
  · exact Action.coupled_pure _
  · exact Action.coupled_pure _
  · exact Action.coupled_failAt _ _

private theorem entryKey_coupled (key : Expression) (computed : Bool)
    {evaluated evaluated' : Action (Machine σ) Value} {deeds : Machine σ → List (Deed σ)}
    (coupled : Action.Coupled coupling evaluated evaluated' deeds) :
    Action.Coupled coupling (key.entryKey computed evaluated) (key.entryKey computed evaluated')
      fun machine => if computed then deeds machine else [] := by
  cases computed with
  | false => exact staticKey_coupled key
  | true =>
      refine coupled.before fun value => ?_
      unfold Value.objectKey
      split
      · exact Action.coupled_pure _
      · exact Action.coupled_pure _
      · exact Action.coupled_failAt _ _

private theorem memberKey_coupled (property : Expression) (computed : Bool)
    {evaluated evaluated' : Action (Machine σ) Value} {deeds : Machine σ → List (Deed σ)}
    (coupled : Action.Coupled coupling evaluated evaluated' deeds) :
    Action.Coupled coupling (property.memberKey computed evaluated)
      (property.memberKey computed evaluated')
      fun machine => if computed then deeds machine else [] := by
  cases computed with
  | false => exact (staticKey_coupled property).before fun _ => Action.coupled_pure _
  | true => exact coupled

/-- What follows the root of a target and the keys that lead to it may rely on both. -/
theorem place_coupled {target : Expression} {α : Type}
    {next next' : String → List Value → Action (Machine σ) α}
    {late : String → List Value → Machine σ → List (Deed σ)}
    (pathCoupled : Action.Coupled coupling (pathOf host implicit target)
      (pathOf host implicit' target) (keysDeeds host implicit' target))
    (lasting : ∀ root path, Action.Lasting coupling (next root path))
    (after : ∀ root path, target.targetRoot = .ok root →
      (path = [] → ∃ place, target = .identifier root place) → ∀ machine',
        Action.CoupledAt coupling (next root path) (next' root path) (late root path machine')
          machine') :
    Action.Coupled coupling
      (Action.located target.span (target.targetRoot.mapError Cause.invalidAssignment) >>=
        fun root => pathOf host implicit target >>= fun path => next root path)
      (Action.located target.span (target.targetRoot.mapError Cause.invalidAssignment) >>=
        fun root => pathOf host implicit' target >>= fun path => next' root path)
      ((Action.located target.span (target.targetRoot.mapError Cause.invalidAssignment)).sequel
        fun root machine => keysDeeds host implicit' target machine ++
          (pathOf host implicit' target).sequel (fun path => late root path) machine) where
  along start := by
    refine ((Action.coupled_located _ _).along start).bind
      (fun root => pathCoupled.lasting.bind (lasting root)) fun atRoot root rooted => ?_
    have found := outcome_targetRoot_ok rooted
    refine (pathCoupled.along atRoot).bind (lasting root) fun atPath path reached => ?_
    refine after root path found ?_ atPath
    rintro rfl
    exact identifier_of_pathOf_nil found reached
  lasting := (Action.lasting_located _ _).bind fun root => pathCoupled.lasting.bind (lasting root)

section Writes

variable {target value : Expression} {span : Span}

private theorem assignment_coupled (joining : Machine.Joining coupling host implicit implicit' all)
    (member : .assignment .plain target value span ∈ all) (within : target.nodes ⊆ all)
    (pathCoupled : Action.Coupled coupling (pathOf host implicit target)
      (pathOf host implicit' target) (keysDeeds host implicit' target))
    (valueCoupled : Action.Coupled coupling (link host implicit value).orNull
      (link host implicit' value).orNull (value.deeds host implicit')) :
    Action.Coupled coupling (link host implicit (.assignment .plain target value span))
      (link host implicit' (.assignment .plain target value span))
      ((Expression.assignment .plain target value span).deeds host implicit') := by
  simp only [link]
  refine place_coupled pathCoupled ?_ ?_
  · exact fun root path => valueCoupled.lasting.bind (joining.lasting_write _ · span _)
  · intro root path found identifier start
    have mentioned := (mentioned_of_targetRoot found).mono within
    refine (valueCoupled.along start).bind (joining.lasting_write _ · span _) ?_
    intro after new _
    have assigned := joining.assign target value span member root path mentioned identifier
    exact (assigned new after).yields _

private theorem arithmeticAssignment_coupled
    (joining : Machine.Joining coupling host implicit implicit' all)
    {operator : ArithmeticOperator}
    (member : .assignment (.arithmetic operator) target value span ∈ all)
    (within : target.nodes ⊆ all)
    (pathCoupled : Action.Coupled coupling (pathOf host implicit target)
      (pathOf host implicit' target) (keysDeeds host implicit' target))
    (valueCoupled : Action.Coupled coupling (link host implicit value).orNull
      (link host implicit' value).orNull (value.deeds host implicit')) :
    Action.Coupled coupling
      (link host implicit (.assignment (.arithmetic operator) target value span))
      (link host implicit' (.assignment (.arithmetic operator) target value span))
      ((Expression.assignment (.arithmetic operator) target value span).deeds host implicit') := by
  have lasting : ∀ place current, Action.Lasting coupling
      ((link host implicit value).orNull >>= fun operand =>
        Action.located span (Value.arithmetic operator current operand) >>= fun new =>
          Machine.writePlace implicit place new span >>= fun _ => pure (some new)) := by
    intro place current
    refine valueCoupled.lasting.bind fun operand => ?_
    exact (Action.lasting_located _ _).bind (joining.lasting_write _ · span _)
  simp only [link]
  refine place_coupled pathCoupled ?_ ?_
  · exact fun root path => (Machine.lasting_readPlace _ _).bind (lasting _)
  · intro root path found _ start
    have written : written? (.assignment (.arithmetic operator) target value span) = some root := by
      simp [written?, found, Except.toOption]
    have mentioned := (mentioned_of_targetRoot found).mono within
    refine ((joining.read mentioned span).along start).bind (lasting _) ?_
    intro before current read
    refine (valueCoupled.along before).bind ?_ fun after operand ended => ?_
    · exact fun operand => (Action.lasting_located _ _).bind (joining.lasting_write _ · span _)
    have bound := Machine.contains_after_read read ended
    refine ((Action.coupled_located _ _).along after).bind (joining.lasting_write _ · span _) ?_
    intro after new located
    obtain ⟨rfl, -⟩ := Action.outcome_located_ok located
    exact (joining.rewrite _ member root written mentioned path new after bound).yields _

private theorem logicalAssignment_coupled
    (joining : Machine.Joining coupling host implicit implicit' all) {operator : LogicalOperator}
    (member : .assignment (.logical operator) target value span ∈ all) (within : target.nodes ⊆ all)
    (pathCoupled : Action.Coupled coupling (pathOf host implicit target)
      (pathOf host implicit' target) (keysDeeds host implicit' target))
    (valueCoupled : Action.Coupled coupling (link host implicit value).orNull
      (link host implicit' value).orNull (value.deeds host implicit')) :
    Action.Coupled coupling (link host implicit (.assignment (.logical operator) target value span))
      (link host implicit' (.assignment (.logical operator) target value span))
      ((Expression.assignment (.logical operator) target value span).deeds host implicit') := by
  have lasting : ∀ place current, Action.Lasting coupling
      (if operator.shortCircuits current then pure (some current)
      else
        (link host implicit value).orNull >>= fun new =>
          Machine.writePlace implicit place new span >>= fun _ => pure (some new)) := by
    intro place current
    split
    · exact Action.lasting_pure _
    · exact valueCoupled.lasting.bind (joining.lasting_write _ · span _)
  simp only [link]
  refine place_coupled pathCoupled ?_ ?_
  · exact fun root path => (Machine.lasting_readPlace _ _).bind (lasting _)
  · intro root path found _ start
    have written : written? (.assignment (.logical operator) target value span) = some root := by
      simp [written?, found, Except.toOption]
    have mentioned := (mentioned_of_targetRoot found).mono within
    refine ((joining.read mentioned span).along start).bind (lasting _) ?_
    intro before current read
    split
    · exact Action.coupledAt_pure _ before
    · refine (valueCoupled.along before).bind (joining.lasting_write _ · span _) ?_
      intro after new ended
      have bound := Machine.contains_after_read read ended
      exact (joining.rewrite _ member root written mentioned path new after bound).yields _

private theorem update_coupled (joining : Machine.Joining coupling host implicit implicit' all)
    {operator : UpdateOperator} {prefixed : Bool}
    (member : .update operator prefixed target span ∈ all) (within : target.nodes ⊆ all)
    (pathCoupled : Action.Coupled coupling (pathOf host implicit target)
      (pathOf host implicit' target) (keysDeeds host implicit' target)) :
    Action.Coupled coupling (link host implicit (.update operator prefixed target span))
      (link host implicit' (.update operator prefixed target span))
      ((Expression.update operator prefixed target span).deeds host implicit') := by
  simp only [link]
  refine place_coupled pathCoupled ?_ ?_
  · intro root path
    refine (Machine.lasting_readPlace _ _).bind fun current => ?_
    exact (Action.lasting_located _ _).bind fun old => joining.lasting_write _ _ span _
  · intro root path found _ start
    have written : written? (.update operator prefixed target span) = some root := by
      simp [written?, found, Except.toOption]
    have mentioned := (mentioned_of_targetRoot found).mono within
    refine ((joining.read mentioned span).along start).bind ?_ fun before current read => ?_
    · exact fun current => (Action.lasting_located _ _).bind fun old =>
        joining.lasting_write _ _ span _
    refine ((Action.coupled_located _ _).along before).bind ?_ fun after old located => ?_
    · exact fun old => joining.lasting_write _ _ span _
    obtain ⟨rfl, -⟩ := Action.outcome_located_ok located
    obtain ⟨rfl, readOk⟩ := Machine.outcome_readPlace_ok read
    have bound := Place.contains_of_read readOk
    exact (joining.rewrite _ member root written mentioned path _ after bound).yields _

end Writes

mutual

theorem link_coupled (joining : Machine.Joining coupling host implicit implicit' all) :
    (expression : Expression) → expression.nodes ⊆ all →
    Action.Coupled coupling (link host implicit expression) (link host implicit' expression)
      fun machine => expression.deeds host implicit' machine
  | .literal value span, _ => by
      simp only [link, deeds]
      exact Action.coupled_pure _
  | .identifier name span, within => by
      have mentioned : Mentioned all name := ⟨span, within (mem_nodes_self _)⟩
      simp only [link, deeds]
      exact (joining.lookup mentioned span).before fun _ => Action.coupled_pure _
  | .object properties span, within => by
      simp only [link, deeds]
      refine (entriesOf_coupled joining properties ?_ ∅).before fun _ => Action.coupled_pure _
      exact fun _ member => within (List.mem_cons_of_mem _ member)
  | .array elements span, within => by
      simp only [link, deeds]
      refine (valuesOf_coupled joining elements ?_).before fun _ => Action.coupled_pure _
      exact fun _ member => within (List.mem_cons_of_mem _ member)
  | .sequence expressions span, within => by
      simp only [link, deeds]
      refine (lastOf_coupled joining expressions ?_ .null).before fun _ => Action.coupled_pure _
      exact fun _ member => within (List.mem_cons_of_mem _ member)
  | .logical operator left right span, within => by
      simp only [nodes, inside, List.cons_subset, List.append_subset] at within
      have leftCoupled := orNull_coupled (link_coupled joining left (by simp [nodes, within]))
      have rightCoupled := orNull_coupled (link_coupled joining right (by simp [nodes, within]))
      simp only [link, deeds]
      refine leftCoupled.bind fun value => ?_
      split
      · exact Action.coupled_pure _
      · exact rightCoupled.before fun _ => Action.coupled_pure _
  | .binary operator left right span, within => by
      simp only [nodes, inside, List.cons_subset, List.append_subset] at within
      have leftCoupled := orNull_coupled (link_coupled joining left (by simp [nodes, within]))
      have rightCoupled := orNull_coupled (link_coupled joining right (by simp [nodes, within]))
      simp only [link, deeds]
      refine leftCoupled.bind fun first => rightCoupled.before fun second => ?_
      exact (Action.coupled_located _ _).before fun _ => Action.coupled_pure _
  | .unary operator argument span, within => by
      simp only [nodes, inside, List.cons_subset] at within
      have argumentCoupled :=
        orNull_coupled (link_coupled joining argument (by simp [nodes, within]))
      simp only [link, deeds]
      refine argumentCoupled.before fun value => ?_
      exact (Action.coupled_located _ _).before fun _ => Action.coupled_pure _
  | .assignment operator target value span, within => by
      have member := within (mem_nodes_self _)
      simp only [nodes, inside, List.cons_subset, List.append_subset] at within
      have targetWithin : target.nodes ⊆ all := by simp [nodes, within]
      have pathCoupled := pathOf_coupled joining target targetWithin
      have valueCoupled := orNull_coupled (link_coupled joining value (by simp [nodes, within]))
      cases operator with
      | plain => exact assignment_coupled joining member targetWithin pathCoupled valueCoupled
      | arithmetic operator =>
          exact arithmeticAssignment_coupled joining member targetWithin pathCoupled valueCoupled
      | logical operator =>
          exact logicalAssignment_coupled joining member targetWithin pathCoupled valueCoupled
  | .update operator prefixed target span, within => by
      have member := within (mem_nodes_self _)
      simp only [nodes, inside, List.cons_subset] at within
      have targetWithin : target.nodes ⊆ all := by simp [nodes, within]
      exact update_coupled joining member targetWithin (pathOf_coupled joining target targetWithin)
  | .conditional test consequent alternate span, within => by
      simp only [nodes, inside, List.cons_subset, List.append_subset] at within
      have testCoupled := orNull_coupled (link_coupled joining test (by simp [nodes, within]))
      have consequentCoupled :=
        orNull_coupled (link_coupled joining consequent (by simp [nodes, within]))
      have alternateCoupled :=
        orNull_coupled (link_coupled joining alternate (by simp [nodes, within]))
      simp only [link, deeds]
      refine testCoupled.bind fun value => ?_
      split
      · exact consequentCoupled.before fun _ => Action.coupled_pure _
      · exact alternateCoupled.before fun _ => Action.coupled_pure _
  | .member owner property computed optional span, within => by
      simp only [nodes, inside, List.cons_subset, List.append_subset] at within
      have ownerCoupled := link_coupled joining owner (by simp [nodes, within])
      have propertyCoupled :=
        orNull_coupled (link_coupled joining property (by simp [nodes, within]))
      have keyCoupled := memberKey_coupled property computed propertyCoupled
      simp only [link, deeds]
      refine ownerCoupled.bind fun owner? => ?_
      cases owner? with
      | none => exact Action.coupled_pure _
      | some container =>
          dsimp only
          split
          · exact Action.coupled_pure _
          · refine keyCoupled.before fun key => ?_
            exact (Action.coupled_located _ _).before fun _ => Action.coupled_pure _
  | .call callee arguments optional span, within => by
      have member := within (mem_nodes_self _)
      simp only [nodes, inside, List.cons_subset, List.append_subset] at within
      have calleeCoupled := link_coupled joining callee (by simp [nodes, within])
      have argumentsCoupled := valuesOf_coupled joining arguments within.2.2
      simp only [link, deeds]
      refine calleeCoupled.bind fun callee? => ?_
      cases callee? with
      | none => exact Action.coupled_pure _
      | some function =>
          dsimp only
          split
          · exact Action.coupled_pure _
          · cases function with
            | function reference =>
                refine argumentsCoupled.bind fun values => ?_
                exact (joining.invoke _ _ _ _ member _ values).before fun _ =>
                  Action.coupled_pure _
            | _ => exact Action.coupled_failAt _ _
  | .chain inner span, within => by
      simp only [nodes, inside, List.cons_subset] at within
      have innerCoupled := orNull_coupled (link_coupled joining inner (by simp [nodes, within]))
      simp only [link, deeds]
      exact innerCoupled.before fun _ => Action.coupled_pure _

theorem valuesOf_coupled (joining : Machine.Joining coupling host implicit implicit' all) :
    (expressions : List Expression) → insideAll expressions ⊆ all →
    Action.Coupled coupling (valuesOf host implicit expressions)
      (valuesOf host implicit' expressions)
      fun machine => valuesDeeds host implicit' expressions machine
  | [], _ => by
      simp only [valuesOf, valuesDeeds]
      exact Action.coupled_pure _
  | expression :: rest, within => by
      simp only [insideAll, List.append_subset] at within
      have first := orNull_coupled (link_coupled joining expression within.1)
      have others := valuesOf_coupled joining rest within.2
      simp only [valuesOf, valuesDeeds]
      exact first.bind fun _ => others.before fun _ => Action.coupled_pure _

theorem lastOf_coupled (joining : Machine.Joining coupling host implicit implicit' all) :
    (expressions : List Expression) → insideAll expressions ⊆ all → ∀ last,
    Action.Coupled coupling (lastOf host implicit expressions last)
      (lastOf host implicit' expressions last)
      fun machine => valuesDeeds host implicit' expressions machine
  | [], _, last => by
      simp only [lastOf, valuesDeeds]
      exact Action.coupled_pure _
  | expression :: rest, within, last => by
      simp only [insideAll, List.append_subset] at within
      have first := orNull_coupled (link_coupled joining expression within.1)
      simp only [lastOf, valuesDeeds]
      exact first.bind fun value => lastOf_coupled joining rest within.2 value

theorem entriesOf_coupled (joining : Machine.Joining coupling host implicit implicit' all) :
    (properties : List Property) → insideEntries properties ⊆ all → ∀ entries,
    Action.Coupled coupling (entriesOf host implicit properties entries)
      (entriesOf host implicit' properties entries)
      fun machine => entriesDeeds host implicit' properties machine
  | [], _, entries => by
      simp only [entriesOf, entriesDeeds]
      exact Action.coupled_pure _
  | .mk key value computed :: rest, within, entries => by
      simp only [insideEntries, List.append_subset] at within
      have keyCoupled := orNull_coupled (link_coupled joining key within.1.1)
      have valueCoupled := orNull_coupled (link_coupled joining value within.1.2)
      simp only [entriesOf, entriesDeeds]
      refine (entryKey_coupled key computed keyCoupled).bind fun name => ?_
      exact valueCoupled.bind fun _ => entriesOf_coupled joining rest within.2 _

theorem pathOf_coupled (joining : Machine.Joining coupling host implicit implicit' all) :
    (target : Expression) → target.nodes ⊆ all →
    Action.Coupled coupling (pathOf host implicit target) (pathOf host implicit' target)
      fun machine => keysDeeds host implicit' target machine
  | .member owner property computed optional span, within => by
      simp only [nodes, inside, List.cons_subset, List.append_subset] at within
      have ownerCoupled := pathOf_coupled joining owner (by simp [nodes, within])
      have propertyCoupled :=
        orNull_coupled (link_coupled joining property (by simp [nodes, within]))
      have keyCoupled := memberKey_coupled property computed propertyCoupled
      simp only [pathOf, keysDeeds]
      exact ownerCoupled.bind fun _ => keyCoupled.before fun _ => Action.coupled_pure _
  | .literal .., _ | .identifier .., _ | .object .., _ | .array .., _ | .sequence .., _
  | .logical .., _ | .binary .., _ | .unary .., _ | .assignment .., _ | .update .., _
  | .conditional .., _ | .call .., _ | .chain .., _ => by
      simp only [pathOf, keysDeeds]
      exact Action.coupled_pure _

end

theorem evaluate_coupled (joining : Machine.Joining coupling host implicit implicit' all)
    (expression : Expression) (within : expression.nodes ⊆ all) :
    Action.Coupled coupling (expression.evaluate host implicit)
      (expression.evaluate host implicit') fun machine => expression.deeds host implicit' machine :=
  orNull_coupled (link_coupled joining expression within)

end Coupled

end Expression

end ChatTemplate
