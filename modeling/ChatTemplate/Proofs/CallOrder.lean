import ChatTemplate.Proofs.CoupledEvaluation

/-!
The order of calls. The calls of an expression have an order that can be read off its text. An
evaluation calls the host at some of them, each in its turn and at most once: at all of them when it
succeeds and nothing in the expression depends on a value, and never at those of an operand that a
logical operator or assignment leaves out, or at those of both branches of a conditional.
-/

set_option autoImplicit false

namespace ChatTemplate

variable {σ : Type}

/-! ## Calls that are made -/

def HostEvent.site? : HostEvent → Option Expression
  | .called site _ _ _ => some site
  | .answered _ => none

/-- The call expressions at which the host has been called so far. -/
def Machine.sites (machine : Machine σ) : List Expression :=
  machine.history.toList.filterMap HostEvent.site?

def Deed.call? (deed : Deed σ) : Option Expression :=
  match deed.node with
  | .call .. => some deed.node
  | _ => none

def Deed.calls (deeds : List (Deed σ)) : List Expression :=
  deeds.filterMap Deed.call?

section Calls

@[simp] theorem Deed.calls_nil : Deed.calls ([] : List (Deed σ)) = [] := rfl

@[simp] theorem Deed.calls_append (early late : List (Deed σ)) :
    Deed.calls (early ++ late) = Deed.calls early ++ Deed.calls late :=
  List.filterMap_append

@[simp] theorem Machine.sites_asking (machine : Machine σ) (site : Expression) (function : Nat)
    (arguments : List Value) (world : σ) :
    (machine.asking site function arguments world).sites = machine.sites ++ [site] := by
  simp [Machine.sites, Machine.history_asking, HostEvent.site?]

@[simp] theorem Machine.sites_answered (machine : Machine σ) (site : Expression) (function : Nat)
    (arguments : List Value) (world : σ) (reply : Except HostFailure Value) :
    (machine.answered site function arguments world reply).sites = machine.sites ++ [site] := by
  simp [Machine.sites, Machine.history_answered, Machine.history_asking, HostEvent.site?]

end Calls

/-- An evaluation beside itself, with the calls that it has made so far. -/
def Machine.calling : Coupling (Machine σ) (Machine σ) (Deed σ) where
  alike machine machine' := machine = machine'
  seen machine machine' := machine = machine'
  course start deeds machine := machine.sites = start.sites ++ Deed.calls deeds
  quit _ _ _ := False
  later _ _ := True
  stay machine := (List.append_nil machine.sites).symm
  proceed early late := by rw [late, early, Deed.calls_append, List.append_assoc]
  behind none := none

theorem Machine.lasting_calling {α : Type} (action : Action (Machine σ) α) :
    Action.Lasting Machine.calling action :=
  fun _ machine _ => Task.always_true (action machine)

theorem Machine.calling_write (implicit : Bool) (place : Place) (new : Value) (span : Span)
    {deed : Deed σ} (uncalled : deed.call? = none) (machine : Machine σ) :
    Action.CoupledAt Machine.calling (writePlace implicit place new span)
      (writePlace implicit place new span) [deed] machine := by
  rintro _ rfl
  have made : Deed.calls [deed] = [] := List.filterMap_cons_none uncalled
  rw [writePlace_eq]
  split
  · exact .done ⟨rfl, rfl, by simp [calling, made, sites]⟩
  · exact .done ⟨rfl, rfl, by simp [calling, made]⟩

theorem Machine.calling_joining (host : Host σ) (implicit : Bool) (all : List Expression) :
    Machine.Joining Machine.calling host implicit implicit all where
  resolves name _ machine machine' same := by rw [same]
  invoke callee arguments optional place _ function values := by
    refine coupled_invoke ?_ ?_ ?_ ?_ ?_
    · rintro machine _ rfl
      rfl
    · rintro machine _ rfl world
      exact ⟨rfl, _, List.prefix_rfl, Machine.sites_asking machine _ function values world⟩
    · rintro machine _ rfl world reply
      exact ⟨rfl, Machine.sites_answered machine _ function values world reply⟩
    · exact fun _ _ _ _ => trivial
    · exact fun _ _ _ _ _ => trivial
  assign target value place _ root path _ _ new machine' :=
    calling_write implicit ⟨root, path⟩ new place rfl machine'
  rewrite node _ root written _ path new machine' _ := by
    refine calling_write implicit ⟨root, path⟩ new node.span ?_ machine'
    cases node with
    | call => cases written
    | _ => rfl
  lasting place new span := lasting_calling _

namespace Expression

/-- The calls that an evaluation comes to make. -/
def calls (host : Host σ) (implicit : Bool) (expression : Expression) (machine : Machine σ) :
    List Expression :=
  Deed.calls (expression.deeds host implicit machine)

/-- At every moment of an evaluation the calls made are the first ones of those that it comes to
make, and in the end they all are. -/
theorem evaluate_makes_calls (host : Host σ) (implicit : Bool) (expression : Expression)
    (start : Machine σ) :
    (expression.evaluate host implicit start).Always
      (fun during => ∃ made, made <+: expression.calls host implicit start ∧
        during.sites = start.sites ++ made)
      fun final _ => final.sites = start.sites ++ expression.calls host implicit start := by
  have joining := Machine.calling_joining host implicit expression.nodes
  have coupled := expression.evaluate_coupled joining (List.Subset.refl _)
  have together : Task.Leads _ _ (fun _ _ _ => False) _ _ :=
    (coupled.along start start rfl).mono (fun _ _ same => same) (fun _ _ _ _ agreed => agreed) ?_
  · refine together.always.imp ?_ ?_
    · rintro during ⟨_, -, early, within, made⟩
      exact ⟨Deed.calls early, within.filterMap _, made⟩
    · rintro final result ⟨_, _, -, -, made⟩
      exact made
  · rintro rest final result ⟨failure, -, none, -⟩
    exact none

/-! ## The order of calls -/

mutual

/-- The calls of an expression in the order of evaluation. -/
def order : Expression → List Expression
  | .literal _ _ => []
  | .identifier _ _ => []
  | .object properties _ => entriesOrder properties
  | .array elements _ => valuesOrder elements
  | .sequence expressions _ => valuesOrder expressions
  | .logical _ left right _ => order left ++ order right
  | .binary _ left right _ => order left ++ order right
  | .unary _ argument _ => order argument
  | .assignment _ target value _ => keysOrder target ++ order value
  | .update _ _ target _ => keysOrder target
  | .member owner property computed _ _ =>
      order owner ++ if computed then order property else []
  | .conditional test consequent alternate _ =>
      order test ++ (order consequent ++ order alternate)
  | .call callee arguments optional span =>
      order callee ++ (valuesOrder arguments ++ [.call callee arguments optional span])
  | .chain inner _ => order inner

def valuesOrder : List Expression → List Expression
  | [] => []
  | expression :: rest => order expression ++ valuesOrder rest

def entriesOrder : List Property → List Expression
  | [] => []
  | .mk key value computed :: rest =>
      (if computed then order key else []) ++ (order value ++ entriesOrder rest)

/-- The calls in the computed keys of an assignment's target, innermost first. -/
def keysOrder : Expression → List Expression
  | .member owner property computed _ _ =>
      keysOrder owner ++ if computed then order property else []
  | _ => []

end

theorem calls_sequel_sublist {α : Type} {action : Action (Machine σ) α}
    {next : α → Machine σ → List (Deed σ)} {order : List Expression}
    (sublist : ∀ value middle, (Deed.calls (next value middle)).Sublist order)
    (start : Machine σ) : (Deed.calls (action.sequel next start)).Sublist order := by
  rcases action.sequel_eq_nil_or next start with none | ⟨middle, value, -, same⟩
  · rw [none]
    exact List.nil_sublist order
  · rw [same]
    exact sublist value middle

theorem calls_sequel_nil {α : Type} {action : Action (Machine σ) α}
    {next : α → Machine σ → List (Deed σ)}
    (uncalled : ∀ value middle, Deed.calls (next value middle) = []) (start : Machine σ) :
    Deed.calls (action.sequel next start) = [] := by
  refine List.sublist_nil.mp (calls_sequel_sublist (fun value middle => ?_) start)
  exact List.sublist_nil.mpr (uncalled value middle)

section Sublist

variable (host : Host σ) (implicit : Bool)

section Assignment

variable {target value : Expression} {span : Span}
  (keys : ∀ machine : Machine σ,
    (Deed.calls (keysDeeds host implicit target machine)).Sublist target.keysOrder)

include keys

private theorem assignmentDeeds_sublist (operator : AssignmentOperator)
    (values : ∀ machine : Machine σ,
      (Deed.calls (value.deeds host implicit machine)).Sublist value.order)
    (machine : Machine σ) :
    (Deed.calls ((assignment operator target value span).deeds host implicit machine)).Sublist
      (assignment operator target value span).order := by
  have valueSublist : ∀ (next : Value → Machine σ → List (Deed σ)) middle,
      (∀ value middle, Deed.calls (next value middle) = []) →
        (Deed.calls (deeds host implicit value middle ++
          (evaluate host implicit value).sequel next middle)).Sublist value.order := by
    intro next middle uncalled
    rw [Deed.calls_append, ← List.append_nil value.order]
    rw [calls_sequel_nil uncalled middle]
    exact (values middle).append (List.Sublist.refl [])
  simp only [deeds, order]
  refine calls_sequel_sublist (fun root rooted => ?_) machine
  rw [Deed.calls_append]
  refine (keys rooted).append (calls_sequel_sublist (fun path reached => ?_) rooted)
  cases operator with
  | plain => exact valueSublist _ reached fun _ _ => rfl
  | arithmetic operator =>
      refine calls_sequel_sublist (fun current read => ?_) reached
      exact valueSublist _ read fun _ after => calls_sequel_nil (fun _ _ => rfl) after
  | logical operator =>
      refine calls_sequel_sublist (fun current read => ?_) reached
      split
      · exact List.nil_sublist _
      · exact valueSublist _ read fun _ _ => rfl

private theorem updateDeeds_sublist (operator : UpdateOperator) (prefixed : Bool)
    (machine : Machine σ) :
    (Deed.calls ((update operator prefixed target span).deeds host implicit machine)).Sublist
      (update operator prefixed target span).order := by
  simp only [deeds, order]
  refine calls_sequel_sublist (fun root rooted => ?_) machine
  rw [Deed.calls_append, ← List.append_nil target.keysOrder]
  refine (keys rooted).append (List.sublist_nil.mpr ?_)
  refine calls_sequel_nil (fun path reached => ?_) rooted
  exact calls_sequel_nil (fun _ read => calls_sequel_nil (fun _ _ => rfl) read) reached

end Assignment

mutual

theorem deeds_sublist : (expression : Expression) → ∀ machine,
    (Deed.calls (deeds host implicit expression machine)).Sublist expression.order
  | .literal _ _, _ => List.nil_sublist _
  | .identifier _ _, _ => List.nil_sublist _
  | .object properties _, machine => by
      simp only [deeds, order]
      exact entriesDeeds_sublist properties machine
  | .array elements _, machine => by
      simp only [deeds, order]
      exact valuesDeeds_sublist elements machine
  | .sequence expressions _, machine => by
      simp only [deeds, order]
      exact valuesDeeds_sublist expressions machine
  | .logical operator left right _, machine => by
      simp only [deeds, order, Deed.calls_append]
      refine (deeds_sublist left machine).append (calls_sequel_sublist (fun value middle => ?_) _)
      split
      · exact List.nil_sublist _
      · exact deeds_sublist right middle
  | .binary _ left right _, machine => by
      simp only [deeds, order, Deed.calls_append]
      exact (deeds_sublist left machine).append
        (calls_sequel_sublist (fun _ middle => deeds_sublist right middle) _)
  | .unary _ argument _, machine => by
      simp only [deeds, order]
      exact deeds_sublist argument machine
  | .assignment operator target value _, machine =>
      assignmentDeeds_sublist host implicit (keysDeeds_sublist target) operator
        (deeds_sublist value) machine
  | .update operator prefixed target _, machine =>
      updateDeeds_sublist host implicit (keysDeeds_sublist target) operator prefixed machine
  | .member owner property computed optional _, machine => by
      simp only [deeds, order, Deed.calls_append]
      refine (deeds_sublist owner machine).append
        (calls_sequel_sublist (fun container? middle => ?_) _)
      cases container? with
      | none => exact List.nil_sublist _
      | some container =>
          dsimp only
          split
          · exact List.nil_sublist _
          · split
            · exact deeds_sublist property middle
            · exact List.nil_sublist _
  | .conditional test consequent alternate _, machine => by
      simp only [deeds, order, Deed.calls_append]
      refine (deeds_sublist test machine).append (calls_sequel_sublist (fun value middle => ?_) _)
      split
      · exact (deeds_sublist consequent middle).trans (List.sublist_append_left _ _)
      · exact (deeds_sublist alternate middle).trans (List.sublist_append_right _ _)
  | .call callee arguments optional span, machine => by
      simp only [deeds, order, Deed.calls_append]
      refine (deeds_sublist callee machine).append
        (calls_sequel_sublist (fun function? middle => ?_) _)
      cases function? with
      | none => exact List.nil_sublist _
      | some function =>
          dsimp only
          split
          · exact List.nil_sublist _
          · cases function with
            | function reference =>
                rw [Deed.calls_append]
                refine (valuesDeeds_sublist arguments middle).append
                  (calls_sequel_sublist (fun _ _ => ?_) middle)
                exact List.Sublist.refl _
            | _ => exact List.nil_sublist _
  | .chain inner _, machine => by
      simp only [deeds, order]
      exact deeds_sublist inner machine

private theorem valuesDeeds_sublist : (expressions : List Expression) → ∀ machine,
    (Deed.calls (valuesDeeds host implicit expressions machine)).Sublist (valuesOrder expressions)
  | [], _ => List.nil_sublist _
  | expression :: rest, machine => by
      simp only [valuesDeeds, valuesOrder, Deed.calls_append]
      exact (deeds_sublist expression machine).append
        (calls_sequel_sublist (fun _ middle => valuesDeeds_sublist rest middle) _)

private theorem entriesDeeds_sublist : (properties : List Property) → ∀ machine,
    (Deed.calls (entriesDeeds host implicit properties machine)).Sublist (entriesOrder properties)
  | [], _ => List.nil_sublist _
  | .mk key value computed :: rest, machine => by
      simp only [entriesDeeds, entriesOrder, Deed.calls_append]
      refine List.Sublist.append ?_ (calls_sequel_sublist (fun _ middle => ?_) _)
      · split
        · exact deeds_sublist key machine
        · exact List.nil_sublist _
      · rw [Deed.calls_append]
        exact (deeds_sublist value middle).append
          (calls_sequel_sublist (fun _ after => entriesDeeds_sublist rest after) _)

private theorem keysDeeds_sublist : (target : Expression) → ∀ machine,
    (Deed.calls (keysDeeds host implicit target machine)).Sublist target.keysOrder
  | .member owner property computed _ _, machine => by
      simp only [keysDeeds, keysOrder, Deed.calls_append]
      refine (keysDeeds_sublist owner machine).append
        (calls_sequel_sublist (fun _ middle => ?_) _)
      split
      · exact deeds_sublist property middle
      · exact List.nil_sublist _
  | .literal .., _ | .identifier .., _ | .object .., _ | .array .., _ | .sequence .., _
  | .logical .., _ | .binary .., _ | .unary .., _ | .assignment .., _ | .update .., _
  | .conditional .., _ | .call .., _ | .chain .., _ => by
      simp only [keysDeeds]
      exact List.nil_sublist _

end

end Sublist

/-! ## Evaluations that make every call -/

/-- Whether the way an evaluation goes on from a node does not depend on a value: the node is no
logical operator or assignment, no conditional and not optional. -/
def isStraight : Expression → Bool
  | .logical .. | .conditional .. | .assignment (.logical _) _ _ _ => false
  | .member _ _ _ optional _ | .call _ _ optional _ => !optional
  | _ => true

section Straight

variable {host : Host σ} {implicit : Bool}

private theorem entryKey_ok {key : Expression} {computed : Bool}
    {evaluated : Action (Machine σ) Value} {start final : Machine σ} {name : String}
    (ended : (key.entryKey computed evaluated start).outcome = (final, some (.ok name)))
    (isComputed : computed = true) :
    ∃ middle value, (evaluated start).outcome = (middle, some (.ok value)) := by
  subst isComputed
  obtain ⟨middle, value, reached, -⟩ := Action.outcome_bind_ok ended
  exact ⟨middle, value, reached⟩

private theorem orNull_ok {link : Action (Machine σ) (Option Value)} {start final : Machine σ}
    {value : Value} (ended : (link.orNull start).outcome = (final, some (.ok value))) :
    ∃ middle value?, (link start).outcome = (middle, some (.ok value?)) := by
  obtain ⟨middle, value?, reached, -⟩ := Action.outcome_bind_ok ended
  exact ⟨middle, value?, reached⟩

private theorem calls_sequel_of_ok {α : Type} {action : Action (Machine σ) α}
    {next : α → Machine σ → List (Deed σ)} {start middle : Machine σ} {value : α}
    {made : List Expression} (ended : (action start).outcome = (middle, some (.ok value)))
    (after : Deed.calls (next value middle) = made) :
    Deed.calls (action.sequel next start) = made := by
  rw [Action.sequel_of_ok ended, after]

private theorem calls_append_sequel {α : Type} {early : List (Deed σ)}
    {action : Action (Machine σ) α} {next : α → Machine σ → List (Deed σ)}
    {start middle : Machine σ} {value : α} {first made : List Expression}
    (before : Deed.calls early = first)
    (ended : (action start).outcome = (middle, some (.ok value)))
    (after : Deed.calls (next value middle) = made) :
    Deed.calls (early ++ action.sequel next start) = first ++ made := by
  rw [Deed.calls_append, before, calls_sequel_of_ok ended after]

section Assignment

variable {target value : Expression} {span : Span} {start final : Machine σ} {value? : Option Value}
  (keys : ∀ {start final : Machine σ} {path : List Value},
    (pathOf host implicit target start).outcome = (final, some (.ok path)) →
      Deed.calls (keysDeeds host implicit target start) = target.keysOrder)

include keys

section Operand

variable (values : ∀ {start final : Machine σ} {new : Value},
  (evaluate host implicit value start).outcome = (final, some (.ok new)) →
    Deed.calls (value.deeds host implicit start) = value.order)

include values

private theorem assignment_calls_all
    (ended : (link host implicit (.assignment .plain target value span) start).outcome =
      (final, some (.ok value?))) :
    (∃ value, value? = some value) ∧
      Deed.calls ((assignment .plain target value span).deeds host implicit start) =
        (assignment .plain target value span).order := by
  simp only [link] at ended
  obtain ⟨_, root, rooted, ended⟩ := Action.outcome_bind_ok ended
  obtain ⟨_, path, reached, ended⟩ := Action.outcome_bind_ok ended
  obtain ⟨_, new, valueEnded, ended⟩ := Action.outcome_bind_ok ended
  obtain ⟨_, _, -, ended⟩ := Action.outcome_bind_ok ended
  refine ⟨⟨_, (Action.outcome_pure_ok ended).2⟩, ?_⟩
  simp only [deeds, order]
  refine calls_sequel_of_ok rooted (calls_append_sequel (keys reached) reached ?_)
  exact (calls_append_sequel (values valueEnded) valueEnded rfl).trans (List.append_nil _)

private theorem arithmeticAssignment_calls_all {operator : ArithmeticOperator}
    (ended : (link host implicit (.assignment (.arithmetic operator) target value span)
      start).outcome = (final, some (.ok value?))) :
    (∃ value, value? = some value) ∧
      Deed.calls ((assignment (.arithmetic operator) target value span).deeds host implicit start) =
        (assignment (.arithmetic operator) target value span).order := by
  simp only [link] at ended
  obtain ⟨_, root, rooted, ended⟩ := Action.outcome_bind_ok ended
  obtain ⟨_, path, reached, ended⟩ := Action.outcome_bind_ok ended
  obtain ⟨_, current, read, ended⟩ := Action.outcome_bind_ok ended
  obtain ⟨_, operand, valueEnded, ended⟩ := Action.outcome_bind_ok ended
  obtain ⟨_, new, -, ended⟩ := Action.outcome_bind_ok ended
  obtain ⟨_, _, -, ended⟩ := Action.outcome_bind_ok ended
  refine ⟨⟨_, (Action.outcome_pure_ok ended).2⟩, ?_⟩
  simp only [deeds, order]
  refine calls_sequel_of_ok rooted (calls_append_sequel (keys reached) reached ?_)
  refine calls_sequel_of_ok read ?_
  refine (calls_append_sequel (values valueEnded) valueEnded ?_).trans (List.append_nil _)
  exact calls_sequel_nil (fun _ _ => rfl) _

end Operand

private theorem update_calls_all {operator : UpdateOperator} {prefixed : Bool}
    (ended : (link host implicit (.update operator prefixed target span) start).outcome =
      (final, some (.ok value?))) :
    (∃ value, value? = some value) ∧
      Deed.calls ((update operator prefixed target span).deeds host implicit start) =
        (update operator prefixed target span).order := by
  simp only [link] at ended
  obtain ⟨_, root, rooted, ended⟩ := Action.outcome_bind_ok ended
  obtain ⟨_, path, reached, ended⟩ := Action.outcome_bind_ok ended
  obtain ⟨_, current, read, ended⟩ := Action.outcome_bind_ok ended
  obtain ⟨_, old, -, ended⟩ := Action.outcome_bind_ok ended
  obtain ⟨_, _, -, ended⟩ := Action.outcome_bind_ok ended
  refine ⟨⟨_, (Action.outcome_pure_ok ended).2⟩, ?_⟩
  simp only [deeds, order]
  refine calls_sequel_of_ok rooted ?_
  refine (calls_append_sequel (keys reached) reached ?_).trans (List.append_nil _)
  exact calls_sequel_of_ok read (calls_sequel_nil (fun _ _ => rfl) _)

end Assignment

mutual

/-- A straight expression that is evaluated with success has a value and has made all its calls. -/
theorem link_calls_all : (expression : Expression) → expression.nodes.all isStraight = true →
    ∀ {start final : Machine σ} {value? : Option Value},
      (link host implicit expression start).outcome = (final, some (.ok value?)) →
        (∃ value, value? = some value) ∧
          Deed.calls (expression.deeds host implicit start) = expression.order
  | .literal value span, _, start, final, value?, ended => by
      simp only [link] at ended
      exact ⟨⟨_, (Action.outcome_pure_ok ended).2⟩, rfl⟩
  | .identifier name span, _, start, final, value?, ended => by
      simp only [link] at ended
      obtain ⟨_, _, -, ended⟩ := Action.outcome_bind_ok ended
      obtain ⟨_, _, -, ended⟩ := Action.outcome_bind_ok ended
      exact ⟨⟨_, (Action.outcome_pure_ok ended).2⟩, rfl⟩
  | .object properties span, straight, start, final, value?, ended => by
      simp only [nodes, inside, List.all_cons, Bool.and_eq_true] at straight
      simp only [link] at ended
      obtain ⟨_, _, reached, ended⟩ := Action.outcome_bind_ok ended
      simp only [deeds, order]
      exact ⟨⟨_, (Action.outcome_pure_ok ended).2⟩, entriesOf_calls_all properties straight.2 reached⟩
  | .array elements span, straight, start, final, value?, ended => by
      simp only [nodes, inside, List.all_cons, Bool.and_eq_true] at straight
      simp only [link] at ended
      obtain ⟨_, _, reached, ended⟩ := Action.outcome_bind_ok ended
      simp only [deeds, order]
      exact ⟨⟨_, (Action.outcome_pure_ok ended).2⟩, valuesOf_calls_all elements straight.2 reached⟩
  | .sequence expressions span, straight, start, final, value?, ended => by
      simp only [nodes, inside, List.all_cons, Bool.and_eq_true] at straight
      simp only [link] at ended
      obtain ⟨_, _, reached, ended⟩ := Action.outcome_bind_ok ended
      simp only [deeds, order]
      exact ⟨⟨_, (Action.outcome_pure_ok ended).2⟩, lastOf_calls_all expressions straight.2 reached⟩
  | .logical .., straight, _, _, _, _ => by simp [nodes, isStraight] at straight
  | .binary operator left right span, straight, start, final, value?, ended => by
      simp only [nodes, inside, List.all_cons, List.all_append, Bool.and_eq_true] at straight
      simp only [link] at ended
      obtain ⟨middle, first, leftEnded, ended⟩ := Action.outcome_bind_ok ended
      obtain ⟨_, second, rightEnded, ended⟩ := Action.outcome_bind_ok ended
      obtain ⟨_, _, -, ended⟩ := Action.outcome_bind_ok ended
      have leftCalls := evaluate_calls_all left (by simp [nodes, straight]) leftEnded
      have rightCalls := evaluate_calls_all right (by simp [nodes, straight]) rightEnded
      refine ⟨⟨_, (Action.outcome_pure_ok ended).2⟩, ?_⟩
      simp only [deeds, order]
      exact calls_append_sequel leftCalls leftEnded rightCalls
  | .unary operator argument span, straight, start, final, value?, ended => by
      simp only [nodes, inside, List.all_cons, Bool.and_eq_true] at straight
      simp only [link] at ended
      obtain ⟨_, _, argumentEnded, ended⟩ := Action.outcome_bind_ok ended
      obtain ⟨_, _, -, ended⟩ := Action.outcome_bind_ok ended
      simp only [deeds, order]
      exact ⟨⟨_, (Action.outcome_pure_ok ended).2⟩,
        evaluate_calls_all argument (by simp [nodes, straight]) argumentEnded⟩
  | .assignment operator target value span, straight, start, final, value?, ended => by
      simp only [nodes, inside, List.all_cons, List.all_append, Bool.and_eq_true] at straight
      have targetStraight : target.nodes.all isStraight = true := by simp [nodes, straight]
      have valueStraight : value.nodes.all isStraight = true := by simp [nodes, straight]
      cases operator with
      | plain =>
          exact assignment_calls_all (pathOf_calls_all target targetStraight)
            (evaluate_calls_all value valueStraight) ended
      | arithmetic operator =>
          exact arithmeticAssignment_calls_all (pathOf_calls_all target targetStraight)
            (evaluate_calls_all value valueStraight) ended
      | logical operator => simp [isStraight] at straight
  | .update operator prefixed target span, straight, start, final, value?, ended => by
      simp only [nodes, inside, List.all_cons, Bool.and_eq_true] at straight
      exact update_calls_all (pathOf_calls_all target (by simp [nodes, straight])) ended
  | .member owner property computed optional span, straight, start, final, value?, ended => by
      simp only [nodes, inside, List.all_cons, List.all_append, Bool.and_eq_true] at straight
      obtain ⟨required, ownerStraight, propertyStraight⟩ := straight
      obtain rfl : optional = false := by simpa [isStraight] using required
      simp only [link] at ended
      obtain ⟨_, container?, ownerEnded, ended⟩ := Action.outcome_bind_ok ended
      obtain ⟨⟨container, rfl⟩, ownerCalls⟩ :=
        link_calls_all owner (by simp [nodes, ownerStraight]) ownerEnded
      obtain ⟨_, key, keyEnded, ended⟩ := Action.outcome_bind_ok ended
      obtain ⟨_, _, -, ended⟩ := Action.outcome_bind_ok ended
      refine ⟨⟨_, (Action.outcome_pure_ok ended).2⟩, ?_⟩
      simp only [deeds, order]
      refine calls_append_sequel ownerCalls ownerEnded ?_
      cases computed with
      | false => rfl
      | true => exact evaluate_calls_all property (by simp [nodes, propertyStraight]) keyEnded
  | .conditional .., straight, _, _, _, _ => by simp [nodes, isStraight] at straight
  | .call callee arguments optional span, straight, start, final, value?, ended => by
      simp only [nodes, inside, List.all_cons, List.all_append, Bool.and_eq_true] at straight
      obtain ⟨required, calleeStraight, argumentsStraight⟩ := straight
      obtain rfl : optional = false := by simpa [isStraight] using required
      simp only [link] at ended
      obtain ⟨_, function?, calleeEnded, ended⟩ := Action.outcome_bind_ok ended
      obtain ⟨⟨function, rfl⟩, calleeCalls⟩ :=
        link_calls_all callee (by simp [nodes, calleeStraight]) calleeEnded
      cases function with
      | function reference =>
          obtain ⟨_, values, argumentsEnded, ended⟩ := Action.outcome_bind_ok ended
          obtain ⟨_, _, -, ended⟩ := Action.outcome_bind_ok ended
          refine ⟨⟨_, (Action.outcome_pure_ok ended).2⟩, ?_⟩
          have argumentsCalls := valuesOf_calls_all arguments argumentsStraight argumentsEnded
          simp only [deeds, order]
          refine calls_append_sequel calleeCalls calleeEnded ?_
          exact calls_append_sequel argumentsCalls argumentsEnded rfl
      | _ => cases ended
  | .chain inner span, straight, start, final, value?, ended => by
      simp only [nodes, inside, List.all_cons, Bool.and_eq_true] at straight
      simp only [link] at ended
      obtain ⟨_, _, innerEnded, ended⟩ := Action.outcome_bind_ok ended
      simp only [deeds, order]
      exact ⟨⟨_, (Action.outcome_pure_ok ended).2⟩,
        evaluate_calls_all inner (by simp [nodes, straight]) innerEnded⟩

theorem evaluate_calls_all (expression : Expression)
    (straight : expression.nodes.all isStraight = true) {start final : Machine σ} {value : Value}
    (ended : (evaluate host implicit expression start).outcome = (final, some (.ok value))) :
    Deed.calls (expression.deeds host implicit start) = expression.order := by
  obtain ⟨middle, value?, reached⟩ := orNull_ok ended
  exact (link_calls_all expression straight reached).2

theorem valuesOf_calls_all : (expressions : List Expression) →
    (insideAll expressions).all isStraight = true →
    ∀ {start final : Machine σ} {values : List Value},
      (valuesOf host implicit expressions start).outcome = (final, some (.ok values)) →
        Deed.calls (valuesDeeds host implicit expressions start) = valuesOrder expressions
  | [], _, _, _, _, _ => rfl
  | expression :: rest, straight, start, final, values, ended => by
      simp only [insideAll, List.all_append, Bool.and_eq_true] at straight
      simp only [valuesOf] at ended
      obtain ⟨middle, value, firstEnded, ended⟩ := Action.outcome_bind_ok ended
      obtain ⟨_, _, restEnded, -⟩ := Action.outcome_bind_ok ended
      have firstCalls := evaluate_calls_all expression straight.1 firstEnded
      have restCalls := valuesOf_calls_all rest straight.2 restEnded
      simp only [valuesDeeds, valuesOrder]
      exact calls_append_sequel firstCalls firstEnded restCalls

theorem lastOf_calls_all : (expressions : List Expression) →
    (insideAll expressions).all isStraight = true →
    ∀ {start final : Machine σ} {last value : Value},
      (lastOf host implicit expressions last start).outcome = (final, some (.ok value)) →
        Deed.calls (valuesDeeds host implicit expressions start) = valuesOrder expressions
  | [], _, _, _, _, _, _ => rfl
  | expression :: rest, straight, start, final, last, value, ended => by
      simp only [insideAll, List.all_append, Bool.and_eq_true] at straight
      simp only [lastOf] at ended
      obtain ⟨middle, value, firstEnded, restEnded⟩ := Action.outcome_bind_ok ended
      have firstCalls := evaluate_calls_all expression straight.1 firstEnded
      have restCalls := lastOf_calls_all rest straight.2 restEnded
      simp only [valuesDeeds, valuesOrder]
      exact calls_append_sequel firstCalls firstEnded restCalls

theorem entriesOf_calls_all : (properties : List Property) →
    (insideEntries properties).all isStraight = true →
    ∀ {start final : Machine σ} {before entries : Dict Value},
      (entriesOf host implicit properties before start).outcome = (final, some (.ok entries)) →
        Deed.calls (entriesDeeds host implicit properties start) = entriesOrder properties
  | [], _, _, _, _, _, _ => rfl
  | .mk key value computed :: rest, straight, start, final, before, entries, ended => by
      simp only [insideEntries, List.all_append, Bool.and_eq_true] at straight
      simp only [entriesOf] at ended
      obtain ⟨middle, name, keyEnded, ended⟩ := Action.outcome_bind_ok ended
      obtain ⟨_, _, valueEnded, restEnded⟩ := Action.outcome_bind_ok ended
      have keyCalls : Deed.calls (if computed then deeds host implicit key start else []) =
          if computed then key.order else [] := by
        split
        · rename_i isComputed
          obtain ⟨_, _, keyEnded⟩ := entryKey_ok keyEnded isComputed
          exact evaluate_calls_all key straight.1.1 keyEnded
        · rfl
      have valueCalls := evaluate_calls_all value straight.1.2 valueEnded
      have restCalls := entriesOf_calls_all rest straight.2 restEnded
      simp only [entriesDeeds, entriesOrder]
      refine calls_append_sequel keyCalls keyEnded ?_
      exact calls_append_sequel valueCalls valueEnded restCalls

theorem pathOf_calls_all : (target : Expression) → target.nodes.all isStraight = true →
    ∀ {start final : Machine σ} {path : List Value},
      (pathOf host implicit target start).outcome = (final, some (.ok path)) →
        Deed.calls (keysDeeds host implicit target start) = target.keysOrder
  | .member owner property computed optional span, straight, start, final, path, ended => by
      simp only [nodes, inside, List.all_cons, List.all_append, Bool.and_eq_true] at straight
      simp only [pathOf] at ended
      obtain ⟨_, _, ownerEnded, ended⟩ := Action.outcome_bind_ok ended
      obtain ⟨_, key, keyEnded, -⟩ := Action.outcome_bind_ok ended
      have ownerCalls := pathOf_calls_all owner (by simp [nodes, straight]) ownerEnded
      simp only [keysDeeds, keysOrder]
      refine calls_append_sequel ownerCalls ownerEnded ?_
      cases computed with
      | false => rfl
      | true => exact evaluate_calls_all property (by simp [nodes, straight]) keyEnded
  | .literal .., _, _, _, _, _ | .identifier .., _, _, _, _, _ | .object .., _, _, _, _, _
  | .array .., _, _, _, _, _ | .sequence .., _, _, _, _, _ | .logical .., _, _, _, _, _
  | .binary .., _, _, _, _, _ | .unary .., _, _, _, _, _ | .assignment .., _, _, _, _, _
  | .update .., _, _, _, _, _ | .conditional .., _, _, _, _, _ | .call .., _, _, _, _, _
  | .chain .., _, _, _, _, _ => rfl

end

end Straight

end Expression

end ChatTemplate
