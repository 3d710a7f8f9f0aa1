import ChatTemplate.Proofs.Views

/-!
Compound assignments. An assignment with an arithmetic operator stands for a plain assignment of the
combined value, and one with a logical operator for that operator with a plain assignment on its
right, if the target is a variable or a member that no computed or optional key leads to. The two
forms differ in the places of their failures and in nothing else.
-/

set_option autoImplicit false

namespace ChatTemplate

variable {σ : Type}

/-! ## Failures apart from their places -/

namespace Action

variable {α β : Type}

/-- What an action does, with the causes of failures but not their places. -/
def causes (action : Action σ α) (start : σ) : Task σ (Except Cause α) :=
  (action start).bind fun state result => .done state (result.mapError (·.cause))

theorem causes_bind (first : Action σ α) (next : α → Action σ β) (start : σ) :
    (first >>= next).causes start = (first.causes start).bind fun state result =>
      match result with
      | .ok value => (next value).causes state
      | .error cause => .done state (.error cause) := by
  change ((first start).bind _).bind _ = ((first start).bind _).bind _
  rw [Task.bind_assoc, Task.bind_assoc]
  congr 1
  funext state result
  cases result with
  | ok value => rfl
  | error failure => rfl

theorem causes_bind_congr {first first' : Action σ α} {next next' : α → Action σ β}
    (same : first.causes = first'.causes)
    (after : ∀ value, (next value).causes = (next' value).causes) :
    (first >>= next).causes = (first' >>= next').causes := by
  funext start
  rw [causes_bind, causes_bind, same]
  congr 1
  funext state result
  cases result with
  | ok value => exact congrFun (after value) state
  | error cause => rfl

private theorem outcome_causes {action : Action σ α} {start final : σ} {value : α}
    (ended : (action start).outcome = (final, some (.ok value))) :
    (action.causes start).outcome = (final, some (.ok value)) := by
  rw [causes, Task.outcome_bind, ended]
  rfl

private theorem causes_located (span : Span) (result : Except Cause α) (start : σ) :
    (located span result : Action σ α).causes start = .done start result := by
  cases result with
  | ok value => rfl
  | error cause => rfl

end Action

namespace Machine

private theorem causes_readPlace (place : Place) (span : Span) (start : Machine σ) :
    (readPlace place span).causes start = .done start (place.read start.scope) :=
  Action.causes_located span (place.read start.scope) start

private theorem causes_writePlace (implicit : Bool) (place : Place) (value : Value)
    (span other : Span) :
    (writePlace implicit place value span : Action (Machine σ) Unit).causes =
      (writePlace implicit place value other).causes := by
  funext start
  rw [Action.causes, Action.causes, writePlace_eq, writePlace_eq]
  cases place.write implicit value start.scope with
  | ok scope => rfl
  | error cause => rfl

end Machine

/-! ## Fixed targets -/

theorem Value.memberAt_concat (container : Value) (path : List Value) (key : Value) :
    container.memberAt (path ++ [key]) = container.memberAt path >>= (·.member key) := by
  induction path generalizing container with
  | nil => exact bind_pure (container.member key)
  | cons first rest ih =>
      rw [List.cons_append, memberAt, memberAt, bind_assoc]
      exact bind_congr ih

theorem Place.read_concat (root : String) (path : List Value) (key : Value) (scope : Scope) :
    (Place.mk root (path ++ [key])).read scope =
      (Place.mk root path).read scope >>= (·.member key) := by
  rw [read, read, bind_assoc]
  exact bind_congr fun value => value.memberAt_concat path key

theorem Place.read_variable (name : String) (scope : Scope) :
    (Place.mk name []).read scope = scope.resolve name :=
  bind_pure (scope.resolve name)

namespace Expression

/-- Whether the expression is a key that is not computed. -/
def isKey : Expression → Bool
  | .identifier _ _ | .literal _ _ => true
  | _ => false

/-- Whether the expression is a variable, or a member of such an expression that is neither computed
nor optional. -/
def isFixedTarget : Expression → Bool
  | .identifier _ _ => true
  | .member owner property false false _ => owner.isFixedTarget && property.isKey
  | _ => false

private theorem memberKey_of_isKey {property : Expression} (isKey : property.isKey = true)
    (evaluated : Action (Machine σ) Value) :
    ∃ name, property.memberKey false evaluated = pure (.string name) := by
  cases property with
  | identifier name place => exact ⟨name, rfl⟩
  | literal value place => exact ⟨_, rfl⟩
  | _ => cases isKey

section Evaluation

variable (host : Host σ) (implicit : Bool)

private theorem causes_link_identifier (name : String) (span : Span) (start : Machine σ) :
    (link host implicit (.identifier name span)).causes start =
      .done start ((start.scope.resolve name).map some) := by
  rw [link]
  change (Action.located span (start.scope.resolve name) >>= fun value =>
    pure (some value)).causes start = _
  rw [Action.causes_bind, Action.causes_located]
  cases start.scope.resolve name with
  | ok value => rfl
  | error cause => rfl

private theorem causes_link_member {owner property : Expression} {name : String} {span : Span}
    {start : Machine σ} {found : Except Cause Value}
    (below : (link host implicit owner).causes start = .done start (found.map some))
    (key : property.memberKey false (link host implicit property).orNull =
      (pure (.string name) : Action (Machine σ) Value)) :
    (link host implicit (.member owner property false false span)).causes start =
      .done start ((found >>= (·.member (.string name))).map some) := by
  rw [link, Action.causes_bind, below, key]
  cases found with
  | error cause => rfl
  | ok container =>
      change (Action.located span (container.member (.string name)) >>= fun value =>
        pure (some value)).causes start = .done start ((container.member (.string name)).map some)
      rw [Action.causes_bind, Action.causes_located]
      cases container.member (.string name) with
      | ok value => rfl
      | error cause => rfl

/-- A fixed target is the same place whatever is evaluated, and as an expression it has the value
that stands there. -/
theorem place_of_isFixedTarget : (target : Expression) → target.isFixedTarget = true →
    ∃ place : Place, target.targetRoot = .ok place.root ∧
      pathOf host implicit target = pure place.path ∧
      ∀ start, (link host implicit target).causes start =
        .done start ((place.read start.scope).map some)
  | .identifier name span, _ => by
      refine ⟨⟨name, []⟩, rfl, by simp only [pathOf], fun start => ?_⟩
      rw [Place.read_variable]
      exact causes_link_identifier host implicit name span start
  | .member owner property false false span, fixed => by
      obtain ⟨ownerFixed, isKey⟩ := Bool.and_eq_true_iff.mp fixed
      obtain ⟨⟨root, path⟩, rooted, reached, reads⟩ := place_of_isFixedTarget owner ownerFixed
      obtain ⟨name, key⟩ := memberKey_of_isKey isKey (link host implicit property).orNull
      refine ⟨⟨root, path ++ [.string name]⟩, rooted, ?_, fun start => ?_⟩
      · rw [pathOf, reached, key]
        rfl
      · rw [causes_link_member host implicit (reads start) key, Place.read_concat]

private theorem causes_evaluate {target : Expression} {place : Place}
    (reads : ∀ start, (link host implicit target).causes start =
      .done start ((place.read start.scope).map some)) (span : Span) :
    (target.evaluate host implicit).causes = (Machine.readPlace place span).causes := by
  funext start
  rw [Machine.causes_readPlace, evaluate, Action.orNull, Action.causes_bind, reads]
  cases place.read start.scope with
  | ok value => rfl
  | error cause => rfl

private theorem read_of_outcome {host implicit} {target : Expression} {place : Place} {span : Span}
    {start final : Machine σ} {value : Value}
    (same : (target.evaluate host implicit).causes = (Machine.readPlace place span).causes)
    (ended : (target.evaluate host implicit start).outcome = (final, some (.ok value))) :
    place.read start.scope = .ok value := by
  have outcome := Action.outcome_causes ended
  rw [same, Machine.causes_readPlace] at outcome
  exact Option.some.inj (congrArg Prod.snd outcome)

/-! ## The two forms of an assignment -/

/-- Evaluates the new value of a place and writes it. -/
def assign (place : Place) (span : Span) (evaluated : Action (Machine σ) Value) :
    Action (Machine σ) Value := do
  let new ← evaluated
  Machine.writePlace implicit place new span
  pure new

private theorem causes_assign (place : Place) (span other : Span)
    {evaluated evaluated' : Action (Machine σ) Value}
    (same : evaluated.causes = evaluated'.causes) :
    (assign implicit place span evaluated).causes =
      (assign implicit place other evaluated').causes := by
  refine Action.causes_bind_congr same fun new => ?_
  exact Action.causes_bind_congr (Machine.causes_writePlace implicit place new span other)
    fun _ => rfl

/-- Combines the current value of a place with another one. -/
def combine (operator : ArithmeticOperator) (span : Span)
    (current evaluated : Action (Machine σ) Value) : Action (Machine σ) Value := do
  let left ← current
  let right ← evaluated
  Action.located span (Value.arithmetic operator left right)

/-- Takes the current value of a place, or what is evaluated if that is left open. -/
def choose (operator : LogicalOperator) (current evaluated : Action (Machine σ) Value) :
    Action (Machine σ) Value := do
  let left ← current
  if operator.shortCircuits left then pure left else evaluated

private theorem causes_combine (operator : ArithmeticOperator) (span other : Span)
    {current current' evaluated evaluated' : Action (Machine σ) Value}
    (sameCurrent : current.causes = current'.causes)
    (sameEvaluated : evaluated.causes = evaluated'.causes) :
    (combine operator span current evaluated).causes =
      (combine operator other current' evaluated').causes := by
  refine Action.causes_bind_congr sameCurrent fun left => ?_
  refine Action.causes_bind_congr sameEvaluated fun right => ?_
  funext start
  rw [Action.causes_located, Action.causes_located]

private theorem causes_choose (operator : LogicalOperator)
    {current current' evaluated evaluated' : Action (Machine σ) Value}
    (sameCurrent : current.causes = current'.causes)
    (sameEvaluated : evaluated.causes = evaluated'.causes) :
    (choose operator current evaluated).causes = (choose operator current' evaluated').causes := by
  refine Action.causes_bind_congr sameCurrent fun left => ?_
  split
  · rfl
  · exact sameEvaluated

private theorem evaluate_binary (operator : ArithmeticOperator) (left right : Expression)
    (span : Span) :
    (binary (.arithmetic operator) left right span).evaluate host implicit =
      combine operator span (left.evaluate host implicit) (right.evaluate host implicit) := by
  simp only [evaluate, combine, link, Action.orNull, bind_assoc, pure_bind, Option.getD_some,
    bind_pure]
  rfl

private theorem evaluate_logical (operator : LogicalOperator) (left right : Expression)
    (span : Span) :
    (logical operator left right span).evaluate host implicit =
      choose operator (left.evaluate host implicit) (right.evaluate host implicit) := by
  rw [evaluate, link, Action.orNull, bind_assoc]
  refine bind_congr fun value => ?_
  split
  · rfl
  · rw [bind_assoc]
    exact bind_pure _

section Assignments

variable {target : Expression} {place : Place} (rooted : target.targetRoot = .ok place.root)
  (reached : pathOf host implicit target = pure place.path)
include rooted reached

private theorem evaluate_plain (value : Expression) (span : Span) :
    (assignment .plain target value span).evaluate host implicit =
      assign implicit place span (value.evaluate host implicit) := by
  rw [evaluate, link, rooted, reached]
  change Action.orNull ((link host implicit value).orNull >>= fun new =>
    Machine.writePlace implicit place new span >>= fun _ => pure (some new)) = _
  simp only [Action.orNull, assign, evaluate, bind_assoc, pure_bind, Option.getD_some]

private theorem evaluate_compound (operator : ArithmeticOperator) (value : Expression)
    (span : Span) :
    (assignment (.arithmetic operator) target value span).evaluate host implicit =
      assign implicit place span
        (combine operator span (Machine.readPlace place span) (value.evaluate host implicit)) := by
  rw [evaluate, link, rooted, reached]
  change Action.orNull (Machine.readPlace place span >>= fun current =>
    (link host implicit value).orNull >>= fun operand =>
      Action.located span (Value.arithmetic operator current operand) >>= fun new =>
        Machine.writePlace implicit place new span >>= fun _ => pure (some new)) = _
  simp only [Action.orNull, assign, combine, evaluate, bind_assoc, pure_bind, Option.getD_some]

private theorem evaluate_compound_logical (operator : LogicalOperator) (value : Expression)
    (span : Span) :
    (assignment (.logical operator) target value span).evaluate host implicit =
      choose operator (Machine.readPlace place span)
        (assign implicit place span (value.evaluate host implicit)) := by
  rw [evaluate, link, rooted, reached]
  change (Machine.readPlace place span >>= fun current =>
    if operator.shortCircuits current then pure (some current)
    else (link host implicit value).orNull >>= fun new =>
      Machine.writePlace implicit place new span >>= fun _ => pure (some new)).orNull = _
  rw [Action.orNull, bind_assoc]
  refine bind_congr fun current => ?_
  split
  · rfl
  · simp only [Action.orNull, assign, evaluate, bind_assoc, pure_bind, Option.getD_some]

end Assignments

end Evaluation

/-- A compound assignment does what its long form does, with the same result up to the places of
failures. A logical one does nothing at all where the current value is its result. -/
theorem compound_assignments_expand (host : Host σ) (implicit : Bool) (target value : Expression)
    (fixed : target.isFixedTarget = true) (span inner outer : Span) :
    (∀ operator, ((assignment (.arithmetic operator) target value span).evaluate host
        implicit).causes =
      ((assignment .plain target (.binary (.arithmetic operator) target value inner)
        outer).evaluate host implicit).causes) ∧
    ∀ operator, ((assignment (.logical operator) target value span).evaluate host
        implicit).causes =
      ((logical operator target (.assignment .plain target value inner) outer).evaluate host
        implicit).causes ∧
      ∀ start final current,
        (target.evaluate host implicit start).outcome = (final, some (.ok current)) →
        operator.shortCircuits current = true →
          (assignment (.logical operator) target value span).evaluate host implicit start =
            .done start (.ok current) := by
  obtain ⟨place, rooted, reached, reads⟩ := place_of_isFixedTarget host implicit target fixed
  have current := causes_evaluate host implicit reads span
  constructor
  · intro operator
    rw [evaluate_compound host implicit rooted reached,
      evaluate_plain host implicit rooted reached, evaluate_binary]
    refine causes_assign implicit place span outer ?_
    exact causes_combine operator span inner current.symm rfl
  · intro operator
    rw [evaluate_compound_logical host implicit rooted reached, evaluate_logical,
      evaluate_plain host implicit rooted reached]
    constructor
    · exact causes_choose operator current.symm (causes_assign implicit place span inner rfl)
    · intro start final value found settled
      have standing : Machine.readPlace place span start = .done start (.ok value) := by
        change Action.located span (place.read start.scope) start = _
        rw [read_of_outcome current found]
        rfl
      change (Machine.readPlace place span start).bind _ = _
      rw [standing]
      change (if operator.shortCircuits value then (pure value : Action (Machine σ) Value)
        else assign implicit place span (evaluate host implicit _)) start = _
      rw [if_pos settled]
      rfl

def orderTotal : Expression :=
  .member (.identifier "order" {}) (.identifier "total" {}) false false ⟨0, 11⟩

/-- A text that is found once the order has been replaced by another one. -/
def reordered : Expression :=
  .sequence [.assignment .plain (.identifier "order" {})
      (.object [.mk (.identifier "total" {}) (.literal (.string "new") {}) false] {}) {},
    .literal (.string "er") {}] {}

def ordering (total : Value) : Machine Unit :=
  ⟨Scope.empty.declare "order" (.map (.ofEntries [("total", total)])), (), #[]⟩

theorem orderTotal_expands :
    orderTotal.isFixedTarget = true ∧
      (∃ final, ((assignment (.arithmetic .add) orderTotal reordered ⟨0, 20⟩).evaluate Host.silent
          false (ordering (.string "old"))).outcome = (final, some (.ok (.string "older"))) ∧
        final.scope.lookup "order" = some (.map (.ofEntries [("total", .string "older")])) ∧
        ((assignment .plain orderTotal (.binary (.arithmetic .add) orderTotal reordered ⟨3, 9⟩)
            ⟨2, 30⟩).evaluate Host.silent false).causes (ordering (.string "old")) =
          .done final (.ok (.string "older"))) ∧
      (assignment (.logical .or) orderTotal reordered ⟨0, 20⟩).evaluate Host.silent false
          (ordering (.string "old")) =
        .done (ordering (.string "old")) (.ok (.string "old")) := by
  obtain ⟨arithmetic, logical⟩ := compound_assignments_expand Host.silent false orderTotal reordered
    rfl ⟨0, 20⟩ ⟨3, 9⟩ ⟨2, 30⟩
  refine ⟨rfl, ⟨_, rfl, rfl, ?_⟩, ?_⟩
  · rw [← arithmetic .add]
    rfl
  · exact (logical .or).2 _ _ _ rfl rfl

end Expression

end ChatTemplate
