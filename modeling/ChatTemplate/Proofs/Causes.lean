import ChatTemplate.Evaluation.Basic
import ChatTemplate.Rendering

/-!
Causes that show later than they arise. A tag that is never closed shows at the end of a document,
and text outside of any message where the next message is opened. All other causes are found out
where they arise: no computation on values, variables or attributes fails with one of these three.
-/

set_option autoImplicit false

namespace ChatTemplate

/-- The causes that are about an earlier place than the one where they show. -/
def Cause.Belated : Cause → Prop
  | .unclosedMessage | .unclosedContent | .strayTextOutsideMessage => True
  | _ => False

/-- A computation does not fail with a belated cause. -/
def Prompt {α : Type} (result : Except Cause α) : Prop :=
  ∀ cause, result = .error cause → ¬ cause.Belated

theorem except_bind_ok {ε α β : Type} {first : Except ε α} {next : α → Except ε β} {result : β}
    (accepted : first >>= next = .ok result) :
    ∃ value, first = .ok value ∧ next value = .ok result := by
  cases first with
  | error cause => cases accepted
  | ok value => exact ⟨value, rfl, accepted⟩

section Prompt

variable {α β : Type}

private theorem prompt_ok (value : α) : Prompt (.ok value : Except Cause α) := by
  intro cause failed
  cases failed

private theorem prompt_error {cause : Cause} (prompt : ¬ cause.Belated) :
    Prompt (.error cause : Except Cause α) := by
  intro cause failed
  cases failed
  exact prompt

theorem Prompt.bind {first : Except Cause α} {next : α → Except Cause β} (prompt : Prompt first)
    (after : ∀ value, Prompt (next value)) : Prompt (first >>= next) := by
  cases first with
  | ok value => exact after value
  | error cause => exact prompt_error (prompt cause rfl)

theorem Prompt.map {result : Except Cause α} (prompt : Prompt result) (change : α → β) :
    Prompt (result.map change) := by
  cases result with
  | ok value => exact prompt_ok _
  | error cause => exact prompt_error (prompt cause rfl)

end Prompt

/-! ## Values -/

namespace Value

theorem prompt_toNumber (value : Value) : Prompt value.toNumber := by
  unfold toNumber
  split
  all_goals first | exact prompt_ok _ | exact prompt_error id

private theorem prompt_operand (operator : String) (value : Value) :
    Prompt (operand operator value) := by
  unfold operand
  split
  · exact prompt_ok _
  · exact prompt_error id

theorem prompt_arithmetic (operator : ArithmeticOperator) (left right : Value) :
    Prompt (arithmetic operator left right) := by
  unfold arithmetic
  split
  · unfold add
    split
    · exact prompt_error id
    · split
      · exact prompt_ok _
      · exact (prompt_toNumber left).bind fun _ => (prompt_toNumber right).bind fun _ => prompt_ok _
  · exact (prompt_operand _ left).bind fun _ => (prompt_operand _ right).bind fun _ => prompt_ok _

private theorem prompt_comparison (operator : BinaryOperator) (holds : Ordering → Bool)
    (left right : Value) : Prompt (comparison operator holds left right) := by
  unfold comparison
  split
  · exact prompt_ok _
  · exact (prompt_operand _ _).bind fun _ => (prompt_operand _ _).bind fun _ => prompt_ok _

private theorem prompt_hasMember (container key : Value) : Prompt (container.hasMember key) := by
  unfold hasMember
  split
  · exact prompt_ok _
  · exact prompt_ok _
  · exact prompt_error id

theorem prompt_binary (operator : BinaryOperator) (left right : Value) :
    Prompt (binary operator left right) := by
  cases operator with
  | arithmetic operator => exact prompt_arithmetic operator left right
  | equal | notEqual | strictEqual | strictNotEqual => exact prompt_ok _
  | less | lessEqual | greater | greaterEqual => exact prompt_comparison _ _ left right
  | isIn => exact (prompt_hasMember right left).map _
  | instanceOf => exact prompt_error id

theorem prompt_unary (operator : UnaryOperator) (value : Value) :
    Prompt (unary operator value) := by
  cases operator with
  | minus | plus | bitNot => exact (prompt_operand _ value).map _
  | not | typeOf | void => exact prompt_ok _
  | delete => exact prompt_error id

theorem prompt_member (container key : Value) : Prompt (container.member key) := by
  unfold member
  split
  · exact prompt_error id
  · exact prompt_ok _
  · split
    · exact prompt_ok _
    · exact prompt_ok _
  · split
    · exact prompt_ok _
    · exact prompt_ok _
  all_goals exact prompt_ok _

private theorem prompt_slot (container key : Value) : Prompt (container.slot key) := by
  unfold slot
  split
  · split
    · exact prompt_ok _
    · exact prompt_error id
  · split
    · exact prompt_ok _
    · exact prompt_error id
  · exact prompt_error id
  · exact prompt_error id

private theorem prompt_setMember (container key value : Value) :
    Prompt (container.setMember key value) := by
  unfold setMember
  split
  · exact prompt_ok _
  · split
    · exact prompt_ok _
    · exact prompt_error id
  · exact prompt_error id
  · exact prompt_error id

private theorem prompt_memberAt (container : Value) (path : List Value) :
    Prompt (container.memberAt path) := by
  induction path generalizing container with
  | nil => exact prompt_ok _
  | cons key path ih => exact (prompt_member container key).bind fun inner => ih inner

private theorem prompt_setMemberAt (container : Value) (path : List Value) (value : Value) :
    Prompt (container.setMemberAt path value) := by
  induction path generalizing container with
  | nil => exact prompt_ok _
  | cons key path ih =>
      cases path with
      | nil => exact prompt_setMember container key value
      | cons next rest =>
          refine (prompt_slot container key).bind fun inner => ?_
          exact (ih inner).bind fun changed => prompt_setMember container key changed

theorem prompt_elements (value : Value) : Prompt value.elements := by
  unfold elements
  split
  · exact prompt_ok _
  · exact prompt_ok _
  · exact prompt_ok _
  · exact prompt_error id

end Value

/-! ## Variables -/

theorem Scope.prompt_resolve (scope : Scope) (name : String) : Prompt (scope.resolve name) := by
  unfold resolve
  split
  · exact prompt_ok _
  · exact prompt_error id

theorem Place.prompt_read (place : Place) (scope : Scope) : Prompt (place.read scope) :=
  (scope.prompt_resolve place.root).bind fun value => value.prompt_memberAt place.path

theorem Place.prompt_write (place : Place) (implicit : Bool) (value : Value) (scope : Scope) :
    Prompt (place.write implicit value scope) := by
  unfold write
  split
  · exact prompt_ok _
  · unfold Scope.update
    split
    · exact (Value.prompt_setMemberAt _ place.path value).map _
    · exact prompt_error id

theorem Expression.prompt_targetRoot (target : Expression) :
    Prompt (target.targetRoot.mapError Cause.invalidAssignment) := by
  cases target.targetRoot with
  | ok root => exact prompt_ok root
  | error found => exact prompt_error id

/-! ## Tags and attributes -/

theorem Tag.prompt_ofName (name : String) : Prompt (Tag.ofName name) := by
  unfold ofName
  split
  · exact prompt_ok _
  · exact prompt_ok _
  · exact prompt_ok _
  · split
    · exact prompt_ok _
    · exact prompt_ok _
    · exact prompt_error id

namespace Attributes

private theorem prompt_takeRequired (attributes : Attributes) (name : String) :
    Prompt (attributes.takeRequired name).1 := by
  unfold takeRequired take
  cases attributes.values.get? name with
  | some value => exact prompt_ok _
  | none => exact prompt_error id

theorem prompt_checkMessageFields (attributes : Attributes) :
    Prompt attributes.checkMessageFields := by
  unfold checkMessageFields
  split
  · exact prompt_error id
  · exact prompt_ok _

theorem prompt_takeRole (implied : Option Role) (attributes : Attributes) :
    Prompt (attributes.takeRole implied).1 := by
  cases implied with
  | none =>
      have required := attributes.prompt_takeRequired "role"
      unfold takeRole
      generalize attributes.takeRequired "role" = taken at required ⊢
      obtain ⟨cause | name, rest⟩ := taken
      · exact prompt_error (required cause rfl)
      · dsimp only
        cases Role.ofName? name with
        | some role => exact prompt_ok _
        | none => exact prompt_error id
  | some role =>
      unfold takeRole
      generalize attributes.take "role" = taken
      obtain ⟨_ | value, rest⟩ := taken
      · exact prompt_ok _
      · dsimp only
        split
        · exact prompt_ok _
        · exact prompt_error id

theorem prompt_takeKind (implied : Option ContentKind) (attributes : Attributes) :
    Prompt (attributes.takeKind implied).1 := by
  cases implied with
  | some kind => exact prompt_ok _
  | none =>
      have required := attributes.prompt_takeRequired "type"
      unfold takeKind
      generalize attributes.takeRequired "type" = taken at required ⊢
      obtain ⟨cause | name, rest⟩ := taken
      · exact prompt_error (required cause rfl)
      · dsimp only
        cases ContentKind.ofName? name with
        | some kind => exact prompt_ok _
        | none => exact prompt_error id

private theorem prompt_callArguments (value : Option Value) : Prompt (callArguments value) := by
  unfold callArguments
  split
  · exact prompt_ok _
  · exact prompt_ok _
  · exact prompt_ok _
  · split
    · exact prompt_ok _
    · exact prompt_error id
  · exact prompt_error id

theorem prompt_toolCall (attributes : Attributes) (children : List Template) :
    Prompt (attributes.toolCall children) := by
  simp only [toolCall]
  split
  · exact prompt_error id
  · refine (prompt_takeRequired attributes "id").bind fun id => ?_
    refine (prompt_takeRequired _ "name").bind fun name => ?_
    exact (prompt_callArguments _).bind fun _ => prompt_ok _

end Attributes

end ChatTemplate
