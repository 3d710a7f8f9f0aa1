import ChatTemplate.Evaluation.Action
import ChatTemplate.Evaluation.Place
import ChatTemplate.Value.Operation

/-!
Evaluation of expressions. Operands are evaluated from left to right and nothing is evaluated that
the result does not need. A member or call that is optional and meets null leaves the whole chain of
members and calls above it without a value; where the chain ends, null stands for it.
-/

set_option autoImplicit false

namespace ChatTemplate

variable {σ : Type}

/-- The key of an object's entry or a member that is not computed: a name, or the text of a literal.
-/
def Expression.staticKey : Expression → Action (Machine σ) String
  | .identifier name _ => pure name
  | .literal value _ => pure (Value.ofLiteral value).keyText
  | other => .failAt other.span (.invalidObjectKey other.nodeType)

/-- The text of a computed key of an object's entry, which has to be a text or a number. -/
def Value.objectKey (span : Span) (key : Value) : Action (Machine σ) String :=
  match key with
  | .string _ | .number _ => pure key.keyText
  | other => .failAt span (.invalidObjectKey other.typeName)

/-- The key of an object's entry: what the key evaluates to when it is computed, its name
otherwise. -/
def Expression.entryKey (key : Expression) (computed : Bool)
    (evaluated : Action (Machine σ) Value) : Action (Machine σ) String :=
  if computed then evaluated >>= Value.objectKey key.span else key.staticKey

/-- The key of a member: what its property evaluates to when it is computed, its name otherwise. -/
def Expression.memberKey (property : Expression) (computed : Bool)
    (evaluated : Action (Machine σ) Value) : Action (Machine σ) Value :=
  if computed then evaluated
  else do
    let key ← property.staticKey
    pure (.string key)

namespace Machine

def record (event : HostEvent) (machine : Machine σ) : Machine σ :=
  { machine with history := machine.history.push event }

def invoke (host : Host σ) (site : Expression) (function : Nat) (arguments : List Value) :
    Action (Machine σ) Value := fun machine =>
  let machine := machine.record (.called site function arguments machine.scope)
  let reply := (host.call function arguments machine.world).mapState fun world =>
    { machine with world }
  reply.bind fun machine reply =>
    let machine := machine.record (.answered reply)
    match reply with
    | .ok value => .done machine (.ok value)
    | .error report => .done machine (.error (report.atCall site.span))

def readPlace (place : Place) (span : Span) : Action (Machine σ) Value := do
  let machine ← Action.state
  .located span (place.read machine.scope)

def writePlace (implicit : Bool) (place : Place) (value : Value) (span : Span) :
    Action (Machine σ) Unit := do
  let machine ← Action.state
  let scope ← Action.located span (place.write implicit value machine.scope)
  Action.modify fun machine => { machine with scope }

end Machine

/-- The value of what may be a chain without a value. -/
def Action.orNull (link : Action (Machine σ) (Option Value)) : Action (Machine σ) Value := do
  let value? ← link
  pure (value?.getD .null)

namespace Expression

mutual

/-- Evaluates an expression; `none` means that an optional member or call has met null and that the
chain which the expression belongs to has no value. With `implicit`, a plain assignment to a
variable that is not bound declares it. -/
def link (host : Host σ) (implicit : Bool) : Expression → Action (Machine σ) (Option Value)
  | .literal value _ => pure (some (.ofLiteral value))
  | .identifier name span => do
      let machine ← Action.state
      let value ← Action.located span (machine.scope.resolve name)
      pure (some value)
  | .object properties _ => do
      let entries ← entriesOf host implicit properties ∅
      pure (some (.map entries))
  | .array elements _ => do
      let items ← valuesOf host implicit elements
      pure (some (.list items))
  | .sequence expressions _ => do
      let value ← lastOf host implicit expressions .null
      pure (some value)
  | .logical operator left right _ => do
      let value ← (link host implicit left).orNull
      if operator.shortCircuits value then pure (some value)
      else do
        let value ← (link host implicit right).orNull
        pure (some value)
  | .binary operator left right span => do
      let left ← (link host implicit left).orNull
      let right ← (link host implicit right).orNull
      let value ← Action.located span (Value.binary operator left right)
      pure (some value)
  | .unary operator argument span => do
      let argument ← (link host implicit argument).orNull
      let value ← Action.located span (Value.unary operator argument)
      pure (some value)
  | .assignment operator target value span => do
      let root ← Action.located target.span (target.targetRoot.mapError .invalidAssignment)
      let path ← pathOf host implicit target
      let place : Place := ⟨root, path⟩
      match operator with
      | .plain => do
          let new ← (link host implicit value).orNull
          Machine.writePlace implicit place new span
          pure (some new)
      | .arithmetic operator => do
          let current ← Machine.readPlace place span
          let operand ← (link host implicit value).orNull
          let new ← Action.located span (Value.arithmetic operator current operand)
          Machine.writePlace implicit place new span
          pure (some new)
      | .logical operator => do
          let current ← Machine.readPlace place span
          if operator.shortCircuits current then pure (some current)
          else do
            let new ← (link host implicit value).orNull
            Machine.writePlace implicit place new span
            pure (some new)
  | .update operator prefixed target span => do
      let root ← Action.located target.span (target.targetRoot.mapError .invalidAssignment)
      let path ← pathOf host implicit target
      let place : Place := ⟨root, path⟩
      let current ← Machine.readPlace place span
      let old ← Action.located span current.toNumber
      let new := operator.apply old
      Machine.writePlace implicit place (.number new) span
      pure (some (.number (if prefixed then new else old)))
  | .member owner property computed optional span => do
      match ← link host implicit owner with
      | none => pure none
      | some container =>
          if optional && container.isNull then pure none
          else do
            let key ← property.memberKey computed (link host implicit property).orNull
            let value ← Action.located span (container.member key)
            pure (some value)
  | .conditional test consequent alternate _ => do
      let test ← (link host implicit test).orNull
      let value ←
        if test.isTrue then (link host implicit consequent).orNull
        else (link host implicit alternate).orNull
      pure (some value)
  | .call callee arguments optional span => do
      match ← link host implicit callee with
      | none => pure none
      | some function =>
          if optional && function.isNull then pure none
          else match function with
            | .function reference => do
                let values ← valuesOf host implicit arguments
                let site := Expression.call callee arguments optional span
                let value ← Machine.invoke host site reference values
                pure (some value)
            | other => .failAt span (.notCallable other.typeName)
  | .chain inner _ => do
      let value ← (link host implicit inner).orNull
      pure (some value)

def valuesOf (host : Host σ) (implicit : Bool) : List Expression → Action (Machine σ) (List Value)
  | [] => pure []
  | expression :: rest => do
      let value ← (link host implicit expression).orNull
      let values ← valuesOf host implicit rest
      pure (value :: values)

/-- Evaluates expressions in order and yields the last value, `last` when there is none. -/
def lastOf (host : Host σ) (implicit : Bool) :
    List Expression → (last : Value) → Action (Machine σ) Value
  | [], last => pure last
  | expression :: rest, _ => do
      let value ← (link host implicit expression).orNull
      lastOf host implicit rest value

/-- Evaluates the entries of an object in order, each key before its value, and adds them to the
entries before them. -/
def entriesOf (host : Host σ) (implicit : Bool) :
    List Property → Dict Value → Action (Machine σ) (Dict Value)
  | [], entries => pure entries
  | .mk key value computed :: rest, entries => do
      let key ← key.entryKey computed (link host implicit key).orNull
      let value ← (link host implicit value).orNull
      entriesOf host implicit rest (entries.insert key value)

/-- The keys that lead from the root of an assignment's target to the target, evaluated innermost
first. -/
def pathOf (host : Host σ) (implicit : Bool) : Expression → Action (Machine σ) (List Value)
  | .member owner property computed _ _ => do
      let path ← pathOf host implicit owner
      let key ← property.memberKey computed (link host implicit property).orNull
      pure (path ++ [key])
  | _ => pure []

end

def evaluate (host : Host σ) (implicit : Bool) (expression : Expression) :
    Action (Machine σ) Value :=
  (link host implicit expression).orNull

end Expression

end ChatTemplate
