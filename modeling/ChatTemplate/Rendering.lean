import ChatTemplate.Draft.Operation
import ChatTemplate.Tag.Attributes

/-!
Rendering: a template is walked in order, its expressions are evaluated, and what it says goes into
a draft. The blocks of a template are walked in environments of their own, which are dropped behind
them. The walk stops at the first failure.
-/

set_option autoImplicit false

namespace ChatTemplate

variable {σ : Type}

/-- The state of a walk: that of the evaluation, the draft, and what has been done to the draft so
far. -/
structure Walk (σ : Type) where
  machine : Machine σ
  draft : Draft
  operations : Array Draft.Operation := #[]

namespace Walk

/-- An evaluation as a part of a walk; it leaves the draft alone. -/
def evaluating {α : Type} (action : Action (Machine σ) α) : Action (Walk σ) α :=
  action.focus (·.machine) fun walk machine => { walk with machine }

def changeScope (change : Scope → Scope) (walk : Walk σ) : Walk σ :=
  { walk with machine := { walk.machine with scope := change walk.machine.scope } }

/-- Does an operation on the draft and records it. A failure is located where its cause comes from,
which is `span` unless the draft knows better. -/
def perform (operation : Draft.Operation) (span : Span) : Action (Walk σ) Unit := fun walk =>
  let (result, draft) := walk.draft.apply operation
  let walk := { walk with draft, operations := walk.operations.push operation }
  match result with
  | .ok () => .done walk (.ok ())
  | .error cause => .done walk (.error ⟨cause, some ((draft.origin? cause).getD span)⟩)

/-- Walks a block in a new environment with the given bindings, and drops the environment behind it,
also when the walk has failed. -/
def inBlock (bindings : List (String × Value)) (body : Action (Walk σ) Unit) :
    Action (Walk σ) Unit := fun walk =>
  let (mark, scope) := walk.machine.scope.push
  let scope := bindings.foldl (fun scope binding => scope.declare binding.1 binding.2) scope
  body.ensuring (changeScope (·.rewind mark)) (walk.changeScope fun _ => scope)

/-- Closes the tag with a name that has no opening tag of its own. -/
def closeTag (name : String) (span : Span) : Action (Walk σ) Unit := do
  let tag ← Action.located span (Tag.ofName name)
  match tag with
  | .message _ => perform .closeMessage span
  | .content _ => perform .closeContent span
  | .toolCall => .failAt span (.invalidToolCall "unexpected closing tag")

/-- Walks a tag, given how what stands inside it is walked. -/
def element (host : Host σ) (implicit : Bool) (name : String) (attributes : List Attribute)
    (children : List Template) (closed : Bool) (span : Span) (inside : Action (Walk σ) Unit) :
    Action (Walk σ) Unit := do
  let tag ← Action.located span (Tag.ofName name)
  let attributes ← evaluating (Attributes.evaluate host implicit name attributes)
  match tag with
  | .message implied => do
      let (role, attributes) := attributes.takeRole implied
      let role ← Action.located span role
      Action.located span attributes.checkMessageFields
      perform (.openMessage role attributes.toJson span) span
      inside
      if closed then perform .closeMessage span
  | .content implied => do
      let kind ← Action.located span (attributes.takeKind implied).1
      perform (.openContent kind span) span
      inside
      if closed then perform .closeContent span
  | .toolCall => do
      let call ← Action.located span (attributes.toolCall children)
      perform (.addToolCall ⟨span, call⟩) span

end Walk

/-- What a loop goes over: the values of a collection, each with its position in a list or its key
in a map. Null counts as an empty collection. -/
def Value.elements : Value → Except Cause (List (Value × Value))
  | .null => .ok []
  | .list items =>
      .ok ((items.zip (List.range items.length)).map fun entry => (entry.1, .ofNat entry.2))
  | .map entries => .ok (entries.map fun entry => (entry.2, .string entry.1))
  | other => .error (.notIterable other.typeName)

/-- The bindings of one round of a loop. When both names are the same, the position is what is
bound. -/
def Template.roundBindings (item : String) (index : Option String) (element : Value × Value) :
    List (String × Value) :=
  (item, element.1) :: (index.map fun name => (name, element.2)).toList

namespace Template

mutual

def walk (host : Host σ) (implicit : Bool) : Template → Action (Walk σ) Unit
  | .fragment children _ => walkAll host implicit children
  | .text data span => Walk.perform (.addTextAt data span) span
  | .comment _ _ => pure ()
  | .interpolation expression span => do
      let value ← Walk.evaluating (expression.evaluate host implicit)
      if expression.isAssignment then pure () else Walk.perform (.addTextAt value.text span) span
  | .element name attributes children closed span =>
      Walk.element host implicit name attributes children closed span
        (walkAll host implicit children)
  | .closing name span => Walk.closeTag name span
  | .branch test children otherwise _ => do
      let value ← Walk.evaluating (test.evaluate host implicit)
      if value.isTrue then Walk.inBlock [] (walkAll host implicit children)
      else walkOtherwise host implicit otherwise
  | .loop collection item index children otherwise _ => do
      let value ← Walk.evaluating (collection.evaluate host implicit)
      let elements ← Action.located collection.span value.elements
      if elements.isEmpty then walkOtherwise host implicit otherwise
      else Action.forEach elements fun element =>
        Walk.inBlock (roundBindings item index element) (walkAll host implicit children)

def walkAll (host : Host σ) (implicit : Bool) : List Template → Action (Walk σ) Unit
  | [] => pure ()
  | template :: rest => do
      walk host implicit template
      walkAll host implicit rest

/-- Walks the other branch of a block, if there is one, in a new environment. -/
def walkOtherwise (host : Host σ) (implicit : Bool) :
    Option (List Template) → Action (Walk σ) Unit
  | none => pure ()
  | some children => Walk.inBlock [] (walkAll host implicit children)

end

end Template

end ChatTemplate
