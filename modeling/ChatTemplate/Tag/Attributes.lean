import ChatTemplate.Draft.Basic
import ChatTemplate.Evaluation.Basic
import ChatTemplate.Json.Reader
import ChatTemplate.Tag.Basic
import ChatTemplate.Template.Basic

/-!
The evaluated attributes of a tag, and what tags read from them. Reading an attribute takes it out
of the set; what is left at a message tag goes into the message.
-/

set_option autoImplicit false

namespace ChatTemplate

variable {σ : Type}

structure Attributes where
  tag : String := ""
  values : Dict Value := ∅

/-- The joined text of the parts of an attribute: texts and the values of interpolations. Other
nodes add nothing. -/
def Template.partsText (host : Host σ) (implicit : Bool) :
    List Template → Action (Machine σ) String
  | [] => pure ""
  | .text data _ :: rest => do
      let others ← partsText host implicit rest
      pure (data ++ others)
  | .interpolation expression _ :: rest => do
      let value ← expression.evaluate host implicit
      let others ← partsText host implicit rest
      pure (value.text ++ others)
  | _ :: rest => partsText host implicit rest

/-- Evaluates an attribute. A single interpolation keeps its value as it is, all else is text. -/
def Attribute.evaluate (host : Host σ) (implicit : Bool) : Attribute → Action (Machine σ) Value
  | .flag _ value _ => pure (.boolean value)
  | .parts _ [.interpolation expression _] _ => expression.evaluate host implicit
  | .parts _ nodes _ => do
      let text ← Template.partsText host implicit nodes
      pure (.string text)

namespace Attributes

/-- Evaluates attributes in order and adds them to those before them. -/
def evaluateInto (host : Host σ) (implicit : Bool) (values : Dict Value) :
    List Attribute → Action (Machine σ) (Dict Value)
  | [] => pure values
  | entry :: rest => do
      let value ← entry.evaluate host implicit
      evaluateInto host implicit (values.insert entry.name value) rest

/-- Evaluates the attributes of a tag. A repeated name keeps its first place and its last value. -/
def evaluate (host : Host σ) (implicit : Bool) (tag : String) (attributes : List Attribute) :
    Action (Machine σ) Attributes := do
  let values ← evaluateInto host implicit ∅ attributes
  pure ⟨tag, values⟩

def take (attributes : Attributes) (name : String) : Option Value × Attributes :=
  (attributes.values.get? name,
    { attributes with values := attributes.values.erase name })

/-- Takes out the text of an attribute that has to be there. -/
def takeRequired (attributes : Attributes) (name : String) : Except Cause String × Attributes :=
  match attributes.take name with
  | (some value, attributes) => (.ok value.text, attributes)
  | (none, attributes) => (.error (.missingAttribute attributes.tag name), attributes)

/-- Refuses attributes that are left with the name of a field of messages. -/
def checkMessageFields (attributes : Attributes) : Except Cause Unit :=
  match Message.reservedFields.find? attributes.values.has with
  | some name => .error (.reservedAttribute attributes.tag name)
  | none => .ok ()

def toJson (attributes : Attributes) : Dict Json :=
  attributes.values.mapValues (·.toJson)

/-- The role of a message tag. One whose name is a role may repeat it as an attribute, but set no
other. -/
def takeRole (implied : Option Role) (attributes : Attributes) : Except Cause Role × Attributes :=
  match implied with
  | none =>
      match attributes.takeRequired "role" with
      | (.ok name, attributes) =>
          match Role.ofName? name with
          | some role => (.ok role, attributes)
          | none => (.error (.invalidMessageRole name), attributes)
      | (.error cause, attributes) => (.error cause, attributes)
  | some role =>
      match attributes.take "role" with
      | (none, attributes) => (.ok role, attributes)
      | (some value, attributes) =>
          if value.text = role.name then (.ok role, attributes)
          else (.error (.reservedAttribute attributes.tag "role"), attributes)

/-- The kind of a content tag. One whose name is a kind ignores its attributes. -/
def takeKind (implied : Option ContentKind) (attributes : Attributes) :
    Except Cause ContentKind × Attributes :=
  match implied with
  | some kind => (.ok kind, attributes)
  | none =>
      match attributes.takeRequired "type" with
      | (.ok name, attributes) =>
          match ContentKind.ofName? name with
          | some kind => (.ok kind, attributes)
          | none => (.error (.invalidContentType name), attributes)
      | (.error cause, attributes) => (.error cause, attributes)

/-- The arguments of a tool call: an object, which may be given as a map or as JSON text; none are
an empty object. -/
def callArguments : Option Value → Except Cause Json
  | none | some .null => .ok (.object [])
  | some value@(.map _) => .ok value.toJson
  | some (.string text) =>
      match Json.parse? text with
      | some parsed@(.object _) => .ok parsed
      | _ => .error (.invalidToolCall ("arguments are not a JSON object: " ++ text))
  | some other =>
      .error (.invalidToolCall ("arguments must be a map, found " ++ other.typeName))

/-- The tool call that a tag declares. Nothing may stand inside the tag. -/
def toolCall (attributes : Attributes) (children : List Template) : Except Cause ToolCall := do
  if !children.isEmpty then .error (.invalidToolCall "tool calls cannot have content")
  let (id, attributes) := attributes.takeRequired "id"
  let id ← id
  let (name, attributes) := attributes.takeRequired "name"
  let name ← name
  let arguments ← callArguments (attributes.take "arguments").1
  .ok ⟨id, name, arguments⟩

end Attributes

end ChatTemplate
