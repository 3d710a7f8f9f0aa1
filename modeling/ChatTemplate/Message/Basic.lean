import ChatTemplate.Json.Basic
import ChatTemplate.Span

/-!
Chat messages: what a template is compiled to.
-/

set_option autoImplicit false

namespace ChatTemplate

/-- Who speaks in a message. -/
inductive Role where
  | system
  | user
  | assistant
  | tool
  deriving DecidableEq

namespace Role

def name : Role → String
  | .system => "system"
  | .user => "user"
  | .assistant => "assistant"
  | .tool => "tool"

def ofName? : String → Option Role
  | "system" => some .system
  | "user" => some .user
  | "assistant" => some .assistant
  | "tool" => some .tool
  | _ => none

theorem ofName?_name (role : Role) : ofName? role.name = some role := by
  cases role <;> decide

end Role

/-- What a content tag holds. -/
inductive ContentKind where
  | text
  | image
  deriving DecidableEq

namespace ContentKind

def name : ContentKind → String
  | .text => "text"
  | .image => "image"

def ofName? : String → Option ContentKind
  | "text" => some .text
  | "image" => some .image
  | _ => none

end ContentKind

/-- A piece of a message's content. A tool result names the call that it answers and, if known, the
tool. -/
inductive ContentItem where
  | text (text : String)
  | image (source : String)
  | toolResult (callId : String) (toolName : Option String) (result : String) (isError : Bool)

namespace ContentItem

/-- The item that a content tag makes of the text inside it. -/
def ofKind (kind : ContentKind) (text : String) : ContentItem :=
  match kind with
  | ContentKind.text => .text text
  | ContentKind.image => .image text

/-- The text that an item carries, whatever its kind. -/
def payload : ContentItem → String
  | .text words => words
  | .image source => source
  | .toolResult _ _ result _ => result

end ContentItem

/-- A call that an assistant message asks for. -/
structure ToolCall where
  id : String
  name : String
  arguments : Json

/-- A message. The attributes are further fields of its JSON form. -/
structure Message where
  role : Role
  content : List ContentItem
  toolCalls : List ToolCall := []
  attributes : Dict Json := ∅

namespace Message

/-- The fields of a message's JSON form that no attribute may have the name of. -/
def reservedFields : List String :=
  ["role", "content", "toolCalls"]

/-- The texts of all text items, joined. -/
def text (message : Message) : String :=
  String.join (message.content.filterMap fun item =>
    match item with
    | .text words => some words
    | _ => none)

end Message

end ChatTemplate
