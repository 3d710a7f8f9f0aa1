import ChatTemplate.Json.Fields
import ChatTemplate.Json.Reader
import ChatTemplate.Message.Basic

/-!
The JSON form of messages. A message is an object whose attributes stand beside its own fields; an
item of its content names its type in the field `type`.
-/

set_option autoImplicit false

namespace ChatTemplate

namespace Role

def ofJson? (json : Json) : Option Role :=
  json.asName? >>= ofName?

end Role

namespace ContentItem

/-- The JSON form of an item. A tool name that is not known is left out. -/
def toJson : ContentItem → Json
  | .text words => .object [("type", .string "text"), ("text", .string words)]
  | .image source => .object [("type", .string "image"), ("image", .string source)]
  | .toolResult callId toolName result isError =>
      .object ([("type", .string "tool-result"), ("toolCallId", .string callId)] ++
        (match toolName with
          | some name => [("toolName", .string name)]
          | none => []) ++
        [("result", .string result), ("isError", .boolean isError)])

def ofFields? (type : String) (fields : (names : List String) → Option (List (String × Json))) :
    Option ContentItem :=
  match type with
  | "text" => do
      let entries ← fields ["text"]
      let text ← Json.required? entries "text" Json.asString?
      some (.text text)
  | "image" => do
      let entries ← fields ["image"]
      let source ← Json.required? entries "image" Json.asString?
      some (.image source)
  | "tool-result" => do
      let entries ← fields ["toolCallId", "toolName", "result", "isError"]
      let callId ← Json.required? entries "toolCallId" Json.asString?
      let toolName ← Json.optional? entries "toolName" none (Json.asNullable? Json.asString?)
      let result ← Json.required? entries "result" Json.asString?
      let isError ← Json.optional? entries "isError" false Json.asBoolean?
      some (.toolResult callId toolName result isError)
  | _ => none

/-- Reads an item, from an object or from an array with the type in front of the fields. -/
def ofJson? : Json → Option ContentItem
  | .object entries => do
      let type ← Json.required? entries "type" Json.asString?
      ofFields? type fun _ => some entries
  | .array (.string type :: items) => ofFields? type (Json.array items).fieldsOf?
  | _ => none

end ContentItem

namespace ToolCall

/-- The names of the fields in their fixed order. -/
def fieldNames : List String := ["id", "name", "arguments"]

def toJson (call : ToolCall) : Json :=
  .object [("id", .string call.id), ("name", .string call.name), ("arguments", call.arguments)]

/-- Reads a call; its arguments may be any JSON value and are null when they are missing. -/
def ofJson? (json : Json) : Option ToolCall := do
  let entries ← json.fieldsOf? fieldNames
  let id ← Json.required? entries "id" Json.asString?
  let name ← Json.required? entries "name" Json.asString?
  let arguments ← Json.optional? entries "arguments" .null fun json => some json.collapse
  some ⟨id, name, arguments⟩

/-- What is read of the JSON text of a call: the values of unknown fields are passed over. -/
def selection : Json.Selection := .named fieldNames

def parse? (text : String) : Option ToolCall :=
  Json.select? selection text >>= ofJson?

end ToolCall

namespace Message

def toFields (message : Message) : List (String × Json) :=
  [("role", .string message.role.name), ("content", .array (message.content.map (·.toJson)))] ++
    (if message.toolCalls.isEmpty then []
      else [("toolCalls", .array (message.toolCalls.map (·.toJson)))]) ++
    message.attributes.entries

/-- The JSON form of a message. No calls are left out as a field. -/
def toJson (message : Message) : Json :=
  .object message.toFields

/-- Reads a message; every field that is none of its own is an attribute. -/
def ofJson? (json : Json) : Option Message := do
  let entries ← json.asObject?
  let role ← Json.required? entries "role" Role.ofJson?
  let content ← Json.required? entries "content" (Json.asList? ContentItem.ofJson?)
  let toolCalls ← Json.optional? entries "toolCalls" [] (Json.asList? ToolCall.ofJson?)
  let others := entries.filter fun entry => !reservedFields.contains entry.1
  let attributes := Dict.ofEntries (others.map fun entry => (entry.1, entry.2.collapse))
  some ⟨role, content, toolCalls, attributes⟩

/-- What is read of the JSON text of a message: all of it, save the unknown fields of its calls. -/
def selection : Json.Selection :=
  .fields fun key => some (if key = "toolCalls" then .items ToolCall.selection else .whole)

def parse? (text : String) : Option Message :=
  Json.select? selection text >>= ofJson?

def listToJson (messages : List Message) : Json :=
  .array (messages.map (·.toJson))

end Message

end ChatTemplate
