import ChatTemplate.Failure
import ChatTemplate.Json.Fields
import ChatTemplate.Json.Reader

/-!
The settings of a compilation and their JSON form.
-/

set_option autoImplicit false

namespace ChatTemplate

/-- What happens to text outside of any message: it becomes a system message, it is discarded, or it
is refused. -/
inductive RootText where
  | system
  | discard
  | reject
  deriving DecidableEq

namespace RootText

def name : RootText → String
  | .system => "system"
  | .discard => "discard"
  | .reject => "reject"

def ofName? : String → Option RootText
  | "system" => some .system
  | "discard" => some .discard
  | "reject" => some .reject
  | _ => none

end RootText

structure Settings where
  rootText : RootText := .system
  /-- Whether a message may be left without content. -/
  allowEmptyMessages : Bool := false
  /-- Whether a plain assignment to a variable that is not bound declares it. -/
  implicitDeclarations : Bool := false
  /-- The time limit in milliseconds. -/
  timeout : Option UInt64 := none
  /-- The name that the current time is bound to. -/
  currentTimeBinding : Option String := none
  deriving DecidableEq

namespace Settings

/-- The names of the fields in their fixed order. -/
def fieldNames : List String :=
  ["root_text", "allow_empty_messages", "implicit_declarations", "timeout", "current_time_binding"]

def toJson (settings : Settings) : Json :=
  .object
    [("root_text", .string settings.rootText.name),
      ("allow_empty_messages", .boolean settings.allowEmptyMessages),
      ("implicit_declarations", .boolean settings.implicitDeclarations),
      ("timeout", (settings.timeout.map fun limit => Json.integer limit.toNat).getD .null),
      ("current_time_binding", (settings.currentTimeBinding.map Json.string).getD .null)]

def ofJson? (json : Json) : Option Settings := do
  let entries ← json.fieldsOf? fieldNames
  let rootText ← Json.optional? entries "root_text" .system
    fun json => json.asName? >>= RootText.ofName?
  let allowEmptyMessages ← Json.optional? entries "allow_empty_messages" false Json.asBoolean?
  let implicitDeclarations ← Json.optional? entries "implicit_declarations" false Json.asBoolean?
  let timeout ← Json.optional? entries "timeout" none (Json.asNullable? Json.asWord?)
  let currentTimeBinding ←
    Json.optional? entries "current_time_binding" none (Json.asNullable? Json.asString?)
  some ⟨rootText, allowEmptyMessages, implicitDeclarations, timeout, currentTimeBinding⟩

/-- Reads settings from JSON text; the values of unknown fields are passed over. -/
def parse (text : String) : Except Failure Settings :=
  match Json.select? (.named fieldNames) text >>= ofJson? with
  | some settings => .ok settings
  | none => .error ⟨.invalidConfig "Failed to parse config", none⟩

end Settings

end ChatTemplate
