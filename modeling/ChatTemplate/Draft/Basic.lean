import ChatTemplate.Failure
import ChatTemplate.Message.Basic
import ChatTemplate.Settings
import ChatTemplate.Text.Blank

/-!
A document in the making. A draft collects text, items of content and tool calls while a template is
walked and closes them off into messages. All rules about how messages and content tags may be
nested are in the operations below. An operation that fails still says in what state it leaves the
draft.
-/

set_option autoImplicit false

namespace ChatTemplate

structure OpenMessage where
  role : Role
  attributes : Dict Json
  span : Span

structure OpenContent where
  kind : ContentKind
  span : Span

/-- A tool call and the place of the tag that declares it. -/
structure PlacedCall where
  span : Span
  call : ToolCall

/-- The state of a document in the making. `pending` is text that no item has been made of yet, and
`rootTextSpan` the place of the first text outside of any message that is not blank. -/
structure Draft where
  rootText : RootText := .system
  allowEmptyMessages : Bool := false
  message : Option OpenMessage := none
  content : Option OpenContent := none
  rootTextSpan : Option Span := none
  pending : String := ""
  items : List ContentItem := []
  calls : List PlacedCall := []
  messages : List Message := []

namespace Draft

/-- What an operation that may fail gives: its result and the state that it leaves. -/
abbrev Outcome : Type := Except Cause Unit × Draft

def ofSettings (settings : Settings) : Draft :=
  { rootText := settings.rootText, allowEmptyMessages := settings.allowEmptyMessages }

def insideMessage (draft : Draft) : Bool :=
  draft.message.isSome

def insideContent (draft : Draft) : Bool :=
  draft.content.isSome

def currentRole? (draft : Draft) : Option Role :=
  draft.message.map (·.role)

def addText (draft : Draft) (text : String) : Draft :=
  { draft with pending := draft.pending ++ text }

/-- Adds text that comes from a place. Outside of any message the place of the first text that is
not blank is kept. -/
def addTextAt (draft : Draft) (text : String) (span : Span) : Draft :=
  let starts := draft.rootTextSpan.isNone && !draft.insideMessage && !Text.isBlank text
  let draft := if starts then { draft with rootTextSpan := some span } else draft
  draft.addText text

def takeText (draft : Draft) : String × Draft :=
  (draft.pending, { draft with pending := "" })

def takeItems (draft : Draft) : List ContentItem × Draft :=
  (draft.items, { draft with items := [] })

def takeCalls (draft : Draft) : List PlacedCall × Draft :=
  (draft.calls, { draft with calls := [] })

/-- Makes a text item of the pending text, or drops it when it is blank. Inside a content tag
nothing happens: there the text belongs to the tag. -/
def settleText (draft : Draft) : Draft :=
  if draft.insideContent then draft
  else
    let (text, draft) := draft.takeText
    if Text.isBlank text then draft
    else { draft with items := draft.items ++ [.text text] }

/-- Settles what has been collected outside of any message as the settings say. While a message is
open nothing happens. Refused items stay where they are. -/
def settleRoot (draft : Draft) : Outcome :=
  if draft.insideMessage then (.ok (), draft)
  else
    let draft := draft.settleText
    if draft.items.isEmpty then (.ok (), draft)
    else match draft.rootText with
      | .system =>
          let message : Message := { role := .system, content := draft.items }
          (.ok (), { draft with
            items := [], messages := draft.messages ++ [message], rootTextSpan := none })
      | .discard => (.ok (), { draft with items := [], rootTextSpan := none })
      | .reject => (.error .strayTextOutsideMessage, draft)

/-- Opens a message. Nothing that was collected before it ends up in it. -/
def openMessage (draft : Draft) (role : Role) (attributes : Dict Json) (span : Span) : Outcome :=
  if draft.insideMessage then (.error .nestedMessage, draft)
  else match draft.settleRoot with
    | (.error cause, draft) => (.error cause, draft)
    | (.ok (), draft) =>
        (.ok (), { draft with message := some ⟨role, attributes, span⟩, items := [], calls := [] })

def openContent (draft : Draft) (kind : ContentKind) (span : Span) : Outcome :=
  if !draft.insideMessage then (.error .contentOutsideMessage, draft)
  else if draft.insideContent then (.error .nestedContent, draft)
  else
    let draft := draft.settleText
    (.ok (), { draft with content := some ⟨kind, span⟩ })

/-- Closes the open content tag: the text since it was opened, blanks included, becomes an item of
its kind. No text makes no item. -/
def closeContent (draft : Draft) : Outcome :=
  match draft.content with
  | none => (.error .unmatchedContentClose, draft)
  | some opened =>
      let (text, draft) := { draft with content := none }.takeText
      if text.isEmpty then (.ok (), draft)
      else (.ok (), { draft with items := draft.items ++ [.ofKind opened.kind text] })

/-- The text of a JSON value: a text as it is, anything else in compact form. -/
def jsonText : Json → String
  | .string text => text
  | other => other.text

/-- The content of a closed message. In a tool message with an `id` attribute the texts are results
of the call with that id, by the tool that the attribute `name` names. -/
def closedContent (opened : OpenMessage) (items : List ContentItem) : List ContentItem :=
  match opened.role, opened.attributes.get? "id" with
  | .tool, some id =>
      let toolName := (opened.attributes.get? "name").map jsonText
      items.map fun item =>
        match item with
        | .text text => .toolResult (jsonText id) toolName text false
        | other => other
  | _, _ => items

/-- Closes the open message, and an open content tag before it. A message with neither content nor
tool calls is refused unless the settings allow it; it is closed all the same. -/
def closeMessage (draft : Draft) : Outcome :=
  match draft.message with
  | none => (.error .unmatchedMessageClose, draft)
  | some opened =>
      let draft := (if draft.insideContent then draft.closeContent.2 else draft).settleText
      let (items, draft) := draft.takeItems
      let (calls, draft) := draft.takeCalls
      let draft := { draft with message := none }
      if items.isEmpty && calls.isEmpty && !draft.allowEmptyMessages then
        (.error (.emptyMessage opened.role.name), draft)
      else
        let message : Message :=
          { role := opened.role
            content := closedContent opened items
            toolCalls := calls.map (·.call)
            attributes := opened.attributes }
        (.ok (), { draft with messages := draft.messages ++ [message] })

def addItem (draft : Draft) (item : ContentItem) : Outcome :=
  if draft.insideContent then (.error .nestedContent, draft)
  else
    let draft := draft.settleText
    (.ok (), { draft with items := draft.items ++ [item] })

/-- Adds a tool call to the open message, which has to be one of the assistant. -/
def addToolCall (draft : Draft) (call : PlacedCall) : Outcome :=
  match draft.currentRole? with
  | none => (.error .toolCallOutsideMessage, draft)
  | some role =>
      if draft.insideContent then (.error .nestedContent, draft)
      else if role = .assistant then (.ok (), { draft with calls := draft.calls ++ [call] })
      else (.error (.toolCallOutsideAssistantMessage role.name), draft)

def addMessage (draft : Draft) (message : Message) : Outcome :=
  if draft.insideMessage then (.error .nestedMessage, draft)
  else match draft.settleRoot with
    | (.error cause, draft) => (.error cause, draft)
    | (.ok (), draft) => (.ok (), { draft with messages := draft.messages ++ [message] })

/-- The place that a cause is about when it is not the place where it shows: the tag that is open,
or the first text outside of any message. -/
def origin? (draft : Draft) : Cause → Option Span
  | .unclosedMessage => draft.message.map (·.span)
  | .unclosedContent => draft.content.map (·.span)
  | .strayTextOutsideMessage => draft.rootTextSpan
  | _ => none

def finish (draft : Draft) : Except Failure (List Message) :=
  if draft.insideContent then .error ⟨.unclosedContent, draft.origin? .unclosedContent⟩
  else if draft.insideMessage then .error ⟨.unclosedMessage, draft.origin? .unclosedMessage⟩
  else match draft.settleRoot with
    | (.error cause, draft) => .error ⟨cause, draft.origin? cause⟩
    | (.ok (), draft) => .ok draft.messages

end Draft

end ChatTemplate
