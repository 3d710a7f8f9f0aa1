import ChatTemplate.Proofs.Draft.Ink
import ChatTemplate.Proofs.Draft.Stretch

/-!
Documents. A document is a row of texts and turns; a turn opens a message, fills it and closes it.
It is written down as a list of operations, and a run of operations that ends well is always such a
list.
-/

set_option autoImplicit false

namespace ChatTemplate.Draft

/-! ## The language -/

def Operation.IsText : Operation → Prop
  | .addText _ | .addTextAt .. | .settleText => True
  | _ => False

/-- An operation that adds text or settles it. -/
abbrev TextOperation : Type := { operation : Operation // operation.IsText }

/-- Part of a message by someone: text, a content tag with text inside, or a tool call, which only
the assistant may make. -/
inductive Part (role : Role) where
  | text (operation : TextOperation)
  | content (kind : ContentKind) (span : Span) (texts : List TextOperation)
  | call (placed : PlacedCall) (assistant : role = .assistant)

/-- A content tag that is left open, with the text inside. -/
structure OpenEnd where
  kind : ContentKind
  span : Span
  texts : List TextOperation

/-- A message from its opening to its closing. A content tag at its end may be left open. -/
structure Turn where
  role : Role
  attributes : Dict Json
  span : Span
  parts : List (Part role)
  openEnd : Option OpenEnd

inductive Entry where
  | text (operation : TextOperation)
  | turn (message : Turn)

/-- Texts and turns in any order. -/
abbrev Document : Type := List Entry

def textOperations (texts : List TextOperation) : List Operation :=
  texts.map (·.val)

def Part.operations {role : Role} : Part role → List Operation
  | .text operation => [operation.val]
  | .content kind span texts => .openContent kind span :: textOperations texts ++ [.closeContent]
  | .call placed _ => [.addToolCall placed]

def OpenEnd.operations (openEnd : OpenEnd) : List Operation :=
  .openContent openEnd.kind openEnd.span :: textOperations openEnd.texts

/-- The operations between the opening and the closing of a message. -/
def insideOperations {role : Role} (parts : List (Part role)) (openEnd : Option OpenEnd) :
    List Operation :=
  parts.flatMap (·.operations) ++ openEnd.toList.flatMap (·.operations)

def Turn.operations (turn : Turn) : List Operation :=
  .openMessage turn.role turn.attributes turn.span ::
    insideOperations turn.parts turn.openEnd ++ [.closeMessage]

def Entry.operations : Entry → List Operation
  | .text operation => [operation.val]
  | .turn message => message.operations

def Document.operations (document : Document) : List Operation :=
  document.flatMap (·.operations)

/-- The operations that documents are made of. -/
def Operation.InDocument : Operation → Prop
  | .openMessage .. | .closeMessage | .openContent .. | .closeContent | .addText _ | .addTextAt ..
  | .settleText | .addToolCall _ => True
  | _ => False

/-! ## The messages of a document -/

def Turn.message (turn : Turn) : Message :=
  messageOf ⟨turn.role, turn.attributes, turn.span⟩ (insideOperations turn.parts turn.openEnd)

def addedText (operations : List Operation) : String :=
  String.join (operations.map (·.text))

/-- What becomes of a run of text outside of any message. -/
def runMessages (policy : RootText) (run : List TextOperation) : List Message :=
  if policy = .system ∧ Text.isBlank (addedText (textOperations run)) = false then
    [{ role := .system, content := contents (textOperations run) }]
  else []

/-- The messages of entries, when `run` is the text since the last turn. -/
def messagesAfter (policy : RootText) (run : List TextOperation) : List Entry → List Message
  | [] => runMessages policy run
  | .text operation :: rest => messagesAfter policy (run ++ [operation]) rest
  | .turn turn :: rest => runMessages policy run ++ turn.message :: messagesAfter policy [] rest

/-- Each turn makes its message, and each longest run of text between turns is settled by the
policy. -/
def Document.messages (policy : RootText) (document : Document) : List Message :=
  messagesAfter policy [] document

/-! ## Runs that end well -/

/-- The operations finish a message of the role, and a document follows. -/
def FinishMessage (role : Role) (operations : List Operation) : Prop :=
  ∃ (parts : List (Part role)) (openEnd : Option OpenEnd) (document : Document),
    operations = insideOperations parts openEnd ++ .closeMessage :: document.operations

/-- The operations finish a content tag and its message, and a document follows. -/
def FinishContent (role : Role) (operations : List Operation) : Prop :=
  ∃ texts : List TextOperation,
    (∃ rest, operations = textOperations texts ++ .closeContent :: rest ∧ FinishMessage role rest) ∨
      ∃ document : Document,
        operations = textOperations texts ++ .closeMessage :: document.operations

/-- The operations finish what is open in the draft, and a document follows. -/
structure Finishes (draft : Draft) (operations : List Operation) : Prop where
  outside : draft.message = none → ∃ document : Document, operations = document.operations
  inside : ∀ opened, draft.message = some opened → draft.content = none →
    FinishMessage opened.role operations
  insideContent : ∀ opened inner, draft.message = some opened → draft.content = some inner →
    FinishContent opened.role operations

theorem Finishes.text {before after : Draft} {operation : Operation} {rest : List Operation}
    (finishes : after.Finishes rest) (isText : operation.IsText)
    (message : after.message = before.message) (content : after.content = before.content) :
    before.Finishes (operation :: rest) where
  outside closed := by
    obtain ⟨document, rfl⟩ := finishes.outside (message.trans closed)
    exact ⟨.text ⟨operation, isText⟩ :: document, rfl⟩
  inside opened within closed := by
    obtain ⟨parts, openEnd, document, rfl⟩ :=
      finishes.inside opened (message.trans within) (content.trans closed)
    exact ⟨.text ⟨operation, isText⟩ :: parts, openEnd, document, rfl⟩
  insideContent opened inner within tag := by
    obtain ⟨texts, ⟨later, rfl, finish⟩ | ⟨document, rfl⟩⟩ :=
      finishes.insideContent opened inner (message.trans within) (content.trans tag)
    · exact ⟨⟨operation, isText⟩ :: texts, .inl ⟨later, rfl, finish⟩⟩
    · exact ⟨⟨operation, isText⟩ :: texts, .inr ⟨document, rfl⟩⟩

/-- What finishes the draft after a step finishes, with the step in front, the draft before it. -/
theorem Step.finishes {before after : Draft} {operation : Operation} {rest : List Operation}
    (step : Step before operation after) (nested : before.Nested)
    (inDocument : operation.InDocument) (finishes : after.Finishes rest) :
    before.Finishes (operation :: rest) := by
  cases step with
  | addText text => exact finishes.text trivial rfl rfl
  | addTextAt text span => exact finishes.text trivial rfl rfl
  | settleText content => exact finishes.text trivial rfl rfl
  | settleTextInside content => exact finishes.text trivial rfl rfl
  | openMessage role attributes span outside content accepted =>
      constructor
      · intro _
        obtain ⟨parts, openEnd, document, rfl⟩ := finishes.inside _ rfl content
        refine ⟨.turn ⟨role, attributes, span, parts, openEnd⟩ :: document, ?_⟩
        simp [Document.operations, Entry.operations, Turn.operations]
      · exact fun _ inside => nomatch outside.symm.trans inside
      · exact fun _ _ inside => nomatch outside.symm.trans inside
  | closeMessage inside filled =>
      obtain ⟨document, rfl⟩ := finishes.outside rfl
      constructor
      · exact fun outside => nomatch outside.symm.trans inside
      · exact fun _ _ _ => ⟨[], none, document, rfl⟩
      · exact fun _ _ _ _ => ⟨[], .inr ⟨document, rfl⟩⟩
  | openContent kind span inside content =>
      constructor
      · exact fun outside => nomatch outside.symm.trans inside
      · intro opened within _
        -- The tag is closed by an operation of its own, or it is the open end of the message.
        obtain ⟨texts, ⟨later, rfl, parts, openEnd, document, rfl⟩ | ⟨document, rfl⟩⟩ :=
          finishes.insideContent opened _ within rfl
        · refine ⟨.content kind span texts :: parts, openEnd, document, ?_⟩
          simp [insideOperations, Part.operations]
        · refine ⟨[], some ⟨kind, span, texts⟩, document, ?_⟩
          simp [insideOperations, OpenEnd.operations]
      · exact fun _ _ _ tag => nomatch content.symm.trans tag
  | closeContent content =>
      constructor
      · exact fun outside => nomatch (nested outside).symm.trans content
      · exact fun _ _ none => nomatch none.symm.trans content
      · intro opened inner within _
        exact ⟨[], .inl ⟨rest, rfl, finishes.inside opened within rfl⟩⟩
  | addToolCall call inside assistant content =>
      constructor
      · exact fun outside => nomatch outside.symm.trans inside
      · intro opened within _
        obtain ⟨parts, openEnd, document, rfl⟩ := finishes.inside opened within content
        rw [within] at inside
        cases inside
        exact ⟨.call call assistant :: parts, openEnd, document, rfl⟩
      · exact fun _ _ _ tag => nomatch content.symm.trans tag
  | _ => cases inDocument

theorem finishes_of_run {draft final : Draft} {messages : List Message}
    {operations : List Operation} (nested : draft.Nested)
    (inDocument : ∀ operation ∈ operations, operation.InDocument)
    (applied : draft.applyAll operations = (.ok (), final))
    (finished : final.finish = .ok messages) : draft.Finishes operations := by
  induction operations generalizing draft with
  | nil =>
      cases applied
      obtain ⟨outside, -, -⟩ := finish_ok finished
      constructor
      · exact fun _ => ⟨[], rfl⟩
      · exact fun _ inside => nomatch outside.symm.trans inside
      · exact fun _ _ inside => nomatch outside.symm.trans inside
  | cons operation rest ih =>
      simp only [applyAll] at applied
      split at applied
      · rename_i next done
        have step := step_of_apply nested done
        have later := ih (step.nested nested)
          (fun _ member => inDocument _ (List.mem_cons_of_mem _ member)) applied
        exact step.finishes nested (inDocument operation List.mem_cons_self) later
      · cases applied

end ChatTemplate.Draft
