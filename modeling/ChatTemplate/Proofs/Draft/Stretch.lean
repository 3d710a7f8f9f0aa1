import ChatTemplate.Proofs.Draft.Reachable

/-!
Stretches of text. What has been done inside a message is parted where its text is settled: where a
content tag is opened or closed, where an item is added, where the message is closed, and, outside
of content tags, where settling is asked for. The content of the message is what these stretches
hold.
-/

set_option autoImplicit false

namespace ChatTemplate

/-- What an item becomes in an answer to a call: texts are results of the tool. -/
def ContentItem.answering (callId : String) (toolName : Option String) : ContentItem → ContentItem
  | .text words => .toolResult callId toolName words false
  | other => other

namespace Draft

/-- The text between two places where text is settled. It may stand inside a content tag, and an
item that is complete may come after it. -/
structure Stretch where
  kind : Option ContentKind
  fragments : List String := []
  ending : Option ContentItem := none

namespace Stretch

def text (stretch : Stretch) : String :=
  String.join stretch.fragments

/-- Outside of content tags blank text is dropped, inside of them only text that is empty is. -/
def textItems (stretch : Stretch) : List ContentItem :=
  match stretch.kind with
  | none => if Text.isBlank stretch.text then [] else [.text stretch.text]
  | some kind => if stretch.text = "" then [] else [.ofKind kind stretch.text]

def items (stretch : Stretch) : List ContentItem :=
  stretch.textItems ++ stretch.ending.toList

def add (fragment : String) (stretch : Stretch) : Stretch :=
  { stretch with fragments := fragment :: stretch.fragments }

end Stretch

/-- The stretches of what is done where a content tag of the kind is open, or none is. -/
def stretches (kind : Option ContentKind) : List Operation → List Stretch
  | [] => [{ kind }]
  | operation :: rest =>
      match operation with
      | .addText text | .addTextAt text _ => (stretches kind rest).modifyHead (·.add text)
      | .settleText =>
          match kind with
          | none => { kind } :: stretches none rest
          | some kind => stretches (some kind) rest
      | .openContent inner _ => { kind } :: stretches (some inner) rest
      | .closeContent => { kind } :: stretches none rest
      | .addItem item => { kind, ending := some item } :: stretches kind rest
      | _ => stretches kind rest

/-- The items that operations inside a message collect, its end included. -/
def contents (operations : List Operation) : List ContentItem :=
  (stretches none operations).flatMap (·.items)

def Operation.call? : Operation → Option ToolCall
  | .addToolCall placed => some placed.call
  | _ => none

/-- The operations that neither begin nor end a message, and that take nothing out of it. -/
def Operation.InMessage : Operation → Prop
  | .addText _ | .addTextAt .. | .settleText | .openContent .. | .closeContent | .addItem _
  | .addToolCall _ => True
  | _ => False

/-! ## Runs inside a message -/

def kind? (draft : Draft) : Option ContentKind :=
  draft.content.map (·.kind)

/-- What a draft has collected and what operations will add to it. -/
def collected (draft : Draft) (operations : List Operation) : List ContentItem :=
  draft.items ++
    ((stretches draft.kind? operations).modifyHead (·.add draft.pending)).flatMap (·.items)

theorem Stretch.items_congr {first second : Stretch} (kind : first.kind = second.kind)
    (text : first.text = second.text) (ending : first.ending = second.ending) :
    first.items = second.items := by
  simp only [items, textItems, kind, text, ending]

theorem Stretch.items_add_empty (stretch : Stretch) : (stretch.add "").items = stretch.items := by
  refine items_congr rfl ?_ rfl
  rw [text, add, String.join_cons, String.empty_append]
  rfl

theorem Stretch.items_add_add (first second : String) (stretch : Stretch) :
    ((stretch.add second).add first).items = (stretch.add (first ++ second)).items := by
  refine items_congr rfl ?_ rfl
  simp only [text, add, String.join_cons, String.append_assoc]

private theorem flatMap_items_congr {change change' : Stretch → Stretch}
    (same : ∀ stretch, (change stretch).items = (change' stretch).items)
    (parts : List Stretch) :
    (parts.modifyHead change).flatMap (·.items) = (parts.modifyHead change').flatMap (·.items) := by
  cases parts with
  | nil => rfl
  | cons part rest => simp only [List.modifyHead_cons, List.flatMap_cons, same]

/-- The pending text is settled as a stretch of its own. -/
theorem items_pending (draft : Draft) (ending : Option ContentItem) :
    (Stretch.add draft.pending { kind := draft.kind?, ending }).items =
      draft.textItems ++ ending.toList := by
  have text : (Stretch.add draft.pending { kind := draft.kind?, ending }).text = draft.pending := by
    simp [Stretch.text, Stretch.add, String.join_cons]
  simp only [Stretch.items, Stretch.textItems, text]
  cases content : draft.content with
  | none => simp [Stretch.add, kind?, textItems, content]
  | some opened => simp [Stretch.add, kind?, textItems, content, String.isEmpty_iff]

private theorem collected_nil (draft : Draft) :
    draft.collected [] = draft.items ++ draft.textItems := by
  have pending := items_pending draft none
  simpa [collected, stretches] using pending

/-- An operation that ends a stretch settles the pending text. -/
theorem collected_cons_of_ends {draft : Draft} {operation : Operation} {rest : List Operation}
    {ending : Option ContentItem} {later : List Stretch}
    (ends : stretches draft.kind? (operation :: rest) = { kind := draft.kind?, ending } :: later) :
    draft.collected (operation :: rest) =
      draft.items ++ draft.textItems ++ ending.toList ++ later.flatMap (·.items) := by
  rw [collected, ends, List.modifyHead_cons, List.flatMap_cons, items_pending]
  simp only [List.append_assoc]

theorem collected_of_settled {draft : Draft} (kind : Option ContentKind) (rest : List Operation)
    (settled : draft.pending = "") (inside : draft.kind? = kind) :
    draft.items ++ (stretches kind rest).flatMap (·.items) = draft.collected rest := by
  rw [collected, settled, inside]
  cases stretches kind rest with
  | nil => rfl
  | cons first later =>
      rw [List.modifyHead_cons, List.flatMap_cons, List.flatMap_cons, Stretch.items_add_empty]

/-- A step moves what it does from what will be added to what has been collected. -/
theorem Step.collected {before after : Draft} {operation : Operation}
    (step : Step before operation after) (inMessage : operation.InMessage)
    (rest : List Operation) : before.collected (operation :: rest) = after.collected rest := by
  cases step with
  | addText text =>
      simp only [Draft.collected, stretches, List.modifyHead_modifyHead]
      exact congrArg _ (flatMap_items_congr (Stretch.items_add_add before.pending text) _)
  | addTextAt text span =>
      simp only [Draft.collected, stretches, List.modifyHead_modifyHead]
      exact congrArg _ (flatMap_items_congr (Stretch.items_add_add before.pending text) _)
  | settleText content =>
      have outside : before.kind? = none := by rw [kind?, content, Option.map_none]
      have ends : stretches before.kind? (.settleText :: rest) =
          { kind := before.kind? } :: stretches none rest := by
        rw [outside]
        rfl
      refine (collected_cons_of_ends ends).trans ?_
      refine Eq.trans ?_ (collected_of_settled none rest rfl outside)
      rw [Option.toList_none, List.append_nil]
  | settleTextInside content => simp [Draft.collected, kind?, content, stretches]
  | openContent kind span inside content =>
      refine (collected_cons_of_ends rfl).trans ?_
      refine Eq.trans ?_ (collected_of_settled (some kind) rest rfl rfl)
      rw [Option.toList_none, List.append_nil]
  | closeContent content =>
      refine (collected_cons_of_ends rfl).trans ?_
      refine Eq.trans ?_ (collected_of_settled none rest rfl rfl)
      rw [Option.toList_none, List.append_nil]
  | addItem item content =>
      refine (collected_cons_of_ends rfl).trans ?_
      refine Eq.trans ?_ (collected_of_settled before.kind? rest rfl rfl)
      rfl
  | addToolCall call inside assistant content => rfl
  | _ => cases inMessage

/-- A step inside a message neither opens nor closes one. -/
theorem Step.inMessage {before after : Draft} {operation : Operation}
    (step : Step before operation after) (inMessage : operation.InMessage) :
    after.message = before.message ∧ after.messages = before.messages ∧
      after.calls.map (·.call) = before.calls.map (·.call) ++ operation.call?.toList := by
  cases step with
  | addToolCall call => exact ⟨rfl, rfl, List.map_append⟩
  | openMessage => cases inMessage
  | closeMessage => cases inMessage
  | addMessage => cases inMessage
  | settleRoot => cases inMessage
  | settleRootInside => cases inMessage
  | takeItems => cases inMessage
  | takeCalls => cases inMessage
  | _ => exact ⟨rfl, rfl, (List.append_nil _).symm⟩

/-- What a run inside a message leaves: the items are those of the stretches. -/
theorem run_inMessage {draft final : Draft} {operations : List Operation} (nested : draft.Nested)
    (inMessage : ∀ operation ∈ operations, operation.InMessage)
    (applied : draft.applyAll operations = (.ok (), final)) :
    final.Nested ∧ final.message = draft.message ∧ final.messages = draft.messages ∧
      final.calls.map (·.call) = draft.calls.map (·.call) ++ operations.filterMap (·.call?) ∧
      final.items ++ final.textItems = draft.collected operations := by
  induction operations generalizing draft with
  | nil =>
      cases applied
      exact ⟨nested, rfl, rfl, (List.append_nil _).symm, (collected_nil final).symm⟩
  | cons operation rest ih =>
      simp only [applyAll] at applied
      split at applied
      · rename_i next done
        have step := step_of_apply nested done
        have inside := inMessage operation List.mem_cons_self
        obtain ⟨message, messages, calls⟩ := step.inMessage inside
        obtain ⟨nested', message', messages', calls', items⟩ :=
          ih (step.nested nested) (fun _ member => inMessage _ (List.mem_cons_of_mem _ member))
            applied
        refine ⟨nested', message'.trans message, messages'.trans messages, ?_, ?_⟩
        · rw [calls', calls, List.append_assoc]
          cases called : operation.call? with
          | none => rw [List.filterMap_cons_none called]; rfl
          | some call => rw [List.filterMap_cons_some called]; rfl
        · rw [items, step.collected inside]
      · cases applied

/-! ## Closed messages -/

/-- The message is made of what has been done inside it: of its stretches in order, and of the tool
calls that have been added. In a tool message that answers a call the texts are results. -/
structure Segmented (opened : OpenMessage) (operations : List Operation) (message : Message) :
    Prop where
  role : message.role = opened.role
  attributes : message.attributes = opened.attributes
  toolCalls : message.toolCalls = operations.filterMap (·.call?)
  content : (opened.role = .tool → opened.attributes.get? "id" = none) →
    message.content = contents operations
  results : ∀ id, opened.role = .tool → opened.attributes.get? "id" = some id →
    message.content = (contents operations).map
      (ContentItem.answering (jsonText id) ((opened.attributes.get? "name").map jsonText))

private theorem closedContent_of_unanswered {opened : OpenMessage}
    (unanswered : opened.role = .tool → opened.attributes.get? "id" = none)
    (items : List ContentItem) : closedContent opened items = items := by
  unfold closedContent
  split
  · rename_i id role found
    rw [unanswered role] at found
    cases found
  · rfl

theorem closedContent_of_answer {opened : OpenMessage} {id : Json} (role : opened.role = .tool)
    (found : opened.attributes.get? "id" = some id) (items : List ContentItem) :
    closedContent opened items = items.map
      (ContentItem.answering (jsonText id) ((opened.attributes.get? "name").map jsonText)) := by
  rw [closedContent, role, found]
  refine List.map_congr_left ?_
  intro item _
  cases item <;> rfl

/-- The message that an open message becomes when the operations are done inside it. -/
def messageOf (opened : OpenMessage) (operations : List Operation) : Message where
  role := opened.role
  content := closedContent opened (contents operations)
  toolCalls := operations.filterMap (·.call?)
  attributes := opened.attributes

private theorem segmented_messageOf (opened : OpenMessage) (operations : List Operation) :
    Segmented opened operations (messageOf opened operations) where
  role := rfl
  attributes := rfl
  toolCalls := rfl
  content unanswered := closedContent_of_unanswered unanswered _
  results _ role found := closedContent_of_answer role found _

/-- Where a message has just been opened, nothing is collected that could end up in it. -/
theorem opened_of_openMessage {draft after : Draft} {role : Role} {attributes : Dict Json}
    {span : Span} (nested : draft.Nested)
    (opens : draft.apply (.openMessage role attributes span) = (.ok (), after)) :
    after.message = some ⟨role, attributes, span⟩ ∧ after.content = none ∧ after.pending = "" ∧
      after.items = [] ∧ after.calls = [] := by
  have step := step_of_apply nested opens
  cases step with
  | openMessage _ _ _ outside content => exact ⟨rfl, content, rfl, rfl, rfl⟩

theorem closedMessage_of_run {start last : Draft} {opened : OpenMessage}
    {operations : List Operation} (message : start.message = some opened)
    (content : start.content = none) (pending : start.pending = "") (items : start.items = [])
    (calls : start.calls = []) (inMessage : ∀ operation ∈ operations, operation.InMessage)
    (applied : start.applyAll operations = (.ok (), last)) :
    last.Nested ∧ last.message = some opened ∧ last.messages = start.messages ∧
      last.closedMessage opened = messageOf opened operations := by
  obtain ⟨nested, message', messages, calls', items'⟩ :=
    run_inMessage (fun _ => content) inMessage applied
  refine ⟨nested, message'.trans message, messages, ?_⟩
  have inside : start.kind? = none := by rw [kind?, content, Option.map_none]
  have collected := collected_of_settled none operations pending inside
  rw [items, List.nil_append] at collected
  rw [calls, List.map_nil, List.nil_append] at calls'
  rw [closedMessage, calls', items', ← collected]
  rfl

/-- A message is made of what is done between its opening and its closing, whatever came before. -/
theorem closed_message_segmented {settings : Settings} {draft opened last closed : Draft}
    {role : Role} {attributes : Dict Json} {span : Span} {operations : List Operation}
    (reachable : Reachable settings draft)
    (opens : draft.apply (.openMessage role attributes span) = (.ok (), opened))
    (inMessage : ∀ operation ∈ operations, operation.InMessage)
    (applied : opened.applyAll operations = (.ok (), last))
    (closes : last.apply .closeMessage = (.ok (), closed)) :
    ∃ message, closed.messages = opened.messages ++ [message] ∧
      Segmented ⟨role, attributes, span⟩ operations message := by
  obtain ⟨message, content, pending, items, calls⟩ :=
    opened_of_openMessage reachable.consistent.nested opens
  obtain ⟨nested, message', messages, made⟩ :=
    closedMessage_of_run message content pending items calls inMessage applied
  have step := step_of_apply nested closes
  cases step with
  | closeMessage inside filled =>
      rw [message'] at inside
      cases inside
      refine ⟨messageOf ⟨role, attributes, span⟩ operations, ?_, segmented_messageOf _ _⟩
      rw [made, messages]

def silence : Draft :=
  ((ofSettings {}).apply (.openMessage .assistant ∅ {})).2

/-- Texts around a tool call and an image, and a content tag that only the message closes. -/
def illustration : List Operation :=
  [.addText "Look", .addTextAt " here" {}, .settleText, .addText " ",
    .addToolCall ⟨{}, ⟨"call", "clock", .object []⟩⟩, .openContent .image {}, .addText "a.png",
    .settleText, .addText "?x", .closeContent, .addItem (.text "done"), .openContent .text {},
    .addText " "]

theorem illustration_segmented :
    (∀ operation ∈ illustration, operation.InMessage) ∧
      ∃ last closed, silence.applyAll illustration = (.ok (), last) ∧
        last.apply .closeMessage = (.ok (), closed) ∧
        ∃ message, closed.messages = silence.messages ++ [message] ∧ message.role = .assistant ∧
          message.toolCalls = [⟨"call", "clock", .object []⟩] ∧
          message.content = [.text "Look here", .image "a.png?x", .text "done", .text " "] := by
  have inMessage : ∀ operation ∈ illustration, operation.InMessage := by
    simp [illustration, Operation.InMessage]
  have opens : (ofSettings {}).apply (.openMessage .assistant ∅ {}) = (.ok (), silence) := rfl
  have applied : (silence.applyAll illustration).1 = .ok () := rfl
  have closes : ((silence.applyAll illustration).2.apply .closeMessage).1 = .ok () := rfl
  have contents : contents illustration =
      [.text "Look here", .image "a.png?x", .text "done", .text " "] := rfl
  obtain ⟨message, added, segmented⟩ :=
    closed_message_segmented .new opens inMessage (Prod.ext applied rfl) (Prod.ext closes rfl)
  refine ⟨inMessage, _, _, Prod.ext applied rfl, Prod.ext closes rfl, message, added,
    segmented.role, segmented.toolCalls, ?_⟩
  rw [segmented.content nofun, contents]

end Draft

end ChatTemplate
