import ChatTemplate.Draft.Operation
import Mathlib.Data.List.Induction

/-!
What the operations on a draft do when they succeed, said once: `Step` has a constructor for each
operation, with what it demands and the draft that it leaves. A property of all drafts that a run of
operations passes through is shown for one step.
-/

set_option autoImplicit false

namespace ChatTemplate.Draft

/-- What the pending text becomes where it is settled or its content tag is closed. -/
def textItems (draft : Draft) : List ContentItem :=
  match draft.content with
  | none => if Text.isBlank draft.pending then [] else [.text draft.pending]
  | some opened => if draft.pending.isEmpty then [] else [.ofKind opened.kind draft.pending]

/-- The message that closing the open one makes. -/
def closedMessage (draft : Draft) (opened : OpenMessage) : Message where
  role := opened.role
  content := closedContent opened (draft.items ++ draft.textItems)
  toolCalls := draft.calls.map (·.call)
  attributes := opened.attributes

/-- The messages that settling makes of what has been collected outside of any message. -/
def rootMessages (draft : Draft) : List Message :=
  match draft.rootText with
  | .system =>
      if draft.items ++ draft.textItems = [] then []
      else [{ role := .system, content := draft.items ++ draft.textItems }]
  | .discard | .reject => []

/-- The place of the first text outside of any message once what has been collected is settled. -/
def settledPlace (draft : Draft) : Option Span :=
  if draft.items ++ draft.textItems = [] then draft.rootTextSpan else none

/-- The place of the first text outside of any message once a text has been added. -/
def placeWith (draft : Draft) (text : String) (span : Span) : Option Span :=
  if draft.rootTextSpan.isNone && !draft.insideMessage && !Text.isBlank text then some span
  else draft.rootTextSpan

/-- Nothing has been collected outside of any message that the settings refuse. -/
def Accepted (draft : Draft) : Prop :=
  draft.rootText = .reject → draft.items ++ draft.textItems = []

/-- An operation that succeeds, and what it leaves. -/
inductive Step : Draft → Operation → Draft → Prop where
  | openMessage {draft : Draft} (role : Role) (attributes : Dict Json) (span : Span)
      (outside : draft.message = none) (content : draft.content = none)
      (accepted : draft.Accepted) :
      Step draft (.openMessage role attributes span)
        { draft with
          message := some ⟨role, attributes, span⟩, rootTextSpan := draft.settledPlace
          pending := "", items := [], calls := []
          messages := draft.messages ++ draft.rootMessages }
  | closeMessage {draft : Draft} {opened : OpenMessage} (inside : draft.message = some opened)
      (filled : draft.items ++ draft.textItems ≠ [] ∨ draft.calls ≠ [] ∨
        draft.allowEmptyMessages = true) :
      Step draft .closeMessage
        { draft with
          message := none, content := none, pending := "", items := [], calls := []
          messages := draft.messages ++ [draft.closedMessage opened] }
  | openContent {draft : Draft} {opened : OpenMessage} (kind : ContentKind) (span : Span)
      (inside : draft.message = some opened) (content : draft.content = none) :
      Step draft (.openContent kind span)
        { draft with
          content := some ⟨kind, span⟩, pending := "", items := draft.items ++ draft.textItems }
  | closeContent {draft : Draft} {opened : OpenContent} (content : draft.content = some opened) :
      Step draft .closeContent
        { draft with content := none, pending := "", items := draft.items ++ draft.textItems }
  | addText {draft : Draft} (text : String) :
      Step draft (.addText text) { draft with pending := draft.pending ++ text }
  | addTextAt {draft : Draft} (text : String) (span : Span) :
      Step draft (.addTextAt text span)
        { draft with
          rootTextSpan := draft.placeWith text span, pending := draft.pending ++ text }
  | addItem {draft : Draft} (item : ContentItem) (content : draft.content = none) :
      Step draft (.addItem item)
        { draft with pending := "", items := draft.items ++ draft.textItems ++ [item] }
  | addToolCall {draft : Draft} {opened : OpenMessage} (call : PlacedCall)
      (inside : draft.message = some opened) (assistant : opened.role = .assistant)
      (content : draft.content = none) :
      Step draft (.addToolCall call) { draft with calls := draft.calls ++ [call] }
  | addMessage {draft : Draft} (message : Message) (outside : draft.message = none)
      (content : draft.content = none) (accepted : draft.Accepted) :
      Step draft (.addMessage message)
        { draft with
          rootTextSpan := draft.settledPlace, pending := "", items := []
          messages := draft.messages ++ draft.rootMessages ++ [message] }
  | settleText {draft : Draft} (content : draft.content = none) :
      Step draft .settleText
        { draft with pending := "", items := draft.items ++ draft.textItems }
  | settleTextInside {draft : Draft} {opened : OpenContent}
      (content : draft.content = some opened) : Step draft .settleText draft
  | settleRoot {draft : Draft} (outside : draft.message = none) (content : draft.content = none)
      (accepted : draft.Accepted) :
      Step draft .settleRoot
        { draft with
          rootTextSpan := draft.settledPlace, pending := "", items := []
          messages := draft.messages ++ draft.rootMessages }
  | settleRootInside {draft : Draft} {opened : OpenMessage}
      (inside : draft.message = some opened) : Step draft .settleRoot draft
  | takeText {draft : Draft} : Step draft .takeText { draft with pending := "" }
  | takeItems {draft : Draft} : Step draft .takeItems { draft with items := [] }
  | takeCalls {draft : Draft} : Step draft .takeCalls { draft with calls := [] }

/-! ## Operations in closed form -/

theorem rootMessages_cases (draft : Draft) :
    draft.rootMessages = [] ∨
      draft.rootText = .system ∧ draft.items ++ draft.textItems ≠ [] ∧
        draft.rootMessages = [{ role := .system, content := draft.items ++ draft.textItems }] := by
  unfold rootMessages
  split
  · rename_i policy
    split
    · exact .inl rfl
    · rename_i filled
      exact .inr ⟨policy, filled, rfl⟩
  · exact .inl rfl
  · exact .inl rfl

theorem message_eq_none {draft : Draft} (outside : ¬ draft.insideMessage = true) :
    draft.message = none := by
  simpa [insideMessage] using outside

theorem content_eq_none {draft : Draft} (outside : ¬ draft.insideContent = true) :
    draft.content = none := by
  simpa [insideContent] using outside

theorem settleText_eq {draft : Draft} (content : draft.content = none) :
    draft.settleText = { draft with pending := "", items := draft.items ++ draft.textItems } := by
  simp only [settleText, insideContent, content, Option.isSome_none, Bool.false_eq_true, if_false,
    takeText, textItems]
  split
  · simp
  · simp

theorem settleText_inside {draft : Draft} {opened : OpenContent}
    (content : draft.content = some opened) : draft.settleText = draft := by
  simp [settleText, insideContent, content]

theorem addTextAt_eq (draft : Draft) (text : String) (span : Span) :
    draft.addTextAt text span = { draft with
      rootTextSpan := draft.placeWith text span, pending := draft.pending ++ text } := by
  simp only [addTextAt, addText, placeWith]
  split
  · rfl
  · rfl

theorem closeContent_outside {draft : Draft} (content : draft.content = none) :
    draft.closeContent = (.error .unmatchedContentClose, draft) := by
  simp only [closeContent, content]

theorem closeContent_eq {draft : Draft} {opened : OpenContent}
    (content : draft.content = some opened) :
    draft.closeContent = (.ok (),
      { draft with content := none, pending := "", items := draft.items ++ draft.textItems }) := by
  simp only [closeContent, content, takeText, textItems]
  split
  · rename_i empty
    simp [String.isEmpty_iff.mp empty]
  · rename_i filled
    simpa [String.isEmpty_iff] using filled

/-- Closing a message settles its text, whether a content tag is open or not. -/
theorem closing_eq (draft : Draft) :
    (if draft.insideContent then draft.closeContent.2 else draft).settleText =
      { draft with content := none, pending := "", items := draft.items ++ draft.textItems } := by
  cases content : draft.content with
  | none =>
      have settled := settleText_eq content
      simp only [insideContent, content, Option.isSome_none, Bool.false_eq_true, if_false, settled]
  | some opened =>
      simp only [insideContent, content, Option.isSome_some, if_true, closeContent_eq content]
      rw [settleText_eq rfl]
      simp [textItems, Text.isBlank]

/-- Outside of messages the collected items and the pending text are settled by the policy. -/
theorem settleRoot_eq {draft : Draft} (outside : draft.message = none)
    (content : draft.content = none) :
    draft.settleRoot =
      if draft.rootText = .reject ∧ draft.items ++ draft.textItems ≠ [] then
        (.error .strayTextOutsideMessage,
          { draft with pending := "", items := draft.items ++ draft.textItems })
      else
        (.ok (), { draft with
          rootTextSpan := draft.settledPlace, pending := "", items := []
          messages := draft.messages ++ draft.rootMessages }) := by
  simp only [settleRoot, insideMessage, outside, Option.isSome_none, Bool.false_eq_true, if_false,
    settleText_eq content, List.isEmpty_iff, settledPlace, rootMessages]
  by_cases empty : draft.items ++ draft.textItems = []
  · simp only [empty, if_true, ne_eq, not_true_eq_false, and_false, if_false]
    cases draft.rootText with
    | system => simp
    | discard => simp
    | reject => simp
  · simp only [empty, if_false, ne_eq, not_false_eq_true, and_true]
    cases draft.rootText with
    | system => rfl
    | discard => simp
    | reject => rfl

theorem openMessage_eq {draft : Draft} (role : Role) (attributes : Dict Json) (span : Span)
    (outside : draft.message = none) (content : draft.content = none) :
    draft.openMessage role attributes span =
      if draft.rootText = .reject ∧ draft.items ++ draft.textItems ≠ [] then
        (.error .strayTextOutsideMessage,
          { draft with pending := "", items := draft.items ++ draft.textItems })
      else
        (.ok (), { draft with
          message := some ⟨role, attributes, span⟩, rootTextSpan := draft.settledPlace
          pending := "", items := [], calls := []
          messages := draft.messages ++ draft.rootMessages }) := by
  simp only [openMessage, insideMessage, outside, Option.isSome_none, Bool.false_eq_true, if_false,
    settleRoot_eq outside content]
  by_cases refused : draft.rootText = .reject ∧ draft.items ++ draft.textItems ≠ []
  · simp only [if_pos refused]
  · simp only [if_neg refused]

theorem openMessage_inside {draft : Draft} {opened : OpenMessage} (role : Role)
    (attributes : Dict Json) (span : Span) (inside : draft.message = some opened) :
    draft.openMessage role attributes span = (.error .nestedMessage, draft) := by
  simp [openMessage, insideMessage, inside]

theorem closeMessage_outside {draft : Draft} (outside : draft.message = none) :
    draft.closeMessage = (.error .unmatchedMessageClose, draft) := by
  simp only [closeMessage, outside]

theorem closeMessage_eq {draft : Draft} {opened : OpenMessage}
    (inside : draft.message = some opened) :
    draft.closeMessage =
      if draft.items ++ draft.textItems = [] ∧ draft.calls = [] ∧
          draft.allowEmptyMessages = false then
        (.error (.emptyMessage opened.role.name), { draft with
          message := none, content := none, pending := "", items := [], calls := [] })
      else
        (.ok (), { draft with
          message := none, content := none, pending := "", items := [], calls := []
          messages := draft.messages ++ [draft.closedMessage opened] }) := by
  simp only [closeMessage, inside, closing_eq, takeItems, takeCalls, Bool.and_eq_true,
    List.isEmpty_iff, Bool.not_eq_true', and_assoc]
  rfl

theorem openContent_outside {draft : Draft} (kind : ContentKind) (span : Span)
    (outside : draft.message = none) :
    draft.openContent kind span = (.error .contentOutsideMessage, draft) := by
  simp [openContent, insideMessage, outside]

theorem openContent_nested {draft : Draft} {opened : OpenMessage} {inner : OpenContent}
    (kind : ContentKind) (span : Span) (inside : draft.message = some opened)
    (content : draft.content = some inner) :
    draft.openContent kind span = (.error .nestedContent, draft) := by
  simp [openContent, insideMessage, insideContent, inside, content]

theorem openContent_eq {draft : Draft} {opened : OpenMessage} (kind : ContentKind) (span : Span)
    (inside : draft.message = some opened) (content : draft.content = none) :
    draft.openContent kind span =
      (.ok (), { draft with
        content := some ⟨kind, span⟩, pending := "", items := draft.items ++ draft.textItems }) := by
  simp only [openContent, insideMessage, insideContent, inside, content, settleText_eq content]
  rfl

theorem addToolCall_outside {draft : Draft} (call : PlacedCall) (outside : draft.message = none) :
    draft.addToolCall call = (.error .toolCallOutsideMessage, draft) := by
  simp [addToolCall, currentRole?, outside]

theorem addToolCall_eq {draft : Draft} {opened : OpenMessage} (call : PlacedCall)
    (inside : draft.message = some opened) :
    draft.addToolCall call =
      if draft.content ≠ none then (.error .nestedContent, draft)
      else if opened.role = .assistant then
        (.ok (), { draft with calls := draft.calls ++ [call] })
      else (.error (.toolCallOutsideAssistantMessage opened.role.name), draft) := by
  simp only [addToolCall, currentRole?, inside, Option.map_some, insideContent,
    Option.isSome_iff_ne_none]

theorem settleRoot_ok {draft settled : Draft} (outside : draft.message = none)
    (content : draft.content = none) (settles : draft.settleRoot = (.ok (), settled)) :
    draft.Accepted ∧ settled = { draft with
      rootTextSpan := draft.settledPlace, pending := "", items := []
      messages := draft.messages ++ draft.rootMessages } := by
  rw [settleRoot_eq outside content] at settles
  split at settles
  · cases settles
  · rename_i accepted
    cases settles
    refine ⟨fun rejected => ?_, rfl⟩
    exact Decidable.byContradiction fun some => accepted ⟨rejected, some⟩

theorem finish_eq {draft : Draft} (outside : draft.message = none)
    (content : draft.content = none) :
    draft.finish =
      if draft.rootText = .reject ∧ draft.items ++ draft.textItems ≠ [] then
        .error ⟨.strayTextOutsideMessage, draft.rootTextSpan⟩
      else .ok (draft.messages ++ draft.rootMessages) := by
  simp only [finish, insideMessage, insideContent, outside, content, Option.isSome_none,
    Bool.false_eq_true, if_false, settleRoot_eq outside content]
  by_cases refused : draft.rootText = .reject ∧ draft.items ++ draft.textItems ≠ []
  · simp only [if_pos refused, origin?]
  · simp only [if_neg refused]

/-- A document that ends has no open tag, and its end settles what is left. -/
theorem finish_ok {draft : Draft} {messages : List Message}
    (finished : draft.finish = .ok messages) :
    draft.message = none ∧ draft.content = none ∧
      messages = draft.messages ++ draft.rootMessages := by
  by_cases inside : draft.insideContent = true
  · rw [finish, if_pos inside] at finished
    cases finished
  · have content := content_eq_none inside
    by_cases opened : draft.insideMessage = true
    · rw [finish, if_neg inside, if_pos opened] at finished
      cases finished
    · have outside := message_eq_none opened
      rw [finish_eq outside content] at finished
      split at finished
      · cases finished
      · cases finished
        exact ⟨outside, content, rfl⟩

/-! ## Runs -/

/-- A content tag is open inside a message only. -/
def Nested (draft : Draft) : Prop :=
  draft.message = none → draft.content = none

theorem nested_ofSettings (settings : Settings) : (ofSettings settings).Nested :=
  fun _ => rfl

theorem Step.nested {before after : Draft} {operation : Operation}
    (step : Step before operation after) (nested : before.Nested) : after.Nested := by
  cases step with
  | openMessage role attributes span outside content accepted => exact fun _ => content
  | closeMessage inside filled => exact fun _ => rfl
  | openContent kind span inside content =>
      intro closed
      rw [inside] at closed
      cases closed
  | closeContent content => exact fun _ => rfl
  | addText text => exact nested
  | addTextAt text span => exact nested
  | addItem item content => exact nested
  | addToolCall call inside assistant content => exact nested
  | addMessage message outside content accepted => exact nested
  | settleText content => exact nested
  | settleTextInside content => exact nested
  | settleRoot outside content accepted => exact nested
  | settleRootInside inside => exact nested
  | takeText => exact nested
  | takeItems => exact nested
  | takeCalls => exact nested

theorem step_of_apply {draft after : Draft} {operation : Operation} (nested : draft.Nested)
    (applied : draft.apply operation = (.ok (), after)) : Step draft operation after := by
  cases operation with
  | openMessage role attributes span =>
      cases message : draft.message with
      | none =>
          rw [apply, openMessage_eq role attributes span message (nested message)] at applied
          split at applied
          · cases applied
          · rename_i accepted
            cases applied
            refine .openMessage role attributes span message (nested message) fun rejected => ?_
            exact Decidable.byContradiction fun some => accepted ⟨rejected, some⟩
      | some opened =>
          rw [apply, openMessage_inside role attributes span message] at applied
          cases applied
  | closeMessage =>
      cases message : draft.message with
      | none =>
          rw [apply, closeMessage_outside message] at applied
          cases applied
      | some opened =>
          rw [apply, closeMessage_eq message] at applied
          split at applied
          · cases applied
          · rename_i filled
            cases applied
            refine .closeMessage message ?_
            simpa only [not_and_or, Bool.not_eq_false] using filled
  | openContent kind span =>
      cases message : draft.message with
      | none =>
          rw [apply, openContent_outside kind span message] at applied
          cases applied
      | some opened =>
          cases content : draft.content with
          | none =>
              rw [apply, openContent_eq kind span message content] at applied
              cases applied
              exact .openContent kind span message content
          | some opened =>
              rw [apply, openContent_nested kind span message content] at applied
              cases applied
  | closeContent =>
      cases content : draft.content with
      | none =>
          rw [apply, closeContent_outside content] at applied
          cases applied
      | some opened =>
          rw [apply, closeContent_eq content] at applied
          cases applied
          exact .closeContent content
  | addText text =>
      cases applied
      exact .addText text
  | addTextAt text span =>
      rw [apply, addTextAt_eq] at applied
      cases applied
      exact .addTextAt text span
  | addItem item =>
      simp only [apply, Draft.addItem] at applied
      split at applied
      · cases applied
      · rename_i outside
        have content := content_eq_none outside
        rw [settleText_eq content] at applied
        cases applied
        exact .addItem item content
  | addToolCall call =>
      cases message : draft.message with
      | none =>
          rw [apply, addToolCall_outside call message] at applied
          cases applied
      | some opened =>
          rw [apply, addToolCall_eq call message] at applied
          split at applied
          · cases applied
          · rename_i content
            split at applied
            · rename_i assistant
              cases applied
              exact .addToolCall call message assistant (Decidable.not_not.mp content)
            · cases applied
  | addMessage message =>
      simp only [apply, Draft.addMessage] at applied
      split at applied
      · cases applied
      · rename_i outside
        split at applied
        · cases applied
        · rename_i settles
          cases applied
          have closed := message_eq_none outside
          obtain ⟨accepted, rfl⟩ := settleRoot_ok closed (nested closed) settles
          exact .addMessage message closed (nested closed) accepted
  | settleText =>
      cases content : draft.content with
      | none =>
          rw [apply, settleText_eq content] at applied
          cases applied
          exact .settleText content
      | some opened =>
          rw [apply, settleText_inside content] at applied
          cases applied
          exact .settleTextInside content
  | settleRoot =>
      cases message : draft.message with
      | none =>
          obtain ⟨accepted, rfl⟩ := settleRoot_ok message (nested message) applied
          exact .settleRoot message (nested message) accepted
      | some opened =>
          simp only [apply, Draft.settleRoot, insideMessage, message] at applied
          cases applied
          exact .settleRootInside message
  | takeText =>
      cases applied
      exact .takeText
  | takeItems =>
      cases applied
      exact .takeItems
  | takeCalls =>
      cases applied
      exact .takeCalls

private theorem not_rejected {draft : Draft} (accepted : draft.Accepted) :
    ¬ (draft.rootText = .reject ∧ draft.items ++ draft.textItems ≠ []) :=
  fun rejected => rejected.2 (accepted rejected.1)

/-- A step says when an operation succeeds, and not only what it then does. -/
theorem apply_of_step {draft after : Draft} {operation : Operation}
    (step : Step draft operation after) : draft.apply operation = (.ok (), after) := by
  cases step with
  | openMessage role attributes span outside content accepted =>
      exact (openMessage_eq role attributes span outside content).trans
        (if_neg (not_rejected accepted))
  | closeMessage inside filled =>
      refine (closeMessage_eq inside).trans (if_neg ?_)
      rintro ⟨items, calls, refused⟩
      rcases filled with some | called | allowed
      · exact some items
      · exact called calls
      · rw [refused] at allowed
        cases allowed
  | openContent kind span inside content => exact openContent_eq kind span inside content
  | closeContent content => exact closeContent_eq content
  | addText text => rfl
  | addTextAt text span => rw [apply, addTextAt_eq]
  | addItem item content =>
      simp only [apply, Draft.addItem, insideContent, content, settleText_eq content]
      rfl
  | addToolCall call inside assistant content =>
      rw [apply, addToolCall_eq call inside, if_neg (not_not_intro content), if_pos assistant]
  | addMessage message outside content accepted =>
      simp only [apply, Draft.addMessage, insideMessage, outside, settleRoot_eq outside content,
        if_neg (not_rejected accepted)]
      rfl
  | settleText content => rw [apply, settleText_eq content]
  | settleTextInside content => rw [apply, settleText_inside content]
  | settleRoot outside content accepted =>
      exact (settleRoot_eq outside content).trans (if_neg (not_rejected accepted))
  | settleRootInside inside =>
      simp only [apply, Draft.settleRoot, insideMessage, inside]
      rfl
  | takeText => rfl
  | takeItems => rfl
  | takeCalls => rfl

theorem applyAll_cons {draft next : Draft} {operation : Operation}
    (step : Step draft operation next) (rest : List Operation) :
    draft.applyAll (operation :: rest) = next.applyAll rest := by
  simp only [applyAll, apply_of_step step]

theorem applyAll_append_of_ok {draft next : Draft} {first : List Operation}
    (applied : draft.applyAll first = (.ok (), next)) (second : List Operation) :
    draft.applyAll (first ++ second) = next.applyAll second := by
  rw [applyAll_append, applied]

theorem applyAll_singleton (draft : Draft) (operation : Operation) :
    draft.applyAll [operation] = draft.apply operation := by
  unfold applyAll
  split
  · rename_i applied
    exact applied.symm
  · rename_i applied
    exact applied.symm

theorem applyAll_append_ok {draft after : Draft} {first second : List Operation}
    (applied : draft.applyAll (first ++ second) = (.ok (), after)) :
    ∃ middle, draft.applyAll first = (.ok (), middle) ∧
      middle.applyAll second = (.ok (), after) := by
  rw [applyAll_append] at applied
  split at applied
  · rename_i middle reached
    exact ⟨middle, reached, applied⟩
  · cases applied

/-- What holds at the start of a run and is kept by each of its steps holds at its end. -/
theorem applyAll_induction {start : Draft} {allowed : Operation → Prop}
    {invariant : List Operation → Draft → Prop} (nested : start.Nested) (first : invariant [] start)
    (step : ∀ operations draft operation after, start.applyAll operations = (.ok (), draft) →
      draft.Nested → invariant operations draft → allowed operation →
        draft.apply operation = (.ok (), after) → invariant (operations ++ [operation]) after)
    {operations : List Operation} {draft : Draft}
    (all : ∀ operation ∈ operations, allowed operation)
    (applied : start.applyAll operations = (.ok (), draft)) :
    draft.Nested ∧ invariant operations draft := by
  -- The invariant speaks about the run so far, so the last operation is taken off, not the first.
  induction operations using List.reverseRecOn generalizing draft with
  | nil =>
      cases applied
      exact ⟨nested, first⟩
  | append_singleton operations operation ih =>
      rw [applyAll_append] at applied
      split at applied
      · rename_i before reached
        obtain ⟨nestedBefore, held⟩ := ih (fun earlier member => all earlier (by simp [member]))
          reached
        simp only [applyAll] at applied
        split at applied
        · rename_i done
          cases applied
          refine ⟨(step_of_apply nestedBefore done).nested nestedBefore, ?_⟩
          exact step operations before operation _ reached nestedBefore held
            (all operation (by simp)) done
        · cases applied
      · cases applied

end ChatTemplate.Draft
