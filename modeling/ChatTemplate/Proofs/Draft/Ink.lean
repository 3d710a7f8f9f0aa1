import ChatTemplate.Proofs.Draft.Step
import ChatTemplate.Proofs.Rendering

/-!
The ink of a draft: the characters it holds that are not blank, in the order in which they come out.
Only added text brings ink in, and under the policy that makes messages of root text no operation of
a walk loses any.
-/

set_option autoImplicit false

namespace ChatTemplate

/-- The characters of a text that are not blank. -/
def Text.ink (text : String) : List Char :=
  text.toList.filter fun c => !isBlankChar c

theorem Text.ink_append (first second : String) :
    ink (first ++ second) = ink first ++ ink second := by
  simp [ink, String.toList_append, List.filter_append]

theorem Text.isBlank_join (texts : List String) :
    isBlank (String.join texts) = texts.all isBlank := by
  induction texts with
  | nil => rfl
  | cons text rest ih =>
      rw [String.join_cons, List.all_cons, ← ih]
      simp only [isBlank, String.toList_append, List.all_append]

theorem Text.ink_of_isBlank {text : String} (blank : isBlank text = true) : ink text = [] := by
  simp only [isBlank, List.all_eq_true] at blank
  simpa [ink, List.filter_eq_nil_iff] using blank

theorem Text.ink_join (texts : List String) : ink (String.join texts) = texts.flatMap ink := by
  induction texts with
  | nil => rfl
  | cons text rest ih => 
    rw [String.join_cons, ink_append, ih, List.flatMap_cons]

/-- What the items of a message carry, in order. -/
def Message.payloads (message : Message) : List String :=
  message.content.map (·.payload)

namespace Draft

/-- What a draft carries, in the order in which it comes out. -/
def payloads (draft : Draft) : List String :=
  draft.messages.flatMap (·.payloads) ++ draft.items.map (·.payload) ++ [draft.pending]

/-- The characters of a draft that are not blank. -/
def ink (draft : Draft) : List Char :=
  draft.payloads.flatMap Text.ink

def Operation.text : Operation → String
  | .addText text | .addTextAt text _ => text
  | _ => ""

/-- Settling the pending text, or closing its content tag, loses blank text at most. -/
theorem ink_textItems (draft : Draft) :
    (draft.textItems.map (·.payload)).flatMap Text.ink = Text.ink draft.pending := by
  unfold textItems
  split
  · split
    · rename_i blank
      rw [Text.ink_of_isBlank blank]
      rfl
    · simp [ContentItem.payload]
  · rename_i opened content
    split
    · rename_i empty
      rw [String.isEmpty_iff.mp empty]
      rfl
    · cases kind : opened.kind with
      | text => simp [ContentItem.ofKind, ContentItem.payload]
      | image => simp [ContentItem.ofKind, ContentItem.payload]

private theorem payloads_closedContent (opened : OpenMessage) (items : List ContentItem) :
    (closedContent opened items).map (·.payload) = items.map (·.payload) := by
  unfold closedContent
  split
  · rw [List.map_map]
    refine List.map_congr_left ?_
    intro item _
    cases item with
    | text words => rfl
    | image source => rfl
    | toolResult callId toolName result isError => rfl
  · rfl

private theorem ink_rootMessages {draft : Draft} (policy : draft.rootText = .system) :
    (draft.rootMessages.flatMap (·.payloads)).flatMap Text.ink =
      (draft.items.map (·.payload)).flatMap Text.ink ++ Text.ink draft.pending := by
  rw [← ink_textItems, ← List.flatMap_append, ← List.map_append]
  simp only [rootMessages, policy]
  split
  · rename_i none
    rw [none]
    rfl
  · simp [Message.payloads]

/-- Every step of a walk adds the ink of its text and nothing else, and loses nothing. -/
theorem Step.ink {before after : Draft} {operation : Operation}
    (step : Step before operation after) (walked : operation.Walked)
    (policy : before.rootText = .system) :
    after.rootText = .system ∧ after.ink = before.ink ++ Text.ink operation.text := by
  have blankless : Text.ink "" = [] := rfl
  cases step with
  | openMessage role attributes span outside content accepted =>
      refine ⟨policy, ?_⟩
      simp [Draft.ink, payloads, Operation.text, ink_rootMessages policy, blankless]
  | @closeMessage opened inside filled =>
      refine ⟨policy, ?_⟩
      have closed : ((before.closedMessage opened).payloads).flatMap Text.ink =
          (before.items.map (·.payload)).flatMap Text.ink ++ Text.ink before.pending := by
        rw [Message.payloads, closedMessage, payloads_closedContent, List.map_append,
          List.flatMap_append, ink_textItems]
      simp [Draft.ink, payloads, Operation.text, closed, blankless]
  | openContent kind span inside content =>
      refine ⟨policy, ?_⟩
      simp [Draft.ink, payloads, Operation.text, ink_textItems, blankless]
  | closeContent content =>
      refine ⟨policy, ?_⟩
      simp [Draft.ink, payloads, Operation.text, ink_textItems, blankless]
  | addTextAt text span =>
      refine ⟨policy, ?_⟩
      simp [Draft.ink, payloads, Operation.text, Text.ink_append]
  | addToolCall call inside assistant content =>
      refine ⟨policy, ?_⟩
      simp [Draft.ink, payloads, Operation.text, blankless]
  | _ => cases walked

/-- The messages of a document have all the ink of its draft. -/
theorem ink_of_finish {draft : Draft} {messages : List Message} (policy : draft.rootText = .system)
    (finished : draft.finish = .ok messages) :
    (messages.flatMap (·.payloads)).flatMap Text.ink = draft.ink := by
  obtain ⟨_, _, rfl⟩ := finish_ok finished
  simp [ink, payloads, ink_rootMessages policy]

end Draft

end ChatTemplate
