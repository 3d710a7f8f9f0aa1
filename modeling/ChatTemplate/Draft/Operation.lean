import ChatTemplate.Draft.Basic

/-!
The operations on a draft as data, so that what happens to a document while it is made can be
recorded and run again.
-/

set_option autoImplicit false

namespace ChatTemplate.Draft

inductive Operation where
  | openMessage (role : Role) (attributes : Dict Json) (span : Span)
  | closeMessage
  | openContent (kind : ContentKind) (span : Span)
  | closeContent
  | addText (text : String)
  | addTextAt (text : String) (span : Span)
  | addItem (item : ContentItem)
  | addToolCall (call : PlacedCall)
  | addMessage (message : Message)
  | settleText
  | settleRoot
  | takeText
  | takeItems
  | takeCalls

/-- Does an operation. What a taking operation takes out is dropped. -/
def apply (draft : Draft) : Operation → Outcome
  | .openMessage role attributes span => draft.openMessage role attributes span
  | .closeMessage => draft.closeMessage
  | .openContent kind span => draft.openContent kind span
  | .closeContent => draft.closeContent
  | .addText text => (.ok (), draft.addText text)
  | .addTextAt text span => (.ok (), draft.addTextAt text span)
  | .addItem item => draft.addItem item
  | .addToolCall call => draft.addToolCall call
  | .addMessage message => draft.addMessage message
  | .settleText => (.ok (), draft.settleText)
  | .settleRoot => draft.settleRoot
  | .takeText => (.ok (), draft.takeText.2)
  | .takeItems => (.ok (), draft.takeItems.2)
  | .takeCalls => (.ok (), draft.takeCalls.2)

/-- Does operations in order up to the first that fails. -/
def applyAll (draft : Draft) : List Operation → Outcome
  | [] => (.ok (), draft)
  | operation :: rest =>
      match draft.apply operation with
      | (.ok (), draft) => draft.applyAll rest
      | (.error cause, draft) => (.error cause, draft)

theorem applyAll_append (draft : Draft) (first second : List Operation) :
    draft.applyAll (first ++ second) =
      match draft.applyAll first with
      | (.ok (), draft) => draft.applyAll second
      | (.error cause, draft) => (.error cause, draft) := by
  induction first generalizing draft with
  | nil => rfl
  | cons operation rest ih =>
      simp only [List.cons_append, applyAll]
      split <;> simp_all

end ChatTemplate.Draft
