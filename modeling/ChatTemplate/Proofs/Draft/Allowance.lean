import ChatTemplate.Proofs.Draft.Step
import ChatTemplate.Proofs.Rendering

/-!
Drafts that may leave messages empty. Whether they may shows where a message is closed without
content, and in no other operation of a walk.
-/

set_option autoImplicit false

namespace ChatTemplate.Draft

def allowing (draft : Draft) (allow : Bool) : Draft :=
  { draft with allowEmptyMessages := allow }

/-- What an operation gives, with the draft that it leaves under another setting. -/
def Outcome.allowing (outcome : Outcome) (allow : Bool) : Outcome :=
  (outcome.1, outcome.2.allowing allow)

section Allowing

variable (draft : Draft) (allow : Bool)

theorem Outcome.allowing_ite (condition : Prop) [Decidable condition] (first second : Outcome) :
    Outcome.allowing (if condition then first else second) allow =
      if condition then first.allowing allow else second.allowing allow :=
  apply_ite (Outcome.allowing · allow) condition first second

private theorem settleText_allowing :
    (draft.allowing allow).settleText = draft.settleText.allowing allow := by
  cases content : draft.content with
  | some opened => simp [settleText, insideContent, allowing, content]
  | none =>
      simp only [settleText, insideContent, allowing, content, takeText]
      by_cases blank : Text.isBlank draft.pending = true
      · simp [blank]
      · simp [blank]

private theorem settleRoot_allowing :
    (draft.allowing allow).settleRoot = Outcome.allowing draft.settleRoot allow := by
  unfold settleRoot
  rw [settleText_allowing]
  generalize draft.settleText = settled
  obtain ⟨policy, _, _, _, _, _, _, _, _⟩ := settled
  rw [Outcome.allowing_ite, Outcome.allowing_ite]
  cases policy with
  | system => rfl
  | discard => rfl
  | reject => rfl

private theorem closeContent_allowing :
    (draft.allowing allow).closeContent = Outcome.allowing draft.closeContent allow := by
  cases content : draft.content with
  | none => simp [closeContent, allowing, Outcome.allowing, content]
  | some opened =>
      simp only [closeContent, content, Outcome.allowing_ite]
      simp only [allowing, content, takeText]
      rfl

theorem origin?_allowing (cause : Cause) :
    (draft.allowing allow).origin? cause = draft.origin? cause := by
  cases cause with
  | unclosedMessage => rfl
  | unclosedContent => rfl
  | strayTextOutsideMessage => rfl
  | _ => rfl

theorem finish_allowing : (draft.allowing allow).finish = draft.finish := by
  unfold finish
  rw [settleRoot_allowing]
  obtain ⟨result, settled⟩ := draft.settleRoot
  cases result with
  | ok => rfl
  | error cause =>
      have place := origin?_allowing settled allow cause
      simp only [Outcome.allowing, place]
      rfl

private theorem openMessage_allowing (role : Role) (attributes : Dict Json) (span : Span) :
    (draft.allowing allow).openMessage role attributes span =
      Outcome.allowing (draft.openMessage role attributes span) allow := by
  unfold openMessage
  rw [settleRoot_allowing, Outcome.allowing_ite]
  obtain ⟨result, settled⟩ := draft.settleRoot
  cases result with
  | ok => rfl
  | error cause => rfl

private theorem openContent_allowing (kind : ContentKind) (span : Span) :
    (draft.allowing allow).openContent kind span =
      Outcome.allowing (draft.openContent kind span) allow := by
  unfold openContent
  rw [settleText_allowing, Outcome.allowing_ite, Outcome.allowing_ite]
  rfl

private theorem addTextAt_allowing (text : String) (span : Span) :
    (draft.allowing allow).addTextAt text span = (draft.addTextAt text span).allowing allow := by
  rw [addTextAt_eq, addTextAt_eq]
  rfl

private theorem addToolCall_allowing (call : PlacedCall) :
    (draft.allowing allow).addToolCall call = Outcome.allowing (draft.addToolCall call) allow := by
  cases message : draft.message with
  | none =>
      rw [addToolCall_outside call message]
      exact addToolCall_outside call message
  | some opened =>
      rw [addToolCall_eq call message]
      have inside' : (draft.allowing allow).message = some opened := message
      rw [addToolCall_eq call inside', Outcome.allowing_ite, Outcome.allowing_ite]
      rfl

/-- A setting that permits more shows where a message is closed without content only. -/
theorem closeMessage_allowing (wider : draft.allowEmptyMessages = true → allow = true) :
    (draft.allowing allow).closeMessage = Outcome.allowing draft.closeMessage allow ∨
      allow ≠ draft.allowEmptyMessages ∧ ∃ role after,
        draft.closeMessage = (.error (.emptyMessage role), after) := by
  cases message : draft.message with
  | none =>
      left
      rw [closeMessage_outside message]
      exact closeMessage_outside message
  | some opened =>
      have closes := closeMessage_eq message
      have closes' : (draft.allowing allow).closeMessage = _ := closeMessage_eq message
      by_cases empty : draft.items ++ draft.textItems = [] ∧ draft.calls = [] ∧
          draft.allowEmptyMessages = false
      · by_cases same : allow = draft.allowEmptyMessages
        · left
          have empty' : draft.items ++ draft.textItems = [] ∧ draft.calls = [] ∧ allow = false :=
            ⟨empty.1, empty.2.1, same.trans empty.2.2⟩
          rw [closes.trans (if_pos empty)]
          exact closes'.trans (if_pos empty')
        · exact .inr ⟨same, _, _, closes.trans (if_pos empty)⟩
      · left
        have filled : ¬ (draft.items ++ draft.textItems = [] ∧ draft.calls = [] ∧
            allow = false) := by
          rintro ⟨items, calls, refused⟩
          refine empty ⟨items, calls, ?_⟩
          cases allowed : draft.allowEmptyMessages with
          | false => rfl
          | true => exact (wider allowed).symm.trans refused
        rw [closes.trans (if_neg empty)]
        exact closes'.trans (if_neg filled)

theorem apply_allowing (wider : draft.allowEmptyMessages = true → allow = true)
    {operation : Operation} (walked : operation.Walked) :
    (draft.allowing allow).apply operation = Outcome.allowing (draft.apply operation) allow ∨
      operation = .closeMessage ∧ allow ≠ draft.allowEmptyMessages ∧ ∃ role after,
        draft.apply operation = (.error (.emptyMessage role), after) := by
  cases operation with
  | openMessage role attributes span =>
      exact .inl (openMessage_allowing draft allow role attributes span)
  | closeMessage =>
      exact (closeMessage_allowing draft allow wider).imp id fun refused => ⟨rfl, refused⟩
  | openContent kind span => exact .inl (openContent_allowing draft allow kind span)
  | closeContent => exact .inl (closeContent_allowing draft allow)
  | addTextAt text span =>
      left
      rw [apply, addTextAt_allowing]
      rfl
  | addToolCall call => exact .inl (addToolCall_allowing draft allow call)
  | _ => cases walked

theorem allowEmptyMessages_apply {operation : Operation} (walked : operation.Walked) :
    (draft.apply operation).2.allowEmptyMessages = draft.allowEmptyMessages := by
  rcases apply_allowing draft draft.allowEmptyMessages id walked with same | ⟨-, differ, -⟩
  · exact congrArg (fun outcome => outcome.2.allowEmptyMessages) same
  · exact absurd rfl differ

end Allowing

end ChatTemplate.Draft
