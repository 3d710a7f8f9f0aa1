import ChatTemplate.Proofs.Draft.Step
import ChatTemplate.Proofs.Rendering

/-!
Drafts under different policies for root text. The policy shows in the messages only, and in the
refusal of root text: otherwise the operations of a walk do the same to both drafts.
-/

set_option autoImplicit false

namespace ChatTemplate.Draft

/-- A draft under another policy, with what that has made of root text. -/
def under (draft : Draft) (policy : RootText) (messages : List Message) : Draft :=
  { draft with rootText := policy, messages }

/-- Two drafts that differ only in their policies for root text and in what those have made of it.
Where the second policy refuses root text there is none in either. -/
structure Alike (policy policy' : RootText) (draft draft' : Draft) : Prop where
  nested : draft.Nested
  policy : draft.rootText = policy
  same : draft' = draft.under policy' draft'.messages
  messages : policy' = .reject → draft'.messages = draft.messages

theorem alike_ofSettings (settings : Settings) (policy policy' : RootText) :
    Alike policy policy' (ofSettings { settings with rootText := policy })
      (ofSettings { settings with rootText := policy' }) where
  nested := nested_ofSettings _
  policy := rfl
  same := rfl
  messages _ := rfl

section Alike

variable {policy policy' : RootText} {draft draft' : Draft}

theorem Alike.origin? (alike : Alike policy policy' draft draft') (cause : Cause) :
    draft'.origin? cause = draft.origin? cause := by
  rw [alike.same]
  rfl

/-- A policy that refuses root text and meets none makes of it what any other policy makes. -/
theorem rootMessages_of_accepted {messages : List Message}
    (accepted : ¬ (policy' = .reject ∧ draft.items ++ draft.textItems ≠ []))
    (same : policy' = .reject → messages = draft.messages) (rejects : policy' = .reject) :
    messages ++ (draft.under policy' messages).rootMessages =
      draft.messages ++ draft.rootMessages := by
  have empty : draft.items ++ draft.textItems = [] :=
    Decidable.byContradiction fun some => accepted ⟨rejects, some⟩
  have none : draft.rootMessages = [] := by
    rcases draft.rootMessages_cases with none | ⟨_, filled, _⟩
    · exact none
    · exact absurd empty filled
  rw [none, same rejects, rejects]
  rfl

/-- An operation of a walk does the same to both drafts, unless the second policy refuses root
text. -/
theorem Alike.apply (alike : Alike policy policy' draft draft') (tolerant : policy ≠ .reject)
    (operation : Operation) (walked : operation.Walked) :
    (policy' = .reject ∧ (draft'.apply operation).1 = .error .strayTextOutsideMessage) ∨
      ((draft'.apply operation).1 = (draft.apply operation).1 ∧
        Alike policy policy' (draft.apply operation).2 (draft'.apply operation).2) := by
  obtain ⟨nested, rfl, same, messages⟩ := alike
  generalize draft'.messages = kept at same messages
  subst same
  cases operation with
  | openMessage role attributes span =>
      cases message : draft.message with
      | none =>
          have message' : (draft.under policy' kept).message = none := message
          have content := nested message
          have opens := openMessage_eq role attributes span message content
          have opens' := openMessage_eq role attributes span message' content
          rw [if_neg fun rejects => tolerant rejects.1] at opens
          -- The only operation of a walk that settles root text, and so the only one to refuse it.
          by_cases refused : policy' = .reject ∧ draft.items ++ draft.textItems ≠ []
          · left
            rw [Draft.apply, opens'.trans (if_pos refused)]
            exact ⟨refused.1, rfl⟩
          · right
            rw [Draft.apply, Draft.apply, opens, opens'.trans (if_neg refused)]
            exact ⟨rfl, fun _ => content, rfl, rfl, rootMessages_of_accepted refused messages⟩
      | some opened =>
          have message' : (draft.under policy' kept).message = some opened := message
          right
          rw [Draft.apply, Draft.apply, openMessage_inside _ _ _ message,
            openMessage_inside _ _ _ message']
          exact ⟨rfl, nested, rfl, rfl, messages⟩
  | closeMessage =>
      right
      cases message : draft.message with
      | none =>
          have message' : (draft.under policy' kept).message = none := message
          rw [Draft.apply, Draft.apply, closeMessage_outside message, closeMessage_outside message']
          exact ⟨rfl, nested, rfl, rfl, messages⟩
      | some opened =>
          have message' : (draft.under policy' kept).message = some opened := message
          have closes := closeMessage_eq message
          have closes' := closeMessage_eq message'
          by_cases empty : draft.items ++ draft.textItems = [] ∧ draft.calls = [] ∧
              draft.allowEmptyMessages = false
          · rw [Draft.apply, Draft.apply, closes.trans (if_pos empty), closes'.trans (if_pos empty)]
            exact ⟨rfl, fun _ => rfl, rfl, rfl, messages⟩
          · rw [Draft.apply, Draft.apply, closes.trans (if_neg empty), closes'.trans (if_neg empty)]
            refine ⟨rfl, fun _ => rfl, rfl, rfl, fun rejects => ?_⟩
            exact congrArg (· ++ [draft.closedMessage opened]) (messages rejects)
  | openContent kind span =>
      right
      cases message : draft.message with
      | none =>
          have message' : (draft.under policy' kept).message = none := message
          rw [Draft.apply, Draft.apply, openContent_outside _ _ message,
            openContent_outside _ _ message']
          exact ⟨rfl, nested, rfl, rfl, messages⟩
      | some opened =>
          have message' : (draft.under policy' kept).message = some opened := message
          cases content : draft.content with
          | none =>
              have content' : (draft.under policy' kept).content = none := content
              rw [Draft.apply, Draft.apply, openContent_eq _ _ message content,
                openContent_eq _ _ message' content']
              refine ⟨rfl, fun closed => ?_, rfl, rfl, messages⟩
              rw [message] at closed
              cases closed
          | some inner =>
              have content' : (draft.under policy' kept).content = some inner := content
              rw [Draft.apply, Draft.apply, openContent_nested _ _ message content,
                openContent_nested _ _ message' content']
              exact ⟨rfl, nested, rfl, rfl, messages⟩
  | closeContent =>
      right
      cases content : draft.content with
      | none =>
          have content' : (draft.under policy' kept).content = none := content
          rw [Draft.apply, Draft.apply, closeContent_outside content, closeContent_outside content']
          exact ⟨rfl, nested, rfl, rfl, messages⟩
      | some opened =>
          have content' : (draft.under policy' kept).content = some opened := content
          rw [Draft.apply, Draft.apply, closeContent_eq content, closeContent_eq content']
          exact ⟨rfl, fun _ => rfl, rfl, rfl, messages⟩
  | addTextAt text span =>
      right
      rw [Draft.apply, Draft.apply, addTextAt_eq, addTextAt_eq]
      exact ⟨rfl, nested, rfl, rfl, messages⟩
  | addToolCall call =>
      right
      cases message : draft.message with
      | none =>
          have message' : (draft.under policy' kept).message = none := message
          rw [Draft.apply, Draft.apply, addToolCall_outside _ message, addToolCall_outside _ message']
          exact ⟨rfl, nested, rfl, rfl, messages⟩
      | some opened =>
          have message' : (draft.under policy' kept).message = some opened := message
          have adds := addToolCall_eq call message
          have adds' := addToolCall_eq call message'
          by_cases inner : draft.content ≠ none
          · rw [Draft.apply, Draft.apply, adds.trans (if_pos inner), adds'.trans (if_pos inner)]
            exact ⟨rfl, nested, rfl, rfl, messages⟩
          · have adds := adds.trans (if_neg inner)
            have adds' := adds'.trans (if_neg inner)
            by_cases assistant : opened.role = .assistant
            · rw [Draft.apply, Draft.apply, adds.trans (if_pos assistant),
                adds'.trans (if_pos assistant)]
              exact ⟨rfl, nested, rfl, rfl, messages⟩
            · rw [Draft.apply, Draft.apply, adds.trans (if_neg assistant),
                adds'.trans (if_neg assistant)]
              exact ⟨rfl, nested, rfl, rfl, messages⟩
  | _ => cases walked

/-- Both documents end in the same way, unless the second policy refuses root text. -/
theorem Alike.finish (alike : Alike policy policy' draft draft') (tolerant : policy ≠ .reject) :
    (policy' = .reject ∧
        ∃ place, draft'.finish = .error ⟨.strayTextOutsideMessage, place⟩) ∨
      ((∀ failure, draft.finish = .error failure ↔ draft'.finish = .error failure) ∧
        (policy' = .reject → draft.finish = draft'.finish)) := by
  obtain ⟨nested, rfl, same, messages⟩ := alike
  generalize draft'.messages = kept at same messages
  subst same
  by_cases inside : draft.insideContent = true
  · right
    have inside' : (draft.under policy' kept).insideContent = true := inside
    rw [Draft.finish, Draft.finish, if_pos inside, if_pos inside']
    exact ⟨fun _ => Iff.rfl, fun _ => rfl⟩
  · by_cases opened : draft.insideMessage = true
    · right
      have inside' : ¬ (draft.under policy' kept).insideContent = true := inside
      have opened' : (draft.under policy' kept).insideMessage = true := opened
      rw [Draft.finish, Draft.finish, if_neg inside, if_neg inside', if_pos opened, if_pos opened']
      exact ⟨fun _ => Iff.rfl, fun _ => rfl⟩
    · have message := message_eq_none opened
      have content := content_eq_none inside
      have message' : (draft.under policy' kept).message = none := message
      have content' : (draft.under policy' kept).content = none := content
      have ends := (finish_eq message content).trans (if_neg fun rejects => tolerant rejects.1)
      have ends' := finish_eq message' content'
      by_cases refused : policy' = .reject ∧ draft.items ++ draft.textItems ≠ []
      · exact .inl ⟨refused.1, _, ends'.trans (if_pos refused)⟩
      · right
        rw [ends, ends'.trans (if_neg refused)]
        refine ⟨fun failure => ⟨?_, ?_⟩, fun rejects => ?_⟩
        · intro failed
          cases failed
        · intro failed
          cases failed
        · exact congrArg Except.ok (rootMessages_of_accepted refused messages rejects).symm

end Alike

end ChatTemplate.Draft
