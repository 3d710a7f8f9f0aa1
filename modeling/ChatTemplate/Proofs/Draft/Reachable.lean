import ChatTemplate.Proofs.Draft.Step

/-!
Drafts that operations of any kind lead to, whether they succeed or fail. `Refusal` is to the
operations that fail what `Step` is to those that succeed: with both, what holds of all reachable
drafts is shown by one case for each.
-/

set_option autoImplicit false

namespace ChatTemplate.Draft

/-- The drafts that any operations lead to from a new one. -/
inductive Reachable (settings : Settings) : Draft → Prop where
  | new : Reachable settings (ofSettings settings)
  | apply {draft : Draft} (operation : Operation) (reachable : Reachable settings draft) :
      Reachable settings (draft.apply operation).2

/-- Does all operations in order, also those after one that fails. -/
def performAll (draft : Draft) (operations : List Operation) : Draft :=
  operations.foldl (fun draft operation => (draft.apply operation).2) draft

theorem Reachable.performAll {settings : Settings} {draft : Draft}
    (reachable : Reachable settings draft) (operations : List Operation) :
    Reachable settings (draft.performAll operations) := by
  induction operations generalizing draft with
  | nil => exact reachable
  | cons operation rest ih => exact ih (reachable.apply operation)

/-- The operations that settle what has been collected outside of any message. -/
def Operation.SettlesRoot : Operation → Prop
  | .openMessage .. | .addMessage _ | .settleRoot => True
  | _ => False

/-- An operation that fails, its cause and what it leaves. -/
inductive Refusal : Draft → Operation → Cause → Draft → Prop where
  | nestedMessage {draft : Draft} {opened : OpenMessage} (role : Role) (attributes : Dict Json)
      (span : Span) (inside : draft.message = some opened) :
      Refusal draft (.openMessage role attributes span) .nestedMessage draft
  | rootText {draft : Draft} {operation : Operation} (settles : operation.SettlesRoot)
      (outside : draft.message = none) (content : draft.content = none)
      (rejects : draft.rootText = .reject) (collected : draft.items ++ draft.textItems ≠ []) :
      Refusal draft operation .strayTextOutsideMessage
        { draft with pending := "", items := draft.items ++ draft.textItems }
  | unmatchedMessageClose {draft : Draft} (outside : draft.message = none) :
      Refusal draft .closeMessage .unmatchedMessageClose draft
  | emptyMessage {draft : Draft} {opened : OpenMessage} (inside : draft.message = some opened)
      (items : draft.items ++ draft.textItems = []) (calls : draft.calls = [])
      (refused : draft.allowEmptyMessages = false) :
      Refusal draft .closeMessage (.emptyMessage opened.role.name)
        { draft with message := none, content := none, pending := "", items := [], calls := [] }
  | contentOutsideMessage {draft : Draft} (kind : ContentKind) (span : Span)
      (outside : draft.message = none) :
      Refusal draft (.openContent kind span) .contentOutsideMessage draft
  | nestedContent {draft : Draft} {opened : OpenMessage} {inner : OpenContent} (kind : ContentKind)
      (span : Span) (inside : draft.message = some opened) (content : draft.content = some inner) :
      Refusal draft (.openContent kind span) .nestedContent draft
  | unmatchedContentClose {draft : Draft} (content : draft.content = none) :
      Refusal draft .closeContent .unmatchedContentClose draft
  | nestedItem {draft : Draft} {inner : OpenContent} (item : ContentItem)
      (content : draft.content = some inner) : Refusal draft (.addItem item) .nestedContent draft
  | callOutsideMessage {draft : Draft} (call : PlacedCall) (outside : draft.message = none) :
      Refusal draft (.addToolCall call) .toolCallOutsideMessage draft
  | nestedCall {draft : Draft} {opened : OpenMessage} {inner : OpenContent} (call : PlacedCall)
      (inside : draft.message = some opened) (content : draft.content = some inner) :
      Refusal draft (.addToolCall call) .nestedContent draft
  | callOutsideAssistantMessage {draft : Draft} {opened : OpenMessage} (call : PlacedCall)
      (inside : draft.message = some opened) (content : draft.content = none)
      (other : opened.role ≠ .assistant) :
      Refusal draft (.addToolCall call) (.toolCallOutsideAssistantMessage opened.role.name) draft
  | nestedWhole {draft : Draft} {opened : OpenMessage} (message : Message)
      (inside : draft.message = some opened) :
      Refusal draft (.addMessage message) .nestedMessage draft

theorem settleRoot_error {draft refused : Draft} {cause : Cause} (outside : draft.message = none)
    (content : draft.content = none) (refuses : draft.settleRoot = (.error cause, refused)) :
    draft.rootText = .reject ∧ draft.items ++ draft.textItems ≠ [] ∧
      cause = .strayTextOutsideMessage ∧
      refused = { draft with pending := "", items := draft.items ++ draft.textItems } := by
  rw [settleRoot_eq outside content] at refuses
  split at refuses
  · rename_i rejected
    cases refuses
    exact ⟨rejected.1, rejected.2, rfl, rfl⟩
  · cases refuses

private theorem exists_of_inside {draft : Draft} (inside : draft.insideMessage = true) :
    ∃ opened, draft.message = some opened :=
  Option.isSome_iff_exists.mp inside

private theorem exists_of_insideContent {draft : Draft} (inside : draft.insideContent = true) :
    ∃ opened, draft.content = some opened :=
  Option.isSome_iff_exists.mp inside

theorem refusal_of_apply {draft after : Draft} {operation : Operation} {cause : Cause}
    (nested : draft.Nested) (applied : draft.apply operation = (.error cause, after)) :
    Refusal draft operation cause after := by
  cases operation with
  | openMessage role attributes span =>
      cases message : draft.message with
      | none =>
          rw [apply, openMessage_eq role attributes span message (nested message)] at applied
          split at applied
          · rename_i rejected
            cases applied
            exact .rootText trivial message (nested message) rejected.1 rejected.2
          · cases applied
      | some opened =>
          rw [apply, openMessage_inside role attributes span message] at applied
          cases applied
          exact .nestedMessage role attributes span message
  | closeMessage =>
      cases message : draft.message with
      | none =>
          rw [apply, closeMessage_outside message] at applied
          cases applied
          exact .unmatchedMessageClose message
      | some opened =>
          rw [apply, closeMessage_eq message] at applied
          split at applied
          · rename_i empty
            cases applied
            exact .emptyMessage message empty.1 empty.2.1 empty.2.2
          · cases applied
  | openContent kind span =>
      cases message : draft.message with
      | none =>
          rw [apply, openContent_outside kind span message] at applied
          cases applied
          exact .contentOutsideMessage kind span message
      | some opened =>
          cases content : draft.content with
          | none =>
              rw [apply, openContent_eq kind span message content] at applied
              cases applied
          | some inner =>
              rw [apply, openContent_nested kind span message content] at applied
              cases applied
              exact .nestedContent kind span message content
  | closeContent =>
      cases content : draft.content with
      | none =>
          rw [apply, closeContent_outside content] at applied
          cases applied
          exact .unmatchedContentClose content
      | some inner =>
          rw [apply, closeContent_eq content] at applied
          cases applied
  | addItem item =>
      simp only [apply, Draft.addItem] at applied
      split at applied
      · rename_i inside
        obtain ⟨inner, content⟩ := exists_of_insideContent inside
        cases applied
        exact .nestedItem item content
      · cases applied
  | addToolCall call =>
      cases message : draft.message with
      | none =>
          rw [apply, addToolCall_outside call message] at applied
          cases applied
          exact .callOutsideMessage call message
      | some opened =>
          rw [apply, addToolCall_eq call message] at applied
          split at applied
          · rename_i inside
            obtain ⟨inner, content⟩ := Option.ne_none_iff_exists'.mp inside
            cases applied
            exact .nestedCall call message content
          · rename_i content
            split at applied
            · cases applied
            · rename_i other
              cases applied
              exact .callOutsideAssistantMessage call message (Decidable.not_not.mp content) other
  | addMessage message =>
      simp only [apply, Draft.addMessage] at applied
      split at applied
      · rename_i inside
        obtain ⟨opened, message'⟩ := exists_of_inside inside
        cases applied
        exact .nestedWhole message message'
      · rename_i outside
        have closed := message_eq_none outside
        split at applied
        · rename_i refuses
          cases applied
          obtain ⟨rejects, collected, rfl, rfl⟩ := settleRoot_error closed (nested closed) refuses
          exact .rootText trivial closed (nested closed) rejects collected
        · cases applied
  | settleRoot =>
      cases message : draft.message with
      | none =>
          obtain ⟨rejects, collected, rfl, rfl⟩ :=
            settleRoot_error message (nested message) applied
          exact .rootText trivial message (nested message) rejects collected
      | some opened =>
          simp only [apply, Draft.settleRoot, insideMessage, message] at applied
          cases applied
  | addText text => cases applied
  | addTextAt text span => cases applied
  | settleText => cases applied
  | takeText => cases applied
  | takeItems => cases applied
  | takeCalls => cases applied

theorem apply_of_refusal {draft after : Draft} {operation : Operation} {cause : Cause}
    (refusal : Refusal draft operation cause after) :
    draft.apply operation = (.error cause, after) := by
  cases refusal with
  | nestedMessage role attributes span inside =>
      exact openMessage_inside role attributes span inside
  | rootText settles outside content rejects collected =>
      have refused := (settleRoot_eq outside content).trans (if_pos ⟨rejects, collected⟩)
      cases operation with
      | openMessage role attributes span =>
          exact (openMessage_eq role attributes span outside content).trans
            (if_pos ⟨rejects, collected⟩)
      | addMessage message =>
          simp only [apply, Draft.addMessage, insideMessage, outside, refused]
          rfl
      | settleRoot => exact refused
      | _ => cases settles
  | unmatchedMessageClose outside => exact closeMessage_outside outside
  | emptyMessage inside items calls refused =>
      exact (closeMessage_eq inside).trans (if_pos ⟨items, calls, refused⟩)
  | contentOutsideMessage kind span outside => exact openContent_outside kind span outside
  | nestedContent kind span inside content => exact openContent_nested kind span inside content
  | unmatchedContentClose content => exact closeContent_outside content
  | nestedItem item content => simp [apply, Draft.addItem, insideContent, content]
  | callOutsideMessage call outside => exact addToolCall_outside call outside
  | nestedCall call inside content => simp [apply, addToolCall_eq call inside, content]
  | callOutsideAssistantMessage call inside content other =>
      rw [apply, addToolCall_eq call inside, if_neg (not_not_intro content), if_neg other]
  | nestedWhole message inside => simp [apply, Draft.addMessage, insideMessage, inside]

/-! ## What holds of all reachable drafts -/

/-- Tags are nested, and tool calls have been collected for an assistant message only. -/
structure Consistent (draft : Draft) : Prop where
  nested : draft.Nested
  assistant : draft.calls ≠ [] → ∃ opened, draft.message = some opened ∧ opened.role = .assistant

theorem consistent_ofSettings (settings : Settings) : (ofSettings settings).Consistent where
  nested := nested_ofSettings settings
  assistant called := absurd rfl called

theorem Step.consistent {before after : Draft} {operation : Operation}
    (step : Step before operation after) (consistent : before.Consistent) : after.Consistent := by
  refine ⟨step.nested consistent.nested, ?_⟩
  cases step with
  | openMessage => exact fun called => absurd rfl called
  | closeMessage => exact fun called => absurd rfl called
  | addToolCall call inside assistant => exact fun _ => ⟨_, inside, assistant⟩
  | takeCalls => exact fun called => absurd rfl called
  | _ => exact consistent.assistant

theorem Refusal.consistent {before after : Draft} {operation : Operation} {cause : Cause}
    (refusal : Refusal before operation cause after) (consistent : before.Consistent) :
    after.Consistent := by
  cases refusal with
  | rootText settles outside content => exact ⟨fun _ => content, consistent.assistant⟩
  | emptyMessage => exact ⟨fun _ => rfl, fun called => absurd rfl called⟩
  | _ => exact consistent

/-- An operation either succeeds or fails, in one of the ways that are listed. -/
theorem step_or_refusal {draft : Draft} (nested : draft.Nested) (operation : Operation) :
    ((draft.apply operation).1 = .ok () ∧ Step draft operation (draft.apply operation).2) ∨
      ∃ cause, (draft.apply operation).1 = .error cause ∧
        Refusal draft operation cause (draft.apply operation).2 := by
  cases result : (draft.apply operation).1 with
  | ok => exact .inl ⟨rfl, step_of_apply nested (Prod.ext result rfl)⟩
  | error cause => exact .inr ⟨cause, rfl, refusal_of_apply nested (Prod.ext result rfl)⟩

theorem Consistent.apply {draft : Draft} (consistent : draft.Consistent) (operation : Operation) :
    (draft.apply operation).2.Consistent := by
  rcases step_or_refusal consistent.nested operation with ⟨-, step⟩ | ⟨_, -, refusal⟩
  · exact step.consistent consistent
  · exact refusal.consistent consistent

theorem Reachable.consistent {settings : Settings} {draft : Draft}
    (reachable : Reachable settings draft) : draft.Consistent := by
  induction reachable with
  | new => exact consistent_ofSettings settings
  | apply operation _ ih => exact ih.apply operation

theorem Step.settings {before after : Draft} {operation : Operation}
    (step : Step before operation after) :
    after.rootText = before.rootText ∧ after.allowEmptyMessages = before.allowEmptyMessages := by
  cases step <;> exact ⟨rfl, rfl⟩

theorem Refusal.settings {before after : Draft} {operation : Operation} {cause : Cause}
    (refusal : Refusal before operation cause after) :
    after.rootText = before.rootText ∧ after.allowEmptyMessages = before.allowEmptyMessages := by
  cases refusal <;> exact ⟨rfl, rfl⟩

theorem applyAll_settings {draft final : Draft} {operations : List Operation}
    (nested : draft.Nested) (applied : draft.applyAll operations = (.ok (), final)) :
    final.rootText = draft.rootText ∧ final.allowEmptyMessages = draft.allowEmptyMessages := by
  let same : List Operation → Draft → Prop := fun _ reached =>
    reached.rootText = draft.rootText ∧ reached.allowEmptyMessages = draft.allowEmptyMessages
  refine (@applyAll_induction draft (fun _ => True) same nested ⟨rfl, rfl⟩ ?_ operations final
    (fun _ _ => trivial) applied).2
  intro _ before operation after _ nested kept _ done
  obtain ⟨rootText, allowance⟩ := (step_of_apply nested done).settings
  exact ⟨rootText.trans kept.1, allowance.trans kept.2⟩

theorem Reachable.settings {settings : Settings} {draft : Draft}
    (reachable : Reachable settings draft) :
    draft.rootText = settings.rootText ∧
      draft.allowEmptyMessages = settings.allowEmptyMessages := by
  induction reachable with
  | new => exact ⟨rfl, rfl⟩
  | apply operation reachable ih =>
      rcases step_or_refusal reachable.consistent.nested operation with
        ⟨-, step⟩ | ⟨_, -, refusal⟩
      · exact ⟨step.settings.1.trans ih.1, step.settings.2.trans ih.2⟩
      · exact ⟨refusal.settings.1.trans ih.1, refusal.settings.2.trans ih.2⟩

end ChatTemplate.Draft
