import ChatTemplate.Proofs.Draft.Reachable

/-!
Nothing that has been collected for one message, or outside of any, ends up in another one. Where a
message begins or ends nothing but finished messages is left of the past, and no operation looks
at those: it does the same whether there are any or not.
-/

set_option autoImplicit false

namespace ChatTemplate.Draft

/-! ## Finished messages are not looked at -/

/-- The draft with other messages before its own, and another place of its root text. -/
def behind (draft : Draft) (past : List Message) (place : Option Span) : Draft :=
  { draft with messages := past ++ draft.messages, rootTextSpan := place }

theorem Step.behind {before after : Draft} {operation : Operation}
    (step : Step before operation after) (past : List Message) (place : Option Span) :
    ∃ place', Step (before.behind past place) operation (after.behind past place') := by
  cases step with
  | openMessage role attributes span outside content accepted =>
      refine ⟨(before.behind past place).settledPlace, ?_⟩
      simp only [Draft.behind, ← List.append_assoc]
      exact .openMessage role attributes span outside content accepted
  | closeMessage inside filled =>
      refine ⟨place, ?_⟩
      simp only [Draft.behind, ← List.append_assoc]
      exact .closeMessage inside filled
  | openContent kind span inside content => exact ⟨place, .openContent kind span inside content⟩
  | closeContent content => exact ⟨place, .closeContent content⟩
  | addText text => exact ⟨place, .addText text⟩
  | addTextAt text span => exact ⟨_, .addTextAt text span⟩
  | addItem item content => exact ⟨place, .addItem item content⟩
  | addToolCall call inside assistant content =>
      exact ⟨place, .addToolCall call inside assistant content⟩
  | addMessage message outside content accepted =>
      refine ⟨(before.behind past place).settledPlace, ?_⟩
      simp only [Draft.behind, ← List.append_assoc]
      exact .addMessage message outside content accepted
  | settleText content => exact ⟨place, .settleText content⟩
  | settleTextInside content => exact ⟨place, .settleTextInside content⟩
  | settleRoot outside content accepted =>
      refine ⟨(before.behind past place).settledPlace, ?_⟩
      simp only [Draft.behind, ← List.append_assoc]
      exact .settleRoot outside content accepted
  | settleRootInside inside => exact ⟨place, .settleRootInside inside⟩
  | takeText => exact ⟨place, .takeText⟩
  | takeItems => exact ⟨place, .takeItems⟩
  | takeCalls => exact ⟨place, .takeCalls⟩

theorem Refusal.behind {before after : Draft} {operation : Operation} {cause : Cause}
    (refusal : Refusal before operation cause after) (past : List Message) (place : Option Span) :
    Refusal (before.behind past place) operation cause (after.behind past place) := by
  cases refusal with
  | nestedMessage role attributes span inside => exact .nestedMessage role attributes span inside
  | rootText settles outside content rejects collected =>
      exact .rootText settles outside content rejects collected
  | unmatchedMessageClose outside => exact .unmatchedMessageClose outside
  | emptyMessage inside items calls refused => exact .emptyMessage inside items calls refused
  | contentOutsideMessage kind span outside => exact .contentOutsideMessage kind span outside
  | nestedContent kind span inside content => exact .nestedContent kind span inside content
  | unmatchedContentClose content => exact .unmatchedContentClose content
  | nestedItem item content => exact .nestedItem item content
  | callOutsideMessage call outside => exact .callOutsideMessage call outside
  | nestedCall call inside content => exact .nestedCall call inside content
  | callOutsideAssistantMessage call inside content other =>
      exact .callOutsideAssistantMessage call inside content other
  | nestedWhole message inside => exact .nestedWhole message inside

private theorem apply_behind {draft : Draft} (nested : draft.Nested) (operation : Operation)
    (past : List Message) (place : Option Span) :
    ∃ place', (draft.behind past place).apply operation =
      ((draft.apply operation).1, (draft.apply operation).2.behind past place') := by
  rcases step_or_refusal nested operation with ⟨result, step⟩ | ⟨cause, result, refusal⟩
  · obtain ⟨place', step'⟩ := step.behind past place
    exact ⟨place', by rw [result, apply_of_step step']⟩
  · exact ⟨place, by rw [result, apply_of_refusal (refusal.behind past place)]⟩

private theorem performAll_behind {draft : Draft} (consistent : draft.Consistent)
    (operations : List Operation) (past : List Message) (place : Option Span) :
    ∃ place', (draft.behind past place).performAll operations =
      (draft.performAll operations).behind past place' := by
  induction operations generalizing draft place with
  | nil => exact ⟨place, rfl⟩
  | cons operation rest ih =>
      obtain ⟨between, applied⟩ := apply_behind consistent.nested operation past place
      obtain ⟨place', performed⟩ := ih (consistent.apply operation) between
      refine ⟨place', ?_⟩
      rw [performAll, List.foldl_cons, applied]
      exact performed

/-! ## Messages are added at the end -/

private theorem length_rootMessages (draft : Draft) : draft.rootMessages.length ≤ 1 := by
  rcases draft.rootMessages_cases with none | ⟨-, -, made⟩
  · rw [none]
    exact Nat.zero_le 1
  · rw [made]
    exact Nat.le_refl 1

/-- A step adds two messages at most, and none while a message stays open. -/
theorem Step.grows {before after : Draft} {operation : Operation}
    (step : Step before operation after) :
    ∃ made, after.messages = before.messages ++ made ∧ made.length ≤ 2 ∧
      (before.message ≠ none → after.message ≠ none → made = []) := by
  have root := before.length_rootMessages
  cases step with
  | openMessage role attributes span outside =>
      exact ⟨before.rootMessages, rfl, by omega, fun inside => absurd outside inside⟩
  | closeMessage inside filled =>
      exact ⟨[_], rfl, by simp, fun _ closed => absurd rfl closed⟩
  | addMessage message outside =>
      refine ⟨before.rootMessages ++ [message], List.append_assoc .., ?_, ?_⟩
      · rw [List.length_append, List.length_singleton]
        omega
      · exact fun inside => absurd outside inside
  | settleRoot outside =>
      exact ⟨before.rootMessages, rfl, by omega, fun inside => absurd outside inside⟩
  | _ => exact ⟨[], (List.append_nil _).symm, by simp, fun _ _ => rfl⟩

theorem Refusal.messages {before after : Draft} {operation : Operation} {cause : Cause}
    (refusal : Refusal before operation cause after) : after.messages = before.messages := by
  cases refusal <;> rfl

/-! ## Where messages begin and end -/

/-- The operation opens a message, or closes the open one, empty or not. -/
def Bounds (draft : Draft) (operation : Operation) : Prop :=
  match operation with
  | .openMessage .. => (draft.apply operation).1 = .ok ()
  | .closeMessage => draft.message ≠ none
  | _ => False

structure Cleared (draft : Draft) : Prop where
  pending : draft.pending = ""
  items : draft.items = []
  calls : draft.calls = []

private theorem cleared_of_bounds {draft : Draft} {operation : Operation} (nested : draft.Nested)
    (bounds : draft.Bounds operation) :
    (draft.apply operation).2.Cleared ∧ (draft.apply operation).2.content = none := by
  rcases step_or_refusal nested operation with ⟨-, step⟩ | ⟨cause, result, refusal⟩
  · generalize (draft.apply operation).2 = after at step ⊢
    cases step with
    | openMessage role attributes span outside content => exact ⟨⟨rfl, rfl, rfl⟩, content⟩
    | closeMessage => exact ⟨⟨rfl, rfl, rfl⟩, rfl⟩
    | _ => cases bounds
  · cases operation with
    | openMessage role attributes span =>
        rw [Bounds, result] at bounds
        cases bounds
    | closeMessage =>
        generalize (draft.apply .closeMessage).2 = after at refusal ⊢
        cases refusal with
        | rootText settles => cases settles
        | unmatchedMessageClose outside => exact absurd outside bounds
        | emptyMessage => exact ⟨⟨rfl, rfl, rfl⟩, rfl⟩
    | _ => cases bounds

/-- A new draft in which a message may be open already. -/
def starting (settings : Settings) (message : Option OpenMessage) : Draft :=
  { ofSettings settings with message }

theorem consistent_starting (settings : Settings) (message : Option OpenMessage) :
    (starting settings message).Consistent where
  nested _ := rfl
  assistant called := absurd rfl called

private theorem eq_starting_behind {settings : Settings} {draft : Draft}
    (reachable : Reachable settings draft) (cleared : draft.Cleared)
    (content : draft.content = none) :
    draft = (starting settings draft.message).behind draft.messages draft.rootTextSpan := by
  obtain ⟨rootText, allowEmptyMessages⟩ := reachable.settings
  obtain ⟨pending, items, calls⟩ := cleared
  simp only [behind, starting, ofSettings, List.append_nil, ← rootText, ← allowEmptyMessages,
    ← pending, ← items, ← calls, ← content]

/-- In every reachable draft a content tag is open inside a message only, and tool calls are
collected for an assistant message only. Every operation adds messages at the end only, two at most,
and none while a message stays open. Where a message begins or ends nothing is collected, and all
messages that follow are those that a new draft would make. -/
theorem messages_isolated {settings : Settings} {draft : Draft}
    (reachable : Reachable settings draft) :
    (draft.content ≠ none → draft.message ≠ none) ∧
      (draft.calls ≠ [] → ∃ opened, draft.message = some opened ∧ opened.role = .assistant) ∧
      ∀ operation after, (draft.apply operation).2 = after →
        (∃ made, after.messages = draft.messages ++ made ∧ made.length ≤ 2 ∧
          (draft.message ≠ none → after.message ≠ none → made = [])) ∧
        (draft.Bounds operation → after.Cleared ∧ ∀ later,
          (after.performAll later).messages =
            after.messages ++ ((starting settings after.message).performAll later).messages) := by
  have consistent := reachable.consistent
  refine ⟨fun inside outside => inside (consistent.nested outside), consistent.assistant, ?_⟩
  rintro operation _ rfl
  constructor
  · rcases step_or_refusal consistent.nested operation with ⟨-, step⟩ | ⟨_, -, refusal⟩
    · exact step.grows
    · exact ⟨[], by rw [refusal.messages, List.append_nil], by simp, fun _ _ => rfl⟩
  · intro bounds
    obtain ⟨cleared, content⟩ := cleared_of_bounds consistent.nested bounds
    refine ⟨cleared, fun later => ?_⟩
    have same := eq_starting_behind (reachable.apply operation) cleared content
    generalize (draft.apply operation).2 = after at same ⊢
    obtain ⟨_, performed⟩ := performAll_behind (consistent_starting settings after.message) later
      after.messages after.rootTextSpan
    calc (after.performAll later).messages
        = (((starting settings after.message).behind after.messages
            after.rootTextSpan).performAll later).messages := by rw [← same]
      _ = after.messages ++ ((starting settings after.message).performAll later).messages := by
          rw [performed]
          rfl

/-- An assistant message that has called a tool, with a content tag that is still open. -/
def halfSaid : Draft :=
  (ofSettings {}).performAll
    [.addText "Be kind.", .openMessage .assistant ∅ {},
      .addToolCall ⟨{}, ⟨"call", "clock", .object []⟩⟩, .openContent .text {}, .addText "It is"]

theorem halfSaid_isolated :
    Reachable {} halfSaid ∧ halfSaid.content ≠ none ∧ halfSaid.calls ≠ [] ∧
      halfSaid.Bounds .closeMessage ∧
      ∃ after, (halfSaid.apply .closeMessage).2 = after ∧ halfSaid.message ≠ none ∧
        (∃ made, after.messages = halfSaid.messages ++ made ∧ made.length ≤ 2) ∧ after.Cleared ∧
        ∀ later, (after.performAll later).messages =
          after.messages ++ ((starting {} after.message).performAll later).messages := by
  have reachable : Reachable {} halfSaid := Reachable.new.performAll _
  have inside : halfSaid.content ≠ none := nofun
  have called : halfSaid.calls ≠ [] := nofun
  have bounds : halfSaid.Bounds .closeMessage := nofun
  obtain ⟨nested, -, operations⟩ := messages_isolated reachable
  obtain ⟨⟨made, added, few, -⟩, bounded⟩ := operations .closeMessage _ rfl
  obtain ⟨cleared, later⟩ := bounded bounds
  exact ⟨reachable, inside, called, bounds, _, rfl, nested inside, ⟨made, added, few⟩, cleared,
    later⟩

end ChatTemplate.Draft
