import ChatTemplate.Proofs.Draft.Policy
import Mathlib.Data.List.Chain

/-!
The outline of a run: which of its messages are made of root text and which come from message tags.
Between two messages of root text there is always one that comes from a tag, and a policy that
discards root text leaves all others as they are.
-/

set_option autoImplicit false

namespace ChatTemplate

structure Message.OfRootText (message : Message) : Prop where
  role : message.role = .system
  attributes : message.attributes = ∅
  toolCalls : message.toolCalls = []
  content : ∃ words, message.content = [.text words] ∧ Text.isBlank words = false

namespace Draft

/-- Where a message comes from: a message tag, or text outside of any. -/
inductive Origin where
  | tag
  | rootText
  deriving DecidableEq

/-- Where the messages come from that an operation of a walk makes. Only the closing of a message
tag makes the message of that tag. -/
def Operation.origin : Operation → Origin
  | .closeMessage => .tag
  | _ => .rootText

def added (draft : Draft) (operation : Operation) : List (Origin × Message) :=
  ((draft.apply operation).2.messages.drop draft.messages.length).map fun message =>
    (operation.origin, message)

/-- The messages that a run adds to a draft, in order. -/
def outline : Draft → List Operation → List (Origin × Message)
  | _, [] => []
  | draft, operation :: rest =>
      draft.added operation ++ outline (draft.apply operation).2 rest

theorem outline_append {start draft : Draft} {first : List Operation}
    (reached : start.applyAll first = (.ok (), draft)) (second : List Operation) :
    start.outline (first ++ second) = start.outline first ++ draft.outline second := by
  induction first generalizing start with
  | nil =>
      cases reached
      rfl
  | cons operation rest ih =>
      simp only [applyAll] at reached
      split at reached
      · rename_i after done
        simp only [List.cons_append, outline, done, ih reached, List.append_assoc]
      · cases reached

private theorem added_eq {draft after : Draft} {operation : Operation} {made : List Message}
    (done : draft.apply operation = (.ok (), after))
    (messages : after.messages = draft.messages ++ made) :
    draft.added operation = made.map fun message => (operation.origin, message) := by
  rw [added, done, messages, List.drop_left]

private theorem added_nil {draft after : Draft} {operation : Operation}
    (done : draft.apply operation = (.ok (), after)) (messages : after.messages = draft.messages) :
    draft.added operation = [] := by
  rw [added, done, messages, List.drop_length]
  rfl

/-- Two messages one of which at least comes from a tag. -/
def Apart (first second : Origin × Message) : Prop :=
  first.1 = .rootText → second.1 ≠ .rootText

/-- The draft that the operations of a walk lead to has the messages of the outline. -/
structure Outlined (start : Draft) (operations : List Operation) (draft : Draft) : Prop where
  policy : draft.rootText = start.rootText
  clear : draft.message = none → draft.items = []
  messages : draft.messages = (start.outline operations).map (·.2)
  ofRootText : ∀ message, (.rootText, message) ∈ start.outline operations → message.OfRootText
  apart : (start.outline operations).IsChain Apart
  /-- After a message of root text the next message is open. -/
  last : ∀ entry ∈ (start.outline operations).getLast?, entry.1 = .rootText →
    draft.message ≠ none

theorem outlined_ofSettings (settings : Settings) :
    Outlined (ofSettings settings) [] (ofSettings settings) where
  policy := rfl
  clear _ := rfl
  messages := rfl
  ofRootText _ member := nomatch member
  apart := .nil
  last _ member := nomatch member

section Outlined

variable {start before after : Draft} {operations : List Operation} {operation : Operation}

private theorem ofRootText_of_mem_rootMessages (clear : before.items = [])
    (content : before.content = none) {message : Message} (member : message ∈ before.rootMessages) :
    message.OfRootText := by
  rcases before.rootMessages_cases with none | ⟨_, filled, made⟩
  · rw [none] at member
    cases member
  · rw [made] at member
    obtain rfl := List.mem_singleton.mp member
    refine ⟨rfl, rfl, rfl, before.pending, ?_⟩
    simp only [clear, textItems, content, List.nil_append] at filled ⊢
    by_cases blank : Text.isBlank before.pending = true
    · rw [if_pos blank] at filled
      exact absurd rfl filled
    · rw [if_neg blank]
      exact ⟨rfl, Bool.eq_false_iff.mpr blank⟩

/-- Settling outside of any message goes on with the outline. -/
theorem Outlined.settled (outlined : Outlined start operations before)
    (outside : before.message = none) (content : before.content = none) :
    (∀ message,
        (.rootText, message) ∈
          start.outline operations ++ before.rootMessages.map (Origin.rootText, ·) →
        message.OfRootText) ∧
      (start.outline operations ++ before.rootMessages.map (Origin.rootText, ·)).IsChain Apart := by
  constructor
  · intro message member
    rcases List.mem_append.mp member with old | new
    · exact outlined.ofRootText message old
    · obtain ⟨made, among, same⟩ := List.mem_map.mp new
      cases same
      exact ofRootText_of_mem_rootMessages (outlined.clear outside) content among
  · refine outlined.apart.append ?_ ?_
    · rcases before.rootMessages_cases with none | ⟨_, _, made⟩
      · rw [none]
        exact .nil
      · rw [made]
        exact .singleton _
    · -- The last message so far is not of root text: after one of those a message is open.
      intro last isLast next _ root
      exact absurd outside (outlined.last last isLast root)

/-- A step that makes no message and neither opens nor closes one. -/
theorem Outlined.quiet (outlined : Outlined start operations before)
    (reached : start.applyAll operations = (.ok (), before))
    (done : before.apply operation = (.ok (), after)) (policy : after.rootText = before.rootText)
    (messages : after.messages = before.messages) (message : after.message = before.message)
    (clear : after.message = none → after.items = []) :
    Outlined start (operations ++ [operation]) after := by
  have made := added_nil done messages
  have same : start.outline (operations ++ [operation]) = start.outline operations := by
    rw [outline_append reached, outline, made, outline, List.append_nil, List.append_nil]
  constructor
  · exact policy.trans outlined.policy
  · exact clear
  · rw [same, messages]
    exact outlined.messages
  · rw [same]
    exact outlined.ofRootText
  · rw [same]
    exact outlined.apart
  · rw [same, message]
    exact outlined.last

theorem Outlined.step (outlined : Outlined start operations before)
    (reached : start.applyAll operations = (.ok (), before)) (nested : before.Nested)
    (walked : operation.Walked) (done : before.apply operation = (.ok (), after)) :
    Outlined start (operations ++ [operation]) after := by
  have goesOn : start.outline (operations ++ [operation]) =
      start.outline operations ++ before.added operation := by
    rw [outline_append reached, outline, outline, List.append_nil]
  have step := step_of_apply nested done
  cases step with
  | openMessage role attributes span outside content accepted =>
      rw [added_eq done rfl] at goesOn
      obtain ⟨ofRootText, apart⟩ := outlined.settled outside content
      constructor
      · exact outlined.policy
      · exact fun _ => rfl
      · rw [goesOn, List.map_append, ← outlined.messages]
        simp [Function.comp_def]
      · rw [goesOn]
        exact ofRootText
      · rw [goesOn]
        exact apart
      · exact fun _ _ _ closed => nomatch closed
  | closeMessage inside filled =>
      rw [added_eq done rfl] at goesOn
      constructor
      · exact outlined.policy
      · exact fun _ => rfl
      · rw [goesOn, List.map_append, ← outlined.messages]
        simp
      · intro message member
        rw [goesOn] at member
        rcases List.mem_append.mp member with old | new
        · exact outlined.ofRootText message old
        · cases List.mem_singleton.mp new
      · rw [goesOn]
        refine outlined.apart.append (.singleton _) ?_
        rintro _ _ _ ⟨⟩ _ ⟨⟩
      · intro last isLast root
        rw [goesOn, List.map_singleton, List.getLast?_concat] at isLast
        cases isLast
        cases root
  | openContent kind span inside content =>
      refine outlined.quiet reached done rfl rfl rfl fun closed => ?_
      rw [inside] at closed
      cases closed
  | closeContent content =>
      refine outlined.quiet reached done rfl rfl rfl fun closed => ?_
      rw [nested closed] at content
      cases content
  | addTextAt text span => exact outlined.quiet reached done rfl rfl rfl outlined.clear
  | addToolCall call inside assistant content =>
      exact outlined.quiet reached done rfl rfl rfl outlined.clear
  | _ => cases walked

theorem outline_end (reached : start.applyAll operations = (.ok (), before))
    (outside : before.message = none) (content : before.content = none)
    (tolerant : before.rootText ≠ .reject) :
    start.outline (operations ++ [.settleRoot]) =
      start.outline operations ++ before.rootMessages.map (Origin.rootText, ·) := by
  have done : before.apply .settleRoot = (.ok (), _) :=
    (settleRoot_eq outside content).trans (if_neg fun rejects => tolerant rejects.1)
  rw [outline_append reached, outline, outline, List.append_nil, added_eq done rfl]
  rfl

end Outlined

/-! ## Outlines under two policies -/

section Alike

variable {start start' draft draft' : Draft}

def made (draft : Draft) : Operation → List Message
  | .openMessage .. => draft.rootMessages
  | .closeMessage => (draft.message.map draft.closedMessage).toList
  | _ => []

theorem Step.messages {operation : Operation} (step : Step start operation draft)
    (walked : operation.Walked) : draft.messages = start.messages ++ start.made operation := by
  cases step with
  | openMessage => rfl
  | closeMessage inside filled =>
      rw [made, inside]
      rfl
  | openContent => exact (List.append_nil _).symm
  | closeContent => exact (List.append_nil _).symm
  | addTextAt => exact (List.append_nil _).symm
  | addToolCall => exact (List.append_nil _).symm
  | _ => cases walked

theorem Alike.added {operation : Operation} (alike : Alike .system .discard start start')
    (walked : operation.Walked) (done : start.apply operation = (.ok (), draft))
    (done' : start'.apply operation = (.ok (), draft')) :
    start'.added operation = (start.added operation).filter (·.1 = .tag) := by
  obtain ⟨nested, policy, same, _⟩ := alike
  have nested' : start'.Nested := by
    rw [same]
    exact nested
  rw [added_eq done ((step_of_apply nested done).messages walked),
    added_eq done' ((step_of_apply nested' done').messages walked), same]
  cases operation with
  | openMessage role attributes span => simp [made, rootMessages, under, Operation.origin]
  | closeMessage =>
      simp only [made, under, Operation.origin]
      cases start.message with
      | none => rfl
      | some opened => rfl
  | _ => rfl

/-- The outline where root text is discarded is the other outline without root text. -/
theorem Alike.outline {operations : List Operation} (alike : Alike .system .discard start start')
    (walked : ∀ operation ∈ operations, operation.Walked)
    (reached : start.applyAll operations = (.ok (), draft))
    (reached' : start'.applyAll operations = (.ok (), draft')) :
    start'.outline operations = (start.outline operations).filter (·.1 = .tag) := by
  induction operations generalizing start start' with
  | nil => rfl
  | cons operation rest ih =>
      simp only [applyAll] at reached reached'
      split at reached
      · rename_i next done
        split at reached'
        · rename_i next' done'
          have walks := walked operation List.mem_cons_self
          have made := alike.added walks done done'
          rcases alike.apply (by decide) operation walks with ⟨rejects, _⟩ | ⟨_, after⟩
          · cases rejects
          · rw [done, done'] at after
            have later := ih after (fun _ member => walked _ (List.mem_cons_of_mem _ member)) reached
              reached'
            simp only [Draft.outline, done, done', List.filter_append]
            rw [made, later]
        · cases reached'
      · cases reached

end Alike

end Draft

end ChatTemplate
