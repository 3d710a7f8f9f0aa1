import ChatTemplate.Proofs.Draft.Step
import ChatTemplate.Proofs.Rendering

/-!
What is true of a draft at any time in a walk. The invariant speaks about the open message and about
what has been collected for it, and so makes sure that every message is well formed when it is
closed. It is indexed by the operations so far, as it also says where blank items come from.
-/

set_option autoImplicit false

namespace ChatTemplate

/-- The text of an item that is a text or the result of a tool. -/
def ContentItem.words? : ContentItem → Option String
  | .text words => some words
  | .image _ => none
  | .toolResult _ _ result _ => some result

/-- What every message of a compilation satisfies. -/
structure Message.WellFormed (allowEmpty : Bool) (message : Message) : Prop where
  reserved : ∀ name ∈ reservedFields, message.attributes.has name = false
  assistant : message.toolCalls ≠ [] → message.role = .assistant
  arguments : ∀ call ∈ message.toolCalls, ∃ entries, call.arguments = .object entries
  filled : allowEmpty = false → message.content ≠ [] ∨ message.toolCalls ≠ []
  /-- The result of a tool names the call and the tool that the attributes of its message name. -/
  results : ∀ callId toolName result isError,
    .toolResult callId toolName result isError ∈ message.content →
      message.role = .tool ∧
      (∃ id, message.attributes.get? "id" = some id ∧ callId = Draft.jsonText id) ∧
      toolName = (message.attributes.get? "name").map Draft.jsonText
  /-- Where there is a call to answer, all texts are answers to it. -/
  answered : message.role = .tool → ∀ id, message.attributes.get? "id" = some id →
    ∀ words, .text words ∉ message.content
  payloads : ∀ item ∈ message.content, item.payload ≠ ""

namespace Draft

/-- The item at place `j` of the message at place `i` is made of the text `words` inside a content
tag, where the tag is closed or its message is. -/
def FromContentTag (start : Draft) (operations : List Operation) (i j : Nat) (words : String) :
    Prop :=
  ∃ before operation after reached opened, operations = before ++ operation :: after ∧
    (operation = .closeContent ∨ operation = .closeMessage) ∧
    start.applyAll before = (.ok (), reached) ∧ reached.messages.length = i ∧
    reached.items.length = j ∧ reached.content = some opened ∧ opened.kind = .text ∧
    reached.pending = words

theorem FromContentTag.append {start : Draft} {operations : List Operation} {i j : Nat}
    {words : String} (traced : start.FromContentTag operations i j words)
    (later : List Operation) : start.FromContentTag (operations ++ later) i j words := by
  obtain ⟨before, operation, after, reached, opened, rfl, found⟩ := traced
  exact ⟨before, operation, after ++ later, reached, opened, by simp, found⟩

/-- An item has a payload, and it is blank only if it comes from a content tag. -/
structure Traced (start : Draft) (operations : List Operation) (i j : Nat) (item : ContentItem) :
    Prop where
  payload : item.payload ≠ ""
  blank : ∀ words, item.words? = some words → Text.isBlank words = true →
    start.FromContentTag operations i j words

theorem Traced.append {start : Draft} {operations : List Operation} {i j : Nat}
    {item : ContentItem} (traced : start.Traced operations i j item) (later : List Operation) :
    start.Traced (operations ++ later) i j item where
  payload := traced.payload
  blank words said blank := (traced.blank words said blank).append later

theorem Traced.congr {start : Draft} {operations : List Operation} {i j : Nat}
    {item item' : ContentItem} (traced : start.Traced operations i j item)
    (payload : item'.payload = item.payload) (words : item'.words? = item.words?) :
    start.Traced operations i j item' where
  payload := by rw [payload]; exact traced.payload
  blank := by rw [words]; exact traced.blank

/-- The draft that the operations lead to from a start satisfies the conditions that a walk relies
on. -/
structure Sound (start : Draft) (operations : List Operation) (draft : Draft) : Prop where
  allowance : draft.allowEmptyMessages = start.allowEmptyMessages
  outside : draft.message = none → draft.items = [] ∧ draft.calls = []
  reserved : ∀ opened, draft.message = some opened →
    ∀ name ∈ Message.reservedFields, opened.attributes.has name = false
  assistant : ∀ opened, draft.message = some opened → draft.calls ≠ [] → opened.role = .assistant
  arguments : ∀ placed ∈ draft.calls, ∃ entries, placed.call.arguments = .object entries
  plain : ∀ callId toolName result isError,
    .toolResult callId toolName result isError ∉ draft.items
  items : ∀ j item, draft.items[j]? = some item →
    start.Traced operations draft.messages.length j item
  messages : ∀ i message, draft.messages[i]? = some message →
    message.WellFormed start.allowEmptyMessages ∧
      ∀ j item, message.content[j]? = some item → start.Traced operations i j item

theorem sound_ofSettings (settings : Settings) :
    Sound (ofSettings settings) [] (ofSettings settings) where
  allowance := rfl
  outside _ := ⟨rfl, rfl⟩
  reserved _ opened := nomatch opened
  assistant _ opened := nomatch opened
  arguments _ member := nomatch member
  plain _ _ _ _ member := nomatch member
  items _ _ found := nomatch found
  messages _ _ found := nomatch found

private theorem forall_getElem?_concat {α : Type} {property : Nat → α → Prop} {items : List α}
    {item : α} (before : ∀ i found, items[i]? = some found → property i found)
    (last : property items.length item) :
    ∀ i found, (items ++ [item])[i]? = some found → property i found := by
  intro i found place
  by_cases inside : i < items.length
  · rw [List.getElem?_append_left inside] at place
    exact before i found place
  · have bound := (List.getElem?_eq_some_iff.mp place).1
    rw [List.length_append, List.length_singleton] at bound
    have same : i = items.length := by omega
    subst same
    rw [List.getElem?_concat_length] at place
    cases place
    exact last

theorem getElem?_closedContent {opened : OpenMessage} {items : List ContentItem} {j : Nat}
    {item : ContentItem} (found : (closedContent opened items)[j]? = some item) :
    ∃ given, items[j]? = some given ∧ item.payload = given.payload ∧
      item.words? = given.words? := by
  unfold closedContent at found
  split at found
  · rw [List.getElem?_map, Option.map_eq_some_iff] at found
    obtain ⟨given, place, rfl⟩ := found
    refine ⟨given, place, ?_⟩
    cases given with
    | text words => exact ⟨rfl, rfl⟩
    | image source => exact ⟨rfl, rfl⟩
    | toolResult callId toolName result isError => exact ⟨rfl, rfl⟩
  · exact ⟨item, found, rfl, rfl⟩

private theorem eq_nil_of_closedContent {opened : OpenMessage} {items : List ContentItem}
    (empty : closedContent opened items = []) : items = [] := by
  unfold closedContent at empty
  split at empty
  · exact List.map_eq_nil_iff.mp empty
  · exact empty

private theorem result_of_mem_closedContent {opened : OpenMessage} {items : List ContentItem}
    (plain : ∀ callId toolName result isError,
      .toolResult callId toolName result isError ∉ items)
    {callId : String} {toolName : Option String} {result : String} {isError : Bool}
    (member : .toolResult callId toolName result isError ∈ closedContent opened items) :
    opened.role = .tool ∧
      (∃ id, opened.attributes.get? "id" = some id ∧ callId = jsonText id) ∧
      toolName = (opened.attributes.get? "name").map jsonText := by
  unfold closedContent at member
  split at member
  · rename_i id role found
    obtain ⟨given, old, same⟩ := List.mem_map.mp member
    cases given with
    | text words =>
        cases same
        exact ⟨role, ⟨id, found, rfl⟩, rfl⟩
    | image source => cases same
    | toolResult => exact absurd old (plain _ _ _ _)
  · exact absurd member (plain _ _ _ _)

private theorem text_not_mem_closedContent {opened : OpenMessage} {items : List ContentItem}
    {id : Json} (role : opened.role = .tool) (found : opened.attributes.get? "id" = some id)
    (words : String) : .text words ∉ closedContent opened items := by
  intro member
  rw [closedContent, role, found] at member
  obtain ⟨given, _, same⟩ := List.mem_map.mp member
  cases given with
  | text => cases same
  | image => cases same
  | toolResult => cases same

section Sound

variable {start before : Draft} {operations : List Operation}

theorem Sound.items_later (sound : Sound start operations before) (later : List Operation) :
    ∀ j item, before.items[j]? = some item →
      start.Traced (operations ++ later) before.messages.length j item :=
  fun j item found => (sound.items j item found).append later

theorem Sound.messages_later (sound : Sound start operations before) (later : List Operation) :
    ∀ i message, before.messages[i]? = some message →
      message.WellFormed start.allowEmptyMessages ∧
        ∀ j item, message.content[j]? = some item → start.Traced (operations ++ later) i j item := by
  intro i message found
  obtain ⟨wellFormed, traced⟩ := sound.messages i message found
  exact ⟨wellFormed, fun j item place => (traced j item place).append later⟩

/-- What the pending text becomes is traced as the items before it are. An open content tag has to
be closed by the operation that follows. -/
theorem Sound.settled (sound : Sound start operations before)
    (reached : start.applyAll operations = (.ok (), before)) {later : List Operation}
    (closes : before.content ≠ none → later = [.closeContent] ∨ later = [.closeMessage]) :
    ∀ j item, (before.items ++ before.textItems)[j]? = some item →
      start.Traced (operations ++ later) before.messages.length j item := by
  unfold textItems
  cases content : before.content with
  | none =>
      dsimp only
      split
      · rw [List.append_nil]
        exact sound.items_later later
      · rename_i filled
        refine forall_getElem?_concat (sound.items_later later) ⟨?_, ?_⟩
        · intro empty
          simp only [ContentItem.payload] at empty
          rw [empty] at filled
          exact filled rfl
        · rintro words ⟨⟩ blank
          exact absurd blank filled
  | some opened =>
      dsimp only
      split
      · rw [List.append_nil]
        exact sound.items_later later
      · rename_i filled
        have payload : (ContentItem.ofKind opened.kind before.pending).payload = before.pending := by
          cases opened.kind with
          | text => rfl
          | image => rfl
        refine forall_getElem?_concat (sound.items_later later) ⟨?_, ?_⟩
        · rw [payload]
          exact fun empty => filled (String.isEmpty_iff.mpr empty)
        · intro words said _
          -- Blank or not, the text of an open tag becomes an item where the tag is closed.
          cases kind : opened.kind with
          | text =>
              rw [kind] at said
              cases said
              have closed := closes (by simp [content])
              rcases closed with rfl | rfl
              · exact ⟨operations, _, [], before, opened, rfl, .inl rfl, reached, rfl, rfl, content,
                  kind, rfl⟩
              · exact ⟨operations, _, [], before, opened, rfl, .inr rfl, reached, rfl, rfl, content,
                  kind, rfl⟩
          | image =>
              rw [kind] at said
              cases said

theorem Sound.settled_plain (sound : Sound start operations before) (callId : String)
    (toolName : Option String) (result : String) (isError : Bool) :
    .toolResult callId toolName result isError ∉ before.items ++ before.textItems := by
  intro member
  rcases List.mem_append.mp member with old | new
  · exact sound.plain callId toolName result isError old
  · unfold textItems at new
    split at new
    · split at new
      · cases new
      · simp at new
    · rename_i opened _
      split at new
      · cases new
      · cases kind : opened.kind with
        | text => simp [kind, ContentItem.ofKind] at new
        | image => simp [kind, ContentItem.ofKind] at new

theorem Sound.wellFormed_closed {opened : OpenMessage} (sound : Sound start operations before)
    (reached : start.applyAll operations = (.ok (), before))
    (inside : before.message = some opened)
    (filled : before.items ++ before.textItems ≠ [] ∨ before.calls ≠ [] ∨
      before.allowEmptyMessages = true) :
    (before.closedMessage opened).WellFormed start.allowEmptyMessages ∧
      ∀ j item, (before.closedMessage opened).content[j]? = some item →
        start.Traced (operations ++ [.closeMessage]) before.messages.length j item := by
  have traced : ∀ j item, (before.closedMessage opened).content[j]? = some item →
      start.Traced (operations ++ [.closeMessage]) before.messages.length j item := by
    intro j item found
    obtain ⟨given, place, payload, words⟩ := getElem?_closedContent found
    exact (sound.settled reached (fun _ => .inr rfl) j given place).congr payload words
  refine ⟨?_, traced⟩
  constructor
  · exact sound.reserved opened inside
  · intro called
    exact sound.assistant opened inside fun none => called (by simp [closedMessage, none])
  · intro call member
    obtain ⟨placed, called, rfl⟩ := List.mem_map.mp member
    exact sound.arguments placed called
  · intro refused
    rcases filled with some | called | allowed
    · exact .inl fun empty => some (eq_nil_of_closedContent empty)
    · exact .inr fun empty => called (List.map_eq_nil_iff.mp empty)
    · rw [sound.allowance, refused] at allowed
      cases allowed
  · intro callId toolName result isError member
    exact result_of_mem_closedContent sound.settled_plain member
  · exact fun role id found words => text_not_mem_closedContent role found words
  · intro item member
    obtain ⟨j, found⟩ := List.mem_iff_getElem?.mp member
    exact (traced j item found).payload

/-- The messages stay sound when what has been collected outside of any message is settled. -/
theorem Sound.messages_settled (sound : Sound start operations before)
    (reached : start.applyAll operations = (.ok (), before)) (later : List Operation)
    (content : before.content = none) :
    ∀ i message, (before.messages ++ before.rootMessages)[i]? = some message →
      message.WellFormed start.allowEmptyMessages ∧
        ∀ j item, message.content[j]? = some item → start.Traced (operations ++ later) i j item := by
  rcases before.rootMessages_cases with none | ⟨_, filled, root⟩
  · rw [none, List.append_nil]
    exact sound.messages_later later
  · rw [root]
    have traced : ∀ j item, (before.items ++ before.textItems)[j]? = some item →
        start.Traced (operations ++ later) before.messages.length j item :=
      sound.settled reached fun inside => absurd content inside
    refine forall_getElem?_concat (sound.messages_later later) ⟨?_, traced⟩
    constructor
    · exact fun _ _ => rfl
    · exact fun called => absurd rfl called
    · exact fun _ member => nomatch member
    · exact fun _ => .inl filled
    · intro callId toolName result isError member
      exact absurd member (sound.settled_plain callId toolName result isError)
    · exact fun role => nomatch role
    · intro item member
      obtain ⟨j, found⟩ := List.mem_iff_getElem?.mp member
      exact (traced j item found).payload

theorem Step.sound {after : Draft} {operation : Operation} (step : Step before operation after)
    (walked : operation.Walked) (reached : start.applyAll operations = (.ok (), before))
    (nested : before.Nested) (sound : Sound start operations before) :
    Sound start (operations ++ [operation]) after := by
  cases step with
  | openMessage role attributes span outside content accepted =>
      constructor
      · exact sound.allowance
      · exact fun closed => nomatch closed
      · rintro _ ⟨⟩
        exact walked
      · exact fun _ _ called => absurd rfl called
      · exact fun _ member => nomatch member
      · exact fun _ _ _ _ member => nomatch member
      · exact fun _ _ found => nomatch found
      · exact sound.messages_settled reached _ content
  | closeMessage inside filled =>
      constructor
      · exact sound.allowance
      · exact fun _ => ⟨rfl, rfl⟩
      · exact fun _ closed => nomatch closed
      · exact fun _ _ called => absurd rfl called
      · exact fun _ member => nomatch member
      · exact fun _ _ _ _ member => nomatch member
      · exact fun _ _ found => nomatch found
      · exact forall_getElem?_concat (sound.messages_later _)
          (sound.wellFormed_closed reached inside filled)
  | openContent kind span inside content =>
      constructor
      · exact sound.allowance
      · intro closed
        rw [inside] at closed
        cases closed
      · exact sound.reserved
      · exact sound.assistant
      · exact sound.arguments
      · exact sound.settled_plain
      · exact sound.settled reached fun opened => absurd content opened
      · exact sound.messages_later _
  | closeContent content =>
      constructor
      · exact sound.allowance
      · intro closed
        rw [nested closed] at content
        cases content
      · exact sound.reserved
      · exact sound.assistant
      · exact sound.arguments
      · exact sound.settled_plain
      · exact sound.settled reached fun _ => .inl rfl
      · exact sound.messages_later _
  | addTextAt text span =>
      constructor
      · exact sound.allowance
      · exact sound.outside
      · exact sound.reserved
      · exact sound.assistant
      · exact sound.arguments
      · exact sound.plain
      · exact sound.items_later _
      · exact sound.messages_later _
  | addToolCall call inside assistant content =>
      constructor
      · exact sound.allowance
      · intro closed
        rw [inside] at closed
        cases closed
      · exact sound.reserved
      · intro opened found _
        rw [inside] at found
        cases found
        exact assistant
      · intro placed member
        rcases List.mem_append.mp member with old | new
        · exact sound.arguments placed old
        · obtain rfl := List.mem_singleton.mp new
          exact walked
      · exact sound.plain
      · exact sound.items_later _
      · exact sound.messages_later _
  | _ => cases walked

/-- The messages of a document that a walk has made are well formed, and all of their items are
traced. -/
theorem Sound.finished {messages : List Message} (sound : Sound start operations before)
    (reached : start.applyAll operations = (.ok (), before))
    (finished : before.finish = .ok messages) :
    ∀ i message, messages[i]? = some message → message.WellFormed start.allowEmptyMessages ∧
      ∀ j item, message.content[j]? = some item → start.Traced operations i j item := by
  obtain ⟨_, content, rfl⟩ := finish_ok finished
  have messages := sound.messages_settled reached [] content
  rw [List.append_nil] at messages
  exact messages

end Sound

end Draft

end ChatTemplate
