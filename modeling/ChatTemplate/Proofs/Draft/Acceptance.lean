import ChatTemplate.Proofs.Draft.Document

/-!
A draft that refuses nothing at the root and allows empty messages accepts the operations of
documents and no others. What it makes of a document are the messages of its turns and, between
them, of the runs of text that are not blank.
-/

set_option autoImplicit false

namespace ChatTemplate.Draft

/-! ## Documents are accepted -/

private theorem step_text (draft : Draft) (operation : TextOperation) :
    ∃ next, Step draft operation.val next ∧ next.message = draft.message ∧
      next.content = draft.content := by
  obtain ⟨operation, isText⟩ := operation
  cases operation with
  | addText text => exact ⟨_, .addText text, rfl, rfl⟩
  | addTextAt text span => exact ⟨_, .addTextAt text span, rfl, rfl⟩
  | settleText =>
      cases content : draft.content with
      | none => exact ⟨_, .settleText content, rfl, content⟩
      | some opened => exact ⟨_, .settleTextInside content, rfl, content⟩
  | _ => cases isText

private theorem applyAll_texts (draft : Draft) (texts : List TextOperation) :
    ∃ next, draft.applyAll (textOperations texts) = (.ok (), next) ∧
      next.message = draft.message ∧ next.content = draft.content := by
  induction texts generalizing draft with
  | nil => exact ⟨draft, rfl, rfl, rfl⟩
  | cons operation rest ih =>
      obtain ⟨between, step, message, content⟩ := draft.step_text operation
      obtain ⟨next, applied, message', content'⟩ := ih between
      refine ⟨next, ?_, message'.trans message, content'.trans content⟩
      exact (applyAll_cons step _).trans applied

section Message

variable {draft : Draft} {opened : OpenMessage}

private theorem applyAll_openEnd (message : draft.message = some opened)
    (content : draft.content = none) (openEnd : OpenEnd) :
    ∃ next inner, draft.applyAll openEnd.operations = (.ok (), next) ∧
      next.message = some opened ∧ next.content = some inner := by
  obtain ⟨tagged, step, message', content'⟩ :
      ∃ tagged, Step draft (.openContent openEnd.kind openEnd.span) tagged ∧
        tagged.message = some opened ∧ tagged.content = some ⟨openEnd.kind, openEnd.span⟩ :=
    ⟨_, .openContent openEnd.kind openEnd.span message content, message, rfl⟩
  obtain ⟨next, applied, message'', content''⟩ := applyAll_texts tagged openEnd.texts
  refine ⟨next, _, ?_, message''.trans message', content''.trans content'⟩
  exact (applyAll_cons step _).trans applied

private theorem applyAll_part (message : draft.message = some opened)
    (content : draft.content = none) (part : Part opened.role) :
    ∃ next, draft.applyAll part.operations = (.ok (), next) ∧ next.message = some opened ∧
      next.content = none := by
  cases part with
  | text operation =>
      obtain ⟨next, step, message', content'⟩ := draft.step_text operation
      exact ⟨next, applyAll_cons step [], message'.trans message, content'.trans content⟩
  | content kind span texts =>
      obtain ⟨filled, inner, applied, message', content'⟩ :=
        applyAll_openEnd message content ⟨kind, span, texts⟩
      obtain ⟨next, step, message'', content''⟩ :
          ∃ next, Step filled .closeContent next ∧ next.message = some opened ∧
            next.content = none := ⟨_, .closeContent content', message', rfl⟩
      refine ⟨next, ?_, message'', content''⟩
      exact (applyAll_append_of_ok applied _).trans (applyAll_cons step [])
  | call placed assistant =>
      exact ⟨_, applyAll_cons (.addToolCall placed message assistant content) [], message, content⟩

private theorem applyAll_inside (message : draft.message = some opened)
    (content : draft.content = none) (parts : List (Part opened.role)) (openEnd : Option OpenEnd) :
    ∃ next, draft.applyAll (insideOperations parts openEnd) = (.ok (), next) ∧
      next.message = some opened := by
  induction parts generalizing draft with
  | nil =>
      cases openEnd with
      | none => exact ⟨draft, rfl, message⟩
      | some openEnd =>
          obtain ⟨next, _, applied, message', -⟩ := applyAll_openEnd message content openEnd
          refine ⟨next, ?_, message'⟩
          simpa [insideOperations] using applied
  | cons part rest ih =>
      obtain ⟨between, applied, message', content'⟩ := applyAll_part message content part
      obtain ⟨next, applied', message''⟩ := ih message' content'
      refine ⟨next, ?_, message''⟩
      rw [insideOperations, List.flatMap_cons, List.append_assoc]
      exact (applyAll_append_of_ok applied _).trans applied'

end Message

/-! ## Messages of documents -/

private theorem isText_inMessage {texts : List TextOperation} :
    ∀ operation ∈ textOperations texts, operation.InMessage := by
  intro operation member
  obtain ⟨⟨given, isText⟩, -, rfl⟩ := List.mem_map.mp member
  cases given with
  | addText => trivial
  | addTextAt => trivial
  | settleText => trivial
  | _ => cases isText

private theorem insideOperations_inMessage {role : Role} (parts : List (Part role))
    (openEnd : Option OpenEnd) :
    ∀ operation ∈ insideOperations parts openEnd, operation.InMessage := by
  intro operation member
  rcases List.mem_append.mp member with early | late
  · obtain ⟨part, -, among⟩ := List.mem_flatMap.mp early
    cases part with
    | text given =>
        exact @isText_inMessage [given] operation among
    | content kind span texts =>
        simp only [Part.operations, List.cons_append, List.mem_cons, List.mem_append,
          List.not_mem_nil, or_false] at among
        rcases among with rfl | among | rfl
        · trivial
        · exact isText_inMessage operation among
        · trivial
    | call placed =>
        rw [List.mem_singleton.mp among]
        trivial
  · obtain ⟨tag, -, among⟩ := List.mem_flatMap.mp late
    rcases List.mem_cons.mp among with rfl | among
    · trivial
    · exact isText_inMessage operation among

/-! ## Runs of text outside of messages -/

private theorem stretches_ne_nil (kind : Option ContentKind) (operations : List Operation) :
    stretches kind operations ≠ [] := by
  induction operations generalizing kind with
  | nil => simp [stretches]
  | cons operation rest ih =>
      cases operation with
      | settleText => cases kind <;> simp [stretches, ih]
      | _ => simp [stretches, ih]

theorem stretches_add {parts : List Stretch} (filled : parts ≠ []) (text : String)
    (outside : ∀ stretch ∈ parts, stretch.kind = none ∧ stretch.ending = none) :
    (∀ stretch ∈ parts.modifyHead (·.add text), stretch.kind = none ∧ stretch.ending = none) ∧
      String.join ((parts.modifyHead (·.add text)).map (·.text)) =
        text ++ String.join (parts.map (·.text)) := by
  cases parts with
  | nil => exact absurd rfl filled
  | cons first later =>
      simp only [List.forall_mem_cons] at outside
      simp only [List.modifyHead_cons, List.forall_mem_cons, List.map_cons, String.join_cons,
        Stretch.text, Stretch.add, String.append_assoc]
      exact ⟨outside, trivial⟩

private theorem stretches_texts (texts : List TextOperation) :
    (∀ stretch ∈ stretches none (textOperations texts),
        stretch.kind = none ∧ stretch.ending = none) ∧
      String.join ((stretches none (textOperations texts)).map (·.text)) =
        addedText (textOperations texts) := by
  induction texts with
  | nil =>
      refine ⟨?_, rfl⟩
      intro stretch member
      rw [List.mem_singleton.mp member]
      exact ⟨rfl, rfl⟩
  | cons operation rest ih =>
      obtain ⟨operation, isText⟩ := operation
      obtain ⟨outside, text⟩ := ih
      have filled := stretches_ne_nil none (textOperations rest)
      cases operation with
      | addText words =>
          obtain ⟨outside', text'⟩ := stretches_add filled words outside
          rw [text] at text'
          exact ⟨outside', text'.trans (String.join_cons ..).symm⟩
      | addTextAt words span =>
          obtain ⟨outside', text'⟩ := stretches_add filled words outside
          rw [text] at text'
          exact ⟨outside', text'.trans (String.join_cons ..).symm⟩
      | settleText =>
          refine ⟨List.forall_mem_cons.mpr ⟨⟨rfl, rfl⟩, outside⟩, ?_⟩
          exact (String.join_cons ..).trans ((congrArg _ text).trans (String.join_cons ..).symm)
      | _ => cases isText

private theorem contents_texts_eq_nil_iff (texts : List TextOperation) :
    contents (textOperations texts) = [] ↔
      Text.isBlank (addedText (textOperations texts)) = true := by
  obtain ⟨outside, text⟩ := stretches_texts texts
  rw [← text, Text.isBlank_join, contents, List.flatMap_eq_nil_iff, List.all_map, List.all_eq_true]
  refine forall₂_congr fun stretch member => ?_
  obtain ⟨kind, ending⟩ := outside stretch member
  simp [Stretch.items, Stretch.textItems, kind, ending]

/-! ## From one message to the next -/

structure AtRoot (settings : Settings) (draft : Draft) : Prop where
  message : draft.message = none
  content : draft.content = none
  rootText : draft.rootText = settings.rootText
  allowance : draft.allowEmptyMessages = settings.allowEmptyMessages

/-- A draft between two messages, with nothing collected. -/
structure Between (settings : Settings) (draft : Draft) : Prop extends AtRoot settings draft where
  pending : draft.pending = ""
  items : draft.items = []

private theorem between_ofSettings (settings : Settings) : Between settings (ofSettings settings) :=
  ⟨⟨rfl, rfl, rfl, rfl⟩, rfl, rfl⟩

section Documents

variable {settings : Settings} {start last : Draft}

/-- A run of text between messages is settled as the policy says. -/
theorem Between.run (between : Between settings start) (run : List TextOperation) :
    ∃ last, start.applyAll (textOperations run) = (.ok (), last) ∧ AtRoot settings last ∧
      last.messages ++ last.rootMessages =
        start.messages ++ runMessages settings.rootText run := by
  obtain ⟨last, applied, message, content⟩ := applyAll_texts start run
  have nested : start.Nested := fun _ => between.content
  obtain ⟨rootText, allowance⟩ := applyAll_settings nested applied
  obtain ⟨-, -, messages, -, items⟩ := run_inMessage nested isText_inMessage applied
  have atRoot : AtRoot settings last :=
    ⟨message.trans between.message, content.trans between.content,
      rootText.trans between.rootText, allowance.trans between.allowance⟩
  refine ⟨last, applied, atRoot, ?_⟩
  have outside : start.kind? = none := by rw [kind?, between.content, Option.map_none]
  rw [← collected_of_settled none _ between.pending outside, between.items,
    List.nil_append] at items
  have blank := contents_texts_eq_nil_iff run
  rw [contents, ← items] at blank
  rw [messages, rootMessages, runMessages, atRoot.rootText, contents, ← items]
  cases settings.rootText with
  | system =>
      by_cases words : Text.isBlank (addedText (textOperations run)) = true
      · simp [blank, words]
      · simp [blank, words]
  | discard => simp
  | reject => simp

/-- A turn adds its message after what becomes of the text before it. -/
theorem AtRoot.turn (atRoot : AtRoot settings last) (tolerant : settings.rootText ≠ .reject)
    (allowing : settings.allowEmptyMessages = true) (turn : Turn) :
    ∃ next, last.applyAll turn.operations = (.ok (), next) ∧ Between settings next ∧
      next.messages = last.messages ++ last.rootMessages ++ [turn.message] := by
  have accepted : last.Accepted := fun rejects => absurd (atRoot.rootText ▸ rejects) tolerant
  have opening := Step.openMessage turn.role turn.attributes turn.span atRoot.message
    atRoot.content accepted
  obtain ⟨started, step, message, content, pending, items, calls, messages⟩ :
      ∃ started, Step last (.openMessage turn.role turn.attributes turn.span) started ∧
        started.message = some ⟨turn.role, turn.attributes, turn.span⟩ ∧
        started.content = none ∧ started.pending = "" ∧ started.items = [] ∧ started.calls = [] ∧
        started.messages = last.messages ++ last.rootMessages :=
    ⟨_, opening, rfl, atRoot.content, rfl, rfl, rfl, rfl⟩
  obtain ⟨filled, applied, message'⟩ := applyAll_inside message content turn.parts turn.openEnd
  obtain ⟨-, -, messages', made⟩ := closedMessage_of_run message content pending items calls
    (insideOperations_inMessage turn.parts turn.openEnd) applied
  obtain ⟨rootText, allowance⟩ := applyAll_settings (fun _ => content) applied
  have allowed : filled.allowEmptyMessages = settings.allowEmptyMessages :=
    allowance.trans (step.settings.2.trans atRoot.allowance)
  have rejects := rootText.trans (step.settings.1.trans atRoot.rootText)
  obtain ⟨next, closing, between, closed⟩ :
      ∃ next, Step filled .closeMessage next ∧ Between settings next ∧
        next.messages = filled.messages ++ [filled.closedMessage _] :=
    ⟨_, .closeMessage message' (.inr (.inr (allowed.trans allowing))),
      ⟨⟨rfl, rfl, rejects, allowed⟩, rfl, rfl⟩, rfl⟩
  refine ⟨next, ?_, between, ?_⟩
  · refine (applyAll_cons step _).trans ((applyAll_append_of_ok applied _).trans ?_)
    exact applyAll_cons closing []
  · rw [closed, made, messages', messages]
    rfl

theorem Between.document (between : Between settings start)
    (tolerant : settings.rootText ≠ .reject) (allowing : settings.allowEmptyMessages = true)
    (run : List TextOperation) (document : Document) :
    ∃ final, start.applyAll (textOperations run ++ document.operations) = (.ok (), final) ∧
      final.finish = .ok (start.messages ++ messagesAfter settings.rootText run document) := by
  induction document generalizing start run with
  | nil =>
      obtain ⟨last, applied, atRoot, messages⟩ := between.run run
      refine ⟨last, (applyAll_append_of_ok applied _).trans rfl, ?_⟩
      have accepted : ¬ (last.rootText = .reject ∧ last.items ++ last.textItems ≠ []) :=
        fun rejected => tolerant (atRoot.rootText ▸ rejected.1)
      rw [finish_eq atRoot.message atRoot.content, if_neg accepted, messages]
      rfl
  | cons entry rest ih =>
      cases entry with
      | text operation =>
          obtain ⟨final, applied, finished⟩ := ih between (run ++ [operation])
          refine ⟨final, ?_, finished⟩
          simpa [textOperations, Document.operations, Entry.operations] using applied
      | turn turn =>
          obtain ⟨last, applied, atRoot, messages⟩ := between.run run
          obtain ⟨next, applied', between', messages'⟩ := atRoot.turn tolerant allowing turn
          obtain ⟨final, applied'', finished⟩ := ih between' []
          refine ⟨final, ?_, ?_⟩
          · refine (applyAll_append_of_ok applied _).trans ?_
            exact (applyAll_append_of_ok applied' _).trans applied''
          · rw [finished, messages', messages]
            simp [messagesAfter]

end Documents

/-- Where nothing is refused at the root and messages may be empty, the operations succeed and the
document ends well if and only if they are the operations of a document. It then has a message for
each turn and, if root text makes messages, one for each longest run of text that is not blank. -/
theorem accepted_iff_document {settings : Settings} (tolerant : settings.rootText ≠ .reject)
    (allowing : settings.allowEmptyMessages = true) {operations : List Operation}
    (inDocument : ∀ operation ∈ operations, operation.InDocument) :
    ((∃ final messages, (ofSettings settings).applyAll operations = (.ok (), final) ∧
        final.finish = .ok messages) ↔ ∃ document : Document, operations = document.operations) ∧
      ∀ document : Document, operations = document.operations →
        ∃ final, (ofSettings settings).applyAll operations = (.ok (), final) ∧
          final.finish = .ok (document.messages settings.rootText) := by
  have accepted : ∀ document : Document, operations = document.operations →
      ∃ final, (ofSettings settings).applyAll operations = (.ok (), final) ∧
        final.finish = .ok (document.messages settings.rootText) := by
    rintro document rfl
    exact (between_ofSettings settings).document tolerant allowing [] document
  refine ⟨⟨?_, ?_⟩, accepted⟩
  · rintro ⟨final, messages, applied, finished⟩
    exact (finishes_of_run (nested_ofSettings settings) inDocument applied finished).outside rfl
  · rintro ⟨document, same⟩
    obtain ⟨final, applied, finished⟩ := accepted document same
    exact ⟨final, _, applied, finished⟩

/-- A question, a call of a tool and an answer without content, with text around them. -/
def inquiry : Document :=
  [.text ⟨.addText "Be", trivial⟩, .text ⟨.addText " kind.", trivial⟩,
    .turn ⟨.user, ∅, {}, [.text ⟨.addText "Time?", trivial⟩], none⟩,
    .text ⟨.addText " ", trivial⟩,
    .turn ⟨.assistant, .ofEntries [("mood", .string "calm")], {},
      [.call ⟨{}, ⟨"call", "clock", .object []⟩⟩ rfl],
      some ⟨.text, {}, [⟨.addText " ", trivial⟩]⟩⟩,
    .turn ⟨.tool, ∅, {}, [], none⟩]

theorem inquiry_accepted :
    let settings : Settings := { allowEmptyMessages := true }
    settings.rootText ≠ .reject ∧ settings.allowEmptyMessages = true ∧
      (∀ operation ∈ inquiry.operations, operation.InDocument) ∧
      ∃ final, (ofSettings settings).applyAll inquiry.operations = (.ok (), final) ∧
        final.finish = .ok
          [{ role := .system, content := [.text "Be kind."] },
            { role := .user, content := [.text "Time?"] },
            { role := .assistant, content := [.text " "],
              toolCalls := [⟨"call", "clock", .object []⟩],
              attributes := .ofEntries [("mood", .string "calm")] },
            { role := .tool, content := [] }] := by
  intro settings
  have tolerant : settings.rootText ≠ .reject := by decide
  have inDocument : ∀ operation ∈ inquiry.operations, operation.InDocument := by
    simp [inquiry, Document.operations, Entry.operations, Turn.operations, insideOperations,
      Part.operations, OpenEnd.operations, textOperations, Operation.InDocument]
  obtain ⟨-, accepted⟩ := accepted_iff_document tolerant rfl inDocument
  obtain ⟨final, applied, finished⟩ := accepted inquiry rfl
  exact ⟨tolerant, rfl, inDocument, final, applied, finished⟩

end ChatTemplate.Draft
