import ChatTemplate.Proofs.Draft.Isolation
import ChatTemplate.Proofs.Draft.Stretch

/-!
Operations that fail are contained: no finished message is lost or added. A tag in the wrong place
changes nothing at all. An empty message leaves the draft as it would be if, in place of its tag,
only what stood before it had been settled. Text outside of any message that is refused is kept, so
that it is refused again, from the same place on, until it is taken out.
-/

set_option autoImplicit false

namespace ChatTemplate.Draft

/-! ## Refused text -/

/-- What the items carry, and the text behind them. -/
def heldText (draft : Draft) : String :=
  String.join (draft.items.map (·.payload)) ++ draft.pending

/-- Settling text outside of content tags drops it if it is blank, and nothing otherwise. -/
theorem heldText_settled {draft : Draft} (content : draft.content = none) :
    ∃ dropped, draft.heldText =
        heldText { draft with pending := "", items := draft.items ++ draft.textItems } ++ dropped ∧
      Text.isBlank dropped = true ∧ (dropped = "" ∨ dropped = draft.pending) := by
  cases blank : Text.isBlank draft.pending with
  | true =>
      have settled : draft.textItems = [] := by simp [textItems, content, blank]
      exact ⟨draft.pending, by simp [heldText, settled], blank, .inr rfl⟩
  | false =>
      have settled : draft.textItems = [.text draft.pending] := by
        simp [textItems, content, blank]
      exact ⟨"", by simp [heldText, settled, ContentItem.payload], rfl, .inl rfl⟩

/-- Items outside of any message that the settings refuse, from a place that may be known. -/
structure Stuck (place : Option Span) (draft : Draft) : Prop where
  rejects : draft.rootText = .reject
  outside : draft.message = none
  content : draft.content = none
  collected : draft.items ≠ []
  known : ∀ span, place = some span → draft.rootTextSpan = some span

section Stuck

variable {place : Option Span} {draft : Draft} {operation : Operation}

theorem Stuck.items_ne_nil (stuck : Stuck place draft) (more : List ContentItem) :
    draft.items ++ more ≠ [] :=
  List.append_ne_nil_of_left_ne_nil stuck.collected more

theorem Stuck.not_accepted (stuck : Stuck place draft) : ¬ draft.Accepted :=
  fun accepted => stuck.items_ne_nil _ (accepted stuck.rejects)

/-- Refused items stay until they are taken out. -/
theorem Stuck.apply (stuck : Stuck place draft) (kept : operation ≠ .takeItems) :
    Stuck place (draft.apply operation).2 := by
  have nested : draft.Nested := fun _ => stuck.content
  rcases step_or_refusal nested operation with ⟨-, step⟩ | ⟨cause, -, refusal⟩
  · generalize (draft.apply operation).2 = after at step ⊢
    cases step with
    | openMessage _ _ _ _ _ accepted => exact absurd accepted stuck.not_accepted
    | addMessage _ _ _ accepted => exact absurd accepted stuck.not_accepted
    | settleRoot _ _ accepted => exact absurd accepted stuck.not_accepted
    | closeMessage inside => cases stuck.outside.symm.trans inside
    | openContent _ _ inside => cases stuck.outside.symm.trans inside
    | closeContent opened => cases stuck.content.symm.trans opened
    | addTextAt text span =>
        refine { stuck with known := fun first same => ?_ }
        simp [placeWith, stuck.known first same]
    | addItem item =>
        refine { stuck with collected := ?_ }
        exact List.append_ne_nil_of_left_ne_nil (stuck.items_ne_nil _) _
    | settleText => exact { stuck with collected := stuck.items_ne_nil _ }
    | takeItems => exact absurd rfl kept
    | _ => exact { stuck with }
  · generalize (draft.apply operation).2 = after at refusal ⊢
    cases refusal with
    | rootText => exact { stuck with collected := stuck.items_ne_nil _ }
    | emptyMessage inside => cases stuck.outside.symm.trans inside
    | _ => exact stuck

theorem Stuck.performAll (stuck : Stuck place draft) {later : List Operation}
    (kept : .takeItems ∉ later) : Stuck place (draft.performAll later) := by
  induction later generalizing draft with
  | nil => exact stuck
  | cons operation rest ih =>
      obtain ⟨other, others⟩ := not_or.mp (mt List.mem_cons.mpr kept)
      exact ih (stuck.apply (Ne.symm other)) others

/-- Whatever settles what is outside of any message fails for text that stands there, and the end of
the document does. The place is the given one where one is given. -/
structure Refuses (place : Option Span) (draft : Draft) : Prop where
  settling : ∀ operation : Operation, operation.SettlesRoot →
    ∃ next, draft.apply operation = (.error .strayTextOutsideMessage, next) ∧
      ∀ span, place = some span → next.origin? .strayTextOutsideMessage = some span
  ending : ∃ failure, draft.finish = .error failure ∧ failure.cause = .strayTextOutsideMessage ∧
    ∀ span, place = some span → failure.span = some span

theorem Stuck.refuses (stuck : Stuck place draft) : Refuses place draft where
  settling operation settles := by
    have refusal := @Refusal.rootText draft operation settles stuck.outside stuck.content
      stuck.rejects (stuck.items_ne_nil _)
    exact ⟨_, apply_of_refusal refusal, stuck.known⟩
  ending := by
    have refused := finish_eq stuck.outside stuck.content
    rw [if_pos ⟨stuck.rejects, stuck.items_ne_nil _⟩] at refused
    exact ⟨_, refused, rfl, stuck.known⟩

end Stuck

/-- Text outside of any message that has been refused. It is held unless it is blank, and it is
refused again until it is taken out. -/
structure RefusedText (draft after : Draft) : Prop where
  outside : after.message = none
  held : ∃ dropped, draft.heldText = after.heldText ++ dropped ∧ Text.isBlank dropped = true ∧
    (dropped = "" ∨ dropped = draft.pending)
  again : ∀ later, .takeItems ∉ later →
    Refuses (after.origin? .strayTextOutsideMessage) (after.performAll later)

private theorem refusedText_of_refusal {draft after : Draft} {operation : Operation}
    (refusal : Refusal draft operation .strayTextOutsideMessage after) :
    operation.SettlesRoot ∧ RefusedText draft after := by
  cases refusal with
  | rootText settles outside content rejects collected =>
      refine ⟨settles, outside, heldText_settled content, fun later kept => ?_⟩
      have stuck : Stuck draft.rootTextSpan
          { draft with pending := "", items := draft.items ++ draft.textItems } :=
        ⟨rejects, outside, content, collected, fun _ same => same⟩
      exact (stuck.performAll kept).refuses

/-! ## Messages that stay empty -/

/-- An operation other than closing the open message leaves it open. -/
theorem inside_of_apply {draft : Draft} {outer : OpenMessage} {operation : Operation}
    (consistent : draft.Consistent) (inside : draft.message = some outer)
    (other : operation ≠ .closeMessage) :
    (draft.apply operation).2.message = some outer ∧
      (draft.apply operation).2.messages = draft.messages ∧
      (draft.apply operation).2.rootTextSpan = draft.rootTextSpan := by
  have result := step_or_refusal consistent.nested operation
  generalize (draft.apply operation).2 = after at result ⊢
  rcases result with ⟨-, step⟩ | ⟨cause, -, refusal⟩
  · cases step with
    | openMessage _ _ _ outside => cases outside.symm.trans inside
    | addMessage _ outside => cases outside.symm.trans inside
    | settleRoot outside => cases outside.symm.trans inside
    | closeMessage => exact absurd rfl other
    | addTextAt text span => exact ⟨inside, rfl, by simp [placeWith, insideMessage, inside]⟩
    | _ => exact ⟨inside, rfl, rfl⟩
  · cases refusal with
    | rootText _ outside => cases outside.symm.trans inside
    | emptyMessage => exact absurd rfl other
    | _ => exact ⟨inside, rfl, rfl⟩

private theorem inside_of_performAll {draft : Draft} {outer : OpenMessage}
    {operations : List Operation} (consistent : draft.Consistent)
    (inside : draft.message = some outer) (unclosed : .closeMessage ∉ operations) :
    (draft.performAll operations).message = some outer ∧
      (draft.performAll operations).messages = draft.messages ∧
      (draft.performAll operations).rootTextSpan = draft.rootTextSpan := by
  induction operations generalizing draft with
  | nil => exact ⟨inside, rfl, rfl⟩
  | cons operation rest ih =>
      obtain ⟨other, others⟩ := not_or.mp (mt List.mem_cons.mpr unclosed)
      obtain ⟨message, messages, place⟩ := inside_of_apply consistent inside (Ne.symm other)
      obtain ⟨message', messages', place'⟩ := ih (consistent.apply operation) message others
      exact ⟨message', messages'.trans messages, place'.trans place⟩

private theorem message_closeMessage (draft : Draft) :
    (draft.apply .closeMessage).2.message = none := by
  cases message : draft.message with
  | none =>
      rw [apply, closeMessage_outside message]
      exact message
  | some outer =>
      rw [apply, closeMessage_eq message]
      split
      · rfl
      · rfl

/-- A message comes to be open by an operation that opens it. -/
theorem opens_of_inside {draft : Draft} {operation : Operation} (consistent : draft.Consistent)
    (outside : draft.message = none) (inside : (draft.apply operation).2.message ≠ none) :
    (draft.apply operation).1 = .ok () ∧
      ∃ role attributes span, operation = .openMessage role attributes span := by
  have result := step_or_refusal consistent.nested operation
  generalize (draft.apply operation).2 = after at result inside
  rcases result with ⟨done, step⟩ | ⟨cause, -, refusal⟩
  · cases step with
    | openMessage role attributes span => exact ⟨done, role, attributes, span, rfl⟩
    | closeMessage => exact absurd rfl inside
    | _ => exact absurd outside inside
  · cases refusal with
    | emptyMessage => exact absurd rfl inside
    | _ => exact absurd outside inside

/-- A draft in which a message has been opened and not been closed since, what it was when the
message had just been opened, and before. -/
structure OpenSince (settings : Settings) (start opened draft : Draft) : Prop where
  reachable : Reachable settings start
  opens : ∃ role attributes span,
    start.apply (.openMessage role attributes span) = (.ok (), opened)
  unclosed : ∃ operations, .closeMessage ∉ operations ∧ opened.performAll operations = draft

theorem exists_openSince {settings : Settings} {draft : Draft} (reachable : Reachable settings draft)
    (inside : draft.message ≠ none) : ∃ start opened, OpenSince settings start opened draft := by
  induction reachable with
  | new => exact absurd rfl inside
  | @apply before operation reachable ih =>
      by_cases outside : before.message = none
      · obtain ⟨done, role, attributes, span, rfl⟩ :=
          opens_of_inside reachable.consistent outside inside
        have opens : before.apply (.openMessage role attributes span) = (.ok (), _) :=
          Prod.ext done rfl
        exact ⟨before, _, reachable, ⟨_, _, _, opens⟩, [], nofun, rfl⟩
      · obtain ⟨start, opened, since⟩ := ih outside
        obtain ⟨operations, unclosed, rfl⟩ := since.unclosed
        have other : operation ≠ .closeMessage := by
          rintro rfl
          exact inside (message_closeMessage _)
        refine ⟨start, opened, since.reachable, since.opens, operations ++ [operation], ?_, ?_⟩
        · simp [unclosed, Ne.symm other]
        · rw [performAll, List.foldl_append]
          rfl

/-- Opening a message settles what stands before its tag and does nothing else to it. -/
theorem settleRoot_of_openMessage {start opened : Draft} {role : Role} {attributes : Dict Json}
    {span : Span} (consistent : start.Consistent)
    (opens : start.apply (.openMessage role attributes span) = (.ok (), opened)) :
    start.message = none ∧ start.content = none ∧
      start.apply .settleRoot = (.ok (), { opened with message := none }) := by
  have step := step_of_apply consistent.nested opens
  cases step with
  | openMessage _ _ _ outside content accepted =>
      have calls : start.calls = [] := by
        by_contra called
        obtain ⟨outer, inside, -⟩ := consistent.assistant called
        cases outside.symm.trans inside
      have settled := apply_of_step (Step.settleRoot outside content accepted)
      exact ⟨outside, content, by simpa only [calls, outside] using settled⟩

private theorem settleRoot_of_cleared {draft : Draft} (cleared : draft.Cleared)
    (outside : draft.message = none) (content : draft.content = none) :
    draft.apply .settleRoot = (.ok (), draft) := by
  obtain ⟨pending, items, -⟩ := cleared
  have collected : draft.items ++ draft.textItems = [] := by
    simp [items, textItems, content, pending, Text.isBlank]
  have place : draft.settledPlace = draft.rootTextSpan := if_pos collected
  have made : draft.rootMessages = [] := by
    obtain made | ⟨-, filled, -⟩ := draft.rootMessages_cases
    · exact made
    · exact absurd collected filled
  have settled := apply_of_step (Step.settleRoot outside content fun _ => collected)
  rw [place, made, List.append_nil, ← pending, ← items] at settled
  exact settled

/-- A message that was closed while it was empty. The draft is what it was when the message had just
been opened, without the message: all that is left of the opening is that it has settled what stood
before it. -/
structure EmptiedMessage (settings : Settings) (draft after : Draft) : Prop where
  outside : after.message = none
  content : after.content = none
  cleared : after.Cleared
  opening : ∃ start opened, OpenSince settings start opened draft
  back : ∀ start opened, OpenSince settings start opened draft →
    after.messages = opened.messages ∧ after = { opened with message := none } ∧
      start.apply .settleRoot = (.ok (), after) ∧ (start.Cleared → after = start)

private theorem emptiedMessage_of_refusal {settings : Settings} {draft after : Draft}
    {role : String} {operation : Operation} (reachable : Reachable settings draft)
    (refusal : Refusal draft operation (.emptyMessage role) after) :
    operation = .closeMessage ∧ EmptiedMessage settings draft after := by
  cases refusal with
  | emptyMessage inside items calls refused =>
      refine ⟨rfl, rfl, rfl, ⟨rfl, rfl, rfl⟩, exists_openSince reachable (by simp [inside]), ?_⟩
      rintro start opened ⟨reachable', ⟨role, attributes, span, opens⟩, operations, unclosed, rfl⟩
      obtain ⟨outside, content', settled⟩ := settleRoot_of_openMessage reachable'.consistent opens
      obtain ⟨message, content, pending, items, calls⟩ :=
        opened_of_openMessage reachable'.consistent.nested opens
      have reached : Reachable settings opened := by
        have applied := reachable'.apply (.openMessage role attributes span)
        rwa [opens] at applied
      obtain ⟨-, messages, place⟩ := inside_of_performAll reached.consistent message unclosed
      obtain ⟨rootText, allowance⟩ := reachable.settings
      obtain ⟨rootText', allowance'⟩ := reached.settings
      have back : ({ opened.performAll operations with
          message := none, content := none, pending := "", items := [], calls := [] } : Draft) =
            { opened with message := none } := by
        simp only [messages, place, rootText, allowance, rootText', allowance', pending, items, calls,
          content]
      refine ⟨messages, back, back ▸ settled, fun cleared => ?_⟩
      have same := (settleRoot_of_cleared cleared outside content').symm.trans settled
      rw [back]
      exact (Prod.mk.inj same).2.symm

/-! ## Operations that fail -/

/-- A tag in the wrong place leaves the draft as it is. -/
theorem eq_of_refusal {draft after : Draft} {operation : Operation} {cause : Cause}
    (refusal : Refusal draft operation cause after) (filled : ∀ role, cause ≠ .emptyMessage role)
    (inside : cause ≠ .strayTextOutsideMessage) : after = draft := by
  cases refusal with
  | rootText => exact absurd rfl inside
  | @emptyMessage outer => exact absurd rfl (filled outer.role.name)
  | _ => rfl

/-- An operation that fails leaves the finished messages as they are. For any cause but two it
leaves everything as it is, and for those two the draft can go on as if the operation had not been
tried: without the message that is empty, and with the text that is refused. -/
theorem failures_contained {settings : Settings} {draft after : Draft} {operation : Operation}
    {cause : Cause} (reachable : Reachable settings draft)
    (failed : draft.apply operation = (.error cause, after)) :
    after.messages = draft.messages ∧
      ((∀ role, cause ≠ .emptyMessage role) → cause ≠ .strayTextOutsideMessage → after = draft) ∧
      (∀ role, cause = .emptyMessage role →
        operation = .closeMessage ∧ EmptiedMessage settings draft after) ∧
      (cause = .strayTextOutsideMessage →
        operation.SettlesRoot ∧ RefusedText draft after) := by
  have refusal := refusal_of_apply reachable.consistent.nested failed
  refine ⟨refusal.messages, eq_of_refusal refusal, ?_, ?_⟩
  · rintro role rfl
    exact emptiedMessage_of_refusal reachable refusal
  · rintro rfl
    exact refusedText_of_refusal refusal

/-- Root text that has been settled, and blank text behind it. -/
def preamble : Draft :=
  (ofSettings { rootText := .reject }).performAll
    [.addTextAt "Be kind." ⟨3, 11⟩, .settleText, .addTextAt " \n" ⟨11, 13⟩]

theorem preamble_contained :
    Reachable { rootText := .reject } preamble ∧ preamble.heldText = "Be kind. \n" ∧
      ∃ after, preamble.apply (.openMessage .user ∅ ⟨13, 22⟩) =
          (.error .strayTextOutsideMessage, after) ∧
        after.message = none ∧ after.messages = [] ∧ after.heldText = "Be kind." ∧
        ∀ later, .takeItems ∉ later →
          ∃ failure, (after.performAll later).finish = .error failure ∧
            failure.cause = .strayTextOutsideMessage ∧ failure.span = some ⟨3, 11⟩ := by
  have reachable : Reachable { rootText := .reject } preamble := Reachable.new.performAll _
  have failed : (preamble.apply (.openMessage .user ∅ ⟨13, 22⟩)).1 =
      .error .strayTextOutsideMessage := rfl
  obtain ⟨messages, -, -, stray⟩ := failures_contained reachable (Prod.ext failed rfl)
  obtain ⟨-, refused⟩ := stray rfl
  refine ⟨reachable, rfl, _, Prod.ext failed rfl, refused.outside, messages, rfl, ?_⟩
  intro later kept
  obtain ⟨failure, ended, cause, place⟩ := (refused.again later kept).ending
  exact ⟨failure, ended, cause, place _ rfl⟩

end ChatTemplate.Draft
