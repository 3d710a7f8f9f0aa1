import ChatTemplate.Proofs.Draft.Ink
import ChatTemplate.Proofs.Draft.Reachable

/-!
Where refused text is found. A ledger lists the fragments of text that have been added outside of
any message with their places: all of them, those that are left, and those that have been taken out
again. Text that is refused is traced to the first fragment of all that is not blank. That is the
first one that is left unless it has been taken out: then its place outlives it.
-/

set_option autoImplicit false

namespace ChatTemplate.Draft

structure Fragment where
  text : String
  place : Span
  deriving DecidableEq

def Fragment.isInked (fragment : Fragment) : Bool :=
  !Text.isBlank fragment.text

def joined (fragments : List Fragment) : String :=
  String.join (fragments.map (·.text))

private theorem isBlank_joined (fragments : List Fragment) :
    Text.isBlank (joined fragments) = true ↔ fragments.find? (·.isInked) = none := by
  simp [joined, Text.isBlank_join, Fragment.isInked]

/-- The fragments that have been added outside of any message. What is left of them is settled or
pending, as it is in the draft. -/
structure Ledger where
  added : List Fragment := []
  settled : List Fragment := []
  pending : List Fragment := []
  taken : List Fragment := []

namespace Ledger

def left (ledger : Ledger) : List Fragment :=
  ledger.settled ++ ledger.pending

def settleAll (ledger : Ledger) : Ledger :=
  { ledger with settled := ledger.left, pending := [] }

/-- What an operation on a draft does to the text outside of any message. -/
def note (ledger : Ledger) (draft : Draft) (operation : Operation) : Ledger :=
  if draft.insideMessage then ledger
  else match operation with
    | .addTextAt text place =>
        { ledger with
          added := ledger.added ++ [⟨text, place⟩], pending := ledger.pending ++ [⟨text, place⟩] }
    | .settleText | .settleRoot | .openMessage .. | .addMessage _ => ledger.settleAll
    | .takeText => { ledger with pending := [], taken := ledger.taken ++ ledger.pending }
    | .takeItems => { ledger with settled := [], taken := ledger.taken ++ ledger.settled }
    | _ => ledger

section Note

variable (ledger : Ledger) {draft : Draft}

private theorem note_inside {outer : OpenMessage} (inside : draft.message = some outer)
    (operation : Operation) : ledger.note draft operation = ledger := by
  simp [note, insideMessage, inside]

private theorem note_addTextAt (outside : draft.message = none) (text : String) (place : Span) :
    ledger.note draft (.addTextAt text place) =
      { ledger with
        added := ledger.added ++ [⟨text, place⟩], pending := ledger.pending ++ [⟨text, place⟩] } := by
  simp [note, insideMessage, outside]

private theorem note_settleText (outside : draft.message = none) :
    ledger.note draft .settleText = ledger.settleAll := by
  simp [note, insideMessage, outside]

private theorem note_of_settlesRoot (outside : draft.message = none) (operation : Operation)
    (settles : operation.SettlesRoot) : ledger.note draft operation = ledger.settleAll := by
  cases operation with
  | openMessage | addMessage | settleRoot => simp [note, insideMessage, outside]
  | _ => cases settles

private theorem note_takeText (outside : draft.message = none) :
    ledger.note draft .takeText =
      { ledger with pending := [], taken := ledger.taken ++ ledger.pending } := by
  simp [note, insideMessage, outside]

private theorem note_takeItems (outside : draft.message = none) :
    ledger.note draft .takeItems =
      { ledger with settled := [], taken := ledger.taken ++ ledger.settled } := by
  simp [note, insideMessage, outside]

end Note

/-- What has been added is left, in its order, or has been taken out. -/
structure Balanced (ledger : Ledger) : Prop where
  ordered : ledger.left.Sublist ledger.added
  complete : ledger.added.Perm (ledger.left ++ ledger.taken)

theorem Balanced.moved {ledger : Ledger} (balanced : ledger.Balanced)
    {settled pending taken : List Fragment} (kept : (settled ++ pending).Sublist ledger.left)
    (whole : (ledger.left ++ ledger.taken).Perm (settled ++ pending ++ taken)) :
    Balanced { ledger with settled := settled, pending := pending, taken := taken } where
  ordered := kept.trans balanced.ordered
  complete := balanced.complete.trans whole

theorem Balanced.settleAll {ledger : Ledger} (balanced : ledger.Balanced) :
    ledger.settleAll.Balanced :=
  balanced.moved (by simp) (by simp)

theorem Balanced.note {ledger : Ledger} (balanced : ledger.Balanced) (draft : Draft)
    (operation : Operation) : (ledger.note draft operation).Balanced := by
  cases outside : draft.message with
  | some outer =>
      rw [note_inside ledger outside]
      exact balanced
  | none =>
      cases operation with
      | addTextAt text place =>
          rw [note_addTextAt ledger outside]
          constructor
          · simpa only [left, List.append_assoc] using
              balanced.ordered.append (List.Sublist.refl [⟨text, place⟩])
          · refine List.perm_iff_count.mpr fun fragment => ?_
            have parts := balanced.complete.count_eq fragment
            simp only [left, List.count_append] at parts ⊢
            omega
      | settleText =>
          rw [note_settleText ledger outside]
          exact balanced.settleAll
      | openMessage | addMessage | settleRoot =>
          rw [note_of_settlesRoot ledger outside]
          · exact balanced.settleAll
          · trivial
      | takeText =>
          rw [note_takeText ledger outside]
          refine balanced.moved (by simp [left]) (List.perm_iff_count.mpr fun fragment => ?_)
          simp only [left, List.count_append, List.count_nil]
          omega
      | takeItems =>
          rw [note_takeItems ledger outside]
          refine balanced.moved (by simp [left]) (List.perm_iff_count.mpr fun fragment => ?_)
          simp only [left, List.count_append, List.count_nil]
          omega
      | _ => simpa [Ledger.note, insideMessage, outside] using balanced

theorem Balanced.find?_left {ledger : Ledger} (balanced : ledger.Balanced) {kind : Fragment → Bool}
    {first : Fragment} (found : ledger.added.find? kind = some first)
    (kept : first ∉ ledger.taken) : ledger.left.find? kind = some first := by
  obtain ⟨holds, before, behind, added, others⟩ := List.find?_eq_some_iff_append.mp found
  obtain ⟨front, back, parts, inFront, inBack⟩ :=
    List.sublist_append_iff.mp (added ▸ balanced.ordered)
  rcases List.sublist_cons_iff.mp inBack with dropped | ⟨rest, rfl, -⟩
  · -- Neither left nor taken out, the first fragment would have been added once more than it was.
    have whole := balanced.complete.count_eq first
    have least := inFront.count_le first
    have least' := dropped.count_le first
    rw [added, parts] at whole
    simp only [List.count_append, List.count_cons_self, List.count_eq_zero.mpr kept] at whole
    omega
  · rw [parts, List.find?_append]
    have passed : front.find? kind = none := by
      refine List.find?_eq_none.mpr fun fragment member => ?_
      simpa using others fragment (inFront.subset member)
    simp [passed, holds]

end Ledger

/-! ## Drafts with a ledger -/

/-- Outside of any message text is added with its place, and nothing else is. -/
def Operation.Placed (draft : Draft) : Operation → Prop
  | .addText _ | .addItem _ => draft.message ≠ none
  | _ => True

/-- The drafts that such operations lead to from a new one, whether they succeed or fail, with the
ledger of the text outside of any message. -/
inductive Recorded (settings : Settings) : Ledger → Draft → Prop where
  | new : Recorded settings {} (ofSettings settings)
  | apply {ledger : Ledger} {draft : Draft} {operation : Operation}
      (recorded : Recorded settings ledger draft) (placed : operation.Placed draft) :
      Recorded settings (ledger.note draft operation) (draft.apply operation).2

def PlacedAll (draft : Draft) : List Operation → Prop
  | [] => True
  | operation :: rest => operation.Placed draft ∧ PlacedAll (draft.apply operation).2 rest

def Ledger.noteAll (ledger : Ledger) (draft : Draft) : List Operation → Ledger
  | [] => ledger
  | operation :: rest =>
      (ledger.note draft operation).noteAll (draft.apply operation).2 rest

theorem Recorded.performAll {settings : Settings} {ledger : Ledger} {draft : Draft}
    (recorded : Recorded settings ledger draft) (operations : List Operation)
    (placed : draft.PlacedAll operations) :
    Recorded settings (ledger.noteAll draft operations) (draft.performAll operations) := by
  induction operations generalizing ledger draft with
  | nil => exact recorded
  | cons operation rest ih => exact ih (recorded.apply placed.1) placed.2

theorem Recorded.reachable {settings : Settings} {ledger : Ledger} {draft : Draft}
    (recorded : Recorded settings ledger draft) : Reachable settings draft := by
  induction recorded with
  | new => exact .new
  | apply _ _ ih => exact ih.apply _

theorem Recorded.balanced {settings : Settings} {ledger : Ledger} {draft : Draft}
    (recorded : Recorded settings ledger draft) : ledger.Balanced := by
  induction recorded with
  | new => exact ⟨List.Sublist.refl _, List.Perm.refl _⟩
  | apply _ _ ih => exact ih.note _ _

/-- A draft that refuses text, as its ledger has it. While a message is open only blank text is left
outside of it. -/
structure Describes (ledger : Ledger) (draft : Draft) : Prop where
  rejects : draft.rootText = .reject
  place : draft.rootTextSpan = (ledger.added.find? (·.isInked)).map (·.place)
  inside : draft.message ≠ none → ledger.pending = [] ∧ ledger.settled.find? (·.isInked) = none
  pending : draft.message = none → draft.pending = joined ledger.pending
  items : draft.message = none → (draft.items = [] ↔ ledger.settled.find? (·.isInked) = none)

section Describes

variable {ledger : Ledger} {draft after : Draft} {operation : Operation} {cause : Cause}

theorem Describes.collected (describes : Describes ledger draft) (outside : draft.message = none)
    (content : draft.content = none) :
    draft.items ++ draft.textItems = [] ↔ ledger.left.find? (·.isInked) = none := by
  have pending := isBlank_joined ledger.pending
  rw [← describes.pending outside] at pending
  rw [Ledger.left, List.find?_append, Option.or_eq_none_iff, ← describes.items outside, ← pending,
    List.append_eq_nil_iff, textItems, content]
  simp

theorem Describes.settleAll (describes : Describes ledger draft) (outside : draft.message = none)
    (content : draft.content = none) :
    Describes ledger.settleAll
      { draft with pending := "", items := draft.items ++ draft.textItems } where
  rejects := describes.rejects
  place := describes.place
  inside opened := absurd outside opened
  pending _ := rfl
  items _ := describes.collected outside content

theorem Describes.accepted (describes : Describes ledger draft) (outside : draft.message = none)
    (content : draft.content = none) (accepted : draft.Accepted) (opened : Option OpenMessage)
    (calls : List PlacedCall) (messages : List Message) :
    Describes ledger.settleAll
      { draft with
        message := opened, rootTextSpan := draft.settledPlace, pending := "", items := []
        calls := calls, messages := messages } := by
  have collected := accepted describes.rejects
  have blank := (describes.collected outside content).mp collected
  have place : draft.settledPlace = draft.rootTextSpan := if_pos collected
  exact
    { rejects := describes.rejects
      place := place.trans describes.place
      inside := fun _ => ⟨rfl, blank⟩
      pending := fun _ => rfl
      items := fun _ => iff_of_true rfl blank }

theorem Describes.closed (describes : Describes ledger draft) {outer : OpenMessage}
    (inside : draft.message = some outer) (messages : List Message) :
    Describes ledger
      { draft with
        message := none, content := none, pending := "", items := [], calls := []
        messages := messages } := by
  obtain ⟨pending, blank⟩ := describes.inside (by simp [inside])
  exact
    { rejects := describes.rejects
      place := describes.place
      inside := fun opened => absurd rfl opened
      pending := fun _ => by rw [pending]; rfl
      items := fun _ => iff_of_true rfl blank }

theorem Describes.enclosed (describes : Describes ledger draft) {outer : OpenMessage}
    (inside : draft.message = some outer) (message : after.message = draft.message)
    (rootText : after.rootText = draft.rootText)
    (rootTextSpan : after.rootTextSpan = draft.rootTextSpan) : Describes ledger after where
  rejects := rootText.trans describes.rejects
  place := rootTextSpan.trans describes.place
  inside _ := describes.inside (by simp [inside])
  pending outside := by cases (message.symm.trans outside).symm.trans inside
  items outside := by cases (message.symm.trans outside).symm.trans inside

theorem Describes.addTextAt (describes : Describes ledger draft) (outside : draft.message = none)
    (text : String) (place : Span) :
    Describes
      { ledger with
        added := ledger.added ++ [⟨text, place⟩], pending := ledger.pending ++ [⟨text, place⟩] }
      { draft with
        rootTextSpan := draft.placeWith text place, pending := draft.pending ++ text } where
  rejects := describes.rejects
  place := by
    simp only [placeWith, insideMessage, outside, List.find?_append, describes.place]
    cases ledger.added.find? (·.isInked) with
    | some first => rfl
    | none => cases blank : Text.isBlank text <;> simp [Fragment.isInked, blank]
  inside opened := absurd outside opened
  pending _ := by simp [describes.pending outside, joined]
  items := describes.items

theorem Describes.step_inside (describes : Describes ledger draft) {outer : OpenMessage}
    (inside : draft.message = some outer) (step : Step draft operation after) :
    Describes (ledger.note draft operation) after := by
  rw [ledger.note_inside inside]
  cases step with
  | openMessage _ _ _ outside => cases outside.symm.trans inside
  | addMessage _ outside => cases outside.symm.trans inside
  | settleRoot outside => cases outside.symm.trans inside
  | closeMessage => exact describes.closed inside _
  | addTextAt text place =>
      refine describes.enclosed inside rfl rfl ?_
      simp [placeWith, insideMessage, inside]
  | _ => exact describes.enclosed inside rfl rfl rfl

theorem Describes.step_outside (describes : Describes ledger draft) (nested : draft.Nested)
    (placed : operation.Placed draft) (outside : draft.message = none)
    (step : Step draft operation after) : Describes (ledger.note draft operation) after := by
  cases step with
  | openMessage role attributes span _ content accepted =>
      rw [ledger.note_of_settlesRoot outside (.openMessage role attributes span) trivial]
      exact describes.accepted outside content accepted _ _ _
  | addMessage message _ content accepted =>
      rw [ledger.note_of_settlesRoot outside (.addMessage message) trivial]
      exact describes.accepted outside content accepted _ _ _
  | settleRoot _ content accepted =>
      rw [ledger.note_of_settlesRoot outside .settleRoot trivial]
      exact describes.accepted outside content accepted _ _ _
  | closeMessage inside => cases outside.symm.trans inside
  | openContent _ _ inside => cases outside.symm.trans inside
  | addToolCall _ inside => cases outside.symm.trans inside
  | settleRootInside inside => cases outside.symm.trans inside
  | closeContent content => cases (nested outside).symm.trans content
  | settleTextInside content => cases (nested outside).symm.trans content
  | addText => exact absurd outside placed
  | addItem => exact absurd outside placed
  | addTextAt text place =>
      rw [ledger.note_addTextAt outside]
      exact describes.addTextAt outside text place
  | settleText content =>
      rw [ledger.note_settleText outside]
      exact describes.settleAll outside content
  | takeText =>
      rw [ledger.note_takeText outside]
      exact { describes with inside := absurd outside, pending := fun _ => rfl }
  | takeItems =>
      rw [ledger.note_takeItems outside]
      exact { describes with inside := absurd outside, items := fun _ => iff_of_true rfl rfl }
  | takeCalls =>
      have same : ledger.note draft .takeCalls = ledger := by
        simp [Ledger.note, insideMessage, outside]
      rw [same]
      exact { describes with }

theorem Describes.refusal (describes : Describes ledger draft)
    (refusal : Refusal draft operation cause after) :
    Describes (ledger.note draft operation) after := by
  cases refusal with
  | rootText settles outside content =>
      rw [ledger.note_of_settlesRoot outside operation settles]
      exact describes.settleAll outside content
  | emptyMessage inside =>
      rw [ledger.note_inside inside]
      exact describes.closed inside _
  | nestedMessage _ _ _ inside => simpa only [ledger.note_inside inside] using describes
  | nestedContent _ _ inside => simpa only [ledger.note_inside inside] using describes
  | nestedCall _ inside => simpa only [ledger.note_inside inside] using describes
  | callOutsideAssistantMessage _ inside =>
      simpa only [ledger.note_inside inside] using describes
  | nestedWhole _ inside => simpa only [ledger.note_inside inside] using describes
  | _ => simpa [Ledger.note] using describes

theorem Describes.apply (describes : Describes ledger draft) (nested : draft.Nested)
    (placed : operation.Placed draft) :
    Describes (ledger.note draft operation) (draft.apply operation).2 := by
  rcases step_or_refusal nested operation with ⟨-, step⟩ | ⟨cause, -, refusal⟩
  · cases outside : draft.message with
    | none => exact describes.step_outside nested placed outside step
    | some outer => exact describes.step_inside outside step
  · exact describes.refusal refusal

end Describes

theorem Recorded.describes {settings : Settings} {ledger : Ledger} {draft : Draft}
    (rejects : settings.rootText = .reject) (recorded : Recorded settings ledger draft) :
    Describes ledger draft := by
  induction recorded with
  | new =>
      exact ⟨rejects, rfl, fun opened => absurd rfl opened, fun _ => rfl,
        fun _ => iff_of_true rfl rfl⟩
  | apply recorded placed ih => exact ih.apply recorded.reachable.consistent.nested placed

private theorem stray_of_finish {draft : Draft} {failure : Failure}
    (ended : draft.finish = .error failure) (cause : failure.cause = .strayTextOutsideMessage) :
    draft.message = none ∧ draft.content = none ∧ draft.items ++ draft.textItems ≠ [] ∧
      failure.span = draft.rootTextSpan := by
  by_cases inside : draft.insideContent = true
  · rw [finish, if_pos inside] at ended
    cases ended
    cases cause
  · have content := content_eq_none inside
    by_cases opened : draft.insideMessage = true
    · rw [finish, if_neg inside, if_pos opened] at ended
      cases ended
      cases cause
    · have outside := message_eq_none opened
      rw [finish_eq outside content] at ended
      split at ended
      · rename_i refused
        cases ended
        exact ⟨outside, content, refused.2, rfl⟩
      · cases ended

/-- Text is left that is not blank, and the place is that of the first such fragment ever added. It is
the first one that is left unless it has been taken out. -/
def Ledger.Locates (ledger : Ledger) (place : Option Span) : Prop :=
  ∃ first held, ledger.added.find? (·.isInked) = some first ∧
    ledger.left.find? (·.isInked) = some held ∧ place = some first.place ∧
    (first ∉ ledger.taken → held = first)

theorem Describes.locates {ledger : Ledger} {draft : Draft} (describes : Describes ledger draft)
    (balanced : ledger.Balanced) (inked : ledger.left.find? (·.isInked) ≠ none) :
    ledger.Locates draft.rootTextSpan := by
  obtain ⟨held, found⟩ := Option.ne_none_iff_exists'.mp inked
  have member := balanced.ordered.subset (List.mem_of_find?_eq_some found)
  cases first : ledger.added.find? (·.isInked) with
  | none =>
      have blank := List.find?_eq_none.mp first held member
      exact absurd (List.find?_some found) blank
  | some fragment =>
      refine ⟨fragment, held, first, found, ?_, fun kept => ?_⟩
      · rw [describes.place, first]
        rfl
      · exact Option.some.inj (found.symm.trans (balanced.find?_left first kept))

/-- Where text is rejected it is refused by whatever settles it and at the end of the document, and
located at the first fragment that is not blank. What has been taken out counts: where the first
fragment is taken out while others are left, its place is the one that is reported. -/
theorem rejected_text_located {settings : Settings} {ledger : Ledger} {draft : Draft}
    (rejects : settings.rootText = .reject) (recorded : Recorded settings ledger draft) :
    (∀ operation after, draft.apply operation = (.error .strayTextOutsideMessage, after) →
        operation.SettlesRoot ∧ ledger.Locates (after.origin? .strayTextOutsideMessage)) ∧
      (∀ failure, draft.finish = .error failure → failure.cause = .strayTextOutsideMessage →
        ledger.Locates failure.span) ∧
      (draft.message = none → ledger.left.find? (·.isInked) ≠ none →
        (∀ operation : Operation, operation.SettlesRoot →
          (draft.apply operation).1 = .error .strayTextOutsideMessage) ∧
        ∃ place, draft.finish = .error ⟨.strayTextOutsideMessage, place⟩) := by
  have describes := recorded.describes rejects
  have nested := recorded.reachable.consistent.nested
  refine ⟨?_, ?_, ?_⟩
  · intro operation after failed
    cases refusal_of_apply nested failed with
    | rootText settles outside content _ collected =>
        have inked := mt (describes.collected outside content).mpr collected
        exact ⟨settles, describes.locates recorded.balanced inked⟩
  · intro failure ended cause
    obtain ⟨outside, content, collected, place⟩ := stray_of_finish ended cause
    have inked := mt (describes.collected outside content).mpr collected
    exact place ▸ describes.locates recorded.balanced inked
  · intro outside inked
    have content := nested outside
    have collected := mt (describes.collected outside content).mp inked
    constructor
    · intro operation settles
      have refusal := Refusal.rootText settles outside content describes.rejects collected
      rw [apply_of_refusal refusal]
    · rw [finish_eq outside content, if_pos ⟨describes.rejects, collected⟩]
      exact ⟨_, rfl⟩

/-- Text before any message: some of it is settled, and what comes behind is taken out again. -/
def salutation : List Operation :=
  [.addTextAt "\n" ⟨0, 1⟩, .addTextAt "Dear" ⟨1, 5⟩, .settleText, .addTextAt "Alan" ⟨5, 9⟩,
    .takeText]

theorem salutation_located :
    ∃ ledger draft, Recorded { rootText := .reject } ledger draft ∧
      draft = (ofSettings { rootText := .reject }).performAll salutation ∧
      ledger.left = [⟨"\n", ⟨0, 1⟩⟩, ⟨"Dear", ⟨1, 5⟩⟩] ∧ ledger.taken = [⟨"Alan", ⟨5, 9⟩⟩] ∧
      (draft.apply .settleRoot).1 = .error .strayTextOutsideMessage ∧
      ∃ failure, draft.finish = .error failure ∧ failure.span = some ⟨1, 5⟩ ∧
        ledger.Locates failure.span := by
  have recorded := (@Recorded.new { rootText := .reject }).performAll salutation
    ⟨trivial, trivial, trivial, trivial, trivial, trivial⟩
  obtain ⟨-, ending, refused⟩ := rejected_text_located rfl recorded
  obtain ⟨settling, -⟩ := refused rfl (Option.some_ne_none _)
  exact ⟨_, _, recorded, rfl, rfl, rfl, settling .settleRoot trivial, _, rfl, rfl, ending _ rfl rfl⟩

/-- The place of a text that has been taken out is reported for the text that comes behind it. -/
theorem taken_text_located :
    ∃ ledger, Recorded { rootText := .reject } ledger
        ((ofSettings { rootText := .reject }).performAll
          [.addTextAt "early" ⟨0, 5⟩, .takeText, .addTextAt "late" ⟨7, 11⟩]) ∧
      ledger.left = [⟨"late", ⟨7, 11⟩⟩] ∧
      ((ofSettings { rootText := .reject }).performAll
          [.addTextAt "early" ⟨0, 5⟩, .takeText, .addTextAt "late" ⟨7, 11⟩]).finish =
        .error ⟨.strayTextOutsideMessage, some ⟨0, 5⟩⟩ := by
  have recorded := (@Recorded.new { rootText := .reject }).performAll
    [.addTextAt "early" ⟨0, 5⟩, .takeText, .addTextAt "late" ⟨7, 11⟩]
    ⟨trivial, trivial, trivial, trivial⟩
  exact ⟨_, recorded, rfl, rfl⟩

end ChatTemplate.Draft
