import ChatTemplate.Proofs.Causes
import ChatTemplate.Proofs.Draft.Reachable
import ChatTemplate.Proofs.Rendering

/-!
What a draft remembers of the operations that have led to it: the places of the tags that are open,
and, where text outside of any message is refused, the place of the first such text. When a cause
shows late, the draft finds its place in this way.
-/

set_option autoImplicit false

namespace ChatTemplate.Draft

/-! ## Open tags -/

/-- An operation stands in a log, and none of the given ones behind it. -/
def LastIn (log : List Operation) (opening : Operation) (closings : List Operation) : Prop :=
  ∃ earlier later, log = earlier ++ opening :: later ∧ ∀ operation ∈ later, operation ∉ closings

private theorem lastIn_self (log : List Operation) (opening : Operation)
    (closings : List Operation) :
    LastIn (log ++ [opening]) opening closings :=
  ⟨log, [], rfl, nofun⟩

theorem LastIn.mem {log : List Operation} {opening : Operation} {closings : List Operation}
    (last : LastIn log opening closings) : opening ∈ log := by
  obtain ⟨earlier, later, rfl, -⟩ := last
  exact List.mem_append_right _ List.mem_cons_self

theorem LastIn.append {log : List Operation} {opening operation : Operation}
    {closings : List Operation} (last : LastIn log opening closings) (other : operation ∉ closings) :
    LastIn (log ++ [operation]) opening closings := by
  obtain ⟨earlier, later, rfl, unclosed⟩ := last
  refine ⟨earlier, later ++ [operation], by simp, ?_⟩
  intro passed member
  rcases List.mem_append.mp member with before | last
  · exact unclosed passed before
  · rw [List.mem_singleton.mp last]
    exact other

/-- The tags that are open have been opened by the log and not been closed since. -/
structure Opened (log : List Operation) (draft : Draft) : Prop where
  message : ∀ opened, draft.message = some opened →
    LastIn log (.openMessage opened.role opened.attributes opened.span) [.closeMessage]
  content : ∀ opened, draft.content = some opened →
    LastIn log (.openContent opened.kind opened.span) [.closeContent, .closeMessage]

private theorem opened_ofSettings (settings : Settings) : Opened [] (ofSettings settings) where
  message := nofun
  content := nofun

/-- An operation that neither opens nor closes a tag leaves the open tags as they are. -/
theorem Opened.append {log : List Operation} {before after : Draft} {operation : Operation}
    (opened : Opened log before) (message : after.message = before.message)
    (content : after.content = before.content)
    (other : operation ∉ [Operation.closeContent, .closeMessage]) :
    Opened (log ++ [operation]) after where
  message outer inside := by
    rw [message] at inside
    exact (opened.message outer inside).append fun closes => other (List.mem_cons_of_mem _ closes)
  content inner inside := by
    rw [content] at inside
    exact (opened.content inner inside).append other

theorem Step.opened {log : List Operation} {before after : Draft} {operation : Operation}
    (step : Step before operation after) (opened : Opened log before) :
    Opened (log ++ [operation]) after := by
  cases step with
  | openMessage role attributes span outside content accepted =>
      constructor
      · rintro _ ⟨⟩
        exact lastIn_self log _ _
      · intro inner inside
        rw [content] at inside
        cases inside
  | closeMessage inside filled => exact ⟨nofun, nofun⟩
  | openContent kind span inside content =>
      constructor
      · intro outer message
        exact (opened.message outer message).append (by simp)
      · rintro _ ⟨⟩
        exact lastIn_self log _ _
  | closeContent content =>
      constructor
      · intro outer message
        exact (opened.message outer message).append (by simp)
      · exact nofun
  | _ => exact opened.append rfl rfl (by simp)

/-! ## Text outside of any message -/

/-- Behind a run of operations no message is open, and a text that is not blank is added. -/
def StrayAfter (start : Draft) (earlier : List Operation) (text : String) : Prop :=
  (start.applyAll earlier).2.message = none ∧ Text.isBlank text = false

def NoStray (start : Draft) (log : List Operation) : Prop :=
  ∀ earlier text place later, log = earlier ++ .addTextAt text place :: later →
    ¬ start.StrayAfter earlier text

/-- The first text of a log that is not blank and outside of any message comes from a place. -/
def FirstStray (start : Draft) (log : List Operation) (place : Span) : Prop :=
  ∃ earlier text later, log = earlier ++ .addTextAt text place :: later ∧
    start.StrayAfter earlier text ∧ start.NoStray earlier

theorem FirstStray.mem {start : Draft} {log : List Operation} {place : Span}
    (first : start.FirstStray log place) : ∃ text, .addTextAt text place ∈ log := by
  obtain ⟨earlier, text, later, rfl, -⟩ := first
  exact ⟨text, List.mem_append_right _ List.mem_cons_self⟩

theorem FirstStray.append {start : Draft} {log : List Operation} {place : Span}
    (first : start.FirstStray log place) (operation : Operation) :
    start.FirstStray (log ++ [operation]) place := by
  obtain ⟨earlier, text, later, rfl, stray, clean⟩ := first
  exact ⟨earlier, text, later ++ [operation], by simp, stray, clean⟩

theorem NoStray.append {start : Draft} {log : List Operation} {operation : Operation}
    (clean : start.NoStray log)
    (last : ∀ text place, operation = .addTextAt text place → ¬ start.StrayAfter log text) :
    start.NoStray (log ++ [operation]) := by
  intro earlier text place later split stray
  rcases List.eq_nil_or_concat later with rfl | ⟨rest, ending, rfl⟩
  · obtain ⟨rfl, same⟩ := List.append_inj' split rfl
    exact last text place (List.singleton_inj.mp same) stray
  · have parted : log ++ [operation] = (earlier ++ .addTextAt text place :: rest) ++ [ending] := by
      rw [split, List.append_assoc, List.cons_append, List.concat_eq_append]
    exact clean earlier text place rest (List.append_inj' parted rfl).1 stray

/-- Where text outside of any message is refused, a draft knows the first such text, and as long as
there is none it has collected nothing outside of messages. -/
structure RemembersStray (start : Draft) (log : List Operation) (draft : Draft) : Prop where
  rejects : draft.rootText = .reject
  stray : ∀ place, draft.rootTextSpan = some place → start.FirstStray log place
  clean : draft.rootTextSpan = none → start.NoStray log
  empty : draft.rootTextSpan = none → draft.message = none →
    draft.items = [] ∧ Text.isBlank draft.pending = true

private theorem remembersStray_ofSettings {settings : Settings}
    (rejects : settings.rootText = .reject) :
    RemembersStray (ofSettings settings) [] (ofSettings settings) where
  rejects := rejects
  stray := nofun
  clean _ earlier text place later split _ := by
    exact absurd split.symm (List.append_ne_nil_of_right_ne_nil _ nofun)
  empty _ _ := ⟨rfl, rfl⟩

/-- An operation that adds no text with a place leaves the first stray text as it is. -/
theorem RemembersStray.append {start before after : Draft} {log : List Operation}
    {operation : Operation} (remembers : RemembersStray start log before)
    (other : ∀ text place, operation ≠ .addTextAt text place)
    (rootText : after.rootText = before.rootText)
    (place : after.rootTextSpan = before.rootTextSpan)
    (empty : after.message = none → after.items = [] ∧ Text.isBlank after.pending = true) :
    RemembersStray start (log ++ [operation]) after where
  rejects := by rw [rootText, remembers.rejects]
  stray span found := (remembers.stray span (place ▸ found)).append operation
  clean found := (remembers.clean (place ▸ found)).append fun text span same =>
    absurd same (other text span)
  empty _ := empty

theorem RemembersStray.addTextAt {start before : Draft} {log : List Operation}
    (remembers : RemembersStray start log before) (reached : start.applyAll log = (.ok (), before))
    (text : String) (span : Span) :
    RemembersStray start (log ++ [.addTextAt text span]) { before with
      rootTextSpan := before.placeWith text span, pending := before.pending ++ text } := by
  have behind : (start.applyAll log).2.message = before.message := by rw [reached]
  cases known : before.rootTextSpan with
  | some place =>
      have place : before.placeWith text span = some place := by simp [placeWith, known]
      refine ⟨remembers.rejects, fun other found => ?_, fun found => ?_, fun found _ => ?_⟩
      · cases place.symm.trans found
        exact (remembers.stray _ known).append _
      · cases place.symm.trans found
      · cases place.symm.trans found
  | none =>
      by_cases stray : start.StrayAfter log text
      · have outside := behind.symm.trans stray.1
        have place : before.placeWith text span = some span := by
          simp [placeWith, known, insideMessage, outside, stray.2]
        refine ⟨remembers.rejects, fun other found => ?_, fun found => ?_, fun found _ => ?_⟩
        · cases place.symm.trans found
          exact ⟨log, text, [], rfl, stray, remembers.clean known⟩
        · cases place.symm.trans found
        · cases place.symm.trans found
      · have blank : before.message = none → Text.isBlank text = true := by
          intro outside
          cases same : Text.isBlank text with
          | true => rfl
          | false => exact absurd ⟨behind.trans outside, same⟩ stray
        have place : before.placeWith text span = none := by
          cases message : before.message with
          | none => simp [placeWith, known, blank message]
          | some opened => simp [placeWith, known, insideMessage, message]
        refine ⟨remembers.rejects, fun other found => ?_, fun _ => ?_, fun _ outside => ?_⟩
        · cases place.symm.trans found
        · refine (remembers.clean known).append ?_
          rintro _ _ ⟨⟩
          exact stray
        · obtain ⟨items, pending⟩ := remembers.empty known outside
          refine ⟨items, ?_⟩
          have added := blank outside
          simp only [Text.isBlank, String.toList_append, List.all_append, Bool.and_eq_true] at *
          exact ⟨pending, added⟩

theorem Step.remembersStray {start before after : Draft} {log : List Operation}
    {operation : Operation} (step : Step before operation after) (nested : before.Nested)
    (walked : operation.Walked)
    (reached : start.applyAll log = (.ok (), before)) (remembers : RemembersStray start log before) :
    RemembersStray start (log ++ [operation]) after := by
  cases step with
  | openMessage role attributes span outside content accepted =>
      refine remembers.append nofun rfl ?_ nofun
      exact if_pos (accepted remembers.rejects)
  | closeMessage inside filled => exact remembers.append nofun rfl rfl fun _ => ⟨rfl, rfl⟩
  | openContent kind span inside content =>
      refine remembers.append nofun rfl rfl fun outside => ?_
      cases inside.symm.trans outside
  | closeContent content =>
      refine remembers.append nofun rfl rfl fun outside => ?_
      cases content.symm.trans (nested outside)
  | addToolCall call inside assistant content =>
      refine remembers.append nofun rfl rfl fun outside => ?_
      cases inside.symm.trans outside
  | addTextAt text span => exact remembers.addTextAt reached text span
  | _ => cases walked

/-! ## Places of belated causes -/

section Runs

variable {settings : Settings} {log : List Operation} {draft : Draft}

private theorem opened_of_applyAll
    (applied : (ofSettings settings).applyAll log = (.ok (), draft)) :
    draft.Nested ∧ Opened log draft := by
  have all : ∀ operation ∈ log, (fun _ => True : Operation → Prop) operation :=
    fun _ _ => trivial
  refine applyAll_induction (nested_ofSettings settings) (opened_ofSettings settings) ?_ all applied
  intro log before operation after _ nested opened _ done
  exact (step_of_apply nested done).opened opened

private theorem remembersStray_of_applyAll (rejects : settings.rootText = .reject)
    (walked : ∀ operation ∈ log, operation.Walked)
    (applied : (ofSettings settings).applyAll log = (.ok (), draft)) :
    RemembersStray (ofSettings settings) log draft := by
  have start := remembersStray_ofSettings rejects
  refine (applyAll_induction (nested_ofSettings settings) start ?_ walked applied).2
  intro log before operation after reached nested remembers walked done
  exact (step_of_apply nested done).remembersStray nested walked reached remembers

/-- Text that is refused outside of any message has been traced to its first place. -/
theorem firstStray_of_refused (walked : ∀ operation ∈ log, operation.Walked)
    (applied : (ofSettings settings).applyAll log = (.ok (), draft)) (outside : draft.message = none)
    (rejects : draft.rootText = .reject) (collected : draft.items ++ draft.textItems ≠ []) :
    ∃ place, draft.rootTextSpan = some place ∧ (ofSettings settings).FirstStray log place := by
  have same := (applyAll_settings (nested_ofSettings settings) applied).1
  have remembers := remembersStray_of_applyAll (same.symm.trans rejects) walked applied
  cases known : draft.rootTextSpan with
  | some place => exact ⟨place, rfl, remembers.stray place known⟩
  | none =>
      obtain ⟨items, blank⟩ := remembers.empty known outside
      have content := (opened_of_applyAll applied).1 outside
      refine absurd ?_ collected
      simp [items, textItems, content, blank]

/-- A document that cannot be ended fails at the tag that is open, or at the first text outside of
any message. -/
theorem finish_error {failure : Failure} (walked : ∀ operation ∈ log, operation.Walked)
    (applied : (ofSettings settings).applyAll log = (.ok (), draft))
    (failed : draft.finish = .error failure) :
    ∃ place, failure.span = some place ∧
      ((failure.cause = .unclosedContent ∧ ∃ kind,
          LastIn log (.openContent kind place) [.closeContent, .closeMessage]) ∨
        (failure.cause = .unclosedMessage ∧ ∃ role attributes,
          LastIn log (.openMessage role attributes place) [.closeMessage]) ∨
        (failure.cause = .strayTextOutsideMessage ∧
          (ofSettings settings).FirstStray log place)) := by
  obtain ⟨-, opened⟩ := opened_of_applyAll applied
  cases content : draft.content with
  | some inner =>
      simp only [finish, insideContent, content, Option.isSome_some, if_true, origin?] at failed
      cases failed
      exact ⟨inner.span, rfl, .inl ⟨rfl, inner.kind, opened.content inner content⟩⟩
  | none =>
      cases message : draft.message with
      | some outer =>
          simp only [finish, insideContent, insideMessage, content, message, origin?] at failed
          cases failed
          refine ⟨outer.span, rfl, .inr (.inl ⟨rfl, outer.role, outer.attributes, ?_⟩)⟩
          exact opened.message outer message
      | none =>
          rw [finish_eq message content] at failed
          split at failed
          · rename_i refused
            cases failed
            obtain ⟨place, known, first⟩ :=
              firstStray_of_refused walked applied message refused.1 refused.2
            exact ⟨place, known, .inr (.inr ⟨rfl, first⟩)⟩
          · cases failed

/-- An operation that is refused fails at its own place, or at the first text outside of any message
if that is what it is refused for. -/
theorem refused_at {operation : Operation} {cause : Cause} {after : Draft} (span : Span)
    (walked : ∀ operation ∈ log, operation.Walked)
    (applied : (ofSettings settings).applyAll log = (.ok (), draft))
    (refused : draft.apply operation = (.error cause, after)) :
    (¬ cause.Belated ∧ (after.origin? cause).getD span = span) ∨
      (cause = .strayTextOutsideMessage ∧ ∃ place, after.origin? cause = some place ∧
        (ofSettings settings).FirstStray log place) := by
  obtain ⟨nested, -⟩ := opened_of_applyAll applied
  have refusal := refusal_of_apply nested refused
  cases refusal with
  | rootText settles outside content rejects collected =>
      obtain ⟨place, known, first⟩ :=
        firstStray_of_refused walked applied outside rejects collected
      exact .inr ⟨rfl, place, known, first⟩
  | _ => exact .inl ⟨id, rfl⟩

end Runs

end ChatTemplate.Draft
