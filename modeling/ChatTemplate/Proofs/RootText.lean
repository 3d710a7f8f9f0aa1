import ChatTemplate.Proofs.Draft.Outline
import ChatTemplate.Proofs.Lockstep

/-!
What the policy for root text decides. Making messages of root text, discarding it and refusing it
differ in these messages and in the refusal alone.
-/

set_option autoImplicit false

namespace ChatTemplate

variable {σ : Type}

/-- The messages that a walk into a new draft makes, the end of the document included. -/
def Walk.outline (settings : Settings) (walk : Walk σ) : List (Draft.Origin × Message) :=
  (Draft.ofSettings settings).outline (walk.operations.toList ++ [.settleRoot])

theorem Template.outlined_of_walk {settings : Settings} {registry : Registry} {host : Host σ}
    {now : Int} {template : Template} {scope : Scope} {world : σ} {implicit : Bool}
    {final : Walk σ}
    (ended : (template.walk host implicit (.starting settings registry now scope world)).outcome =
      (final, some (.ok ()))) :
    (Draft.ofSettings settings).Outlined final.operations.toList final.draft :=
  invariant_of_walk ended (Draft.outlined_ofSettings settings)
    fun _ _ _ _ reached nested outlined walked done => outlined.step reached nested walked done

/-- Unless root text is refused, the messages of a document are those of its outline. -/
theorem Template.outline_of_walk {settings : Settings} {registry : Registry} {host : Host σ}
    {now : Int} {template : Template} {scope : Scope} {world : σ} {implicit : Bool}
    {final : Walk σ} {messages : List Message} (tolerant : settings.rootText ≠ .reject)
    (ended : (template.walk host implicit (.starting settings registry now scope world)).outcome =
      (final, some (.ok ())))
    (finished : final.draft.finish = .ok messages) :
    messages = (final.outline settings).map (·.2) ∧
      (∀ message, (.rootText, message) ∈ final.outline settings → message.OfRootText) ∧
      (final.outline settings).IsChain Draft.Apart := by
  have reached := (applyAll_of_walk ended).1
  have outlined := outlined_of_walk ended
  obtain ⟨outside, content, rfl⟩ := Draft.finish_ok finished
  have tolerates : final.draft.rootText ≠ .reject := by
    rw [outlined.policy]
    exact tolerant
  rw [Walk.outline, Draft.outline_end reached outside content tolerates]
  refine ⟨?_, outlined.settled outside content⟩
  rw [List.map_append, ← outlined.messages]
  simp [Function.comp_def]

/-- Where root text is discarded, the messages are those of the other outline that come from
tags. -/
theorem Template.messages_of_discard {settings : Settings} {registry : Registry} {host : Host σ}
    {now : Int} {template : Template} {scope : Scope} {world : σ} {implicit : Bool}
    {final final' : Walk σ} {messages messages' : List Message}
    (ended : (template.walk host implicit
      (.starting { settings with rootText := .system } registry now scope world)).outcome =
        (final, some (.ok ())))
    (ended' : (template.walk host implicit
      (.starting { settings with rootText := .discard } registry now scope world)).outcome =
        (final', some (.ok ())))
    (finished : final.draft.finish = .ok messages)
    (finished' : final'.draft.finish = .ok messages') :
    messages' =
      ((final.outline { settings with rootText := .system }).filter (·.1 = .tag)).map (·.2) := by
  have start : (Walk.lockstep .system .discard).alike
      (.starting { settings with rootText := .system } registry now scope world)
      (.starting { settings with rootText := .discard } registry now scope world) :=
    ⟨rfl, rfl, Draft.alike_ofSettings settings .system .discard⟩
  have leads := (template.walk_leads host implicit (by decide)).along _ _ start
  obtain ⟨reached, walked⟩ := applyAll_of_walk ended
  obtain ⟨reached', -⟩ := applyAll_of_walk ended'
  obtain ⟨_, _, ended'', ⟨_, operations, drafts⟩, rfl⟩ | ⟨_, _, refused, _⟩ := leads.outcome ended'
  · rw [ended] at ended''
    cases ended''
    rw [operations] at reached'
    obtain ⟨outside, content, -⟩ := Draft.finish_ok finished
    obtain ⟨-, -, rfl⟩ := Draft.finish_ok finished'
    have alike := Draft.alike_ofSettings settings .system .discard
    have outlined' := (outlined_of_walk ended').messages
    have same := alike.outline walked reached reached'
    have system : final.draft.rootText ≠ .reject := by
      rw [drafts.policy]
      decide
    have discards : final'.draft.rootMessages = [] := by
      rw [drafts.same]
      rfl
    rw [operations, same] at outlined'
    rw [Walk.outline, Draft.outline_end reached outside content system, discards, outlined',
      List.filter_append]
    simp [List.filter_map, Function.comp_def]
  · cases refused

/-- How a compilation depends on the policy for root text. The policies that make messages of root
text and that discard it ask the same of the host, fail together, and differ in the messages of root
text alone: each of those holds one text that is not blank, and there is another message between any
two of them. A compilation that refuses root text fails for that reason, having asked a part of the
same of the host, or is no different from one that discards it; and if it succeeds, there is no root
text, and the policy does not matter. -/
theorem Template.root_text_policies (settings : Settings) (registry : Registry) (host : Host σ)
    (now : Int) (interruption : Interruption σ) (template : Template) (scope : Scope) (world : σ) :
    let run := fun policy => template.compileWithin { settings with rootText := policy } registry
      host now interruption scope world
    ((run .discard).1 = (run .system).1 ∧
        (run .reject).1.history.toList <+: (run .system).1.history.toList) ∧
      ((∀ failure, (run .system).2 = some (.error failure) ↔
          (run .discard).2 = some (.error failure)) ∧
        ((run .system).2 = none ↔ (run .discard).2 = none)) ∧
      (∀ messages, (run .system).2 = some (.ok messages) →
        ∃ final : Walk σ,
          (template.walk host settings.implicitDeclarations
            (.starting { settings with rootText := .system } registry now scope world)).outcome =
              (final, some (.ok ())) ∧
          let entries := final.outline { settings with rootText := .system }
          messages = entries.map (·.2) ∧
          (run .discard).2 = some (.ok ((entries.filter (·.1 = .tag)).map (·.2))) ∧
          (∀ message, (.rootText, message) ∈ entries → message.OfRootText) ∧
          entries.IsChain Draft.Apart) ∧
      (run .reject = run .discard ∨
        ∃ place, (run .reject).2 = some (.error ⟨.strayTextOutsideMessage, place⟩)) ∧
      ∀ messages, (run .reject).2 = some (.ok messages) →
        run .system = run .reject ∧ run .discard = run .reject := by
  intro run
  have tolerant : RootText.system ≠ .reject := by decide
  have discard : Follows .discard (run .system) (run .discard) :=
    compileWithin_follows tolerant settings registry host now interruption template scope world
  have reject : Follows .reject (run .system) (run .reject) :=
    compileWithin_follows tolerant settings registry host now interruption template scope world
  have reject' : Follows .reject (run .discard) (run .reject) :=
    compileWithin_follows (by decide) settings registry host now interruption template scope world
  refine ⟨⟨discard.machine (by decide), reject.history⟩,
    ⟨discard.failure_iff (by decide), discard.waiting_iff (by decide)⟩, ?_, ?_, ?_⟩
  · intro messages made
    obtain ⟨messages', made'⟩ := discard.messages (by decide) made
    obtain ⟨final, ended, -, finished⟩ := walk_of_compileWithin (Prod.ext rfl made)
    obtain ⟨final', ended', -, finished'⟩ := walk_of_compileWithin (Prod.ext rfl made')
    obtain ⟨outlined, ofRootText, apart⟩ := outline_of_walk tolerant ended finished
    refine ⟨final, ended, outlined, ?_, ofRootText, apart⟩
    rw [made', messages_of_discard ended ended' finished finished']
  · rcases reject'.same_or_refused with same | refused
    · exact .inl same.symm
    · exact .inr refused
  · intro messages made
    -- What succeeds has not been refused.
    have accepted : ¬ ∃ place, (run .reject).2 = some (.error ⟨.strayTextOutsideMessage, place⟩) := by
      rintro ⟨place, refused⟩
      rw [made] at refused
      cases refused
    exact ⟨reject.same_or_refused.resolve_right accepted,
      reject'.same_or_refused.resolve_right accepted⟩

def Template.framedGreeting : Template :=
  .fragment [.text "Be kind." {}, .element "user" [] [.text "Hi" {}] true {}, .text " " {},
    .text "Bye." {}] {}

/-- How many messages a compilation has yielded. -/
def messageCount? (result : Option (Except Failure (List Message))) : Option Nat :=
  match result with
  | some (.ok messages) => some messages.length
  | _ => none

theorem framedGreeting_policies :
    let run := fun policy => Template.framedGreeting.compileWithin { rootText := policy } {}
      Host.silent 0 ⟨false, fun _ => false, fun _ _ => false⟩ Scope.empty ()
    messageCount? (run .discard).2 = some 1 ∧
      ∃ (messages : List Message) (entries : List (Draft.Origin × Message)),
        (run .system).2 = some (.ok messages) ∧ messages.length = 3 ∧
          messages = entries.map (·.2) ∧
          (run .discard).2 = some (.ok ((entries.filter (·.1 = .tag)).map (·.2))) ∧
          entries.IsChain Draft.Apart := by
  intro run
  have counted : messageCount? (run .system).2 = some 3 := by decide +kernel
  refine ⟨by decide +kernel, ?_⟩
  obtain ⟨-, -, kept, -⟩ := Template.root_text_policies {} {} Host.silent 0
    ⟨false, fun _ => false, fun _ _ => false⟩ Template.framedGreeting Scope.empty ()
  unfold messageCount? at counted
  split at counted
  · rename_i messages made
    obtain ⟨final, _, outlined, discarded, _, apart⟩ := kept messages made
    exact ⟨messages, _, made, Option.some.inj counted, outlined, discarded, apart⟩
  · cases counted

end ChatTemplate
