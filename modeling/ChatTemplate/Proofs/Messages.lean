import ChatTemplate.Proofs.Compilation
import ChatTemplate.Proofs.Draft.Sound

/-!
The messages of a compilation are well formed, whatever the template.
-/

set_option autoImplicit false

namespace ChatTemplate

variable {σ : Type}

/-- Every message of a compilation is well formed, and an item of it that is blank comes from a
content tag: it is the text that a tag held when it was closed. -/
theorem Template.messages_wellFormed {settings : Settings} {registry : Registry} {host : Host σ}
    {now : Int} {interruption : Interruption σ} {template : Template} {scope : Scope} {world : σ}
    {machine : Machine σ} {messages : List Message}
    (compiled : template.compileWithin settings registry host now interruption scope world =
      (machine, some (.ok messages))) :
    ∃ final : Walk σ,
      (template.walk host settings.implicitDeclarations
        (.starting settings registry now scope world)).outcome = (final, some (.ok ())) ∧
      final.draft.finish = .ok messages ∧
      ∀ i message, messages[i]? = some message →
        message.WellFormed settings.allowEmptyMessages ∧
        ∀ j item, message.content[j]? = some item →
          (Draft.ofSettings settings).Traced final.operations.toList i j item := by
  obtain ⟨final, ended, _, finished⟩ := walk_of_compileWithin compiled
  have sound := invariant_of_walk ended (Draft.sound_ofSettings settings)
    fun _ _ _ _ reached nested sound walked done =>
      (Draft.step_of_apply nested done).sound walked reached nested sound
  exact ⟨final, ended, finished, sound.finished (applyAll_of_walk ended).1 finished⟩

/-- A blank text inside a content tag, as the result of a tool. -/
def Template.blankResult : Template :=
  .element "tool" [.parts "id" [.text "call" {}] {}, .parts "name" [.text "clock" {}] {}]
    [.element "text" [] [.text " " {}] false {}] true {}

theorem blankResult_wellFormed :
    ∃ (message : Message) (final : Walk Unit),
      Template.blankResult.compileWithin {} {} Host.silent 0
        ⟨false, fun _ => false, fun _ _ => false⟩ Scope.empty () =
          (⟨Scope.empty, (), #[]⟩, some (.ok [message])) ∧
      message.content = [.toolResult "call" (some "clock") " " false] ∧
      message.WellFormed false ∧
      (Draft.ofSettings {}).FromContentTag final.operations.toList 0 0 " " := by
  have compiled : Template.blankResult.compileWithin {} {} Host.silent 0
      ⟨false, fun _ => false, fun _ _ => false⟩ Scope.empty () =
        (⟨Scope.empty, (), #[]⟩, some (.ok
          [{ role := .tool, content := [.toolResult "call" (some "clock") " " false]
             attributes := .ofEntries [("id", .string "call"), ("name", .string "clock")] }])) := rfl
  obtain ⟨final, _, _, sound⟩ := Template.messages_wellFormed compiled
  obtain ⟨wellFormed, traced⟩ := sound 0 _ rfl
  exact ⟨_, final, compiled, rfl, wellFormed, (traced 0 _ rfl).blank " " rfl rfl⟩

end ChatTemplate
