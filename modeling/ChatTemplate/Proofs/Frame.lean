import ChatTemplate.Proofs.Rendering
import ChatTemplate.Proofs.Scope

/-!
The frame law of walks. Whether a walk or an evaluation succeeds or fails, it leaves the
environments of the scope as they were: names are added only by plain assignments to identifiers, in
the current environment and only where the settings allow it, and values change only where the
template assigns.
-/

set_option autoImplicit false

namespace ChatTemplate

variable {σ : Type}

/-- The names that assignments among the expressions may declare. -/
def Expression.MayDeclare (implicit : Bool) (all : List Expression) (name : String) : Prop :=
  implicit = true ∧ name ∈ all.filterMap declared?

/-- The names at the roots of what the expressions write to. -/
def Expression.MayWrite (all : List Expression) (name : String) : Prop :=
  name ∈ all.filterMap written?

open Expression (MayDeclare MayWrite)

theorem Place.framed_write {gained written : String → Prop} {place : Place} {implicit : Bool}
    {value : Value} {scope after : Scope} (wrote : place.write implicit value scope = .ok after)
    (writes : written place.root)
    (gains : place.path = [] → implicit = true → scope.contains place.root = false →
      gained place.root) :
    Scope.Framed gained written scope after := by
  unfold write at wrote
  split at wrote
  · rename_i declares
    simp only [Bool.and_eq_true, List.isEmpty_iff, Bool.not_eq_true'] at declares
    cases wrote
    exact Scope.framed_declare scope value (gains declares.1.1 declares.1.2 declares.2) writes
  · exact Scope.framed_update wrote writes

theorem Place.contains_of_read {place : Place} {scope : Scope} {value : Value}
    (read : place.read scope = .ok value) : scope.contains place.root = true := by
  obtain ⟨root, resolved, -⟩ := except_bind_ok read
  exact Scope.contains_of_resolve resolved

def Machine.framing (gained written : String → Prop) : Promise (Machine σ) :=
  .ofEnds (fun before after => Scope.Framed gained written before.scope after.scope)
    (fun machine => Scope.Framed.refl machine.scope) Scope.Framed.trans

theorem Machine.writePlace_frames {gained written : String → Prop} {implicit : Bool}
    {place : Place} {value : Value} {span : Span} {machine : Machine σ}
    (writes : written place.root)
    (gains : place.path = [] → implicit = true → machine.scope.contains place.root = false →
      gained place.root) :
    (Machine.writePlace implicit place value span).KeepsFrom (framing gained written) machine :=
  always_writePlace (fun _ wrote => Place.framed_write wrote writes gains)
    fun _ _ => Scope.Framed.refl machine.scope

theorem Machine.framing_keeping (host : Host σ) (implicit : Bool) (all : List Expression) :
    Machine.Keeping (Machine.framing (MayDeclare implicit all) (MayWrite all)) host implicit
      all where
  invoke site _ function arguments machine := by
    refine (always_invoke host site function arguments machine).imp (fun _ _ => trivial) ?_
    rintro after result ⟨same, -⟩
    have framed : Scope.Framed (MayDeclare implicit all) (MayWrite all) machine.scope
        after.scope := by
      rw [same]
      exact Scope.Framed.refl machine.scope
    cases result with
    | ok => exact framed
    | error => exact framed
  assign target value place member root path found identifier new span machine := by
    refine writePlace_frames ?_ ?_
    · refine List.mem_filterMap.mpr ⟨_, member, ?_⟩
      simp [Expression.written?, found, Except.toOption]
    · intro last allowed _
      obtain ⟨_, rfl⟩ := identifier last
      exact ⟨allowed, List.mem_filterMap.mpr ⟨_, member, rfl⟩⟩
  rewrite node member root written path current before after read kept new span := by
    refine writePlace_frames (List.mem_filterMap.mpr ⟨node, member, written⟩) ?_
    -- What has been read is bound, and nothing that is bound is declared anew.
    intro _ _ unbound
    have bound := kept.contains (Place.contains_of_read read)
    rw [unbound] at bound
    cases bound

def Walk.framing (gained written : String → Prop) : Promise (Walk σ) :=
  .ofEnds (fun before after => before.machine.scope.environments ≠ [] →
      Scope.Framed gained written before.machine.scope after.machine.scope)
    (fun walk _ => Scope.Framed.refl walk.machine.scope) (by
      intro first second third before after nonempty
      have framed := before nonempty
      refine framed.trans (after ?_)
      rwa [← List.length_pos_iff, framed.count, List.length_pos_iff])

theorem Walk.inBlock_frames {gained written : String → Prop} {bindings : List (String × Value)}
    {body : Action (Walk σ) Unit} (keeps : body.Keeps (framing gained written)) :
    (Walk.inBlock bindings body).Keeps (framing gained written) := by
  have nonempty : ∀ scope : Scope, (bindings.foldl
      (fun scope binding => scope.declare binding.1 binding.2) scope.push.2).environments ≠ [] := by
    intro scope
    rw [← List.length_pos_iff, (Scope.declare_all_after_push _ bindings).1]
    exact Nat.succ_pos _
  refine keeps.around ?_ ?_ ?_
  · exact fun _ _ _ => trivial
  · exact fun outer _ ends around => Scope.framed_block around (ends (nonempty outer.machine.scope))
  · exact fun outer _ ends around => Scope.framed_block around (ends (nonempty outer.machine.scope))

theorem Walk.framing_keeping (host : Host σ) (implicit : Bool) (all : List Expression) :
    Walk.Keeping (Walk.framing (MayDeclare implicit all) (MayWrite all))
      (Machine.framing (MayDeclare implicit all) (MayWrite all)) host implicit all where
  machine := Machine.framing_keeping host implicit all
  evaluating action keeps := by
    refine keeps.focus (fun _ _ _ => trivial) ?_ ?_
    · exact fun _ _ framed _ => framed
    · exact fun _ _ framed _ => framed
  perform operation span _ walk := by
    rw [Action.KeepsFrom, Walk.perform_eq]
    cases (walk.draft.apply operation).1 with
    | ok => exact fun _ => Scope.Framed.refl walk.machine.scope
    | error => exact fun _ => Scope.Framed.refl walk.machine.scope
  block _ _ := Walk.inBlock_frames

/-- Evaluating an expression and walking a template leave a frame of the scope alone, whether they
succeed or fail. -/
theorem evaluate_and_walk_frame_scope (host : Host σ) (implicit : Bool) :
    (∀ (expression : Expression) (machine final : Machine σ) (result : Except Failure Value),
      (expression.evaluate host implicit machine).outcome = (final, some result) →
        Scope.Framed (MayDeclare implicit expression.nodes) (MayWrite expression.nodes)
          machine.scope final.scope) ∧
    ∀ (template : Template) (walk final : Walk σ) (result : Except Failure Unit)
      (marks : List Scope.Mark), Scope.Reachable marks walk.machine.scope →
      (template.walk host implicit walk).outcome = (final, some result) →
        Scope.Framed (MayDeclare implicit template.expressions) (MayWrite template.expressions)
          walk.machine.scope final.machine.scope := by
  constructor
  · intro expression machine final result ended
    have keeping := Machine.framing_keeping host implicit expression.nodes
    have ends := (expression.evaluate_keeps keeping (List.Subset.refl _)).ended ended
    cases result with
    | ok => exact ends
    | error => exact ends
  · intro template walk final result marks reachable ended
    have keeping := Walk.framing_keeping host implicit template.expressions
    have ends := (template.walk_keeps keeping (List.Subset.refl _)).ended ended
    cases result with
    | ok => exact ends reachable.environments_ne_nil
    | error => exact ends reachable.environments_ne_nil

/-- A loop that joins its items to the variable `joined` and declares the variable `last`. -/
def Template.joining : Template :=
  .loop (.array [.literal (.string "a") {}, .literal (.string "b") {}] {}) "item" none
    [.interpolation (.assignment (.arithmetic .add) (.identifier "joined" {})
        (.identifier "item" {}) {}) {},
      .interpolation (.assignment .plain (.identifier "last" {}) (.identifier "item" {}) {}) {}]
    none {}

theorem joining_frames_scope :
    ∃ walk final : Walk Unit,
      (Template.joining.walk Host.silent true walk).outcome = (final, some (.ok ())) ∧
        final.machine.scope.lookup "joined" = some (.string "ab") ∧
        Scope.Framed (MayDeclare true Template.joining.expressions)
          (MayWrite Template.joining.expressions) walk.machine.scope final.machine.scope := by
  refine ⟨⟨⟨Scope.empty.declare "joined" (.string ""), (), #[]⟩, {}, #[]⟩, _, rfl, rfl, ?_⟩
  have reachable := Scope.Reachable.empty.declare "joined" (.string "")
  exact (evaluate_and_walk_frame_scope Host.silent true).2 Template.joining _ _ _ [] reachable rfl

end ChatTemplate
