import ChatTemplate.Proofs.Rendering

/-!
What actions are composed of. An evaluation yields values and fails, looks at the variables, calls
the host and writes to places, one after the other; a walk evaluates, does operations on its draft
and opens blocks. A property of actions that all of these have, and that passes on to actions in
sequence, is a property of every evaluation and of every walk.
-/

set_option autoImplicit false

namespace ChatTemplate

variable {σ : Type}

/-- A property of actions that passes on to actions in sequence. -/
structure Action.Composable (holds : (α : Type) → Action σ α → Prop) : Prop where
  yields : ∀ {α : Type} (value : α), holds α (pure value)
  fails : ∀ {α : Type} (span : Span) (cause : Cause), holds α (.failAt span cause)
  sequence : ∀ {α β : Type} {first : Action σ α} {next : α → Action σ β},
    holds α first → (∀ value, holds β (next value)) → holds β (first >>= next)

/-- A property that passes on to evaluations. -/
structure Machine.Composable (host : Host σ) (implicit : Bool)
    (holds : (α : Type) → Action (Machine σ) α → Prop) : Prop
    extends Action.Composable holds where
  looks : ∀ {α : Type} {next : Scope → Action (Machine σ) α}, (∀ scope, holds α (next scope)) →
    holds α (Action.state >>= fun machine => next machine.scope)
  calls : ∀ site function arguments, holds Value (Machine.invoke host site function arguments)
  writes : ∀ place value span, holds Unit (Machine.writePlace implicit place value span)

/-- A property that passes on to walks, given one that passes on to evaluations. -/
structure Walk.Composable (host : Host σ) (implicit : Bool)
    (evaluates : (α : Type) → Action (Machine σ) α → Prop)
    (holds : (α : Type) → Action (Walk σ) α → Prop) : Prop
    extends Action.Composable holds where
  machine : Machine.Composable host implicit evaluates
  evaluating : ∀ {α : Type} {action : Action (Machine σ) α}, evaluates α action →
    holds α (Walk.evaluating action)
  operates : ∀ operation span, holds Unit (Walk.perform operation span)
  opens : ∀ bindings {body : Action (Walk σ) Unit}, holds Unit body →
    holds Unit (Walk.inBlock bindings body)

namespace Action.Composable

variable {holds : (α : Type) → Action σ α → Prop} (composable : Action.Composable holds)
include composable

theorem located {α : Type} (span : Span) (result : Except Cause α) :
    holds α (Action.located span result) := by
  cases result with
  | ok value => exact composable.yields value
  | error cause => exact composable.fails span cause

theorem maps {α β : Type} {first : Action σ α} (held : holds α first) (change : α → β) :
    holds β (first >>= fun value => pure (change value)) :=
  composable.sequence held fun _ => composable.yields _

theorem forEach {α : Type} {items : List α} {action : α → Action σ Unit}
    (held : ∀ item, holds Unit (action item)) : holds Unit (Action.forEach items action) := by
  induction items with
  | nil => exact composable.yields ()
  | cons item rest ih => exact composable.sequence (held item) fun _ => ih

end Action.Composable

/-! ## Evaluations -/

namespace Expression

variable {host : Host σ} {implicit : Bool} {holds : (α : Type) → Action (Machine σ) α → Prop}
  (composable : Machine.Composable host implicit holds)
include composable

private theorem orNull_composed {link : Action (Machine σ) (Option Value)} (held : holds _ link) :
    holds _ link.orNull :=
  composable.maps held _

private theorem staticKey_composed (key : Expression) : holds _ key.staticKey := by
  unfold staticKey
  split
  · exact composable.yields _
  · exact composable.yields _
  · exact composable.fails _ _

private theorem entryKey_composed (key : Expression) (computed : Bool)
    {evaluated : Action (Machine σ) Value} (held : holds _ evaluated) :
    holds _ (key.entryKey computed evaluated) := by
  unfold entryKey
  split
  · refine composable.sequence held fun value => ?_
    unfold Value.objectKey
    split
    · exact composable.yields _
    · exact composable.yields _
    · exact composable.fails _ _
  · exact staticKey_composed composable key

theorem memberKey_composed (property : Expression) (computed : Bool)
    {evaluated : Action (Machine σ) Value} (held : holds _ evaluated) :
    holds _ (property.memberKey computed evaluated) := by
  unfold memberKey
  split
  · exact held
  · exact composable.maps (staticKey_composed composable property) _

private theorem readPlace_composed (place : Place) (span : Span) :
    holds _ (Machine.readPlace place span) :=
  composable.looks fun _ => composable.located span _

mutual

theorem link_composed : (expression : Expression) → holds _ (link host implicit expression)
  | .literal value span => by
      rw [link]
      exact composable.yields _
  | .identifier name span => by
      rw [link]
      have resolves : ∀ scope : Scope, holds _ (Action.located span (scope.resolve name) >>=
          fun value => pure (some value)) :=
        fun scope => composable.maps (composable.located span _) some
      exact composable.looks resolves
  | .object properties span => by
      rw [link]
      exact composable.maps (entriesOf_composed properties ∅) _
  | .array elements span => by
      rw [link]
      exact composable.maps (valuesOf_composed elements) _
  | .sequence expressions span => by
      rw [link]
      exact composable.maps (lastOf_composed expressions .null) _
  | .logical operator left right span => by
      rw [link]
      refine composable.sequence (orNull_composed composable (link_composed left)) fun value => ?_
      split
      · exact composable.yields _
      · exact composable.maps (orNull_composed composable (link_composed right)) _
  | .binary operator left right span => by
      rw [link]
      refine composable.sequence (orNull_composed composable (link_composed left)) fun first => ?_
      refine composable.sequence (orNull_composed composable (link_composed right)) fun second => ?_
      exact composable.maps (composable.located span _) _
  | .unary operator argument span => by
      rw [link]
      refine composable.sequence (orNull_composed composable (link_composed argument)) fun _ => ?_
      exact composable.maps (composable.located span _) _
  | .assignment operator target value span => by
      have valueHeld := orNull_composed composable (link_composed value)
      rw [link]
      refine composable.sequence (composable.located target.span _) fun root => ?_
      refine composable.sequence (pathOf_composed target) fun path => ?_
      cases operator with
      | plain =>
          refine composable.sequence valueHeld fun new => ?_
          exact composable.maps (composable.writes _ new span) _
      | arithmetic operator =>
          refine composable.sequence (readPlace_composed composable _ span) fun current => ?_
          refine composable.sequence valueHeld fun operand => ?_
          refine composable.sequence (composable.located span _) fun new => ?_
          exact composable.maps (composable.writes _ new span) _
      | logical operator =>
          refine composable.sequence (readPlace_composed composable _ span) fun current => ?_
          split
          · exact composable.yields _
          · refine composable.sequence valueHeld fun new => ?_
            exact composable.maps (composable.writes _ new span) _
  | .update operator prefixed target span => by
      rw [link]
      refine composable.sequence (composable.located target.span _) fun root => ?_
      refine composable.sequence (pathOf_composed target) fun path => ?_
      refine composable.sequence (readPlace_composed composable _ span) fun current => ?_
      refine composable.sequence (composable.located span _) fun old => ?_
      exact composable.maps (composable.writes _ _ span) _
  | .member owner property computed optional span => by
      have keyHeld := memberKey_composed composable property computed
        (orNull_composed composable (link_composed property))
      rw [link]
      refine composable.sequence (link_composed owner) fun owner? => ?_
      cases owner? with
      | none => exact composable.yields _
      | some container =>
          dsimp only
          split
          · exact composable.yields _
          · refine composable.sequence keyHeld fun key => ?_
            exact composable.maps (composable.located span _) _
  | .conditional test consequent alternate span => by
      rw [link]
      refine composable.sequence (orNull_composed composable (link_composed test)) fun value => ?_
      dsimp only
      split
      · exact composable.maps (orNull_composed composable (link_composed consequent)) _
      · exact composable.maps (orNull_composed composable (link_composed alternate)) _
  | .call callee arguments optional span => by
      rw [link]
      refine composable.sequence (link_composed callee) fun callee? => ?_
      cases callee? with
      | none => exact composable.yields _
      | some function =>
          dsimp only
          split
          · exact composable.yields _
          · split
            · refine composable.sequence (valuesOf_composed arguments) fun values => ?_
              exact composable.maps (composable.calls _ _ values) _
            · exact composable.fails _ _
  | .chain inner span => by
      rw [link]
      exact composable.maps (orNull_composed composable (link_composed inner)) _

theorem valuesOf_composed :
    (expressions : List Expression) → holds _ (valuesOf host implicit expressions)
  | [] => by
      rw [valuesOf]
      exact composable.yields _
  | expression :: rest => by
      rw [valuesOf]
      refine composable.sequence (orNull_composed composable (link_composed expression))
        fun value => ?_
      exact composable.maps (valuesOf_composed rest) _

theorem lastOf_composed :
    (expressions : List Expression) → (last : Value) →
      holds _ (lastOf host implicit expressions last)
  | [], last => by
      rw [lastOf]
      exact composable.yields _
  | expression :: rest, last => by
      rw [lastOf]
      refine composable.sequence (orNull_composed composable (link_composed expression))
        fun value => ?_
      exact lastOf_composed rest value

theorem entriesOf_composed :
    (properties : List Property) → (entries : Dict Value) →
      holds _ (entriesOf host implicit properties entries)
  | [], entries => by
      rw [entriesOf]
      exact composable.yields _
  | .mk key value computed :: rest, entries => by
      have keyHeld := entryKey_composed composable key computed
        (orNull_composed composable (link_composed key))
      rw [entriesOf]
      refine composable.sequence keyHeld fun name => ?_
      refine composable.sequence (orNull_composed composable (link_composed value)) fun value => ?_
      exact entriesOf_composed rest _

theorem pathOf_composed : (target : Expression) → holds _ (pathOf host implicit target)
  | .member owner property computed optional span => by
      have keyHeld := memberKey_composed composable property computed
        (orNull_composed composable (link_composed property))
      rw [pathOf]
      refine composable.sequence (pathOf_composed owner) fun path => ?_
      exact composable.maps keyHeld _
  | .literal .. | .identifier .. | .object .. | .array .. | .sequence .. | .logical .. | .binary ..
  | .unary .. | .assignment .. | .update .. | .conditional .. | .call .. | .chain .. => by
      simp only [pathOf]
      exact composable.yields _

end

theorem evaluate_composed (expression : Expression) :
    holds _ (expression.evaluate host implicit) :=
  orNull_composed composable (link_composed composable expression)

end Expression

/-! ## Walks -/

section Attributes

variable {host : Host σ} {implicit : Bool} {holds : (α : Type) → Action (Machine σ) α → Prop}
  (composable : Machine.Composable host implicit holds)
include composable

theorem Template.partsText_composed (parts : List Template) :
    holds _ (Template.partsText host implicit parts) := by
  induction parts with
  | nil =>
      rw [partsText]
      exact composable.yields _
  | cons part rest ih =>
      cases part with
      | text data span =>
          rw [partsText]
          exact composable.maps ih _
      | interpolation expression span =>
          rw [partsText]
          refine composable.sequence (expression.evaluate_composed composable) fun value => ?_
          exact composable.maps ih _
      | _ =>
          simp only [partsText]
          exact ih

theorem Attribute.evaluate_composed (entry : Attribute) :
    holds _ (entry.evaluate host implicit) := by
  unfold Attribute.evaluate
  split
  · exact composable.yields _
  · exact Expression.evaluate_composed composable _
  · exact composable.maps (Template.partsText_composed composable _) _

theorem Attributes.evaluate_composed (tag : String) (entries : List Attribute) :
    holds _ (Attributes.evaluate host implicit tag entries) := by
  have into : ∀ values, holds _ (Attributes.evaluateInto host implicit values entries) := by
    induction entries with
    | nil => exact fun values => composable.yields values
    | cons entry rest ih =>
        intro values
        rw [Attributes.evaluateInto]
        exact composable.sequence (entry.evaluate_composed composable) fun _ => ih _
  exact composable.maps (into ∅) _

end Attributes

section Walks

variable {host : Host σ} {implicit : Bool}
  {evaluates : (α : Type) → Action (Machine σ) α → Prop}
  {holds : (α : Type) → Action (Walk σ) α → Prop}
  (composable : Walk.Composable host implicit evaluates holds)
include composable

theorem Walk.closeTag_composed (name : String) (span : Span) :
    holds _ (Walk.closeTag name span) := by
  refine composable.sequence (composable.located span _) fun tag => ?_
  cases tag with
  | message => exact composable.operates _ span
  | content => exact composable.operates _ span
  | toolCall => exact composable.fails _ _

theorem Walk.element_composed (name : String) (attributes : List Attribute)
    (children : List Template) (closed : Bool) (span : Span) {inside : Action (Walk σ) Unit}
    (insideHeld : holds _ inside) :
    holds _ (Walk.element host implicit name attributes children closed span inside) := by
  have closes : ∀ operation : Draft.Operation,
      holds Unit (if closed then Walk.perform operation span else pure ()) := by
    intro operation
    split
    · exact composable.operates operation span
    · exact composable.yields ()
  refine composable.sequence (composable.located span _) fun tag => ?_
  refine composable.sequence (composable.evaluating
    (Attributes.evaluate_composed composable.machine name attributes)) fun given => ?_
  cases tag with
  | message implied =>
      refine composable.sequence (composable.located span _) fun role => ?_
      refine composable.sequence (composable.located span _) fun _ => ?_
      refine composable.sequence (composable.operates _ span) fun _ => ?_
      exact composable.sequence insideHeld fun _ => closes _
  | content implied =>
      refine composable.sequence (composable.located span _) fun kind => ?_
      refine composable.sequence (composable.operates _ span) fun _ => ?_
      exact composable.sequence insideHeld fun _ => closes _
  | toolCall =>
      refine composable.sequence (composable.located span _) fun call => ?_
      exact composable.operates _ span

mutual

theorem Template.walk_composed : (template : Template) → holds _ (template.walk host implicit)
  | .fragment children span => by
      rw [walk]
      exact walkAll_composed children
  | .text data span => by
      rw [walk]
      exact composable.operates _ span
  | .comment data span => by
      rw [walk]
      exact composable.yields ()
  | .interpolation expression span => by
      rw [walk]
      refine composable.sequence (composable.evaluating
        (expression.evaluate_composed composable.machine)) fun value => ?_
      split
      · exact composable.yields ()
      · exact composable.operates _ span
  | .element name attributes children closed span => by
      rw [walk]
      exact Walk.element_composed composable _ _ _ _ _ (walkAll_composed children)
  | .closing name span => by
      rw [walk]
      exact Walk.closeTag_composed composable name span
  | .branch test children otherwise span => by
      rw [walk]
      refine composable.sequence (composable.evaluating
        (test.evaluate_composed composable.machine)) fun value => ?_
      split
      · exact composable.opens _ (walkAll_composed children)
      · exact walkOtherwise_composed otherwise
  | .loop collection item index children otherwise span => by
      rw [walk]
      refine composable.sequence (composable.evaluating
        (collection.evaluate_composed composable.machine)) fun value => ?_
      refine composable.sequence (composable.located collection.span _) fun elements => ?_
      split
      · exact walkOtherwise_composed otherwise
      · exact composable.forEach fun element => composable.opens _ (walkAll_composed children)

theorem Template.walkAll_composed :
    (templates : List Template) → holds _ (Template.walkAll host implicit templates)
  | [] => by
      rw [walkAll]
      exact composable.yields ()
  | template :: rest => by
      rw [walkAll]
      exact composable.sequence (walk_composed template) fun _ => walkAll_composed rest

theorem Template.walkOtherwise_composed :
    (otherwise : Option (List Template)) → holds _ (Template.walkOtherwise host implicit otherwise)
  | none => by
      rw [walkOtherwise]
      exact composable.yields ()
  | some children => by
      rw [walkOtherwise]
      exact composable.opens _ (walkAll_composed children)

end

end Walks

end ChatTemplate
