import ChatTemplate.Proofs.Draft.Step
import ChatTemplate.Proofs.Flattening
import ChatTemplate.Proofs.Views

/-!
Text that is cut up. A text in a template may be cut into parts that follow one another at its
place, and a part may be interpolated as a literal instead. Templates that differ in nothing else
are compiled alike, moment by moment; only the record of operations shows the parts.
-/

set_option autoImplicit false

namespace ChatTemplate

variable {σ : Type}

/-! ## Cuts -/

namespace Template

/-- A row of nodes that stands for a text at a place. -/
inductive Pieces (span : Span) : String → List Template → Prop where
  | text (data : String) : Pieces span data [.text data span]
  | literal (data : String) (place : Span) :
      Pieces span data [.interpolation (.literal (.string data) place) span]
  | join {first second : String} {front back : List Template} (before : Pieces span first front)
      (after : Pieces span second back) : Pieces span (first ++ second) (front ++ back)

mutual

/-- The second template is the first with texts inside it cut up. -/
inductive Recut : Template → Template → Prop where
  | same (template : Template) : Recut template template
  | fragment {children children' : List Template} (inside : RecutAll children children')
      (span : Span) : Recut (.fragment children span) (.fragment children' span)
  | element {attributes attributes' : List Attribute} {children children' : List Template}
      (given : RecutAttributes attributes attributes') (inside : RecutAll children children')
      (name : String) (closed : Bool) (span : Span) :
      Recut (.element name attributes children closed span)
        (.element name attributes' children' closed span)
  | branch {children children' : List Template} {otherwise otherwise' : Option (List Template)}
      (inside : RecutAll children children') (other : RecutOtherwise otherwise otherwise')
      (test : Expression) (span : Span) :
      Recut (.branch test children otherwise span) (.branch test children' otherwise' span)
  | loop {children children' : List Template} {otherwise otherwise' : Option (List Template)}
      (inside : RecutAll children children') (other : RecutOtherwise otherwise otherwise')
      (collection : Expression) (item : String) (index : Option String) (span : Span) :
      Recut (.loop collection item index children otherwise span)
        (.loop collection item index children' otherwise' span)

inductive RecutAll : List Template → List Template → Prop where
  | nil : RecutAll [] []
  | text {span : Span} {data : String} {pieces rest rest' : List Template}
      (cut : Pieces span data pieces) (later : RecutAll rest rest') :
      RecutAll (.text data span :: rest) (pieces ++ rest')
  | node {template template' : Template} {rest rest' : List Template}
      (recut : Recut template template') (later : RecutAll rest rest') :
      RecutAll (template :: rest) (template' :: rest')

inductive RecutOtherwise : Option (List Template) → Option (List Template) → Prop where
  | none : RecutOtherwise none none
  | some {children children' : List Template} (inside : RecutAll children children') :
      RecutOtherwise (some children) (some children')

inductive RecutAttributes : List Attribute → List Attribute → Prop where
  | nil : RecutAttributes [] []
  | flag (name : String) (value : Bool) (span : Span) {rest rest' : List Attribute}
      (later : RecutAttributes rest rest') :
      RecutAttributes (.flag name value span :: rest) (.flag name value span :: rest')
  | parts (name : String) (span : Span) {parts parts' : List Template}
      {rest rest' : List Attribute} (inside : RecutAll parts parts')
      (later : RecutAttributes rest rest') :
      RecutAttributes (.parts name parts span :: rest) (.parts name parts' span :: rest')

end

/-- The first of the pieces of a text is a text itself, as a node or as a literal. -/
theorem Pieces.first {span : Span} {data : String} {pieces : List Template}
    (cut : Pieces span data pieces) :
    ∃ words place others, pieces = .text words span :: others ∨
      pieces = .interpolation (.literal (.string words) place) span :: others := by
  induction cut with
  | text data => exact ⟨data, {}, [], .inl rfl⟩
  | literal data place => exact ⟨data, place, [], .inr rfl⟩
  | @join first second front back _ _ ih _ =>
      obtain ⟨words, place, others, rfl | rfl⟩ := ih
      · exact ⟨words, place, others ++ back, .inl rfl⟩
      · exact ⟨words, place, others ++ back, .inr rfl⟩

theorem RecutAll.isEmpty {children children' : List Template}
    (recut : RecutAll children children') : children.isEmpty = children'.isEmpty := by
  cases recut with
  | nil => rfl
  | text cut later =>
      obtain ⟨words, place, others, rfl | rfl⟩ := cut.first
      · rfl
      · rfl
  | node recut later => rfl

end Template

/-! ## Text in attributes -/

section Attributes

variable (host : Host σ) (implicit : Bool)

theorem Template.partsText_append (first second : List Template) :
    Template.partsText host implicit (first ++ second) =
      Template.partsText host implicit first >>= fun text =>
        Template.partsText host implicit second >>= fun others => pure (text ++ others) := by
  induction first with
  | nil =>
      rw [List.nil_append, partsText, pure_bind]
      simp only [String.empty_append, bind_pure]
  | cons part rest ih =>
      cases part with
      | text data span =>
          simp only [List.cons_append, partsText, ih, bind_assoc, pure_bind, String.append_assoc]
      | interpolation expression span =>
          simp only [List.cons_append, partsText, ih, bind_assoc, pure_bind, String.append_assoc]
      | _ => simp only [List.cons_append, partsText, ih]

theorem Template.partsText_pieces {span : Span} {data : String} {pieces : List Template}
    (cut : Template.Pieces span data pieces) :
    Template.partsText host implicit pieces = pure data := by
  induction cut with
  | text data =>
      simp only [partsText, pure_bind, String.append_empty]
  | literal data place =>
      simp only [partsText, Expression.evaluate, Expression.link, Action.orNull, pure_bind,
        Option.getD_some, Value.ofLiteral, Value.text, String.append_empty]
  | join before after first second =>
      rw [partsText_append, first, second, pure_bind, pure_bind]

theorem Template.partsText_recut {parts parts' : List Template}
    (recut : Template.RecutAll parts parts') :
    Template.partsText host implicit parts = Template.partsText host implicit parts' := by
  induction parts generalizing parts' with
  | nil =>
      cases recut
      rfl
  | cons part rest ih =>
      cases recut with
      | text cut later =>
          rw [partsText_append, partsText_pieces host implicit cut, partsText, pure_bind, ih later]
      | node recut later =>
          have others := ih later
          cases recut with
          | same =>
              cases part with
              | _ => simp only [partsText, others]
          | _ => simp only [partsText, others]

/-- Parts that are not a single interpolation are joined as text. -/
theorem Attribute.evaluate_joined {parts : List Template} (name : String) (span : Span)
    (joined : ∀ expression place, parts ≠ [.interpolation expression place]) :
    (Attribute.parts name parts span).evaluate host implicit =
      Template.partsText host implicit parts >>= fun text => pure (.string text) := by
  unfold Attribute.evaluate
  split
  · rename_i same
    cases same
  · rename_i same
    cases same
    exact absurd rfl (joined _ _)
  · rename_i same
    cases same
    rfl

theorem Attribute.evaluate_text (name : String) (span : Span) (data : String) (place : Span)
    (rest : List Template) :
    (Attribute.parts name (.text data place :: rest) span).evaluate host implicit =
      Template.partsText host implicit (.text data place :: rest) >>= fun text =>
        pure (.string text) := by
  refine evaluate_joined host implicit name span fun expression place single => ?_
  have head := (List.cons.inj single).1
  cases head

/-- A single literal is the same value by itself and as text. -/
theorem Attribute.evaluate_pieces {span : Span} {data : String} {pieces : List Template}
    (cut : Template.Pieces span data pieces) (rest : List Template) (name : String) (place : Span) :
    (Attribute.parts name (pieces ++ rest) place).evaluate host implicit =
      Template.partsText host implicit (pieces ++ rest) >>= fun text => pure (.string text) := by
  obtain ⟨words, at', others, rfl | rfl⟩ := cut.first
  · exact evaluate_text host implicit name place words at' (others ++ rest)
  · cases more : others ++ rest with
    | nil =>
        rw [List.cons_append, more, Template.partsText, Template.partsText]
        simp only [Attribute.evaluate, Expression.evaluate, Expression.link, Action.orNull,
          pure_bind, Option.getD_some, Value.ofLiteral, Value.text, String.append_empty]
    | cons next further =>
        refine evaluate_joined host implicit name place fun expression span single => ?_
        rw [List.cons_append, more] at single
        cases single

theorem Attribute.evaluate_recut {parts parts' : List Template}
    (recut : Template.RecutAll parts parts') (name : String) (span : Span) :
    (Attribute.parts name parts span).evaluate host implicit =
      (Attribute.parts name parts' span).evaluate host implicit := by
  have texts := Template.partsText_recut host implicit recut
  cases recut with
  | nil => rfl
  | text cut later =>
      rw [evaluate_text host implicit name span, texts, evaluate_pieces host implicit cut]
  | @node part part' rest rest' recut later =>
      by_cases single : ∃ expression place, part :: rest = [.interpolation expression place]
      · obtain ⟨expression, place, same⟩ := single
        cases same
        cases recut
        cases later
        rfl
      · have joined : ∀ expression place, part :: rest ≠ [.interpolation expression place] :=
          fun expression place same => single ⟨expression, place, same⟩
        have joined' : ∀ expression place, part' :: rest' ≠ [.interpolation expression place] := by
          intro expression place same
          obtain ⟨rfl, rfl⟩ := List.cons.inj same
          have alone := List.isEmpty_iff.mp later.isEmpty
          cases recut
          exact single ⟨expression, place, by rw [alone]⟩
        rw [evaluate_joined host implicit name span joined, texts,
          evaluate_joined host implicit name span joined']

theorem Attributes.evaluateInto_recut (values : Dict Value) {entries entries' : List Attribute}
    (recut : Template.RecutAttributes entries entries') :
    Attributes.evaluateInto host implicit values entries =
      Attributes.evaluateInto host implicit values entries' := by
  induction entries generalizing entries' values with
  | nil =>
      cases recut
      rfl
  | cons entry rest ih =>
      cases recut with
      | flag name value span later =>
          rw [evaluateInto, evaluateInto]
          exact bind_congr fun _ => ih _ later
      | parts name span inside later =>
          rw [evaluateInto, evaluateInto, Attribute.evaluate_recut host implicit inside]
          exact bind_congr fun _ => ih _ later

end Attributes

/-! ## Walks apart from their records -/

theorem Action.Alike.forEach {τ α : Type} {view : σ → τ} {items : List α}
    {action action' : α → Action σ Unit}
    (alike : ∀ item, (action item).Alike view (action' item)) :
    (Action.forEach items action).Alike view (Action.forEach items action') := by
  induction items with
  | nil => exact fun _ _ same => congrArg (Task.done · _) same
  | cons item rest ih => exact (alike item).bind fun _ => ih

namespace Draft

private theorem placeWith_append (draft : Draft) (first second : String) (span : Span) :
    draft.placeWith (first ++ second) span =
      (draft.addTextAt first span).placeWith second span := by
  have blank : Text.isBlank (first ++ second) = (Text.isBlank first && Text.isBlank second) := by
    rw [Text.isBlank, String.toList_append, List.all_append]
    rfl
  rw [addTextAt_eq]
  simp only [placeWith, insideMessage, blank]
  grind

/-- Two texts that follow each other at one place are one text. -/
theorem addTextAt_append (draft : Draft) (first second : String) (span : Span) :
    draft.addTextAt (first ++ second) span =
      (draft.addTextAt first span).addTextAt second span := by
  rw [addTextAt_eq, addTextAt_eq (draft.addTextAt first span), placeWith_append, addTextAt_eq]
  simp only [String.append_assoc]

end Draft

namespace Walk

/-- A walk without its record of operations. -/
def unrecorded (walk : Walk σ) : Machine σ × Draft :=
  (walk.machine, walk.draft)

private theorem evaluating_alike {α : Type} (action : Action (Machine σ) α) :
    (evaluating action).Alike unrecorded (evaluating action) := by
  intro walk walk' same
  obtain ⟨machines, drafts⟩ := Prod.mk.inj same
  rw [evaluating, Action.focus, Action.focus, Task.mapState_mapState, Task.mapState_mapState,
    machines]
  simp only [unrecorded, drafts]

private theorem perform_alike (operation : Draft.Operation) (span : Span) :
    (perform operation span : Action (Walk σ) Unit).Alike unrecorded (perform operation span) := by
  intro walk walk' same
  obtain ⟨machines, drafts⟩ := Prod.mk.inj same
  rw [perform_eq, perform_eq, drafts]
  simp only [Task.mapState, unrecorded, machines]

/-- Two texts that are added at one place in a row are recorded apart, but lead to one text. -/
theorem perform_text_append (walk : Walk σ) (first second : String) (span : Span) :
    (perform (.addTextAt (first ++ second) span) span walk).mapState unrecorded =
      ((perform (.addTextAt first span) span >>= fun _ =>
        perform (.addTextAt second span) span) walk).mapState unrecorded := by
  change Task.done (walk.machine, walk.draft.addTextAt (first ++ second) span) (Except.ok ()) =
    .done (walk.machine, (walk.draft.addTextAt first span).addTextAt second span) (Except.ok ())
  rw [Draft.addTextAt_append]

private theorem unrecorded_changeScope {walk walk' : Walk σ}
    (same : walk.unrecorded = walk'.unrecorded) (change : Scope → Scope) :
    (walk.changeScope change).unrecorded = (walk'.changeScope change).unrecorded := by
  obtain ⟨machines, drafts⟩ := Prod.mk.inj same
  simp only [changeScope, unrecorded, machines, drafts]

private theorem inBlock_alike {body body' : Action (Walk σ) Unit}
    (alike : body.Alike unrecorded body') (bindings : List (String × Value)) :
    (inBlock bindings body).Alike unrecorded (inBlock bindings body') := by
  intro walk walk' same
  have scopes : walk.machine.scope = walk'.machine.scope := by
    obtain ⟨machines, drafts⟩ := Prod.mk.inj same
    rw [machines]
  rw [inBlock, inBlock, scopes]
  refine Task.mapState_bind_congr (alike _ _ (unrecorded_changeScope same _)) ?_
  intro final final' result ended left
  exact congrArg (Task.done · result) (unrecorded_changeScope left _)

theorem alike_composable (host : Host σ) (implicit : Bool) :
    Walk.Composable host implicit (fun _ _ => True) fun _ action =>
      action.Alike unrecorded action where
  yields _ _ _ same := congrArg (Task.done · _) same
  fails _ _ _ _ same := congrArg (Task.done · _) same
  sequence alike after := alike.bind after
  machine := ⟨⟨fun _ => trivial, fun _ _ => trivial, fun _ _ => trivial⟩, fun _ => trivial,
    fun _ _ _ => trivial, fun _ _ _ => trivial⟩
  evaluating _ := evaluating_alike _
  operates := perform_alike
  opens bindings _ alike := inBlock_alike alike bindings

end Walk

/-! ## Walks of templates that are cut up -/

namespace Template

section Walks

variable (host : Host σ) (implicit : Bool)

theorem walkAll_pieces {span : Span} {data : String} {pieces : List Template}
    (cut : Pieces span data pieces) :
    (Walk.perform (.addTextAt data span) span : Action (Walk σ) Unit).Alike Walk.unrecorded
      (walkAll host implicit pieces) := by
  induction cut with
  | text data =>
      rw [walkAll_singleton, walk]
      exact Walk.perform_alike _ span
  | literal data place =>
      rw [walkAll_singleton, walk]
      exact Walk.perform_alike _ span
  | @join first second front back _ _ before after =>
      -- The whole text is added like its halves, and the halves like their pieces.
      rw [walkAll_append]
      intro start start' same
      rw [← (before.bind fun _ => after) start start' same]
      exact Walk.perform_text_append start first second span

theorem Walk.element_alike {attributes attributes' : List Attribute}
    {children children' : List Template} {inside inside' : Action (Walk σ) Unit}
    (given : RecutAttributes attributes attributes')
    (filled : children.isEmpty = children'.isEmpty) (alike : inside.Alike Walk.unrecorded inside')
    (name : String) (closed : Bool) (span : Span) :
    (Walk.element host implicit name attributes children closed span inside).Alike Walk.unrecorded
      (Walk.element host implicit name attributes' children' closed span inside') := by
  have composable := Walk.alike_composable host implicit
  have closes : ∀ operation : Draft.Operation,
      (if closed then Walk.perform operation span else pure () : Action (Walk σ) Unit).Alike
        Walk.unrecorded (if closed then Walk.perform operation span else pure ()) := by
    intro operation
    split
    · exact Walk.perform_alike operation span
    · exact composable.yields ()
  have evaluated : Attributes.evaluate host implicit name attributes =
      Attributes.evaluate host implicit name attributes' := by
    rw [Attributes.evaluate, Attributes.evaluateInto_recut host implicit ∅ given]
    rfl
  rw [Walk.element, Walk.element, evaluated]
  refine (composable.located span _).bind fun tag => ?_
  refine (Walk.evaluating_alike _).bind fun attributes => ?_
  cases tag with
  | message implied =>
      refine (composable.located span _).bind fun role => ?_
      refine (composable.located span _).bind fun _ => ?_
      refine (Walk.perform_alike _ span).bind fun _ => ?_
      exact alike.bind fun _ => closes _
  | content implied =>
      refine (composable.located span _).bind fun kind => ?_
      refine (Walk.perform_alike _ span).bind fun _ => ?_
      exact alike.bind fun _ => closes _
  | toolCall =>
      have calls : attributes.toolCall children = attributes.toolCall children' := by
        rw [Attributes.toolCall, Attributes.toolCall, filled]
      rw [calls]
      exact (composable.located span _).bind fun call => Walk.perform_alike _ span

mutual

theorem walk_recut : (template : Template) → {template' : Template} → Recut template template' →
    (template.walk host implicit).Alike Walk.unrecorded (template'.walk host implicit)
  | template, _, .same _ => walk_composed (Walk.alike_composable host implicit) template
  | .fragment children _, _, .fragment inside _ => by
      rw [walk, walk]
      exact walkAll_recut children inside
  | .element _ _ children _ _, _, .element given inside name closed span => by
      rw [walk, walk]
      exact Walk.element_alike host implicit given inside.isEmpty (walkAll_recut children inside)
        name closed span
  | .branch _ children otherwise _, _, .branch inside other test span => by
      rw [walk, walk]
      refine (Walk.evaluating_alike _).bind fun value => ?_
      split
      · exact Walk.inBlock_alike (walkAll_recut children inside) _
      · exact walkOtherwise_recut otherwise other
  | .loop _ _ _ children otherwise _, _, .loop inside other collection item index span => by
      have composable := Walk.alike_composable host implicit
      rw [walk, walk]
      refine (Walk.evaluating_alike _).bind fun value => ?_
      refine (composable.located collection.span _).bind fun elements => ?_
      split
      · exact walkOtherwise_recut otherwise other
      · exact Action.Alike.forEach fun element =>
          Walk.inBlock_alike (walkAll_recut children inside) _

theorem walkAll_recut : (templates : List Template) → {templates' : List Template} →
    RecutAll templates templates' →
      (walkAll host implicit templates).Alike Walk.unrecorded (walkAll host implicit templates')
  | [], _, .nil => by
      rw [walkAll]
      exact (Walk.alike_composable host implicit).yields ()
  | .text data span :: rest, _, .text cut later => by
      rw [walkAll_append, walkAll, walk]
      exact (walkAll_pieces host implicit cut).bind fun _ => walkAll_recut rest later
  | template :: rest, _, .node recut later => by
      rw [walkAll, walkAll]
      exact (walk_recut template recut).bind fun _ => walkAll_recut rest later

theorem walkOtherwise_recut : (otherwise : Option (List Template)) →
    {otherwise' : Option (List Template)} → RecutOtherwise otherwise otherwise' →
      (walkOtherwise host implicit otherwise).Alike Walk.unrecorded
        (walkOtherwise host implicit otherwise')
  | none, _, .none => by
      rw [walkOtherwise]
      exact (Walk.alike_composable host implicit).yields ()
  | some children, _, .some inside => by
      rw [walkOtherwise, walkOtherwise]
      exact Walk.inBlock_alike (walkAll_recut children inside) _

end

end Walks

private theorem render_recut (settings : Settings) (host : Host σ) {template template' : Template}
    (recut : Recut template template') (machine : Machine σ) :
    template.render settings host machine = template'.render settings host machine := by
  -- The document is ended, and the machine taken, without a look at the record.
  have finishes : (Walk.finish : Action (Walk σ) (List Message)).Alike Walk.unrecorded
      Walk.finish := by
    intro walk walk' same
    obtain ⟨machines, drafts⟩ := Prod.mk.inj same
    rw [Walk.finish, Walk.finish, drafts]
    exact congrArg (Task.done · _) same
  have walked := (walk_recut host settings.implicitDeclarations template recut).bind fun _ =>
    finishes
  have viewed := congrArg (Task.mapState Prod.fst)
    (walked ⟨machine, Draft.ofSettings settings, #[]⟩ _ rfl)
  rw [Task.mapState_mapState, Task.mapState_mapState] at viewed
  exact viewed

/-- Only what the texts of a template are together matters, not how they are cut up: not for the
messages, not for the failure and where it is, and not for the calls of the host. -/
theorem compiled_alike_of_recut {template template' : Template} (recut : Recut template template')
    (settings : Settings) (host : Host σ) :
    (∀ walk : Walk σ,
      (template.walk host settings.implicitDeclarations walk).mapState Walk.unrecorded =
        (template'.walk host settings.implicitDeclarations walk).mapState Walk.unrecorded) ∧
    (∀ registry now scope world,
      template.compile settings registry host now scope world =
        template'.compile settings registry host now scope world) ∧
    ∀ registry now interruption scope world,
      template.compileWithin settings registry host now interruption scope world =
        template'.compileWithin settings registry host now interruption scope world := by
  have compiled : ∀ registry now scope world,
      template.compile settings registry host now scope world =
        template'.compile settings registry host now scope world :=
    fun _ _ _ _ => render_recut settings host recut _
  refine ⟨fun walk => walk_recut host _ template recut walk walk rfl, compiled, ?_⟩
  intro registry now interruption scope world
  rw [compileWithin, compileWithin, compiled]

/-- A message for each of two guests, with a text before the guest's name. -/
def invitation (greeting : List Template) (note : List Template) : Template :=
  .loop (.array [.literal (.string "Ada") {}, .literal (.string "Alan") {}] {}) "guest" none
    [.element "user" [.parts "name" note {}]
      (greeting ++ [.interpolation (.identifier "guest" {}) {}]) true {}] none {}

theorem invitation_compiled_alike :
    Recut (invitation [.text "Dear " {}] [.text "to be read" {}])
        (invitation [.text "De" {}, .text "ar" {}, .interpolation (.literal (.string " ") {}) {}]
          [.interpolation (.literal (.string "to be read") {}) {}]) ∧
      (invitation [.text "De" {}, .text "ar" {}, .interpolation (.literal (.string " ") {}) {}]
          [.interpolation (.literal (.string "to be read") {}) {}]).compile {} {} Host.silent 0
          .empty () =
        (invitation [.text "Dear " {}] [.text "to be read" {}]).compile {} {} Host.silent 0
          .empty () := by
  have recut : Recut (invitation [.text "Dear " {}] [.text "to be read" {}])
      (invitation [.text "De" {}, .text "ar" {}, .interpolation (.literal (.string " ") {}) {}]
        [.interpolation (.literal (.string "to be read") {}) {}]) := by
    have greeting : Pieces {} "Dear "
        [.text "De" {}, .text "ar" {}, .interpolation (.literal (.string " ") {}) {}] :=
      .join (.text "De") (.join (.text "ar") (.literal " " {}))
    have note : Pieces {} "to be read" [.interpolation (.literal (.string "to be read") {}) {}] :=
      .literal "to be read" {}
    refine .loop (.node (.element (.parts _ _ ?_ .nil) ?_ _ _ _) .nil) .none _ _ _ _
    · exact .text note .nil
    · exact .text greeting (.node (.same _) .nil)
  exact ⟨recut, ((compiled_alike_of_recut recut {} Host.silent).2.1 {} 0 .empty ()).symm⟩

end Template

end ChatTemplate
