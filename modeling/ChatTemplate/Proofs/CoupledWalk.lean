import ChatTemplate.Proofs.CoupledEvaluation

/-!
Walks in pairs. Walks of one template are coupled, with the deeds of the second, when evaluations,
operations on the draft and blocks are. A block may be entered in one way of belonging together and
gone through in another, which is why the couplings come as a family.
-/

set_option autoImplicit false

namespace ChatTemplate

variable {σ ι : Type}

/-! ## Attributes -/

section Attributes

variable {coupling : Coupling (Machine σ) (Machine σ) (Deed σ)} {host : Host σ}
  {implicit implicit' : Bool} {all : List Expression}

theorem Template.partsText_coupled
    (joining : Machine.Joining coupling host implicit implicit' all) :
    (parts : List Template) → Template.expressionsAll parts ⊆ all →
      Action.Coupled coupling (Template.partsText host implicit parts)
        (Template.partsText host implicit' parts)
        fun machine => Template.partsDeeds host implicit' parts machine
  | [], _ => by
      simp only [partsText, partsDeeds]
      exact Action.coupled_pure _
  | part :: rest, within => by
      simp only [Template.expressionsAll, List.append_subset] at within
      have others := partsText_coupled joining rest within.2
      cases part with
      | text data span =>
          simp only [partsText, partsDeeds]
          exact others.before fun _ => Action.coupled_pure _
      | interpolation expression span =>
          simp only [partsText, partsDeeds]
          refine (expression.evaluate_coupled joining within.1).bind fun value => ?_
          exact others.before fun _ => Action.coupled_pure _
      | _ =>
          simp only [partsText, partsDeeds]
          exact others

theorem Attribute.evaluate_coupled (joining : Machine.Joining coupling host implicit implicit' all)
    (entry : Attribute) (within : entry.expressions ⊆ all) :
    Action.Coupled coupling (entry.evaluate host implicit) (entry.evaluate host implicit')
      fun machine => entry.deeds host implicit' machine := by
  unfold Attribute.evaluate
  split
  · exact Action.coupled_pure _
  · rename_i expression _ _
    simp only [Attribute.expressions, Template.expressionsAll, Template.expressions,
      List.append_nil] at within
    refine (expression.evaluate_coupled joining within).congr fun machine => ?_
    simp [Attribute.deeds, Template.partsDeeds]
  · exact (Template.partsText_coupled joining _ within).before fun _ => Action.coupled_pure _

theorem Attributes.evaluateInto_coupled
    (joining : Machine.Joining coupling host implicit implicit' all) (entries : List Attribute)
    (within : Attribute.expressionsAll entries ⊆ all) (values : Dict Value) :
    Action.Coupled coupling (evaluateInto host implicit values entries)
      (evaluateInto host implicit' values entries)
      fun machine => Attributes.deeds host implicit' entries machine := by
  induction entries generalizing values with
  | nil =>
      simp only [evaluateInto, Attributes.deeds]
      exact Action.coupled_pure _
  | cons entry rest ih =>
      simp only [Attribute.expressionsAll, List.append_subset] at within
      simp only [evaluateInto, Attributes.deeds]
      exact (entry.evaluate_coupled joining within.1).bind fun _ => ih within.2 _

theorem Attributes.evaluate_coupled
    (joining : Machine.Joining coupling host implicit implicit' all) (tag : String)
    (entries : List Attribute) (within : Attribute.expressionsAll entries ⊆ all) :
    Action.Coupled coupling (Attributes.evaluate host implicit tag entries)
      (Attributes.evaluate host implicit' tag entries)
      fun machine => Attributes.deeds host implicit' entries machine :=
  (evaluateInto_coupled joining entries within ∅).before fun _ => Action.coupled_pure _

end Attributes

/-! ## Walks -/

/-- The steps of a walk are coupled: evaluations, the operations that nodes do on the draft, and
blocks, given that what stands inside them is coupled in every way of the family. -/
structure Walk.Joining (outer : ι → Coupling (Walk σ) (Walk σ) (Deed σ))
    (inner : ι → Coupling (Machine σ) (Machine σ) (Deed σ)) (host : Host σ)
    (implicit implicit' : Bool) (parts : List Template) (all : List Expression) : Prop where
  machine : ∀ index, Machine.Joining (inner index) host implicit implicit' all
  evaluating : ∀ index {α : Type} (action action' : Action (Machine σ) α) deeds,
    Action.Coupled (inner index) action action' deeds →
      Action.Coupled (outer index) (Walk.evaluating action) (Walk.evaluating action')
        fun walk => deeds walk.machine
  perform : ∀ index, ∀ node ∈ parts, ∀ operation, node.Does operation → operation.Walked →
    Action.Coupled (outer index) (Walk.perform operation node.span)
      (Walk.perform operation node.span) fun _ => []
  block : ∀ index bindings body body' deeds,
    (∀ index, Action.Coupled (outer index) body body' deeds) →
      Action.Coupled (outer index) (Walk.inBlock bindings body) (Walk.inBlock bindings body')
        fun walk => deeds (walk.entered bindings)

section Walks

variable {outer : ι → Coupling (Walk σ) (Walk σ) (Deed σ)}
  {inner : ι → Coupling (Machine σ) (Machine σ) (Deed σ)} {host : Host σ}
  {implicit implicit' : Bool} {parts : List Template} {all : List Expression}

theorem Walk.closeTag_coupled
    (joining : Walk.Joining outer inner host implicit implicit' parts all) {name : String}
    {span : Span} (member : Template.closing name span ∈ parts) (index : ι) :
    Action.Coupled (outer index) (Walk.closeTag name span) (Walk.closeTag name span)
      fun _ => [] := by
  refine Action.Coupled.located_quiet fun tag tagged => ?_
  cases tag with
  | message => exact joining.perform index _ member .closeMessage (.endMessage tagged) trivial
  | content => exact joining.perform index _ member .closeContent (.endContent tagged) trivial
  | toolCall => exact Action.coupled_failAt _ _

theorem Walk.element_coupled
    (joining : Walk.Joining outer inner host implicit implicit' parts all) {name : String}
    {attributes : List Attribute} {children : List Template} {closed : Bool} {span : Span}
    (member : Template.element name attributes children closed span ∈ parts)
    (within : Attribute.expressionsAll attributes ⊆ all) (index : ι)
    {inside inside' : Action (Walk σ) Unit} {deeds : Walk σ → List (Deed σ)}
    (insideCoupled : Action.Coupled (outer index) inside inside' deeds) :
    Action.Coupled (outer index)
      (Walk.element host implicit name attributes children closed span inside)
      (Walk.element host implicit' name attributes children closed span inside')
      (Walk.elementDeeds host implicit' name attributes span deeds) := by
  have closes : ∀ operation : Draft.Operation, operation.Walked →
      (Template.element name attributes children closed span).Does operation →
      Action.Coupled (outer index) (if closed then Walk.perform operation span else pure ())
        (if closed then Walk.perform operation span else pure ()) fun _ => [] := by
    intro operation walked does
    split
    · exact joining.perform index _ member operation does walked
    · exact Action.coupled_pure ()
  refine Action.Coupled.located fun tag tagged => ?_
  refine (joining.evaluating index _ _ _ (Attributes.evaluate_coupled (joining.machine index) name
    attributes within)).bind fun given => ?_
  cases tag with
  | message implied =>
      refine Action.Coupled.located fun role _ => ?_
      refine Action.Coupled.located fun _ checked => ?_
      have reserved := Attributes.contains_toJson_of_checked checked
      refine (joining.perform index _ member _ (.openMessage tagged role _) reserved).behind
        fun _ => ?_
      exact insideCoupled.before fun _ => closes .closeMessage trivial (.closeMessage tagged)
  | content implied =>
      refine Action.Coupled.located fun kind _ => ?_
      refine (joining.perform index _ member _ (.openContent tagged kind) trivial).behind
        fun _ => ?_
      exact insideCoupled.before fun _ => closes .closeContent trivial (.closeContent tagged)
  | toolCall =>
      refine Action.Coupled.located_quiet fun call accepted => ?_
      have object := Attributes.arguments_of_toolCall accepted
      exact joining.perform index _ member _ (.addToolCall tagged call) object

mutual

theorem Template.walk_coupled
    (joining : Walk.Joining outer inner host implicit implicit' parts all) :
    (template : Template) → template.nodes ⊆ parts → template.expressions ⊆ all → ∀ index,
      Action.Coupled (outer index) (template.walk host implicit) (template.walk host implicit')
        fun walk => template.deeds host implicit' walk
  | .fragment children span, among, within, index => by
      simp only [walk, deeds]
      exact walkAll_coupled joining children (List.cons_subset.mp among).2 within index
  | .text data span, among, _, index => by
      simp only [walk, deeds]
      exact joining.perform index _ (among (mem_nodes_self _)) _ (.text data span) trivial
  | .comment data span, _, _, index => by
      simp only [walk, deeds]
      exact Action.coupled_pure ()
  | .interpolation expression span, among, within, index => by
      have evaluates := joining.evaluating index _ _ _
        (expression.evaluate_coupled (joining.machine index) within)
      simp only [walk, deeds]
      refine evaluates.before fun value => ?_
      split
      · exact Action.coupled_pure ()
      · have does := Does.value expression value.text span
        exact joining.perform index _ (among (mem_nodes_self _)) _ does trivial
  | .element name attributes children closed span, among, within, index => by
      simp only [expressions, List.append_subset] at within
      have member := among (mem_nodes_self _)
      have insideCoupled :=
        walkAll_coupled joining children (List.cons_subset.mp among).2 within.2 index
      simp only [walk, deeds]
      exact Walk.element_coupled joining member within.1 index insideCoupled
  | .closing name span, among, _, index => by
      simp only [walk, deeds]
      exact Walk.closeTag_coupled joining (among (mem_nodes_self _)) index
  | .branch test children otherwise span, among, within, index => by
      simp only [expressions, List.append_subset] at within
      simp only [nodes, inside, List.cons_subset, List.append_subset] at among
      have tests := joining.evaluating index _ _ _
        (test.evaluate_coupled (joining.machine index) within.1.1)
      have childrenCoupled := walkAll_coupled joining children among.2.1 within.1.2
      simp only [walk, deeds]
      refine tests.bind fun value => ?_
      split
      · exact joining.block index _ _ _ _ childrenCoupled
      · exact walkOtherwise_coupled joining otherwise among.2.2 within.2 index
  | .loop collection item position children otherwise span, among, within, index => by
      simp only [expressions, List.append_subset] at within
      simp only [nodes, inside, List.cons_subset, List.append_subset] at among
      have collects := joining.evaluating index _ _ _
        (collection.evaluate_coupled (joining.machine index) within.1.1)
      have childrenCoupled := walkAll_coupled joining children among.2.1 within.1.2
      simp only [walk, deeds]
      refine collects.bind fun value => ?_
      refine Action.Coupled.located fun elements _ => ?_
      split
      · exact walkOtherwise_coupled joining otherwise among.2.2 within.2 index
      · exact Action.Coupled.forEach fun element => joining.block index _ _ _ _ childrenCoupled

theorem Template.walkAll_coupled
    (joining : Walk.Joining outer inner host implicit implicit' parts all) :
    (templates : List Template) → Template.insideAll templates ⊆ parts →
      Template.expressionsAll templates ⊆ all → ∀ index,
      Action.Coupled (outer index) (Template.walkAll host implicit templates)
        (Template.walkAll host implicit' templates)
        fun walk => Template.allDeeds host implicit' templates walk
  | [], _, _, index => by
      simp only [walkAll, allDeeds]
      exact Action.coupled_pure ()
  | template :: rest, among, within, index => by
      simp only [expressionsAll, List.append_subset] at within
      simp only [insideAll, List.append_subset] at among
      simp only [walkAll, allDeeds]
      exact (walk_coupled joining template among.1 within.1 index).bind fun _ =>
        walkAll_coupled joining rest among.2 within.2 index

theorem Template.walkOtherwise_coupled
    (joining : Walk.Joining outer inner host implicit implicit' parts all) :
    (otherwise : Option (List Template)) → Template.insideOtherwise otherwise ⊆ parts →
      Template.expressionsOtherwise otherwise ⊆ all → ∀ index,
      Action.Coupled (outer index) (Template.walkOtherwise host implicit otherwise)
        (Template.walkOtherwise host implicit' otherwise)
        fun walk => Template.otherwiseDeeds host implicit' otherwise walk
  | none, _, _, index => by
      simp only [walkOtherwise, otherwiseDeeds]
      exact Action.coupled_pure ()
  | some children, among, within, index => by
      simp only [walkOtherwise, otherwiseDeeds]
      exact joining.block index _ _ _ _ (walkAll_coupled joining children among within)

end

end Walks

/-! ## Couplings of machines seen in walks -/

/-- A coupling with another way of belonging together. -/
def Coupling.with {τ υ ε : Type} (base : Coupling τ υ ε) (alike : τ → υ → Prop) :
    Coupling τ υ ε :=
  { base with alike }

/-- The coupling of walks by their machines, with drafts that are held in a relation while the same
operations are done. Operations may be refused in the second walk. -/
def Walk.coupling (machine : Coupling (Machine σ) (Machine σ) (Deed σ))
    (held : Draft → Draft → Array Draft.Operation → Prop)
    (refused : Draft → Array Draft.Operation → Failure → Prop) :
    Coupling (Walk σ) (Walk σ) (Deed σ) where
  alike walk walk' := machine.alike walk.machine walk'.machine ∧
    walk.operations = walk'.operations ∧ held walk.draft walk'.draft walk'.operations
  seen walk walk' := machine.seen walk.machine walk'.machine
  course start deeds walk := machine.course start.machine deeds walk.machine
  quit deeds walk failure := machine.quit deeds walk.machine failure ∨
    refused walk.draft walk.operations failure
  later walk' walk := machine.later walk'.machine walk.machine
  stay walk := machine.stay walk.machine
  proceed := machine.proceed
  behind quit := quit.imp machine.behind id

/-- The machine that a block is gone through in. -/
def Machine.entered (bindings : List (String × Value)) (machine : Machine σ) : Machine σ :=
  { machine with
    scope := bindings.foldl (fun scope binding => scope.declare binding.1 binding.2)
      machine.scope.push.2 }

/-- The machine behind a block that was entered in another one. -/
def Machine.leaving (outer machine : Machine σ) : Machine σ :=
  { machine with scope := machine.scope.rewind outer.scope.push.1 }

/-- What is said of the way between two machines does not depend on their variables. -/
structure Machine.Unscoped (base : Coupling (Machine σ) (Machine σ) (Deed σ)) : Prop where
  course : ∀ start deeds machine scope scope', base.course { start with scope } deeds machine →
    base.course start deeds { machine with scope := scope' }
  quit : ∀ deeds machine failure scope, base.quit deeds machine failure →
    base.quit deeds { machine with scope } failure
  later : ∀ machine' machine scope scope', base.later machine' machine →
    base.later { machine' with scope := scope' } { machine with scope }

section Couplings

variable {base : Coupling (Machine σ) (Machine σ) (Deed σ)}
  {alike : ι → Machine σ → Machine σ → Prop}
  {held : Draft → Draft → Array Draft.Operation → Prop}
  {refused : Draft → Array Draft.Operation → Failure → Prop}

theorem Walk.evaluating_coupled {machine : Coupling (Machine σ) (Machine σ) (Deed σ)} {α : Type}
    {action action' : Action (Machine σ) α} {deeds : Machine σ → List (Deed σ)}
    (coupled : Action.Coupled machine action action' deeds) :
    Action.Coupled (Walk.coupling machine held refused) (Walk.evaluating action)
      (Walk.evaluating action') fun walk => deeds walk.machine where
  along walk' walk same := by
    obtain ⟨machines, operations, drafts⟩ := same
    refine (coupled.along walk'.machine walk.machine machines).mapState ?_ ?_ ?_
    · exact fun _ _ underway => underway
    · intro after result after' result' agreed
      obtain ⟨alikes, equal, course⟩ := agreed
      exact ⟨⟨alikes, operations, drafts⟩, equal, course⟩
    · intro rest after' result' quitted
      obtain ⟨failure, failed, quit, later⟩ := quitted
      exact ⟨failure, failed, .inl quit, later.mapState (fun _ seen => seen) fun _ _ ends => ends⟩
  lasting walk' walk later :=
    (coupled.lasting walk'.machine walk.machine later).mapState (fun _ seen => seen)
      fun _ _ ends => ends

/-- A block may be entered in one way of belonging together and gone through in another, if what is
left behind it belongs together as before. -/
theorem Walk.inBlock_coupled (unscoped : Machine.Unscoped base) {index : ι}
    {bindings : List (String × Value)} {body body' : Action (Walk σ) Unit}
    {deeds : Walk σ → List (Deed σ)}
    (enters : ∀ machine machine', alike index machine machine' → ∃ deeper,
      alike deeper (machine.entered bindings) (machine'.entered bindings) ∧
        ∀ after after', alike deeper after after' →
          alike index (machine.leaving after) (machine'.leaving after'))
    (coupled : ∀ index, Action.Coupled (Walk.coupling (base.with (alike index)) held refused) body
      body' deeds) :
    Action.Coupled (Walk.coupling (base.with (alike index)) held refused)
      (Walk.inBlock bindings body) (Walk.inBlock bindings body')
      fun walk => deeds (walk.entered bindings) where
  along walk' walk same := by
    obtain ⟨machines, operations, drafts⟩ := same
    obtain ⟨deeper, entered, leaves⟩ := enters walk.machine walk'.machine machines
    have inside := (coupled deeper).along (walk'.entered bindings) (walk.entered bindings)
      ⟨entered, operations, drafts⟩
    -- The way from the opened block to a state is seen as the way from the state around it.
    have outside : ∀ made during, base.course (walk'.entered bindings).machine made during →
        base.course walk'.machine made during := fun made during course =>
      unscoped.course walk'.machine made during _ during.scope course
    refine Task.Leads.bind (inside.mono ?_ (fun _ _ _ _ agreed => agreed)
      fun _ _ _ quitted => quitted) ?_ ?_
    · intro during during' underway
      obtain ⟨seen, made, within, course⟩ := underway
      exact ⟨seen, made, within, outside made _ course⟩
    · intro after result after' result' agreed
      obtain ⟨⟨machines, operations, drafts⟩, equal, course⟩ := agreed
      have left := leaves after.machine after'.machine machines
      exact .done ⟨⟨left, operations, drafts⟩, equal, unscoped.course _ _ _ _ _ course⟩
    · intro rest after' result' quitted
      obtain ⟨failure, rfl, quit, later⟩ := quitted
      refine .quit ⟨failure, rfl, quit.imp (unscoped.quit _ _ _ _) id, ?_⟩
      have later : rest.Always (fun during =>
          base.later (walk'.machine.leaving after'.machine) during.machine)
          fun during _ => base.later after'.machine during.machine :=
        later.imp (fun during seen => unscoped.later _ _ during.machine.scope _ seen)
          fun _ _ ends => ends
      exact later.bind fun during _ seen => unscoped.later _ _ _ _ seen
  lasting walk' walk later := by
    have entered : base.later walk'.machine (walk.entered bindings).machine :=
      unscoped.later _ _ _ walk'.machine.scope later
    refine ((coupled index).lasting walk' (walk.entered bindings) entered).bind ?_
    exact fun during _ seen => unscoped.later _ _ _ walk'.machine.scope seen

end Couplings

end ChatTemplate
