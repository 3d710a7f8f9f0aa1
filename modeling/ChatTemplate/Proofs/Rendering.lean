import ChatTemplate.Proofs.Evaluation
import ChatTemplate.Rendering

/-!
What a walk does. A walk evaluates expressions, does a few kinds of operations on its draft and
opens blocks, and it may fail at the nodes of its template. A contract that all these meet is met by
the walk of every template; for a promise nothing has to be said of failures.
-/

set_option autoImplicit false

namespace ChatTemplate

variable {σ : Type}

/-! ## Attributes -/

section Attributes

variable {contract : Contract (Machine σ)} {host : Host σ} {implicit : Bool} {all : List Expression}

theorem Template.partsText_meets (meeting : Machine.Meeting contract host implicit all) :
    (parts : List Template) → Template.expressionsAll parts ⊆ all →
      (Template.partsText host implicit parts).Meets contract
  | [], _ => by
      rw [partsText]
      exact Action.meets_pure _
  | part :: rest, within => by
      simp only [Template.expressionsAll, List.append_subset] at within
      have restMeets := partsText_meets meeting rest within.2
      cases part with
      | text data span =>
          rw [partsText]
          exact restMeets.bind fun _ => Action.meets_pure _
      | interpolation expression span =>
          rw [partsText]
          refine (expression.evaluate_meets meeting within.1).bind fun _ => ?_
          exact restMeets.bind fun _ => Action.meets_pure _
      | _ =>
          simp only [partsText]
          exact restMeets

theorem Attribute.evaluate_meets (meeting : Machine.Meeting contract host implicit all)
    (entry : Attribute) (within : entry.expressions ⊆ all) :
    (entry.evaluate host implicit).Meets contract := by
  unfold Attribute.evaluate
  split
  · exact Action.meets_pure _
  · rename_i expression _ _
    simp only [Attribute.expressions, Template.expressionsAll, Template.expressions,
      List.append_nil] at within
    exact expression.evaluate_meets meeting within
  · exact (Template.partsText_meets meeting _ within).bind fun _ => Action.meets_pure _

theorem Attributes.evaluateInto_meets (meeting : Machine.Meeting contract host implicit all)
    (entries : List Attribute) (within : Attribute.expressionsAll entries ⊆ all)
    (values : Dict Value) : (evaluateInto host implicit values entries).Meets contract := by
  induction entries generalizing values with
  | nil => exact Action.meets_pure _
  | cons entry rest ih =>
      simp only [Attribute.expressionsAll, List.append_subset] at within
      rw [evaluateInto]
      exact (entry.evaluate_meets meeting within.1).bind fun _ => ih within.2 _

theorem Attributes.evaluate_meets (meeting : Machine.Meeting contract host implicit all)
    (tag : String) (entries : List Attribute) (within : Attribute.expressionsAll entries ⊆ all) :
    (Attributes.evaluate host implicit tag entries).Meets contract :=
  (evaluateInto_meets meeting entries within ∅).bind fun _ => Action.meets_pure _

end Attributes

theorem Attributes.evaluate_keeps {promise : Promise (Machine σ)} {host : Host σ}
    {implicit : Bool} {all : List Expression}
    (keeping : Machine.Keeping promise host implicit all) (tag : String) (entries : List Attribute)
    (within : Attribute.expressionsAll entries ⊆ all) :
    (Attributes.evaluate host implicit tag entries).Keeps promise :=
  Action.keeps_iff_meets.mpr (Attributes.evaluate_meets keeping.meeting tag entries within)

/-- The attributes that a message tag leaves for the message have no field's name. -/
theorem Attributes.contains_toJson_of_checked {attributes : Attributes}
    (checked : attributes.checkMessageFields = .ok ()) :
    ∀ name ∈ Message.reservedFields, attributes.toJson.has name = false := by
  intro name reserved
  unfold checkMessageFields at checked
  split at checked
  · cases checked
  · rename_i none
    simpa [toJson, Dict.has_mapValues] using List.find?_eq_none.mp none name reserved

theorem Attributes.arguments_of_callArguments {value : Option Value} {arguments : Json}
    (accepted : callArguments value = .ok arguments) :
    ∃ entries, arguments = .object entries := by
  unfold callArguments at accepted
  split at accepted
  · cases accepted
    exact ⟨_, rfl⟩
  · cases accepted
    exact ⟨_, rfl⟩
  · cases accepted
    exact ⟨_, rfl⟩
  · split at accepted
    · cases accepted
      exact ⟨_, rfl⟩
    · cases accepted
  · cases accepted

/-- A tool call consists of what is taken out of its tag's attributes, one after the other. -/
theorem Attributes.parts_of_toolCall {attributes : Attributes} {children : List Template}
    {call : ToolCall} (accepted : attributes.toolCall children = .ok call) :
    (attributes.takeRequired "id").1 = .ok call.id ∧
      ((attributes.takeRequired "id").2.takeRequired "name").1 = .ok call.name ∧
      ∃ value, callArguments value = .ok call.arguments := by
  simp only [toolCall] at accepted
  split at accepted
  · cases accepted
  · obtain ⟨id, hasId, accepted⟩ := except_bind_ok accepted
    obtain ⟨name, hasName, accepted⟩ := except_bind_ok accepted
    obtain ⟨arguments, given, accepted⟩ := except_bind_ok accepted
    cases accepted
    exact ⟨hasId, hasName, _, given⟩

theorem Attributes.arguments_of_toolCall {attributes : Attributes} {children : List Template}
    {call : ToolCall} (accepted : attributes.toolCall children = .ok call) :
    ∃ entries, call.arguments = .object entries := by
  obtain ⟨-, -, value, given⟩ := parts_of_toolCall accepted
  exact arguments_of_callArguments given

/-! ## Walks -/

/-- The host that answers every call with null. -/
def Host.silent : Host Unit := ⟨fun _ _ world => .done world (.ok .null)⟩

def Draft.Operation.Walked : Operation → Prop
  | .openMessage _ attributes _ =>
      ∀ name ∈ Message.reservedFields, attributes.has name = false
  | .addToolCall placed => ∃ entries, placed.call.arguments = .object entries
  | .closeMessage | .openContent .. | .closeContent | .addTextAt .. => True
  | _ => False

/-- An operation is over at once; the walk that it leaves does not depend on its result. -/
theorem Walk.perform_eq (operation : Draft.Operation) (span : Span) (walk : Walk σ) :
    Walk.perform operation span walk =
      .done { walk with
          draft := (walk.draft.apply operation).2
          operations := walk.operations.push operation }
        (match (walk.draft.apply operation).1 with
          | .ok () => .ok ()
          | .error cause =>
              .error ⟨cause, some (((walk.draft.apply operation).2.origin? cause).getD span)⟩) := by
  unfold Walk.perform
  rcases walk.draft.apply operation with ⟨_ | _, _⟩
  · rfl
  · rfl

/-- What a walk consists of keeps a promise: evaluations that keep a promise about the machine,
operations on the draft, and blocks. -/
structure Walk.Keeping (promise : Promise (Walk σ)) (inner : Promise (Machine σ)) (host : Host σ)
    (implicit : Bool) (all : List Expression) : Prop where
  machine : Machine.Keeping inner host implicit all
  evaluating : ∀ {α : Type} (action : Action (Machine σ) α), action.Keeps inner →
    (Walk.evaluating action).Keeps promise
  perform : ∀ operation span, operation.Walked → (Walk.perform operation span).Keeps promise
  block : ∀ bindings body, body.Keeps promise → (Walk.inBlock bindings body).Keeps promise

/-- The operations on the draft that a node of a template does itself, at its own place. -/
inductive Template.Does : Template → Draft.Operation → Prop where
  | text (data : String) (place : Span) : Does (.text data place) (.addTextAt data place)
  | value (expression : Expression) (text : String) (place : Span) :
      Does (.interpolation expression place) (.addTextAt text place)
  | openMessage {name : String} {implied : Option Role} {attributes : List Attribute}
      {children : List Template} {closed : Bool} {place : Span}
      (tag : Tag.ofName name = .ok (.message implied)) (role : Role) (fields : Dict Json) :
      Does (.element name attributes children closed place) (.openMessage role fields place)
  | closeMessage {name : String} {implied : Option Role} {attributes : List Attribute}
      {children : List Template} {closed : Bool} {place : Span}
      (tag : Tag.ofName name = .ok (.message implied)) :
      Does (.element name attributes children closed place) .closeMessage
  | openContent {name : String} {implied : Option ContentKind} {attributes : List Attribute}
      {children : List Template} {closed : Bool} {place : Span}
      (tag : Tag.ofName name = .ok (.content implied)) (kind : ContentKind) :
      Does (.element name attributes children closed place) (.openContent kind place)
  | closeContent {name : String} {implied : Option ContentKind} {attributes : List Attribute}
      {children : List Template} {closed : Bool} {place : Span}
      (tag : Tag.ofName name = .ok (.content implied)) :
      Does (.element name attributes children closed place) .closeContent
  | addToolCall {name : String} {attributes : List Attribute} {children : List Template}
      {closed : Bool} {place : Span} (tag : Tag.ofName name = .ok .toolCall) (call : ToolCall) :
      Does (.element name attributes children closed place) (.addToolCall ⟨place, call⟩)
  | endMessage {name : String} {implied : Option Role} {place : Span}
      (tag : Tag.ofName name = .ok (.message implied)) : Does (.closing name place) .closeMessage
  | endContent {name : String} {implied : Option ContentKind} {place : Span}
      (tag : Tag.ofName name = .ok (.content implied)) : Does (.closing name place) .closeContent

/-- What a walk consists of meets a contract: evaluations that meet a contract about the machine,
operations on the draft that a node does, and blocks. Every node and every expression may fail with
a cause that is found out at once. -/
structure Walk.Meeting (contract : Contract (Walk σ)) (inner : Contract (Machine σ))
    (host : Host σ) (implicit : Bool) (parts : List Template) (all : List Expression) : Prop where
  machine : Machine.Meeting inner host implicit all
  evaluating : ∀ {α : Type} (action : Action (Machine σ) α), action.Meets inner →
    (Walk.evaluating action).Meets contract
  fails : ∀ node ∈ parts, ∀ cause, ¬ Cause.Belated cause → ∀ walk,
    contract.failed walk walk ⟨cause, some node.span⟩
  failsIn : ∀ expression ∈ all, ∀ cause, ¬ Cause.Belated cause → ∀ walk,
    contract.failed walk walk ⟨cause, some expression.span⟩
  perform : ∀ node ∈ parts, ∀ operation, node.Does operation → operation.Walked →
    (Walk.perform operation node.span).Meets contract
  block : ∀ bindings body, body.Meets contract → (Walk.inBlock bindings body).Meets contract

theorem Walk.Keeping.meeting {promise : Promise (Walk σ)} {inner : Promise (Machine σ)}
    {host : Host σ} {implicit : Bool} {all : List Expression}
    (keeping : Walk.Keeping promise inner host implicit all) (parts : List Template) :
    Walk.Meeting promise.toContract inner.toContract host implicit parts all where
  machine := keeping.machine.meeting
  evaluating := keeping.evaluating
  fails _ _ _ _ := promise.stop
  failsIn _ _ _ _ := promise.stop
  perform node _ operation _ walked := keeping.perform operation node.span walked
  block := keeping.block

section Walks

variable {contract : Contract (Walk σ)} {inner : Contract (Machine σ)} {host : Host σ}
  {implicit : Bool} {parts : List Template} {all : List Expression}

theorem Walk.Meeting.located (meeting : Walk.Meeting contract inner host implicit parts all)
    {α : Type} {node : Template} (member : node ∈ parts) {result : Except Cause α}
    (prompt : Prompt result) :
    (Action.located node.span result : Action (Walk σ) α).Meets contract :=
  Action.meets_located fun cause failed => meeting.fails node member cause (prompt cause failed)

theorem Walk.closeTag_meets (meeting : Walk.Meeting contract inner host implicit parts all)
    {name : String} {span : Span} (member : Template.closing name span ∈ parts) :
    (Walk.closeTag name span).Meets contract := by
  intro start
  refine (meeting.located member (Tag.prompt_ofName name) start).bind fun state tag named _ => ?_
  have tagged := (Action.outcome_located_ok named).2
  cases tag with
  | message => exact meeting.perform _ member .closeMessage (.endMessage tagged) trivial state
  | content => exact meeting.perform _ member .closeContent (.endContent tagged) trivial state
  | toolCall => exact Action.meets_failAt (meeting.fails _ member _ id) state

theorem Walk.element_meets (meeting : Walk.Meeting contract inner host implicit parts all)
    {name : String} {attributes : List Attribute} {children : List Template} {closed : Bool}
    {span : Span} (member : Template.element name attributes children closed span ∈ parts)
    (within : Attribute.expressionsAll attributes ⊆ all)
    {inside : Action (Walk σ) Unit} (insideMeets : inside.Meets contract) :
    (Walk.element host implicit name attributes children closed span inside).Meets contract := by
  have closes : ∀ operation : Draft.Operation, operation.Walked →
      (Template.element name attributes children closed span).Does operation →
      (if closed then Walk.perform operation span else pure ()).Meets contract := by
    intro operation walked does
    split
    · exact meeting.perform _ member operation does walked
    · exact Action.meets_pure ()
  intro start
  refine (meeting.located member (Tag.prompt_ofName name) start).bind fun named tag tagged _ => ?_
  have tagged := (Action.outcome_located_ok tagged).2
  refine (meeting.evaluating _
    (Attributes.evaluate_meets meeting.machine name attributes within)).bind (fun given => ?_) named
  cases tag with
  | message implied =>
      refine (meeting.located member (given.prompt_takeRole implied)).bind fun role start => ?_
      refine (meeting.located member (Attributes.prompt_checkMessageFields _) start).bind
        fun state _ checked _ => ?_
      have reserved := Attributes.contains_toJson_of_checked (Action.outcome_located_ok checked).2
      have opens := meeting.perform _ member _ (.openMessage tagged role _) reserved
      refine opens.bind (fun _ => ?_) state
      exact insideMeets.bind fun _ => closes .closeMessage trivial (.closeMessage tagged)
  | content implied =>
      refine (meeting.located member (given.prompt_takeKind implied)).bind fun kind => ?_
      refine (meeting.perform _ member _ (.openContent tagged kind) trivial).bind fun _ => ?_
      exact insideMeets.bind fun _ => closes .closeContent trivial (.closeContent tagged)
  | toolCall =>
      intro start
      refine (meeting.located member (given.prompt_toolCall children) start).bind
        fun state call accepted _ => ?_
      have object := Attributes.arguments_of_toolCall (Action.outcome_located_ok accepted).2
      exact meeting.perform _ member _ (.addToolCall tagged call) object state

mutual

theorem Template.walk_meets (meeting : Walk.Meeting contract inner host implicit parts all) :
    (template : Template) → template.nodes ⊆ parts → template.expressions ⊆ all →
      (template.walk host implicit).Meets contract
  | .fragment children span, among, within => by
      rw [walk]
      exact walkAll_meets meeting children (List.cons_subset.mp among).2 within
  | .text data span, among, _ => by
      rw [walk]
      exact meeting.perform _ (among (mem_nodes_self _)) _ (.text data span) trivial
  | .comment data span, _, _ => by
      rw [walk]
      exact Action.meets_pure ()
  | .interpolation expression span, among, within => by
      rw [walk]
      refine (meeting.evaluating _
        (expression.evaluate_meets meeting.machine within)).bind fun value => ?_
      split
      · exact Action.meets_pure ()
      · have does := Does.value expression value.text span
        exact meeting.perform _ (among (mem_nodes_self _)) _ does trivial
  | .element name attributes children closed span, among, within => by
      simp only [expressions, List.append_subset] at within
      have member := among (mem_nodes_self _)
      rw [walk]
      exact Walk.element_meets meeting member within.1
        (walkAll_meets meeting children (List.cons_subset.mp among).2 within.2)
  | .closing name span, among, _ => by
      rw [walk]
      exact Walk.closeTag_meets meeting (among (mem_nodes_self _))
  | .branch test children otherwise span, among, within => by
      simp only [expressions, List.append_subset] at within
      simp only [nodes, inside, List.cons_subset, List.append_subset] at among
      rw [walk]
      refine (meeting.evaluating _
        (test.evaluate_meets meeting.machine within.1.1)).bind fun value => ?_
      split
      · exact meeting.block _ _ (walkAll_meets meeting children among.2.1 within.1.2)
      · exact walkOtherwise_meets meeting otherwise among.2.2 within.2
  | .loop collection item index children otherwise span, among, within => by
      simp only [expressions, List.append_subset] at within
      simp only [nodes, inside, List.cons_subset, List.append_subset] at among
      have fails := meeting.failsIn collection (within.1.1 collection.mem_nodes_self)
      rw [walk]
      refine (meeting.evaluating _
        (collection.evaluate_meets meeting.machine within.1.1)).bind fun value => ?_
      refine (Action.meets_located fun cause failed =>
        fails cause (value.prompt_elements cause failed)).bind fun elements => ?_
      split
      · exact walkOtherwise_meets meeting otherwise among.2.2 within.2
      · exact Action.Meets.forEach fun element =>
          meeting.block _ _ (walkAll_meets meeting children among.2.1 within.1.2)

theorem Template.walkAll_meets (meeting : Walk.Meeting contract inner host implicit parts all) :
    (templates : List Template) → Template.insideAll templates ⊆ parts →
      Template.expressionsAll templates ⊆ all →
      (Template.walkAll host implicit templates).Meets contract
  | [], _, _ => by
      rw [walkAll]
      exact Action.meets_pure ()
  | template :: rest, among, within => by
      simp only [expressionsAll, List.append_subset] at within
      simp only [insideAll, List.append_subset] at among
      rw [walkAll]
      exact (walk_meets meeting template among.1 within.1).bind fun _ =>
        walkAll_meets meeting rest among.2 within.2

theorem Template.walkOtherwise_meets
    (meeting : Walk.Meeting contract inner host implicit parts all) :
    (otherwise : Option (List Template)) → Template.insideOtherwise otherwise ⊆ parts →
      Template.expressionsOtherwise otherwise ⊆ all →
      (Template.walkOtherwise host implicit otherwise).Meets contract
  | none, _, _ => by
      rw [walkOtherwise]
      exact Action.meets_pure ()
  | some children, among, within => by
      rw [walkOtherwise]
      exact meeting.block _ _ (walkAll_meets meeting children among within)

end

end Walks

theorem Template.walk_keeps {promise : Promise (Walk σ)} {inner : Promise (Machine σ)}
    {host : Host σ} {implicit : Bool} {all : List Expression}
    (keeping : Walk.Keeping promise inner host implicit all) (template : Template)
    (within : template.expressions ⊆ all) : (template.walk host implicit).Keeps promise := by
  have meets := template.walk_meets (keeping.meeting template.nodes) (List.Subset.refl _) within
  exact Action.keeps_iff_meets.mpr meets

end ChatTemplate
