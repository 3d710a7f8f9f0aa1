import ChatTemplate.Proofs.Compilation
import ChatTemplate.Proofs.Draft.Ink

/-!
What a template says, apart from the messages that it is parted into. A speech walks a template as
rendering does and evaluates the same expressions, but it knows neither messages nor content: it
only writes down, one after the other, the texts and the values of interpolations that it meets.
The messages of a compilation hold these texts up to blank characters.
-/

set_option autoImplicit false

namespace ChatTemplate

variable {σ : Type}

/-- The state of a speech: that of the evaluation, and the texts so far. -/
structure Speech (σ : Type) where
  machine : Machine σ
  texts : List String := []

namespace Speech

def evaluating {α : Type} (action : Action (Machine σ) α) : Action (Speech σ) α :=
  action.focus (·.machine) fun speech machine => { speech with machine }

def changeScope (change : Scope → Scope) (speech : Speech σ) : Speech σ :=
  { speech with machine := { speech.machine with scope := change speech.machine.scope } }

def say (text : String) : Action (Speech σ) Unit :=
  Action.modify fun speech => { speech with texts := speech.texts ++ [text] }

def inBlock (bindings : List (String × Value)) (body : Action (Speech σ) Unit) :
    Action (Speech σ) Unit := fun speech =>
  let (mark, scope) := speech.machine.scope.push
  let scope := bindings.foldl (fun scope binding => scope.declare binding.1 binding.2) scope
  body.ensuring (changeScope (·.rewind mark)) (speech.changeScope fun _ => scope)

/-- Says what stands inside a tag, once its attributes have been evaluated. A tool call says
nothing. -/
def element (host : Host σ) (implicit : Bool) (name : String) (attributes : List Attribute)
    (span : Span) (inside : Action (Speech σ) Unit) : Action (Speech σ) Unit := do
  let tag ← Action.located span (Tag.ofName name)
  let _ ← evaluating (Attributes.evaluate host implicit name attributes)
  match tag with
  | .message _ | .content _ => inside
  | .toolCall => pure ()

end Speech

namespace Template

mutual

def speak (host : Host σ) (implicit : Bool) : Template → Action (Speech σ) Unit
  | .fragment children _ => speakAll host implicit children
  | .text data _ => Speech.say data
  | .comment _ _ => pure ()
  | .interpolation expression _ => do
      let value ← Speech.evaluating (expression.evaluate host implicit)
      if expression.isAssignment then pure () else Speech.say value.text
  | .element name attributes children _ span =>
      Speech.element host implicit name attributes span (speakAll host implicit children)
  | .closing _ _ => pure ()
  | .branch test children otherwise _ => do
      let value ← Speech.evaluating (test.evaluate host implicit)
      if value.isTrue then Speech.inBlock [] (speakAll host implicit children)
      else speakOtherwise host implicit otherwise
  | .loop collection item index children otherwise _ => do
      let value ← Speech.evaluating (collection.evaluate host implicit)
      let elements ← Action.located collection.span value.elements
      if elements.isEmpty then speakOtherwise host implicit otherwise
      else Action.forEach elements fun element =>
        Speech.inBlock (roundBindings item index element) (speakAll host implicit children)

def speakAll (host : Host σ) (implicit : Bool) : List Template → Action (Speech σ) Unit
  | [] => pure ()
  | template :: rest => do
      speak host implicit template
      speakAll host implicit rest

def speakOtherwise (host : Host σ) (implicit : Bool) :
    Option (List Template) → Action (Speech σ) Unit
  | none => pure ()
  | some children => Speech.inBlock [] (speakAll host implicit children)

end

end Template

/-! ## Walks go along with speeches -/

namespace Speech

/-- A speech and a walk belong together when they are in the same state of the evaluation and the
draft holds what has been said. The walk may fail where the speech goes on. -/
def pairing : Pairing (Speech σ) (Walk σ) where
  alike speech walk :=
    speech.machine = walk.machine ∧ walk.draft.Nested ∧ walk.draft.rootText = .system ∧
      walk.draft.ink = speech.texts.flatMap Text.ink
  quit _ _ := True
  later _ _ := True

theorem evaluating_leads {α : Type} (action : Action (Machine σ) α) :
    Action.Leads pairing (evaluating action) (Walk.evaluating action) :=
  Action.leads_focus (fun _ _ same => same.1) (fun _ _ _ same => ⟨rfl, same.2⟩)
    fun _ _ _ => Task.always_true _

theorem inBlock_leads (bindings : List (String × Value)) {body : Action (Speech σ) Unit}
    {body' : Action (Walk σ) Unit} (leads : Action.Leads pairing body body') :
    Action.Leads pairing (inBlock bindings body) (Walk.inBlock bindings body') := by
  refine leads.around ?_ ?_ ?_ ?_ ?_ ?_
  · rintro speech walk ⟨machine, held⟩
    exact ⟨by simp only [changeScope, Walk.changeScope, machine], held⟩
  · rintro outer outer' ⟨scope, -⟩ speech walk ⟨machine, held⟩
    exact ⟨by simp only [changeScope, Walk.changeScope, machine, scope], held⟩
  · exact fun _ _ _ _ => trivial
  · exact fun _ _ _ => trivial
  · exact fun _ _ _ _ => trivial
  · exact fun _ _ _ _ => trivial

/-- A speech says what a walk adds to its draft. -/
theorem perform_leads {action : Action (Speech σ) Unit} {operation : Draft.Operation} {span : Span}
    {said : List String} (walked : operation.Walked)
    (spoken : ∀ speech, action speech =
      .done { speech with texts := speech.texts ++ said } (.ok ()))
    (adds : said.flatMap Text.ink = Text.ink operation.text) :
    Action.Leads pairing action (Walk.perform operation span) where
  along speech walk same := by
    obtain ⟨machine, nested, policy, held⟩ := same
    rw [spoken, Walk.perform_eq]
    cases result : (walk.draft.apply operation).1 with
    | error cause => exact .quit ⟨_, rfl, trivial, trivial⟩
    | ok =>
        have step := Draft.step_of_apply nested (Prod.ext result rfl)
        obtain ⟨policy, ink⟩ := step.ink walked policy
        refine .done ⟨⟨machine, step.nested nested, policy, ?_⟩, rfl⟩
        rw [ink, held, List.flatMap_append, adds]
  lasting _ _ _ := Task.always_true _

private theorem silent_leads {operation : Draft.Operation} {span : Span} (walked : operation.Walked)
    (adds : operation.text = "") :
    Action.Leads pairing (pure () : Action (Speech σ) Unit) (Walk.perform operation span) :=
  perform_leads walked (fun speech => by rw [List.append_nil]; rfl) (by rw [adds]; rfl)

/-- A walk may refuse what a speech does not refuse. -/
theorem refused_leads {α : Type} {action : Action (Speech σ) α} (cause : Cause) (span : Span) :
    Action.Leads pairing action (Action.failAt span cause) where
  along _ _ _ := .quit ⟨_, rfl, trivial, Task.always_true _⟩
  lasting _ _ _ := Task.always_true _

private theorem unchecked_leads {α β : Type} {action : Action (Speech σ) β}
    {result : Except Cause α} {span : Span} {next : α → Action (Walk σ) β}
    (leads : ∀ value, result = .ok value → Action.Leads pairing action (next value)) :
    Action.Leads pairing action (Action.located span result >>= next) := by
  cases result with
  | ok value => exact leads value rfl
  | error cause => exact refused_leads cause span

private theorem silent_leads_if {closed : Bool} {operation : Draft.Operation} {span : Span}
    (walked : operation.Walked) (adds : operation.text = "") :
    Action.Leads pairing (pure () : Action (Speech σ) Unit)
      (if closed then Walk.perform operation span else pure ()) := by
  split
  · exact silent_leads walked adds
  · exact Action.leads_pure ()

theorem closeTag_leads (name : String) (span : Span) :
    Action.Leads pairing (pure () : Action (Speech σ) Unit) (Walk.closeTag name span) := by
  refine unchecked_leads fun tag _ => ?_
  cases tag with
  | message => exact silent_leads trivial rfl
  | content => exact silent_leads trivial rfl
  | toolCall => exact refused_leads _ span

theorem element_leads (host : Host σ) (implicit : Bool) (name : String)
    (attributes : List Attribute) (children : List Template) (closed : Bool) (span : Span)
    {inside : Action (Speech σ) Unit} {inside' : Action (Walk σ) Unit}
    (leads : Action.Leads pairing inside inside') :
    Action.Leads pairing (element host implicit name attributes span inside)
      (Walk.element host implicit name attributes children closed span inside') := by
  refine Action.leads_located fun tag _ => ?_
  refine (evaluating_leads _).bind fun attributes => ?_
  -- What is said inside a tag stands between two operations that say nothing.
  have between : ∀ opens closes : Draft.Operation, opens.Walked → closes.Walked →
      opens.text = "" → closes.text = "" →
        Action.Leads pairing inside (do
          Walk.perform opens span
          inside'
          if closed then Walk.perform closes span) := by
    intro opens closes opensWalked closesWalked opensSilent closesSilent
    have opening : Action.Leads pairing (pure () : Action (Speech σ) Unit)
        (Walk.perform opens span) := silent_leads opensWalked opensSilent
    have closing : Action.Leads pairing (pure () : Action (Speech σ) Unit)
        (if closed then Walk.perform closes span else pure ()) :=
      silent_leads_if closesWalked closesSilent
    have whole := opening.bind fun _ => leads.bind fun _ => closing
    simpa using whole
  cases tag with
  | message implied =>
      refine unchecked_leads fun role _ => ?_
      refine unchecked_leads fun _ checked => ?_
      exact between _ .closeMessage (Attributes.contains_toJson_of_checked checked) trivial rfl rfl
  | content implied =>
      refine unchecked_leads fun kind _ => ?_
      exact between _ .closeContent trivial trivial rfl rfl
  | toolCall =>
      refine unchecked_leads fun call accepted => ?_
      exact silent_leads (Attributes.arguments_of_toolCall accepted) rfl

end Speech

section Leads

variable (host : Host σ) (implicit : Bool)

mutual

theorem Template.speak_leads : (template : Template) →
    Action.Leads Speech.pairing (template.speak host implicit) (template.walk host implicit)
  | .fragment children _ => by
      rw [speak, walk]
      exact speakAll_leads children
  | .text data span => by
      rw [speak, walk]
      exact Speech.perform_leads trivial (fun _ => rfl) (by simp [Draft.Operation.text])
  | .comment _ _ => by
      rw [speak, walk]
      exact Action.leads_pure ()
  | .interpolation expression span => by
      rw [speak, walk]
      refine (Speech.evaluating_leads _).bind fun value => ?_
      split
      · exact Action.leads_pure ()
      · exact Speech.perform_leads trivial (fun _ => rfl) (by simp [Draft.Operation.text])
  | .element name attributes children closed span => by
      rw [speak, walk]
      exact Speech.element_leads host implicit name attributes children closed span
        (speakAll_leads children)
  | .closing name span => by
      rw [speak, walk]
      exact Speech.closeTag_leads name span
  | .branch test children otherwise _ => by
      rw [speak, walk]
      refine (Speech.evaluating_leads _).bind fun value => ?_
      split
      · exact Speech.inBlock_leads [] (speakAll_leads children)
      · exact speakOtherwise_leads otherwise
  | .loop collection item index children otherwise _ => by
      rw [speak, walk]
      refine (Speech.evaluating_leads _).bind fun value => ?_
      refine Action.leads_located fun elements _ => ?_
      split
      · exact speakOtherwise_leads otherwise
      · exact Action.Leads.forEach fun element =>
          Speech.inBlock_leads _ (speakAll_leads children)

theorem Template.speakAll_leads : (templates : List Template) →
    Action.Leads Speech.pairing (Template.speakAll host implicit templates)
      (Template.walkAll host implicit templates)
  | [] => by
      rw [speakAll, walkAll]
      exact Action.leads_pure ()
  | template :: rest => by
      rw [speakAll, walkAll]
      exact (speak_leads template).bind fun _ => speakAll_leads rest

theorem Template.speakOtherwise_leads : (otherwise : Option (List Template)) →
    Action.Leads Speech.pairing (Template.speakOtherwise host implicit otherwise)
      (Template.walkOtherwise host implicit otherwise)
  | none => by
      rw [speakOtherwise, walkOtherwise]
      exact Action.leads_pure ()
  | some children => by
      rw [speakOtherwise, walkOtherwise]
      exact Speech.inBlock_leads [] (speakAll_leads children)

end

end Leads

/-- Where messages are made of root text, the messages of a compilation hold the characters that the
template says and that are not blank, all of them, each once and in their order. -/
theorem Template.messages_hold_speech {settings : Settings} {registry : Registry} {host : Host σ}
    {now : Int} {interruption : Interruption σ} {template : Template} {scope : Scope} {world : σ}
    {machine : Machine σ} {messages : List Message} (policy : settings.rootText = .system)
    (compiled : template.compileWithin settings registry host now interruption scope world =
      (machine, some (.ok messages))) :
    ∃ texts : List String,
      (template.speak host settings.implicitDeclarations
        ⟨.starting settings registry now scope world, []⟩).outcome =
          (⟨machine, texts⟩, some (.ok ())) ∧
      Text.ink (String.join (messages.flatMap (·.payloads))) = Text.ink (String.join texts) := by
  obtain ⟨final, ended, same, finished⟩ := walk_of_compileWithin compiled
  have leads := speak_leads host settings.implicitDeclarations template
  have together : Speech.pairing.alike ⟨.starting settings registry now scope world, []⟩
      (.starting settings registry now scope world) :=
    ⟨rfl, Draft.nested_ofSettings settings, policy, rfl⟩
  obtain ⟨⟨reached, texts⟩, _, spoken, ⟨alike, rfl⟩⟩ | ⟨_, _, refused, _⟩ :=
    (leads.along _ _ together).outcome ended
  · obtain ⟨evaluated, _, systemText, ink⟩ := alike
    refine ⟨texts, ?_, ?_⟩
    · rw [spoken, ← same, ← evaluated]
    · rw [Text.ink_join, Text.ink_join, Draft.ink_of_finish systemText finished, ink]
  · cases refused

/-- A message whose content tag is closed with the message. -/
def Template.greeting : Template :=
  .element "user" [] [.text " Hi\n" {}, .interpolation (.literal (.string "you") {}) {},
    .element "text" [] [.text " ? " {}] false {}] true {}

theorem greeting_holds_speech :
    Template.greeting.compileWithin {} {} Host.silent 0 ⟨false, fun _ => false, fun _ _ => false⟩
        Scope.empty () = (⟨Scope.empty, (), #[]⟩, some (.ok
          [{ role := .user, content := [.text " Hi\nyou", .text " ? "] }])) ∧
      ∃ texts, (Template.greeting.speak Host.silent false
          ⟨.starting {} {} 0 Scope.empty (), []⟩).outcome =
            (⟨⟨Scope.empty, (), #[]⟩, texts⟩, some (.ok ())) ∧
        Text.ink (String.join [" Hi\nyou", " ? "]) = Text.ink (String.join texts) := by
  have compiled : Template.greeting.compileWithin {} {} Host.silent 0
      ⟨false, fun _ => false, fun _ _ => false⟩ Scope.empty () =
        (⟨Scope.empty, (), #[]⟩, some (.ok
          [{ role := .user, content := [.text " Hi\nyou", .text " ? "] }])) := rfl
  exact ⟨compiled, Template.messages_hold_speech rfl compiled⟩

end ChatTemplate
