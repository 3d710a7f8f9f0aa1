import ChatTemplate.Proofs.Accounting
import ChatTemplate.Proofs.Columns
import ChatTemplate.Proofs.Views

/-!
Loops. What a loop goes over is settled when its collection has been evaluated: the body is walked
once for each element, in order, each time in a new environment that holds the variables of the loop
and nothing else. Whatever the body does, also to the collection itself, changes neither how often
it is walked nor what it starts with.
-/

set_option autoImplicit false

namespace ChatTemplate

variable {σ : Type}

/-! ## Rounds -/

/-- What the environment of a round holds at its start. An index with the name of the item takes its
place. -/
def Template.roundOf (item : String) (index : Option String) (value position : Value) :
    Dict Value :=
  match index with
  | none => .ofEntries [(item, value)]
  | some name =>
      if item = name then .ofEntries [(item, position)]
      else .ofEntries [(item, value), (name, position)]

/-- The rounds of a loop over a value: one for each element of a list, with its position, or for
each entry of a map, with its key. -/
def Template.roundsOver (item : String) (index : Option String) : Value → List (Dict Value)
  | .list values => values.mapIdx fun position value => roundOf item index value (.ofNat position)
  | .map entries => entries.map fun entry => roundOf item index entry.2 (.string entry.1)
  | _ => []

namespace Walk

def opened (walk : Walk σ) (bindings : Dict Value) : Walk σ :=
  walk.changeScope (·.opened bindings)

/-- The walk without the environments that have been opened inside those of an outer one. -/
def closedTo (walk outer : Walk σ) : Walk σ :=
  walk.changeScope (·.cutTo outer.machine.scope)

/-- Walks a body in a new environment that holds the bindings, and drops the environment behind it,
also when the body has failed. -/
def round (body : Action (Walk σ) Unit) (bindings : Dict Value) : Action (Walk σ) Unit :=
  fun walk => body.ensuring (·.closedTo walk) (walk.opened bindings)

/-- Walks a body in one round after the other until all are done or one has failed. -/
def rounds (body : Action (Walk σ) Unit) : List (Dict Value) → Action (Walk σ) Unit
  | [] => pure ()
  | bindings :: rest => do
      round body bindings
      rounds body rest

/-- A round is on its own: it starts with its bindings over what is bound around it. What it binds
in its environment is gone behind it; what it writes around it stays. -/
structure Isolated (body : Action (Walk σ) Unit) (bindings : Dict Value) (walk : Walk σ) :
    Prop where
  starts : ∀ name, (walk.opened bindings).machine.scope.lookup name =
    (bindings.get? name).or (walk.machine.scope.lookup name)
  shadows : ∀ inner result, (body (walk.opened bindings)).outcome = (inner, some result) →
    ∀ name, bindings.has name = true → ∀ place,
      ((inner.closedTo walk).machine.scope.bindingsAt place).get? name =
        (walk.machine.scope.bindingsAt place).get? name
  persists : ∀ inner result, (body (walk.opened bindings)).outcome = (inner, some result) →
    ∀ name, bindings.has name = false → walk.machine.scope.contains name = true →
      (inner.closedTo walk).machine.scope.lookup name = inner.machine.scope.lookup name
  gone : ∀ inner result, (body (walk.opened bindings)).outcome = (inner, some result) →
    ∀ name, walk.machine.scope.contains name = false →
      (inner.closedTo walk).machine.scope.contains name = false

end Walk

namespace Template

private theorem ofEntries_roundBindings (item : String) (index : Option String)
    (value position : Value) :
    Dict.ofEntries (roundBindings item index (value, position)) =
      roundOf item index value position := by
  cases index with
  | none => rfl
  | some name =>
      rw [roundOf]
      split
      · rename_i same
        rw [same]
        exact Dict.insert_insert ∅ name value position
      · rfl

private theorem roundsOver_eq (item : String) (index : Option String) {value : Value}
    {elements : List (Value × Value)} (iterable : value.elements = .ok elements) :
    roundsOver item index value =
      elements.map fun element => Dict.ofEntries (roundBindings item index element) := by
  cases value with
  | null =>
      cases iterable
      rfl
  | list values =>
      cases iterable
      rw [roundsOver, List.map_map, List.mapIdx_eq_zipIdx_map, List.zipIdx_eq_zip_range',
        ← List.range_eq_range']
      exact List.map_congr_left fun entry _ => (ofEntries_roundBindings item index _ _).symm
  | map entries =>
      cases iterable
      rw [roundsOver, Dict.map, Dict.map, List.map_map]
      exact List.map_congr_left fun entry _ => (ofEntries_roundBindings item index _ _).symm
  | _ => cases iterable

end Template

namespace Walk

section Rounds

variable {body : Action (Walk σ) Unit} {walk final : Walk σ} {stack : Stack}
  {result : Except Failure Unit}

private theorem opened_eq (walk : Walk σ) (bindings : List (String × Value)) :
    (walk.changeScope fun _ => bindings.foldl
      (fun scope binding => scope.declare binding.1 binding.2) walk.machine.scope.push.2) =
      walk.opened (Dict.ofEntries bindings) := by
  rw [Scope.declare_all_push]
  rfl

private theorem assigned_of_ended (keeps : body.Keeps assigning)
    (ended : (body walk).outcome = (final, some result)) :
    Scope.ByName Column.Assigned walk.machine.scope final.machine.scope := by
  have ends := keeps.ended ended
  cases result with
  | ok => exact ends
  | error => exact ends

/-- How a body leaves the environments that it is walked in, the one opened for it and those around
that. -/
theorem closed_of_ended (keeps : body.Keeps assigning) (stacked : walk.machine.scope.Stacked stack)
    {bindings : Dict Value} {inner : Walk σ}
    (ended : (body (walk.opened bindings)).outcome = (inner, some result)) :
    ∃ top left, inner.machine.scope.Stacked (top :: left) ∧
      (inner.closedTo walk).machine.scope.Stacked left ∧
      inner.machine.scope.rewind walk.machine.scope.push.1 =
        (inner.closedTo walk).machine.scope ∧
      ∀ name, Column.Assigned (bindings.get? name :: stack.column name)
        (top.get? name :: Stack.column left name) := by
  obtain ⟨top, left, inside, closed, columns⟩ := (assigned_of_ended keeps ended).closed stacked
  have count := (columns "").length
  rw [List.length_cons, List.length_cons, Stack.length_column, Stack.length_column] at count
  have within : walk.machine.scope.environments.length ≤ inner.machine.scope.environments.length := by
    rw [stacked.count, inside.count, List.length_cons]
    omega
  have nonempty : walk.machine.scope.environments ≠ [] := by
    rw [← List.length_pos_iff, stacked.count, List.length_pos_iff]
    exact stacked.filled
  have same := Scope.rewind_push inner.machine.scope walk.machine.scope nonempty within
  rw [same] at closed
  exact ⟨top, left, inside, closed, same, columns⟩

private theorem inBlock_eq_round (keeps : body.Keeps assigning)
    (stacked : walk.machine.scope.Stacked stack) (bindings : List (String × Value)) :
    inBlock bindings body walk = round body (Dict.ofEntries bindings) walk := by
  change (body (walk.changeScope fun _ => bindings.foldl
    (fun scope binding => scope.declare binding.1 binding.2) walk.machine.scope.push.2)).bind _ =
      (body (walk.opened (Dict.ofEntries bindings))).bind _
  rw [opened_eq]
  refine Task.bind_congr_outcome fun inner result ended => ?_
  obtain ⟨-, -, -, -, same, -⟩ := closed_of_ended keeps stacked ended
  exact congrArg (fun scope => Task.done (inner.changeScope fun _ => scope) result) same

private theorem round_ended {bindings : Dict Value}
    (ended : (round body bindings walk).outcome = (final, some result)) :
    ∃ inner, (body (walk.opened bindings)).outcome = (inner, some result) ∧
      final = inner.closedTo walk := by
  change ((body (walk.opened bindings)).bind _).outcome = _ at ended
  rw [Task.outcome_bind] at ended
  split at ended
  · rename_i inner given reached
    cases ended
    exact ⟨inner, reached, rfl⟩
  · cases ended

private theorem round_writes (keeps : body.Keeps assigning)
    (stacked : walk.machine.scope.Stacked stack) {bindings : Dict Value}
    (ended : (round body bindings walk).outcome = (final, some result)) :
    ∃ left, final.machine.scope.Stacked left ∧
      ∀ name, (stack.column name).Written (Stack.column left name) := by
  obtain ⟨inner, reached, rfl⟩ := round_ended ended
  obtain ⟨top, left, -, closed, -, columns⟩ := closed_of_ended keeps stacked reached
  exact ⟨left, closed, fun name => (columns name).outer⟩

private theorem rounds_append (body : Action (Walk σ) Unit) (early late : List (Dict Value)) :
    rounds body (early ++ late) = (rounds body early >>= fun _ => rounds body late) := by
  induction early with
  | nil => rfl
  | cons bindings rest ih => rw [List.cons_append, rounds, rounds, ih, bind_assoc]

private theorem rounds_writes (keeps : body.Keeps assigning)
    (stacked : walk.machine.scope.Stacked stack) {all : List (Dict Value)}
    (ended : (rounds body all walk).outcome = (final, some result)) :
    ∃ left, final.machine.scope.Stacked left ∧
      ∀ name, (stack.column name).Written (Stack.column left name) := by
  induction all generalizing walk stack with
  | nil =>
      cases ended
      exact ⟨stack, stacked, fun name => .kept (stack.column name)⟩
  | cons bindings rest ih =>
      change ((round body bindings walk).bind _).outcome = _ at ended
      rw [Task.outcome_bind] at ended
      split at ended
      · rename_i middle given reached
        obtain ⟨left, stacked', early⟩ := round_writes keeps stacked reached
        cases given with
        | ok =>
            obtain ⟨left', stacked'', late⟩ := ih stacked' ended
            exact ⟨left', stacked'', fun name => (early name).trans (late name)⟩
        | error failure =>
            cases ended
            exact ⟨left, stacked', early⟩
      · cases ended

/-- Each environment that a loop opens for its body holds exactly what its round starts with. -/
theorem forEach_eq_rounds {α : Type} (keeps : body.Keeps assigning)
    (stacked : walk.machine.scope.Stacked stack) (elements : List α)
    (bindings : α → List (String × Value)) :
    Action.forEach elements (fun element => inBlock (bindings element) body) walk =
      rounds body (elements.map fun element => Dict.ofEntries (bindings element)) walk := by
  induction elements generalizing walk stack with
  | nil => rfl
  | cons element rest ih =>
      change (inBlock (bindings element) body >>= fun _ =>
        Action.forEach rest fun element => inBlock (bindings element) body) walk = _
      rw [List.map_cons, rounds]
      change (inBlock (bindings element) body walk).bind _ =
        (round body (Dict.ofEntries (bindings element)) walk).bind _
      rw [inBlock_eq_round keeps stacked]
      refine Task.bind_congr_outcome fun middle given reached => ?_
      cases given with
      | ok =>
          obtain ⟨left, stacked', -⟩ := round_writes keeps stacked reached
          exact ih stacked'
      | error => rfl

private theorem isolated_of_keeps (keeps : body.Keeps assigning)
    (stacked : walk.machine.scope.Stacked stack) (bindings : Dict Value) :
    Isolated body bindings walk where
  starts name := by
    have inside : (walk.opened bindings).machine.scope.Stacked (bindings :: stack) :=
      stacked.opened bindings
    rw [inside.lookup, stacked.lookup, Stack.lookup_cons]
  shadows inner result ended name bound place := by
    obtain ⟨top, left, -, closed, -, columns⟩ := closed_of_ended keeps stacked ended
    rw [closed.get?_bindingsAt, stacked.get?_bindingsAt,
      (columns name).outer_of_bound bound]
  persists inner result ended name unbound bound := by
    obtain ⟨top, left, inside, closed, -, columns⟩ := closed_of_ended keeps stacked ended
    have absent : bindings.get? name = none := by simpa [Dict.has] using unbound
    rw [stacked.contains, Stack.lookup_eq_column] at bound
    have inner := absent ▸ columns name
    rw [closed.lookup, inside.lookup, Stack.lookup_cons, inner.inner_of_bound bound, Option.none_or]
  gone inner result ended name unbound := by
    obtain ⟨top, left, -, closed, -, columns⟩ := closed_of_ended keeps stacked ended
    rw [stacked.contains, Stack.lookup_eq_column] at unbound
    rw [closed.contains, Stack.lookup_eq_column, (columns name).outer.isSome, unbound]

end Rounds

end Walk

/-! ## Loops -/

namespace Template

theorem walkAll_assigns (host : Host σ) (implicit : Bool) (templates : List Template) :
    (walkAll host implicit templates).Keeps Walk.assigning := by
  have keeping := Walk.assigning_keeping host implicit (fragment templates {}).expressions
  have keeps := (fragment templates {}).walk_keeps keeping (List.Subset.refl _)
  rwa [walk] at keeps

/-- The other branch of a block in a round without bindings, if there is one. -/
def otherRound (host : Host σ) (implicit : Bool) : Option (List Template) → Action (Walk σ) Unit
  | none => pure ()
  | some nodes => Walk.round (walkAll host implicit nodes) ∅

theorem walkOtherwise_eq_round (host : Host σ) (implicit : Bool)
    (otherwise : Option (List Template)) {walk : Walk σ} {stack : Stack}
    (stacked : walk.machine.scope.Stacked stack) :
    walkOtherwise host implicit otherwise walk =
      otherRound host implicit otherwise walk := by
  cases otherwise with
  | none =>
      rw [walkOtherwise]
      rfl
  | some nodes =>
      rw [walkOtherwise]
      exact Walk.inBlock_eq_round (walkAll_assigns host implicit nodes) stacked []

section Loops

variable {host : Host σ} {implicit : Bool} {collection : Expression} {item : String}
  {index : Option String} {children : List Template} {otherwise : Option (List Template)}
  {span : Span} {start : Walk σ} {machine : Machine σ} {value : Value}

private theorem stacked_of_evaluated {marks : List Scope.Mark}
    (reachable : Scope.Reachable marks start.machine.scope)
    (evaluated : (collection.evaluate host implicit start.machine).outcome =
      (machine, some (.ok value))) : ∃ stack, machine.scope.Stacked stack := by
  obtain ⟨before, stacked⟩ := reachable.stacked.1
  have keeping := Machine.assigning_keeping host implicit collection.nodes
  have keeps := (collection.evaluate_keeps keeping (List.Subset.refl _)).ended evaluated
  obtain ⟨stack, stacked, -⟩ := keeps before stacked
  exact ⟨stack, stacked⟩

private theorem loop_eq_rounds {stack : Stack} (stacked : machine.scope.Stacked stack)
    (evaluated : (collection.evaluate host implicit start.machine).outcome =
      (machine, some (.ok value)))
    {elements : List (Value × Value)} (iterable : value.elements = .ok elements) :
    (Template.loop collection item index children otherwise span).walk host implicit start =
      (Walk.evaluating (collection.evaluate host implicit) >>= fun _ =>
        if elements.isEmpty then otherRound host implicit otherwise
        else Walk.rounds (walkAll host implicit children) (roundsOver item index value)) start := by
  have reached : (Walk.evaluating (collection.evaluate host implicit) start).outcome =
      ({ start with machine }, some (.ok value)) := by
    change ((collection.evaluate host implicit start.machine).mapState _).outcome = _
    rw [Task.outcome_mapState, evaluated]
  rw [walk]
  refine Action.bind_congr_outcome fun entered found ended => ?_
  cases reached.symm.trans ended
  rw [iterable]
  change (if elements.isEmpty then walkOtherwise host implicit otherwise
    else Action.forEach elements fun element => Walk.inBlock _ _) { start with machine } = _
  split
  · exact walkOtherwise_eq_round host implicit otherwise stacked
  · rw [roundsOver_eq item index iterable]
    exact Walk.forEach_eq_rounds (walkAll_assigns host implicit children) stacked elements _

end Loops

/-- A loop walks its body in rounds over what its collection was when it was evaluated, and each
round is on its own. Over nothing, the other branch is walked in a round without bindings. -/
theorem loop_walks_rounds (host : Host σ) (implicit : Bool) {collection : Expression}
    {item : String} {index : Option String} {children : List Template}
    {otherwise : Option (List Template)} {span : Span} {start : Walk σ} {machine : Machine σ}
    {value : Value} {marks : List Scope.Mark}
    (reachable : Scope.Reachable marks start.machine.scope)
    (evaluated : (collection.evaluate host implicit start.machine).outcome =
      (machine, some (.ok value))) :
    let loop := Template.loop collection item index children otherwise span
    let evaluating : Action (Walk σ) Value := Walk.evaluating (collection.evaluate host implicit)
    let body := walkAll host implicit children
    let all := roundsOver item index value
    (all ≠ [] →
      loop.walk host implicit start = (evaluating >>= fun _ => Walk.rounds body all) start) ∧
    (value = .null ∨ value = .list [] ∨ value = .map ∅ →
      loop.walk host implicit start =
        (evaluating >>= fun _ => otherRound host implicit otherwise) start) ∧
    (∀ early bindings late, all = early ++ bindings :: late →
      Walk.rounds body all = (Walk.rounds body early >>= fun _ =>
        Walk.round body bindings >>= fun _ => Walk.rounds body late) ∧
      ∀ middle, (Walk.rounds body early { start with machine }).outcome =
        (middle, some (.ok ())) → Walk.Isolated body bindings middle) ∧
    ∀ early late final result, all = early ++ late →
      (Walk.rounds body early { start with machine }).outcome = (final, some result) →
        Scope.Framed (fun _ => False) (fun _ => True) machine.scope final.machine.scope := by
  intro loop evaluating body all
  obtain ⟨stack, stacked⟩ := stacked_of_evaluated reachable evaluated
  have assigns : body.Keeps Walk.assigning := walkAll_assigns host implicit children
  have writes : ∀ early final result,
      (Walk.rounds body early { start with machine }).outcome = (final, some result) →
        ∃ left, final.machine.scope.Stacked left ∧
          ∀ name, (stack.column name).Written (Stack.column left name) := by
    intro early final result ended
    refine Walk.rounds_writes assigns ?_ ended
    exact stacked
  refine ⟨fun filled => ?_, fun nothing => ?_, ?_, ?_⟩
  · obtain ⟨elements, iterable⟩ : ∃ elements, value.elements = .ok elements := by
      cases value with
      | list => exact ⟨_, rfl⟩
      | map => exact ⟨_, rfl⟩
      | _ => exact absurd rfl filled
    have occupied : elements.isEmpty = false := by
      rw [List.isEmpty_eq_false_iff]
      rintro rfl
      exact filled (roundsOver_eq item index iterable)
    refine (loop_eq_rounds stacked evaluated iterable).trans ?_
    rw [occupied]
    rfl
  · have iterable : value.elements = .ok [] := by
      rcases nothing with rfl | rfl | rfl
      · rfl
      · rfl
      · rfl
    exact loop_eq_rounds stacked evaluated iterable
  · intro early bindings late parted
    rw [parted]
    refine ⟨Walk.rounds_append body early (bindings :: late), fun middle ended => ?_⟩
    obtain ⟨left, stacked', -⟩ := writes _ _ _ ended
    exact Walk.isolated_of_keeps assigns stacked' bindings
  · intro early late final result _ ended
    obtain ⟨left, stacked', columns⟩ := writes _ _ _ ended
    exact Scope.framed_of_written stacked stacked' columns

/-- Empties the list of guests, and keeps the last of them in a variable. -/
def clearing : List Template :=
  [.interpolation (.assignment .plain (.identifier "guests" {}) (.array [] {}) {}) {},
    .interpolation (.assignment .plain (.identifier "last" {}) (.identifier "guest" {}) {}) {}]

def gathering : Walk Unit :=
  ⟨⟨Scope.empty.declare "guests" (.list [.string "Ada", .string "Alan"]), (), #[]⟩, {}, #[]⟩

/-- A loop that empties its list is not shortened, and an index with the name of the item wins. -/
theorem clearing_walks_rounds :
    let loop := Template.loop (.identifier "guests" {}) "guest" (some "guest") clearing none {}
    loop.walk Host.silent true gathering =
      (Walk.evaluating ((Expression.identifier "guests" {}).evaluate Host.silent true) >>= fun _ =>
        Walk.rounds (walkAll Host.silent true clearing)
          [.ofEntries [("guest", .ofNat 0)], .ofEntries [("guest", .ofNat 1)]]) gathering ∧
    ∃ final, (loop.walk Host.silent true gathering).outcome = (final, some (.ok ())) ∧
      final.machine.scope.lookup "guests" = some (.list []) ∧
      final.machine.scope.contains "last" = false := by
  have reachable := Scope.Reachable.empty.declare "guests"
    (.list [.string "Ada", .string "Alan"])
  have evaluated : ((Expression.identifier "guests" {}).evaluate Host.silent true
      gathering.machine).outcome =
        (gathering.machine, some (.ok (.list [.string "Ada", .string "Alan"]))) := rfl
  exact ⟨(loop_walks_rounds Host.silent true reachable evaluated).1 nofun, _, rfl, rfl, rfl⟩

end Template

end ChatTemplate
