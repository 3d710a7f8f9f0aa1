import ChatTemplate.Proofs.Alongside
import ChatTemplate.Proofs.Rendering

/-!
What becomes of a name. An evaluation leaves what a name is bound to as it was, writes the innermost
binding, or binds a name that was not bound in the current environment. A block does not even do the
last of these: what is bound in the environment that it opens is gone behind it.
-/

set_option autoImplicit false

namespace ChatTemplate

variable {σ : Type}

/-! ## Columns -/

/-- What the environments bind a name to, the innermost first. -/
abbrev Column : Type := List (Option Value)

namespace Column

/-- At most the value of the innermost binding has changed. -/
inductive Written : Column → Column → Prop where
  | kept (column : Column) : Written column column
  | here (old new : Value) (outer : Column) : Written (some old :: outer) (some new :: outer)
  | further {column column' : Column} (written : Written column column') :
      Written (none :: column) (none :: column')

/-- A name that is bound has at most been written. One that is not bound may have been bound in the
innermost environment. -/
inductive Assigned : Column → Column → Prop where
  | written {column column' : Column} (written : Written column column') : Assigned column column'
  | declared (value : Value) {outer : Column} (unbound : outer.findSome? id = none) :
      Assigned (none :: outer) (some value :: outer)

section Written

variable {column column' column'' : Column} {entry entry' : Option Value}

theorem Written.length (written : Written column column') : column'.length = column.length := by
  induction written with
  | kept => rfl
  | here => rfl
  | further _ ih => exact congrArg (· + 1) ih

/-- What is written is bound where it was before, counted from the outermost environment. -/
theorem Written.isSome_at (written : Written column column') (place : Nat) :
    (column'.reverse[place]?).join.isSome = (column.reverse[place]?).join.isSome := by
  have bound : column'.map Option.isSome = column.map Option.isSome := by
    induction written with
    | kept => rfl
    | here => rfl
    | further _ ih => exact congrArg (false :: ·) ih
  have at' := congrArg (fun entries : List Bool => entries.reverse[place]?) bound
  simp only [← List.map_reverse, List.getElem?_map] at at'
  cases entry : column.reverse[place]? with
  | none =>
      rw [entry, Option.map_none, Option.map_eq_none_iff] at at'
      rw [at']
  | some value =>
      rw [entry, Option.map_some, Option.map_eq_some_iff] at at'
      obtain ⟨value', here, same⟩ := at'
      rw [here]
      exact same

theorem Written.isSome (written : Written column column') :
    (column'.findSome? id).isSome = (column.findSome? id).isSome := by
  induction written with
  | kept => rfl
  | here => rfl
  | further _ ih => exact ih

theorem Written.trans (before : Written column column') (after : Written column' column'') :
    Written column column'' := by
  induction before generalizing column'' with
  | kept => exact after
  | here old new outer =>
      cases after with
      | kept => exact .here old new outer
      | here _ newer => exact .here old newer outer
  | further before ih =>
      cases after with
      | kept => exact .further before
      | further after => exact .further (ih after)

theorem Written.eq_of_unbound (written : Written column column')
    (unbound : column'.findSome? id = none) : column' = column := by
  induction written with
  | kept => rfl
  | here => cases unbound
  | further _ ih => exact congrArg (none :: ·) (ih unbound)

theorem Assigned.length (assigned : Assigned column column') : column'.length = column.length := by
  cases assigned with
  | written written => exact written.length
  | declared => rfl

theorem Assigned.trans (before : Assigned column column') (after : Assigned column' column'') :
    Assigned column column'' := by
  cases after with
  | written after =>
      cases before with
      | written before => exact .written (before.trans after)
      | declared value unbound =>
          cases after with
          | kept => exact .declared value unbound
          | here _ new => exact .declared new unbound
  | @declared value outer unbound =>
      cases before with
      | written before =>
          have same := before.eq_of_unbound (by simpa using unbound)
          rw [← same]
          exact .declared value unbound

/-- Outside the innermost environment a name is at most written. -/
theorem Assigned.outer (assigned : Assigned (entry :: column) (entry' :: column')) :
    Written column column' := by
  cases assigned with
  | written written =>
      cases written with
      | kept => exact .kept column
      | here => exact .kept column
      | further written => exact written
  | declared => exact .kept column

/-- A name that is bound in the innermost environment is not touched outside. -/
theorem Assigned.outer_of_bound (assigned : Assigned (entry :: column) (entry' :: column'))
    (bound : entry.isSome) : column' = column := by
  cases assigned with
  | written written =>
      cases written with
      | kept => rfl
      | here => rfl
      | further => cases bound
  | declared => cases bound

/-- A name that is bound outside only is not bound inside. -/
theorem Assigned.inner_of_bound (assigned : Assigned (none :: column) (entry' :: column'))
    (bound : (column.findSome? id).isSome) : entry' = none := by
  cases assigned with
  | written written =>
      cases written with
      | kept => rfl
      | further => rfl
  | declared value unbound =>
      rw [unbound] at bound
      cases bound

end Written

end Column

/-! ## Columns of stacks -/

namespace Stack

def column (stack : Stack) (name : String) : Column :=
  stack.map fun bindings => bindings.get? name

theorem length_column (stack : Stack) (name : String) : (stack.column name).length = stack.length :=
  List.length_map _

theorem lookup_eq_column (stack : Stack) (name : String) :
    stack.lookup name = (stack.column name).findSome? id := by
  rw [lookup, column, List.findSome?_map]
  rfl

theorem column_write_of_ne (stack : Stack) {name other : String} (different : other ≠ name)
    (value : Value) : (stack.write name value).column other = stack.column other := by
  induction stack with
  | nil => rfl
  | cons bindings rest ih =>
      rw [write]
      split
      · exact congrArg (· :: column rest other) (Dict.get?_insert_of_ne bindings value different)
      · exact congrArg (bindings.get? other :: ·) ih

private theorem written_write (stack : Stack) (name : String) (value : Value) (other : String) :
    (stack.column other).Written ((stack.write name value).column other) := by
  by_cases same : other = name
  · subst same
    induction stack with
    | nil => exact .kept _
    | cons bindings rest ih =>
        rw [write]
        split
        · rename_i bound
          obtain ⟨old, found⟩ := Option.isSome_iff_exists.mp bound
          rw [column, column, List.map_cons, List.map_cons, found, Dict.get?_insert_self]
          exact .here old value _
        · rename_i unbound
          have absent : bindings.get? other = none := by simpa [Dict.has] using unbound
          rw [column, column, List.map_cons, List.map_cons, absent]
          exact .further ih
  · rw [column_write_of_ne stack same]
    exact .kept _

private theorem assigned_declare {stack : Stack} {name : String}
    (unbound : stack.lookup name = none) (value : Value) (other : String) :
    (stack.column other).Assigned ((stack.declare name value).column other) := by
  cases stack with
  | nil => exact .written (.kept _)
  | cons top rest =>
      rw [declare, column, column, List.map_cons, List.map_cons]
      by_cases same : other = name
      · subst same
        obtain ⟨inner, outer⟩ := Option.or_eq_none_iff.mp ((lookup_cons top rest other) ▸ unbound)
        rw [Dict.get?_insert_self, show top.get? other = none from inner]
        exact .declared value (by rwa [lookup_eq_column] at outer)
      · rw [Dict.get?_insert_of_ne top value same]
        exact .written (.kept _)

private theorem eq_write_of_update {stack after : Stack} {name : String}
    {change : Value → Except Cause Value} (updated : stack.update name change = .ok after) :
    ∃ value, after = stack.write name value := by
  unfold update at updated
  split at updated
  · rename_i old _
    cases changed : change old with
    | ok value =>
        rw [changed] at updated
        cases updated
        exact ⟨value, rfl⟩
    | error cause =>
        rw [changed] at updated
        cases updated
  · cases updated

end Stack

/-! ## Columns of scopes -/

namespace Scope

/-- The scope is a stack again, and a relation holds for every name. -/
def ByName (relation : Column → Column → Prop) (before after : Scope) : Prop :=
  ∀ stack, before.Stacked stack → ∃ stack', after.Stacked stack' ∧
    ∀ name, relation (stack.column name) (stack'.column name)

theorem ByName.trans {relation : Column → Column → Prop}
    (transitive : ∀ {first second third : Column}, relation first second →
      relation second third → relation first third) {first second third : Scope}
    (before : ByName relation first second) (after : ByName relation second third) : ByName relation first third := by
  intro stack stacked
  obtain ⟨stack', stacked', early⟩ := before stack stacked
  obtain ⟨stack'', stacked'', late⟩ := after stack' stacked'
  exact ⟨stack'', stacked'', fun name => transitive (early name) (late name)⟩

theorem ByName.kept (scope : Scope) : ByName Column.Written scope scope :=
  fun stack stacked => ⟨stack, stacked, fun name => .kept (stack.column name)⟩

theorem ByName.assigned {before after : Scope} (written : ByName Column.Written before after) :
    ByName Column.Assigned before after := by
  intro stack stacked
  obtain ⟨stack', stacked', same⟩ := written stack stacked
  exact ⟨stack', stacked', fun name => .written (same name)⟩

theorem Stacked.get?_bindingsAt {scope : Scope} {stack : Stack} (stacked : scope.Stacked stack)
    (place : Nat) (name : String) :
    (scope.bindingsAt place).get? name = ((stack.column name).reverse[place]?).join := by
  have bindings := congrArg (·[place]?) stack.bindings_environments
  simp only [← stacked.environments, List.getElem?_map] at bindings
  rw [Stack.column, ← List.map_reverse, List.getElem?_map, ← bindings, bindingsAt]
  cases scope.environments[place]? with
  | none => rfl
  | some environment => rfl

theorem Stacked.parents {scope after : Scope} {stack left : Stack} (stacked : scope.Stacked stack)
    (stacked' : after.Stacked left) (count : left.length = stack.length) :
    after.environments.map (·.parent) = scope.environments.map (·.parent) := by
  apply List.ext_getElem?
  intro place
  rw [List.getElem?_map, List.getElem?_map]
  by_cases within : place < stack.length
  · obtain ⟨environment, here, parent⟩ := stacked.environment_at within
    obtain ⟨environment', here', parent'⟩ := stacked'.environment_at (count ▸ within)
    rw [here, here', Option.map_some, Option.map_some, parent, parent']
  · have outside : scope.environments.length ≤ place := stacked.count ▸ Nat.le_of_not_lt within
    have outside' : after.environments.length ≤ place := by
      rw [stacked'.count, count]
      exact Nat.le_of_not_lt within
    rw [List.getElem?_eq_none outside, List.getElem?_eq_none outside']

/-- Where names are at most written, nothing is left that was not there before. -/
theorem framed_of_written {before after : Scope} {stack left : Stack}
    (stacked : before.Stacked stack) (stacked' : after.Stacked left)
    (columns : ∀ name, (stack.column name).Written (Stack.column left name)) :
    Framed (fun _ => False) (fun _ => True) before after := by
  have count := (columns "").length
  rw [Stack.length_column, Stack.length_column] at count
  have current := stacked.current
  have current' := stacked'.current
  have same : ∀ place name, (after.bindingsAt place).has name =
      (before.bindingsAt place).has name := by
    intro place name
    rw [Dict.has, Dict.has, stacked.get?_bindingsAt, stacked'.get?_bindingsAt]
    exact (columns name).isSome_at place
  exact {
    count := by rw [stacked'.count, stacked.count, count]
    current := by omega
    parents := stacked.parents stacked' count
    bound := fun place name bound => (same place name).trans bound
    added := fun place name bound => .inl ((same place name).symm.trans bound)
    values := fun _ _ kept => absurd trivial kept }

/-- The scope with one more environment, which holds the bindings. -/
def opened (scope : Scope) (bindings : Dict Value) : Scope :=
  ⟨scope.environments ++ [⟨some scope.current, bindings⟩], scope.environments.length⟩

theorem Stacked.opened {scope : Scope} {stack : Stack} (stacked : scope.Stacked stack)
    (bindings : Dict Value) : (scope.opened bindings).Stacked (bindings :: stack) where
  environments := by
    have current := stacked.current
    have parent : (if stack.length = 0 then none else some (stack.length - 1)) =
        some scope.current := by
      rw [← current, if_neg (Nat.succ_ne_zero _), Nat.add_sub_cancel]
    rw [Scope.opened, Stack.environments, parent, stacked.environments]
  current := by
    rw [Scope.opened, stacked.count]
    rfl

private theorem declare_opened (scope : Scope) (bindings : Dict Value) (name : String)
    (value : Value) :
    (scope.opened bindings).declare name value =
      scope.opened (bindings.insert name value) := by
  simp only [opened, declare, declareAt, List.modify_eq_take_drop, List.take_left, List.drop_left]
  rfl

theorem declare_all_push (scope : Scope) (bindings : List (String × Value)) :
    bindings.foldl (fun scope binding => scope.declare binding.1 binding.2) scope.push.2 =
      scope.opened (Dict.ofEntries bindings) := by
  suffices ∀ dict : Dict Value,
      bindings.foldl (fun scope binding => scope.declare binding.1 binding.2)
          (scope.opened dict) =
        scope.opened
          (bindings.foldl (fun dict entry => dict.insert entry.1 entry.2) dict) from this ∅
  induction bindings with
  | nil => exact fun _ => rfl
  | cons binding rest ih =>
      intro dict
      rw [List.foldl_cons, List.foldl_cons, declare_opened, ih]

/-- What is left of an environment and the ones around it when the environment is dropped. -/
theorem ByName.closed {scope inner : Scope} {bindings : Dict Value} {stack : Stack}
    (stacked : scope.Stacked stack)
    (assigned : ByName Column.Assigned (scope.opened bindings) inner) :
    ∃ top left, inner.Stacked (top :: left) ∧ (inner.rewind scope.push.1).Stacked left ∧
      ∀ name, Column.Assigned (bindings.get? name :: stack.column name)
        (top.get? name :: Stack.column left name) := by
  obtain ⟨within, inside, columns⟩ := assigned _ (stacked.opened bindings)
  have count := (columns "").length
  rw [Stack.length_column, Stack.length_column] at count
  cases within with
  | nil => cases count
  | cons top left =>
      exact ⟨top, left, inside, rewind_pushed stacked inside (Nat.succ.inj count), columns⟩

theorem ByName.block {scope inner : Scope} {bindings : List (String × Value)}
    (assigned : ByName Column.Assigned
      (bindings.foldl (fun scope binding => scope.declare binding.1 binding.2) scope.push.2)
      inner) :
    ByName Column.Written scope (inner.rewind scope.push.1) := by
  intro stack stacked
  rw [declare_all_push] at assigned
  obtain ⟨top, left, -, closed, columns⟩ := assigned.closed stacked
  exact ⟨left, closed, fun name => (columns name).outer⟩

private theorem assigned_write {place : Place} {implicit : Bool} {value : Value}
    {scope after : Scope} (wrote : place.write implicit value scope = .ok after) :
    ByName Column.Assigned scope after := by
  intro stack stacked
  unfold Place.write at wrote
  split at wrote
  · rename_i declares
    cases wrote
    have unbound : stack.lookup place.root = none := by
      simp only [Bool.and_eq_true, Bool.not_eq_true', stacked.contains] at declares
      simpa using declares.2
    exact ⟨_, stacked.declare place.root value, Stack.assigned_declare unbound value⟩
  · obtain ⟨left, updated, stacked'⟩ := (stacked.update place.root _).ok wrote
    obtain ⟨new, rfl⟩ := Stack.eq_write_of_update updated
    exact ⟨_, stacked', fun name => .written (stack.written_write place.root new name)⟩

end Scope

/-! ## Evaluations and walks -/

def Machine.assigning : Promise (Machine σ) :=
  .ofEnds (fun before after => Scope.ByName Column.Assigned before.scope after.scope)
    (fun machine => (Scope.ByName.kept machine.scope).assigned)
    (Scope.ByName.trans fun before after => before.trans after)

def Walk.assigning : Promise (Walk σ) :=
  .ofEnds (fun before after =>
      Scope.ByName Column.Assigned before.machine.scope after.machine.scope)
    (fun walk => (Scope.ByName.kept walk.machine.scope).assigned)
    (Scope.ByName.trans fun before after => before.trans after)

theorem Machine.assigning_keeping (host : Host σ) (implicit : Bool) (all : List Expression) :
    Machine.Keeping Machine.assigning host implicit all where
  invoke site _ function arguments machine := by
    refine (always_invoke host site function arguments machine).imp (fun _ _ => trivial) ?_
    rintro after result ⟨same, -⟩
    have kept : Scope.ByName Column.Assigned machine.scope after.scope := by
      rw [same]
      exact (Scope.ByName.kept machine.scope).assigned
    cases result with
    | ok => exact kept
    | error => exact kept
  assign _ _ _ _ _ _ _ _ _ _ machine :=
    always_writePlace (fun _ wrote => Scope.assigned_write wrote)
      fun _ _ => (Scope.ByName.kept machine.scope).assigned
  rewrite _ _ _ _ _ _ _ after _ _ _ _ :=
    always_writePlace (fun _ wrote => Scope.assigned_write wrote)
      fun _ _ => (Scope.ByName.kept after.scope).assigned

theorem Walk.assigning_keeping (host : Host σ) (implicit : Bool) (all : List Expression) :
    Walk.Keeping Walk.assigning Machine.assigning host implicit all where
  machine := Machine.assigning_keeping host implicit all
  evaluating action keeps := by
    refine keeps.focus (fun _ _ _ => trivial) ?_ ?_
    · exact fun _ _ assigned => assigned
    · exact fun _ _ assigned => assigned
  perform operation span _ walk := by
    rw [Action.KeepsFrom, Walk.perform_eq]
    cases (walk.draft.apply operation).1 with
    | ok => exact (Scope.ByName.kept walk.machine.scope).assigned
    | error => exact (Scope.ByName.kept walk.machine.scope).assigned
  block bindings body keeps := by
    refine keeps.around ?_ ?_ ?_
    · exact fun _ _ _ => trivial
    · exact fun _ _ assigned => (Scope.ByName.block assigned).assigned
    · exact fun _ _ assigned => (Scope.ByName.block assigned).assigned

end ChatTemplate
