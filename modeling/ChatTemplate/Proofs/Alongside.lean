import ChatTemplate.Proofs.Stack

/-!
Scopes that show some names alike. Two stacks stand alongside each other when what has been opened
in both is the same, and what lies below shows the same values of the names in question, however
deep it is and wherever it binds them. Whatever is done to such names in both, what is opened and
what is dropped again, leaves them so.
-/

set_option autoImplicit false

namespace ChatTemplate

/-! ## Lookups in changed stacks -/

namespace Stack

@[simp] theorem length_declare (stack : Stack) (name : String) (value : Value) :
    (stack.declare name value).length = stack.length := by
  cases stack with
  | nil => rfl
  | cons top rest => rfl

@[simp] theorem length_write (stack : Stack) (name : String) (value : Value) :
    (stack.write name value).length = stack.length := by
  induction stack with
  | nil => rfl
  | cons bindings rest ih =>
      simp only [write]
      split
      · rfl
      · simp [ih]

theorem lookup_cons (bindings : Dict Value) (rest : Stack) (name : String) :
    lookup (bindings :: rest) name = (bindings.get? name).or (lookup rest name) := by
  cases found : bindings.get? name with
  | none => simp [lookup, found]
  | some value => simp [lookup, found]

theorem lookup_append (top base : Stack) (name : String) :
    lookup (top ++ base) name = (top.lookup name).or (base.lookup name) := by
  induction top with
  | nil => rfl
  | cons bindings rest ih =>
      rw [List.cons_append, lookup_cons, lookup_cons, ih, Option.or_assoc]

theorem lookup_declare {stack : Stack} (filled : stack ≠ []) (name other : String)
    (value : Value) :
    (stack.declare name value).lookup other =
      if other = name then some value else stack.lookup other := by
  cases stack with
  | nil => exact absurd rfl filled
  | cons top rest =>
      rw [declare, lookup_cons, lookup_cons]
      split
      · rename_i same
        rw [same, Dict.get?_insert_self, Option.some_or]
      · rename_i different
        rw [Dict.get?_insert_of_ne top value different]

theorem lookup_write {stack : Stack} {name : String} (bound : (stack.lookup name).isSome)
    (other : String) (value : Value) :
    (stack.write name value).lookup other =
      if other = name then some value else stack.lookup other := by
  induction stack with
  | nil => cases bound
  | cons bindings rest ih =>
      rw [lookup_cons] at bound
      rw [write, lookup_cons]
      by_cases here : bindings.has name = true
      · rw [if_pos here, lookup_cons]
        split
        · rename_i same
          rw [same, Dict.get?_insert_self, Option.some_or]
        · rename_i different
          rw [Dict.get?_insert_of_ne bindings value different]
      · have absent : bindings.get? name = none := by
          simpa [Dict.has] using here
        rw [absent, Option.none_or] at bound
        rw [if_neg here, lookup_cons, ih bound]
        split
        · rename_i same
          rw [same, absent, Option.none_or]
        · rfl

/-- A name is written in what has been opened if it is bound there, and below otherwise. -/
theorem write_append (top base : Stack) (name : String) (value : Value) :
    write (top ++ base) name value =
      if (top.lookup name).isSome then top.write name value ++ base
      else top ++ base.write name value := by
  induction top with
  | nil => rfl
  | cons bindings rest ih =>
      rw [List.cons_append, write, write, lookup_cons, ih]
      cases found : bindings.get? name with
      | some old => simp [Dict.has, found]
      | none =>
          have absent : ¬ bindings.has name = true := by simp [Dict.has, found]
          rw [if_neg absent, if_neg absent, Option.none_or]
          split
          · rfl
          · rfl

/-- Two stacks that show the names alike; how deep they are does not matter. -/
structure Alike (mentioned : String → Prop) (stack stack' : Stack) : Prop where
  filled : stack ≠ []
  filled' : stack' ≠ []
  same : ∀ name, mentioned name → stack.lookup name = stack'.lookup name

private theorem filled_of_length {stack changed : Stack} (filled : stack ≠ [])
    (count : changed.length = stack.length) : changed ≠ [] := by
  rwa [← List.length_pos_iff, count, List.length_pos_iff]

section Alike

variable {mentioned : String → Prop} {stack stack' : Stack}

theorem Alike.declare (alike : Alike mentioned stack stack') (name : String) (value : Value) :
    Alike mentioned (stack.declare name value) (stack'.declare name value) where
  filled := filled_of_length alike.filled (length_declare stack name value)
  filled' := filled_of_length alike.filled' (length_declare stack' name value)
  same other member := by
    rw [lookup_declare alike.filled, lookup_declare alike.filled', alike.same other member]

theorem Alike.write (alike : Alike mentioned stack stack') {name : String}
    (member : mentioned name) (bound : (stack.lookup name).isSome) (value : Value) :
    Alike mentioned (stack.write name value) (stack'.write name value) where
  filled := filled_of_length alike.filled (length_write stack name value)
  filled' := filled_of_length alike.filled' (length_write stack' name value)
  same other otherMember := by
    have bound' := bound
    rw [alike.same name member] at bound'
    rw [lookup_write bound, lookup_write bound', alike.same other otherMember]

end Alike

end Stack

/-! ## Scopes that are stacks -/

namespace Scope

theorem SameUpdate.ok {changed : Except Cause Scope} {changed' : Except Cause Stack}
    (same : SameUpdate changed changed') {scope : Scope} (updated : changed = .ok scope) :
    ∃ stack, changed' = .ok stack ∧ scope.Stacked stack := by
  cases same with
  | updated stacked =>
      cases updated
      exact ⟨_, rfl, stacked⟩
  | refused cause => cases updated

theorem Stacked.update_ok {scope : Scope} {stack : Stack} (stacked : scope.Stacked stack)
    {name : String} {change : Value → Except Cause Value} {old new : Value}
    (found : stack.lookup name = some old) (changed : change old = .ok new) :
    ∃ after, scope.update name change = .ok after ∧ after.Stacked (stack.write name new) := by
  have updates := stacked.update name change
  rw [Stack.update, found] at updates
  dsimp only at updates
  rw [changed] at updates
  generalize scope.update name change = result at updates
  cases updates with
  | updated stacked => exact ⟨_, rfl, stacked⟩

theorem Stacked.update_error {scope : Scope} {stack : Stack} (stacked : scope.Stacked stack)
    {name : String} {change : Value → Except Cause Value} {cause : Cause}
    (refused : stack.update name change = .error cause) :
    scope.update name change = .error cause := by
  have updates := stacked.update name change
  rw [refused] at updates
  generalize scope.update name change = result at updates
  cases updates
  rfl

/-- A scope that the operations lead to is a stack, and its marks remember depths. -/
theorem Reachable.stacked {marks : List Mark} {scope : Scope} (reachable : Reachable marks scope) :
    (∃ stack, scope.Stacked stack) ∧ ∀ mark ∈ marks, ∃ depth, 0 < depth ∧
      mark = ⟨depth - 1, depth⟩ := by
  induction reachable with
  | empty => exact ⟨⟨[∅], rfl, rfl⟩, nofun⟩
  | declare _ name value ih =>
      obtain ⟨⟨stack, stacked⟩, marks⟩ := ih
      exact ⟨⟨_, stacked.declare name value⟩, marks⟩
  | declareGlobal _ name value ih =>
      obtain ⟨⟨stack, stacked⟩, marks⟩ := ih
      exact ⟨⟨_, stacked.declareGlobal name value⟩, marks⟩
  | update _ name change updated ih =>
      obtain ⟨⟨stack, stacked⟩, marks⟩ := ih
      obtain ⟨after, -, stacked⟩ := (stacked.update name change).ok updated
      exact ⟨⟨after, stacked⟩, marks⟩
  | push _ ih =>
      obtain ⟨⟨stack, stacked⟩, marks⟩ := ih
      obtain ⟨mark, pushed⟩ := stacked.push
      have positive := List.length_pos_iff.mpr stacked.filled
      exact ⟨⟨_, pushed⟩, List.forall_mem_cons.mpr ⟨⟨stack.length, positive, mark⟩, marks⟩⟩
  | rewind _ mark made ih =>
      obtain ⟨⟨stack, stacked⟩, marks⟩ := ih
      obtain ⟨depth, positive, rfl⟩ := marks mark made
      exact ⟨⟨_, stacked.rewind positive⟩, marks⟩

/-- Both scopes have the same values of the names, or neither has one. -/
def Agree (mentioned : String → Prop) (scope scope' : Scope) : Prop :=
  ∀ name, mentioned name → scope.lookup name = scope'.lookup name

/-- How many environments have been opened in both of two scopes, and how many each has below. -/
structure Depths where
  opened : Nat
  below : Nat
  below' : Nat

/-- The same has been opened in both scopes, and what lies below shows the names alike. -/
structure Alongside (mentioned : String → Prop) (depths : Depths) (scope scope' : Scope)
    (top base base' : Stack) : Prop where
  stacked : scope.Stacked (top ++ base)
  stacked' : scope'.Stacked (top ++ base')
  opened : top.length = depths.opened
  below : base.length = depths.below
  below' : base'.length = depths.below'
  alike : Stack.Alike mentioned base base'

section Alongside

variable {mentioned : String → Prop} {depths : Depths} {scope scope' : Scope}
  {top base base' : Stack}

theorem Alongside.agree (alongside : Alongside mentioned depths scope scope' top base base') :
    Agree mentioned scope scope' := by
  intro name member
  rw [alongside.stacked.lookup, alongside.stacked'.lookup, Stack.lookup_append, Stack.lookup_append,
    alongside.alike.same name member]

theorem alongside_of_agree {stack stack' : Stack} (stacked : scope.Stacked stack)
    (stacked' : scope'.Stacked stack') (agree : Agree mentioned scope scope') :
    Alongside mentioned ⟨0, stack.length, stack'.length⟩ scope scope' [] stack stack' := by
  refine ⟨stacked, stacked', rfl, rfl, rfl, stacked.filled, stacked'.filled, ?_⟩
  intro name member
  rw [← stacked.lookup, ← stacked'.lookup, agree name member]

theorem Alongside.declare (alongside : Alongside mentioned depths scope scope' top base base')
    (name : String) (value : Value) :
    ∃ top base base', Alongside mentioned depths (scope.declare name value)
      (scope'.declare name value) top base base' := by
  obtain ⟨stacked, stacked', opened, below, below', alike⟩ := alongside
  have declared := stacked.declare name value
  have declared' := stacked'.declare name value
  cases top with
  | nil =>
      have count := Stack.length_declare base name value
      have count' := Stack.length_declare base' name value
      exact ⟨[], _, _, declared, declared', opened, count.trans below, count'.trans below',
        alike.declare name value⟩
  | cons bindings rest =>
      exact ⟨bindings.insert name value :: rest, base, base', declared, declared', opened,
        below, below', alike⟩

/-- A name that is shown alike is changed in both scopes or refused in both. -/
theorem Alongside.update (alongside : Alongside mentioned depths scope scope' top base base')
    {name : String} (member : mentioned name) (change : Value → Except Cause Value) :
    (∃ after after' top base base', scope.update name change = .ok after ∧
        scope'.update name change = .ok after' ∧
          Alongside mentioned depths after after' top base base') ∨
      ∃ cause, scope.update name change = .error cause ∧
        scope'.update name change = .error cause := by
  have lookups := alongside.agree name member
  obtain ⟨stacked, stacked', opened, below, below', alike⟩ := alongside
  rw [stacked.lookup, stacked'.lookup] at lookups
  cases found : Stack.lookup (top ++ base) name with
  | none =>
      have refused : Stack.update (top ++ base) name change = .error (.unboundIdentifier name) := by
        rw [Stack.update, found]
      have refused' : Stack.update (top ++ base') name change =
          .error (.unboundIdentifier name) := by
        rw [Stack.update, ← lookups, found]
      exact .inr ⟨_, stacked.update_error refused, stacked'.update_error refused'⟩
  | some old =>
      have found' : Stack.lookup (top ++ base') name = some old := by rw [← lookups, found]
      cases changed : change old with
      | error cause =>
          have refused : Stack.update (top ++ base) name change = .error cause := by
            rw [Stack.update, found]
            exact congrArg (Except.map _) changed
          have refused' : Stack.update (top ++ base') name change = .error cause := by
            rw [Stack.update, found']
            exact congrArg (Except.map _) changed
          exact .inr ⟨cause, stacked.update_error refused, stacked'.update_error refused'⟩
      | ok new =>
          left
          obtain ⟨after, updated, written⟩ := stacked.update_ok found changed
          obtain ⟨after', updated', written'⟩ := stacked'.update_ok found' changed
          rw [Stack.write_append] at written written'
          by_cases here : (top.lookup name).isSome = true
          · rw [if_pos here] at written written'
            have count := Stack.length_write top name new
            exact ⟨after, after', _, base, base', updated, updated', written, written',
              count.trans opened, below, below', alike⟩
          · rw [if_neg here] at written written'
            have absent : top.lookup name = none := by simpa using here
            rw [Stack.lookup_append, absent, Option.none_or] at found
            have bound : (base.lookup name).isSome := by rw [found]; rfl
            have count := Stack.length_write base name new
            have count' := Stack.length_write base' name new
            exact ⟨after, after', top, _, _, updated, updated', written, written', opened,
              count.trans below, count'.trans below', alike.write member bound new⟩

/-- Writing to a place whose root is shown alike is the same in both scopes: the root is declared,
changed or refused. -/
theorem Alongside.write (alongside : Alongside mentioned depths scope scope' top base base')
    {place : Place} (member : mentioned place.root) (implicit : Bool) (value : Value) :
    (∃ after after' top base base', place.write implicit value scope = .ok after ∧
        place.write implicit value scope' = .ok after' ∧
          Alongside mentioned depths after after' top base base') ∨
      ∃ cause, place.write implicit value scope = .error cause ∧
        place.write implicit value scope' = .error cause := by
  have contains : scope.contains place.root = scope'.contains place.root := by
    rw [alongside.stacked.contains, alongside.stacked'.contains, ← alongside.stacked.lookup,
      ← alongside.stacked'.lookup, alongside.agree place.root member]
  unfold Place.write
  rw [contains]
  split
  · obtain ⟨top, base, base', declared⟩ := alongside.declare place.root value
    exact .inl ⟨_, _, top, base, base', rfl, rfl, declared⟩
  · exact alongside.update member _

theorem Alongside.declare_all (alongside : Alongside mentioned depths scope scope' top base base')
    (bindings : List (String × Value)) :
    ∃ top base base', Alongside mentioned depths
      (bindings.foldl (fun scope binding => scope.declare binding.1 binding.2) scope)
      (bindings.foldl (fun scope binding => scope.declare binding.1 binding.2) scope')
      top base base' := by
  induction bindings generalizing scope scope' top base base' with
  | nil => exact ⟨top, base, base', alongside⟩
  | cons binding rest ih =>
      obtain ⟨_, _, _, declared⟩ := alongside.declare binding.1 binding.2
      exact ih declared

theorem Alongside.push (alongside : Alongside mentioned depths scope scope' top base base') :
    Alongside mentioned { depths with opened := depths.opened + 1 } scope.push.2 scope'.push.2
      (∅ :: top) base base' :=
  { alongside with
    stacked := alongside.stacked.push.2
    stacked' := alongside.stacked'.push.2
    opened := congrArg (· + 1) alongside.opened }

theorem rewind_pushed {stack : Stack} (stacked : scope.Stacked stack) {after : Scope}
    {opened : Dict Value} {left : Stack} (inside : after.Stacked (opened :: left))
    (count : left.length = stack.length) : (after.rewind scope.push.1).Stacked left := by
  have positive := List.length_pos_iff.mpr stacked.filled
  have rewound := inside.rewind positive
  rw [stacked.push.1]
  rwa [Stack.rewind, List.length_cons, count, if_pos (Nat.le_succ _), Nat.add_sub_cancel_left,
    List.drop_one, List.tail_cons] at rewound

/-- Behind a block both scopes are alongside each other as they were before it. -/
theorem Alongside.rewind (alongside : Alongside mentioned depths scope scope' top base base')
    {after after' : Scope} {deeper inner inner' : Stack}
    (inside : Alongside mentioned { depths with opened := depths.opened + 1 } after after' deeper
      inner inner') :
    ∃ top, Alongside mentioned depths (after.rewind scope.push.1) (after'.rewind scope'.push.1)
      top inner inner' := by
  obtain ⟨stacked, stacked', opened, below, below', -⟩ := alongside
  obtain ⟨within, within', openedInside, belowInside, belowInside', alike⟩ := inside
  cases deeper with
  | nil => cases openedInside
  | cons bindings rest =>
      have count : rest.length = depths.opened := Nat.succ.inj openedInside
      refine ⟨rest, ?_, ?_, count, belowInside, belowInside', alike⟩
      · refine rewind_pushed stacked within ?_
        rw [List.length_append, List.length_append, count, opened, belowInside, below]
      · refine rewind_pushed stacked' within' ?_
        rw [List.length_append, List.length_append, count, opened, belowInside', below']

end Alongside

end Scope

end ChatTemplate
