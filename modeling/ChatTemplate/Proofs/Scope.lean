import ChatTemplate.Evaluation.Place

/-!
What may change in a scope while a part of a template is evaluated: values of some names, and new
names in the current environment. The environments themselves stay, and those that a block opens are
gone behind it.
-/

set_option autoImplicit false

namespace ChatTemplate.Scope

/-! ## Scopes that come about -/

/-- A scope that the operations on scopes lead to from the empty one, with the marks that have been
made on the way. A mark may be returned to at any time and more than once. -/
inductive Reachable : List Mark → Scope → Prop where
  | empty : Reachable [] Scope.empty
  | declare {marks : List Mark} {scope : Scope} (before : Reachable marks scope) (name : String)
      (value : Value) : Reachable marks (scope.declare name value)
  | declareGlobal {marks : List Mark} {scope : Scope} (before : Reachable marks scope)
      (name : String) (value : Value) : Reachable marks (scope.declareGlobal name value)
  | update {marks : List Mark} {scope after : Scope} (before : Reachable marks scope)
      (name : String) (change : Value → Except Cause Value)
      (updated : scope.update name change = .ok after) : Reachable marks after
  | push {marks : List Mark} {scope : Scope} (before : Reachable marks scope) :
      Reachable (scope.push.1 :: marks) scope.push.2
  | rewind {marks : List Mark} {scope : Scope} (before : Reachable marks scope) (mark : Mark)
      (made : mark ∈ marks) : Reachable marks (scope.rewind mark)

@[simp] theorem length_declareAt (scope : Scope) (place : Nat) (name : String) (value : Value) :
    (scope.declareAt place name value).environments.length = scope.environments.length := by
  simp [declareAt]

/-- An update that succeeds writes a name where it is bound. -/
theorem update_eq_ok {scope after : Scope} {name : String} {change : Value → Except Cause Value}
    (updated : scope.update name change = .ok after) :
    ∃ place value, scope.home? name = some place ∧ after = scope.declareAt place name value := by
  unfold update at updated
  split at updated
  · rename_i place old home _
    cases changed : change old with
    | error cause =>
        rw [changed] at updated
        cases updated
    | ok value =>
        rw [changed] at updated
        cases updated
        exact ⟨place, value, home, rfl⟩
  · cases updated

theorem Reachable.environments_ne_nil {marks : List Mark} {scope : Scope}
    (reachable : Reachable marks scope) : scope.environments ≠ [] := by
  rw [← List.length_pos_iff]
  induction reachable with
  | empty => exact Nat.one_pos
  | declare _ _ _ ih => simpa [Scope.declare] using ih
  | declareGlobal _ _ _ ih => simpa [Scope.declareGlobal] using ih
  | update _ _ _ updated ih =>
      obtain ⟨place, value, -, rfl⟩ := update_eq_ok updated
      simpa using ih
  | push _ ih => simp [Scope.push]
  | rewind _ mark _ ih =>
      unfold Scope.rewind
      split
      · rename_i kept
        simp only [Bool.and_eq_true, decide_eq_true_eq] at kept
        simp only [List.length_take]
        omega
      · exact ih

/-! ## Bindings -/

theorem bindingsAt_declareAt_of_ne (scope : Scope) {place other : Nat} (name : String)
    (value : Value) (different : other ≠ place) :
    (scope.declareAt place name value).bindingsAt other = scope.bindingsAt other := by
  simp [bindingsAt, declareAt, different.symm]

theorem bindingsAt_declareAt_self (scope : Scope) {place : Nat} (name : String) (value : Value)
    (within : place < scope.environments.length) :
    (scope.declareAt place name value).bindingsAt place =
      (scope.bindingsAt place).insert name value := by
  simp [bindingsAt, declareAt, List.getElem?_eq_getElem within]

/-- The name that is declared is the only one whose value changes, and only there. -/
theorem get?_declareAt_of_ne (scope : Scope) (place other : Nat) {name otherName : String}
    (value : Value) (different : otherName ≠ name) :
    ((scope.declareAt place name value).bindingsAt other).get? otherName =
      (scope.bindingsAt other).get? otherName := by
  by_cases same : other = place
  · subst same
    by_cases within : other < scope.environments.length
    · rw [bindingsAt_declareAt_self scope name value within]
      exact Dict.get?_insert_of_ne _ value different
    · simp [bindingsAt, declareAt, within]
  · rw [bindingsAt_declareAt_of_ne scope name value same]

private theorem contains_declareAt_of_contains (scope : Scope) (place other : Nat) (name : String)
    (value : Value) {otherName : String}
    (bound : (scope.bindingsAt other).has otherName = true) :
    ((scope.declareAt place name value).bindingsAt other).has otherName = true := by
  by_cases different : otherName = name
  · subst different
    by_cases same : other = place
    · subst same
      have within : other < scope.environments.length := by
        refine Nat.lt_of_not_ge fun outside => ?_
        simp [bindingsAt, List.getElem?_eq_none outside, Dict.has] at bound
      rw [bindingsAt_declareAt_self scope otherName value within]
      simp [Dict.has]
    · rwa [bindingsAt_declareAt_of_ne scope otherName value same]
  · rwa [Dict.has, get?_declareAt_of_ne scope place other value different]

theorem parents_declareAt (scope : Scope) (place : Nat) (name : String) (value : Value) :
    (scope.declareAt place name value).environments.map (·.parent) =
      scope.environments.map (·.parent) := by
  apply List.ext_getElem?
  intro other
  simp only [declareAt, List.getElem?_map, List.getElem?_modify]
  split <;> cases scope.environments[other]? <;> rfl

/-- Where names are looked up depends on the parents alone. -/
theorem visible_congr {scope other : Scope} (current : other.current = scope.current)
    (parents : other.environments.map (·.parent) = scope.environments.map (·.parent)) :
    other.visible = scope.visible := by
  have count : other.environments.length = scope.environments.length := by
    simpa using congrArg List.length parents
  have chains : ∀ fuel place, other.chain fuel place = scope.chain fuel place := by
    intro fuel
    induction fuel with
    | zero => exact fun _ => rfl
    | succ fuel ih =>
        intro place
        have parent := congrArg (·[place]?) parents
        simp only [List.getElem?_map] at parent
        simp only [chain]
        cases here : scope.environments[place]? with
        | none =>
            rw [here, Option.map_none, Option.map_eq_none_iff] at parent
            rw [parent]
        | some environment =>
            rw [here, Option.map_some, Option.map_eq_some_iff] at parent
            obtain ⟨twin, there, same⟩ := parent
            simp only [there, same]
            cases environment.parent with
            | none => rfl
            | some around => simp only [ih]
  rw [visible, visible, count, current, chains]

theorem contains_iff (scope : Scope) (name : String) :
    scope.contains name = true ↔
      ∃ place ∈ scope.visible, (scope.bindingsAt place).has name = true := by
  simp [contains, home?, List.find?_isSome]

theorem contains_of_home {scope : Scope} {name : String} {place : Nat}
    (home : scope.home? name = some place) :
    (scope.bindingsAt place).has name = true := by
  simpa using List.find?_some home

theorem contains_of_resolve {scope : Scope} {name : String} {value : Value}
    (resolved : scope.resolve name = .ok value) : scope.contains name = true := by
  unfold resolve lookup at resolved
  unfold contains
  cases home : scope.home? name with
  | none => simp [home] at resolved
  | some place => rfl

/-! ## Frames -/

/-- What has stayed the same from one scope to a later one: the environments, the current one and
their parents; all names that were bound; and the values of all names but those that satisfy
`written`. New names stand in the current environment and satisfy `gained`. -/
structure Framed (gained written : String → Prop) (before after : Scope) : Prop where
  count : after.environments.length = before.environments.length
  current : after.current = before.current
  parents : after.environments.map (·.parent) = before.environments.map (·.parent)
  bound : ∀ place name, (before.bindingsAt place).has name = true →
    (after.bindingsAt place).has name = true
  added : ∀ place name, (after.bindingsAt place).has name = true →
    (before.bindingsAt place).has name = true ∨ place = before.current ∧ gained name
  values : ∀ place name, ¬ written name →
    (after.bindingsAt place).get? name = (before.bindingsAt place).get? name

namespace Framed

variable {gained written : String → Prop}

theorem refl (scope : Scope) : Framed gained written scope scope where
  count := rfl
  current := rfl
  parents := rfl
  bound _ _ bound := bound
  added _ _ bound := .inl bound
  values _ _ _ := rfl

theorem trans {first second third : Scope} (before : Framed gained written first second)
    (after : Framed gained written second third) : Framed gained written first third where
  count := after.count.trans before.count
  current := after.current.trans before.current
  parents := after.parents.trans before.parents
  bound place name bound := after.bound place name (before.bound place name bound)
  added place name bound := by
    rcases after.added place name bound with bound | ⟨rfl, gained⟩
    · exact before.added place name bound
    · exact .inr ⟨before.current, gained⟩
  values place name kept := (after.values place name kept).trans (before.values place name kept)

theorem contains {before after : Scope} (framed : Framed gained written before after)
    {name : String} (bound : before.contains name = true) : after.contains name = true := by
  obtain ⟨place, visible, bound⟩ := (contains_iff before name).mp bound
  refine (contains_iff after name).mpr ⟨place, ?_, framed.bound place name bound⟩
  rwa [visible_congr framed.current framed.parents]

end Framed

variable {gained written : String → Prop}

/-- Writing a name where it is bound changes its value only. -/
theorem framed_declareAt (scope : Scope) {place : Nat} {name : String} (value : Value)
    (bound : (scope.bindingsAt place).has name = true) (wrote : written name) :
    Framed gained written scope (scope.declareAt place name value) where
  count := length_declareAt scope place name value
  current := rfl
  parents := parents_declareAt scope place name value
  bound other otherName := contains_declareAt_of_contains scope place other name value
  added other otherName boundAfter := by
    left
    by_cases same : other = place ∧ otherName = name
    · rw [same.1, same.2]
      exact bound
    · rw [Decidable.not_and_iff_or_not] at same
      rcases same with different | different
      · rwa [bindingsAt_declareAt_of_ne scope name value different] at boundAfter
      · rwa [Dict.has, get?_declareAt_of_ne scope place other value different] at boundAfter
  values other otherName kept := by
    refine get?_declareAt_of_ne scope place other value ?_
    rintro rfl
    exact kept wrote

theorem framed_update {scope after : Scope} {name : String} {change : Value → Except Cause Value}
    (updated : scope.update name change = .ok after) (wrote : written name) :
    Framed gained written scope after := by
  obtain ⟨place, value, home, rfl⟩ := update_eq_ok updated
  exact framed_declareAt scope value (contains_of_home home) wrote

theorem framed_declare (scope : Scope) {name : String} (value : Value) (gains : gained name)
    (wrote : written name) : Framed gained written scope (scope.declare name value) where
  count := length_declareAt scope scope.current name value
  current := rfl
  parents := parents_declareAt scope scope.current name value
  bound other otherName := contains_declareAt_of_contains scope scope.current other name value
  added other otherName boundAfter := by
    by_cases same : other = scope.current ∧ otherName = name
    · rw [same.1, same.2]
      exact .inr ⟨rfl, gains⟩
    · left
      rw [Decidable.not_and_iff_or_not] at same
      unfold declare at boundAfter
      rcases same with different | different
      · rwa [bindingsAt_declareAt_of_ne scope name value different] at boundAfter
      · rwa [Dict.has,
          get?_declareAt_of_ne scope scope.current other value different] at boundAfter
  values other otherName kept := by
    refine get?_declareAt_of_ne scope scope.current other value ?_
    rintro rfl
    exact kept wrote

/-- The bindings of a new environment leave those around it alone. -/
theorem declare_all_after_push (scope : Scope) (bindings : List (String × Value)) :
    let opened := bindings.foldl (fun scope binding => scope.declare binding.1 binding.2)
      scope.push.2
    opened.environments.length = scope.environments.length + 1 ∧
      opened.current = scope.environments.length ∧
        opened.environments.take scope.environments.length = scope.environments := by
  suffices ∀ start : Scope, start.environments.length = scope.environments.length + 1 →
      start.current = scope.environments.length →
      start.environments.take scope.environments.length = scope.environments →
      let opened := bindings.foldl (fun scope binding => scope.declare binding.1 binding.2) start
      opened.environments.length = scope.environments.length + 1 ∧
        opened.current = scope.environments.length ∧
          opened.environments.take scope.environments.length = scope.environments from
    this _ (by simp [push]) (by simp [push]) (by simp [push])
  induction bindings with
  | nil => exact fun _ count current around => ⟨count, current, around⟩
  | cons binding rest ih =>
      intro start count current around
      refine ih (start.declare binding.1 binding.2) ?_ current ?_
      · simpa [declare] using count
      · refine Eq.trans (List.ext_getElem? fun place => ?_) around
        simp only [declare, declareAt, List.getElem?_take, List.getElem?_modify, current]
        split
        · rename_i below
          have different : scope.environments.length ≠ place := by omega
          simp [different]
        · rfl

/-- Behind a block nothing is left of the environment that was opened for it. -/
theorem framed_block {gained' : String → Prop} {scope inner : Scope}
    {bindings : List (String × Value)} (nonempty : scope.environments ≠ [])
    (framed : Framed gained written
      (bindings.foldl (fun scope binding => scope.declare binding.1 binding.2) scope.push.2)
      inner) :
    Framed gained' written scope (inner.rewind scope.push.1) := by
  obtain ⟨count, current, around⟩ := declare_all_after_push scope bindings
  have innerCount := framed.count.trans count
  have positive : 0 < scope.environments.length := List.length_pos_iff.mpr nonempty
  have rewound : inner.rewind scope.push.1 =
      ⟨inner.environments.take scope.environments.length, scope.current⟩ := by
    simp only [rewind, push, innerCount]
    rw [if_pos (by simp [positive])]
  -- Below the opened environment the scopes around the block and inside it have the same bindings.
  have outside : ∀ place, place < scope.environments.length →
      (bindings.foldl (fun scope binding => scope.declare binding.1 binding.2)
        scope.push.2).bindingsAt place = scope.bindingsAt place := by
    intro place below
    have same := congrArg (·[place]?) around
    simp only [List.getElem?_take, if_pos below] at same
    simp only [bindingsAt, same]
  have dropped : ∀ place, (inner.rewind scope.push.1).bindingsAt place =
      if place < scope.environments.length then inner.bindingsAt place else ∅ := by
    intro place
    rw [rewound]
    simp only [bindingsAt, List.getElem?_take]
    split <;> simp_all
  have absent : ∀ place, ¬ place < scope.environments.length → scope.bindingsAt place = ∅ := by
    intro place above
    simp [bindingsAt, List.getElem?_eq_none (Nat.le_of_not_lt above)]
  refine ⟨?_, ?_, ?_, ?_, ?_, ?_⟩
  · rw [rewound]
    simp [innerCount]
  · rw [rewound]
  · rw [rewound]
    change (inner.environments.take scope.environments.length).map (·.parent) = _
    rw [List.map_take, framed.parents, ← List.map_take, around]
  · intro place name bound
    rw [dropped]
    split
    · rename_i below
      exact framed.bound place name (by rwa [outside place below])
    · rename_i above
      rwa [absent place above] at bound
  · intro place name bound
    left
    rw [dropped] at bound
    split at bound
    · rename_i below
      rcases framed.added place name bound with bound | ⟨same, -⟩
      · rwa [outside place below] at bound
      · omega
    · cases bound
  · intro place name kept
    rw [dropped]
    split
    · rename_i below
      rw [framed.values place name kept, outside place below]
    · rename_i above
      rw [absent place above]

end ChatTemplate.Scope
