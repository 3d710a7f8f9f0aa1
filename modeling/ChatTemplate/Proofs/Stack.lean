import ChatTemplate.Proofs.Scope

/-!
Scopes are stacks. The environments of a scope name their parents by places in a list, and a mark
may be returned to late, twice or out of order. Still a scope does what a plain stack of
dictionaries does, whose marks are depths.
-/

set_option autoImplicit false

namespace ChatTemplate

/-! ## Stacks -/

/-- A stack of dictionaries, the innermost first. -/
abbrev Stack : Type := List (Dict Value)

namespace Stack

/-- The value of a name in the innermost dictionary that has it. -/
def lookup (stack : Stack) (name : String) : Option Value :=
  stack.findSome? fun bindings => bindings.get? name

def declare : Stack → String → Value → Stack
  | [], _, _ => []
  | top :: rest, name, value => top.insert name value :: rest

def declareGlobal : Stack → String → Value → Stack
  | [], _, _ => []
  | [bottom], name, value => [bottom.insert name value]
  | top :: rest, name, value => top :: declareGlobal rest name value

/-- Writes a name in the innermost dictionary that has it. -/
def write : Stack → String → Value → Stack
  | [], _, _ => []
  | bindings :: rest, name, value =>
      if bindings.has name then bindings.insert name value :: rest
      else bindings :: write rest name value

def update (stack : Stack) (name : String) (change : Value → Except Cause Value) :
    Except Cause Stack :=
  match stack.lookup name with
  | some old => (change old).map (stack.write name)
  | none => .error (.unboundIdentifier name)

/-- Pops to a depth; a stack that is not as deep stays as it is. -/
def rewind (stack : Stack) (depth : Nat) : Stack :=
  if depth ≤ stack.length then stack.drop (stack.length - depth) else stack

end Stack

/-! ## Operations -/

/-- An operation on a scope. Marks are named by their numbers in the order in which they were
made. -/
inductive Scope.Operation where
  | declare (name : String) (value : Value)
  | declareGlobal (name : String) (value : Value)
  | assign (name : String) (value : Value)
  | update (name : String) (change : Value → Except Cause Value)
  | push
  | rewind (number : Nat)

/-- A scope and the marks that it has made. -/
structure Scope.Session where
  scope : Scope
  marks : List Scope.Mark := []

/-- A stack and the depths that it had when marks were made. -/
structure Stack.Session where
  stack : Stack
  depths : List Nat := []

/-- The result of a change that may fail, and the state that it leaves. -/
def attempt {α β : Type} (state : α) (replace : β → α) (changed : Except Cause β) :
    Except Cause Unit × α :=
  match changed with
  | .ok part => (.ok (), replace part)
  | .error cause => (.error cause, state)

def Scope.Session.perform (session : Scope.Session) :
    Scope.Operation → Except Cause Unit × Scope.Session
  | .declare name value => (.ok (), { session with scope := session.scope.declare name value })
  | .declareGlobal name value =>
      (.ok (), { session with scope := session.scope.declareGlobal name value })
  | .assign name value =>
      attempt session (fun scope => { session with scope }) (session.scope.assign name value)
  | .update name change =>
      attempt session (fun scope => { session with scope }) (session.scope.update name change)
  | .push => (.ok (), ⟨session.scope.push.2, session.marks ++ [session.scope.push.1]⟩)
  | .rewind number =>
      match session.marks[number]? with
      | some mark => (.ok (), { session with scope := session.scope.rewind mark })
      | none => (.ok (), session)

def Stack.Session.perform (session : Stack.Session) :
    Scope.Operation → Except Cause Unit × Stack.Session
  | .declare name value => (.ok (), { session with stack := session.stack.declare name value })
  | .declareGlobal name value =>
      (.ok (), { session with stack := session.stack.declareGlobal name value })
  | .assign name value =>
      attempt session (fun stack => { session with stack })
        (session.stack.update name fun _ => .ok value)
  | .update name change =>
      attempt session (fun stack => { session with stack }) (session.stack.update name change)
  | .push => (.ok (), ⟨∅ :: session.stack, session.depths ++ [session.stack.length]⟩)
  | .rewind number =>
      match session.depths[number]? with
      | some depth => (.ok (), { session with stack := session.stack.rewind depth })
      | none => (.ok (), session)

/-- Performs operations in order, also behind one that fails, and collects their results. -/
def performEach {α : Type} (perform : α → Scope.Operation → Except Cause Unit × α) (state : α) :
    List Scope.Operation → List (Except Cause Unit) × α
  | [] => ([], state)
  | operation :: rest =>
      let (results, final) := performEach perform (perform state operation).2 rest
      ((perform state operation).1 :: results, final)

/-! ## The environments of a stack -/

namespace Stack

/-- The environments of a stack by their places, the outermost first. -/
def environments : Stack → List Environment
  | [] => []
  | top :: rest =>
      environments rest ++ [⟨if rest.length = 0 then none else some (rest.length - 1), top⟩]

@[simp] theorem length_environments (stack : Stack) :
    stack.environments.length = stack.length := by
  induction stack with
  | nil => rfl
  | cons top rest ih => simp [environments, ih]

theorem bindings_environments (stack : Stack) :
    stack.environments.map (·.bindings) = stack.reverse := by
  induction stack with
  | nil => rfl
  | cons top rest ih => simp [environments, ih]

theorem parent_environments {stack : Stack} {place : Nat} {environment : Environment}
    (found : stack.environments[place]? = some environment) :
    environment.parent = if place = 0 then none else some (place - 1) := by
  induction stack with
  | nil => cases found
  | cons top rest ih =>
      rw [environments, List.getElem?_append, length_environments] at found
      split at found
      · exact ih found
      · rename_i above
        have last : place = rest.length := by
          have bound := (List.getElem?_eq_some_iff.mp found).1
          simp only [List.length_cons, List.length_nil] at bound
          omega
        rw [last, Nat.sub_self] at found
        cases found
        rw [last]

private theorem take_environments (stack : Stack) {depth : Nat} (within : depth ≤ stack.length) :
    stack.environments.take depth = environments (stack.drop (stack.length - depth)) := by
  induction stack with
  | nil => simp [environments]
  | cons top rest ih =>
      rw [List.length_cons] at within
      rcases Nat.lt_or_eq_of_le within with below | whole
      · have short : depth ≤ (environments rest).length := by
          rw [length_environments]
          omega
        have dropped : (top :: rest).length - depth = rest.length - depth + 1 := by
          rw [List.length_cons]
          omega
        rw [dropped, List.drop_succ_cons, ← ih (by omega), environments,
          List.take_append_of_le_length short]
      · rw [whole, List.take_of_length_le (by simp)]
        simp

private theorem modify_environments_top (top : Dict Value) (rest : Stack)
    (change : Environment → Environment) :
    (environments (top :: rest)).modify rest.length change =
      environments rest ++
        [change ⟨if rest.length = 0 then none else some (rest.length - 1), top⟩] := by
  have place := length_environments rest
  rw [environments, List.modify_eq_take_drop, List.take_left' place, List.drop_left' place]
  rfl

private theorem modify_environments_further (top : Dict Value) (rest : Stack) {place : Nat}
    (below : place < rest.length) (change : Environment → Environment) :
    (environments (top :: rest)).modify place change =
      (environments rest).modify place change ++
        [⟨if rest.length = 0 then none else some (rest.length - 1), top⟩] := by
  have short : place ≤ (environments rest).length := by
    rw [length_environments]
    exact Nat.le_of_lt below
  rw [environments, List.modify_eq_take_drop, List.modify_eq_take_drop,
    List.take_append_of_le_length short, List.drop_append_of_le_length short]
  cases left : (environments rest).drop place with
  | nil =>
      have bound := List.drop_eq_nil_iff.mp left
      rw [length_environments] at bound
      omega
  | cons environment others => simp

/-- A name is found at a place, counted from the outermost dictionary, with a value. -/
inductive Home (name : String) : Stack → Nat → Value → Prop where
  | here {bindings : Dict Value} {rest : Stack} {old : Value}
      (found : bindings.get? name = some old) : Home name (bindings :: rest) rest.length old
  | further {bindings : Dict Value} {rest : Stack} {place : Nat} {old : Value}
      (absent : bindings.get? name = none) (home : Home name rest place old) :
      Home name (bindings :: rest) place old

def Absent (name : String) (stack : Stack) : Prop :=
  ∀ bindings ∈ stack, bindings.get? name = none

private theorem home_or_absent (name : String) (stack : Stack) :
    (∃ place old, Home name stack place old) ∨ Absent name stack := by
  induction stack with
  | nil => exact .inr nofun
  | cons bindings rest ih =>
      cases found : bindings.get? name with
      | some old => exact .inl ⟨rest.length, old, .here found⟩
      | none =>
          rcases ih with ⟨place, old, home⟩ | absent
          · exact .inl ⟨place, old, .further found home⟩
          · exact .inr (List.forall_mem_cons.mpr ⟨found, absent⟩)

section Home

variable {name : String} {stack : Stack} {place : Nat} {old : Value}

theorem Home.lt_length (home : Home name stack place old) : place < stack.length := by
  induction home with
  | here found => simp
  | further absent home ih =>
      rw [List.length_cons]
      omega

theorem Home.lookup (home : Home name stack place old) : stack.lookup name = some old := by
  induction home with
  | here found => simp [Stack.lookup, found]
  | further absent home ih => simpa [Stack.lookup, absent] using ih

theorem Absent.lookup (absent : Absent name stack) : stack.lookup name = none := by
  simpa [Stack.lookup, Absent] using absent

theorem Home.write (home : Home name stack place old) (value : Value) :
    (stack.write name value).environments = stack.environments.modify place fun environment =>
      { environment with bindings := environment.bindings.insert name value } := by
  induction home with
  | here found =>
      rw [modify_environments_top, Stack.write, if_pos (by simp [Dict.has, found]),
        environments]
  | @further bindings rest place old absent home ih =>
      have count : (Stack.write rest name value).length = rest.length := by
        have lengths := congrArg List.length ih
        simpa using lengths
      rw [modify_environments_further _ _ home.lt_length, Stack.write,
        if_neg (by simp [Dict.has, absent]), environments, count, ih]

end Home

private theorem environments_declare {stack : Stack} (filled : stack ≠ []) (name : String)
    (value : Value) :
    (stack.declare name value).environments =
      stack.environments.modify (stack.length - 1) fun environment =>
        { environment with bindings := environment.bindings.insert name value } := by
  cases stack with
  | nil => exact absurd rfl filled
  | cons top rest => rw [List.length_cons, Nat.add_sub_cancel, modify_environments_top]; rfl

private theorem environments_declareGlobal (stack : Stack) (name : String) (value : Value) :
    (stack.declareGlobal name value).environments =
      stack.environments.modify 0 fun environment =>
        { environment with bindings := environment.bindings.insert name value } := by
  induction stack with
  | nil => rfl
  | cons top rest ih =>
      cases rest with
      | nil => rfl
      | cons next further =>
          have count : (declareGlobal (next :: further) name value).length =
              (next :: further).length := by
            have lengths := congrArg List.length ih
            simpa using lengths
          rw [modify_environments_further _ _ (by simp), declareGlobal, environments, count, ih]
          exact nofun

end Stack

/-! ## Lookups -/

/-- Following the parents from an environment ends at the root and has passed the given places; no
environment on the way is missing. -/
inductive Scope.Outwards (scope : Scope) : Nat → List Nat → Prop where
  | root {place : Nat} {environment : Environment}
      (here : scope.environments[place]? = some environment)
      (outermost : environment.parent = none) : Outwards scope place [place]
  | around {place parent : Nat} {environment : Environment} {places : List Nat}
      (here : scope.environments[place]? = some environment)
      (inside : environment.parent = some parent) (further : Outwards scope parent places) :
      Outwards scope place (place :: places)

namespace Scope

/-- The environments of the scope are those of the stack, and the innermost is current. -/
structure Stacked (scope : Scope) (stack : Stack) : Prop where
  environments : scope.environments = stack.environments
  current : scope.current + 1 = stack.length

section Stacked

variable {scope : Scope} {stack : Stack}

theorem Outwards.chain {place : Nat} {places : List Nat} (outwards : scope.Outwards place places)
    {fuel : Nat} (enough : places.length ≤ fuel) : scope.chain fuel place = places := by
  induction outwards generalizing fuel with
  | root here outermost =>
      cases fuel with
      | zero => simp at enough
      | succ fuel => simp [Scope.chain, here, outermost]
  | around here inside further ih =>
      cases fuel with
      | zero => simp at enough
      | succ fuel =>
          rw [List.length_cons] at enough
          have outer := ih (Nat.le_of_succ_le_succ enough)
          simp [Scope.chain, here, inside, outer]

theorem Stacked.count (stacked : scope.Stacked stack) :
    scope.environments.length = stack.length := by
  rw [stacked.environments, Stack.length_environments]

/-- Every place below the top of the stack has an environment, whose parent is the place before. -/
theorem Stacked.environment_at (stacked : scope.Stacked stack) {place : Nat}
    (within : place < stack.length) :
    ∃ environment, scope.environments[place]? = some environment ∧
      environment.parent = if place = 0 then none else some (place - 1) := by
  rw [stacked.environments]
  have bound : place < stack.environments.length := by
    rwa [Stack.length_environments]
  exact ⟨_, List.getElem?_eq_getElem bound,
    Stack.parent_environments (List.getElem?_eq_getElem bound)⟩

theorem Stacked.outwards_from (stacked : scope.Stacked stack) {place : Nat}
    (within : place < stack.length) :
    scope.Outwards place (List.range (place + 1)).reverse := by
  induction place with
  | zero =>
      obtain ⟨environment, here, outermost⟩ := stacked.environment_at within
      exact .root here outermost
  | succ place ih =>
      obtain ⟨environment, here, inside⟩ := stacked.environment_at within
      rw [List.range_succ, List.reverse_append]
      exact .around here inside (ih (by omega))

theorem Stacked.outwards (stacked : scope.Stacked stack) :
    scope.Outwards scope.current (List.range stack.length).reverse := by
  have current := stacked.current
  have below : scope.current < stack.length := by omega
  have outwards := stacked.outwards_from below
  rwa [current] at outwards

theorem Stacked.visible (stacked : scope.Stacked stack) :
    scope.visible = (List.range stack.length).reverse := by
  refine stacked.outwards.chain (Nat.le_of_eq ?_)
  rw [stacked.count, List.length_reverse, List.length_range]

theorem Stacked.depth (stacked : scope.Stacked stack) : scope.depth = stack.length := by
  rw [Scope.depth, stacked.visible, List.length_reverse, List.length_range]

private theorem bindingsAt_environments (scope : Scope) (top : Dict Value) (rest : Stack)
    {later : List Environment}
    (whole : scope.environments = Stack.environments (top :: rest) ++ later) :
    scope.bindingsAt rest.length = top := by
  simp [bindingsAt, whole, Stack.environments]

/-- Where a name is looked for in the list of environments, and found. -/
theorem find?_of_home {name : String} {place : Nat} {old : Value}
    (home : Stack.Home name stack place old) {later : List Environment}
    (whole : scope.environments = Stack.environments stack ++ later) :
    ((List.range stack.length).reverse.find? fun place =>
        (scope.bindingsAt place).has name) = some place ∧
      (scope.bindingsAt place).get? name = some old := by
  induction home generalizing later with
  | @here bindings rest old found =>
      have top := bindingsAt_environments scope bindings rest whole
      rw [List.length_cons, List.range_succ, List.reverse_append]
      simp [top, Dict.has, found]
  | @further bindings rest place old absent home ih =>
      have top := bindingsAt_environments scope bindings rest whole
      rw [Stack.environments, List.append_assoc] at whole
      obtain ⟨searched, found⟩ := ih whole
      rw [List.length_cons, List.range_succ, List.reverse_append]
      refine ⟨?_, found⟩
      simpa [top, Dict.has, absent] using searched

private theorem find?_of_absent {name : String} (absent : Stack.Absent name stack)
    {later : List Environment}
    (whole : scope.environments = Stack.environments stack ++ later) :
    ((List.range stack.length).reverse.find? fun place =>
      (scope.bindingsAt place).has name) = none := by
  induction stack generalizing later with
  | nil => rfl
  | cons bindings rest ih =>
      have top := bindingsAt_environments scope bindings rest whole
      obtain ⟨here, further⟩ := List.forall_mem_cons.mp absent
      rw [Stack.environments, List.append_assoc] at whole
      rw [List.length_cons, List.range_succ, List.reverse_append]
      simpa [top, Dict.has, here] using ih further whole

theorem Stacked.home (stacked : scope.Stacked stack) {name : String} {place : Nat} {old : Value}
    (home : Stack.Home name stack place old) :
    scope.home? name = some place ∧ scope.lookup name = some old := by
  have whole : scope.environments = Stack.environments stack ++ [] := by
    rw [List.append_nil, stacked.environments]
  obtain ⟨searched, found⟩ := find?_of_home home whole
  have place : scope.home? name = some place := by
    rw [home?, stacked.visible, searched]
  refine ⟨place, ?_⟩
  rw [Scope.lookup, place, Option.bind_some, found]

theorem Stacked.absent (stacked : scope.Stacked stack) {name : String}
    (absent : Stack.Absent name stack) : scope.home? name = none ∧ scope.lookup name = none := by
  have whole : scope.environments = Stack.environments stack ++ [] := by
    rw [List.append_nil, stacked.environments]
  have nowhere : scope.home? name = none := by
    rw [home?, stacked.visible, find?_of_absent absent whole]
  refine ⟨nowhere, ?_⟩
  rw [Scope.lookup, nowhere, Option.bind_none]

theorem Stacked.lookup (stacked : scope.Stacked stack) (name : String) :
    scope.lookup name = stack.lookup name := by
  rcases Stack.home_or_absent name stack with ⟨place, old, home⟩ | absent
  · rw [(stacked.home home).2, home.lookup]
  · rw [(stacked.absent absent).2, absent.lookup]

theorem Stacked.contains (stacked : scope.Stacked stack) (name : String) :
    scope.contains name = (stack.lookup name).isSome := by
  rw [Scope.contains]
  rcases Stack.home_or_absent name stack with ⟨place, old, home⟩ | absent
  · rw [(stacked.home home).1, home.lookup]
    rfl
  · rw [(stacked.absent absent).1, absent.lookup]
    rfl

theorem Stacked.declareAt (stacked : scope.Stacked stack) {place : Nat} {name : String}
    {value : Value} {changed : Stack}
    (same : changed.environments = stack.environments.modify place fun environment =>
      { environment with bindings := environment.bindings.insert name value }) :
    (scope.declareAt place name value).Stacked changed where
  environments := by
    rw [same, Scope.declareAt, stacked.environments]
  current := by
    have count := congrArg List.length same
    simp only [List.length_modify, Stack.length_environments] at count
    rw [count]
    exact stacked.current

/-- An update of a scope and one of its stack: both succeed and leave the scope and its stack, or
both fail with one cause. -/
inductive SameUpdate : Except Cause Scope → Except Cause Stack → Prop where
  | updated {scope : Scope} {stack : Stack} (stacked : scope.Stacked stack) :
      SameUpdate (.ok scope) (.ok stack)
  | refused (cause : Cause) : SameUpdate (.error cause) (.error cause)

theorem Stacked.update (stacked : scope.Stacked stack) (name : String)
    (change : Value → Except Cause Value) :
    SameUpdate (scope.update name change) (stack.update name change) := by
  rcases Stack.home_or_absent name stack with ⟨place, old, home⟩ | absent
  · obtain ⟨found, value⟩ := stacked.home home
    rw [Scope.update, Stack.update, found, value, home.lookup]
    show SameUpdate ((change old).map _) ((change old).map _)
    cases change old with
    | error cause => exact .refused cause
    | ok new => exact .updated (stacked.declareAt (home.write new))
  · obtain ⟨nowhere, unbound⟩ := stacked.absent absent
    rw [Scope.update, Stack.update, nowhere, unbound, absent.lookup]
    exact .refused _

theorem Stacked.filled (stacked : scope.Stacked stack) : stack ≠ [] := by
  rintro rfl
  exact Nat.succ_ne_zero _ stacked.current

theorem Stacked.declare (stacked : scope.Stacked stack) (name : String) (value : Value) :
    (scope.declare name value).Stacked (stack.declare name value) := by
  have place : stack.length - 1 = scope.current := by
    rw [← stacked.current, Nat.add_sub_cancel]
  refine stacked.declareAt ?_
  rw [Stack.environments_declare stacked.filled, place]

theorem Stacked.declareGlobal (stacked : scope.Stacked stack) (name : String) (value : Value) :
    (scope.declareGlobal name value).Stacked (stack.declareGlobal name value) :=
  stacked.declareAt (Stack.environments_declareGlobal stack name value)

theorem Stacked.push (stacked : scope.Stacked stack) :
    scope.push.1 = ⟨stack.length - 1, stack.length⟩ ∧ scope.push.2.Stacked (∅ :: stack) := by
  have current : scope.current = stack.length - 1 := by
    rw [← stacked.current, Nat.add_sub_cancel]
  have count := stacked.count
  have filled : stack.length ≠ 0 := by
    rw [← stacked.current]
    exact Nat.succ_ne_zero _
  refine ⟨by rw [Scope.push, current, count], ?_, ?_⟩
  · rw [Stack.environments, if_neg filled, ← current, ← stacked.environments]
    rfl
  · rw [List.length_cons, ← count]
    rfl

theorem Stacked.rewind (stacked : scope.Stacked stack) {depth : Nat} (issued : 0 < depth) :
    (scope.rewind ⟨depth - 1, depth⟩).Stacked (stack.rewind depth) := by
  have count := stacked.count
  rw [Scope.rewind, Stack.rewind, count]
  by_cases within : depth ≤ stack.length
  · rw [if_pos within, if_pos (by simpa using ⟨issued, within⟩)]
    constructor
    · rw [stacked.environments, Stack.take_environments stack within]
    · rw [List.length_drop]
      show depth - 1 + 1 = _
      omega
  · rw [if_neg within, if_neg (by simp [within])]
    exact stacked

end Stacked

/-- A session and its twin: the scope has the environments of the stack, and each of its marks
remembers a depth of the stack. -/
structure Session.Mirrors (session : Scope.Session) (twin : Stack.Session) : Prop where
  stacked : session.scope.Stacked twin.stack
  marks : session.marks = twin.depths.map fun depth => ⟨depth - 1, depth⟩
  issued : ∀ depth ∈ twin.depths, 0 < depth

section Mirrors

variable {session : Scope.Session} {twin : Stack.Session}

theorem Session.Mirrors.attempt (mirrors : session.Mirrors twin) {changed : Except Cause Scope}
    {changed' : Except Cause Stack} (same : SameUpdate changed changed') :
    let after := attempt session (fun scope => { session with scope }) changed
    let after' := attempt twin (fun stack => { twin with stack }) changed'
    after.1 = after'.1 ∧ after.2.Mirrors after'.2 := by
  cases same with
  | updated stacked => exact ⟨rfl, stacked, mirrors.marks, mirrors.issued⟩
  | refused cause => exact ⟨rfl, mirrors⟩

/-- One operation gives the same result on both and leaves a session and its twin. -/
theorem Session.Mirrors.perform (mirrors : session.Mirrors twin) (operation : Scope.Operation) :
    (session.perform operation).1 = (twin.perform operation).1 ∧
      (session.perform operation).2.Mirrors (twin.perform operation).2 := by
  obtain ⟨stacked, marks, issued⟩ := mirrors
  cases operation with
  | declare name value => exact ⟨rfl, stacked.declare name value, marks, issued⟩
  | declareGlobal name value => exact ⟨rfl, stacked.declareGlobal name value, marks, issued⟩
  | assign name value =>
      exact Session.Mirrors.attempt ⟨stacked, marks, issued⟩ (stacked.update name _)
  | update name change =>
      exact Session.Mirrors.attempt ⟨stacked, marks, issued⟩ (stacked.update name change)
  | push =>
      obtain ⟨mark, pushed⟩ := stacked.push
      refine ⟨rfl, pushed, ?_, ?_⟩
      · simp [Session.perform, Stack.Session.perform, marks, mark]
      · intro depth member
        rcases List.mem_append.mp member with earlier | last
        · exact issued depth earlier
        · rw [List.mem_singleton.mp last]
          exact List.length_pos_iff.mpr stacked.filled
  | rewind number =>
      have same : session.marks[number]? = twin.depths[number]?.map fun depth =>
          ⟨depth - 1, depth⟩ := by
        rw [marks, List.getElem?_map]
      rw [Session.perform, Stack.Session.perform, same]
      cases made : twin.depths[number]? with
      | none => exact ⟨rfl, stacked, marks, issued⟩
      | some depth =>
          have popped := stacked.rewind (issued depth (List.mem_of_getElem? made))
          exact ⟨rfl, popped, marks, issued⟩

theorem Session.Mirrors.performEach (mirrors : session.Mirrors twin)
    (operations : List Scope.Operation) :
    let ran := performEach Session.perform session operations
    let ran' := performEach Stack.Session.perform twin operations
    ran.1 = ran'.1 ∧ ran.2.Mirrors ran'.2 := by
  induction operations generalizing session twin with
  | nil => exact ⟨rfl, mirrors⟩
  | cons operation rest ih =>
      obtain ⟨result, after⟩ := mirrors.perform operation
      obtain ⟨results, final⟩ := ih after
      refine ⟨?_, final⟩
      simp only [ChatTemplate.performEach, result, results]

end Mirrors

/-! ## What a scope shows -/

/-- A scope is in order, and everything that can be asked of it has the answer of a stack. -/
structure ShowsAs (scope : Scope) (stack : Stack) : Prop where
  filled : scope.environments ≠ []
  current : scope.current + 1 = scope.environments.length
  parents : ∀ place environment, scope.environments[place]? = some environment →
    environment.parent = if place = 0 then none else some (place - 1)
  outwards : scope.Outwards scope.current scope.visible
  everyPlace : scope.visible = (List.range scope.environments.length).reverse
  depth : scope.depth = scope.environments.length
  bindings : scope.environments.map (·.bindings) = stack.reverse
  lookup : ∀ name, scope.lookup name = stack.lookup name
  contains : ∀ name, scope.contains name = (stack.lookup name).isSome
  resolve : ∀ name, scope.resolve name =
    match stack.lookup name with
    | some value => .ok value
    | none => .error (.unboundIdentifier name)
  unassigned : ∀ name value,
    scope.assign name value = .error (.unboundIdentifier name) ↔ Stack.Absent name stack
  unchanged : ∀ name (change : Value → Value),
    scope.update name (fun old => .ok (change old)) = .error (.unboundIdentifier name) ↔
      Stack.Absent name stack

section ShowsAs

variable {scope : Scope} {stack : Stack}

theorem Stacked.unbound_iff (stacked : scope.Stacked stack) (name : String)
    (change : Value → Value) :
    scope.update name (fun old => .ok (change old)) = .error (.unboundIdentifier name) ↔
      Stack.Absent name stack := by
  constructor
  · intro failed
    rcases Stack.home_or_absent name stack with ⟨place, old, home⟩ | absent
    · obtain ⟨found, value⟩ := stacked.home home
      rw [Scope.update, found, value] at failed
      cases failed
    · exact absent
  · intro absent
    obtain ⟨nowhere, unbound⟩ := stacked.absent absent
    rw [Scope.update, nowhere, unbound]

theorem Stacked.showsAs (stacked : scope.Stacked stack) : scope.ShowsAs stack := by
  have count := stacked.count
  constructor
  case filled =>
    intro empty
    rw [empty, List.length_nil] at count
    exact stacked.filled (List.eq_nil_of_length_eq_zero count.symm)
  case current => rw [count, stacked.current]
  case parents =>
    intro place environment found
    rw [stacked.environments] at found
    exact Stack.parent_environments found
  case outwards =>
    rw [stacked.visible]
    exact stacked.outwards
  case everyPlace => rw [count, stacked.visible]
  case depth => rw [count, stacked.depth]
  case bindings => rw [stacked.environments, Stack.bindings_environments]
  case lookup => exact stacked.lookup
  case contains => exact stacked.contains
  case resolve =>
    intro name
    rw [← stacked.lookup]
    rfl
  case unassigned =>
    intro name value
    exact stacked.unbound_iff name fun _ => value
  case unchanged => exact stacked.unbound_iff

end ShowsAs

/-- Operations on a new scope, in any order and with any of the marks that it has made, give the
results that they give on a stack, and leave a scope that shows what the stack shows. -/
theorem runs_as_stack (operations : List Scope.Operation) :
    let ran := performEach Session.perform ⟨Scope.empty, []⟩ operations
    let twin := performEach Stack.Session.perform ⟨[∅], []⟩ operations
    ran.1 = twin.1 ∧ ran.2.scope.ShowsAs twin.2.stack ∧
      ran.2.marks = twin.2.depths.map fun depth => ⟨depth - 1, depth⟩ := by
  intro ran twin
  have fresh : Session.Mirrors ⟨Scope.empty, []⟩ ⟨[∅], []⟩ := ⟨⟨rfl, rfl⟩, rfl, nofun⟩
  obtain ⟨results, final⟩ := fresh.performEach operations
  exact ⟨results, final.stacked.showsAs, final.marks⟩

/-- The second mark is stale once the first has been returned to. -/
example :
    (performEach Session.perform ⟨Scope.empty, []⟩ [.push, .push, .rewind 0, .rewind 1]).2.scope =
      Scope.empty := rfl

end Scope
end ChatTemplate
