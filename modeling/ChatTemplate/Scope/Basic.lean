import ChatTemplate.Failure
import ChatTemplate.Value.Basic

/-!
Nested variable environments. All environments of a scope stand in one list and each but the root
names its parent by its place in it. Looking a name up and assigning to it search from the current
environment outwards; declaring binds in the current environment.
-/

set_option autoImplicit false

namespace ChatTemplate

/-- One environment: its bindings and the place of the environment around it. -/
structure Environment where
  parent : Option Nat := none
  bindings : Dict Value := ∅

/-- The environments of a scope and the place of the current one. -/
structure Scope where
  environments : List Environment
  current : Nat

namespace Scope

/-- What a scope remembers when it opens an environment: the one that was current, and how many
there were. -/
structure Mark where
  current : Nat
  count : Nat
  deriving DecidableEq

def empty : Scope := ⟨[{}], 0⟩

instance : Inhabited Scope := ⟨empty⟩

/-- The places of an environment and those around it, innermost first. As every environment is
younger than its parent, a scope has no longer chain than it has environments, which is what `fuel`
bounds. -/
def chain (scope : Scope) : (fuel place : Nat) → List Nat
  | 0, _ => []
  | fuel + 1, place =>
      match scope.environments[place]? with
      | none => []
      | some environment =>
          match environment.parent with
          | none => [place]
          | some parent => place :: chain scope fuel parent

/-- The places of the environments in which names are looked up, innermost first. -/
def visible (scope : Scope) : List Nat :=
  scope.chain scope.environments.length scope.current

/-- How many environments names are looked up in. -/
def depth (scope : Scope) : Nat :=
  scope.visible.length

def bindingsAt (scope : Scope) (place : Nat) : Dict Value :=
  match scope.environments[place]? with
  | some environment => environment.bindings
  | none => ∅

/-- The place of the innermost visible environment that binds a name. -/
def home? (scope : Scope) (name : String) : Option Nat :=
  scope.visible.find? fun place => (scope.bindingsAt place).has name

def lookup (scope : Scope) (name : String) : Option Value :=
  (scope.home? name).bind fun place => (scope.bindingsAt place).get? name

def contains (scope : Scope) (name : String) : Bool :=
  (scope.home? name).isSome

def resolve (scope : Scope) (name : String) : Except Cause Value :=
  match scope.lookup name with
  | some value => .ok value
  | none => .error (.unboundIdentifier name)

def declareAt (scope : Scope) (place : Nat) (name : String) (value : Value) : Scope :=
  { scope with
    environments := scope.environments.modify place fun environment =>
      { environment with bindings := environment.bindings.insert name value } }

def declare (scope : Scope) (name : String) (value : Value) : Scope :=
  scope.declareAt scope.current name value

def declareGlobal (scope : Scope) (name : String) (value : Value) : Scope :=
  scope.declareAt 0 name value

/-- Changes the innermost binding of a name by a function that may fail. -/
def update (scope : Scope) (name : String) (change : Value → Except Cause Value) :
    Except Cause Scope :=
  match scope.home? name, scope.lookup name with
  | some place, some old => (change old).map (scope.declareAt place name)
  | _, _ => .error (.unboundIdentifier name)

def assign (scope : Scope) (name : String) (value : Value) : Except Cause Scope :=
  scope.update name fun _ => .ok value

/-- Opens an environment inside the current one and makes it current. -/
def push (scope : Scope) : Mark × Scope :=
  (⟨scope.current, scope.environments.length⟩,
    ⟨scope.environments ++ [{ parent := some scope.current }], scope.environments.length⟩)

/-- Returns to where a mark was made and drops all environments opened since. A mark of a state that
has itself been dropped changes nothing. -/
def rewind (scope : Scope) (mark : Mark) : Scope :=
  if 0 < mark.count && mark.count ≤ scope.environments.length then
    ⟨scope.environments.take mark.count, mark.current⟩
  else scope

/-- The scope whose root environment holds the bindings, declared one after the other. -/
def ofBindings (bindings : List (String × Value)) : Scope :=
  bindings.foldl (fun scope binding => scope.declare binding.1 binding.2) empty

end Scope

end ChatTemplate
