import ChatTemplate.Expression.Basic
import ChatTemplate.Host.Task
import ChatTemplate.Scope.Basic

/-!
The host that a template is compiled in: it answers calls of functions, may suspend while it does,
and has a state of its own. What it does is fixed by its state and the call.
-/

set_option autoImplicit false

namespace ChatTemplate

/-- A host with states `σ`: what a call of the function with a number does. -/
structure Host (σ : Type) where
  call : (function : Nat) → (arguments : List Value) → σ →
    Task σ (Except HostFailure Value)

/-- A call of a host function or the answer to one. -/
inductive HostEvent where
  /-- A call that the call expression `site` makes while the variables are as in `scope`. -/
  | called (site : Expression) (function : Nat) (arguments : List Value) (scope : Scope)
  | answered (reply : Except HostFailure Value)

/-- The state of an evaluation: the variables, the state of the host, and what has passed between
expressions and host so far. -/
structure Machine (σ : Type) where
  scope : Scope
  world : σ
  history : Array HostEvent := #[]

/-- The functions that a compilation offers to its template, by name and in order. -/
structure Registry where
  functions : Dict Nat := ∅

namespace Registry

/-- Registers a function; a repeated name replaces the function and keeps its place. -/
def register (registry : Registry) (name : String) (function : Nat) : Registry :=
  ⟨registry.functions.insert name function⟩

def find? (registry : Registry) (name : String) : Option Nat :=
  registry.functions.get? name

def names (registry : Registry) : List String :=
  registry.functions.names

def size (registry : Registry) : Nat :=
  registry.functions.size

def install (registry : Registry) (scope : Scope) : Scope :=
  registry.functions.entries.foldl
    (fun scope entry => scope.declareGlobal entry.1 (.function entry.2)) scope

end Registry

end ChatTemplate
