import ChatTemplate.Rendering

/-!
Compilation of a template to messages, and the ways in which it can be cut off: a time limit and an
abort. Both take effect only where the compilation is suspended.
-/

set_option autoImplicit false

namespace ChatTemplate

variable {σ : Type}

/-- The scope that a template is compiled in: the given one with the registered functions and, if
the settings name a binding for it, the current time in milliseconds in its root environment. -/
def Settings.prepare (settings : Settings) (registry : Registry) (now : Int) (scope : Scope) :
    Scope :=
  let scope := registry.install scope
  match settings.currentTimeBinding with
  | some name => scope.declareGlobal name (.number (Double.ofInt now))
  | none => scope

def Walk.finish : Action (Walk σ) (List Message) := fun walk => .done walk walk.draft.finish

namespace Template

def render (settings : Settings) (host : Host σ) (template : Template) :
    Action (Machine σ) (List Message) := fun machine =>
  let walked : Action (Walk σ) (List Message) := do
    template.walk host settings.implicitDeclarations
    Walk.finish
  (walked ⟨machine, Draft.ofSettings settings, #[]⟩).mapState (·.machine)

/-- Compiles a template, without a time limit and without an abort. -/
def compile (settings : Settings) (registry : Registry) (host : Host σ) (now : Int)
    (template : Template) (scope : Scope) (world : σ) :
    Task (Machine σ) (Except Failure (List Message)) :=
  template.render settings host ⟨settings.prepare registry now scope, world, #[]⟩

/-- What can cut a compilation off: an abort before it starts, the time limit of the settings
running out at a suspension, or an abort at a suspension. Suspensions are numbered from 0. -/
structure Interruption (σ : Type) where
  abortedAtStart : Bool
  expired : Nat → Bool
  aborted : Nat → σ → Bool

/-- The failure of a compilation that is cut off. -/
def cancelled {α : Type} (reason : String) : Except Failure α :=
  .error ⟨.cancelled reason, none⟩

/-- Compiles a template until it is done or cut off. The result is `none` if it waits for ever. -/
def compileWithin (settings : Settings) (registry : Registry) (host : Host σ) (now : Int)
    (interruption : Interruption σ) (template : Template) (scope : Scope) (world : σ) :
    Machine σ × Option (Except Failure (List Message)) :=
  if interruption.abortedAtStart then (⟨scope, world, #[]⟩, some (cancelled "aborted"))
  else
    let patience : Task.Patience (Machine σ) :=
      { limited := settings.timeout.isSome
        expired := interruption.expired
        aborted := fun count machine => interruption.aborted count machine.world }
    let task := template.compile settings registry host now scope world
    match task.await patience 0 with
    | (machine, .finished result) => (machine, some result)
    | (machine, .timedOut) =>
        let limit := toString (settings.timeout.getD 0).toNat
        (machine, some (cancelled ("timed out after " ++ limit ++ "ms")))
    | (machine, .aborted) => (machine, some (cancelled "aborted"))
    | (machine, .waiting) => (machine, none)

end Template

end ChatTemplate
