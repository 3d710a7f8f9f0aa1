import ChatTemplate.Scope.Basic
import ChatTemplate.Value.Member

/-!
Places that an assignment writes to: a variable, or a member that a path of keys leads to from one.
-/

set_option autoImplicit false

namespace ChatTemplate

/-- A variable and the keys that lead from it to a member; with no keys, the variable itself. -/
structure Place where
  root : String
  path : List Value

namespace Place

def read (place : Place) (scope : Scope) : Except Cause Value := do
  let value ← scope.resolve place.root
  value.memberAt place.path

/-- Writes a value to a place. A variable that is not bound is declared in the current environment
if `implicit` allows it; a member is written only in a value that is bound. -/
def write (place : Place) (implicit : Bool) (value : Value) (scope : Scope) : Except Cause Scope :=
  if place.path.isEmpty && implicit && !scope.contains place.root then
    .ok (scope.declare place.root value)
  else scope.update place.root fun container => container.setMemberAt place.path value

end Place

/-- The variable at the root of an assignment's target: an identifier, or the owner of members none
of which is optional. Otherwise the type of the node that is none of these. -/
def Expression.targetRoot : Expression → Except String String
  | .identifier name _ => .ok name
  | .member owner _ _ false _ => owner.targetRoot
  | other => .error other.nodeType

end ChatTemplate
