import ChatTemplate.Dict
import ChatTemplate.Double.Rounding
import ChatTemplate.Expression.Basic
import ChatTemplate.Failure

/-!
Runtime values of the template language: what expressions evaluate to.
-/

set_option autoImplicit false

namespace ChatTemplate

/-- A value. The entries of a map are in order; a function is known by its number in the host. -/
inductive Value where
  | null
  | boolean (value : Bool)
  | number (value : Double)
  | string (value : String)
  | list (items : List Value)
  | map (entries : Dict Value)
  | function (reference : Nat)

namespace Value

instance : Inhabited Value := ⟨.null⟩

def ofLiteral : Literal → Value
  | .null => .null
  | .boolean value => .boolean value
  | .number value => .number value
  | .string value => .string value

def ofNat (n : Nat) : Value :=
  .number (Double.ofNat n)

/-- The truth of a value as a condition: null, false, zero, NaN and the empty text are false, all
else is true, empty lists and maps included. -/
def isTrue : Value → Bool
  | .null => false
  | .boolean value => value
  | .number value => !value.isNan && !value.isZero
  | .string value => !value.isEmpty
  | .list _ | .map _ | .function _ => true

def isNull : Value → Bool
  | .null => true
  | _ => false

/-- The kind of a value as diagnostics name it. -/
def typeName : Value → String
  | .null => "null"
  | .boolean _ => "boolean"
  | .number _ => "number"
  | .string _ => "string"
  | .list _ => "list"
  | .map _ => "map"
  | .function _ => "function"

/-- The kind of a value as the operator `typeof` names it. -/
def typeOf : Value → String
  | .null | .list _ | .map _ => "object"
  | .boolean _ => "boolean"
  | .number _ => "number"
  | .string _ => "string"
  | .function _ => "function"

end Value

end ChatTemplate
