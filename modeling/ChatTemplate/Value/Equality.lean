import ChatTemplate.Value.Number

/-!
The two equalities of the language. Strict equality compares values of one kind: numbers
numerically, lists item by item, maps key by key whatever their order, functions by identity. Loose
equality also compares numbers, texts and truth values with each other, as numbers.
-/

set_option autoImplicit false

namespace ChatTemplate.Value

mutual

def strictEqual : Value → Value → Bool
  | .null, .null => true
  | .boolean a, .boolean b => a == b
  | .number a, .number b => a.equal b
  | .string a, .string b => a == b
  | .list a, .list b => strictEqualItems a b
  | .map a, .map b => a.size == b.size && strictEqualRow a.row b
  | .function a, .function b => a == b
  | _, _ => false

/-- Whether two lists have the same length and equal items. -/
def strictEqualItems : List Value → List Value → Bool
  | [], [] => true
  | a :: as, b :: bs => strictEqual a b && strictEqualItems as bs
  | _, _ => false

/-- Whether each entry of the first map has an equal value under its key in the second. -/
def strictEqualRow : {keys : List String} → Dict.Row Value keys → Dict Value → Bool
  | _, .nil, _ => true
  | _, .cons key value _ rest, other =>
      (match other.get? key with
        | some found => strictEqual value found
        | none => false) && strictEqualRow rest other

end

/-- Whether the value is of a kind that loose equality compares as a number. -/
def isScalar : Value → Bool
  | .boolean _ | .number _ | .string _ => true
  | _ => false

/-- Loose equality: null is equal to itself only, scalars of different kinds are equal when their
numbers are, and all else is compared strictly. -/
def looseEqual (left right : Value) : Bool :=
  match left, right with
  | .null, .null => true
  | .null, _ => false
  | _, .null => false
  | _, _ =>
      if left.isScalar && right.isScalar && left.typeName != right.typeName then
        match left.toNumber, right.toNumber with
        | .ok a, .ok b => a.equal b
        | _, _ => false
      else strictEqual left right

end ChatTemplate.Value
