import ChatTemplate.Double.Arithmetic
import ChatTemplate.Double.Word
import ChatTemplate.Expression.Operator
import ChatTemplate.Value.Equality
import ChatTemplate.Value.Member
import ChatTemplate.Value.Text

/-!
What operators compute. Lists, maps and functions never become numbers: where a number is needed
they are a mismatch of types. Addition joins texts when an operand is a text, a list or a map.
-/

set_option autoImplicit false

namespace ChatTemplate

/-- Whether a logical operator takes its left operand as the result, without its right one. -/
def LogicalOperator.shortCircuits (operator : LogicalOperator) (left : Value) : Bool :=
  match operator with
  | .and => !left.isTrue
  | .or => left.isTrue
  | .coalesce => !left.isNull

/-- The number that an arithmetic operator makes of two numbers. The bitwise operators work on the
32-bit words of their operands. -/
def ArithmeticOperator.onNumbers (operator : ArithmeticOperator) (a b : Double) : Double :=
  match operator with
  | .add => a.add b
  | .subtract => a.sub b
  | .multiply => a.mul b
  | .divide => a.div b
  | .remainder => a.rem b
  | .power => a.pow b
  | .shiftLeft => .ofSignedWord (a.toWord <<< b.shiftCount)
  | .shiftRight => .ofSignedWord (a.toWord.sshiftRight b.shiftCount)
  | .unsignedShiftRight => .ofUnsignedWord (a.toWord >>> b.shiftCount)
  | .bitAnd => .ofSignedWord (a.toWord &&& b.toWord)
  | .bitOr => .ofSignedWord (a.toWord ||| b.toWord)
  | .bitXor => .ofSignedWord (a.toWord ^^^ b.toWord)

namespace Value

def operand (operator : String) (value : Value) : Except Cause Double :=
  match value.toNumber with
  | .ok found => .ok found
  | .error _ =>
      .error (.typeMismatch
        ("operator " ++ operator ++ " cannot be applied to " ++ value.typeName))

def isFunction : Value → Bool
  | .function _ => true
  | _ => false

/-- Whether addition joins the value as text. -/
def joinsAsText : Value → Bool
  | .string _ | .list _ | .map _ => true
  | _ => false

/-- Addition: joined text when an operand is a text, a list or a map, a sum of numbers otherwise. A
function cannot be added to anything. -/
def add (left right : Value) : Except Cause Value :=
  if left.isFunction || right.isFunction then
    .error (.typeMismatch (left.typeName ++ " + " ++ right.typeName))
  else if left.joinsAsText || right.joinsAsText then .ok (.string (left.text ++ right.text))
  else do
    let a ← left.toNumber
    let b ← right.toNumber
    .ok (.number (a.add b))

/-- The result of an arithmetic operator. The left operand is checked first. -/
def arithmetic (operator : ArithmeticOperator) (left right : Value) : Except Cause Value :=
  match operator with
  | .add => add left right
  | _ => do
      let a ← operand operator.text left
      let b ← operand operator.text right
      .ok (.number (operator.onNumbers a b))

/-- A comparison: two texts by their characters, all else by number. NaN is in no order. -/
def comparison (operator : BinaryOperator) (holds : Ordering → Bool) (left right : Value) :
    Except Cause Value :=
  match left, right with
  | .string a, .string b => .ok (.boolean (holds (compare a b)))
  | _, _ => do
      let a ← operand operator.text left
      let b ← operand operator.text right
      .ok (.boolean (((a.compare? b).map holds).getD false))

def binary (operator : BinaryOperator) (left right : Value) : Except Cause Value :=
  match operator with
  | .arithmetic operator => arithmetic operator left right
  | .equal => .ok (.boolean (looseEqual left right))
  | .notEqual => .ok (.boolean (!looseEqual left right))
  | .strictEqual => .ok (.boolean (strictEqual left right))
  | .strictNotEqual => .ok (.boolean (!strictEqual left right))
  | .less => comparison .less (·.isLT) left right
  | .lessEqual => comparison .lessEqual (·.isLE) left right
  | .greater => comparison .greater (·.isGT) left right
  | .greaterEqual => comparison .greaterEqual (·.isGE) left right
  | .isIn => (right.hasMember left).map .boolean
  | .instanceOf => .error (.invalidOperator operator.text)

def unary (operator : UnaryOperator) (value : Value) : Except Cause Value :=
  match operator with
  | .minus => (operand operator.text value).map fun operand => .number operand.neg
  | .plus => (operand operator.text value).map .number
  | .not => .ok (.boolean (!value.isTrue))
  | .bitNot =>
      (operand operator.text value).map fun operand => .number (.ofSignedWord (~~~operand.toWord))
  | .typeOf => .ok (.string value.typeOf)
  | .void => .ok .null
  | .delete => .error (.invalidOperator operator.text)

end Value

def UpdateOperator.apply (operator : UpdateOperator) (number : Double) : Double :=
  match operator with
  | .increment => number.add Double.one
  | .decrement => number.sub Double.one

end ChatTemplate
