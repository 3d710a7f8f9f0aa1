import ChatTemplate.Double.Basic
import ChatTemplate.Span

/-!
Expressions of the template language. Every node carries its place in the template's text.
-/

set_option autoImplicit false

namespace ChatTemplate

/-- A value that is written out in an expression. -/
inductive Literal where
  | null
  | boolean (value : Bool)
  | number (value : Double)
  | string (value : String)
  deriving DecidableEq

/-- The operators whose right operand is evaluated only when the left one leaves the result open. -/
inductive LogicalOperator where
  | and
  | or
  | coalesce
  deriving DecidableEq

/-- The operators that compute a new value from two operands and that an assignment can be combined
with. -/
inductive ArithmeticOperator where
  | add
  | subtract
  | multiply
  | divide
  | remainder
  | power
  | shiftLeft
  | shiftRight
  | unsignedShiftRight
  | bitAnd
  | bitOr
  | bitXor
  deriving DecidableEq

/-- The operators whose operands are both evaluated. -/
inductive BinaryOperator where
  | arithmetic (operator : ArithmeticOperator)
  | equal
  | notEqual
  | strictEqual
  | strictNotEqual
  | less
  | lessEqual
  | greater
  | greaterEqual
  | isIn
  | instanceOf
  deriving DecidableEq

inductive UnaryOperator where
  | minus
  | plus
  | not
  | bitNot
  | typeOf
  | void
  | delete
  deriving DecidableEq

/-- What an assignment does: it writes the right side, or it combines the current value with it. A
logical combination writes only when its operator evaluates the right side. -/
inductive AssignmentOperator where
  | plain
  | arithmetic (operator : ArithmeticOperator)
  | logical (operator : LogicalOperator)
  deriving DecidableEq

/-- The operators that add one to a variable or member, or subtract one from it. -/
inductive UpdateOperator where
  | increment
  | decrement
  deriving DecidableEq

mutual

inductive Expression where
  | literal (value : Literal) (span : Span)
  | identifier (name : String) (span : Span)
  | object (properties : List Property) (span : Span)
  | array (elements : List Expression) (span : Span)
  | sequence (expressions : List Expression) (span : Span)
  | logical (operator : LogicalOperator) (left right : Expression) (span : Span)
  | binary (operator : BinaryOperator) (left right : Expression) (span : Span)
  | unary (operator : UnaryOperator) (argument : Expression) (span : Span)
  | assignment (operator : AssignmentOperator) (target value : Expression) (span : Span)
  | update (operator : UpdateOperator) (prefixed : Bool) (target : Expression) (span : Span)
  | member (owner property : Expression) (computed optional : Bool) (span : Span)
  | conditional (test consequent alternate : Expression) (span : Span)
  | call (callee : Expression) (arguments : List Expression) (optional : Bool) (span : Span)
  | chain (expression : Expression) (span : Span)

/-- An entry of an object expression. A key that is not computed is an identifier or a literal. -/
inductive Property where
  | mk (key value : Expression) (computed : Bool)

end

namespace Expression

def span : Expression → Span
  | .literal _ place | .identifier _ place | .object _ place | .array _ place
  | .sequence _ place | .logical _ _ _ place | .binary _ _ _ place | .unary _ _ place
  | .assignment _ _ _ place | .update _ _ _ place | .member _ _ _ _ place
  | .conditional _ _ _ place | .call _ _ _ place | .chain _ place => place

def withSpan (expression : Expression) (place : Span) : Expression :=
  match expression with
  | .literal value _ => .literal value place
  | .identifier name _ => .identifier name place
  | .object properties _ => .object properties place
  | .array elements _ => .array elements place
  | .sequence expressions _ => .sequence expressions place
  | .logical operator left right _ => .logical operator left right place
  | .binary operator left right _ => .binary operator left right place
  | .unary operator argument _ => .unary operator argument place
  | .assignment operator target value _ => .assignment operator target value place
  | .update operator prefixed target _ => .update operator prefixed target place
  | .member owner property computed optional _ => .member owner property computed optional place
  | .conditional test consequent alternate _ => .conditional test consequent alternate place
  | .call callee arguments optional _ => .call callee arguments optional place
  | .chain inner _ => .chain inner place

/-- The name of the kind of node, as written and as shown in diagnostics. -/
def nodeType : Expression → String
  | .literal .. => "Literal"
  | .identifier .. => "Identifier"
  | .object .. => "ObjectExpression"
  | .array .. => "ArrayExpression"
  | .sequence .. => "SequenceExpression"
  | .logical .. => "LogicalExpression"
  | .binary .. => "BinaryExpression"
  | .unary .. => "UnaryExpression"
  | .assignment .. => "AssignmentExpression"
  | .update .. => "UpdateExpression"
  | .member .. => "MemberExpression"
  | .conditional .. => "ConditionalExpression"
  | .call .. => "CallExpression"
  | .chain .. => "ChainExpression"

/-- Whether the expression is an assignment or an update. Written into text it prints nothing. -/
def isAssignment : Expression → Bool
  | .assignment .. | .update .. => true
  | _ => false

/-- An object whose keys are plain names, built without places. -/
def record (entries : List (String × Expression)) : Expression :=
  .object (entries.map fun entry => .mk (.identifier entry.1 {}) entry.2 false) {}

/-- A member that is named by an identifier, built without places. -/
def field (owner : Expression) (name : String) (optional : Bool) : Expression :=
  .member owner (.identifier name {}) false optional {}

/-- A member whose key is computed, built without places. -/
def index (owner key : Expression) : Expression :=
  .member owner key true false {}

end Expression

end ChatTemplate
