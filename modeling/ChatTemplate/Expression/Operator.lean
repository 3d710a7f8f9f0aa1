import ChatTemplate.Expression.Basic

/-!
The written forms of operators. Writing and reading go through one table per class of operators.
-/

set_option autoImplicit false

namespace ChatTemplate

namespace LogicalOperator

/-- All operators of the class with their texts. -/
def table : List (String × LogicalOperator) :=
  [("&&", .and), ("||", .or), ("??", .coalesce)]

def text : LogicalOperator → String
  | .and => "&&"
  | .or => "||"
  | .coalesce => "??"

def ofText? (text : String) : Option LogicalOperator :=
  table.lookup text

theorem ofText?_text (operator : LogicalOperator) : ofText? operator.text = some operator := by
  cases operator <;> decide

end LogicalOperator

namespace ArithmeticOperator

/-- All operators of the class with their texts. -/
def table : List (String × ArithmeticOperator) :=
  [("+", .add), ("-", .subtract), ("*", .multiply), ("/", .divide), ("%", .remainder),
    ("**", .power), ("<<", .shiftLeft), (">>", .shiftRight), (">>>", .unsignedShiftRight),
    ("&", .bitAnd), ("|", .bitOr), ("^", .bitXor)]

def text : ArithmeticOperator → String
  | .add => "+"
  | .subtract => "-"
  | .multiply => "*"
  | .divide => "/"
  | .remainder => "%"
  | .power => "**"
  | .shiftLeft => "<<"
  | .shiftRight => ">>"
  | .unsignedShiftRight => ">>>"
  | .bitAnd => "&"
  | .bitOr => "|"
  | .bitXor => "^"

end ArithmeticOperator

namespace BinaryOperator

/-- All operators of the class with their texts. -/
def table : List (String × BinaryOperator) :=
  ArithmeticOperator.table.map (fun entry => (entry.1, .arithmetic entry.2)) ++
    [("==", .equal), ("!=", .notEqual), ("===", .strictEqual), ("!==", .strictNotEqual),
      ("<", .less), ("<=", .lessEqual), (">", .greater), (">=", .greaterEqual), ("in", .isIn),
      ("instanceof", .instanceOf)]

def text : BinaryOperator → String
  | .arithmetic operator => operator.text
  | .equal => "=="
  | .notEqual => "!="
  | .strictEqual => "==="
  | .strictNotEqual => "!=="
  | .less => "<"
  | .lessEqual => "<="
  | .greater => ">"
  | .greaterEqual => ">="
  | .isIn => "in"
  | .instanceOf => "instanceof"

def ofText? (text : String) : Option BinaryOperator :=
  table.lookup text

theorem ofText?_text (operator : BinaryOperator) : ofText? operator.text = some operator := by
  rcases operator with (_ | _) | _ <;> decide

end BinaryOperator

namespace UnaryOperator

/-- All operators of the class with their texts. -/
def table : List (String × UnaryOperator) :=
  [("-", .minus), ("+", .plus), ("!", .not), ("~", .bitNot), ("typeof", .typeOf), ("void", .void),
    ("delete", .delete)]

def text : UnaryOperator → String
  | .minus => "-"
  | .plus => "+"
  | .not => "!"
  | .bitNot => "~"
  | .typeOf => "typeof"
  | .void => "void"
  | .delete => "delete"

def ofText? (text : String) : Option UnaryOperator :=
  table.lookup text

theorem ofText?_text (operator : UnaryOperator) : ofText? operator.text = some operator := by
  cases operator <;> decide

end UnaryOperator

namespace AssignmentOperator

/-- All operators of the class with their texts: a combination has the text of its operator with an
equals sign behind it. -/
def table : List (String × AssignmentOperator) :=
  ("=", .plain) ::
    (ArithmeticOperator.table.map fun entry => (entry.1 ++ "=", .arithmetic entry.2)) ++
    (LogicalOperator.table.map fun entry => (entry.1 ++ "=", .logical entry.2))

def text : AssignmentOperator → String
  | .plain => "="
  | .arithmetic operator => operator.text ++ "="
  | .logical operator => operator.text ++ "="

def ofText? (text : String) : Option AssignmentOperator :=
  table.lookup text

theorem ofText?_text (operator : AssignmentOperator) : ofText? operator.text = some operator := by
  rcases operator with _ | (_ | _) | (_ | _) <;> decide

end AssignmentOperator

namespace UpdateOperator

def text : UpdateOperator → String
  | .increment => "++"
  | .decrement => "--"

def ofText? : String → Option UpdateOperator
  | "++" => some .increment
  | "--" => some .decrement
  | _ => none

theorem ofText?_text (operator : UpdateOperator) : ofText? operator.text = some operator := by
  cases operator <;> decide

end UpdateOperator

end ChatTemplate
