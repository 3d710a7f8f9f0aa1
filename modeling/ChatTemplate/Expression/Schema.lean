import ChatTemplate.Expression.Operator
import ChatTemplate.Json.Fields

/-!
The JSON form of expressions: an object per node with its type, the fields of that type and its
place. Reading ignores fields that a type does not have and settles defaults; writing leaves nothing
out.
-/

set_option autoImplicit false

namespace ChatTemplate

namespace Span

def toFields (span : Span) : List (String × Json) :=
  [("start", .integer span.start.toNat), ("end", .integer span.stop.toNat)]

/-- Reads a place from the fields of its node; a missing offset is 0. -/
def ofFields? (entries : List (String × Json)) : Option Span := do
  let start ← Json.optional? entries "start" 0 Json.asWord?
  let stop ← Json.optional? entries "end" 0 Json.asWord?
  some ⟨start, stop⟩

end Span

namespace Json

def node (type : String) (fields : List (String × Json)) (span : Span) : Json :=
  .object (("type", .string type) :: fields ++ span.toFields)

/-- The type of a node out of the list of types, given by its name or by its place in the list. -/
def asNodeType? (types : List String) : Json → Option String
  | .string name => if types.contains name then some name else none
  | .integer place => if 0 ≤ place then types[place.toNat]? else none
  | _ => none

/-- The text of an operator, written like any other name or as an object with the text as its only
key and an empty object as the value. -/
def asOperatorText? : Json → Option String
  | .object [(text, .object [])] => some text
  | json => json.asName?

end Json

namespace Literal

/-- The literal as a JSON value; a number is always written as a fractional one. -/
def toJson : Literal → Json
  | .null => .null
  | .boolean value => .boolean value
  | .number value => Json.ofDouble value
  | .string value => .string value

def ofJson? : Json → Option Literal
  | .null => some .null
  | .boolean value => some (.boolean value)
  | .integer value => some (.number (Double.ofInt value))
  | .float value => some (.number value)
  | .string value => some (.string value)
  | _ => none

end Literal

mutual

def Expression.toJson : Expression → Json
  | .literal value span => .node "Literal" [("value", value.toJson)] span
  | .identifier name span => .node "Identifier" [("name", .string name)] span
  | .object properties span =>
      .node "ObjectExpression" [("properties", .array (Property.listToJson properties))] span
  | .array elements span =>
      .node "ArrayExpression" [("elements", .array (Expression.listToJson elements))] span
  | .sequence expressions span =>
      .node "SequenceExpression" [("expressions", .array (Expression.listToJson expressions))] span
  | .logical operator left right span =>
      .node "LogicalExpression"
        [("operator", .string operator.text), ("left", left.toJson), ("right", right.toJson)] span
  | .binary operator left right span =>
      .node "BinaryExpression"
        [("operator", .string operator.text), ("left", left.toJson), ("right", right.toJson)] span
  | .unary operator argument span =>
      .node "UnaryExpression"
        [("operator", .string operator.text), ("argument", argument.toJson)] span
  | .assignment operator target value span =>
      .node "AssignmentExpression"
        [("operator", .string operator.text), ("left", target.toJson), ("right", value.toJson)] span
  | .update operator prefixed target span =>
      .node "UpdateExpression"
        [("operator", .string operator.text), ("prefix", .boolean prefixed),
          ("argument", target.toJson)] span
  | .member owner property computed optional span =>
      .node "MemberExpression"
        [("object", owner.toJson), ("property", property.toJson), ("computed", .boolean computed),
          ("optional", .boolean optional)] span
  | .conditional test consequent alternate span =>
      .node "ConditionalExpression"
        [("test", test.toJson), ("consequent", consequent.toJson),
          ("alternate", alternate.toJson)] span
  | .call callee arguments optional span =>
      .node "CallExpression"
        [("callee", callee.toJson), ("arguments", .array (Expression.listToJson arguments)),
          ("optional", .boolean optional)] span
  | .chain inner span => .node "ChainExpression" [("expression", inner.toJson)] span

def Property.toJson : Property → Json
  | .mk key value computed =>
      .object [("key", key.toJson), ("value", value.toJson), ("computed", .boolean computed)]

def Expression.listToJson : List Expression → List Json
  | [] => []
  | expression :: rest => expression.toJson :: Expression.listToJson rest

def Property.listToJson : List Property → List Json
  | [] => []
  | property :: rest => property.toJson :: Property.listToJson rest

end

/-- Reads an entry of an object, given how its expressions are read. -/
def Property.ofJson? (expression? : Json → Option Expression) (json : Json) : Option Property := do
  let entries ← json.fieldsOf? ["key", "value", "computed"]
  let key ← Json.required? entries "key" expression?
  let value ← Json.required? entries "value" expression?
  let computed ← Json.optional? entries "computed" false Json.asBoolean?
  some (.mk key value computed)

namespace Expression

/-- The types of nodes in their fixed order. -/
def nodeTypes : List String :=
  ["Literal", "Identifier", "ObjectExpression", "ArrayExpression", "SequenceExpression",
    "LogicalExpression", "BinaryExpression", "UnaryExpression", "AssignmentExpression",
    "UpdateExpression", "MemberExpression", "ConditionalExpression", "CallExpression",
    "ChainExpression"]

/-- Reads an expression whose JSON form is nested at most `depth` deep. -/
def ofNestedJson? : (depth : Nat) → Json → Option Expression
  | 0, _ => none
  | depth + 1, json => do
      let entries ← json.asObject?
      let inner? := ofNestedJson? depth
      let operator? {α : Type} (ofText? : String → Option α) :=
        Json.required? entries "operator" fun json => json.asOperatorText? >>= ofText?
      let type ← Json.required? entries "type" (Json.asNodeType? nodeTypes)
      let span ← Span.ofFields? entries
      match type with
      | "Literal" => do
          let value ← Json.required? entries "value" Literal.ofJson?
          some (.literal value span)
      | "Identifier" => do
          let name ← Json.required? entries "name" Json.asString?
          some (.identifier name span)
      | "ObjectExpression" => do
          let properties ←
            Json.required? entries "properties" (Json.asList? (Property.ofJson? inner?))
          some (.object properties span)
      | "ArrayExpression" => do
          let elements ← Json.required? entries "elements" (Json.asList? inner?)
          some (.array elements span)
      | "SequenceExpression" => do
          let expressions ← Json.required? entries "expressions" (Json.asList? inner?)
          some (.sequence expressions span)
      | "LogicalExpression" => do
          let operator ← operator? LogicalOperator.ofText?
          let left ← Json.required? entries "left" inner?
          let right ← Json.required? entries "right" inner?
          some (.logical operator left right span)
      | "BinaryExpression" => do
          let operator ← operator? BinaryOperator.ofText?
          let left ← Json.required? entries "left" inner?
          let right ← Json.required? entries "right" inner?
          some (.binary operator left right span)
      | "UnaryExpression" => do
          let operator ← operator? UnaryOperator.ofText?
          let argument ← Json.required? entries "argument" inner?
          some (.unary operator argument span)
      | "AssignmentExpression" => do
          let operator ← operator? AssignmentOperator.ofText?
          let target ← Json.required? entries "left" inner?
          let value ← Json.required? entries "right" inner?
          some (.assignment operator target value span)
      | "UpdateExpression" => do
          let operator ← operator? UpdateOperator.ofText?
          let prefixed ← Json.required? entries "prefix" Json.asBoolean?
          let target ← Json.required? entries "argument" inner?
          some (.update operator prefixed target span)
      | "MemberExpression" => do
          let owner ← Json.required? entries "object" inner?
          let property ← Json.required? entries "property" inner?
          let computed ← Json.optional? entries "computed" false Json.asBoolean?
          let optional ← Json.optional? entries "optional" false Json.asBoolean?
          some (.member owner property computed optional span)
      | "ConditionalExpression" => do
          let test ← Json.required? entries "test" inner?
          let consequent ← Json.required? entries "consequent" inner?
          let alternate ← Json.required? entries "alternate" inner?
          some (.conditional test consequent alternate span)
      | "CallExpression" => do
          let callee ← Json.required? entries "callee" inner?
          let arguments ← Json.required? entries "arguments" (Json.asList? inner?)
          let optional ← Json.optional? entries "optional" false Json.asBoolean?
          some (.call callee arguments optional span)
      | "ChainExpression" => do
          let expression ← Json.required? entries "expression" inner?
          some (.chain expression span)
      | _ => none

/-- Reads an expression. Every node is an object of its own, so the depth of the JSON value bounds
the depth of the expression. -/
def ofJson? (json : Json) : Option Expression :=
  ofNestedJson? json.depth json

end Expression

end ChatTemplate
