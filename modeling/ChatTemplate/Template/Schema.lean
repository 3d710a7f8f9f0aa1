import ChatTemplate.Expression.Schema
import ChatTemplate.Template.Basic

/-!
The JSON form of templates, built like that of expressions: an object per node with its type, the
fields of that type and its place.
-/

set_option autoImplicit false

namespace ChatTemplate

mutual

def Template.toJson : Template → Json
  | .fragment children span =>
      .node "Fragment" [("children", .array (Template.listToJson children))] span
  | .text data span => .node "Text" [("data", .string data)] span
  | .comment data span => .node "Comment" [("data", .string data)] span
  | .interpolation expression span =>
      .node "MustacheTag" [("expression", expression.toJson)] span
  | .element name attributes children closed span =>
      .node "ElementTag"
        [("name", .string name), ("attributes", .array (Attribute.listToJson attributes)),
          ("children", .array (Template.listToJson children)), ("closed", .boolean closed)] span
  | .closing name span => .node "ClosingTag" [("name", .string name)] span
  | .branch test children otherwise span =>
      .node "IfBlock"
        [("expression", test.toJson), ("children", .array (Template.listToJson children)),
          ("else_branch", Template.otherwiseToJson otherwise)] span
  | .loop collection item index children otherwise span =>
      .node "EachBlock"
        [("expression", collection.toJson), ("item", .string item),
          ("index", (index.map Json.string).getD .null),
          ("children", .array (Template.listToJson children)),
          ("else_branch", Template.otherwiseToJson otherwise)] span

def Attribute.toJson : Attribute → Json
  | .flag name value span =>
      .object ([("name", .string name), ("value", .boolean value)] ++ span.toFields)
  | .parts name parts span =>
      .object ([("name", .string name), ("value", .array (Template.listToJson parts))] ++
        span.toFields)

def Template.listToJson : List Template → List Json
  | [] => []
  | template :: rest => template.toJson :: Template.listToJson rest

def Attribute.listToJson : List Attribute → List Json
  | [] => []
  | entry :: rest => entry.toJson :: Attribute.listToJson rest

/-- The JSON form of the other branch of a block, `null` when there is none. -/
def Template.otherwiseToJson : Option (List Template) → Json
  | none => .null
  | some children => .array (Template.listToJson children)

end

/-- Reads an attribute, given how the templates in it are read. -/
def Attribute.ofNestedJson? (template? : Json → Option Template) (json : Json) :
    Option Attribute := do
  let entries ← json.asObject?
  let name ← Json.required? entries "name" Json.asString?
  let span ← Span.ofFields? entries
  let value ← Json.required? entries "value" some
  match value with
  | .boolean value => some (.flag name value span)
  | .array items => do
      let parts ← items.mapM template?
      some (.parts name parts span)
  | _ => none

namespace Template

/-- The types of nodes in their fixed order. -/
def nodeTypes : List String :=
  ["Fragment", "Text", "Comment", "MustacheTag", "ElementTag", "ClosingTag", "IfBlock", "EachBlock"]

/-- Reads a template whose JSON form is nested at most `depth` deep. -/
def ofNestedJson? : (depth : Nat) → Json → Option Template
  | 0, _ => none
  | depth + 1, json => do
      let entries ← json.asObject?
      let children? := Json.asList? (ofNestedJson? depth)
      let type ← Json.required? entries "type" (Json.asNodeType? nodeTypes)
      let span ← Span.ofFields? entries
      match type with
      | "Fragment" => do
          let children ← Json.required? entries "children" children?
          some (.fragment children span)
      | "Text" => do
          let data ← Json.required? entries "data" Json.asString?
          some (.text data span)
      | "Comment" => do
          let data ← Json.optional? entries "data" "" Json.asString?
          some (.comment data span)
      | "MustacheTag" => do
          let expression ← Json.required? entries "expression" Expression.ofJson?
          some (.interpolation expression span)
      | "ElementTag" => do
          let name ← Json.required? entries "name" Json.asString?
          let attributes ← Json.optional? entries "attributes" []
            (Json.asList? (Attribute.ofNestedJson? (ofNestedJson? depth)))
          let children ← Json.optional? entries "children" [] children?
          let closed ← Json.optional? entries "closed" true Json.asBoolean?
          some (.element name attributes children closed span)
      | "ClosingTag" => do
          let name ← Json.required? entries "name" Json.asString?
          some (.closing name span)
      | "IfBlock" => do
          let test ← Json.required? entries "expression" Expression.ofJson?
          let children ← Json.required? entries "children" children?
          let otherwise ← Json.optional? entries "else_branch" none (Json.asNullable? children?)
          some (.branch test children otherwise span)
      | "EachBlock" => do
          let collection ← Json.required? entries "expression" Expression.ofJson?
          let item ← Json.required? entries "item" Json.asString?
          let index ← Json.optional? entries "index" none (Json.asNullable? Json.asString?)
          let children ← Json.required? entries "children" children?
          let otherwise ← Json.optional? entries "else_branch" none (Json.asNullable? children?)
          some (.loop collection item index children otherwise span)
      | _ => none

def ofJson? (json : Json) : Option Template :=
  ofNestedJson? json.depth json

end Template

def Attribute.ofJson? (json : Json) : Option Attribute :=
  ofNestedJson? (Template.ofNestedJson? json.depth) json

end ChatTemplate
