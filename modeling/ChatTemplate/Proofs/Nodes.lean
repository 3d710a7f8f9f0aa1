import ChatTemplate.Evaluation.Place
import ChatTemplate.Template.Basic

/-!
The expressions that occur in an expression or in a template, wherever they stand, the variables
that they write to, and the nodes of a template.
-/

set_option autoImplicit false

namespace ChatTemplate

namespace Expression

mutual

/-- The expressions inside an expression, without itself. -/
def inside : Expression → List Expression
  | .literal _ _ => []
  | .identifier _ _ => []
  | .object properties _ => insideEntries properties
  | .array elements _ => insideAll elements
  | .sequence expressions _ => insideAll expressions
  | .logical _ left right _ => (left :: inside left) ++ (right :: inside right)
  | .binary _ left right _ => (left :: inside left) ++ (right :: inside right)
  | .unary _ argument _ => argument :: inside argument
  | .assignment _ target value _ => (target :: inside target) ++ (value :: inside value)
  | .update _ _ target _ => target :: inside target
  | .member owner property _ _ _ => (owner :: inside owner) ++ (property :: inside property)
  | .conditional test consequent alternate _ =>
      (test :: inside test) ++ (consequent :: inside consequent) ++ (alternate :: inside alternate)
  | .call callee arguments _ _ => (callee :: inside callee) ++ insideAll arguments
  | .chain inner _ => inner :: inside inner

def insideAll : List Expression → List Expression
  | [] => []
  | expression :: rest => (expression :: inside expression) ++ insideAll rest

def insideEntries : List Property → List Expression
  | [] => []
  | .mk key value _ :: rest =>
      (key :: inside key) ++ (value :: inside value) ++ insideEntries rest

end

def nodes (expression : Expression) : List Expression :=
  expression :: inside expression

theorem mem_nodes_self (expression : Expression) : expression ∈ expression.nodes :=
  List.mem_cons_self

/-- The variable at the root of what an assignment or update writes to. -/
def written? : Expression → Option String
  | .assignment _ target _ _ | .update _ _ target _ => target.targetRoot.toOption
  | _ => none

/-- The variable that a plain assignment to an identifier may declare. -/
def declared? : Expression → Option String
  | .assignment .plain (.identifier name _) _ _ => some name
  | _ => none

end Expression

mutual

/-- The expressions that occur in a template: in its text, its attributes and its blocks. -/
def Template.expressions : Template → List Expression
  | .fragment children _ => Template.expressionsAll children
  | .text _ _ => []
  | .comment _ _ => []
  | .interpolation expression _ => expression.nodes
  | .element _ attributes children _ _ =>
      Attribute.expressionsAll attributes ++ Template.expressionsAll children
  | .closing _ _ => []
  | .branch test children otherwise _ =>
      test.nodes ++ Template.expressionsAll children ++
        Template.expressionsOtherwise otherwise
  | .loop collection _ _ children otherwise _ =>
      collection.nodes ++ Template.expressionsAll children ++
        Template.expressionsOtherwise otherwise

def Template.expressionsAll : List Template → List Expression
  | [] => []
  | template :: rest => template.expressions ++ Template.expressionsAll rest

def Template.expressionsOtherwise : Option (List Template) → List Expression
  | none => []
  | some children => Template.expressionsAll children

def Attribute.expressions : Attribute → List Expression
  | .flag _ _ _ => []
  | .parts _ nodes _ => Template.expressionsAll nodes

def Attribute.expressionsAll : List Attribute → List Expression
  | [] => []
  | entry :: rest => entry.expressions ++ Attribute.expressionsAll rest

end

namespace Template

mutual

/-- The nodes that stand inside a node; the parts of attributes are none. -/
def inside : Template → List Template
  | .fragment children _ | .element _ _ children _ _ => insideAll children
  | .branch _ children otherwise _ | .loop _ _ _ children otherwise _ =>
      insideAll children ++ insideOtherwise otherwise
  | .text _ _ | .comment _ _ | .interpolation _ _ | .closing _ _ => []

def insideAll : List Template → List Template
  | [] => []
  | template :: rest => (template :: inside template) ++ insideAll rest

def insideOtherwise : Option (List Template) → List Template
  | none => []
  | some children => insideAll children

end

def nodes (template : Template) : List Template :=
  template :: inside template

theorem mem_nodes_self (template : Template) : template ∈ template.nodes :=
  List.mem_cons_self

end Template

end ChatTemplate
