import ChatTemplate.Expression.Basic

/-!
Templates: markup with text, interpolated expressions, tags, conditional blocks and loops. Tags are
kept by name here; what a name means is decided when a template is walked.
-/

set_option autoImplicit false

namespace ChatTemplate

mutual

inductive Template where
  | fragment (children : List Template) (span : Span)
  | text (data : String) (span : Span)
  | comment (data : String) (span : Span)
  /-- An expression whose value is written into the text. -/
  | interpolation (expression : Expression) (span : Span)
  /-- A tag with what stands inside it; `closed` is false when its closing tag was not found. -/
  | element (name : String) (attributes : List Attribute) (children : List Template)
      (closed : Bool) (span : Span)
  /-- A closing tag without an opening tag that it belongs to. -/
  | closing (name : String) (span : Span)
  | branch (test : Expression) (children : List Template) (otherwise : Option (List Template))
      (span : Span)
  /-- A loop over a collection. `item` names the current element and `index`, if present, the
  current position or key. -/
  | loop (collection : Expression) (item : String) (index : Option String)
      (children : List Template) (otherwise : Option (List Template)) (span : Span)

/-- An attribute of a tag: a truth value, or text and interpolations in their order. -/
inductive Attribute where
  | flag (name : String) (value : Bool) (span : Span)
  | parts (name : String) (parts : List Template) (span : Span)

end

namespace Template

def span : Template → Span
  | .fragment _ place | .text _ place | .comment _ place | .interpolation _ place
  | .element _ _ _ _ place | .closing _ place | .branch _ _ _ place | .loop _ _ _ _ _ place => place

def withSpan (template : Template) (place : Span) : Template :=
  match template with
  | .fragment children _ => .fragment children place
  | .text data _ => .text data place
  | .comment data _ => .comment data place
  | .interpolation expression _ => .interpolation expression place
  | .element name attributes children closed _ => .element name attributes children closed place
  | .closing name _ => .closing name place
  | .branch test children otherwise _ => .branch test children otherwise place
  | .loop collection item index children otherwise _ =>
      .loop collection item index children otherwise place

end Template

namespace Attribute

def name : Attribute → String
  | .flag key _ _ | .parts key _ _ => key

def span : Attribute → Span
  | .flag _ _ place | .parts _ _ place => place

end Attribute

end ChatTemplate
