/-!
Places in a template's text.
-/

set_option autoImplicit false

namespace ChatTemplate

/-- Where a node begins and ends, as byte offsets into the text of its template. -/
structure Span where
  start : UInt64 := 0
  stop : UInt64 := 0
  deriving DecidableEq, Inhabited

/-- The text of a span: both offsets around two points. -/
def Span.text (span : Span) : String :=
  toString span.start.toNat ++ ".." ++ toString span.stop.toNat

end ChatTemplate
