import ChatTemplate.Double.Layout
import ChatTemplate.Text.Visible
import ChatTemplate.Value.Basic

/-!
The diagnostic text of values, which shows their kinds.
-/

set_option autoImplicit false

namespace ChatTemplate.Value

/-- A character inside the quotation marks of diagnostic text. A character without a short escape
that cannot be told from its looks is written by its code point. -/
def diagnosticChar (c : Char) : List Char :=
  if c = '"' then ['\\', '"']
  else if c = '\\' then ['\\', '\\']
  else if c = '\n' then ['\\', 'n']
  else if c = '\r' then ['\\', 'r']
  else if c = '\t' then ['\\', 't']
  else if c.toNat = 0 then ['\\', '0']
  else if Text.isVisible c then [c]
  else ['\\', 'u', '\x7b'] ++ Nat.toDigits 16 c.toNat ++ ['\x7d']

def diagnosticString (text : String) : String :=
  String.ofList ('"' :: text.toList.flatMap diagnosticChar ++ ['"'])

mutual

def diagnostic : Value → String
  | .null => "Null"
  | .boolean value => "Boolean(" ++ (if value then "true" else "false") ++ ")"
  | .number value => "Number(" ++ Layout.diagnostic.text value ++ ")"
  | .string value => "String(" ++ diagnosticString value ++ ")"
  | .list items => "List([" ++ ", ".intercalate (diagnosticItems items) ++ "])"
  | .map entries => "Map(\x7b" ++ ", ".intercalate (diagnosticRow entries.row) ++ "\x7d)"
  | .function _ => "Function"

def diagnosticItems : List Value → List String
  | [] => []
  | item :: rest => item.diagnostic :: diagnosticItems rest

def diagnosticRow : {keys : List String} → Dict.Row Value keys → List String
  | _, .nil => []
  | _, .cons key value _ rest =>
      (diagnosticString key ++ ": " ++ value.diagnostic) :: diagnosticRow rest

end

end ChatTemplate.Value
