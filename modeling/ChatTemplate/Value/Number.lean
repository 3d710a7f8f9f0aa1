import ChatTemplate.Double.Numeral
import ChatTemplate.Text.Blank
import ChatTemplate.Value.Basic

/-!
Values as numbers. Null, truth values and text have a number; lists, maps and functions have none.
-/

set_option autoImplicit false

namespace ChatTemplate.Value

/-- The number that a decimal text denotes, if it is one. -/
def decimal? (text : List Char) : Option Double :=
  (Numeral.read? text).bind fun numeral => if numeral.hasDigit then some numeral.toDouble else none

/-- The number of a text, blanks around it aside: zero for nothing, the infinities by name, a
decimal by its value, and NaN for any other text. -/
def numberOfText (text : String) : Double :=
  let trimmed := Text.trim text.toList
  match String.ofList trimmed with
  | "" => Double.zero false
  | "Infinity" | "+Infinity" => .infinite false
  | "-Infinity" => .infinite true
  | _ => (decimal? trimmed).getD .nan

def toNumber : Value → Except Cause Double
  | .null => .ok (Double.zero false)
  | .boolean value => .ok (if value then Double.ofNat 1 else Double.zero false)
  | .number value => .ok value
  | .string value => .ok (numberOfText value)
  | other => .error (.typeMismatch ("cannot convert " ++ other.typeName ++ " to a number"))

/-- The place in a list or text that a key names: a number, or a text that is a decimal without
blanks, which has to be whole, not negative and below 2 ^ 64. -/
def toIndex? (key : Value) : Option Nat :=
  let number? := match key with
    | .number value => some value
    | .string value => decimal? value.toList
    | _ => none
  number?.bind fun number =>
    if number.isWhole && 0 ≤ number.truncate && number.truncate < UInt64.size then
      some number.truncate.toNat
    else none

end ChatTemplate.Value
