import ChatTemplate.Json.Basic
import ChatTemplate.Value.Basic

/-!
Values as JSON and as text. The conversion to JSON loses functions and what is not finite, which
become `null`; the text of a value is what an interpolation writes.
-/

set_option autoImplicit false

namespace ChatTemplate.Value

/-- A number as JSON: whole numbers below 9 * 10 ^ 15 in size are integers, all others fractional.
-/
def numberToJson (value : Double) : Json :=
  if value.isWhole && value.truncate.natAbs < 9000000000000000 then .integer value.truncate
  else Json.ofDouble value

mutual

def toJson : Value → Json
  | .null | .function _ => .null
  | .boolean value => .boolean value
  | .number value => numberToJson value
  | .string value => .string value
  | .list items => .array (itemsToJson items)
  | .map entries => .object (rowToJson entries.row)

def itemsToJson : List Value → List Json
  | [] => []
  | item :: rest => item.toJson :: itemsToJson rest

def rowToJson : {keys : List String} → Dict.Row Value keys → List (String × Json)
  | _, .nil => []
  | _, .cons key value _ rest => (key, value.toJson) :: rowToJson rest

end

mutual

/-- The value of a JSON value. Of a repeated key the last value counts. -/
def ofJson : Json → Value
  | .null => .null
  | .boolean value => .boolean value
  | .integer value => .number (Double.ofInt value)
  | .float value => .number value
  | .string value => .string value
  | .array items => .list (itemsOfJson items)
  | .object entries => .map (.ofEntries (entriesOfJson entries))

def itemsOfJson : List Json → List Value
  | [] => []
  | item :: rest => ofJson item :: itemsOfJson rest

def entriesOfJson : List (String × Json) → List (String × Value)
  | [] => []
  | (key, value) :: rest => (key, ofJson value) :: entriesOfJson rest

end

/-- The text of a value: nothing for null, compact JSON for lists and maps. -/
def text : Value → String
  | .null => ""
  | .boolean value => if value then "true" else "false"
  | .number value => Layout.plain.text value
  | .string value => value
  | value@(.list _) | value@(.map _) => value.toJson.text
  | .function _ => "[function]"

/-- The text of a value that is used as a key. Only null differs from the text elsewhere. -/
def keyText : Value → String
  | .null => "null"
  | value => value.text

end ChatTemplate.Value
