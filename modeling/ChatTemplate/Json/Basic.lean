import ChatTemplate.Dict
import ChatTemplate.Double.Layout
import ChatTemplate.Text.Quoted

/-!
JSON values. Whole numbers that fit a 64-bit integer keep that form, all others are double-precision
numbers. An object keeps its entries in order, and as read from text it may repeat a key until
`collapse` settles it.
-/

set_option autoImplicit false

namespace ChatTemplate

inductive Json where
  | null
  | boolean (value : Bool)
  | integer (value : Int)
  | float (value : Double)
  | string (value : String)
  | array (items : List Json)
  | object (entries : List (String × Json))

namespace Json

instance : Inhabited Json := ⟨.null⟩

/-- The number as JSON; what is not finite has no JSON form and becomes `null`. -/
def ofDouble (value : Double) : Json :=
  if value.isFinite then .float value else .null

mutual

/-- The value with every repeated key settled: it keeps its first place and its last value. -/
def collapse : Json → Json
  | .array items => .array (collapseItems items)
  | .object entries => .object (Dict.ofEntries (collapseEntries entries)).entries
  | other => other

def collapseItems : List Json → List Json
  | [] => []
  | item :: rest => collapse item :: collapseItems rest

def collapseEntries : List (String × Json) → List (String × Json)
  | [] => []
  | (key, value) :: rest => (key, collapse value) :: collapseEntries rest

end

mutual

/-- How deep arrays and objects are nested, the value itself counted when it is one. -/
def depth : Json → Nat
  | .array items => depthItems items + 1
  | .object entries => depthEntries entries + 1
  | _ => 0

def depthItems : List Json → Nat
  | [] => 0
  | item :: rest => max (depth item) (depthItems rest)

def depthEntries : List (String × Json) → Nat
  | [] => 0
  | (_, value) :: rest => max (depth value) (depthEntries rest)

end

mutual

/-- The compact text of a value: no spaces, entries in order. -/
def text : Json → String
  | .null => "null"
  | .boolean value => if value then "true" else "false"
  | .integer value => toString value
  | .float value => if value.isFinite then Layout.json.text value else "null"
  | .string value => Text.quote value
  | .array items => "[" ++ ",".intercalate (itemTexts items) ++ "]"
  | .object entries => "\x7b" ++ ",".intercalate (entryTexts entries) ++ "\x7d"

def itemTexts : List Json → List String
  | [] => []
  | item :: rest => text item :: itemTexts rest

def entryTexts : List (String × Json) → List String
  | [] => []
  | (key, value) :: rest => (Text.quote key ++ ":" ++ text value) :: entryTexts rest

end

end Json

end ChatTemplate
