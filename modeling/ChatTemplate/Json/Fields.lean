import ChatTemplate.Json.Basic

/-!
Reading the fields of JSON objects. A field that a structure knows may stand in an object only once;
other fields are ignored. `none` means that a value does not fit.
-/

set_option autoImplicit false

namespace ChatTemplate.Json

variable {α : Type}

def asString? : Json → Option String
  | .string value => some value
  | _ => none

def asBoolean? : Json → Option Bool
  | .boolean value => some value
  | _ => none

/-- A whole number written as such that fits an unsigned 64-bit word. -/
def asWord? : Json → Option UInt64
  | .integer value =>
      if 0 ≤ value && value < UInt64.size then some (UInt64.ofNat value.toNat) else none
  | _ => none

/-- A number, rounded to double precision. -/
def asDouble? : Json → Option Double
  | .integer value => some (Double.ofInt value)
  | .float value => some value
  | _ => none

def asObject? : Json → Option (List (String × Json))
  | .object entries => some entries
  | _ => none

def asList? (item? : Json → Option α) : Json → Option (List α)
  | .array items => items.mapM item?
  | _ => none

/-- Nothing, written `null`, or a value that fits. -/
def asNullable? (value? : Json → Option α) : Json → Option (Option α)
  | .null => some none
  | json => (value? json).map some

/-- A name out of a fixed set, written as text or as an object with the name as its only key and
`null` as the value. -/
def asName? : Json → Option String
  | .string name => some name
  | .object [(name, .null)] => some name
  | _ => none

/-- The values of all entries with the key, in order. -/
def occurrences (entries : List (String × Json)) (key : String) : List Json :=
  entries.filterMap fun entry => if entry.1 = key then some entry.2 else none

/-- A field that has to be present. -/
def required? (entries : List (String × Json)) (key : String) (value? : Json → Option α) :
    Option α :=
  match occurrences entries key with
  | [json] => value? json
  | _ => none

/-- A field that has a default when it is missing. -/
def optional? (entries : List (String × Json)) (key : String) (default : α)
    (value? : Json → Option α) : Option α :=
  match occurrences entries key with
  | [] => some default
  | [json] => value? json
  | _ => none

/-- An array in place of an object: its items are the values of the fields in order, and fields at
the end may be missing. -/
def fieldsOf? (names : List String) : Json → Option (List (String × Json))
  | .object entries => some entries
  | .array items => if items.length ≤ names.length then some (names.zip items) else none
  | _ => none

end ChatTemplate.Json
