import ChatTemplate.Json.Numeral
import ChatTemplate.Json.Written
import ChatTemplate.Text.Surrogate

/-!
Reading JSON text. A value is read out of what the text writes, and arrays and objects may be nested
only as deep as the reader allows. A reader that wants parts of a text only selects them; what it
passes over has to be well-formed JSON and need not have a value.
-/

set_option autoImplicit false

namespace ChatTemplate.Json

namespace Written

mutual

/-- The value that is written, all of it, if every number and string has a value and arrays and
objects are nested at most `depth` deep. Repeated keys are kept. -/
def value? : (depth : Nat) → Written → Option Json
  | _, .null => some .null
  | _, .boolean value => some (.boolean value)
  | _, .number numeral => ofNumeral? numeral
  | _, .string codes => (Text.ofCodes? codes).map .string
  | depth + 1, .array items => (itemValues? depth items).map .array
  | depth + 1, .object entries => (entryValues? depth entries).map .object
  | 0, _ => none

def itemValues? : (depth : Nat) → List Written → Option (List Json)
  | _, [] => some []
  | depth, item :: rest => do
      let value ← value? depth item
      let others ← itemValues? depth rest
      some (value :: others)

def entryValues? : (depth : Nat) → List (List Nat × Written) → Option (List (String × Json))
  | _, [] => some []
  | depth, (key, written) :: rest => do
      let key ← Text.ofCodes? key
      let value ← value? depth written
      let others ← entryValues? depth rest
      some ((key, value) :: others)

end

end Written

/-- Which part of a written value is read, given how deep arrays and objects may be nested. -/
abbrev Selection := (depth : Nat) → Written → Option Json

namespace Selection

def whole : Selection := Written.value?

/-- The items of an array, of each what `item` selects. Any other value is read whole. -/
def items (item : Selection) : Selection
  | depth + 1, .array items => (items.mapM (item depth)).map .array
  | depth, written => written.value? depth

/-- The fields of an object, of each what `field?` selects for its key, or nothing at all. Every key
has to be a text. Any other value is read whole. -/
def fields (field? : String → Option Selection) : Selection
  | depth + 1, .object entries => do
      let selected ← entries.mapM fun entry => do
        let key ← Text.ofCodes? entry.1
        match field? key with
        | some field => (field depth entry.2).map fun value => some (key, value)
        | none => some none
      some (.object (selected.filterMap id))
  | depth, written => written.value? depth

/-- The named fields of an object, each of them whole. -/
def named (names : List String) : Selection :=
  fields fun key => if names.contains key then some whole else none

end Selection

/-- Reads a text that nests arrays and objects at most `depth` deep. Repeated keys are kept. -/
def read? (depth : Nat) (text : String) : Option Json :=
  Written.ofText? text >>= Written.value? depth

/-- How deep a text that is part of a template or a document may nest arrays and objects. -/
def depthLimit : Nat := 127

/-- Reads part of a text of limited depth. -/
def select? (selection : Selection) (text : String) : Option Json :=
  Written.ofText? text >>= selection depthLimit

/-- Reads a text of limited depth as a free-form value, with repeated keys settled. -/
def parse? (text : String) : Option Json :=
  (read? depthLimit text).map collapse

end ChatTemplate.Json
