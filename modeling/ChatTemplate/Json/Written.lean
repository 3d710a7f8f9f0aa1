import ChatTemplate.Json.Token

/-!
JSON as a text writes it. The form of the whole text has been checked, which says nothing about its
values: a number may be too large to have one, a string may hold half of a surrogate pair, and
arrays and objects may be nested without limit.
-/

set_option autoImplicit false

namespace ChatTemplate.Json

/-- A JSON value as it is written, with the strings given by their codes. -/
inductive Written where
  | null
  | boolean (value : Bool)
  | number (numeral : Numeral)
  | string (codes : List Nat)
  | array (items : List Written)
  | object (entries : List (List Nat × Written))

namespace Written

/-- An array or object that is open, with what has been read of it, the last first. The value that
is read next is its next item or the value of its last key. -/
inductive Frame where
  | item (before : List Written)
  | field (before : List (List Nat × Written)) (key : List Nat)

/-- How far a reader has come. `outer` is what is open around this place, the innermost first. -/
inductive Progress where
  | value (outer : List Frame)
  /-- The first item of an array comes next, or the end of the array. -/
  | firstItem (outer : List Frame)
  /-- The first key of an object comes next, or the end of the object. -/
  | firstKey (outer : List Frame)
  /-- Another key of an object comes next. -/
  | key (before : List (List Nat × Written)) (outer : List Frame)
  /-- The colon behind a key comes next. -/
  | colon (before : List (List Nat × Written)) (key : List Nat) (outer : List Frame)
  | after (value : Written) (outer : List Frame)

/-- A token that begins a value. -/
def begin? (outer : List Frame) : Token → Option Progress
  | .null => some (.after .null outer)
  | .boolean value => some (.after (.boolean value) outer)
  | .number numeral => some (.after (.number numeral) outer)
  | .string codes => some (.after (.string codes) outer)
  | .openArray => some (.firstItem outer)
  | .openObject => some (.firstKey outer)
  | _ => none

/-- A token behind a value, which goes on with the innermost array or object or closes it. -/
def continue? (value : Written) : List Frame → Token → Option Progress
  | .item before :: outer, .comma => some (.value (.item (value :: before) :: outer))
  | .item before :: outer, .closeArray => some (.after (.array (value :: before).reverse) outer)
  | .field before key :: outer, .comma => some (.key ((key, value) :: before) outer)
  | .field before key :: outer, .closeObject =>
      some (.after (.object ((key, value) :: before).reverse) outer)
  | _, _ => none

/-- One token at any place; `none` if it may not stand there. -/
def step? : Progress → Token → Option Progress
  | .value outer, token => begin? outer token
  | .firstItem outer, .closeArray => some (.after (.array []) outer)
  | .firstItem outer, token => begin? (.item [] :: outer) token
  | .firstKey outer, .closeObject => some (.after (.object []) outer)
  | .firstKey outer, .string key => some (.colon [] key outer)
  | .key before outer, .string key => some (.colon before key outer)
  | .colon before key outer, .colon => some (.value (.field before key :: outer))
  | .after value outer, token => continue? value outer token
  | _, _ => none

/-- The value that a row of tokens writes, with nothing left over. -/
def ofTokens? (tokens : List Token) : Option Written :=
  match tokens.foldlM step? (.value []) with
  | some (.after value []) => some value
  | _ => none

/-- The value that a text writes; `none` if the text is not JSON. -/
def ofText? (text : String) : Option Written :=
  Token.scan .between text.toList >>= ofTokens?

end Written

end ChatTemplate.Json
