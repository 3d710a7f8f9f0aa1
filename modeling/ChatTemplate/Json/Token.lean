import ChatTemplate.Double.Numeral

/-!
The tokens of JSON text. The scanner reads one character after the other and never looks back: what
it has read of an unfinished word or string is its mode. It checks the form of strings and numbers
and leaves their values open.
-/

set_option autoImplicit false

namespace ChatTemplate.Json

/-- A token of JSON text. The codes of a string are those of its characters, where an escape may be
half of a surrogate pair. -/
inductive Token where
  | openArray
  | closeArray
  | openObject
  | closeObject
  | comma
  | colon
  | null
  | boolean (value : Bool)
  | number (numeral : Numeral)
  | string (codes : List Nat)

namespace Token

/-- What the scanner is in the middle of. What it has read so far stands in reverse order. -/
inductive Mode where
  | between
  | word (read : List Char)
  | string (codes : List Nat)
  | escape (codes : List Nat)
  | unit (codes : List Nat) (digits : List Char)

/-- The characters that may stand between tokens. -/
def isSpace (c : Char) : Bool :=
  c == ' ' || c == '\t' || c == '\n' || c == '\r'

/-- The token that a single character makes. -/
def ofPunctuation? : Char → Option Token
  | '[' => some .openArray
  | ']' => some .closeArray
  | '\x7b' => some .openObject
  | '\x7d' => some .closeObject
  | ',' => some .comma
  | ':' => some .colon
  | _ => none

/-- Whether a number is written as JSON demands: no plus sign, no needless leading zero, and digits
on both sides of a point. -/
def isJsonNumeral (numeral : Numeral) : Bool :=
  numeral.sign != .plus && !numeral.whole.isEmpty &&
    (numeral.whole.length == 1 || numeral.whole.head? != some '0') &&
    numeral.fraction != some []

/-- The token of a word, which stands in reverse order. -/
def ofWord? (read : List Char) : Option Token :=
  match String.ofList read.reverse with
  | "null" => some .null
  | "true" => some (.boolean true)
  | "false" => some (.boolean false)
  | _ => do
      let numeral ← Numeral.read? read.reverse
      if isJsonNumeral numeral then some (.number numeral) else none

def hexValue? (c : Char) : Option Nat :=
  if c.isDigit then some (c.toNat - 48)
  else if 'a' ≤ c && c ≤ 'f' then some (c.toNat - 87)
  else if 'A' ≤ c && c ≤ 'F' then some (c.toNat - 55)
  else none

def hexValues? : List Char → Option Nat
  | [] => some 0
  | c :: rest => do
      let value ← hexValue? c
      let others ← hexValues? rest
      some (16 * others + value)

/-- The character that a short escape stands for. -/
def escaped? : Char → Option Char
  | '"' => some '"'
  | '\\' => some '\\'
  | '/' => some '/'
  | 'b' => some '\x08'
  | 'f' => some '\x0c'
  | 'n' => some '\n'
  | 'r' => some '\r'
  | 't' => some '\t'
  | _ => none

/-- One character between tokens: the token that it is, if any, and the mode after it. -/
def start (c : Char) : List Token × Mode :=
  if isSpace c then ([], .between)
  else match ofPunctuation? c with
    | some token => ([token], .between)
    | none => if c == '"' then ([], .string []) else ([], .word [c])

/-- One character in any mode: the tokens that it finishes and the mode after it. -/
def step? (mode : Mode) (c : Char) : Option (List Token × Mode) :=
  match mode with
  | .between => some (start c)
  | .word read =>
      if isSpace c || (ofPunctuation? c).isSome || c == '"' then do
        let token ← ofWord? read
        let (tokens, mode) := start c
        some (token :: tokens, mode)
      else some ([], .word (c :: read))
  | .string codes =>
      if c == '\\' then some ([], .escape codes)
      else if c.toNat < 0x20 then none
      else if c == '"' then some ([.string codes.reverse], .between)
      else some ([], .string (c.toNat :: codes))
  | .escape codes =>
      if c == 'u' then some ([], .unit codes [])
      else (escaped? c).map fun character => ([], .string (character.toNat :: codes))
  | .unit codes digits =>
      if digits.length < 3 then some ([], .unit codes (c :: digits))
      else (hexValues? (c :: digits)).map fun code => ([], .string (code :: codes))

/-- The tokens of a text that is read in the given mode; `none` if the text is no row of tokens. -/
def scan : Mode → List Char → Option (List Token)
  | .between, [] => some []
  | .word read, [] => (ofWord? read).map ([·])
  | _, [] => none
  | mode, c :: rest => do
      let (tokens, mode) ← step? mode c
      let others ← scan mode rest
      some (tokens ++ others)

end Token

end ChatTemplate.Json
