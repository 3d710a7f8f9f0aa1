/-!
Surrogate pairs. In a row of codes a character beyond 16 bits may be written as a pair of halves; a
half that stands alone is no character.
-/

set_option autoImplicit false

namespace ChatTemplate.Text

def isFirstHalf (code : Nat) : Bool :=
  0xD800 ≤ code && code < 0xDC00

def isSecondHalf (code : Nat) : Bool :=
  0xDC00 ≤ code && code < 0xE000

def joinHalves (first second : Nat) : Char :=
  Char.ofNat (0x10000 + (first - 0xD800) * 0x400 + (second - 0xDC00))

/-- Adds the characters that codes stand for to those in front of them, the last of which comes
first; `none` if a half stands alone. -/
def addCodes? : (before : List Char) → (codes : List Nat) → Option (List Char)
  | before, [] => some before
  | before, code :: rest =>
      if isFirstHalf code then
        match rest with
        | second :: rest =>
            if isSecondHalf second then addCodes? (joinHalves code second :: before) rest else none
        | [] => none
      else if isSecondHalf code then none
      else addCodes? (Char.ofNat code :: before) rest

/-- The text that codes stand for; `none` if a half stands alone. -/
def ofCodes? (codes : List Nat) : Option String :=
  (addCodes? [] codes).map fun characters => String.ofList characters.reverse

end ChatTemplate.Text
