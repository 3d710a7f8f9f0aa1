/-!
Blank text. A character is blank when it has the Unicode property `White_Space`; text is blank when
every character of it is.
-/

set_option autoImplicit false

namespace ChatTemplate.Text

/-- The code points with the property `White_Space`, as closed ranges in ascending order. -/
def blankRanges : List (Nat × Nat) :=
  [(0x9, 0xD), (0x20, 0x20), (0x85, 0x85), (0xA0, 0xA0), (0x1680, 0x1680), (0x2000, 0x200A),
    (0x2028, 0x2029), (0x202F, 0x202F), (0x205F, 0x205F), (0x3000, 0x3000)]

def isBlankChar (c : Char) : Bool :=
  blankRanges.any fun range => range.1 ≤ c.toNat && c.toNat ≤ range.2

/-- Text that holds nothing but blank characters, the empty text included. -/
def isBlank (text : String) : Bool :=
  text.toList.all isBlankChar

def trim (text : List Char) : List Char :=
  ((text.dropWhile isBlankChar).reverse.dropWhile isBlankChar).reverse

end ChatTemplate.Text
