import ChatTemplate.Double.Rounding

/-!
Written numbers: a sign, digits, a point with digits behind it and an exponent, each of which may be
missing. Formats differ in which parts they demand; reading to a value is the same for all.
-/

set_option autoImplicit false

namespace ChatTemplate

/-- The sign that stands in front of digits. -/
inductive Sign where
  | absent
  | plus
  | minus
  deriving DecidableEq

namespace Sign

def split : List Char → Sign × List Char
  | '+' :: rest => (.plus, rest)
  | '-' :: rest => (.minus, rest)
  | rest => (.absent, rest)

end Sign

/-- The parts of a written number. A fraction is present when there is a point, even with no digit
behind it. -/
structure Numeral where
  sign : Sign
  whole : List Char
  fraction : Option (List Char)
  exponent : Option (Sign × List Char)

namespace Numeral

def natOfDigits (digits : List Char) : Nat :=
  digits.foldl (fun value digit => 10 * value + (digit.toNat - 48)) 0

/-- Reads the part behind the digits: nothing, or the mark of an exponent and at least one digit. -/
def readExponent : List Char → Option (Option (Sign × List Char))
  | [] => some none
  | mark :: rest =>
      let (sign, digits) := Sign.split rest
      if (mark == 'e' || mark == 'E') && !digits.isEmpty && digits.all Char.isDigit then
        some (some (sign, digits))
      else none

/-- Splits a text into the parts of a number; the whole text has to be used. -/
def read? (text : List Char) : Option Numeral :=
  let (sign, text) := Sign.split text
  let whole := text.takeWhile Char.isDigit
  match text.dropWhile Char.isDigit with
  | '.' :: rest =>
      (readExponent (rest.dropWhile Char.isDigit)).map
        (⟨sign, whole, some (rest.takeWhile Char.isDigit), ·⟩)
  | rest => (readExponent rest).map (⟨sign, whole, none, ·⟩)

def hasDigit (numeral : Numeral) : Bool :=
  !numeral.whole.isEmpty || !(numeral.fraction.getD []).isEmpty

/-- Whether the number has neither a point nor an exponent. -/
def isInteger (numeral : Numeral) : Bool :=
  numeral.fraction.isNone && numeral.exponent.isNone

def exponentValue (numeral : Numeral) : Int :=
  match numeral.exponent with
  | none => 0
  | some (.minus, digits) => -(natOfDigits digits : Int)
  | some (_, digits) => natOfDigits digits

def toDouble (numeral : Numeral) : Double :=
  let fraction := numeral.fraction.getD []
  Double.ofDecimal (numeral.sign == .minus) (natOfDigits (numeral.whole ++ fraction))
    (numeral.exponentValue - fraction.length)

end Numeral

end ChatTemplate
