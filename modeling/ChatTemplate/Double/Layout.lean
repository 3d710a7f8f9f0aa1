import ChatTemplate.Double.Shortest

/-!
Number text. A layout fixes what formats decide for themselves: the texts of NaN and the infinities,
the sign of zero, where positional text ends, how whole numbers and exponents are marked, and where
an exact tie goes.
-/

set_option autoImplicit false

namespace ChatTemplate

/-- The decisions of a number format. A number whose decimal point is at `point` is written
positionally when `lowest < point ≤ highest`, and with an exponent otherwise. -/
structure Layout where
  nan : String
  infinity : String
  negativeZero : Bool
  wholeMark : String
  plusMark : String
  lowest : Int
  highest : Int
  tie : Tie

namespace Layout

/-- Numbers in the text of a template: whole numbers have no point, zero has no sign, and exponents
begin below 10 ^ -6 and at 10 ^ 21. -/
def plain : Layout where
  nan := "NaN"
  infinity := "Infinity"
  negativeZero := false
  wholeMark := ""
  plusMark := "+"
  lowest := -6
  highest := 21
  tie := .up

/-- Fractional numbers in JSON text: at least one decimal, and exponents below 10 ^ -5 and from
10 ^ 16. JSON has no text for what is not finite; in its place stands `null`. -/
def json : Layout where
  nan := "null"
  infinity := "null"
  negativeZero := true
  wholeMark := ".0"
  plusMark := "+"
  lowest := -5
  highest := 16
  tie := .even

/-- Numbers in diagnostic text: at least one decimal, and exponents, which have no plus sign, below
10 ^ -4 and from 10 ^ 16. -/
def diagnostic : Layout where
  nan := "NaN"
  infinity := "inf"
  negativeZero := true
  wholeMark := ".0"
  plusMark := ""
  lowest := -4
  highest := 16
  tie := .up

def exponentText (layout : Layout) (exponent : Int) : String :=
  (if exponent < 0 then "-" else layout.plusMark) ++ Nat.repr exponent.natAbs

def zeros (count : Nat) : String :=
  String.ofList (List.replicate count '0')

/-- The text of the positive number `0.digits * 10 ^ point`. -/
def positive (layout : Layout) (digits : List Char) (point : Int) : String :=
  if layout.lowest < point && point ≤ layout.highest then
    if digits.length ≤ point then
      String.ofList digits ++ zeros (point - digits.length).toNat ++ layout.wholeMark
    else if 0 < point then
      String.ofList (digits.take point.toNat) ++ "." ++ String.ofList (digits.drop point.toNat)
    else "0." ++ zeros (-point).toNat ++ String.ofList digits
  else
    let fraction := digits.drop 1
    String.ofList (digits.take 1) ++
      (if fraction.isEmpty then "" else "." ++ String.ofList fraction) ++
      "e" ++ layout.exponentText (point - 1)

def sign (negative : Bool) : String :=
  if negative then "-" else ""

def text (layout : Layout) : Double → String
  | .nan => layout.nan
  | .infinite negative => sign negative ++ layout.infinity
  | x@(.finite negative ..) =>
      if x.isZero then sign (negative && layout.negativeZero) ++ "0" ++ layout.wholeMark
      else
        let decimal := Double.shortest layout.tie x.magnitude
        sign negative ++ layout.positive decimal.digits decimal.point

end Layout

end ChatTemplate
