import ChatTemplate.Double.Rounding

/-!
The shortest decimal of a number: of all decimals that round to the number those with the fewest
digits, and of these the one nearest to the number.
-/

set_option autoImplicit false

namespace ChatTemplate

/-- A positive decimal, `coefficient * 10 ^ exponent`. -/
structure Decimal where
  coefficient : Nat
  exponent : Int
  deriving DecidableEq

/-- Where an exact tie between two neighbouring decimals goes. -/
inductive Tie where
  | up
  | even
  deriving DecidableEq

namespace Decimal

/-- Trailing zeros of a row of digits, counted and removed; the digits stand in reverse order. -/
def dropZeros : List Char → List Char × Nat
  | '0' :: rest => let (digits, count) := dropZeros rest; (digits, count + 1)
  | digits => (digits, 0)

/-- The digits without trailing zeros. -/
def digits (decimal : Decimal) : List Char :=
  (dropZeros (Nat.repr decimal.coefficient).toList.reverse).1.reverse

/-- The position of the decimal point relative to the first digit: the value is
`0.digits * 10 ^ point`. -/
def point (decimal : Decimal) : Int :=
  decimal.exponent + (Nat.repr decimal.coefficient).length

end Decimal

namespace Double

/-- The position of the decimal point of a positive ratio relative to its first digit. -/
def decimalPoint (n d : Nat) : Int :=
  if d ≤ n then (Nat.repr (n / d)).length
  else 1 - ((Nat.repr (d / n)).length : Int)

/-- The decimal of at most `count` digits, if there is one, that rounds to the number of the given
magnitude: one of the two neighbours of the exact value on the grid of `count` digits, the nearer
one if both round to the number. -/
def shortestOf? (tie : Tie) (magnitude : Nat) (count : Nat) : Option Decimal :=
  let exponent := decimalPoint magnitude unitsPerOne - count
  let n := magnitude * powerOfTen (-exponent).toNat
  let d := unitsPerOne * powerOfTen exponent.toNat
  let low := n / d
  let rest := 2 * (n % d)
  let number := ofUnits false magnitude
  let roundsBack coefficient := ofDecimal false coefficient exponent == number
  let highRounds := rest != 0 && roundsBack (low + 1)
  if roundsBack low then
    let takesHigh := highRounds &&
      (d < rest || (rest == d && (tie == .up || low % 2 == 1)))
    some ⟨if takesHigh then low + 1 else low, exponent⟩
  else if highRounds then some ⟨low + 1, exponent⟩
  else none

/-- All digits of the number of the given magnitude. -/
def exactDecimal (magnitude : Nat) : Decimal :=
  ⟨magnitude * Nat.pow 5 1074, -1074⟩

/-- The shortest decimal of the positive number of the given magnitude. Seventeen digits always
suffice; the exact decimal stands behind the search so that the result reads back without that
fact. -/
def shortest (tie : Tie) (magnitude : Nat) : Decimal :=
  ((List.range' 1 17).findSome? (shortestOf? tie magnitude)).getD (exactDecimal magnitude)

end Double

end ChatTemplate
