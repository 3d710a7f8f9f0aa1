import ChatTemplate.Double.Arithmetic
import ChatTemplate.Json.Basic
import ChatTemplate.Json.Token

/-!
The value of a number in JSON text. A whole number that fits 64 bits stays an integer. Of any other
number the digits are gathered into a significand for as long as that fits 64 bits, and those behind
it count as places only. The significand is rounded to double precision and then multiplied or
divided by a power of ten, which rounds once more, so that a number of many digits may be read as a
neighbour of the nearest double-precision number.
-/

set_option autoImplicit false

namespace ChatTemplate.Json

/-- Puts digits behind a significand for as long as it fits 64 bits. The digits from the first that
does not are left over. -/
def gather (significand : Nat) : List Char → Nat × List Char
  | [] => (significand, [])
  | digit :: rest =>
      let longer := 10 * significand + (digit.toNat - 48)
      if longer < UInt64.size then gather longer rest else (significand, digit :: rest)

/-- The greatest power of ten that has a double-precision number. -/
def greatestPower : Nat := 308

def tenTo (exponent : Nat) : Double :=
  Double.ofDecimal false 1 exponent

/-- A number divided by a power of ten, in several steps when the power is too great for one. -/
def shrink (x : Double) (exponent : Nat) : Double :=
  if exponent ≤ greatestPower then x.div (tenTo exponent)
  else if x.isZero then x
  else shrink (x.div (tenTo greatestPower)) (exponent - greatestPower)
termination_by exponent
decreasing_by
  have positive : 0 < greatestPower := by decide
  omega

/-- A number times a power of ten, unless that is out of range. -/
def scale? (x : Double) (exponent : Int) : Option Double :=
  if exponent < 0 then some (shrink x exponent.natAbs)
  else if exponent ≤ greatestPower then
    let product := x.mul (tenTo exponent.toNat)
    if product.isFinite then some product else none
  else if x.isZero then some x else none

/-- The value of a written number. Minus zero is no integer. -/
def ofNumeral? (numeral : Numeral) : Option Json :=
  let negative := numeral.sign == .minus
  let fraction := numeral.fraction.getD []
  let (whole, dropped) := gather 0 numeral.whole
  let (significand, ignored) := gather whole fraction
  if numeral.isInteger && dropped.isEmpty && !negative then some (.integer whole)
  else if numeral.isInteger && dropped.isEmpty && 0 < whole && whole ≤ UInt64.size / 2 then
    some (.integer (-whole))
  else
    let places := fraction.length - ignored.length
    (scale? (Double.ofNat significand) (numeral.exponentValue + dropped.length - places)).map
      fun x => .float (if negative then x.neg else x)

end ChatTemplate.Json
