import ChatTemplate.Double.Basic

/-!
Rounding of an exact ratio to the nearest double-precision number, a half going to the neighbour
with the even last bit.
-/

set_option autoImplicit false

namespace ChatTemplate.Double

/-- The natural number nearest to `n / d`; a half goes to the even neighbour. -/
def roundHalfEven (n d : Nat) : Nat :=
  let whole := n / d
  let rest := 2 * (n % d)
  if rest < d || (rest == d && whole % 2 == 0) then whole else whole + 1

/-- The number nearest to `n / d`. In units of 2 ^ -1074 the ratio has some number of bits; those
beyond the first 53 are rounded off, and a carry into the next power of two moves the exponent field
by itself because ranks are consecutive. -/
def ofRatio (negative : Bool) (n d : Nat) : Double :=
  let scaled := n * unitsPerOne
  let shift := (scaled / d).log2 - 52
  ofRank negative (shift * fractionCount + roundHalfEven scaled (d <<< shift))

def ofUnits (negative : Bool) (n : Nat) : Double :=
  ofRatio negative n unitsPerOne

def ofNat (n : Nat) : Double :=
  ofRatio false n 1

/-- The number nearest to an integer; 0 has no minus sign. -/
def ofInt (n : Int) : Double :=
  ofRatio (n < 0) n.natAbs 1

def powerOfTen (exponent : Nat) : Nat :=
  Nat.pow 10 exponent

/-- The number nearest to `coefficient * 10 ^ exponent`. A decimal of at least 10 ^ 309 is beyond
the range and one below 10 ^ -324 is less than half the smallest positive number, so that exponents
far out of range cost nothing. -/
def ofDecimal (negative : Bool) (coefficient : Nat) (exponent : Int) : Double :=
  let point := exponent + (Nat.repr coefficient).length
  if coefficient = 0 || point < -323 then zero negative
  else if 309 < point then .infinite negative
  else if exponent < 0 then ofRatio negative coefficient (powerOfTen (-exponent).toNat)
  else ofRatio negative (coefficient * powerOfTen exponent.toNat) 1

end ChatTemplate.Double
