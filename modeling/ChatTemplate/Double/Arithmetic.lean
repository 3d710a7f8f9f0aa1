import ChatTemplate.Double.Rounding

/-!
Arithmetic: each operation rounds the exact result once. The remainder keeps the sign of its left
operand and is always exact, and so is the number without its fractional part.
-/

set_option autoImplicit false

namespace ChatTemplate.Double

def one : Double := ofNat 1

/-- The sum. Two zeros of one sign keep it; any other sum that is exactly zero is positive. -/
def add : Double → Double → Double
  | .nan, _ => .nan
  | _, .nan => .nan
  | .infinite a, .infinite b => if a = b then .infinite a else .nan
  | .infinite a, _ => .infinite a
  | _, .infinite b => .infinite b
  | x@(.finite ..), y@(.finite ..) =>
      let total := x.units + y.units
      if total = 0 then zero (x.isNegative && y.isNegative)
      else ofUnits (total < 0) total.natAbs

def sub (x y : Double) : Double :=
  x.add y.neg

def mul (x y : Double) : Double :=
  let negative := x.isNegative != y.isNegative
  match x, y with
  | .nan, _ => .nan
  | _, .nan => .nan
  | .infinite _, other => if other.isZero then .nan else .infinite negative
  | other, .infinite _ => if other.isZero then .nan else .infinite negative
  | .finite .., .finite .. =>
      ofRatio negative (x.magnitude * y.magnitude) (unitsPerOne * unitsPerOne)

def div (x y : Double) : Double :=
  let negative := x.isNegative != y.isNegative
  match x, y with
  | .nan, _ => .nan
  | _, .nan => .nan
  | .infinite _, .infinite _ => .nan
  | .infinite _, .finite .. => .infinite negative
  | .finite .., .infinite _ => zero negative
  | .finite .., .finite .. =>
      if y.isZero then (if x.isZero then .nan else .infinite negative)
      else ofRatio negative x.magnitude y.magnitude

/-- The remainder of the division that rounds its quotient toward zero. -/
def rem : Double → Double → Double
  | .nan, _ => .nan
  | _, .nan => .nan
  | .infinite _, _ => .nan
  | x@(.finite ..), .infinite _ => x
  | x@(.finite ..), y@(.finite ..) =>
      if y.isZero then .nan else ofUnits x.isNegative (x.magnitude % y.magnitude)

def trunc : Double → Double
  | x@(.finite negative ..) => ofUnits negative (x.magnitude / unitsPerOne * unitsPerOne)
  | x => x

def abs : Double → Double
  | .nan => .nan
  | .infinite _ => .infinite false
  | .finite _ exponent fraction => .finite false exponent fraction

/-- The remainder that is not negative: one below zero is moved up by the size of the divisor. -/
def euclideanRem (x y : Double) : Double :=
  let rest := x.rem y
  if rest.compare? (zero false) == some .lt then rest.add y.abs else rest

def pow (x y : Double) : Double :=
  ofBits (Float.pow (Float.ofBits x.toBits) (Float.ofBits y.toBits)).toBits

end ChatTemplate.Double
