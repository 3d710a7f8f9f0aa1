/-!
Double-precision numbers: the binary64 format with one NaN. A finite number has a sign, an exponent
field and a fraction field, so every number but zero has exactly one form and zero has two, one for
each sign. Exact arithmetic on finite numbers uses `magnitude`, the distance from zero counted in
units of the smallest positive number.
-/

set_option autoImplicit false

namespace ChatTemplate

/-- How many fractions a number can have beside one exponent field: 2 ^ 52. -/
abbrev Double.fractionCount : Nat := 0x10000000000000

/-- A double-precision number. A finite number with exponent field 0 counts `fraction` units of
2 ^ -1074; one with exponent field `e` > 0 counts `2 ^ 52 + fraction` units of 2 ^ (e - 1075). -/
inductive Double where
  | nan
  | infinite (negative : Bool)
  | finite (negative : Bool) (exponent : Fin 2047) (fraction : Fin Double.fractionCount)
  deriving DecidableEq

namespace Double

/-- How many units of the smallest positive number make one. -/
def unitsPerOne : Nat := 1 <<< 1074

def zero (negative : Bool) : Double := .finite negative ⟨0, by decide⟩ ⟨0, by decide⟩

instance : Inhabited Double := ⟨zero false⟩

/-- The place of a finite magnitude in the ascending list of all of them; zero has place 0. -/
def ofRank (negative : Bool) (rank : Nat) : Double :=
  if bounded : rank < 2047 * fractionCount then
    .finite negative ⟨rank / fractionCount, Nat.div_lt_of_lt_mul (Nat.mul_comm _ _ ▸ bounded)⟩
      ⟨rank % fractionCount, Nat.mod_lt _ (by decide)⟩
  else .infinite negative

/-- The distance from zero in units of 2 ^ -1074; 0 for what is not finite. -/
def magnitude : Double → Nat
  | .finite _ exponent fraction =>
      if exponent.val = 0 then fraction.val
      else (fractionCount + fraction.val) <<< (exponent.val - 1)
  | _ => 0

/-- Whether the sign is minus. NaN has no sign. -/
def isNegative : Double → Bool
  | .nan => false
  | .infinite negative => negative
  | .finite negative _ _ => negative

/-- The exact value in units of 2 ^ -1074; 0 for what is not finite. -/
def units (x : Double) : Int :=
  if x.isNegative then -(x.magnitude : Int) else x.magnitude

def isNan : Double → Bool
  | .nan => true
  | _ => false

def isFinite : Double → Bool
  | .finite .. => true
  | _ => false

/-- Whether the number is zero, of either sign. -/
def isZero : Double → Bool
  | x@(.finite ..) => x.magnitude == 0
  | _ => false

/-- Whether the number is finite and has no fractional part. -/
def isWhole : Double → Bool
  | x@(.finite ..) => x.magnitude % unitsPerOne == 0
  | _ => false

/-- The finite number without its fractional part; 0 for what is not finite. -/
def truncate (x : Double) : Int :=
  if x.isNegative then -((x.magnitude / unitsPerOne : Nat) : Int)
  else (x.magnitude / unitsPerOne : Nat)

def neg : Double → Double
  | .nan => .nan
  | .infinite negative => .infinite (!negative)
  | .finite negative exponent fraction => .finite (!negative) exponent fraction

/-- The order of two numbers; a NaN is in no order with anything. -/
def compare? : Double → Double → Option Ordering
  | .nan, _ => none
  | _, .nan => none
  | .infinite a, .infinite b =>
      if a = b then some .eq else if a then some .lt else some .gt
  | .infinite a, .finite .. => some (if a then .lt else .gt)
  | .finite .., .infinite b => some (if b then .gt else .lt)
  | x@(.finite ..), y@(.finite ..) => some (compare x.units y.units)

/-- Numeric equality: NaN differs from itself and the two zeros are equal. -/
def equal (x y : Double) : Bool :=
  x.compare? y == some .eq

/-- The sign as the highest bit of the interchange format. -/
def signBit (negative : Bool) : Nat :=
  if negative then 1 <<< 63 else 0

def toBits : Double → UInt64
  | .nan => 0x7ff8000000000000
  | .infinite negative => UInt64.ofNat (signBit negative + 2047 * fractionCount)
  | .finite negative exponent fraction =>
      UInt64.ofNat (signBit negative + exponent.val * fractionCount + fraction.val)

/-- The number that the bits of the interchange format stand for. -/
def ofBits (bits : UInt64) : Double :=
  let negative := decide (signBit true ≤ bits.toNat)
  let rank := bits.toNat % signBit true
  if rank ≤ 2047 * fractionCount then ofRank negative rank else .nan

end Double

end ChatTemplate
