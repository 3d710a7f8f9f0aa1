import ChatTemplate.Double.Arithmetic
import ChatTemplate.Proofs.Double.Exact

/-!
Arithmetic on integers. A number that is an integer can be of any size that the format has. What an
operation makes of such numbers is exact when it has no more bits than a significand; a number
without its fractional part always is, and so is a remainder of a divisor of that size.
-/

set_option autoImplicit false

namespace ChatTemplate.Double

def withSign (negative : Bool) (size : Nat) : Int :=
  if negative then -(size : Int) else size

private theorem withSign_mul (negative : Bool) (size unit : Nat) :
    withSign negative (size * unit) = withSign negative size * unit := by
  cases negative with
  | false => simp [withSign]
  | true => simp [withSign]

theorem natAbs_withSign (negative : Bool) (size : Nat) :
    (withSign negative size).natAbs = size := by
  cases negative with
  | false => exact Int.natAbs_natCast size
  | true => exact (Int.natAbs_neg _).trans (Int.natAbs_natCast size)

private theorem withSign_lt_zero (negative : Bool) {size : Nat} (positive : 0 < size) :
    decide (withSign negative size < 0) = negative := by
  cases negative with
  | false => simp [withSign]
  | true => simp [withSign, positive]

private theorem withSign_natAbs (n : Int) : withSign (decide (n < 0)) n.natAbs = n := by
  by_cases negative : n < 0
  · rw [withSign, if_pos (decide_eq_true negative)]
    omega
  · rw [withSign, if_neg (mt of_decide_eq_true negative)]
    omega

private theorem withSign_tmod (negative : Bool) (size m : Nat) :
    (withSign negative size).tmod m = withSign negative (size % m) := by
  cases negative with
  | false => exact (Int.ofNat_tmod size m).symm
  | true => exact (Int.neg_tmod ..).trans (congrArg Neg.neg (Int.ofNat_tmod size m).symm)

theorem units_eq_withSign (x : Double) : x.units = withSign x.isNegative x.magnitude :=
  rfl

theorem truncate_eq_withSign (x : Double) :
    x.truncate = withSign x.isNegative (x.magnitude / unitsPerOne) :=
  rfl

/-- A finite number other than zero is determined by its units. -/
theorem ofUnits_units {x : Double} (finite : x.isFinite = true) (nonzero : x.units ≠ 0) :
    ofUnits (decide (x.units < 0)) x.units.natAbs = x := by
  have positive : 0 < x.magnitude := by
    have size := Int.natAbs_pos.mpr nonzero
    rwa [units_eq_withSign, natAbs_withSign] at size
  rw [units_eq_withSign, natAbs_withSign, withSign_lt_zero _ positive]
  cases x with
  | finite negative exponent fraction => exact ofUnits_magnitude negative exponent fraction
  | _ => cases finite

/-- The number is the integer, exactly. Zero may have a sign. -/
structure IsInteger (x : Double) (n : Int) : Prop where
  finite : x.isFinite = true
  units : x.units = n * unitsPerOne

section Integers

variable {x y : Double} {n : Int} {m : Nat}

theorem IsInteger.magnitude (integer : x.IsInteger n) : x.magnitude = n.natAbs * unitsPerOne := by
  have size := congrArg Int.natAbs integer.units
  rwa [Int.natAbs_mul, Int.natAbs_natCast, units_eq_withSign, natAbs_withSign] at size

theorem IsInteger.withSign (integer : x.IsInteger n) : withSign x.isNegative n.natAbs = n := by
  have units := integer.units
  rw [units_eq_withSign, integer.magnitude, withSign_mul] at units
  exact Int.eq_of_mul_eq_mul_right (Int.natCast_ne_zero.mpr (Nat.ne_of_gt unitsPerOne_pos)) units

theorem IsInteger.truncate (integer : x.IsInteger n) : x.truncate = n := by
  rw [truncate_eq_withSign, integer.magnitude, Nat.mul_div_cancel _ unitsPerOne_pos,
    integer.withSign]

theorem IsInteger.compare? {k : Int} (left : x.IsInteger n) (right : y.IsInteger k) :
    x.compare? y = some (compare n k) := by
  have positive : (0 : Int) < unitsPerOne := Int.natCast_pos.mpr unitsPerOne_pos
  have order : compare x.units y.units = compare n k := by
    rw [left.units, right.units]
    simp only [compare, compareOfLessAndEq, Int.mul_lt_mul_right positive,
      Int.mul_eq_mul_right_iff (Int.ne_of_gt positive)]
  have finite := left.finite
  have finite' := right.finite
  cases x with
  | finite =>
      cases y with
      | finite => exact congrArg some order
      | _ => cases finite'
  | _ => cases finite

/-! ## Numbers made of integers -/

theorem isInteger_of_magnitude (finite : x.isFinite = true) (signless : x.isNegative = false)
    (counted : x.magnitude = m * unitsPerOne) : x.IsInteger m := by
  refine ⟨finite, ?_⟩
  rw [units_eq_withSign, signless, counted]
  exact Int.natCast_mul m unitsPerOne

theorem isNegative_ofRank (negative : Bool) (rank : Nat) :
    (ofRank negative rank).isNegative = negative := by
  unfold ofRank
  split
  · rfl
  · rfl

theorem isInteger_zero (negative : Bool) : (zero negative).IsInteger 0 := by
  refine ⟨rfl, ?_⟩
  rw [Int.zero_mul]
  cases negative <;> rfl

/-- Whole numbers with no more bits than a significand has are represented exactly. -/
theorem isInteger_ofRatio (negative : Bool) {size : Nat} (small : size < 2 ^ 53) :
    (ofRatio negative size 1).IsInteger (withSign negative size) := by
  rcases Nat.eq_zero_or_pos size with rfl | positive
  · have nothing : ofRatio negative 0 1 = zero negative := rfl
    have none : withSign negative 0 = 0 := by cases negative <;> rfl
    rw [nothing, none]
    exact isInteger_zero negative
  · have counted := magnitude_ofRatio_one negative positive small
    have filled := Nat.mul_pos positive unitsPerOne_pos
    constructor
    · cases found : ofRatio negative size 1 with
      | finite => rfl
      | _ => exact absurd (counted.symm.trans (congrArg magnitude found)) (Nat.ne_of_gt filled)
    · have sign : (ofRatio negative size 1).isNegative = negative := isNegative_ofRank negative _
      rw [units_eq_withSign, sign, counted, withSign_mul]

private theorem isInteger_ofUnits (negative : Bool) {size : Nat} (small : size < 2 ^ 53) :
    (ofUnits negative (size * unitsPerOne)).IsInteger (withSign negative size) := by
  rw [ofUnits_mul]
  exact isInteger_ofRatio negative small

theorem isInteger_ofInt (small : n.natAbs < 2 ^ 53) : (ofInt n).IsInteger n := by
  have exact := isInteger_ofRatio (decide (n < 0)) small
  rwa [withSign_natAbs] at exact

/-! ## Operations -/

/-- A number has a fractional part only if its integer part has few bits. -/
theorem whole_or_small (negative : Bool) (exponent : Fin 2047) (fraction : Fin fractionCount) :
    unitsPerOne ∣ (Double.finite negative exponent fraction).magnitude ∨
      (Double.finite negative exponent fraction).magnitude / unitsPerOne < 2 ^ 53 := by
  obtain ⟨bits, units, count⟩ := unitsPerOne_eq
  have below := fraction_lt fraction
  rw [magnitude_finite, units]
  split
  · exact .inr (Nat.lt_of_le_of_lt (Nat.div_le_self _ _) (by omega))
  · by_cases large : bits ≤ exponent.val - 1
    · exact .inl (Nat.dvd_mul_left_of_dvd (Nat.pow_dvd_pow 2 large) _)
    · refine .inr (Nat.div_lt_of_lt_mul ?_)
      rw [Nat.mul_comm (2 ^ bits)]
      exact Nat.mul_lt_mul_of_lt_of_le (by omega)
        (Nat.pow_le_pow_right (by decide) (by omega)) (Nat.two_pow_pos _)

theorem isInteger_trunc (finite : x.isFinite = true) : x.trunc.IsInteger x.truncate := by
  cases x with
  | finite negative exponent fraction =>
      rw [truncate_eq_withSign]
      rcases whole_or_small negative exponent fraction with whole | small
      · rw [trunc, Nat.div_mul_cancel whole, ofUnits_magnitude]
        refine ⟨rfl, ?_⟩
        rw [units_eq_withSign, ← withSign_mul, Nat.div_mul_cancel whole]
      · exact isInteger_ofUnits negative small
  | _ => cases finite

theorem IsInteger.abs (integer : x.IsInteger n) : x.abs.IsInteger n.natAbs := by
  have magnitude := integer.magnitude
  have finite := integer.finite
  cases x with
  | finite negative exponent fraction =>
      exact ⟨rfl, (congrArg Nat.cast magnitude).trans (Int.natCast_mul _ _)⟩
  | _ => cases finite

theorem IsInteger.rem (dividend : x.IsInteger n) (divisor : y.IsInteger m) (positive : 0 < m)
    (small : m ≤ 2 ^ 53) : (x.rem y).IsInteger (n.tmod m) := by
  have size : x.magnitude % y.magnitude = n.natAbs % m * unitsPerOne := by
    rw [dividend.magnitude, divisor.magnitude, Int.natAbs_natCast, Nat.mul_mod_mul_right]
  have nonzero : y.magnitude ≠ 0 := by
    rw [divisor.magnitude, Int.natAbs_natCast]
    exact Nat.ne_of_gt (Nat.mul_pos positive unitsPerOne_pos)
  have rest : x.rem y = ofUnits x.isNegative (x.magnitude % y.magnitude) := by
    have finite := dividend.finite
    have finite' := divisor.finite
    cases x with
    | finite =>
        cases y with
        | finite => exact if_neg (mt beq_iff_eq.mp nonzero)
        | _ => cases finite'
    | _ => cases finite
  have below : n.natAbs % m < 2 ^ 53 := Nat.lt_of_lt_of_le (Nat.mod_lt _ positive) small
  rw [rest, size, ← dividend.withSign, withSign_tmod, dividend.withSign]
  exact isInteger_ofUnits x.isNegative below

theorem IsInteger.add {k : Int} (left : x.IsInteger n) (right : y.IsInteger k)
    (small : (n + k).natAbs < 2 ^ 53) : (x.add y).IsInteger (n + k) := by
  have positive : (0 : Int) < unitsPerOne := Int.natCast_pos.mpr unitsPerOne_pos
  have total : x.units + y.units = (n + k) * unitsPerOne := by
    rw [left.units, right.units, Int.add_mul]
  have none : (n + k) * (unitsPerOne : Int) = 0 ↔ n + k = 0 := by
    rw [Int.mul_eq_zero, or_iff_left (Int.ne_of_gt positive)]
  have below : (n + k) * (unitsPerOne : Int) < 0 ↔ n + k < 0 := by
    rw [← Int.mul_lt_mul_right positive (b := n + k), Int.zero_mul]
  have sum : x.add y = if n + k = 0 then zero (x.isNegative && y.isNegative)
      else ofUnits (decide (n + k < 0)) ((n + k).natAbs * unitsPerOne) := by
    have finite := left.finite
    have finite' := right.finite
    cases x with
    | finite =>
        cases y with
        | finite =>
            simp only [Double.add, total, none, below, Int.natAbs_mul, Int.natAbs_natCast]
        | _ => cases finite'
    | _ => cases finite
  rw [sum]
  split
  · rename_i none
    rw [none]
    exact isInteger_zero _
  · have exact := isInteger_ofUnits (decide (n + k < 0)) small
    rwa [withSign_natAbs] at exact

private theorem emod_eq_of_tmod (n : Int) {m : Nat} (positive : 0 < m) :
    n % m = if n.tmod m < 0 then n.tmod m + m else n.tmod m := by
  have divisor : (0 : Int) < m := Int.natCast_pos.mpr positive
  have above := Int.lt_tmod_of_pos n divisor
  have below := Int.tmod_lt_of_pos n divisor
  have same : n % m = n.tmod m % m := by
    conv_lhs => rw [← Int.tmod_add_mul_tdiv n m, Int.add_mul_emod_self_left]
  rw [same]
  split
  · rw [← Int.add_emod_right, Int.emod_eq_of_lt (by omega) (by omega)]
  · exact Int.emod_eq_of_lt (by omega) below

theorem IsInteger.euclideanRem (dividend : x.IsInteger n) (divisor : y.IsInteger m)
    (positive : 0 < m) (small : m ≤ 2 ^ 53) : (x.euclideanRem y).IsInteger (n % m) := by
  have rest := dividend.rem divisor positive small
  have order := rest.compare? (isInteger_zero false)
  have size := divisor.abs
  rw [Int.natAbs_natCast] at size
  have test : (some (compare (n.tmod m) 0) == some Ordering.lt) = true ↔ n.tmod m < 0 := by
    rw [beq_iff_eq, Option.some_inj, compare_lt_iff_lt]
  rw [emod_eq_of_tmod n positive]
  simp only [Double.euclideanRem, order, test]
  split
  · have above := Int.lt_tmod_of_pos n (Int.natCast_pos.mpr positive)
    exact rest.add size (by omega)
  · exact rest

theorem IsInteger.mul_eq {k : Nat} (left : x.IsInteger k) (right : y.IsInteger m)
    (alike : x.isNegative = y.isNegative) : x.mul y = ofRatio false (k * m) 1 := by
  have product : x.magnitude * y.magnitude = k * m * (unitsPerOne * unitsPerOne) := by
    rw [left.magnitude, right.magnitude, Int.natAbs_natCast, Int.natAbs_natCast,
      Nat.mul_mul_mul_comm]
  have same : (x.isNegative != y.isNegative) = false := by rw [alike, bne_self_eq_false]
  have once := ofRatio_mul_mul false (k * m) 1 (Nat.mul_pos unitsPerOne_pos unitsPerOne_pos)
  rw [Nat.one_mul] at once
  have finite := left.finite
  have finite' := right.finite
  cases x with
  | finite =>
      cases y with
      | finite => rw [← once, ← product, mul, same]
      | _ => cases finite'
  | _ => cases finite

theorem IsInteger.div_eq {k : Nat} (left : x.IsInteger k) (right : y.IsInteger m)
    (alike : x.isNegative = y.isNegative) (positive : 0 < m) : x.div y = ofRatio false k m := by
  have dividend := left.magnitude
  have divisor := right.magnitude
  rw [Int.natAbs_natCast] at dividend divisor
  have nonzero : ¬ (y.magnitude == 0) = true := by
    rw [divisor, beq_iff_eq]
    exact Nat.ne_of_gt (Nat.mul_pos positive unitsPerOne_pos)
  have same : (x.isNegative != y.isNegative) = false := by rw [alike, bne_self_eq_false]
  have once := ofRatio_mul_mul false k m unitsPerOne_pos
  have finite := left.finite
  have finite' := right.finite
  cases x with
  | finite =>
      cases y with
      | finite => rw [← once, ← dividend, ← divisor, div, same, isZero, if_neg nonzero]
      | _ => cases finite'
  | _ => cases finite

/-! ## Range -/

theorem ofRatio_zero (negative : Bool) (d : Nat) : ofRatio negative 0 d = zero negative := by
  have none (shifted : Nat) : roundHalfEven 0 shifted = 0 := by
    rw [roundHalfEven, Nat.zero_div, Nat.zero_mod]
    cases shifted <;> rfl
  simp only [ofRatio, Nat.zero_mul, Nat.zero_div, none]
  rfl

theorem roundHalfEven_le (n d : Nat) : roundHalfEven n d ≤ n / d + 1 := by
  simp only [roundHalfEven]
  split
  · exact Nat.le_succ _
  · exact Nat.le_refl _

/-- A natural number of no more than 1023 bits is in range. -/
theorem isFinite_ofRatio_one (negative : Bool) {n : Nat} (narrow : n.log2 < 1023) :
    (ofRatio negative n 1).isFinite = true := by
  obtain ⟨bits, units, count⟩ := unitsPerOne_eq
  rcases Nat.eq_zero_or_pos n with rfl | positive
  · have nothing : ofRatio negative 0 1 = zero negative := rfl
    rw [nothing]
    rfl
  · have shift : (n * unitsPerOne / 1).log2 - 52 = n.log2 + bits - 52 := by
      rw [Nat.div_one, units, log2_mul_two_pow positive]
    have below : n * unitsPerOne < 2 ^ (n.log2 + bits - 52) * 2 ^ 53 := by
      have together : n.log2 + bits - 52 + 53 = n.log2 + 1 + bits := by omega
      rw [units, ← Nat.pow_add, together, Nat.pow_add _ _ bits]
      exact Nat.mul_lt_mul_of_pos_right ((Nat.log2_lt (Nat.ne_of_gt positive)).mp
        (Nat.lt_succ_self _)) (Nat.two_pow_pos bits)
    have significand := Nat.div_lt_of_lt_mul below
    have rounded := roundHalfEven_le (n * unitsPerOne) (2 ^ (n.log2 + bits - 52))
    have bounded : (n.log2 + bits - 52) * fractionCount +
        roundHalfEven (n * unitsPerOne) (2 ^ (n.log2 + bits - 52)) < 2047 * fractionCount := by
      rw [fractionCount_eq]
      omega
    simp only [ofRatio, shift, Nat.one_shiftLeft]
    rw [ofRank, dif_pos bounded]
    rfl

end Integers

end ChatTemplate.Double
