import ChatTemplate.Proofs.Double.Whole

/-!
Rounding depends on the value of a ratio or decimal only, and every number is what its own exact
value rounds to. Hence the shortest decimal of a number rounds to the number.
-/

set_option autoImplicit false

namespace ChatTemplate.Double

/-! ## Signs -/

private theorem ofRank_true (rank : Nat) : ofRank true rank = (ofRank false rank).neg := by
  unfold ofRank
  split
  · rfl
  · rfl

private theorem ofRatio_true (n d : Nat) : ofRatio true n d = (ofRatio false n d).neg :=
  ofRank_true _

theorem ofDecimal_true (coefficient : Nat) (exponent : Int) :
    ofDecimal true coefficient exponent = (ofDecimal false coefficient exponent).neg := by
  simp only [ofDecimal]
  split
  · rfl
  · split
    · rfl
    · split
      · exact ofRatio_true _ _
      · exact ofRatio_true _ _

/-! ## Scaling -/

theorem ofRatio_mul_mul (negative : Bool) (n d : Nat) {scale : Nat} (positive : 0 < scale) :
    ofRatio negative (n * scale) (d * scale) = ofRatio negative n d := by
  have scaled : n * scale * unitsPerOne = n * unitsPerOne * scale := Nat.mul_right_comm _ _ _
  have shifted (shift : Nat) : (d * scale) <<< shift = (d <<< shift) * scale := by
    rw [Nat.shiftLeft_eq, Nat.shiftLeft_eq, Nat.mul_right_comm]
  simp only [ofRatio, scaled, shifted, Nat.mul_div_mul_right _ _ positive,
    roundHalfEven_mul_mul _ _ positive]

theorem powerOfTen_add (first second : Nat) :
    powerOfTen (first + second) = powerOfTen first * powerOfTen second := by
  simp only [powerOfTen, Nat.pow_eq, Nat.pow_add]

theorem powerOfTen_pos (exponent : Nat) : 0 < powerOfTen exponent :=
  Nat.pow_pos (by decide)

/-- A decimal in the range of numbers as a ratio of natural numbers. -/
theorem ofDecimal_eq_ofRatio {coefficient : Nat} {exponent : Int} (negative : Bool)
    (positive : 0 < coefficient) (low : -323 ≤ exponent + (Nat.repr coefficient).length)
    (high : exponent + (Nat.repr coefficient).length ≤ 309) :
    ofDecimal negative coefficient exponent =
      ofRatio negative (coefficient * powerOfTen exponent.toNat) (powerOfTen (-exponent).toNat) := by
  have inRange : ¬ (coefficient = 0 ∨ exponent + ((Nat.repr coefficient).length : Int) < -323) := by
    omega
  simp only [ofDecimal, Bool.or_eq_true, decide_eq_true_eq, inRange, if_false]
  rw [if_neg (by omega)]
  split
  · have none : exponent.toNat = 0 := by omega
    have one : coefficient * powerOfTen 0 = coefficient := Nat.mul_one coefficient
    rw [none, one]
  · have none : (-exponent).toNat = 0 := by omega
    rw [none]
    rfl

private theorem length_repr_mul_powerOfTen {coefficient : Nat} (positive : 0 < coefficient)
    (count : Nat) :
    (Nat.repr (coefficient * powerOfTen count)).length = (Nat.repr coefficient).length + count := by
  have digits := congrArg List.length (repr_mul_pow positive count)
  rwa [List.length_append, List.length_replicate, String.length_toList, String.length_toList]
    at digits

/-- Zeros at the end of the coefficient can be taken into the exponent. -/
theorem ofDecimal_mul_powerOfTen (negative : Bool) {coefficient : Nat} (positive : 0 < coefficient)
    (count : Nat) (exponent : Int) :
    ofDecimal negative (coefficient * powerOfTen count) exponent =
      ofDecimal negative coefficient (exponent + count) := by
  have length := length_repr_mul_powerOfTen positive count
  have filled : 0 < coefficient * powerOfTen count := Nat.mul_pos positive (powerOfTen_pos count)
  have point : exponent + (((Nat.repr coefficient).length + count : Nat) : Int) =
      exponent + count + (Nat.repr coefficient).length := by omega
  by_cases inRange : -323 ≤ exponent + count + (Nat.repr coefficient).length ∧
      exponent + count + (Nat.repr coefficient).length ≤ 309
  · rw [ofDecimal_eq_ofRatio negative positive inRange.1 inRange.2,
      ofDecimal_eq_ofRatio negative filled (by rw [length]; omega) (by rw [length]; omega)]
    -- Both ratios are scaled to the same denominator.
    have denominators : (-exponent).toNat + (exponent + count).toNat + 0 =
        (-(exponent + count)).toNat + (count + exponent.toNat) := by omega
    rw [← ofRatio_mul_mul negative (coefficient * powerOfTen count * powerOfTen exponent.toNat) _
        (powerOfTen_pos (-(exponent + count)).toNat),
      ← ofRatio_mul_mul negative (coefficient * powerOfTen (exponent + count).toNat) _
        (powerOfTen_pos (-exponent).toNat)]
    congr 1
    · rw [Nat.mul_assoc, Nat.mul_assoc, Nat.mul_assoc, ← powerOfTen_add, ← powerOfTen_add,
        ← powerOfTen_add]
      congr 2
      omega
    · exact Nat.mul_comm _ _
  · have zero : ¬ coefficient = 0 := Nat.ne_of_gt positive
    have zero' : ¬ coefficient * powerOfTen count = 0 := Nat.ne_of_gt filled
    simp only [ofDecimal, length, point, zero, zero', decide_false, Bool.false_or]
    split
    · rfl
    · rename_i high
      rw [decide_eq_true_eq] at high
      rw [if_pos (by omega), if_pos (by omega)]

/-! ## Numbers and their exact values -/

private theorem ofRank_fields (negative : Bool) (exponent : Fin 2047)
    (fraction : Fin fractionCount) :
    ofRank negative (exponent.val * fractionCount + fraction.val) =
      .finite negative exponent fraction := by
  have below := fraction.isLt
  have most : exponent.val * fractionCount ≤ 2046 * fractionCount :=
    Nat.mul_le_mul_right _ (Nat.le_of_lt_succ exponent.isLt)
  have bounded : exponent.val * fractionCount + fraction.val < 2047 * fractionCount := by omega
  have high : (exponent.val * fractionCount + fraction.val) / fractionCount = exponent.val := by
    rw [Nat.add_comm, Nat.add_mul_div_right _ _ (by decide), Nat.div_eq_of_lt below, Nat.zero_add]
  have low : (exponent.val * fractionCount + fraction.val) % fractionCount = fraction.val := by
    rw [Nat.add_comm, Nat.add_mul_mod_self_right, Nat.mod_eq_of_lt below]
  rw [ofRank, dif_pos bounded]
  simp only [high, low]

private theorem ofUnits_eq (negative : Bool) (n : Nat) : ofUnits negative n =
    ofRank negative ((n.log2 - 52) * fractionCount + roundHalfEven n (2 ^ (n.log2 - 52))) := by
  simp only [ofUnits, ofRatio, Nat.mul_div_cancel _ unitsPerOne_pos]
  rw [Nat.shiftLeft_eq, Nat.mul_comm unitsPerOne, roundHalfEven_mul_mul _ _ unitsPerOne_pos]

theorem magnitude_finite (negative : Bool) (exponent : Fin 2047) (fraction : Fin fractionCount) :
    (Double.finite negative exponent fraction).magnitude =
      if exponent.val = 0 then fraction.val
      else (2 ^ 52 + fraction.val) * 2 ^ (exponent.val - 1) := by
  rw [magnitude, Nat.shiftLeft_eq]
  rfl

theorem fraction_lt (fraction : Fin fractionCount) : fraction.val < 2 ^ 52 :=
  Nat.lt_of_lt_of_eq fraction.isLt fractionCount_eq

/-- Every finite number is the one nearest to its own magnitude. -/
theorem ofUnits_magnitude (negative : Bool) (exponent : Fin 2047) (fraction : Fin fractionCount) :
    ofUnits negative (Double.finite negative exponent fraction).magnitude =
      .finite negative exponent fraction := by
  have below := fraction_lt fraction
  rw [ofUnits_eq, magnitude_finite, ← ofRank_fields]
  generalize fraction.val = fraction at below
  by_cases subnormal : exponent.val = 0
  · have shift : fraction.log2 - 52 = 0 := by
      by_cases zero : fraction = 0
      · rw [zero]
        rfl
      · have width := (Nat.log2_lt zero).mpr below
        omega
    have rounded := roundHalfEven_mul fraction Nat.one_pos
    rw [Nat.mul_one] at rounded
    rw [if_pos subnormal, shift, subnormal, Nat.pow_zero, rounded]
  · have significand : (2 ^ 52 + fraction).log2 = 52 := by
      rw [Nat.log2_eq_iff (by omega)]
      omega
    have width : ((2 ^ 52 + fraction) * 2 ^ (exponent.val - 1)).log2 - 52 = exponent.val - 1 := by
      rw [log2_mul_two_pow (by omega), significand]
      omega
    obtain ⟨before, last⟩ := Nat.exists_eq_succ_of_ne_zero subnormal
    rw [if_neg subnormal, width, roundHalfEven_mul _ (Nat.two_pow_pos _), last, Nat.succ_sub_one,
      Nat.succ_mul, Nat.add_assoc]
    rfl

/-- The number with zero as it is without a sign. -/
def unsignedZero (x : Double) : Double :=
  if x.isZero then zero false else x

theorem unsignedZero_of_nonzero {x : Double} (nonzero : x.isZero = false) : x.unsignedZero = x := by
  simp [unsignedZero, nonzero]

theorem ofInt_signed (negative : Bool) {n : Nat} (positive : 0 < n) :
    ofInt (if negative then -(n : Int) else n) = ofRatio negative n 1 := by
  cases negative with
  | false =>
      have signless : ¬ (n : Int) < 0 := Int.not_lt.mpr (Int.natCast_nonneg n)
      simp [ofInt, signless]
  | true => simp [ofInt, positive]

/-- A whole number is the one nearest to the integer that it is. -/
theorem ofInt_truncate {x : Double} (whole : x.isWhole = true) :
    ofInt x.truncate = x.unsignedZero := by
  cases x with
  | nan => cases whole
  | infinite => cases whole
  | finite negative exponent fraction =>
      have exact := ofUnits_magnitude negative exponent fraction
      have divides : (Double.finite negative exponent fraction).magnitude % unitsPerOne = 0 :=
        beq_iff_eq.mp whole
      obtain ⟨n, counted⟩ := Nat.dvd_of_mod_eq_zero divides
      rw [Nat.mul_comm] at counted
      rw [counted, ofUnits_mul] at exact
      simp only [truncate, isNegative, unsignedZero, isZero, counted,
        Nat.mul_div_cancel n unitsPerOne_pos]
      by_cases none : n = 0
      · have nothing : (n * unitsPerOne == 0) = true := by simp [none]
        rw [if_pos nothing, none]
        cases negative with
        | false => rfl
        | true => rfl
      · have positive : 0 < n := Nat.pos_of_ne_zero none
        have nonzero : n * unitsPerOne ≠ 0 := Nat.ne_of_gt (Nat.mul_pos positive unitsPerOne_pos)
        rw [ofInt_signed negative positive, exact, if_neg (mt beq_iff_eq.mp nonzero)]

private theorem magnitude_lt (negative : Bool) (exponent : Fin 2047) (fraction : Fin fractionCount)
    {bits : Nat} (wide : bits = 1074) :
    (Double.finite negative exponent fraction).magnitude < 2 ^ (1024 + bits) := by
  have below := fraction_lt fraction
  have last := exponent.isLt
  rw [magnitude_finite]
  split
  · exact Nat.lt_trans below (Nat.pow_lt_pow_of_lt (by decide) (by omega))
  · calc (2 ^ 52 + fraction.val) * 2 ^ (exponent.val - 1)
        < 2 ^ 53 * 2 ^ (exponent.val - 1) :=
          Nat.mul_lt_mul_of_pos_right (by omega) (Nat.two_pow_pos _)
      _ = 2 ^ (53 + (exponent.val - 1)) := (Nat.pow_add _ _ _).symm
      _ ≤ 2 ^ (1024 + bits) := Nat.pow_le_pow_right (by decide) (by omega)

/-! ## Shortest decimals -/

private theorem five_pow_mul_two_pow (bits : Nat) : 5 ^ bits * 2 ^ bits = 10 ^ bits :=
  (Nat.mul_pow 5 2 bits).symm

theorem length_repr_exact {magnitude bits extra least most : Nat} (positive : 0 < magnitude)
    (below : magnitude < 2 ^ (extra + bits)) (some : 0 < least) (five : 10 ^ least ≤ 5 ^ bits)
    (two : 2 ^ extra ≤ 10 ^ most) (wide : 0 < most + bits) :
    least < (Nat.repr (magnitude * 5 ^ bits)).length ∧
      (Nat.repr (magnitude * 5 ^ bits)).length ≤ most + bits := by
  constructor
  · refine Nat.lt_of_not_le fun short => ?_
    have small := (Nat.length_repr_le_iff some).mp short
    have large := Nat.le_trans five (Nat.le_mul_of_pos_left (5 ^ bits) positive)
    exact Nat.lt_irrefl _ (Nat.lt_of_lt_of_le small large)
  · refine (Nat.length_repr_le_iff wide).mpr ?_
    calc magnitude * 5 ^ bits < 2 ^ (extra + bits) * 5 ^ bits :=
          Nat.mul_lt_mul_of_pos_right below (Nat.pow_pos (by decide))
      _ = 2 ^ extra * 10 ^ bits := by
          rw [Nat.pow_add, Nat.mul_assoc, Nat.mul_comm (2 ^ bits), five_pow_mul_two_pow]
      _ ≤ 10 ^ most * 10 ^ bits := Nat.mul_le_mul_right _ two
      _ = 10 ^ (most + bits) := (Nat.pow_add _ _ _).symm

/-- All digits of a number together are the number. -/
theorem ofDecimal_exactDecimal (negative : Bool) (exponent : Fin 2047)
    (fraction : Fin fractionCount)
    (nonzero : (Double.finite negative exponent fraction).magnitude ≠ 0) :
    let magnitude := (Double.finite negative exponent fraction).magnitude
    ofDecimal false (exactDecimal magnitude).coefficient (exactDecimal magnitude).exponent =
      ofUnits false magnitude := by
  intro magnitude
  obtain ⟨bits, units, wide⟩ := unitsPerOne_eq
  have positive : 0 < magnitude := Nat.pos_of_ne_zero nonzero
  have scale : 0 < Nat.pow 5 bits := Nat.pow_pos (by decide)
  have exact : exactDecimal magnitude = ⟨magnitude * Nat.pow 5 bits, -(bits : Int)⟩ := by
    have place : -(bits : Int) = -1074 := by omega
    rw [place, exactDecimal, ← wide]
  have five : 10 ^ 750 ≤ 5 ^ bits := by
    subst wide
    decide +kernel
  obtain ⟨long, short⟩ : 750 < (Nat.repr (magnitude * Nat.pow 5 bits)).length ∧
      (Nat.repr (magnitude * Nat.pow 5 bits)).length ≤ 309 + bits :=
    length_repr_exact positive (magnitude_lt negative exponent fraction wide) (by decide) five
      (by decide +kernel) (by omega)
  have whole : (-(bits : Int)).toNat = 0 := by omega
  have one : magnitude * Nat.pow 5 bits * powerOfTen 0 = magnitude * Nat.pow 5 bits :=
    Nat.mul_one _
  have denominator : powerOfTen bits = 2 ^ bits * Nat.pow 5 bits :=
    (five_pow_mul_two_pow bits).symm.trans (Nat.mul_comm _ _)
  have range := @ofDecimal_eq_ofRatio (magnitude * Nat.pow 5 bits) (-(bits : Int)) false
    (Nat.mul_pos positive scale) (by omega) (by omega)
  rw [exact, range, whole, Int.neg_neg, Int.toNat_natCast, one, denominator, ofUnits, units]
  exact ofRatio_mul_mul false magnitude (2 ^ bits) scale

/-- The shortest decimal of a number rounds to the number. -/
theorem ofDecimal_shortest (tie : Tie) (negative : Bool) (exponent : Fin 2047)
    (fraction : Fin fractionCount)
    (nonzero : (Double.finite negative exponent fraction).magnitude ≠ 0) :
    let decimal := shortest tie (Double.finite negative exponent fraction).magnitude
    0 < decimal.coefficient ∧ ofDecimal negative decimal.coefficient decimal.exponent =
      .finite negative exponent fraction := by
  intro decimal
  have reads : ofDecimal false decimal.coefficient decimal.exponent =
      .finite false exponent fraction := by
    have same : (Double.finite negative exponent fraction).magnitude =
      (Double.finite false exponent fraction).magnitude := rfl
    rw [← ofUnits_magnitude false, ← same]
    change ofDecimal false (shortest tie _).coefficient (shortest tie _).exponent = _
    rw [shortest]
    cases searched : (List.range' 1 17).findSome? (shortestOf? tie _) with
    | none => exact ofDecimal_exactDecimal negative exponent fraction nonzero
    | some found =>
        obtain ⟨count, -, found⟩ := List.exists_of_findSome?_eq_some searched
        obtain ⟨place, -, reads⟩ := reads_of_shortestOf? found
        rw [Option.getD_some, place]
        exact reads
  refine ⟨Nat.pos_of_ne_zero fun none => ?_, ?_⟩
  · rw [none] at reads
    have zero : ofDecimal false 0 decimal.exponent = zero false := rfl
    rw [zero] at reads
    cases reads
    exact nonzero rfl
  · cases negative with
    | false => exact reads
    | true => rw [ofDecimal_true, reads]; rfl

end ChatTemplate.Double
