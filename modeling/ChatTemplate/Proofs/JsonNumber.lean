import ChatTemplate.Json.Numeral
import ChatTemplate.Proofs.Double.Integral
import ChatTemplate.Proofs.Double.Spelling

/-!
Numbers in JSON text. A whole number that fits 64 bits is the integer that is written. A number with
a point or an exponent is the nearest double-precision number when its digits have no more bits than
a significand and its power of ten is small: then both operands of the one operation on it are
exact, and nothing else rounds. Beyond that a neighbour may be read.
-/

set_option autoImplicit false

namespace ChatTemplate.Json

open Numeral (natOfDigits natOfDigits_concat natOfDigits_le_append)

/-! ## Powers of ten -/

theorem tenTo_exact {exponent : Nat} (small : exponent ≤ 22) :
    (tenTo exponent).IsInteger (10 ^ exponent : Nat) ∧ (tenTo exponent).isNegative = false := by
  have exact : ∀ exponent < 23, (tenTo exponent).isFinite = true ∧
      (tenTo exponent).isNegative = false ∧
      (tenTo exponent).magnitude = 10 ^ exponent * Double.unitsPerOne := by
    decide +kernel
  obtain ⟨finite, signless, counted⟩ := exact exponent (by omega)
  exact ⟨Double.isInteger_of_magnitude finite signless counted, signless⟩

/-- A decimal with few digits and a small power of ten as a ratio of natural numbers. -/
private theorem ofDecimal_short {significand : Nat} {exponent : Int} (short : significand < 2 ^ 53)
    (small : exponent.natAbs ≤ 22) : Double.ofDecimal false significand exponent =
      Double.ofRatio false (significand * 10 ^ exponent.toNat) (10 ^ (-exponent).toNat) := by
  rcases Nat.eq_zero_or_pos significand with rfl | positive
  · rw [Nat.zero_mul, Double.ofRatio_zero]
    rfl
  · have digits : (Nat.repr significand).length ≤ 16 :=
      (Nat.length_repr_le_iff (by decide)).mpr (Nat.lt_trans short (by decide))
    exact Double.ofDecimal_eq_ofRatio false positive (by omega) (by omega)

private theorem narrow_product {significand power : Nat} (short : significand < 2 ^ 53)
    (small : power ≤ 22) : (significand * 10 ^ power).log2 < 1023 := by
  have below : significand * 10 ^ power < 2 ^ 127 :=
    calc significand * 10 ^ power ≤ significand * 10 ^ 22 :=
          Nat.mul_le_mul_left _ (Nat.pow_le_pow_right (by decide) small)
      _ < 2 ^ 127 := by omega
  rcases Nat.eq_zero_or_pos (significand * 10 ^ power) with none | positive
  · rw [none]
    decide
  · exact Nat.lt_trans ((Nat.log2_lt (Nat.ne_of_gt positive)).mpr below) (by decide)

private theorem ofDecimal_signed (negative : Bool) (coefficient : Nat) (exponent : Int) :
    (if negative then (Double.ofDecimal false coefficient exponent).neg
      else Double.ofDecimal false coefficient exponent) =
      Double.ofDecimal negative coefficient exponent := by
  cases negative with
  | false => exact if_neg Bool.false_ne_true
  | true => exact (if_pos rfl).trans (Double.ofDecimal_true coefficient exponent).symm

/-- Scaling rounds once, as the significand and the power of ten are exact. -/
private theorem scale?_short {significand : Nat} {exponent : Int} (short : significand < 2 ^ 53)
    (small : exponent.natAbs ≤ 22) :
    scale? (Double.ofNat significand) exponent =
      some (Double.ofDecimal false significand exponent) := by
  obtain ⟨power, signless⟩ := tenTo_exact small
  have exact : (Double.ofNat significand).IsInteger significand :=
    Double.isInteger_ofRatio false short
  have alike : (Double.ofNat significand).isNegative = (tenTo exponent.natAbs).isNegative :=
    (Double.isNegative_ofRank false _).trans signless.symm
  have inRange : exponent.natAbs ≤ greatestPower := Nat.le_trans small (by decide)
  rw [ofDecimal_short short small, scale?]
  by_cases negative : exponent < 0
  · have whole : exponent.toNat = 0 := by omega
    have places : (-exponent).toNat = exponent.natAbs := by omega
    rw [if_pos negative, shrink, if_pos inRange,
      exact.div_eq power alike (Nat.pow_pos (by decide)), whole, places, Nat.pow_zero, Nat.mul_one]
  · have whole : exponent.toNat = exponent.natAbs := by omega
    have places : (-exponent).toNat = 0 := by omega
    have product := exact.mul_eq power alike
    have finite : (Double.ofRatio false (significand * 10 ^ exponent.natAbs) 1).isFinite = true :=
      Double.isFinite_ofRatio_one false (narrow_product short small)
    rw [if_neg negative, if_pos (by omega), whole, places, product, if_pos finite, Nat.pow_zero]

-- A longer significand is rounded before the division rounds again.
example : scale? (Double.ofNat 31245270191439438) (-15) ≠
    some (Double.ofDecimal false 31245270191439438 (-15)) := by
  decide +kernel

/-! ## Digits -/

/-- Digits that fit 64 bits together are all gathered. -/
theorem gather_natOfDigits {before digits : List Char}
    (fits : natOfDigits (before ++ digits) < UInt64.size) :
    gather (natOfDigits before) digits = (natOfDigits (before ++ digits), []) := by
  induction digits generalizing before with
  | nil => rw [gather, List.append_nil]
  | cons first rest ih =>
      have together : before ++ first :: rest = before ++ [first] ++ rest := by simp
      rw [together] at fits ⊢
      have longer := natOfDigits_concat before first
      have next := Nat.lt_of_le_of_lt (natOfDigits_le_append _ rest) fits
      rw [longer] at next
      rw [gather, if_pos next, ← longer, ih fits]

/-! ## Numbers -/

section Numbers

variable {numeral : Numeral}

private theorem gather_whole {digits : List Char} (fits : natOfDigits digits < UInt64.size) :
    gather 0 digits = (natOfDigits digits, []) :=
  @gather_natOfDigits [] digits fits

/-- A whole number that fits 64 bits is read as it is written. -/
theorem ofNumeral?_natural (integer : numeral.isInteger = true) (unsigned : numeral.sign ≠ .minus)
    (fits : natOfDigits numeral.whole < UInt64.size) :
    ofNumeral? numeral = some (.integer (natOfDigits numeral.whole)) := by
  have signless : (numeral.sign == .minus) = false := beq_false_of_ne unsigned
  simp [ofNumeral?, gather_whole fits, integer, signless]

/-- A number below zero that fits a signed 64-bit integer is read as it is written. -/
theorem ofNumeral?_negative (integer : numeral.isInteger = true) (minus : numeral.sign = .minus)
    (positive : 0 < natOfDigits numeral.whole)
    (fits : natOfDigits numeral.whole ≤ UInt64.size / 2) :
    ofNumeral? numeral = some (.integer (-(natOfDigits numeral.whole))) := by
  have gathered := gather_whole (Nat.lt_of_le_of_lt fits (by decide))
  simp [ofNumeral?, gathered, integer, minus, positive, fits]

/-- A number with few digits and a small power of ten is the one nearest to what is written. -/
theorem ofNumeral?_short (pointed : numeral.isInteger = false)
    (short : natOfDigits (numeral.whole ++ numeral.fraction.getD []) < 2 ^ 53)
    (small : (numeral.exponentValue - (numeral.fraction.getD []).length).natAbs ≤ 22) :
    ofNumeral? numeral = some (.float numeral.toDouble) := by
  have fits := Nat.lt_trans short (by decide : 2 ^ 53 < UInt64.size)
  have whole := gather_whole (Nat.lt_of_le_of_lt (natOfDigits_le_append numeral.whole _) fits)
  have both := gather_natOfDigits fits
  have scaled := scale?_short short small
  simp only [ofNumeral?, whole, both, pointed, List.length_nil, Int.natCast_zero, Int.add_zero,
    Nat.sub_zero, scaled, Option.map_some, Bool.false_and, Bool.false_eq_true, if_false,
    ofDecimal_signed]
  rfl

end Numbers

end ChatTemplate.Json
