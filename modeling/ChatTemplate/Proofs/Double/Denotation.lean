import ChatTemplate.Proofs.Double.Exact
import ChatTemplate.Proofs.Double.Spelling
import Mathlib.Algebra.Field.Rat
import Mathlib.Tactic.FieldSimp
import Mathlib.Tactic.NormNum
import Mathlib.Tactic.Ring

/-!
The exact value that a numeral denotes. Each form of the text of a number denotes the number's digits
behind the point, shifted to the place of the point; and what is read of a numeral depends on the
value that it denotes only.
-/

set_option autoImplicit false

namespace ChatTemplate

def fractionValue (digits : List Char) : ℚ :=
  digits.foldr (fun digit rest => (((digit.toNat - 48 : Nat) : ℚ) + rest) / 10) 0

namespace Numeral

/-- The exact value that a numeral denotes, its sign aside. -/
def size (numeral : Numeral) : ℚ :=
  (natOfDigits numeral.whole + fractionValue (numeral.fraction.getD [])) *
    10 ^ numeral.exponentValue

/-- The exact value that a numeral denotes. -/
def value (numeral : Numeral) : ℚ :=
  if numeral.sign = .minus then -numeral.size else numeral.size

private theorem natOfDigits_add_fractionValue (whole fraction : List Char) :
    (natOfDigits whole : ℚ) + fractionValue fraction =
      fractionValue (whole ++ fraction) * 10 ^ whole.length := by
  induction whole with
  | nil =>
      have nothing : natOfDigits [] = 0 := rfl
      simp [nothing]
  | cons first rest ih =>
      have unfolded : fractionValue (first :: rest ++ fraction) =
          (((first.toNat - 48 : Nat) : ℚ) + fractionValue (rest ++ fraction)) / 10 := rfl
      rw [natOfDigits_cons, unfolded, List.length_cons, pow_succ]
      push_cast
      rw [add_assoc, ih]
      ring

private theorem fractionValue_nil : fractionValue [] = 0 :=
  rfl

theorem natOfDigits_eq_fractionValue (digits : List Char) :
    (natOfDigits digits : ℚ) = fractionValue digits * 10 ^ digits.length := by
  have whole := natOfDigits_add_fractionValue digits []
  rwa [fractionValue_nil, add_zero, List.append_nil] at whole

private theorem fractionValue_zeros (count : Nat) :
    fractionValue (List.replicate count '0') = 0 := by
  induction count with
  | zero => rfl
  | succ count ih =>
      have unfolded : fractionValue (List.replicate (count + 1) '0') =
          (((48 - 48 : Nat) : ℚ) + fractionValue (List.replicate count '0')) / 10 := rfl
      rw [unfolded, ih]
      norm_num

theorem fractionValue_append_zeros (digits : List Char) (count : Nat) :
    fractionValue (digits ++ List.replicate count '0') = fractionValue digits := by
  induction digits with
  | nil => exact fractionValue_zeros count
  | cons first rest ih => exact congrArg (fun value => (_ + value) / 10) ih

private theorem fractionValue_zeros_append (count : Nat) (digits : List Char) :
    fractionValue (List.replicate count '0' ++ digits) * 10 ^ count = fractionValue digits := by
  induction count with
  | zero => simp
  | succ count ih =>
      have unfolded : fractionValue (List.replicate (count + 1) '0' ++ digits) =
          (((48 - 48 : Nat) : ℚ) + fractionValue (List.replicate count '0' ++ digits)) / 10 := rfl
      rw [← ih, unfolded, pow_succ]
      norm_num
      ring

private theorem size_eq (numeral : Numeral) :
    numeral.size = fractionValue (numeral.whole ++ numeral.fraction.getD []) *
      10 ^ ((numeral.whole.length : Int) + numeral.exponentValue) := by
  rw [size, natOfDigits_add_fractionValue, zpow_add₀ (by norm_num), zpow_natCast, mul_assoc]

private theorem exponentValue_parts (sign : Sign) (whole : List Char)
    (fraction : Option (List Char)) (exponent : Int) :
    exponentValue ⟨sign, whole, fraction, some (Layout.exponentParts exponent)⟩ = exponent := by
  have digits := natOfDigits_repr exponent.natAbs
  rw [exponentValue, Layout.exponentParts]
  by_cases negative : exponent < 0
  · simp only [negative, if_true, digits]
    omega
  · simp only [negative, if_false, digits]
    omega

private theorem exists_zeros_wholeFraction (layout : Layout) :
    ∃ count, layout.wholeFraction.getD [] = List.replicate count '0' := by
  rw [Layout.wholeFraction]
  split
  · exact ⟨0, rfl⟩
  · exact ⟨1, rfl⟩

/-- In each of its forms a number has the size of its digits with the point at its place. -/
theorem size_of_form {layout : Layout} {negative : Bool} {digits : List Char} {point : Int}
    {numeral : Numeral} (form : Layout.Form layout negative digits point numeral)
    (filled : digits ≠ []) : numeral.size = fractionValue digits * 10 ^ point := by
  rw [size_eq]
  cases form with
  | padded inside whole =>
      obtain ⟨count, zeros⟩ := exists_zeros_wholeFraction layout
      have place : ((digits ++ List.replicate (point - digits.length).toNat '0').length : Int) + 0 =
          point := by
        rw [List.length_append, List.length_replicate]
        omega
      rw [zeros, fractionValue_append_zeros, fractionValue_append_zeros]
      exact congrArg (fun exponent : Int => fractionValue digits * 10 ^ exponent) place
  | between inside positive short =>
      have place : ((digits.take point.toNat).length : Int) + 0 = point := by
        rw [List.length_take]
        omega
      rw [Option.getD_some, List.take_append_drop]
      exact congrArg (fun exponent : Int => fractionValue digits * 10 ^ exponent) place
  | before inside front =>
      have zeros := fractionValue_zeros_append ((-point).toNat + 1) digits
      have place : (1 : Int) = (((-point).toNat + 1 : Nat) : Int) + point := by omega
      change fractionValue (List.replicate ((-point).toNat + 1) '0' ++ digits) *
        10 ^ ((1 : Int) + 0) = _
      rw [add_zero, place, zpow_add₀ (by norm_num), zpow_natCast, ← mul_assoc, zeros]
  | scientific =>
      have place : ((digits.take 1).length : Int) + (point - 1) = point := by
        have some := List.length_pos_iff.mpr filled
        rw [List.length_take]
        omega
      have together : digits.take 1 ++
          (if (digits.drop 1).isEmpty then none else some (digits.drop 1)).getD [] = digits := by
        split
        · rename_i empty
          rw [List.isEmpty_iff] at empty
          rw [Option.getD_none, ← empty, List.take_append_drop]
        · rw [Option.getD_some, List.take_append_drop]
      rw [exponentValue_parts, together, place]

end Numeral

/-! ## What is read -/

theorem Double.ofDecimal_zero (negative : Bool) (exponent : Int) :
    ofDecimal negative 0 exponent = zero negative :=
  rfl

theorem Double.eq_mul_powerOfTen {coefficient coefficient' count : Nat} {exponent : Int}
    (same : (coefficient : ℚ) * 10 ^ exponent = coefficient' * 10 ^ (exponent + count)) :
    coefficient = coefficient' * powerOfTen count := by
  have nonzero : (10 : ℚ) ^ exponent ≠ 0 := zpow_ne_zero _ (by norm_num)
  have counted : (coefficient : ℚ) * 10 ^ exponent =
      ((coefficient' * powerOfTen count : Nat) : ℚ) * 10 ^ exponent := by
    rw [same, zpow_add₀ (by norm_num), zpow_natCast, powerOfTen, Nat.pow_eq]
    push_cast
    ring
  exact_mod_cast mul_right_cancel₀ nonzero counted

theorem Double.ofDecimal_congr (negative : Bool) {coefficient coefficient' : Nat}
    {exponent exponent' : Int} (ordered : exponent ≤ exponent')
    (same : (coefficient : ℚ) * 10 ^ exponent = coefficient' * 10 ^ exponent') :
    ofDecimal negative coefficient exponent = ofDecimal negative coefficient' exponent' := by
  obtain ⟨count, rfl⟩ := Int.le.dest ordered
  rw [eq_mul_powerOfTen same]
  rcases Nat.eq_zero_or_pos coefficient' with rfl | positive
  · rw [Nat.zero_mul, ofDecimal_zero, ofDecimal_zero]
  · exact ofDecimal_mul_powerOfTen negative positive count exponent

/-- What is read of a numeral depends on its sign and its size only. -/
theorem Numeral.toDouble_of_size {numeral : Numeral} {negative : Bool} {digits : List Char}
    {point : Int} (sign : numeral.sign = Layout.signOf negative)
    (same : numeral.size = fractionValue digits * 10 ^ point) :
    numeral.toDouble = Double.ofDecimal negative (natOfDigits digits) (point - digits.length) := by
  have minus : (numeral.sign == .minus) = negative := by
    rw [sign]
    cases negative with
    | true => rfl
    | false => rfl
  have ten : (10 : ℚ) ≠ 0 := by norm_num
  have sizes : (natOfDigits (numeral.whole ++ numeral.fraction.getD []) : ℚ) *
      10 ^ (numeral.exponentValue - (numeral.fraction.getD []).length) =
        natOfDigits digits * 10 ^ (point - digits.length) := by
    rw [natOfDigits_eq_fractionValue, natOfDigits_eq_fractionValue, ← zpow_natCast, ← zpow_natCast,
      mul_assoc, mul_assoc, ← zpow_add₀ ten, ← zpow_add₀ ten, List.length_append]
    rw [size_eq] at same
    convert same using 3
    · push_cast
      ring
    · ring
  rw [toDouble, minus]
  rcases Int.le_total (numeral.exponentValue - (numeral.fraction.getD []).length)
      (point - digits.length) with ordered | ordered
  · exact Double.ofDecimal_congr negative ordered sizes
  · exact (Double.ofDecimal_congr negative ordered sizes.symm).symm

end ChatTemplate
