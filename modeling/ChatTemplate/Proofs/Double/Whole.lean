import ChatTemplate.Double.Layout
import Mathlib.Data.Nat.Digits.Defs

/-!
The text of whole numbers. A whole number below 2 ^ 53 is represented exactly, so that the only
decimals that read back as it are those with its value. The shortest of them, written without an
exponent, is the number in all its digits.
-/

set_option autoImplicit false

namespace ChatTemplate

namespace Double

/-! ## Exact representation -/

/-- The exponent is kept apart, as the power itself is nothing to compute with. -/
theorem unitsPerOne_eq : ∃ bits, unitsPerOne = 2 ^ bits ∧ bits = 1074 := by
  obtain ⟨bits, count⟩ : ∃ bits, bits = 1074 := ⟨_, rfl⟩
  exact ⟨bits, by rw [unitsPerOne, ← count, Nat.one_shiftLeft], count⟩

theorem unitsPerOne_pos : 0 < unitsPerOne := by
  obtain ⟨bits, units, -⟩ := unitsPerOne_eq
  rw [units]
  exact Nat.two_pow_pos bits

theorem fractionCount_eq : fractionCount = 2 ^ 52 := by decide

/-- A number with 53 significant bits: one implicit and those of the fraction field. -/
theorem magnitude_ofRank (negative : Bool) {shift significand : Nat} (range : shift < 2046)
    (low : 2 ^ 52 ≤ significand) (high : significand < 2 ^ 53) :
    (ofRank negative (shift * fractionCount + significand)).magnitude = significand * 2 ^ shift := by
  have split : shift * fractionCount + significand =
      (significand - 2 ^ 52) + fractionCount * (shift + 1) := by
    rw [fractionCount_eq]
    omega
  have below : significand - 2 ^ 52 < fractionCount := by
    rw [fractionCount_eq]
    omega
  have exponent : (shift * fractionCount + significand) / fractionCount = shift + 1 := by
    rw [split, Nat.add_mul_div_left _ _ (by decide), Nat.div_eq_of_lt below, Nat.zero_add]
  have fraction : (shift * fractionCount + significand) % fractionCount = significand - 2 ^ 52 := by
    rw [split, Nat.add_mul_mod_self_left, Nat.mod_eq_of_lt below]
  have bounded : shift * fractionCount + significand < 2047 * fractionCount := by
    rw [split, fractionCount_eq]
    omega
  rw [ofRank, dif_pos bounded]
  simp only [magnitude, exponent, fraction, Nat.add_one_ne_zero, if_false, Nat.add_sub_cancel,
    Nat.shiftLeft_eq]
  rw [fractionCount_eq, Nat.add_sub_cancel' low]

theorem roundHalfEven_mul (n : Nat) {d : Nat} (positive : 0 < d) : roundHalfEven (n * d) d = n := by
  simp [roundHalfEven, Nat.mul_div_cancel n positive, positive]

theorem roundHalfEven_mul_mul (n d : Nat) {scale : Nat} (positive : 0 < scale) :
    roundHalfEven (n * scale) (d * scale) = roundHalfEven n d := by
  have less : 2 * (n % d * scale) < d * scale ↔ 2 * (n % d) < d := by
    rw [← Nat.mul_assoc, Nat.mul_lt_mul_right positive]
  have equal : 2 * (n % d * scale) = d * scale ↔ 2 * (n % d) = d := by
    rw [← Nat.mul_assoc, Nat.mul_left_inj (Nat.ne_of_gt positive)]
  simp only [roundHalfEven, Nat.mul_div_mul_right n d positive, Nat.mul_mod_mul_right, less, equal,
    Bool.or_eq_true, Bool.and_eq_true, decide_eq_true_eq, beq_iff_eq]

theorem log2_mul_two_pow {n : Nat} (positive : 0 < n) (count : Nat) :
    (n * 2 ^ count).log2 = n.log2 + count := by
  have nonzero := Nat.ne_of_gt positive
  have low := Nat.mul_le_mul_right (2 ^ count) (Nat.log2_self_le nonzero)
  have high : n * 2 ^ count < 2 ^ (n.log2 + 1) * 2 ^ count :=
    Nat.mul_lt_mul_of_pos_right ((Nat.log2_lt nonzero).mp (Nat.lt_succ_self _))
      (Nat.two_pow_pos count)
  rw [← Nat.pow_add] at low high
  rw [Nat.log2_eq_iff (Nat.ne_of_gt (Nat.mul_pos positive (Nat.two_pow_pos count)))]
  exact ⟨low, by rwa [Nat.add_right_comm] at high⟩

/-- Whole numbers with no more bits than a significand has are represented exactly. -/
theorem magnitude_ofRatio_one (negative : Bool) {n : Nat} (positive : 0 < n) (small : n < 2 ^ 53) :
    (ofRatio negative n 1).magnitude = n * unitsPerOne := by
  obtain ⟨bits, units, count⟩ := unitsPerOne_eq
  have nonzero := Nat.ne_of_gt positive
  have width : n.log2 ≤ 52 := Nat.lt_succ_iff.mp ((Nat.log2_lt nonzero).mpr small)
  have low := Nat.mul_le_mul_right (2 ^ (52 - n.log2)) (Nat.log2_self_le nonzero)
  have high : n * 2 ^ (52 - n.log2) < 2 ^ (n.log2 + 1) * 2 ^ (52 - n.log2) :=
    Nat.mul_lt_mul_of_pos_right ((Nat.log2_lt nonzero).mp (Nat.lt_succ_self _))
      (Nat.two_pow_pos _)
  rw [← Nat.pow_add] at low high
  have shift : (n * unitsPerOne / 1).log2 - 52 = n.log2 + bits - 52 := by
    rw [Nat.div_one, units, log2_mul_two_pow positive]
  have together : 52 - n.log2 + (n.log2 + bits - 52) = bits := by omega
  have parted : n * unitsPerOne = n * 2 ^ (52 - n.log2) * 2 ^ (n.log2 + bits - 52) := by
    rw [units, Nat.mul_assoc, ← Nat.pow_add, together]
  have rounded : roundHalfEven (n * unitsPerOne) (1 <<< (n.log2 + bits - 52)) =
      n * 2 ^ (52 - n.log2) := by
    rw [Nat.one_shiftLeft, parted]
    exact roundHalfEven_mul _ (Nat.two_pow_pos _)
  have range : n.log2 + bits - 52 < 2046 := by omega
  have full : n.log2 + (52 - n.log2) = 52 := by omega
  rw [full] at low
  rw [Nat.add_right_comm, full] at high
  simp only [ofRatio, shift, rounded]
  rw [magnitude_ofRank negative range low high, parted]

/-- A number of units of 2 ^ -1074 that makes a whole number is rounded as the whole number is. -/
theorem ofUnits_mul (negative : Bool) (n : Nat) :
    ofUnits negative (n * unitsPerOne) = ofRatio negative n 1 := by
  have scaled : n * unitsPerOne * unitsPerOne / unitsPerOne = n * unitsPerOne / 1 := by
    rw [Nat.mul_div_cancel _ unitsPerOne_pos, Nat.div_one]
  have rounded (shift : Nat) : roundHalfEven (n * unitsPerOne * unitsPerOne)
      (unitsPerOne <<< shift) = roundHalfEven (n * unitsPerOne) (1 <<< shift) := by
    rw [Nat.shiftLeft_eq, Nat.one_shiftLeft, Nat.mul_comm unitsPerOne]
    exact roundHalfEven_mul_mul _ _ unitsPerOne_pos
  simp only [ofUnits, ofRatio, scaled, rounded]

/-! ## Decimals that read back as a whole number -/

private theorem ofDecimal_natCast {coefficient exponent : Nat} (positive : 0 < coefficient)
    (range : coefficient * 10 ^ exponent < 2 ^ 53) :
    ofDecimal false coefficient exponent = ofRatio false (coefficient * 10 ^ exponent) 1 := by
  have sixteen : coefficient * 10 ^ exponent < 10 ^ 16 := Nat.lt_trans range (by decide)
  have digits : (Nat.repr coefficient).length ≤ 16 := by
    refine (Nat.length_repr_le_iff (by decide)).mpr (Nat.lt_of_le_of_lt ?_ sixteen)
    exact Nat.le_mul_of_pos_right coefficient (Nat.pow_pos (by decide))
  have zeros : exponent < 16 := by
    refine (Nat.pow_lt_pow_iff_right (by decide : 1 < 10)).mp (Nat.lt_of_le_of_lt ?_ sixteen)
    exact Nat.le_mul_of_pos_left _ positive
  have inRange : ¬ (coefficient = 0 ∨ (exponent : Int) + (Nat.repr coefficient).length < -323) := by
    omega
  rw [ofDecimal]
  simp only [Bool.or_eq_true, decide_eq_true_eq, inRange, if_false]
  rw [if_neg (by omega), if_neg (by omega), Int.toNat_natCast, powerOfTen, Nat.pow_eq]

/-- A decimal with a value below 2 ^ 53 reads back as a whole number only if that is its value. -/
theorem mul_pow_of_ofDecimal_eq {coefficient exponent n : Nat} (positive : 0 < n)
    (small : n < 2 ^ 53) (range : coefficient * 10 ^ exponent < 2 ^ 53)
    (same : ofDecimal false coefficient exponent = ofRatio false n 1) :
    coefficient * 10 ^ exponent = n := by
  have exact := magnitude_ofRatio_one false positive small
  have nonzero : n * unitsPerOne ≠ 0 := Nat.ne_of_gt (Nat.mul_pos positive unitsPerOne_pos)
  by_cases zero : coefficient = 0
  · rw [← same, ofDecimal, if_pos (by simp [zero])] at exact
    exact absurd exact.symm nonzero
  · have some : 0 < coefficient := Nat.pos_of_ne_zero zero
    have reads := ofDecimal_natCast some range
    have exact' := magnitude_ofRatio_one false
      (Nat.mul_pos some (Nat.pow_pos (by decide))) range
    rw [← reads, same, exact] at exact'
    exact (Nat.mul_right_cancel unitsPerOne_pos exact').symm

/-- What the search for the shortest decimal finds reads back as the number, and is one of the two
neighbours of the number. -/
theorem reads_of_shortestOf? {tie : Tie} {magnitude count : Nat} {decimal : Decimal}
    (found : shortestOf? tie magnitude count = some decimal) :
    let exponent := decimalPoint magnitude unitsPerOne - count
    decimal.exponent = exponent ∧
      decimal.coefficient ≤ magnitude * powerOfTen (-exponent).toNat /
        (unitsPerOne * powerOfTen exponent.toNat) + 1 ∧
      ofDecimal false decimal.coefficient exponent = ofUnits false magnitude := by
  intro exponent
  unfold shortestOf? at found
  dsimp only at found
  split at found
  · rename_i reads
    cases found
    split
    · rename_i high
      simp only [Bool.and_eq_true, beq_iff_eq] at high
      exact ⟨rfl, Nat.le_refl _, high.1.2⟩
    · exact ⟨rfl, Nat.le_succ _, beq_iff_eq.mp reads⟩
  · split at found
    · rename_i high
      simp only [Bool.and_eq_true, beq_iff_eq] at high
      cases found
      exact ⟨rfl, Nat.le_refl _, high.2⟩
    · cases found

private theorem decimalPoint_mul {n : Nat} (positive : 0 < n) :
    decimalPoint (n * unitsPerOne) unitsPerOne = (Nat.repr n).length := by
  rw [decimalPoint, if_pos (Nat.le_mul_of_pos_left _ positive),
    Nat.mul_div_cancel _ unitsPerOne_pos]

private theorem shortestOf?_whole (tie : Tie) {n : Nat} (positive : 0 < n) (small : n < 2 ^ 53) :
    shortestOf? tie (n * unitsPerOne) (Nat.repr n).length ≠ none := by
  have reads : ofDecimal false n 0 = ofUnits false (n * unitsPerOne) := by
    have whole := @ofDecimal_natCast n 0 positive (by rwa [Nat.pow_zero, Nat.mul_one])
    rwa [Nat.pow_zero, Nat.mul_one, ← ofUnits_mul] at whole
  have low : n * unitsPerOne * powerOfTen 0 / (unitsPerOne * powerOfTen 0) = n := by
    rw [powerOfTen, Nat.pow_eq, Nat.pow_zero, Nat.mul_one, Nat.mul_one,
      Nat.mul_div_cancel _ unitsPerOne_pos]
  simp only [shortestOf?, decimalPoint_mul positive, Int.sub_self, Int.neg_zero, Int.toNat_zero,
    low]
  rw [if_pos (beq_iff_eq.mpr reads)]
  exact nofun

/-- With no more digits than it has, a whole number below 9 * 10 ^ 15 is found by its value only:
both neighbours with fewer digits are still represented exactly. -/
theorem value_of_shortestOf? {tie : Tie} {n count : Nat} {decimal : Decimal} (positive : 0 < n)
    (small : n < 9 * 10 ^ 15) (filled : 0 < count) (within : count ≤ (Nat.repr n).length)
    (found : shortestOf? tie (n * unitsPerOne) count = some decimal) :
    ∃ exponent : Nat, decimal.exponent = exponent ∧ decimal.coefficient * 10 ^ exponent = n := by
  obtain ⟨place, bound, reads⟩ := reads_of_shortestOf? found
  have digits : (Nat.repr n).length ≤ 16 :=
    (Nat.length_repr_le_iff (by decide)).mpr (Nat.lt_trans small (by decide))
  obtain ⟨exponent, short, left⟩ :
      ∃ exponent : Nat, exponent ≤ 15 ∧ ((Nat.repr n).length : Int) - count = exponent :=
    ⟨(Nat.repr n).length - count, by omega, by omega⟩
  rw [decimalPoint_mul positive, left] at place bound reads
  have low : n * unitsPerOne * powerOfTen (-(exponent : Int)).toNat /
      (unitsPerOne * powerOfTen (exponent : Int).toNat) = n / 10 ^ exponent := by
    have none : (-(exponent : Int)).toNat = 0 := by omega
    rw [none, Int.toNat_natCast, powerOfTen, powerOfTen, Nat.pow_eq, Nat.pow_eq, Nat.pow_zero,
      Nat.mul_one, Nat.mul_comm n, Nat.mul_div_mul_left _ _ unitsPerOne_pos]
  rw [low] at bound
  rw [ofUnits_mul] at reads
  have parted : 9 * 10 ^ 15 = 10 ^ exponent * (9 * 10 ^ (15 - exponent)) := by
    rw [Nat.mul_left_comm, ← Nat.pow_add, Nat.add_sub_cancel' short]
  have below : n / 10 ^ exponent < 9 * 10 ^ (15 - exponent) :=
    Nat.div_lt_of_lt_mul (parted ▸ small)
  have range : decimal.coefficient * 10 ^ exponent < 2 ^ 53 := by
    have most := Nat.mul_le_mul_right (10 ^ exponent) (Nat.le_trans bound below)
    rw [Nat.mul_comm _ (10 ^ exponent), Nat.mul_comm _ (10 ^ exponent), ← parted] at most
    rw [Nat.mul_comm]
    exact Nat.lt_of_le_of_lt most (by decide)
  exact ⟨exponent, place,
    mul_pow_of_ofDecimal_eq positive (Nat.lt_trans small (by decide)) range reads⟩

private theorem value_of_shortest (tie : Tie) {n : Nat} (positive : 0 < n)
    (small : n < 9 * 10 ^ 15) :
    ∃ exponent : Nat, (shortest tie (n * unitsPerOne)).exponent = exponent ∧
      (shortest tie (n * unitsPerOne)).coefficient * 10 ^ exponent = n := by
  have digits : (Nat.repr n).length ≤ 16 :=
    (Nat.length_repr_le_iff (by decide)).mpr (Nat.lt_trans small (by decide))
  have parted : List.range' 1 17 = List.range' 1 (Nat.repr n).length ++
      List.range' (1 + (Nat.repr n).length) (17 - (Nat.repr n).length) := by
    rw [List.range'_append_1]
    congr 1
    omega
  cases searched : (List.range' 1 (Nat.repr n).length).findSome?
      (shortestOf? tie (n * unitsPerOne)) with
  | none =>
      have member : (Nat.repr n).length ∈ List.range' 1 (Nat.repr n).length := by
        have filled := @Nat.length_repr_pos n
        rw [List.mem_range'_1]
        omega
      have missed := List.findSome?_eq_none_iff.mp searched _ member
      exact absurd missed (shortestOf?_whole tie positive (Nat.lt_trans small (by decide)))
  | some decimal =>
      obtain ⟨count, member, found⟩ := List.exists_of_findSome?_eq_some searched
      rw [List.mem_range'_1] at member
      rw [shortest, parted, List.findSome?_append, searched]
      exact value_of_shortestOf? positive small (by omega) (by omega) found

end Double

/-! ## Text -/

theorem repr_mul_pow {n : Nat} (positive : 0 < n) (exponent : Nat) :
    (Nat.repr (n * 10 ^ exponent)).toList = (Nat.repr n).toList ++ List.replicate exponent '0' := by
  induction exponent with
  | zero => simp
  | succ exponent ih =>
      have big : 10 ≤ n * 10 ^ (exponent + 1) := by
        rw [Nat.pow_succ, ← Nat.mul_assoc]
        exact Nat.le_mul_of_pos_left 10 (Nat.mul_pos positive (Nat.pow_pos (by decide)))
      have tenth : n * 10 ^ (exponent + 1) / 10 = n * 10 ^ exponent := by
        rw [Nat.pow_succ, ← Nat.mul_assoc, Nat.mul_div_cancel _ (by decide)]
      have last : n * 10 ^ (exponent + 1) % 10 = 0 := by
        rw [Nat.pow_succ, ← Nat.mul_assoc, Nat.mul_mod_left]
      rw [Nat.repr_eq_repr_append_repr big, tenth, last, String.toList_append, ih,
        List.replicate_succ', List.append_assoc]
      rfl

namespace Decimal

private theorem dropZeros_spec (digits : List Char) :
    digits = List.replicate (dropZeros digits).2 '0' ++ (dropZeros digits).1 := by
  fun_induction dropZeros digits with
  | case1 rest kept count split ih =>
      rw [split] at ih
      rw [ih]
      rfl
  | case2 digits other => rfl

/-- The digits of a decimal are those of its coefficient, up to zeros at the end. -/
theorem digits_spec (decimal : Decimal) : ∃ zeros, (Nat.repr decimal.coefficient).toList =
    decimal.digits ++ List.replicate zeros '0' := by
  have parted := congrArg List.reverse (dropZeros_spec (Nat.repr decimal.coefficient).toList.reverse)
  rw [List.reverse_reverse, List.reverse_append, List.reverse_replicate] at parted
  exact ⟨_, parted⟩

end Decimal

namespace Layout

theorem toList_zeros (count : Nat) : (zeros count).toList = List.replicate count '0' :=
  String.toList_ofList

section Forms

variable {layout : Layout} {digits : List Char} {point : Int}

theorem positive_inside (inside : layout.lowest < point ∧ point ≤ layout.highest) :
    layout.positive digits point =
      if digits.length ≤ point then
        String.ofList digits ++ zeros (point - digits.length).toNat ++ layout.wholeMark
      else if 0 < point then
        String.ofList (digits.take point.toNat) ++ "." ++ String.ofList (digits.drop point.toNat)
      else "0." ++ zeros (-point).toNat ++ String.ofList digits :=
  if_pos (by simpa using inside)

theorem positive_outside (outside : ¬ (layout.lowest < point ∧ point ≤ layout.highest)) :
    layout.positive digits point =
      String.ofList (digits.take 1) ++
        (if (digits.drop 1).isEmpty then "" else "." ++ String.ofList (digits.drop 1)) ++
        "e" ++ layout.exponentText (point - 1) :=
  if_neg (by simpa using outside)

end Forms

/-- A decimal without a fraction is written in all its digits. -/
theorem positive_plain_whole {decimal : Decimal} {exponent n : Nat} (positive : 0 < n)
    (small : n < 10 ^ 21) (place : decimal.exponent = exponent)
    (value : decimal.coefficient * 10 ^ exponent = n) :
    plain.positive decimal.digits decimal.point = Nat.repr n := by
  obtain ⟨zeros, digits⟩ := decimal.digits_spec
  have some : 0 < decimal.coefficient := by
    refine Nat.pos_of_ne_zero fun none => ?_
    rw [← value, none, Nat.zero_mul] at positive
    exact Nat.lt_irrefl 0 positive
  have whole : (Nat.repr n).toList =
      decimal.digits ++ List.replicate (zeros + exponent) '0' := by
    rw [← value, repr_mul_pow some, digits, List.append_assoc, List.replicate_append_replicate]
  have count := congrArg List.length whole
  have count' := congrArg List.length digits
  have most := (Nat.length_repr_le_iff (n := n) (by decide : 0 < 21)).mpr small
  simp only [List.length_append, List.length_replicate, String.length_toList] at count count'
  have point : decimal.point = ((decimal.digits.length + (zeros + exponent) : Nat) : Int) := by
    rw [Decimal.point, place]
    omega
  have padding : (decimal.point - decimal.digits.length).toNat = zeros + exponent := by omega
  have low : plain.lowest < decimal.point := by
    show (-6 : Int) < decimal.point
    omega
  have high : decimal.point ≤ plain.highest := by
    show decimal.point ≤ (21 : Int)
    omega
  rw [Layout.positive, if_pos (by simp [low, high]), if_pos (by omega), padding]
  apply String.toList_injective
  rw [whole]
  simp [plain, Layout.zeros]

end Layout

private theorem toString_neg {n : Nat} (positive : 0 < n) :
    toString (-(n : Int)) = "-" ++ Nat.repr n := by
  cases n with
  | zero => exact absurd positive (Nat.lt_irrefl 0)
  | succ n => rfl

/-- A whole number below 9 * 10 ^ 15 in size is written like an integer. -/
theorem Layout.plain_text_whole {x : Double} (whole : x.isWhole = true)
    (small : x.truncate.natAbs < 9 * 10 ^ 15) : Layout.plain.text x = toString x.truncate := by
  cases x with
  | nan => cases whole
  | infinite negative => cases whole
  | finite negative exponent fraction =>
      obtain ⟨n, units⟩ : ∃ n, (Double.finite negative exponent fraction).magnitude =
          n * Double.unitsPerOne := by
        have divides := Nat.dvd_of_mod_eq_zero (beq_iff_eq.mp whole)
        exact ⟨_, (Nat.div_mul_cancel divides).symm⟩
      have integer : (Double.finite negative exponent fraction).truncate =
          if negative then -(n : Int) else n := by
        rw [Double.truncate, units, Nat.mul_div_cancel _ Double.unitsPerOne_pos]
        rfl
      rw [integer] at small ⊢
      rcases Nat.eq_zero_or_pos n with rfl | positive
      · have zero : (Double.finite negative exponent fraction).isZero = true := by
          rw [Double.isZero, units]
          simp
        rw [Layout.text, if_pos zero]
        cases negative with
        | true => rfl
        | false => rfl
      · have below : n < 9 * 10 ^ 15 := by
          split at small
          · simpa using small
          · simpa using small
        have nonzero : ¬ (Double.finite negative exponent fraction).isZero = true := by
          rw [Double.isZero, units, beq_iff_eq]
          exact Nat.ne_of_gt (Nat.mul_pos positive Double.unitsPerOne_pos)
        obtain ⟨places, place, value⟩ := Double.value_of_shortest .up positive below
        have digits := Layout.positive_plain_whole positive (Nat.lt_trans below (by decide)) place
          value
        rw [Layout.text, if_neg nonzero, units]
        dsimp only [Layout.plain] at digits ⊢
        rw [digits]
        cases negative with
        | true => exact (toString_neg positive).symm
        | false => rfl

end ChatTemplate
