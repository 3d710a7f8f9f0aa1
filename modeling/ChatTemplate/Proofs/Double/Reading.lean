import ChatTemplate.Proofs.Double.Denotation
import ChatTemplate.Value.Number

/-!
The text of a number in a template reads back as the number, in every form that the layout has.
-/

set_option autoImplicit false

namespace ChatTemplate

/-! ## The digits of a number -/

namespace Decimal

open Numeral (natOfDigits)

theorem areDigits_digits (decimal : Decimal) : AreDigits decimal.digits := by
  obtain ⟨zeros, digits⟩ := decimal.digits_spec
  intro c member
  refine areDigits_repr decimal.coefficient c ?_
  rw [digits]
  exact List.mem_append_left _ member

/-- The digits and the place of the point are all that there is to a decimal. -/
theorem ofDecimal_digits (negative : Bool) {decimal : Decimal}
    (positive : 0 < decimal.coefficient) :
    Double.ofDecimal negative (natOfDigits decimal.digits)
        (decimal.point - decimal.digits.length) =
      Double.ofDecimal negative decimal.coefficient decimal.exponent := by
  obtain ⟨zeros, digits⟩ := decimal.digits_spec
  have value := congrArg natOfDigits digits
  rw [Numeral.natOfDigits_repr, Numeral.natOfDigits_append_zeros] at value
  have length := congrArg List.length digits
  rw [String.length_toList, List.length_append, List.length_replicate] at length
  have filled : 0 < natOfDigits decimal.digits := by
    refine Nat.pos_of_ne_zero fun none => ?_
    rw [value, none, Nat.zero_mul] at positive
    exact Nat.lt_irrefl 0 positive
  have place : decimal.point - decimal.digits.length = decimal.exponent + zeros := by
    rw [point, length]
    omega
  rw [value, Double.ofDecimal_mul_powerOfTen negative filled, place]

/-- The first digit of a positive decimal is not zero. -/
theorem exists_first_digit {decimal : Decimal} (positive : 0 < decimal.coefficient) :
    ∃ first others, decimal.digits = first :: others ∧ first ≠ '0' := by
  obtain ⟨zeros, digits⟩ := decimal.digits_spec
  have areDigits := decimal.areDigits_digits
  have value := Numeral.natOfDigits_repr decimal.coefficient
  cases found : decimal.digits with
  | nil =>
      rw [digits, found, Numeral.natOfDigits_append_zeros] at value
      have nothing : natOfDigits [] = 0 := rfl
      rw [nothing, Nat.zero_mul] at value
      exact absurd value (Nat.ne_of_lt positive)
  | cons first others =>
      refine ⟨first, others, rfl, ?_⟩
      rintro rfl
      rw [found] at digits areDigits
      have length := congrArg List.length digits
      rw [String.length_toList, List.cons_append, List.length_cons] at length
      have nothing : '0'.toNat - 48 = 0 := rfl
      rw [digits, List.cons_append, Numeral.natOfDigits_cons, nothing, Nat.mul_zero, Nat.zero_add]
        at value
      have areDigits : AreDigits others := (List.forall_mem_cons.mp areDigits).2
      have below := Numeral.natOfDigits_lt (areDigits.append (areDigits_zeros zeros))
      rw [value] at below
      rcases Nat.eq_zero_or_pos (others ++ List.replicate zeros '0').length with none | some
      · rw [none, Nat.pow_zero] at below
        omega
      · have short := (Nat.length_repr_le_iff some).mpr below
        omega

private theorem dropZeros_append_zeros (count : Nat) (digits : List Char) :
    (dropZeros (List.replicate count '0' ++ digits)).1 = (dropZeros digits).1 := by
  induction count with
  | zero => rfl
  | succ count ih => exact ih

private theorem digits_of_shift {coefficient : Nat} (positive : 0 < coefficient) (count : Nat)
    (exponent : Int) :
    digits ⟨coefficient * Double.powerOfTen count, exponent⟩ =
        digits ⟨coefficient, exponent + count⟩ ∧
      point ⟨coefficient * Double.powerOfTen count, exponent⟩ =
        point ⟨coefficient, exponent + count⟩ := by
  have shifted := repr_mul_pow positive count
  have length := congrArg List.length shifted
  rw [String.length_toList, List.length_append, List.length_replicate, String.length_toList]
    at length
  constructor
  · change (dropZeros (Nat.repr (coefficient * 10 ^ count)).toList.reverse).1.reverse = _
    rw [shifted, List.reverse_append, List.reverse_replicate, dropZeros_append_zeros]
    rfl
  · change exponent + ((Nat.repr (coefficient * 10 ^ count)).length : Int) = _
    rw [length, point]
    push_cast
    ring

/-- The digits and the place of the point depend on the value of a decimal only. -/
theorem digits_of_value {decimal other : Decimal} (positive : 0 < decimal.coefficient)
    (positive' : 0 < other.coefficient)
    (same : (decimal.coefficient : ℚ) * 10 ^ decimal.exponent =
      other.coefficient * 10 ^ other.exponent) :
    decimal.digits = other.digits ∧ decimal.point = other.point := by
  obtain ⟨coefficient, exponent⟩ := decimal
  obtain ⟨coefficient', exponent'⟩ := other
  rcases Int.le_total exponent exponent' with ordered | ordered
  · obtain ⟨count, rfl⟩ := Int.le.dest ordered
    obtain rfl := Double.eq_mul_powerOfTen same
    exact digits_of_shift positive' count exponent
  · obtain ⟨count, rfl⟩ := Int.le.dest ordered
    obtain rfl := Double.eq_mul_powerOfTen same.symm
    obtain ⟨digits, point⟩ := digits_of_shift positive count exponent'
    exact ⟨digits.symm, point.symm⟩

/-- A decimal has the value of its digits with the point at its place. -/
theorem value_of_digits (decimal : Decimal) :
    (decimal.coefficient : ℚ) * 10 ^ decimal.exponent =
      fractionValue decimal.digits * 10 ^ decimal.point := by
  obtain ⟨zeros, digits⟩ := decimal.digits_spec
  have value := Numeral.natOfDigits_eq_fractionValue (Nat.repr decimal.coefficient).toList
  rw [Numeral.natOfDigits_repr, digits, Numeral.fractionValue_append_zeros, ← digits,
    String.length_toList] at value
  rw [value, point, zpow_add₀ (by norm_num), zpow_natCast]
  ring

end Decimal

/-! ## The text of a number -/

/-- The decimal that a layout writes a number with. -/
def Layout.decimal (layout : Layout) (x : Double) : Decimal :=
  Double.shortest layout.tie x.magnitude

/-- The decimal that the text of a number is made of. -/
def Double.decimal (x : Double) : Decimal :=
  shortest Layout.plain.tie x.magnitude

section Text

variable {x : Double}

namespace Layout

theorem ofDecimal_decimal (layout : Layout) (finite : x.isFinite = true)
    (nonzero : x.isZero = false) :
    0 < (layout.decimal x).coefficient ∧
      Double.ofDecimal x.isNegative (Numeral.natOfDigits (layout.decimal x).digits)
        ((layout.decimal x).point - (layout.decimal x).digits.length) = x := by
  cases x with
  | finite negative exponent fraction =>
      obtain ⟨positive, reads⟩ := Double.ofDecimal_shortest layout.tie negative exponent fraction
        (beq_eq_false_iff_ne.mp nonzero)
      exact ⟨positive, (Decimal.ofDecimal_digits negative positive).trans reads⟩
  | _ => cases finite

theorem text_of_zero (zero : x.isZero = true) : plain.text x = "0" := by
  cases x with
  | finite negative =>
      have signless : (negative && plain.negativeZero) = false := Bool.and_false _
      rw [Layout.text, if_pos zero, signless]
      rfl
  | _ => cases zero

theorem text_of_nonzero (layout : Layout) (finite : x.isFinite = true)
    (nonzero : x.isZero = false) :
    layout.text x = sign x.isNegative ++
      layout.positive (layout.decimal x).digits (layout.decimal x).point := by
  cases x with
  | finite => exact if_neg (by simp [nonzero])
  | _ => cases finite

/-- The text of a number other than zero is a numeral in one of the forms. -/
theorem Readable.exists_form_text {layout : Layout} (readable : layout.Readable)
    (finite : x.isFinite = true) (nonzero : x.isZero = false) :
    ∃ numeral, Form layout x.isNegative (layout.decimal x).digits (layout.decimal x).point numeral ∧
      numeral.WellFormed ∧ (layout.text x).toList = numeral.spelled := by
  obtain ⟨first, others, digits, -⟩ :=
    Decimal.exists_first_digit (layout.ofDecimal_decimal finite nonzero).1
  obtain ⟨numeral, form, spelled⟩ := readable.exists_form x.isNegative (layout.decimal x).digits
    (layout.decimal x).point
  rw [text_of_nonzero layout finite nonzero, String.toList_append]
  exact ⟨numeral, form, form.wellFormed (digits ▸ List.cons_ne_nil first others)
    (layout.decimal x).areDigits_digits, spelled⟩

end Layout

theorem Double.exists_first_digit (finite : x.isFinite = true) (nonzero : x.isZero = false) :
    ∃ first others, x.decimal.digits = first :: others ∧ first ≠ '0' :=
  Decimal.exists_first_digit (Layout.plain.ofDecimal_decimal finite nonzero).1

theorem Value.decimal?_spelled {numeral : Numeral} (wellFormed : numeral.WellFormed) :
    decimal? numeral.spelled = some numeral.toDouble := by
  have digit : numeral.hasDigit = true := by
    rw [Numeral.hasDigit, List.isEmpty_eq_false_iff.mpr wellFormed.filled]
    rfl
  rw [decimal?, wellFormed.read?, Option.bind_some, if_pos digit]

/-- The text of a number reads back as the number; zero loses its sign. -/
theorem Value.decimal?_text (finite : x.isFinite = true) :
    decimal? (Layout.plain.text x).toList = some (if x.isZero then Double.zero false else x) := by
  cases zero : x.isZero with
  | true =>
      rw [Layout.text_of_zero zero, if_pos rfl]
      rfl
  | false =>
      obtain ⟨-, reads⟩ := Layout.plain.ofDecimal_decimal finite zero
      obtain ⟨first, others, digits, -⟩ := Double.exists_first_digit finite zero
      obtain ⟨numeral, form, wellFormed, spelled⟩ :=
        Layout.readable_plain.exists_form_text finite zero
      have size := Numeral.size_of_form form (digits ▸ List.cons_ne_nil first others)
      rw [spelled, decimal?_spelled wellFormed, Numeral.toDouble_of_size form.sign size, reads]
      rfl

end Text

end ChatTemplate
