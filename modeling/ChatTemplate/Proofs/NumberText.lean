import ChatTemplate.Proofs.Double.Reading
import ChatTemplate.Value.Text

/-!
What the text of a number tells. It denotes the number's digits exactly, so that numbers with
different digits have different texts, and every number is what its text is converted to.
-/

set_option autoImplicit false

namespace ChatTemplate

/-! ## Texts as numbers -/

namespace Text

private theorem dropWhile_of_ink {text : List Char} (ink : ∀ c ∈ text, isBlankChar c = false) :
    text.dropWhile isBlankChar = text := by
  cases text with
  | nil => rfl
  | cons first rest => exact List.dropWhile_cons_of_neg (by simp [ink first List.mem_cons_self])

private theorem trim_of_ink {text : List Char} (ink : ∀ c ∈ text, isBlankChar c = false) :
    trim text = text := by
  have ink' : ∀ c ∈ text.reverse, isBlankChar c = false :=
    fun c member => ink c (List.mem_reverse.mp member)
  rw [trim, dropWhile_of_ink ink, dropWhile_of_ink ink', List.reverse_reverse]

end Text

namespace Value

/-- Texts with a letter other than the mark of an exponent are no decimals. -/
theorem decimal?_of_lettered {text : List Char} (lettered : Numeral.Lettered text) :
    decimal? text = none := by
  rw [decimal?, Numeral.read?_of_lettered lettered]
  rfl

private theorem numberOfText_of_decimal {text : String} {x : Double}
    (ink : ∀ c ∈ text.toList, Text.isBlankChar c = false) (reads : decimal? text.toList = some x) :
    numberOfText text = x := by
  simp only [numberOfText, Text.trim_of_ink ink, String.ofList_toList]
  split
  · cases reads
  · cases reads
  · cases reads
  · cases reads
  · rw [reads]
    rfl

/-- Every number is what its text is converted to, but for the sign of zero. -/
theorem toNumber_text (x : Double) :
    toNumber (.string (Value.number x).text) = .ok x.unsignedZero := by
  have converted : numberOfText (Layout.plain.text x) = x.unsignedZero := by
    cases finite : x.isFinite with
    | true =>
        refine numberOfText_of_decimal ?_ (decimal?_text finite)
        cases zero : x.isZero with
        | true =>
            rw [Layout.text_of_zero zero]
            exact List.forall_mem_singleton.mpr rfl
        | false =>
            obtain ⟨numeral, -, wellFormed, spelled⟩ :=
              Layout.readable_plain.exists_form_text finite zero
            rw [spelled]
            exact wellFormed.not_blank
    | false =>
        cases x with
        | nan => rfl
        | infinite negative =>
            cases negative with
            | true => rfl
            | false => rfl
        | finite => cases finite
  exact congrArg Except.ok converted

end Value

/-! ## What the text of a number tells -/

/-- A numeral that tells a number: it is what the text of the number is and is read as, it has the
value of the number's digits with the point at its place, it has an exponent outside of the range of
positional numbers, and no zero stands in front of another digit. The exponent brings in the only
letter. -/
structure Layout.Tells (x : Double) (numeral : Numeral) : Prop where
  spelled : (plain.text x).toList = numeral.spelled
  read : Numeral.read? (plain.text x).toList = some numeral
  exact : numeral.value = (if x.isNegative then -1 else 1) *
    (fractionValue x.decimal.digits * 10 ^ x.decimal.point)
  exponent : numeral.exponent.isSome = true ↔ 21 < x.decimal.point ∨ x.decimal.point ≤ -6
  leading : ∀ rest, numeral.whole = '0' :: rest → rest = []
  letters : (plain.text x).toList.filter Char.isAlpha =
    if numeral.exponent.isSome then ['e'] else []
  unlettered : ¬ Numeral.Lettered (plain.text x).toList

section Text

variable {x y : Double}

theorem Numeral.value_of_sign {numeral : Numeral} {negative : Bool}
    (sign : numeral.sign = Layout.signOf negative) :
    numeral.value = (if negative then -1 else 1) * numeral.size := by
  rw [value, sign]
  cases negative with
  | true => simp [Layout.signOf]
  | false => simp [Layout.signOf]

theorem Layout.exists_tells (finite : x.isFinite = true) (nonzero : x.isZero = false) :
    ∃ numeral, Tells x numeral := by
  obtain ⟨first, others, digits, head⟩ := Double.exists_first_digit finite nonzero
  obtain ⟨numeral, form, wellFormed, spelled⟩ := readable_plain.exists_form_text finite nonzero
  have size : numeral.size = fractionValue x.decimal.digits * 10 ^ x.decimal.point :=
    Numeral.size_of_form form (digits ▸ List.cons_ne_nil first others)
  have read := wellFormed.read?
  have letters := wellFormed.letters
  rw [← spelled] at read letters
  refine ⟨numeral, spelled, read, ?_, form.exponent, fun rest => form.leading digits head, letters,
    ?_⟩
  · rw [Numeral.value_of_sign form.sign, size]
  · intro lettered
    have reads := Value.decimal?_text finite
    rw [Value.decimal?_of_lettered lettered] at reads
    cases reads

theorem Layout.eq_of_text_eq (finite : x.isFinite = true) (nonzero : x.isZero = false)
    (finite' : y.isFinite = true) (nonzero' : y.isZero = false)
    (same : plain.text x = plain.text y) : x = y := by
  have reads := Value.decimal?_text finite
  have reads' := Value.decimal?_text finite'
  rw [same, reads'] at reads
  simpa [nonzero, nonzero'] using reads.symm

end Text

/-- The text of a number other than zero denotes its digits exactly and is the text of no number with
other digits, another place of the point or another sign. Every number is what its text is converted
to, but for the sign of zero. -/
theorem Layout.number_text_exact (x y : Double) :
    (x.isFinite = true → x.isZero = false → ∃ numeral, Tells x numeral) ∧
      (x.isFinite = true → x.isZero = false → y.isFinite = true → y.isZero = false →
        (x.decimal.digits ≠ y.decimal.digits ∨ x.decimal.point ≠ y.decimal.point ∨
          x.isNegative ≠ y.isNegative) → plain.text x ≠ plain.text y) ∧
      Value.toNumber (.string (Value.number x).text) = .ok x.unsignedZero := by
  refine ⟨exists_tells, ?_, Value.toNumber_text x⟩
  intro finite nonzero finite' nonzero' different same
  obtain rfl := eq_of_text_eq finite nonzero finite' nonzero' same
  simp at different

/-- The smallest positive number has an exponent, and its opposite has another text. -/
theorem Layout.smallest_text_exact :
    plain.text (.ofRank false 1) = "5e-324" ∧
      (∃ numeral, Tells (.ofRank false 1) numeral) ∧
      plain.text (.ofRank false 1) ≠ plain.text (.ofRank true 1) := by
  obtain ⟨tells, apart, -⟩ := number_text_exact (.ofRank false 1) (.ofRank true 1)
  exact ⟨by decide +kernel, tells rfl rfl,
    apart rfl rfl rfl rfl (.inr (.inr Bool.false_ne_true))⟩

end ChatTemplate
