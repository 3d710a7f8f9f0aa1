import ChatTemplate.Proofs.Double.Whole
import ChatTemplate.Double.Numeral
import ChatTemplate.Text.Blank

/-!
Written numbers as text. A numeral whose parts are digits is spelled in one way, and reading its
spelling gives it back. The text of a positive number is the spelling of a numeral, in one of four
forms: with zeros behind the digits, with a point among them or in front of them, and with an
exponent.
-/

set_option autoImplicit false

namespace ChatTemplate

/-! ## Digits -/

private theorem toNat_of_isDigit {c : Char} (digit : c.isDigit = true) :
    48 ≤ c.toNat ∧ c.toNat ≤ 57 := by
  simpa [Char.isDigit, UInt32.le_iff_toNat_le] using digit

private theorem isAlpha_of_isDigit {c : Char} (digit : c.isDigit = true) : c.isAlpha = false := by
  obtain ⟨low, high⟩ := toNat_of_isDigit digit
  have upper : c.isUpper = decide (c.val ≥ 65 ∧ c.val ≤ 90) := rfl
  have lower : c.isLower = (decide (c.val ≥ 97) && decide (c.val ≤ 122)) := rfl
  have letter : c.isAlpha = (c.isUpper || c.isLower) := rfl
  rw [letter, upper, lower]
  simp only [Bool.or_eq_false_iff, Bool.and_eq_false_iff, decide_eq_false_iff_not, ge_iff_le,
    UInt32.le_iff_toNat_le]
  change ¬ (65 ≤ c.toNat ∧ c.toNat ≤ 90) ∧ (¬ 97 ≤ c.toNat ∨ ¬ c.toNat ≤ 122)
  omega

private theorem isBlankChar_of_isDigit {c : Char} (digit : c.isDigit = true) :
    Text.isBlankChar c = false := by
  obtain ⟨low, high⟩ := toNat_of_isDigit digit
  simp only [Text.isBlankChar, Text.blankRanges, List.any_cons, List.any_nil, Bool.or_false,
    Bool.or_eq_false_iff, Bool.and_eq_false_iff, decide_eq_false_iff_not]
  omega

def AreDigits (text : List Char) : Prop :=
  ∀ c ∈ text, c.isDigit = true

theorem AreDigits.append {first second : List Char} (areDigits : AreDigits first)
    (areDigits' : AreDigits second) : AreDigits (first ++ second) :=
  List.forall_mem_append.mpr ⟨areDigits, areDigits'⟩

theorem areDigits_zeros (count : Nat) : AreDigits (List.replicate count '0') := by
  intro c member
  rw [List.eq_of_mem_replicate member]
  rfl

theorem areDigits_repr (n : Nat) : AreDigits (Nat.repr n).toList := by
  intro c member
  rw [Nat.toList_repr] at member
  exact Nat.isDigit_of_mem_toDigits (by decide) (by decide) member

theorem AreDigits.takeWhile {digits tail : List Char} (areDigits : AreDigits digits)
    (ends : ∀ c ∈ tail.head?, c.isDigit = false) :
    (digits ++ tail).takeWhile Char.isDigit = digits ∧
      (digits ++ tail).dropWhile Char.isDigit = tail := by
  rw [List.takeWhile_append_of_pos areDigits, List.dropWhile_append_of_pos areDigits]
  cases tail with
  | nil => exact ⟨List.append_nil digits, rfl⟩
  | cons first rest =>
      have stops : first.isDigit = false := ends first rfl
      simp [stops]

theorem AreDigits.letters {digits : List Char} (areDigits : AreDigits digits) :
    digits.filter Char.isAlpha = [] :=
  List.filter_eq_nil_iff.mpr fun c member => by simp [isAlpha_of_isDigit (areDigits c member)]

/-! ## Numerals -/

def Sign.spelled : Sign → List Char
  | .absent => []
  | .plus => ['+']
  | .minus => ['-']

theorem Sign.split_spelled (sign : Sign) {first : Char} (digit : first.isDigit = true)
    (rest : List Char) : Sign.split (sign.spelled ++ first :: rest) = (sign, first :: rest) := by
  cases sign with
  | plus => rfl
  | minus => rfl
  | absent =>
      change Sign.split (first :: rest) = (.absent, first :: rest)
      unfold Sign.split
      split
      · rename_i same
        cases same
        cases digit
      · rename_i same
        cases same
        cases digit
      · rfl

theorem Sign.spelled_split (text : List Char) :
    (Sign.split text).1.spelled ++ (Sign.split text).2 = text := by
  unfold Sign.split
  split
  · rfl
  · rfl
  · rfl

theorem Sign.letters (sign : Sign) : sign.spelled.filter Char.isAlpha = [] := by
  cases sign with
  | absent => rfl
  | plus => rfl
  | minus => rfl

namespace Numeral

theorem natOfDigits_repr (n : Nat) : natOfDigits (Nat.repr n).toList = n := by
  rw [Nat.toList_repr]
  exact Nat.ofDigitChars_toDigits (by decide) (by decide)

theorem natOfDigits_append_zeros (digits : List Char) (count : Nat) :
    natOfDigits (digits ++ List.replicate count '0') =
      natOfDigits digits * Double.powerOfTen count := by
  have shifted : Nat.ofDigitChars 10 (digits ++ List.replicate count '0') 0 =
      10 ^ count * Nat.ofDigitChars 10 digits 0 := by
    rw [Nat.ofDigitChars_append, Nat.ofDigitChars_replicate_zero]
  exact shifted.trans (Nat.mul_comm _ _)

theorem natOfDigits_cons (first : Char) (rest : List Char) :
    natOfDigits (first :: rest) = 10 ^ rest.length * (first.toNat - 48) + natOfDigits rest := by
  have shifted : Nat.ofDigitChars 10 (first :: rest) 0 =
      10 ^ rest.length * (10 * 0 + (first.toNat - 48)) + Nat.ofDigitChars 10 rest 0 := by
    rw [Nat.ofDigitChars_cons, Nat.ofDigitChars_eq_ofDigitChars_zero]
    rfl
  rwa [Nat.mul_zero, Nat.zero_add] at shifted

theorem natOfDigits_concat (digits : List Char) (last : Char) :
    natOfDigits (digits ++ [last]) = 10 * natOfDigits digits + (last.toNat - 48) :=
  List.foldl_append

theorem natOfDigits_append (before digits : List Char) :
    natOfDigits (before ++ digits) =
      10 ^ digits.length * natOfDigits before + natOfDigits digits := by
  have shifted : Nat.ofDigitChars 10 (before ++ digits) 0 =
      10 ^ digits.length * Nat.ofDigitChars 10 before 0 + Nat.ofDigitChars 10 digits 0 := by
    rw [Nat.ofDigitChars_append, Nat.ofDigitChars_eq_ofDigitChars_zero]
  exact shifted

theorem natOfDigits_le_append (before digits : List Char) :
    natOfDigits before ≤ natOfDigits (before ++ digits) := by
  rw [natOfDigits_append]
  exact Nat.le_add_right_of_le (Nat.le_mul_of_pos_left _ (Nat.pow_pos (by decide)))

theorem natOfDigits_lt {digits : List Char} (areDigits : AreDigits digits) :
    natOfDigits digits < 10 ^ digits.length := by
  induction digits with
  | nil => exact Nat.one_pos
  | cons first rest ih =>
      obtain ⟨digit, others⟩ := List.forall_mem_cons.mp areDigits
      have most : first.toNat - 48 ≤ 9 := by
        obtain ⟨-, high⟩ := toNat_of_isDigit digit
        omega
      have below := ih others
      have scaled := Nat.mul_le_mul_left (10 ^ rest.length) most
      rw [natOfDigits_cons, List.length_cons, Nat.pow_succ]
      omega

def fractionSpelled : Option (List Char) → List Char
  | none => []
  | some digits => '.' :: digits

def exponentSpelled : Option (Sign × List Char) → List Char
  | none => []
  | some (sign, digits) => 'e' :: (sign.spelled ++ digits)

def spelled (numeral : Numeral) : List Char :=
  numeral.sign.spelled ++ (numeral.whole ++
    (fractionSpelled numeral.fraction ++ exponentSpelled numeral.exponent))

/-- The parts of a numeral are digits, and only the fraction may have none. -/
structure WellFormed (numeral : Numeral) : Prop where
  filled : numeral.whole ≠ []
  whole : AreDigits numeral.whole
  fraction : ∀ digits, numeral.fraction = some digits → AreDigits digits
  exponent : ∀ sign digits, numeral.exponent = some (sign, digits) → digits ≠ [] ∧ AreDigits digits

section WellFormed

variable {numeral : Numeral}

private theorem head_exponentSpelled (exponent : Option (Sign × List Char)) :
    ∀ c ∈ (exponentSpelled exponent).head?, c.isDigit = false := by
  cases exponent with
  | none => exact nofun
  | some parts =>
      intro c first
      cases first
      rfl

theorem WellFormed.readExponent (wellFormed : numeral.WellFormed) :
    readExponent (exponentSpelled numeral.exponent) = some numeral.exponent := by
  cases written : numeral.exponent with
  | none => rfl
  | some parts =>
      obtain ⟨sign, digits⟩ := parts
      obtain ⟨filled, areDigits⟩ := wellFormed.exponent sign digits written
      obtain ⟨first, rest, rfl⟩ := List.exists_cons_of_ne_nil filled
      have every : (first :: rest).all Char.isDigit = true := List.all_eq_true.mpr areDigits
      simp only [exponentSpelled, Numeral.readExponent,
        Sign.split_spelled sign (areDigits first List.mem_cons_self), every]
      rfl

theorem WellFormed.read? (wellFormed : numeral.WellFormed) :
    Numeral.read? numeral.spelled = some numeral := by
  have reads := wellFormed.readExponent
  obtain ⟨filled, areDigits, areDigits', -⟩ := wellFormed
  obtain ⟨sign, whole, fraction, exponent⟩ := numeral
  obtain ⟨first, others, rfl⟩ := List.exists_cons_of_ne_nil filled
  have split := sign.split_spelled (areDigits first List.mem_cons_self)
  cases fraction with
  | none =>
      obtain ⟨taken, dropped⟩ := areDigits.takeWhile (head_exponentSpelled exponent)
      simp only [List.cons_append] at taken dropped
      simp only [Numeral.read?, spelled, fractionSpelled, List.cons_append, List.nil_append, split,
        taken, dropped]
      cases exponent with
      | none => rfl
      | some parts => exact congrArg (Option.map _) reads
  | some digits =>
      have stops : ∀ c ∈ ('.' :: (digits ++ exponentSpelled exponent)).head?, c.isDigit = false := by
        intro c first
        cases first
        rfl
      obtain ⟨taken, dropped⟩ := areDigits.takeWhile stops
      obtain ⟨taken', dropped'⟩ := (areDigits' digits rfl).takeWhile (head_exponentSpelled exponent)
      simp only [List.cons_append] at taken dropped
      simp only [Numeral.read?, spelled, fractionSpelled, List.cons_append, split, taken, dropped,
        taken', dropped']
      exact congrArg (Option.map _) reads

theorem WellFormed.letters (wellFormed : numeral.WellFormed) :
    numeral.spelled.filter Char.isAlpha = if numeral.exponent.isSome then ['e'] else [] := by
  have fraction : (fractionSpelled numeral.fraction).filter Char.isAlpha = [] := by
    cases written : numeral.fraction with
    | none => rfl
    | some digits => exact (wellFormed.fraction digits written).letters
  have exponent : (exponentSpelled numeral.exponent).filter Char.isAlpha =
      if numeral.exponent.isSome then ['e'] else [] := by
    cases written : numeral.exponent with
    | none => rfl
    | some parts =>
        have digits := (wellFormed.exponent _ _ written).2.letters
        have mark : 'e'.isAlpha = true := rfl
        simp [exponentSpelled, Sign.letters, digits, mark]
  simp only [spelled, List.filter_append, Sign.letters, wellFormed.whole.letters, fraction, exponent,
    List.nil_append]

theorem WellFormed.not_blank (wellFormed : numeral.WellFormed) :
    ∀ c ∈ numeral.spelled, Text.isBlankChar c = false := by
  have sign (sign : Sign) : ∀ c ∈ sign.spelled, Text.isBlankChar c = false := by
    cases sign with
    | absent => exact nofun
    | plus => exact List.forall_mem_singleton.mpr rfl
    | minus => exact List.forall_mem_singleton.mpr rfl
  have digits {text : List Char} (areDigits : AreDigits text) :
      ∀ c ∈ text, Text.isBlankChar c = false :=
    fun c member => isBlankChar_of_isDigit (areDigits c member)
  have fraction : ∀ c ∈ fractionSpelled numeral.fraction, Text.isBlankChar c = false := by
    cases written : numeral.fraction with
    | none => exact nofun
    | some text =>
        exact List.forall_mem_cons.mpr ⟨rfl, digits (wellFormed.fraction text written)⟩
  have exponent : ∀ c ∈ exponentSpelled numeral.exponent, Text.isBlankChar c = false := by
    cases written : numeral.exponent with
    | none => exact nofun
    | some parts =>
        have areDigits := (wellFormed.exponent _ _ written).2
        exact List.forall_mem_cons.mpr
          ⟨rfl, List.forall_mem_append.mpr ⟨sign _, digits areDigits⟩⟩
  exact List.forall_mem_append.mpr ⟨sign _, List.forall_mem_append.mpr
    ⟨digits wellFormed.whole, List.forall_mem_append.mpr ⟨fraction, exponent⟩⟩⟩

end WellFormed

/-- A text in which a letter stands other than the mark of an exponent. -/
def Lettered (text : List Char) : Prop :=
  ∃ c ∈ text, c.isAlpha = true ∧ c ≠ 'e' ∧ c ≠ 'E'

theorem Lettered.of_append {first second : List Char} (lettered : Lettered (first ++ second))
    (letters : first.filter Char.isAlpha = []) : Lettered second := by
  obtain ⟨c, member, letter, other⟩ := lettered
  rcases List.mem_append.mp member with front | back
  · exact absurd letter (List.filter_eq_nil_iff.mp letters c front)
  · exact ⟨c, back, letter, other⟩

theorem Lettered.of_cons {first : Char} {rest : List Char} (lettered : Lettered (first :: rest))
    (mark : first.isAlpha = true → first = 'e' ∨ first = 'E') : Lettered rest := by
  obtain ⟨c, member, letter, other⟩ := lettered
  rcases List.mem_cons.mp member with rfl | back
  · exact absurd (mark letter) (not_or.mpr other)
  · exact ⟨c, back, letter, other⟩

private theorem areDigits_takeWhile (text : List Char) : AreDigits (text.takeWhile Char.isDigit) :=
  List.all_eq_true.mp List.all_takeWhile

private theorem readExponent_of_lettered {text : List Char} (lettered : Lettered text) :
    readExponent text = none := by
  cases text with
  | nil =>
      obtain ⟨c, member, -⟩ := lettered
      cases member
  | cons mark rest =>
      rw [readExponent]
      refine if_neg fun written => ?_
      simp only [Bool.and_eq_true, Bool.or_eq_true, beq_iff_eq, List.all_eq_true] at written
      obtain ⟨⟨isMark, -⟩, areDigits⟩ := written
      have behind := lettered.of_cons fun _ => isMark
      rw [← Sign.spelled_split rest] at behind
      obtain ⟨c, member, letter, -⟩ := behind.of_append (Sign.letters _)
      rw [isAlpha_of_isDigit (areDigits c member)] at letter
      cases letter

theorem read?_of_lettered {text : List Char} (lettered : Lettered text) : read? text = none := by
  -- The letter is none of the sign and of the digits, so it stands in what is left for an exponent.
  rw [← Sign.spelled_split text] at lettered
  have behind := lettered.of_append (Sign.letters _)
  rw [← List.takeWhile_append_dropWhile (p := Char.isDigit) (l := (Sign.split text).2)] at behind
  have tail := behind.of_append (areDigits_takeWhile _).letters
  simp only [read?]
  split
  · rename_i rest parted
    rw [parted] at tail
    have fraction := tail.of_cons nofun
    rw [← List.takeWhile_append_dropWhile (p := Char.isDigit) (l := rest)] at fraction
    have exponent := fraction.of_append (areDigits_takeWhile _).letters
    rw [readExponent_of_lettered exponent]
    rfl
  · rw [readExponent_of_lettered tail]
    rfl

end Numeral

/-! ## Texts of positive numbers -/

namespace Layout

/-- The sign and the digits of an exponent. -/
def exponentParts (exponent : Int) : Sign × List Char :=
  (if exponent < 0 then .minus else .plus, (Nat.repr exponent.natAbs).toList)

def signOf (negative : Bool) : Sign :=
  if negative then .minus else .absent

/-- The digits that a layout puts behind the point of a whole number. -/
def wholeFraction (layout : Layout) : Option (List Char) :=
  if layout.wholeMark.isEmpty then none else some ['0']

/-- A layout whose marks are those of numerals, so that its texts are read as such. -/
structure Readable (layout : Layout) : Prop where
  whole : layout.wholeMark.toList = Numeral.fractionSpelled layout.wholeFraction
  exponent : layout.plusMark = "+"

theorem readable_plain : plain.Readable :=
  ⟨rfl, rfl⟩

theorem readable_json : json.Readable :=
  ⟨rfl, rfl⟩

/-- The numerals that stand for the digits of a number with its point at the given place. -/
inductive Form (layout : Layout) (negative : Bool) (digits : List Char) (point : Int) :
    Numeral → Prop where
  | padded (inside : layout.lowest < point ∧ point ≤ layout.highest)
      (whole : digits.length ≤ point) :
      Form layout negative digits point
        ⟨signOf negative, digits ++ List.replicate (point - digits.length).toNat '0',
          layout.wholeFraction, none⟩
  | between (inside : layout.lowest < point ∧ point ≤ layout.highest) (positive : 0 < point)
      (short : point < digits.length) :
      Form layout negative digits point
        ⟨signOf negative, digits.take point.toNat, some (digits.drop point.toNat), none⟩
  | before (inside : layout.lowest < point ∧ point ≤ layout.highest) (front : point ≤ 0) :
      Form layout negative digits point
        ⟨signOf negative, ['0'], some (List.replicate (-point).toNat '0' ++ digits), none⟩
  | scientific (outside : ¬ (layout.lowest < point ∧ point ≤ layout.highest)) :
      Form layout negative digits point
        ⟨signOf negative, digits.take 1,
          if (digits.drop 1).isEmpty then none else some (digits.drop 1),
          some (exponentParts (point - 1))⟩

section Form

variable {layout : Layout} {negative : Bool} {digits : List Char} {point : Int}
  {numeral : Numeral}

private theorem toList_sign (negative : Bool) :
    (sign negative).toList = (signOf negative).spelled := by
  cases negative with
  | true => rfl
  | false => rfl

theorem Readable.toList_exponentText (readable : layout.Readable) (exponent : Int) :
    (layout.exponentText exponent).toList =
      (exponentParts exponent).1.spelled ++ (exponentParts exponent).2 := by
  rw [exponentText, exponentParts, String.toList_append, readable.exponent]
  split
  · rfl
  · rfl

theorem Readable.exists_form (readable : layout.Readable) (negative : Bool) (digits : List Char)
    (point : Int) :
    ∃ numeral, Form layout negative digits point numeral ∧
      (sign negative).toList ++ (layout.positive digits point).toList = numeral.spelled := by
  by_cases inside : layout.lowest < point ∧ point ≤ layout.highest
  · rw [positive_inside inside]
    by_cases whole : digits.length ≤ point
    · refine ⟨_, .padded inside whole, ?_⟩
      simp [if_pos whole, toList_sign, toList_zeros, readable.whole, Numeral.spelled,
        Numeral.exponentSpelled]
    · rw [if_neg whole]
      by_cases positive : 0 < point
      · refine ⟨_, .between inside positive (Int.not_le.mp whole), ?_⟩
        simp [if_pos positive, toList_sign, Numeral.spelled, Numeral.fractionSpelled,
          Numeral.exponentSpelled]
      · refine ⟨_, .before inside (Int.not_lt.mp positive), ?_⟩
        simp [if_neg positive, toList_sign, toList_zeros, Numeral.spelled, Numeral.fractionSpelled,
          Numeral.exponentSpelled]
  · refine ⟨_, .scientific inside, ?_⟩
    rw [positive_outside inside]
    cases (digits.drop 1).isEmpty with
    | true =>
        simp [toList_sign, readable.toList_exponentText, Numeral.spelled, Numeral.fractionSpelled,
          Numeral.exponentSpelled]
    | false =>
        simp [toList_sign, readable.toList_exponentText, Numeral.spelled, Numeral.fractionSpelled,
          Numeral.exponentSpelled]

theorem Form.sign (form : Form layout negative digits point numeral) :
    numeral.sign = signOf negative := by
  cases form <;> rfl

theorem Form.wellFormed (form : Form layout negative digits point numeral) (filled : digits ≠ [])
    (areDigits : AreDigits digits) : numeral.WellFormed := by
  have front (count : Nat) : AreDigits (digits.take count) :=
    fun c member => areDigits c (List.mem_of_mem_take member)
  have back (count : Nat) : AreDigits (digits.drop count) :=
    fun c member => areDigits c (List.mem_of_mem_drop member)
  cases form with
  | padded =>
      refine ⟨List.append_ne_nil_of_left_ne_nil filled _, areDigits.append (areDigits_zeros _), ?_,
        fun _ _ => nofun⟩
      intro text written
      dsimp only [wholeFraction] at written
      split at written
      · cases written
      · cases written
        exact areDigits_zeros 1
  | between _ positive short =>
      refine ⟨?_, front _, ?_, fun _ _ => nofun⟩
      · rw [← List.length_pos_iff, List.length_take]
        omega
      · rintro text ⟨⟩
        exact back _
  | before =>
      refine ⟨List.cons_ne_nil _ _, areDigits_zeros 1, ?_, fun _ _ => nofun⟩
      rintro text ⟨⟩
      exact (areDigits_zeros _).append areDigits
  | scientific =>
      refine ⟨?_, front 1, ?_, ?_⟩
      · simpa using filled
      · intro text written
        split at written
        · cases written
        · cases written
          exact back 1
      · rintro sign text ⟨⟩
        refine ⟨?_, areDigits_repr _⟩
        rw [← List.length_pos_iff, String.length_toList]
        exact Nat.length_repr_pos

theorem Form.exponent (form : Form layout negative digits point numeral) :
    numeral.exponent.isSome = true ↔ layout.highest < point ∨ point ≤ layout.lowest := by
  cases form with
  | scientific outside =>
      refine iff_of_true rfl ?_
      omega
  | padded inside | between inside | before inside =>
      refine iff_of_false Bool.false_ne_true ?_
      omega

theorem Form.leading (form : Form layout negative digits point numeral) {first : Char}
    {others : List Char} (begins : digits = first :: others) (nonzero : first ≠ '0')
    {rest : List Char} (zero : numeral.whole = '0' :: rest) : rest = [] := by
  subst begins
  cases form with
  | before => exact (List.cons.inj zero).2.symm
  | padded => exact absurd (List.cons.inj zero).1 nonzero
  | between _ positive =>
      obtain ⟨count, place⟩ := Nat.exists_eq_succ_of_ne_zero (show point.toNat ≠ 0 by omega)
      rw [place, List.take_succ_cons] at zero
      exact absurd (List.cons.inj zero).1 nonzero
  | scientific => exact (List.cons.inj zero).2.symm

end Form

end Layout

end ChatTemplate
