import ChatTemplate.Proofs.Double.Integral
import ChatTemplate.Value.Operation
import Mathlib.Algebra.Ring.Int.Defs

/-!
The operators on words. They are modular arithmetic on the integer parts of their operands: a word
is an integer modulo 2 ^ 32, whatever the size of the number that it comes from, and every result is
exact.
-/

set_option autoImplicit false

namespace ChatTemplate

namespace Double

variable {x : Double} {n : Int}

private theorem isInteger_wordCount : wordCount.IsInteger (0x100000000 : Nat) := by
  rw [wordCount, ofNat]
  exact isInteger_ofRatio false (by decide)

private theorem truncate_of_not_finite (infinite : x.isFinite = false) : x.truncate = 0 := by
  have nothing : x.magnitude = 0 := by
    cases x with
    | finite => cases infinite
    | _ => rfl
  rw [truncate_eq_withSign, nothing, Nat.zero_div]
  cases x.isNegative <;> rfl

theorem IsInteger.clampToWord (integer : x.IsInteger n) (low : 0 ≤ n) (high : n < 0x100000000) :
    x.clampToWord = BitVec.ofInt 32 n := by
  have value := integer.truncate
  have finite := integer.finite
  cases x with
  | finite =>
      have inside : min n.toNat 0xffffffff = n.toNat := by omega
      have same : BitVec.ofInt 32 n = BitVec.ofNat 32 n.toNat := by
        rw [← BitVec.ofInt_natCast, Int.toNat_of_nonneg low]
      rw [Double.clampToWord, value, inside, same]
  | _ => cases finite

/-- The word of a number is its integer part modulo 2 ^ 32, also where the number is far larger than
a word and where the remainder is negative. -/
theorem toWord_eq (x : Double) : x.toWord = BitVec.ofInt 32 x.truncate := by
  cases finite : x.isFinite with
  | false =>
      rw [toWord, finite, truncate_of_not_finite finite]
      rfl
  | true =>
      have rest := (isInteger_trunc finite).euclideanRem isInteger_wordCount (by decide) (by decide)
      have word := rest.clampToWord (by omega) (by omega)
      rw [toWord, finite, if_pos rfl, word]
      refine BitVec.eq_of_toNat_eq ?_
      rw [BitVec.toNat_ofInt, BitVec.toNat_ofInt]
      omega

private theorem shiftCount_eq (x : Double) : x.shiftCount = (x.truncate % 32).toNat := by
  have mask : (31 : BitVec 32).toNat = 2 ^ 5 - 1 := rfl
  rw [shiftCount, BitVec.toNat_and, mask, Nat.and_two_pow_sub_one_eq_mod, toWord_eq,
    BitVec.toNat_ofInt]
  omega

private theorem ofInt_natCast (n : Nat) : ofInt n = ofNat n := by
  have signless : ¬ (n : Int) < 0 := Int.not_lt.mpr (Int.natCast_nonneg n)
  simp [ofInt, ofNat, signless]

private theorem isInteger_ofInt_toInt (word : BitVec 32) :
    (ofInt word.toInt).IsInteger word.toInt := by
  have low := BitVec.le_toInt word
  have high := BitVec.toInt_lt (x := word)
  exact isInteger_ofInt (by omega)

private theorem toWord_ofSignedWord (word : BitVec 32) : (ofSignedWord word).toWord = word := by
  rw [toWord_eq, ofSignedWord, (isInteger_ofInt_toInt word).truncate, BitVec.ofInt_toInt]

private theorem isInteger_ofInt_toNat (word : BitVec 32) :
    (ofInt word.toNat).IsInteger word.toNat := by
  have high := word.isLt
  exact isInteger_ofInt (by omega)

end Double

/-! ## Words of integers -/

namespace Word

def residue (n : Int) : Nat :=
  (n % 2 ^ 32).toNat

/-- The integer modulo 2 ^ 32, read as signed: from -2 ^ 31 up to 2 ^ 31. -/
def signed (n : Int) : Int :=
  n.bmod (2 ^ 32)

variable (n : Int)

private theorem toNat_ofInt : (BitVec.ofInt 32 n).toNat = residue n :=
  BitVec.toNat_ofInt n

private theorem toInt_ofInt : (BitVec.ofInt 32 n).toInt = signed n :=
  BitVec.toInt_ofInt n

private theorem toInt_eq (word : BitVec 32) : word.toInt = signed word.toNat :=
  BitVec.toInt_eq_toNat_bmod word

private theorem natCast_residue : (residue n : Int) = n % 2 ^ 32 :=
  Int.toNat_of_nonneg (Int.emod_nonneg n (by decide))

theorem signed_residue : signed (residue n) = signed n := by
  rw [natCast_residue]
  exact Int.emod_bmod n (2 ^ 32)

theorem residue_zero : residue 0 = 0 :=
  rfl

theorem signed_signed : signed (signed n) = signed n :=
  Int.bmod_bmod

private theorem toInt_shiftLeft (count : Nat) :
    (BitVec.ofInt 32 n <<< count).toInt = signed (n * 2 ^ count) := by
  rw [BitVec.toInt_shiftLeft, toNat_ofInt, Nat.shiftLeft_eq, Int.natCast_mul, natCast_residue,
    Int.natCast_pow]
  exact Int.emod_mul_bmod n (2 ^ 32)

private theorem toInt_sshiftRight (count : Nat) :
    ((BitVec.ofInt 32 n).sshiftRight count).toInt = signed n / 2 ^ count := by
  rw [BitVec.toInt_sshiftRight, toInt_ofInt, Int.shiftRight_eq_div_pow, Int.natCast_pow]
  rfl

private theorem toNat_ushiftRight (count : Nat) :
    ((BitVec.ofInt 32 n >>> count).toNat : Int) = n % 2 ^ 32 / 2 ^ count := by
  rw [BitVec.toNat_ushiftRight, toNat_ofInt, Nat.shiftRight_eq_div_pow, Int.natCast_div,
    natCast_residue, Int.natCast_pow]
  rfl

private theorem toNat_not : (~~~BitVec.ofInt 32 n).toNat = residue n ^^^ 0xffffffff := by
  rw [← BitVec.xor_allOnes, BitVec.toNat_xor, toNat_ofInt]
  rfl

end Word

/-- What an operator on words makes of two integers of any size. The operators on bits work on the
integers modulo 2 ^ 32, and a shift multiplies or divides by a power of two, rounding down. Other
operators do not work on words. -/
def ArithmeticOperator.onIntegers? (operator : ArithmeticOperator) (n m : Int) : Option Int :=
  let power := 2 ^ (m % 32).toNat
  match operator with
  | .bitOr => some (Word.signed ↑(Word.residue n ||| Word.residue m))
  | .bitAnd => some (Word.signed ↑(Word.residue n &&& Word.residue m))
  | .bitXor => some (Word.signed ↑(Word.residue n ^^^ Word.residue m))
  | .shiftLeft => some (Word.signed (n * power))
  | .shiftRight => some (Word.signed n / power)
  | .unsignedShiftRight => some (n % 2 ^ 32 / power)
  | _ => none

theorem ArithmeticOperator.onNumbers_words {operator : ArithmeticOperator} {x y : Double} {n : Int}
    (onWords : operator.onIntegers? x.truncate y.truncate = some n) :
    operator.onNumbers x y = .ofInt n ∧ (Double.ofInt n).IsInteger n := by
  suffices (∃ word : BitVec 32, operator.onNumbers x y = .ofSignedWord word ∧ word.toInt = n) ∨
      ∃ word : BitVec 32, operator.onNumbers x y = .ofUnsignedWord word ∧ word.toNat = n by
    rcases this with ⟨word, result, rfl⟩ | ⟨word, result, rfl⟩
    · exact ⟨result, Double.isInteger_ofInt_toInt word⟩
    · rw [result, Double.ofUnsignedWord, ← Double.ofInt_natCast]
      exact ⟨rfl, Double.isInteger_ofInt_toNat word⟩
  cases operator with
  | bitOr =>
      refine .inl ⟨x.toWord ||| y.toWord, rfl, ?_⟩
      rw [← Option.some.inj onWords, Word.toInt_eq, BitVec.toNat_or, x.toWord_eq, y.toWord_eq,
        Word.toNat_ofInt, Word.toNat_ofInt]
  | bitAnd =>
      refine .inl ⟨x.toWord &&& y.toWord, rfl, ?_⟩
      rw [← Option.some.inj onWords, Word.toInt_eq, BitVec.toNat_and, x.toWord_eq, y.toWord_eq,
        Word.toNat_ofInt, Word.toNat_ofInt]
  | bitXor =>
      refine .inl ⟨x.toWord ^^^ y.toWord, rfl, ?_⟩
      rw [← Option.some.inj onWords, Word.toInt_eq, BitVec.toNat_xor, x.toWord_eq, y.toWord_eq,
        Word.toNat_ofInt, Word.toNat_ofInt]
  | shiftLeft =>
      refine .inl ⟨x.toWord <<< y.shiftCount, rfl, ?_⟩
      rw [← Option.some.inj onWords, x.toWord_eq, y.shiftCount_eq, Word.toInt_shiftLeft]
  | shiftRight =>
      refine .inl ⟨x.toWord.sshiftRight y.shiftCount, rfl, ?_⟩
      rw [← Option.some.inj onWords, x.toWord_eq, y.shiftCount_eq, Word.toInt_sshiftRight]
  | unsignedShiftRight =>
      refine .inr ⟨x.toWord >>> y.shiftCount, rfl, ?_⟩
      rw [← Option.some.inj onWords, x.toWord_eq, y.shiftCount_eq, Word.toNat_ushiftRight]
  | _ => cases onWords

namespace Value

/-- The integer as a value, exact if its size is below 2 ^ 53. -/
def integer (n : Int) : Value :=
  .number (Double.ofInt n)

/-- The result is the integer, exactly. -/
def Computes (result : Except Cause Value) (n : Int) : Prop :=
  result = .ok (integer n) ∧ (Double.ofInt n).IsInteger n

section Operands

variable {left right : Value} {x y : Double}

private theorem operand_of_toNumber (operator : String) (number : left.toNumber = .ok x) :
    operand operator left = .ok x := by
  rw [operand, number]

private theorem binary_of_numbers {operator : ArithmeticOperator} (number : left.toNumber = .ok x)
    (number' : right.toNumber = .ok y) (other : operator ≠ .add) :
    binary (.arithmetic operator) left right = .ok (.number (operator.onNumbers x y)) := by
  have first := operand_of_toNumber operator.text number
  have second := operand_of_toNumber operator.text number'
  cases operator with
  | add => exact absurd rfl other
  | _ =>
      rw [binary, arithmetic, first, second]
      · rfl
      · exact nofun

private theorem computes_of_onIntegers? {operator : ArithmeticOperator} {n : Int}
    (number : left.toNumber = .ok x) (number' : right.toNumber = .ok y)
    (onWords : operator.onIntegers? x.truncate y.truncate = some n) :
    Computes (binary (.arithmetic operator) left right) n := by
  have other : operator ≠ .add := by
    rintro rfl
    cases onWords
  obtain ⟨result, exact⟩ := ArithmeticOperator.onNumbers_words onWords
  exact ⟨by rw [binary_of_numbers number number' other, result, integer], exact⟩

private theorem bitNot_of_number {value : Value} (number : value.toNumber = .ok x) :
    unary .bitNot value = .ok (.number (.ofSignedWord (~~~x.toWord))) := by
  rw [unary, operand_of_toNumber _ number]
  rfl

private theorem isInteger_signed (n : Int) :
    (Double.ofInt (Word.signed n)).IsInteger (Word.signed n) :=
  Word.toInt_ofInt n ▸ Double.isInteger_ofInt_toInt (BitVec.ofInt 32 n)

private theorem computes_bitNot (number : left.toNumber = .ok x) :
    Computes (unary .bitNot left) (Word.signed ↑(Word.residue x.truncate ^^^ 0xffffffff)) := by
  refine ⟨?_, isInteger_signed _⟩
  rw [bitNot_of_number number, Double.ofSignedWord, x.toWord_eq, Word.toInt_eq, Word.toNat_not,
    integer]

/-- Operations that leave the bits of an operand as they are convert it to the signed reading of its
word. -/
theorem converts_of_number (number : left.toNumber = .ok x) :
    let converted := Except.ok (integer (Word.signed x.truncate))
    binary (.arithmetic .bitOr) left (.number (.zero false)) = converted ∧
      binary (.arithmetic .bitXor) left (.number (.zero false)) = converted ∧
      binary (.arithmetic .bitAnd) left left = converted ∧
      (unary .bitNot left >>= unary .bitNot) = converted := by
  have zero : (Double.zero false).truncate = 0 := (Double.isInteger_zero false).truncate
  have nothing : toNumber (.number (.zero false)) = .ok (.zero false) := rfl
  intro converted
  refine ⟨?_, ?_, ?_, ?_⟩
  · refine (computes_of_onIntegers? number nothing ?_).1
    rw [zero, ArithmeticOperator.onIntegers?, Word.residue_zero, Nat.or_zero, Word.signed_residue]
  · refine (computes_of_onIntegers? number nothing ?_).1
    rw [zero, ArithmeticOperator.onIntegers?, Word.residue_zero, Nat.xor_zero, Word.signed_residue]
  · refine (computes_of_onIntegers? number number ?_).1
    rw [ArithmeticOperator.onIntegers?, Nat.and_self, Word.signed_residue]
  · have word : toNumber (.number (.ofSignedWord (~~~x.toWord))) = .ok _ := rfl
    have again := bitNot_of_number word
    rw [Double.toWord_ofSignedWord, BitVec.not_not] at again
    rw [bitNot_of_number number]
    refine again.trans ?_
    rw [Double.ofSignedWord, x.toWord_eq, Word.toInt_ofInt]
    rfl

/-- The 32-bit operators are modular arithmetic on the integer parts of their operands, of whatever
size. Operations that leave all bits as they are convert an operand to the signed reading of its
word, and a second conversion changes nothing. -/
theorem words_computed (number : left.toNumber = .ok x) (number' : right.toNumber = .ok y) :
    (∀ operator n, ArithmeticOperator.onIntegers? operator x.truncate y.truncate = some n →
      Computes (binary (.arithmetic operator) left right) n) ∧
    Computes (unary .bitNot left) (Word.signed ↑(Word.residue x.truncate ^^^ 0xffffffff)) ∧
    (∃ converted,
      binary (.arithmetic .bitOr) left (.number (.zero false)) = .ok converted ∧
      binary (.arithmetic .bitXor) left (.number (.zero false)) = .ok converted ∧
      binary (.arithmetic .bitAnd) left left = .ok converted ∧
      (unary .bitNot left >>= unary .bitNot) = .ok converted ∧
      binary (.arithmetic .bitOr) converted (.number (.zero false)) = .ok converted) ∧
    ∃ n : Nat, Computes (binary (.arithmetic .unsignedShiftRight) left right) n := by
  refine ⟨fun operator n => computes_of_onIntegers? number number', computes_bitNot number, ?_, ?_⟩
  · obtain ⟨byOr, byXor, byAnd, byNot⟩ := converts_of_number number
    refine ⟨integer (Word.signed x.truncate), byOr, byXor, byAnd, byNot, ?_⟩
    have converted : toNumber (integer (Word.signed x.truncate)) = .ok _ := rfl
    have again := converts_of_number converted
    rw [(isInteger_signed x.truncate).truncate, Word.signed_signed] at again
    exact again.1
  · refine ⟨(BitVec.ofInt 32 x.truncate >>> (y.truncate % 32).toNat).toNat, ?_⟩
    rw [Word.toNat_ushiftRight]
    exact computes_of_onIntegers? number number' rfl

end Operands

/-- A number below all words, shifted by a negative count. -/
theorem depth_words_computed :
    let depth := Value.string "-4294967297.5"
    let count := Value.number (.ofInt (-31))
    depth.toNumber = .ok (numberOfText "-4294967297.5") ∧
      count.toNumber = .ok (.ofInt (-31)) ∧
      Computes (binary (.arithmetic .shiftLeft) depth count) (-2) ∧
      Computes (binary (.arithmetic .shiftRight) depth count) (-1) ∧
      Computes (binary (.arithmetic .unsignedShiftRight) depth count) 2147483647 ∧
      Computes (binary (.arithmetic .bitAnd) depth count) (-31) ∧
      Computes (unary .bitNot depth) 0 := by
  intro depth count
  have deep : (numberOfText "-4294967297.5").truncate = -4294967297 := by decide +kernel
  have short : (Double.ofInt (-31)).truncate = -31 := by decide +kernel
  have number : depth.toNumber = .ok (numberOfText "-4294967297.5") := rfl
  have number' : count.toNumber = .ok (.ofInt (-31)) := rfl
  obtain ⟨onWords, complement, -⟩ := words_computed number number'
  rw [deep, short] at onWords
  rw [deep] at complement
  exact ⟨number, number', onWords _ _ rfl, onWords _ _ rfl, onWords _ _ rfl, onWords _ _ rfl,
    complement⟩

end Value

end ChatTemplate
