import ChatTemplate.Double.Arithmetic

/-!
Numbers as 32-bit words: the truncated integer modulo 2 ^ 32, with NaN and the infinities as 0. The
reduction is made on the number, which can be far larger than a word.
-/

set_option autoImplicit false

namespace ChatTemplate.Double

def wordCount : Double := ofNat 0x100000000

/-- The word nearest to a number without its fractional part: 0 for negative numbers, the largest
word for numbers beyond it. NaN is 0. -/
def clampToWord : Double → BitVec 32
  | .nan => 0
  | .infinite negative => if negative then 0 else .allOnes 32
  | x@(.finite ..) => .ofNat 32 (min x.truncate.toNat 0xffffffff)

def toWord (x : Double) : BitVec 32 :=
  if x.isFinite then (x.trunc.euclideanRem wordCount).clampToWord else 0

def ofSignedWord (word : BitVec 32) : Double :=
  ofInt word.toInt

def ofUnsignedWord (word : BitVec 32) : Double :=
  ofNat word.toNat

/-- How far a shift by `x` goes: the last five bits of its word. -/
def shiftCount (x : Double) : Nat :=
  (x.toWord &&& 31).toNat

end ChatTemplate.Double
