/-!
# Signed words

A word of thirty-two bits is read as a signed number by taking the span off from half the
span on.  Status codes and coordinates are such numbers, and they are told as words, or given
as words, at the edges of the library.

The main statements are that a word's signed reading is what it is converted to
(`toInt_toInt32`), and that a signed number goes back to the word that is its remainder
modulo the span (`toNat_toUInt32`).
-/

namespace DesktopCapture

/-- The signed reading of a word. -/
def signedWord (word : Nat) : Int :=
  if word < 0x80000000 then word else word - 0x100000000

theorem toInt_toInt32 (word : UInt32) : word.toInt32.toInt = signedWord word.toNat := by
  have hsigned : word.toInt32.toInt = if 2 * word.toNat < 0x100000000 then
      (word.toNat : Int) else word.toNat - (0x100000000 : Nat) :=
    BitVec.toInt_eq_toNat_cond word.toBitVec
  rw [hsigned, signedWord]
  split <;> split <;> omega

theorem toNat_toUInt32 (number : Int32) :
    (number.toUInt32.toNat : Int) = number.toInt % 0x100000000 := by
  have hword := number.toUInt32.toNat_lt
  rw [← Int32.toInt32_toUInt32 number, toInt_toInt32, signedWord]
  simp only [Int32.toInt32_toUInt32]
  split <;> omega

/-- A signed reading is as far from zero as the word, or as the word is from the span. -/
theorem natAbs_signedWord {word : Nat} (hword : word < 0x100000000) :
    (signedWord word).natAbs = if word ≤ 0x80000000 then word else 0x100000000 - word := by
  unfold signedWord
  split <;> split <;> omega

end DesktopCapture
