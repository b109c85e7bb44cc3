import ObliviousLog.Pad.Keystream
import ObliviousLog.Proofs.Bytes.Xor
import Mathlib.Data.List.Induction

/-!
# Counter blocks

A counter block spells a number in base 256, most significant byte first.  Shifting bytes into a
counter of 128 bits reads that number, and cutting a counter into bytes spells it.
-/

namespace ObliviousLog

namespace Bytes

/-- The number whose base-256 digits are the bytes of a string, most significant first. -/
def bigEndian (bytes : Bytes) : Nat :=
  littleEndian bytes.reverse

/-- The `length` low-order base-256 digits of a number, most significant first. -/
def ofBigEndian (length value : Nat) : Bytes :=
  (ofLittleEndian length value).reverse

@[simp] theorem length_ofBigEndian (length value : Nat) :
    (ofBigEndian length value).length = length := by
  simp [ofBigEndian]

theorem bigEndian_concat (bytes : Bytes) (byte : UInt8) :
    bigEndian (bytes ++ [byte]) = 256 * bigEndian bytes + byte.toNat := by
  simp [bigEndian, littleEndian, Nat.add_comm]

/-- A digit is what is left of the number after division by its place value. -/
theorem getElem?_ofLittleEndian
    {length index : Nat}
    (inside : index < length)
    (value : Nat) :
    (ofLittleEndian length value)[index]? = some (UInt8.ofNat (value / 256 ^ index)) := by
  induction length generalizing index value with
  | zero => exact absurd inside (Nat.not_lt_zero index)
  | succ length inductionHypothesis =>
      cases index with
      | zero => simp [ofLittleEndian]
      | succ index =>
          rw [ofLittleEndian, List.getElem?_cons_succ,
            inductionHypothesis (Nat.lt_of_succ_lt_succ inside), Nat.div_div_eq_div_mul,
            Nat.pow_succ, Nat.mul_comm 256]

theorem getElem?_ofBigEndian
    {length index : Nat}
    (inside : index < length)
    (value : Nat) :
    (ofBigEndian length value)[index]? =
      some (UInt8.ofNat (value / 256 ^ (length - 1 - index))) := by
  rw [ofBigEndian, List.getElem?_reverse (by simpa using inside), length_ofLittleEndian,
    getElem?_ofLittleEndian (by omega)]

end Bytes

namespace Keystream

/-- Shifting a byte into a counter appends a digit to the number that the counter holds. -/
theorem ofNat_shiftLeft_or (value : Nat) (byte : UInt8) :
    BitVec.ofNat 128 value <<< 8 ||| byte.toBitVec.setWidth 128 =
      BitVec.ofNat 128 (256 * value + byte.toNat) := by
  have small : byte.toNat < 2 ^ 8 := byte.toNat_lt
  have joined : 256 * value + byte.toNat = value <<< 8 ||| byte.toNat := by
    rw [Nat.shiftLeft_eq, Nat.mul_comm value]
    exact Nat.two_pow_add_eq_or_of_lt small value
  have shifted : BitVec.ofNat 128 value <<< 8 = BitVec.ofNat 128 (value <<< 8) := by
    apply BitVec.eq_of_toNat_eq
    simp [Nat.shiftLeft_eq]
  rw [joined, BitVec.ofNat_or, shifted, ← BitVec.ofNat_toNat]
  rfl

/-- The counter in a block is the number that the block spells. -/
theorem counterOfBlock_eq (block : Block) :
    counterOfBlock block = BitVec.ofNat 128 (Bytes.bigEndian block.toList) := by
  rw [counterOfBlock, ← Vector.foldl_toList]
  induction block.toList using List.reverseRecOn with
  | nil => rfl
  | append_singleton bytes byte inductionHypothesis =>
      rw [List.foldl_append, inductionHypothesis, Bytes.bigEndian_concat, ← ofNat_shiftLeft_or]
      rfl

/-- The block of a counter spells its number. -/
theorem toList_blockOfCounter (counter : BitVec 128) :
    (blockOfCounter counter).toList = Bytes.ofBigEndian 16 counter.toNat := by
  apply List.ext_getElem?
  intro index
  by_cases inside : index < 16
  · have placeValue : 256 ^ (15 - index) = 2 ^ (120 - 8 * index) := by
      rw [show 120 - 8 * index = 8 * (15 - index) by omega, Nat.pow_mul]
    have digit :
        UInt8.ofBitVec (counter.extractLsb' (120 - 8 * index) 8) =
          UInt8.ofNat (counter.toNat / 256 ^ (15 - index)) := by
      apply UInt8.toNat.inj
      rw [placeValue, UInt8.toNat_ofNat', UInt8.toNat_ofBitVec, BitVec.extractLsb'_toNat,
        Nat.shiftRight_eq_div_pow]
    rw [Bytes.getElem?_ofBigEndian inside, ← digit, blockOfCounter, Vector.toList_ofFn,
      List.getElem?_ofFn, dif_pos inside]
  · rw [List.getElem?_eq_none (by simpa using inside),
      List.getElem?_eq_none (by simpa using inside)]

end Keystream
end ObliviousLog
