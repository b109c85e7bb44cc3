import ObliviousLog.Bytes
import Mathlib.Algebra.Group.Nat.Defs

/-!
# The algebra of exclusive or

Byte strings of one length are a group under exclusive or, in which every string is its own inverse.
Exclusive or goes through concatenation and through little-endian numbers, and each bit of it is
decided by the two bits in its place.
-/

namespace ObliviousLog
namespace Bytes

@[simp] theorem xor_cons (leftByte rightByte : UInt8) (left right : Bytes) :
    xor (leftByte :: left) (rightByte :: right) = (leftByte ^^^ rightByte) :: left.xor right := rfl

@[simp] theorem zeros_succ (length : Nat) : zeros (length + 1) = 0 :: zeros length := rfl

/-! ## Group laws -/

theorem xor_comm (left right : Bytes) : left.xor right = right.xor left :=
  List.zipWith_comm_of_comm UInt8.xor_comm

theorem xor_assoc (first second third : Bytes) :
    (first.xor second).xor third = first.xor (second.xor third) := by
  induction first generalizing second third with
  | nil => rfl
  | cons firstByte first inductionHypothesis =>
      cases second with
      | nil => rfl
      | cons secondByte second =>
          cases third with
          | nil => rfl
          | cons thirdByte third =>
              rw [xor_cons, xor_cons, xor_cons, xor_cons, UInt8.xor_assoc, inductionHypothesis]

/-- A sum of two sums can be taken crosswise. -/
theorem xor_xor_xor_comm (first second third fourth : Bytes) :
    (first.xor second).xor (third.xor fourth) = (first.xor third).xor (second.xor fourth) := by
  rw [xor_assoc, xor_assoc, ← xor_assoc second, xor_comm second third, xor_assoc third]

@[simp] theorem xor_zeros (bytes : Bytes) : bytes.xor (zeros bytes.length) = bytes := by
  induction bytes with
  | nil => rfl
  | cons byte bytes inductionHypothesis =>
      rw [List.length_cons, zeros_succ, xor_cons, UInt8.xor_zero, inductionHypothesis]

theorem xor_zeros_of_length
    {bytes : Bytes}
    {length : Nat}
    (isLength : bytes.length = length) :
    bytes.xor (zeros length) = bytes := by
  rw [← isLength, xor_zeros]

@[simp] theorem xor_self (bytes : Bytes) : bytes.xor bytes = zeros bytes.length := by
  induction bytes with
  | nil => rfl
  | cons byte bytes inductionHypothesis =>
      rw [xor_cons, UInt8.xor_self, inductionHypothesis, List.length_cons, zeros_succ]

/-- What was added last cancels when it is added again. -/
theorem xor_xor_cancel_right
    {bytes other : Bytes}
    (same : bytes.length = other.length) :
    (bytes.xor other).xor other = bytes := by
  rw [xor_assoc, xor_self, xor_zeros_of_length same]

theorem xor_append
    {left right : Bytes}
    (same : left.length = right.length)
    (leftRest rightRest : Bytes) :
    (left ++ leftRest).xor (right ++ rightRest) = left.xor right ++ leftRest.xor rightRest :=
  List.zipWith_append same

/-! ## Bits -/

@[simp] theorem bit_zeros (length index : Nat) : (zeros length).bit index = false := by
  have blank : (zeros length).getD (index / 8) 0 = 0 := by
    rw [zeros, List.getD_eq_getElem?_getD, List.getElem?_replicate]
    split <;> rfl
  rw [bit, blank]
  exact Nat.zero_testBit _

theorem getD_xor
    {left right : Bytes}
    (same : left.length = right.length)
    (index : Nat) :
    (left.xor right).getD index 0 = left.getD index 0 ^^^ right.getD index 0 := by
  rw [xor, List.getD_eq_getElem?_getD, List.getD_eq_getElem?_getD, List.getD_eq_getElem?_getD,
    List.getElem?_zipWith]
  by_cases inside : index < left.length
  · rw [List.getElem?_eq_getElem inside, List.getElem?_eq_getElem (same ▸ inside)]
    rfl
  · rw [List.getElem?_eq_none (Nat.le_of_not_lt inside),
      List.getElem?_eq_none (same ▸ Nat.le_of_not_lt inside)]
    rfl

/-- A bit of a sum is the sum of the bits in its place. -/
theorem bit_xor
    {left right : Bytes}
    (same : left.length = right.length)
    (index : Nat) :
    (left.xor right).bit index = (left.bit index ^^ right.bit index) := by
  rw [bit, getD_xor same, UInt8.toNat_xor, Nat.testBit_xor]
  rfl

/-! ## Little-endian numbers -/

theorem littleEndian_lt (bytes : Bytes) : bytes.littleEndian < 256 ^ bytes.length := by
  induction bytes with
  | nil => exact Nat.one_pos
  | cons byte bytes inductionHypothesis =>
      have small := byte.toNat_lt
      rw [littleEndian, List.length_cons, Nat.pow_succ]
      omega

/-- The digits of the number that a string spells are the string. -/
theorem ofLittleEndian_littleEndian (bytes : Bytes) :
    ofLittleEndian bytes.length bytes.littleEndian = bytes := by
  induction bytes with
  | nil => rfl
  | cons byte bytes inductionHypothesis =>
      have small := byte.toNat_lt
      have rest : (byte.toNat + 256 * littleEndian bytes) / 256 = littleEndian bytes := by omega
      have first : UInt8.ofNat (byte.toNat + 256 * littleEndian bytes) = byte := by
        apply UInt8.toNat.inj
        rw [UInt8.toNat_ofNat']
        omega
      rw [littleEndian, List.length_cons, ofLittleEndian, first, rest, inductionHypothesis]

theorem ofLittleEndian_xor (length left right : Nat) :
    ofLittleEndian length (left ^^^ right) =
      (ofLittleEndian length left).xor (ofLittleEndian length right) := by
  induction length generalizing left right with
  | zero => rfl
  | succ length inductionHypothesis =>
      have quotient : (left ^^^ right) / 256 = left / 256 ^^^ right / 256 :=
        Nat.xor_div_two_pow (n := 8)
      rw [ofLittleEndian, UInt8.ofNat_xor, quotient, inductionHypothesis]
      rfl

end Bytes
end ObliviousLog
