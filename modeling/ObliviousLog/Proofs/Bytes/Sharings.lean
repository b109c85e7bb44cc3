import ObliviousLog.Proofs.Bytes.Sum
import Mathlib.Data.List.InsertIdx
import Mathlib.Data.List.Perm.Basic
import Mathlib.Data.Set.Function

/-!
# Sharings of a byte string

A sharing writes a string as the sum of several strings of its length.  All parts but one can be
chosen freely, and the one that is left is then decided.  Which part is left makes no difference:
leaving any of them out turns the sharings of a string into arbitrary lists of strings, each of
which is met exactly once.
-/

namespace ObliviousLog
namespace Bytes

/-- The lists of `count` strings of `length` bytes each. -/
def tuples (count length : Nat) : Set (List Bytes) :=
  {strings | strings.length = count ∧ ∀ bytes ∈ strings, bytes.length = length}

/-- The lists of `count` strings of `length` bytes each that add up to a given string. -/
def sharings (count length : Nat) (total : Bytes) : Set (List Bytes) :=
  {strings | strings ∈ tuples count length ∧ sum length strings = total}

instance : RightCommutative Bytes.xor where
  right_comm first second third := by
    rw [xor_assoc, xor_comm second, xor_assoc]

/-- A sum does not depend on the order of its strings. -/
theorem sum_perm
    {left right : List Bytes}
    (rearranged : left.Perm right)
    (size : Nat) :
    sum size left = sum size right :=
  rearranged.foldl_eq (zeros size)

/-- The list with one string more, at a given index, that makes it add up to `total`. -/
def complete (index length : Nat) (total : Bytes) (parts : List Bytes) : List Bytes :=
  parts.insertIdx index (total.xor (sum length parts))

section

variable {count length index : Nat} {total : Bytes}

theorem length_completion
    {parts : List Bytes}
    (totalSized : total.length = length)
    (sized : ∀ bytes ∈ parts, bytes.length = length) :
    (total.xor (sum length parts)).length = length := by
  rw [length_xor, totalSized, length_sum sized, Nat.min_self]

/-- A completed list is a sharing. -/
theorem complete_mem_sharings
    (inside : index ≤ count)
    (totalSized : total.length = length)
    {parts : List Bytes}
    (member : parts ∈ tuples count length) :
    complete index length total parts ∈ sharings (count + 1) length total := by
  obtain ⟨isCount, sized⟩ := member
  have addedSized := length_completion totalSized sized
  have inserted := List.perm_insertIdx (total.xor (sum length parts)) parts (isCount.symm ▸ inside)
  refine ⟨⟨?_, fun bytes stored => ?_⟩, ?_⟩
  · rw [complete, inserted.length_eq, List.length_cons, isCount]
  · rcases List.mem_cons.mp (inserted.subset stored) with rfl | part
    · exact addedSized
    · exact sized bytes part
  · rw [complete, sum_perm inserted, sum_cons addedSized sized,
      xor_xor_cancel_right (totalSized.trans (length_sum sized).symm)]

/-- Leaving a string out of a sharing leaves one string less. -/
theorem eraseIdx_mem_tuples
    (inside : index ≤ count)
    {strings : List Bytes}
    (member : strings ∈ tuples (count + 1) length) :
    strings.eraseIdx index ∈ tuples count length := by
  obtain ⟨isCount, sized⟩ := member
  refine ⟨?_, fun bytes kept => sized bytes (List.mem_of_mem_eraseIdx kept)⟩
  rw [List.length_eraseIdx_of_lt (by omega), isCount, Nat.add_sub_cancel]

/-- A sharing is what completes the list that is left when one of its strings is left out. -/
theorem complete_eraseIdx
    (inside : index ≤ count)
    {strings : List Bytes}
    (member : strings ∈ sharings (count + 1) length total) :
    complete index length total (strings.eraseIdx index) = strings := by
  obtain ⟨isTuple, isTotal⟩ := member
  have bounded : index < strings.length := by
    rw [isTuple.1]
    omega
  have restSized := (eraseIdx_mem_tuples inside isTuple).2
  have leftSized := isTuple.2 strings[index] (List.getElem_mem bounded)
  have split : sum length strings = strings[index].xor (sum length (strings.eraseIdx index)) := by
    rw [← sum_perm (List.getElem_cons_eraseIdx_perm bounded), sum_cons leftSized restSized]
  rw [complete, ← isTotal, split,
    xor_xor_cancel_right (leftSized.trans (length_sum restSized).symm),
    List.insertIdx_eraseIdx_getElem bounded]

/-- Leaving one string out is undone by completing, and the other way round. -/
theorem invOn_complete_eraseIdx (inside : index ≤ count) :
    Set.InvOn (complete index length total) (fun strings => strings.eraseIdx index)
      (sharings (count + 1) length total) (tuples count length) :=
  ⟨fun _ member => complete_eraseIdx inside member,
    fun _ _ => List.eraseIdx_insertIdx_self _⟩

/-- Every list of strings is what is left of exactly one sharing. -/
theorem eraseIdx_bijOn_sharings
    (inside : index ≤ count)
    (totalSized : total.length = length) :
    Set.BijOn (fun strings => strings.eraseIdx index)
      (sharings (count + 1) length total) (tuples count length) :=
  (invOn_complete_eraseIdx inside).bijOn
    (fun _ member => eraseIdx_mem_tuples inside member.1)
    fun _ member => complete_mem_sharings inside totalSized member

/-- Completing lists of strings gives every sharing exactly once. -/
theorem complete_bijOn_sharings
    (inside : index ≤ count)
    (totalSized : total.length = length) :
    Set.BijOn (complete index length total)
      (tuples count length) (sharings (count + 1) length total) :=
  (invOn_complete_eraseIdx inside).symm.bijOn
    (fun _ member => complete_mem_sharings inside totalSized member)
    fun _ member => eraseIdx_mem_tuples inside member.1

end

end Bytes
end ObliviousLog
