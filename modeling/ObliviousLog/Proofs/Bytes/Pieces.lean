import ObliviousLog.Bytes

/-!
# Pieces of byte strings

A string that is cut into pieces of one length is read window by window, and parts of one length
that are put end to end are found again by cutting.
-/

namespace ObliviousLog
namespace Bytes

/-- Piece number `index` of a string that is cut into pieces of `size` bytes. -/
def window (bytes : Bytes) (size index : Nat) : Bytes :=
  (bytes.drop (index * size)).take size

theorem length_window
    {bytes : Bytes}
    {size count index : Nat}
    (fills : bytes.length = count * size)
    (inside : index < count) :
    (bytes.window size index).length = size := by
  have room : (index + 1) * size ≤ count * size := Nat.mul_le_mul_right size inside
  rw [Nat.add_mul] at room
  rw [window, List.length_take, List.length_drop]
  omega

/-- A small window of a large window is a window of the whole. -/
theorem window_window
    (bytes : Bytes)
    (size outer : Nat)
    {count inner : Nat}
    (inside : inner < count) :
    (bytes.window (count * size) outer).window size inner =
      bytes.window size (outer * count + inner) := by
  have room : (inner + 1) * size ≤ count * size := Nat.mul_le_mul_right size inside
  rw [Nat.succ_mul] at room
  rw [window, window, window, List.drop_take, List.drop_drop, List.take_take, Nat.add_mul,
    Nat.mul_assoc, Nat.min_eq_left (by omega)]

/-- The pieces of a string are its windows in order. -/
theorem pieces_eq_map_window (size count : Nat) (bytes : Bytes) :
    bytes.pieces size count = (List.range count).map (bytes.window size) := by
  induction count generalizing bytes with
  | zero => rfl
  | succ count inductionHypothesis =>
      have later : window (bytes.drop size) size = bytes.window size ∘ Nat.succ := by
        funext index
        rw [Function.comp, window, window, List.drop_drop, Nat.succ_mul, Nat.add_comm]
      rw [pieces, inductionHypothesis, later, List.range_succ_eq_map, List.map_cons, List.map_map,
        window, Nat.zero_mul, List.drop_zero]

variable {α : Type} {size : Nat} {part : α → Bytes} {items : List α}

theorem length_flatMap_of_sized (sized : ∀ item ∈ items, (part item).length = size) :
    (items.flatMap part).length = items.length * size := by
  induction items with
  | nil => exact (Nat.zero_mul size).symm
  | cons first rest inductionHypothesis =>
      rw [List.flatMap_cons, List.length_append, sized first List.mem_cons_self,
        inductionHypothesis fun item member => sized item (List.mem_cons_of_mem first member),
        List.length_cons, Nat.succ_mul, Nat.add_comm]

/-- Parts of one length that are put end to end are found again by cutting. -/
theorem pieces_flatMap (sized : ∀ item ∈ items, (part item).length = size) :
    pieces size items.length (items.flatMap part) = items.map part := by
  induction items with
  | nil => rfl
  | cons first rest inductionHypothesis =>
      have firstSized := sized first List.mem_cons_self
      rw [List.length_cons, pieces, List.flatMap_cons, List.take_left' firstSized,
        List.drop_left' firstSized,
        inductionHypothesis fun item member => sized item (List.mem_cons_of_mem first member),
        List.map_cons]

theorem forBits_pos {bits : Nat} (positive : 0 < bits) : 0 < forBits bits := by
  unfold forBits
  omega

end Bytes
end ObliviousLog
