import ObliviousLog.Proofs.Table.Items
import ObliviousLog.Proofs.Table.Layout
import Mathlib.Data.List.ReduceOption

/-!
# A table bucket by bucket

The slots of all buckets, one bucket after the other, are all slots of a table.  Cutting the bytes
of a bucket into slots gives the payload of the item in each slot, or zeros where there is none.
-/

namespace ObliviousLog

/-- The buckets' slots, one bucket after the other, are all slots in order. -/
theorem Geometry.flatMap_bucketSlots (geometry : Geometry) (count : Nat) :
    (List.range count).flatMap geometry.bucketSlots =
      List.range (count * geometry.bucketDepth) := by
  induction count with
  | zero => rw [Nat.zero_mul, List.range_zero, List.flatMap_nil]
  | succ count inductionHypothesis =>
      rw [List.range_succ, List.flatMap_append, inductionHypothesis, List.flatMap_singleton,
        Nat.succ_mul, List.range_add]
      rfl

/-- The bytes of a slot of `size` bytes: the payload of the item in it, or zeros. -/
def slotBytes (size : Nat) : Option Item → Bytes
  | some item => item.payload
  | none => Bytes.zeros size

namespace Table

variable {G : Type}

/-- A bucket that exists is a window of the table's bytes. -/
theorem bucket_of_lt
    {table : Table G}
    {index : Nat}
    (inside : index < table.geometry.numBuckets) :
    table.bucket index = .ok (table.data.window table.geometry.bucketSize index) := by
  rw [bucket, checkBucket, if_pos inside]
  dsimp only
  rw [Array.toList_extract, List.extract_eq_take_drop, Nat.add_sub_cancel_left]
  rfl

/-- What the slots of a bucket hold, in order. -/
def occupants (table : Table G) (bucket : Nat) : List (Option Item) :=
  (table.geometry.bucketSlots bucket).map table.itemAt?

@[simp] theorem length_occupants (table : Table G) (bucket : Nat) :
    (table.occupants bucket).length = table.geometry.bucketDepth := by
  rw [occupants, Geometry.bucketSlots, List.length_map, List.length_map, List.length_range]

/-- The items in the slots of all buckets are all stored items. -/
theorem reduceOption_flatMap_occupants (table : Table G) :
    ((List.range table.geometry.numBuckets).flatMap table.occupants).reduceOption =
      table.items := by
  have inOrder :
      (List.range table.geometry.numBuckets).flatMap table.occupants =
        (List.range table.geometry.capacity).map table.itemAt? := by
    rw [Geometry.capacity, ← Geometry.flatMap_bucketSlots, List.map_flatMap]
    rfl
  rw [inOrder, List.reduceOption, List.filterMap_map, Function.id_comp, items]

/-- The bytes of an existing slot are the payload of the item in it, or zeros. -/
theorem Valid.payloadAt_eq_slotBytes
    {table : Table G}
    (valid : table.Valid)
    {index : Nat}
    (inside : index < table.geometry.capacity) :
    table.payloadAt index = slotBytes table.geometry.itemSize (table.itemAt? index) := by
  cases held : table.keyAt? index with
  | none =>
      rw [valid.wiped inside held, itemAt?, held]
      rfl
  | some key =>
      rw [itemAt?, held]
      rfl

/-- The bytes of an existing bucket, cut into slots, are the bytes of what the slots hold. -/
theorem Valid.pieces_window
    {table : Table G}
    (valid : table.Valid)
    {bucket : Nat}
    (inside : bucket < table.geometry.numBuckets) :
    (table.data.window table.geometry.bucketSize bucket).pieces
        table.geometry.itemSize table.geometry.bucketDepth =
      (table.occupants bucket).map (slotBytes table.geometry.itemSize) := by
  rw [Bytes.pieces_eq_map_window, occupants, Geometry.bucketSlots, List.map_map, List.map_map]
  refine List.map_congr_left fun depth member => ?_
  have depthInside := List.mem_range.mp member
  have slotInside : table.geometry.slotIndex bucket depth < table.geometry.capacity := by
    rw [Geometry.lt_capacity_iff, table.geometry.slotIndex_div bucket depthInside]
    exact inside
  rw [Geometry.bucketSize, Bytes.window_window _ _ _ depthInside, Function.comp_apply,
    Function.comp_apply, ← valid.payloadAt_eq_slotBytes slotInside, payloadAt_eq_window,
    Geometry.slotIndex]

/-- An item in a slot of a bucket may live in that bucket. -/
theorem Valid.allows_of_mem_occupants
    {table : Table G}
    (valid : table.Valid)
    {bucket : Nat}
    {item : Item}
    (member : some item ∈ table.occupants bucket) :
    item.Allows bucket := by
  obtain ⟨index, isSlot, held⟩ := List.mem_map.mp member
  obtain ⟨key, occupied, rfl⟩ := Option.map_eq_some_iff.mp held
  rw [← (table.geometry.mem_bucketSlots bucket index).mp isSlot]
  exact valid.home occupied

end Table
end ObliviousLog
