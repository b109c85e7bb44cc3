import ObliviousLog.Proofs.Bytes.Pieces
import ObliviousLog.Proofs.Table.Reachable
import ObliviousLog.Random.ChaCha

/-!
# The layout of reachable tables

However a table was built, its two arrays keep the lengths that its geometry asks for.  An occupied
slot records two existing buckets and lies in one of them, so that a victim's other bucket can be
told from where it was found.  A free slot keeps no trace of an earlier item, in its record or in
its bytes.
-/

namespace ObliviousLog
namespace Table

variable {G : Type}

/-- The bytes of a slot are a window of the bytes of the table. -/
theorem payloadAt_eq_window (table : Table G) (index : Nat) :
    table.payloadAt index = table.data.window table.geometry.itemSize index := by
  rw [payloadAt, Array.toList_extract, List.extract_eq_take_drop, Nat.add_sub_cancel_left]
  rfl

/-- The key in an occupied slot is that of its record. -/
theorem keyAt?_of_filled
    {table : Table G}
    {index : Nat}
    {slot : Slot}
    (found : table.slots[index]? = some slot)
    (filled : slot.filled = true) :
    table.keyAt? index = some slot.toKey := by
  rw [keyAt?, found, Option.bind_some, Slot.key?, if_pos filled]

theorem keyAt?_of_unfilled
    {table : Table G}
    {index : Nat}
    {slot : Slot}
    (found : table.slots[index]? = some slot)
    (unfilled : slot.filled = false) :
    table.keyAt? index = none := by
  rw [keyAt?, found, Option.bind_some, Slot.key?, unfilled, if_neg Bool.false_ne_true]

variable [CoinSource G]

/-- After any insertions and removals, accepted or not, both arrays have the lengths that the
geometry asks for, every occupied slot lies in one of the two existing buckets that it records, and
every free slot has the record of a slot that was never used and is wiped. -/
theorem Reachable.layout
    {table : Table G}
    (reachable : table.Reachable) :
    table.slots.size = table.geometry.numBuckets * table.geometry.bucketDepth ∧
      table.data.length =
        table.geometry.numBuckets * table.geometry.bucketDepth * table.geometry.itemSize ∧
      ∀ (index : Nat) (slot : Slot), table.slots[index]? = some slot →
        (slot.filled = true →
          slot.bucket1 < table.geometry.numBuckets ∧
          slot.bucket2 < table.geometry.numBuckets ∧
          (index / table.geometry.bucketDepth = slot.bucket1 ∨
            index / table.geometry.bucketDepth = slot.bucket2)) ∧
        (slot.filled = false →
          slot = Slot.free ∧
          table.data.window table.geometry.itemSize index =
            Bytes.zeros table.geometry.itemSize) := by
  have valid := reachable.valid
  refine ⟨valid.size_slots, valid.size_buffer, ?_⟩
  intro index slot found
  constructor
  · intro filled
    have occupied := keyAt?_of_filled found filled
    exact ⟨valid.bucket1_lt occupied, valid.bucket2_lt occupied, valid.home occupied⟩
  · intro unfilled
    have inside : index < table.geometry.capacity := by
      rw [← valid.size_slots]
      exact (Array.getElem?_eq_some_iff.mp found).1
    have wiped := valid.wiped inside (keyAt?_of_unfilled found unfilled)
    rw [payloadAt_eq_window] at wiped
    exact ⟨valid.blank found unfilled, wiped⟩

/-- Two buckets of a single one-byte slot. -/
def twoSlots : Geometry :=
  ⟨2, 1, 1, Nat.two_pos, Nat.one_pos, Nat.one_pos, Nat.le_of_ble_eq_true rfl⟩

/-- A table of two slots that were both filled, of which one was freed and then refused a misfit. -/
theorem layout_of_twoSlots :
    ∃ table : Table ChaCha,
      table.Reachable ∧
      table.slots.size = 2 ∧
      table.data.length = 2 ∧
      table.slots[1]? = some ⟨⟨2, 0, 1⟩, true⟩ ∧
      (1 / 1 = 0 ∨ 1 / 1 = 1) ∧
      table.slots[0]? = some ⟨⟨0, 0, 0⟩, false⟩ ∧
      table.data.window 1 0 = [0] := by
  have filled :=
    ((Reachable.empty twoSlots 0 : (empty twoSlots 0 : Table ChaCha).Reachable).insert
      ⟨⟨1, 0, 1⟩, [5]⟩).insert ⟨⟨2, 0, 1⟩, [6]⟩
  obtain ⟨table, reachable, geometry, occupied, free⟩ :
      ∃ table : Table ChaCha, table.Reachable ∧ table.geometry = twoSlots ∧
        table.slots[1]? = some ⟨⟨2, 0, 1⟩, true⟩ ∧
        table.slots[0]?.map Slot.filled = some false :=
    ⟨_, (filled.remove ⟨1, 0, 1⟩).insert ⟨⟨3, 0, 2⟩, [7]⟩, by decide +kernel⟩
  obtain ⟨slots, bytes, records⟩ := reachable.layout
  obtain ⟨slot, found, unfilled⟩ := Option.map_eq_some_iff.mp free
  obtain ⟨blank, wiped⟩ := (records 0 slot found).2 unfilled
  obtain ⟨_, _, atHome⟩ := (records 1 _ occupied).1 rfl
  rw [geometry] at slots bytes atHome wiped
  exact ⟨table, reachable, slots, bytes, occupied, atHome, found.trans (congrArg some blank), wiped⟩

end Table
end ObliviousLog
