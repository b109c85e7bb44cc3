import ObliviousLog.Proofs.Table.Items
import ObliviousLog.Proofs.Table.Reachable

/-!
# Removal by key

A valid table holds every key in one of the two buckets in which a removal looks for it, so that a
removal of a held key always succeeds.  It takes out one item under that key and leaves all others.
The keys of the occupied slots, as a collection, lose one occurrence of the key.
-/

namespace ObliviousLog

/-- A coin's candidate and the other bucket are all the buckets that a key allows. -/
theorem Key.eq_candidate_or_otherBucket
    {key : Key}
    {bucket : Nat}
    (allowed : key.Allows bucket)
    (heads : Bool) :
    bucket = key.candidate heads ∨ bucket = key.otherBucket (key.candidate heads) := by
  cases heads with
  | true => grind [Key.Allows, Key.candidate, Key.otherBucket]
  | false => grind [Key.Allows, Key.candidate, Key.otherBucket]

namespace Table

variable {G : Type}

/-! ## The keys of a table -/

/-- The keys of the occupied slots, in the order of the slots. -/
def keys (table : Table G) : List Key :=
  table.slots.toList.filterMap Slot.key?

/-- The key of the item in a slot is the key in the slot. -/
theorem map_toKey_itemAt? (table : Table G) (index : Nat) :
    (table.itemAt? index).map Item.toKey = table.keyAt? index := by
  rw [itemAt?, Option.map_map]
  exact Option.map_id'

theorem map_toKey_items
    {table : Table G}
    (sized : table.Sized) :
    table.items.map Item.toKey = table.keys := by
  rw [keys, ← Function.id_comp Slot.key?, ← List.filterMap_map, map_key?_slots sized,
    List.filterMap_map, items, List.map_filterMap]
  exact List.filterMap_congr fun index _ => table.map_toKey_itemAt? index

theorem length_keys
    {table : Table G}
    (sized : table.Sized) :
    table.keys.length = table.count := by
  rw [← map_toKey_items sized, List.length_map, count_eq_length_items sized]

/-- A key of a table is held by one of its slots. -/
theorem exists_slot_of_mem_keys
    {table : Table G}
    {key : Key}
    (member : key ∈ table.keys) :
    ∃ index, table.keyAt? index = some key := by
  obtain ⟨slot, memberSlot, holds⟩ := List.mem_filterMap.mp member
  obtain ⟨index, found⟩ := List.mem_iff_getElem?.mp memberSlot
  rw [Array.getElem?_toList] at found
  exact ⟨index, by rw [keyAt?, found, Option.bind_some, holds]⟩

/-! ## Finding a key -/

/-- A bucket with a slot that holds a key is found to hold it. -/
theorem slotOf?_isSome
    {table : Table G}
    {index : Nat}
    {key : Key}
    (held : table.keyAt? index = some key) :
    (table.slotOf? (index / table.geometry.bucketDepth) key).isSome := by
  rw [slotOf?, List.find?_isSome]
  exact ⟨index, (table.geometry.mem_bucketSlots _ index).mpr rfl, beq_iff_eq.mpr held⟩

/-- In a valid table the buckets of a key that is held exist. -/
theorem Valid.checkKey_of_held
    {table : Table G}
    (valid : table.Valid)
    {index : Nat}
    {key : Key}
    (held : table.keyAt? index = some key) :
    table.checkKey key = .ok () :=
  (table.checkKey_eq_ok_iff key).mpr ⟨valid.bucket1_lt held, valid.bucket2_lt held⟩

variable [CoinSource G]

/-- A removal finds every key that a valid table holds. -/
theorem Valid.removalSlot?_isSome
    {table : Table G}
    (valid : table.Valid)
    {index : Nat}
    {key : Key}
    (held : table.keyAt? index = some key) :
    (table.removalSlot? key).isSome := by
  have foundAtHome := slotOf?_isSome held
  rw [removalSlot?, valid.checkKey_of_held held]
  dsimp only
  rw [Option.isSome_or]
  rcases Key.eq_candidate_or_otherBucket (valid.home held) table.flip.1 with first | second
  · rw [← first, foundAtHome, Bool.true_or]
  · rw [← second, foundAtHome, Bool.or_true]

/-! ## What a removal takes out -/

/-- The item that a removal of a key takes out, if the key is found. -/
def removedItem? (table : Table G) (key : Key) : Option Item :=
  (table.removalSlot? key).bind table.itemAt?

/-- A removal takes out an item with its key, and leaves all other items. -/
theorem items_remove
    {table : Table G}
    (sized : table.Sized)
    (key : Key) :
    ((table.removedItem? key).toList ++ (table.remove key).2.items).Perm table.items := by
  cases found : table.removalSlot? key with
  | none =>
      have unchanged : (table.remove key).2.items = table.items := by
        rcases remove_of_no_slot found with refused | missed
        · rw [refused]
        · rw [missed]
          rfl
      rw [removedItem?, found, unchanged]
      exact List.Perm.refl _
  | some index =>
      have inside := lt_capacity_of_keyAt? sized (held_of_removalSlot?_eq_some found)
      rw [removedItem?, found, remove_of_slot found]
      exact items_clear (sized.withCoins table.flip.2.coins) inside

/-- A removal succeeds on a key of a valid table, which loses one occurrence of the key. -/
theorem Valid.remove_of_recorded
    {table : Table G}
    (valid : table.Valid)
    {key : Key}
    {rest : List Key}
    (recorded : (key :: rest).Perm table.keys) :
    ∃ next, table.remove key = (true, next) ∧ next.Valid ∧ rest.Perm next.keys := by
  obtain ⟨slot, held⟩ := exists_slot_of_mem_keys (recorded.subset List.mem_cons_self)
  obtain ⟨index, found⟩ := Option.isSome_iff_exists.mp (valid.removalSlot?_isSome held)
  have validNext := valid.remove key
  have balance := (items_remove valid.toSized key).map Item.toKey
  rw [removedItem?, found, Option.bind_some, List.map_append, map_toKey_items valid.toSized,
    map_toKey_items validNext.toSized, ← Option.toList_map, map_toKey_itemAt?,
    held_of_removalSlot?_eq_some found] at balance
  have removed := remove_of_slot found
  rw [removed] at validNext balance
  exact ⟨_, removed, validNext, (recorded.trans balance.symm).cons_inv⟩

end Table
end ObliviousLog
