import ObliviousLog.Proofs.Table.Chain
import Mathlib.Data.List.Perm.Basic

/-!
# The stored items as a whole

Writing to one slot exchanges what that slot held for what it holds afterwards and leaves the rest
of the stored items alone.  The number of occupied slots is the number of stored items.
-/

namespace ObliviousLog
namespace Table

variable {G : Type}

/-- The empty table stores nothing. -/
theorem items_empty [CoinSource G] (geometry : Geometry) (seed : UInt64) :
    (empty geometry seed : Table G).items = [] := by
  rw [items, List.filterMap_eq_nil_iff]
  intro index _
  rw [itemAt?, keyAt?_empty, Option.map_none]

/-- What a slot holds is stored. -/
theorem mem_items_of_itemAt?
    {table : Table G}
    (sized : table.Sized)
    {index : Nat}
    {item : Item}
    (held : table.itemAt? index = some item) :
    item ∈ table.items := by
  obtain ⟨key, occupied, _⟩ := Option.map_eq_some_iff.mp held
  exact List.mem_filterMap.mpr
    ⟨index, List.mem_range.mpr (lt_capacity_of_keyAt? sized occupied), held⟩

/-- The items stored in slots other than a given one. -/
def itemsBeside (table : Table G) (index : Nat) : List Item :=
  ((List.range table.geometry.capacity).erase index).filterMap table.itemAt?

/-- The stored items are the one in a given slot, if it holds any, and those beside it. -/
theorem items_perm_beside
    (table : Table G)
    {index : Nat}
    (inside : index < table.geometry.capacity) :
    table.items.Perm ((table.itemAt? index).toList ++ table.itemsBeside index) := by
  have split := (List.perm_cons_erase (List.mem_range.mpr inside)).filterMap table.itemAt?
  rw [List.filterMap_cons] at split
  cases held : table.itemAt? index with
  | none =>
      rw [held] at split
      exact split
  | some item =>
      rw [held] at split
      exact split

/-- The items beside a slot stay when all other slots do. -/
theorem itemsBeside_congr
    {before after : Table G}
    {index : Nat}
    (sameGeometry : after.geometry = before.geometry)
    (sameBeside : ∀ other, other ≠ index → after.itemAt? other = before.itemAt? other) :
    after.itemsBeside index = before.itemsBeside index := by
  unfold itemsBeside
  rw [sameGeometry]
  apply List.filterMap_congr
  intro other member
  exact sameBeside other ((List.Nodup.mem_erase_iff List.nodup_range).mp member).1

/-- Putting an item into a slot exchanges what the slot held for the item. -/
theorem items_put
    {table : Table G}
    (sized : table.Sized)
    {index : Nat}
    (inside : index < table.geometry.capacity)
    {item : Item}
    (fills : item.payload.length = table.geometry.itemSize) :
    ((table.itemAt? index).toList ++ (table.put index item).items).Perm (item :: table.items) := by
  have sameBeside := itemsBeside_congr (geometry_put table index item)
    fun other different => itemAt?_put_of_ne table different fills
  have before := table.items_perm_beside inside
  have after := (table.put index item).items_perm_beside inside
  rw [itemAt?_put_self sized inside fills, sameBeside] at after
  refine (after.append_left _).trans ?_
  refine List.perm_middle.trans ?_
  exact before.symm.cons item

/-- Clearing a slot takes out what the slot held. -/
theorem items_clear
    {table : Table G}
    (sized : table.Sized)
    {index : Nat}
    (inside : index < table.geometry.capacity) :
    ((table.itemAt? index).toList ++ (table.clear index).items).Perm table.items := by
  have sameBeside := itemsBeside_congr (geometry_clear table index)
    fun other different => itemAt?_clear_of_ne table different
  have before := table.items_perm_beside inside
  have after := (table.clear index).items_perm_beside inside
  rw [itemAt?_clear_self sized inside, sameBeside] at after
  exact (after.append_left _).trans before.symm

/-- The keys, or none, of all slots in order. -/
theorem map_key?_slots
    {table : Table G}
    (sized : table.Sized) :
    table.slots.toList.map Slot.key? =
      (List.range table.geometry.capacity).map table.keyAt? := by
  apply List.ext_getElem?
  intro index
  rw [List.getElem?_map, Array.getElem?_toList, List.getElem?_map]
  by_cases inside : index < table.geometry.capacity
  · have bounded : index < table.slots.size := sized.size_slots.symm ▸ inside
    rw [List.getElem?_range inside, Array.getElem?_eq_getElem bounded, Option.map_some,
      Option.map_some, keyAt?, Array.getElem?_eq_getElem bounded, Option.bind_some]
  · rw [Array.getElem?_eq_none (by rw [sized.size_slots]; omega),
      List.getElem?_eq_none (by rw [List.length_range]; omega), Option.map_none, Option.map_none]

/-- The number of occupied slots is the number of stored items. -/
theorem count_eq_length_items
    {table : Table G}
    (sized : table.Sized) :
    table.count = table.items.length := by
  have byKey : table.count = (table.slots.toList.map Slot.key?).countP Option.isSome := by
    rw [count, ← Array.countP_toList, List.countP_map]
    exact List.countP_congr fun slot _ => by rw [Function.comp_apply, slot.isSome_key?]
  rw [byKey, map_key?_slots sized, items, List.countP_map, List.length_filterMap_eq_countP]
  apply List.countP_congr
  intro index _
  rw [Function.comp_apply, itemAt?, Option.isSome_map]

/-- A table stores at most one item in each slot. -/
theorem length_items_le (table : Table G) :
    table.items.length ≤ table.geometry.capacity := by
  have bound := List.length_filterMap_le table.itemAt? (List.range table.geometry.capacity)
  rwa [List.length_range] at bound

end Table
end ObliviousLog
