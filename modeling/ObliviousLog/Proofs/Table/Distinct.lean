import ObliviousLog.Proofs.Table.Conservation
import ObliviousLog.Proofs.Table.Removal
import Mathlib.Data.List.Nodup

/-!
# Tables of items with distinct keys

A key finds its item for certain when no two stored items share one.  A removal then takes out the
very item that its key was taken from and touches no other slot, and an insertion under a new key
keeps the keys distinct, whatever it displaces.
-/

namespace ObliviousLog

/-- Without its front, a list of distinct items is its back. -/
theorem filter_notMem_append
    {front back : List Item}
    (nodup : (front ++ back).Nodup) :
    (front ++ back).filter (· ∉ front) = back := by
  have apart := List.disjoint_of_nodup_append nodup
  have nothing : front.filter (· ∉ front) = [] :=
    List.filter_eq_nil_iff.mpr fun item member => by simp [member]
  have everything : back.filter (· ∉ front) = back :=
    List.filter_eq_self.mpr fun item member => by simpa using fun inFront => apart inFront member
  rw [List.filter_append, nothing, everything, List.nil_append]

/-- Dropping the key of a listed item from the keys of a list drops the item from the list. -/
theorem erase_map_toKey
    {live : List Item}
    (distinct : (live.map Item.toKey).Nodup)
    {item : Item}
    (listed : item ∈ live) :
    (live.map Item.toKey).erase item.toKey = (live.filter (· ∉ [item])).map Item.toKey := by
  rw [distinct.erase_eq_filter, List.filter_map]
  refine congrArg (List.map Item.toKey) (List.filter_congr fun other member => ?_)
  by_cases same : other = item
  · simp [same]
  · have differentKey : other.toKey ≠ item.toKey := fun sameKey =>
      same (List.inj_on_of_nodup_map distinct member listed sameKey)
    simp [same, differentKey]

namespace Table

variable {G : Type}

/-- A valid table stores exactly the listed items, and these have distinct keys. -/
structure Lists (table : Table G) (live : List Item) : Prop where
  valid : table.Valid
  stored : live.Perm table.items
  distinct : (live.map Item.toKey).Nodup

namespace Lists

variable {table : Table G} {live : List Item} {item : Item}

theorem nodup (lists : table.Lists live) : live.Nodup :=
  lists.distinct.of_map

theorem recorded (lists : table.Lists live) : (live.map Item.toKey).Perm table.keys := by
  rw [← map_toKey_items lists.valid.toSized]
  exact lists.stored.map Item.toKey

theorem mem_of_held
    (lists : table.Lists live)
    {index : Nat}
    (held : table.itemAt? index = some item) :
    item ∈ live :=
  lists.stored.mem_iff.mpr (mem_items_of_itemAt? lists.valid.toSized held)

/-- A slot with the key of a listed item holds that item. -/
theorem held_of_keyAt?
    (lists : table.Lists live)
    (listed : item ∈ live)
    {index : Nat}
    (occupied : table.keyAt? index = some item.toKey) :
    table.itemAt? index = some item := by
  rw [← map_toKey_itemAt?] at occupied
  obtain ⟨other, held, sameKey⟩ := Option.map_eq_some_iff.mp occupied
  rw [held, List.inj_on_of_nodup_map lists.distinct (lists.mem_of_held held) listed sameKey]

variable [CoinSource G]

/-- The removal of a listed item by its key takes out that item and leaves every other slot as it
was. -/
theorem remove
    (lists : table.Lists (item :: live)) :
    table.removedItem? item.toKey = some item ∧
      ∃ next,
        table.remove item.toKey = (true, next) ∧
        next.Lists live ∧
        ∀ index, next.itemAt? index = (table.itemAt? index).filter (· ≠ item) := by
  have valid := lists.valid
  obtain ⟨slot, occupied⟩ :=
    exists_slot_of_mem_keys (lists.recorded.subset (List.mem_cons_self : item.toKey ∈ _))
  obtain ⟨index, found⟩ := Option.isSome_iff_exists.mp (valid.removalSlot?_isSome occupied)
  have held : table.itemAt? index = some item :=
    lists.held_of_keyAt? List.mem_cons_self (held_of_removalSlot?_eq_some found)
  have taken : table.removedItem? item.toKey = some item := by
    rw [removedItem?, found, Option.bind_some, held]
  have validNext := valid.remove item.toKey
  have balance := items_remove valid.toSized item.toKey
  have inside := lt_capacity_of_keyAt? valid.toSized (held_of_removalSlot?_eq_some found)
  rw [remove_of_slot found] at validNext balance
  rw [taken] at balance
  have next : (table.flip.2.clear index).Lists live := {
    valid := validNext
    stored := (lists.stored.trans balance.symm).cons_inv
    distinct := (List.nodup_cons.mp lists.distinct).2 }
  refine ⟨taken, _, remove_of_slot found, next, fun other => ?_⟩
  by_cases same : other = index
  · subst same
    have cleared : (table.flip.2.clear other).itemAt? other = none :=
      itemAt?_clear_self (valid.withCoins table.flip.2.coins).toSized inside
    rw [cleared, held, Option.filter_some]
    simp
  · have kept : (table.flip.2.clear index).itemAt? other = table.itemAt? other :=
      itemAt?_clear_of_ne table.flip.2 same
    -- The item is nowhere else, as what is left does not list it.
    have elsewhere : table.itemAt? other ≠ some item := fun heldTwice =>
      (List.nodup_cons.mp lists.nodup).1 (next.mem_of_held (kept.trans heldTwice))
    rw [kept]
    cases stored : table.itemAt? other with
    | none => rfl
    | some another =>
        have different : another ≠ item := fun same => elsewhere (stored.trans (same ▸ rfl))
        simp [Option.filter_some, different]

/-- Placing an item under a new key lists it last, but for what the placement leaves over. -/
theorem place
    (lists : table.Lists live)
    (fits : table.check item = .ok ())
    (new : item.toKey ∉ table.keys) :
    ((live ++ [item]).map Item.toKey).Nodup ∧
      (table.place item).1.leftOver ⊆ live ++ [item] ∧
      (table.place item).2.Lists
        ((live ++ [item]).filter (· ∉ (table.place item).1.leftOver)) := by
  have distinct : ((live ++ [item]).map Item.toKey).Nodup := by
    rw [List.map_append, List.map_singleton, List.nodup_append_comm, List.singleton_append]
    exact List.nodup_cons.mpr ⟨fun listed => new (lists.recorded.subset listed), lists.distinct⟩
  have conserved :
      ((table.place item).1.leftOver ++ (table.place item).2.items).Perm (live ++ [item]) :=
    (items_place lists.valid fits).trans
      ((lists.stored.symm.cons item).trans (List.perm_append_singleton item live).symm)
  have nodup := conserved.nodup_iff.mpr distinct.of_map
  refine ⟨distinct, fun left member => conserved.subset (List.mem_append_left _ member), ?_⟩
  have stored := conserved.symm.filter (· ∉ (table.place item).1.leftOver)
  rw [filter_notMem_append nodup] at stored
  exact {
    valid := lists.valid.place fits
    stored
    distinct := distinct.sublist (List.filter_sublist.map Item.toKey) }

end Lists
end Table
end ObliviousLog
