import ObliviousLog.Proofs.Table.Conservation

/-!
# What a failed insertion hands back

An insertion that runs out of budget hands back the item that it is left carrying.  If this is
another item than the inserted one, the two have traded places.  But a chain may come back to slots
that it has filled before, so it may as well be the inserted item itself, and then the table stores
what it stored before.
-/

namespace ObliviousLog

namespace Table

variable {G : Type}

/-- A table stores an item: a slot of one of the item's buckets holds it. -/
def Stores (table : Table G) (item : Item) : Prop :=
  ∃ index, item.Allows (index / table.geometry.bucketDepth) ∧ table.itemAt? index = some item

/-- In a valid table, an item of any slot is stored in one of its own buckets. -/
theorem Valid.stores_iff
    {table : Table G}
    (valid : table.Valid)
    (item : Item) :
    table.Stores item ↔ item ∈ table.items := by
  constructor
  · rintro ⟨index, _, held⟩
    exact mem_items_of_itemAt? valid.toSized held
  · intro stored
    obtain ⟨index, _, held⟩ := List.mem_filterMap.mp stored
    obtain ⟨key, occupied, rfl⟩ := Option.map_eq_some_iff.mp held
    exact ⟨index, valid.home occupied, held⟩

/-! ## What is handed back -/

/-- How the table after an insertion that hands back an item stands to the table before. -/
structure HandsBack (before : Table G) (item displaced : Item) (after : Table G) : Prop where
  exchanged :
    (after.items : Multiset Item) + {displaced} = (before.items : Multiset Item) + {item}
  keeps_iff :
    after.Stores item ↔ displaced ≠ item ∨ item ∈ before.items
  held_iff :
    displaced ∈ before.items ↔ displaced ≠ item ∨ item ∈ before.items
  restores :
    displaced = item → (after.items : Multiset Item) = before.items

/-- A conserved exchange keeps the inserted item unless this item itself is handed back. -/
theorem handsBack_of_perm
    {before after : Table G}
    {item displaced : Item}
    (valid : after.Valid)
    (conserved : (displaced :: after.items).Perm (item :: before.items)) :
    before.HandsBack item displaced after where
  exchanged := coe_add_singleton_eq conserved
  keeps_iff := by
    rw [valid.stores_iff]
    by_cases same : displaced = item
    · subst same
      rw [conserved.cons_inv.mem_iff]
      simp
    · have stored : item ∈ after.items :=
        List.mem_of_ne_of_mem (Ne.symm same) (conserved.mem_iff.mpr List.mem_cons_self)
      simp [same, stored]
  held_iff := by
    by_cases same : displaced = item
    · subst same
      simp
    · have held : displaced ∈ before.items :=
        List.mem_of_ne_of_mem same (conserved.mem_iff.mp List.mem_cons_self)
      simp [same, held]
  restores := by
    rintro rfl
    exact Multiset.coe_eq_coe.mpr conserved.cons_inv

/-- A placement that displaces an item hands it back. -/
theorem Valid.handsBack_of_place [CoinSource G]
    {table : Table G}
    (valid : table.Valid)
    {item displaced : Item}
    (fits : table.check item = .ok ())
    (placed : (table.place item).1 = .displaced displaced) :
    table.HandsBack item displaced (table.place item).2 := by
  have conserved := items_place valid fits
  rw [placed] at conserved
  exact handsBack_of_perm (valid.place fits) conserved

/-- An insertion whose budget runs out hands back the item that it displaces. -/
theorem Valid.handsBack_of_insert [CoinSource G]
    {table : Table G}
    (valid : table.Valid)
    {item displaced : Item}
    (failed : (table.insert item).1.bind Placement.outcome = .error (.capacity displaced)) :
    table.HandsBack item displaced (table.insert item).2 := by
  cases checked : table.check item with
  | error error =>
      rw [insert_of_misfit checked] at failed
      cases failed
      exact absurd checked (table.check_ne_capacity item displaced)
  | ok =>
      rw [insert_of_fits checked] at failed ⊢
      exact valid.handsBack_of_place checked (Placement.eq_displaced_of_outcome failed)

end Table
end ObliviousLog
