import ObliviousLog.Proofs.Table.Layout
import ObliviousLog.Proofs.Table.Removal

/-!
# Lookup and removal see the whole table

A key is looked for in its two buckets, which a coin puts in an order, and nowhere else.  In a table
that insertions and removals built this misses nothing: a key is found exactly if any slot of the
table holds it.  A removal that finds it frees a single slot that does, and a removal that does not
find it leaves every slot as it was.
-/

namespace ObliviousLog

namespace Slot

/-- Whether a slot is occupied by an item with a key. -/
def holds (slot : Slot) (key : Key) : Bool :=
  slot.filled && slot.id == key.id && slot.bucket1 == key.bucket1 && slot.bucket2 == key.bucket2

theorem holds_iff (slot : Slot) (key : Key) :
    slot.holds key = true ↔ slot.key? = some key := by
  obtain ⟨⟨id, bucket1, bucket2⟩, filled⟩ := slot
  obtain ⟨keyId, keyBucket1, keyBucket2⟩ := key
  cases filled <;> simp [holds, key?, and_assoc]

@[simp] theorem holds_free (key : Key) : free.holds key = false := rfl

end Slot

namespace Table

variable {G : Type} {table : Table G} {index : Nat} {key : Key}

theorem keyAt?_eq_some_iff_holds :
    table.keyAt? index = some key ↔
      ∃ slot, table.slots[index]? = some slot ∧ slot.holds key = true := by
  simp [keyAt?, Slot.holds_iff, Option.bind_eq_some_iff]

/-- A valid table contains a key exactly if one of its slots holds it. -/
theorem Valid.contains_iff (valid : table.Valid) (key : Key) :
    table.contains key = true ↔ ∃ index, table.keyAt? index = some key := by
  constructor
  · intro contained
    unfold contains at contained
    cases checked : table.checkKey key with
    | error error =>
        rw [checked] at contained
        cases contained
    | ok =>
        rw [checked] at contained
        rcases Bool.or_eq_true_iff.mp contained with first | second
        · obtain ⟨index, found⟩ := Option.isSome_iff_exists.mp first
          exact ⟨index, (held_of_slotOf?_eq_some found).2⟩
        · obtain ⟨index, found⟩ := Option.isSome_iff_exists.mp second
          exact ⟨index, (held_of_slotOf?_eq_some found).2⟩
  · rintro ⟨index, held⟩
    have found := slotOf?_isSome held
    rw [contains, valid.checkKey_of_held held]
    rcases valid.home held with first | second
    · rw [first] at found
      simp [found]
    · rw [second] at found
      simp [found]

/-! ## Freeing a slot -/

/-- A cleared slot has the record of a free one. -/
theorem getElem?_slots_clear_self
    (sized : table.Sized)
    (inside : index < table.geometry.capacity) :
    (table.clear index).slots[index]? = some Slot.free := by
  rw [← sized.size_slots] at inside
  exact Array.getElem?_setIfInBounds_self_of_lt inside

/-- Clearing a slot that holds a key leaves one slot less that does. -/
theorem countP_holds_clear
    {slot : Slot}
    (found : table.slots[index]? = some slot)
    (holds : slot.holds key = true) :
    (table.clear index).slots.countP (·.holds key) + 1 = table.slots.countP (·.holds key) := by
  obtain ⟨inside, isSlot⟩ := Array.getElem?_eq_some_iff.mp found
  have positive : 0 < table.slots.countP (·.holds key) :=
    Array.countP_pos_iff.mpr ⟨slot, Array.mem_of_getElem? found, holds⟩
  have cleared : (table.clear index).slots = table.slots.set index Slot.free inside :=
    Array.setIfInBounds_def .. |>.trans (dif_pos inside)
  rw [cleared, Array.countP_set, isSlot, if_pos holds, Slot.holds_free, if_neg Bool.false_ne_true]
  omega

/-- How a table is left when a slot with a key is freed: this slot is free and wiped, one slot less
holds the key, and all other slots are as they were. -/
structure FreesOne (before after : Table G) (key : Key) (index : Nat) : Prop where
  freed : after.slots[index]? = some Slot.free
  wiped : after.payloadAt index = Bytes.zeros before.geometry.itemSize
  elsewhere : ∀ other, other ≠ index → before.SameAt after other
  fewer : after.slots.countP (·.holds key) + 1 = before.slots.countP (·.holds key)

/-- Clearing a slot that holds a key frees that slot alone, whatever was drawn before. -/
theorem freesOne_clear
    (sized : table.Sized)
    {slot : Slot}
    (found : table.slots[index]? = some slot)
    (holds : slot.holds key = true)
    (coins : G) :
    table.FreesOne ((table.withCoins coins).clear index) key index := by
  have inside : index < table.geometry.capacity :=
    lt_capacity_of_keyAt? sized (keyAt?_eq_some_iff_holds.mpr ⟨slot, found, holds⟩)
  have fills := Bytes.length_zeros table.geometry.itemSize
  exact {
    freed := getElem?_slots_clear_self (sized.withCoins coins) inside
    wiped := payloadAt_assign_self (sized.withCoins coins) inside Slot.free fills
    elsewhere := fun _ different => sameAt_assign table coins different Slot.free fills
    fewer := countP_holds_clear found holds }

/-! ## Removing a key -/

variable [CoinSource G]

/-- A removal tells whether it found a slot. -/
theorem remove_fst (table : Table G) (key : Key) :
    (table.remove key).1 = (table.removalSlot? key).isSome := by
  cases found : table.removalSlot? key with
  | some index => rw [remove_of_slot found, Option.isSome_some]
  | none =>
      rcases remove_of_no_slot found with refused | missed
      · rw [refused, Option.isSome_none]
      · rw [missed, Option.isSome_none]

/-- A removal from a valid table succeeds exactly if the table contains the key. -/
theorem Valid.remove_fst_eq_contains (valid : table.Valid) (key : Key) :
    (table.remove key).1 = table.contains key := by
  rw [remove_fst, Bool.eq_iff_iff, valid.contains_iff]
  constructor
  · intro finds
    obtain ⟨index, found⟩ := Option.isSome_iff_exists.mp finds
    exact ⟨index, held_of_removalSlot?_eq_some found⟩
  · rintro ⟨index, held⟩
    exact valid.removalSlot?_isSome held

/-- In a table that insertions and removals built, whatever coins were flipped: a key is contained
exactly if any slot of the table holds it.  A removal by the key tells the same, frees one slot that
holds it in one of its buckets, and leaves everything else as it was. -/
theorem contains_and_remove_exact
    {table : Table G}
    (reachable : table.Reachable)
    (item : Item) :
    (table.contains item.toKey = true ↔
        ∃ (index : Nat) (slot : Slot),
          table.slots[index]? = some slot ∧ slot.holds item.toKey = true) ∧
      (table.remove item.toKey).1 = table.contains item.toKey ∧
      ((table.remove item.toKey).1 = true →
        ∃ (index : Nat) (slot : Slot),
          table.slots[index]? = some slot ∧
          slot.holds item.toKey = true ∧
          (index / table.geometry.bucketDepth = item.bucket1 ∨
            index / table.geometry.bucketDepth = item.bucket2) ∧
          table.FreesOne (table.remove item.toKey).2 item.toKey index) ∧
      ((table.remove item.toKey).1 = false →
        (table.remove item.toKey).2.slots = table.slots ∧
        (table.remove item.toKey).2.buffer = table.buffer) := by
  have valid := reachable.valid
  refine ⟨?_, valid.remove_fst_eq_contains item.toKey, fun removed => ?_, fun missed => ?_⟩
  · simp only [valid.contains_iff, keyAt?_eq_some_iff_holds]
  · rw [remove_fst] at removed
    obtain ⟨index, found⟩ := Option.isSome_iff_exists.mp removed
    have held := held_of_removalSlot?_eq_some found
    obtain ⟨slot, isSlot, holds⟩ := keyAt?_eq_some_iff_holds.mp held
    rw [remove_of_slot found]
    exact ⟨index, slot, isSlot, holds, valid.home held,
      freesOne_clear valid.toSized isSlot holds table.flip.2.coins⟩
  · rw [remove_fst, Option.isSome_eq_false_iff, Option.isNone_iff_eq_none] at missed
    rcases remove_of_no_slot missed with refused | flipped
    · rw [refused]
      exact ⟨rfl, rfl⟩
    · rw [flipped]
      exact ⟨rfl, rfl⟩

/-- A table of two slots which hold two items under one key. -/
def doubled : Table ChaCha :=
  (((empty twoSlots 0).insert ⟨⟨1, 0, 1⟩, [5]⟩).2.insert ⟨⟨1, 0, 1⟩, [6]⟩).2

/-- Of two slots that hold a key, a removal frees one, and the key is still contained. -/
theorem contains_and_remove_exact_of_doubled :
    doubled.Reachable ∧
      doubled.contains ⟨1, 0, 1⟩ = true ∧
      (doubled.remove ⟨1, 0, 1⟩).1 = true ∧
      (∃ index, doubled.FreesOne (doubled.remove ⟨1, 0, 1⟩).2 ⟨1, 0, 1⟩ index) ∧
      (doubled.remove ⟨1, 0, 1⟩).2.contains ⟨1, 0, 1⟩ = true := by
  have reachable : doubled.Reachable := .insert (.insert (.empty _ _) _) _
  have contained : doubled.contains ⟨1, 0, 1⟩ = true := by decide +kernel
  obtain ⟨_, same, frees, _⟩ := contains_and_remove_exact reachable ⟨⟨1, 0, 1⟩, []⟩
  have removed : (doubled.remove ⟨1, 0, 1⟩).1 = true := same.trans contained
  obtain ⟨index, _, _, _, _, freesOne⟩ := frees removed
  have still : (doubled.remove ⟨1, 0, 1⟩).2.contains ⟨1, 0, 1⟩ = true := by decide +kernel
  exact ⟨reachable, contained, removed, ⟨index, freesOne⟩, still⟩

end Table
end ObliviousLog
