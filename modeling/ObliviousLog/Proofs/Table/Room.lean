import ObliviousLog.Proofs.Table.Confinement
import ObliviousLog.Proofs.Table.Removal

/-!
# Insertions where there is room

An insertion evicts only when both candidate buckets of its item are full.  As long as one of them
has a free slot, whichever of the two the coin picks, the item goes to the first free slot of one of
them, and nothing else in the table changes.  Middle slots that a removal has freed count like all
others.
-/

namespace ObliviousLog
namespace Table

variable {G : Type} {table : Table G} {bucket index : Nat} {item : Item}

/-! ## The first free slot of a bucket -/

/-- A slot is the first free one of a bucket: all slots of the bucket below it are occupied. -/
structure FirstFree (table : Table G) (bucket index : Nat) : Prop where
  member : index / table.geometry.bucketDepth = bucket
  free : table.slots[index]? = some Slot.free
  filledBelow :
    ∀ (other : Nat) (slot : Slot),
      other < index →
      other / table.geometry.bucketDepth = bucket →
      table.slots[other]? = some slot →
      slot.filled = true

/-- In a bucket with a slot that holds nothing a free slot is found. -/
theorem freeSlot?_isSome
    (free : table.keyAt? index = none) :
    (table.freeSlot? (index / table.geometry.bucketDepth)).isSome := by
  rw [freeSlot?, List.find?_isSome]
  exact ⟨index, (table.geometry.mem_bucketSlots _ index).mpr rfl,
    Option.isNone_iff_eq_none.mpr free⟩

/-- An existing slot that holds nothing has the record of a free one. -/
theorem Valid.getElem?_slots_of_keyAt?_eq_none
    (valid : table.Valid)
    (inside : index < table.geometry.capacity)
    (free : table.keyAt? index = none) :
    table.slots[index]? = some Slot.free := by
  have bounded : index < table.slots.size := valid.size_slots.symm ▸ inside
  have found := Array.getElem?_eq_getElem bounded
  cases filled : table.slots[index].filled with
  | true =>
      rw [keyAt?_of_filled found filled] at free
      cases free
  | false => rw [found, valid.blank found filled]

/-- No slot of a bucket below the one that is found free is free as well. -/
theorem filled_of_lt_freeSlot?
    (found : table.freeSlot? bucket = some index)
    {other : Nat}
    {slot : Slot}
    (below : other < index)
    (member : other / table.geometry.bucketDepth = bucket)
    (isSlot : table.slots[other]? = some slot) :
    slot.filled = true := by
  obtain ⟨_, lower, higher, split, occupied⟩ := List.find?_eq_some_iff_append.mp found
  have sorted := table.geometry.sorted_bucketSlots bucket
  have inBucket := (table.geometry.mem_bucketSlots bucket other).mpr member
  rw [split] at sorted inBucket
  have inLower : other ∈ lower := by
    rcases List.mem_append.mp inBucket with inLower | notLower
    · exact inLower
    · have ordered := (List.pairwise_append.mp sorted).2.1
      rcases List.mem_cons.mp notLower with rfl | inHigher
      · exact absurd below (Nat.lt_irrefl other)
      · exact absurd below (Nat.lt_asymm (List.rel_of_pairwise_cons ordered inHigher))
  cases filled : slot.filled with
  | true => rfl
  | false =>
      have notFree := occupied other inLower
      rw [keyAt?_of_unfilled isSlot filled] at notFree
      cases notFree

/-- What an existing bucket is found to have free is its first free slot. -/
theorem Valid.firstFree_of_freeSlot?
    (valid : table.Valid)
    (inside : bucket < table.geometry.numBuckets)
    (found : table.freeSlot? bucket = some index) :
    table.FirstFree bucket index := by
  obtain ⟨member, free⟩ := free_of_freeSlot?_eq_some found
  have slotInside : index < table.geometry.capacity := by
    rw [Geometry.lt_capacity_iff, member]
    exact inside
  exact {
    member
    free := valid.getElem?_slots_of_keyAt?_eq_none slotInside free
    filledBelow := fun _ _ below => filled_of_lt_freeSlot? found below }

/-! ## Insertions -/

/-- A candidate bucket of a key has a free slot. -/
def HasRoom (table : Table G) (key : Key) : Prop :=
  ∃ (index : Nat) (slot : Slot),
    key.Allows (index / table.geometry.bucketDepth) ∧
    table.slots[index]? = some slot ∧
    slot.filled = false

/-- How a table is left when an item goes to a slot: the slot has the record and the payload of the
item, and all other slots are as they were. -/
structure FillsOne (before after : Table G) (item : Item) (index : Nat) : Prop where
  recorded : after.slots[index]? = some (Slot.holding item.toKey)
  stored : after.payloadAt index = item.payload
  elsewhere : ∀ other, other ≠ index → before.SameAt after other

/-- What an insertion can do to the items that were stored before: evict at least one of them on its
way, change an occupied slot, or hand back an item for which there was no slot. -/
inductive Disturbs (before : Table G) (placement : Placement) (after : Table G) : Prop
  | evicts {evictions : Nat}
      (relocated : placement = .relocated (evictions + 1))
  | changes {index : Nat} {slot : Slot}
      (found : before.slots[index]? = some slot)
      (filled : slot.filled = true)
      (changed : ¬before.SameAt after index)
  | handsBack {displaced : Item}
      (failed : placement.outcome = .error (.capacity displaced))

theorem hasRoom_or_saturated (table : Table G) (key : Key) :
    table.HasRoom key ∨ table.Saturated {key.bucket1, key.bucket2} := by
  refine Classical.or_iff_not_imp_left.mpr fun noRoom index slot inBuckets found => ?_
  cases filled : slot.filled with
  | true => rfl
  | false =>
      have allowed : key.Allows (index / table.geometry.bucketDepth) := by
        simpa [Key.Allows] using inBuckets
      exact absurd ⟨index, slot, allowed, found, filled⟩ noRoom

/-- Putting an item that fits into an existing slot fills this slot alone, whatever was drawn
before. -/
theorem fillsOne_put
    (sized : table.Sized)
    (inside : index < table.geometry.capacity)
    (fills : item.payload.length = table.geometry.itemSize)
    (coins : G) :
    table.FillsOne ((table.withCoins coins).put index item) item index where
  recorded := Array.getElem?_setIfInBounds_self_of_lt (sized.size_slots.symm ▸ inside)
  stored := payloadAt_assign_self (sized.withCoins coins) inside (.holding item.toKey) fills
  elsewhere _ different := sameAt_assign table coins different (.holding item.toKey) fills

/-- An insertion that evicted nothing and filled a free slot alone has disturbed nothing. -/
theorem FillsOne.not_disturbs
    {after : Table G}
    {placement : Placement}
    (fillsOne : table.FillsOne after item index)
    (free : table.slots[index]? = some Slot.free)
    (direct : placement = .immediate ∨ placement = .relocated 0) :
    ¬table.Disturbs placement after := by
  rintro (⟨rfl⟩ | ⟨found, filled, changed⟩ | ⟨failed⟩)
  · simp at direct
  · refine changed (fillsOne.elsewhere _ ?_)
    rintro rfl
    rw [free] at found
    cases found
    cases filled
  · rcases direct with rfl | rfl
    · cases failed
    · cases failed

variable [CoinSource G]

/-- With a free slot in a candidate bucket an item goes to the free slot that is found first in one
of its buckets, without an eviction: the coin may pick the full one of the two, but the chain tries
the other bucket before it evicts anything. -/
theorem place_of_room
    (allowed : item.Allows bucket)
    (room : (table.freeSlot? bucket).isSome) :
    ∃ placement home index,
      table.place item = (placement, table.flip.2.put index item) ∧
      (placement = .immediate ∨ placement = .relocated 0) ∧
      item.Allows home ∧
      table.freeSlot? home = some index := by
  unfold place
  generalize heads : table.flip.1 = side
  have sameSlots : ∀ other, table.flip.2.freeSlot? other = table.freeSlot? other := fun _ => rfl
  simp only [heads, sameSlots]
  cases found : table.freeSlot? (item.candidate side) with
  | some index =>
      exact ⟨.immediate, _, index, rfl, Or.inl rfl, item.allows_candidate side, found⟩
  | none =>
      rcases Key.eq_candidate_or_otherBucket allowed side with rfl | rfl
      · rw [found] at room
        cases room
      · obtain ⟨index, foundOther⟩ := Option.isSome_iff_exists.mp room
        have foundAfterFlip :
            table.flip.2.freeSlot? (item.otherBucket (item.candidate side)) = some index :=
          foundOther
        exact ⟨.relocated 0, _, index, relocate_of_free foundAfterFlip 499 0 item, Or.inr rfl,
          item.allows_otherBucket _, foundOther⟩

/-- If a candidate bucket of an item has a free slot, an insertion into a valid table fills the
first free slot of one of the two, and disturbs nothing. -/
theorem Valid.place_fillsOne
    (valid : table.Valid)
    (fits : table.check item = .ok ())
    (room : table.HasRoom item.toKey) :
    ∃ home index,
      item.Allows home ∧
      table.FirstFree home index ∧
      table.FillsOne (table.place item).2 item index ∧
      (table.place item).1.outcome = .ok () ∧
      ¬table.Disturbs (table.place item).1 (table.place item).2 := by
  obtain ⟨spot, slot, allowed, found, unfilled⟩ := room
  obtain ⟨placement, home, index, placed, direct, allowedHome, foundFree⟩ :=
    place_of_room allowed (freeSlot?_isSome (keyAt?_of_unfilled found unfilled))
  have homeInside := lt_numBuckets_of_allows fits allowedHome
  have firstFree := valid.firstFree_of_freeSlot? homeInside foundFree
  have inside : index < table.geometry.capacity := by
    rw [Geometry.lt_capacity_iff, firstFree.member]
    exact homeInside
  have fillsOne := fillsOne_put valid.toSized inside ((check_eq_ok_iff table item).mp fits).1
    table.flip.2.coins
  have accepted : placement.outcome = .ok () := by
    rcases direct with rfl | rfl
    · rfl
    · rfl
  rw [placed]
  exact ⟨home, index, allowedHome, firstFree, fillsOne, accepted,
    fillsOne.not_disturbs firstFree.free direct⟩

/-- An item that fits a reachable table and has a free slot in one of its buckets is stored in the
first free slot of one of them, whatever the coin says, and every other slot keeps its record and
its bytes.  An insertion that disturbs what was stored before, or fails, has found every slot of
both buckets filled. -/
theorem insert_fills_first_free_slot
    (reachable : table.Reachable)
    (fits : table.check item = .ok ()) :
    ∃ placement next,
      table.insert item = (.ok placement, next) ∧
      (table.HasRoom item.toKey →
        placement.outcome = .ok () ∧
        ∃ home index,
          item.Allows home ∧
          table.FirstFree home index ∧
          table.FillsOne next item index) ∧
      (table.Disturbs placement next → table.Saturated {item.bucket1, item.bucket2}) := by
  have valid := reachable.valid
  refine ⟨(table.place item).1, (table.place item).2, insert_of_fits fits, fun room => ?_,
    fun disturbs => ?_⟩
  · obtain ⟨home, index, allowed, firstFree, fillsOne, accepted, _⟩ :=
      valid.place_fillsOne fits room
    exact ⟨accepted, home, index, allowed, firstFree, fillsOne⟩
  · rcases table.hasRoom_or_saturated item.toKey with room | saturated
    · obtain ⟨_, _, _, _, _, _, undisturbed⟩ := valid.place_fillsOne fits room
      exact absurd disturbs undisturbed
    · exact saturated

/-- Two buckets of three one-byte slots. -/
def sixSlots : Geometry :=
  ⟨2, 3, 1, by decide, by decide, Nat.one_pos, by decide⟩

/-- A table whose slots were all filled, of which the middle one of the second bucket was freed. -/
def withGap : Table ChaCha :=
  let items : List Item :=
    [⟨⟨1, 0, 0⟩, [1]⟩, ⟨⟨2, 0, 0⟩, [2]⟩, ⟨⟨3, 0, 0⟩, [3]⟩,
      ⟨⟨4, 1, 1⟩, [4]⟩, ⟨⟨5, 1, 1⟩, [5]⟩, ⟨⟨6, 1, 1⟩, [6]⟩]
  ((items.foldl (fun table item => (table.insert item).2) (empty sixSlots 0)).remove ⟨5, 1, 1⟩).2

/-- An item of both buckets closes the gap in the second one, and disturbs nothing. -/
theorem insert_fills_first_free_slot_of_withGap :
    withGap.Reachable ∧
      withGap.check ⟨⟨7, 0, 1⟩, [7]⟩ = .ok () ∧
      withGap.HasRoom ⟨7, 0, 1⟩ ∧
      ∃ placement next,
        withGap.insert ⟨⟨7, 0, 1⟩, [7]⟩ = (.ok placement, next) ∧
        placement.outcome = .ok () ∧
        withGap.FillsOne next ⟨⟨7, 0, 1⟩, [7]⟩ 4 := by
  have reachable : withGap.Reachable :=
    .remove (.insert (.insert (.insert (.insert (.insert (.insert (.empty _ _) _) _) _) _) _) _) _
  have geometry : withGap.geometry = sixSlots := by
    simp only [withGap, List.foldl_cons, List.foldl_nil, geometry_remove, geometry_insert]
    rfl
  have fits : withGap.check ⟨⟨7, 0, 1⟩, [7]⟩ = .ok () := by
    rw [check_eq_ok_iff, geometry]
    decide
  have gap : ∀ index < 6, withGap.slots[index]? = some Slot.free ↔ index = 4 := by
    decide +kernel
  have room : withGap.HasRoom ⟨7, 0, 1⟩ := by
    refine ⟨4, Slot.free, ?_, (gap 4 (by decide)).mpr rfl, rfl⟩
    rw [geometry]
    exact Or.inr rfl
  obtain ⟨placement, next, inserted, fillsFirst, _⟩ := insert_fills_first_free_slot reachable fits
  obtain ⟨accepted, _, index, _, firstFree, fillsOne⟩ := fillsFirst room
  have inside : index < 6 := by
    have bounded := (Array.getElem?_eq_some_iff.mp firstFree.free).1
    rwa [reachable.valid.size_slots, geometry] at bounded
  rw [(gap index inside).mp firstFree.free] at fillsOne
  exact ⟨reachable, fits, room, placement, next, inserted, accepted, fillsOne⟩

end Table
end ObliviousLog
