import ObliviousLog.Table.Insert
import ObliviousLog.Table.Remove

/-!
# Writing to one slot

Storing an item and freeing a slot are both an assignment of a key, or of none, and of bytes to one
slot.  After an assignment that slot holds what was assigned, and every other slot holds what it
held before.  Drawing from the generator touches no slot at all.
-/

namespace ObliviousLog

namespace Geometry

/-- The slots of a bucket are those whose index divided by the depth gives the bucket. -/
theorem mem_bucketSlots
    (geometry : Geometry)
    (bucket index : Nat) :
    index ∈ geometry.bucketSlots bucket ↔ index / geometry.bucketDepth = bucket := by
  rw [Nat.div_eq_iff geometry.bucketDepth_pos]
  simp only [bucketSlots, slotIndex, List.mem_map, List.mem_range]
  have depthPositive := geometry.bucketDepth_pos
  constructor
  · rintro ⟨depth, inside, rfl⟩
    omega
  · rintro ⟨above, below⟩
    exact ⟨index - bucket * geometry.bucketDepth, by omega, by omega⟩

/-- The bucket of a slot index is recovered by division. -/
theorem slotIndex_div
    (geometry : Geometry)
    (bucket : Nat)
    {depth : Nat}
    (inside : depth < geometry.bucketDepth) :
    geometry.slotIndex bucket depth / geometry.bucketDepth = bucket := by
  rw [← mem_bucketSlots, bucketSlots]
  exact List.mem_map_of_mem (List.mem_range.mpr inside)

/-- The slots of a bucket are in the order of their indices. -/
theorem sorted_bucketSlots (geometry : Geometry) (bucket : Nat) :
    (geometry.bucketSlots bucket).Pairwise (· < ·) := by
  refine List.pairwise_map.mpr ?_
  exact List.pairwise_lt_range.imp fun below => Nat.add_lt_add_left below _

/-- A slot exists exactly when its bucket does. -/
theorem lt_capacity_iff
    (geometry : Geometry)
    (index : Nat) :
    index < geometry.capacity ↔ index / geometry.bucketDepth < geometry.numBuckets := by
  rw [capacity, Nat.div_lt_iff_lt_mul geometry.bucketDepth_pos]

/-- The bytes of an existing slot lie inside the table. -/
theorem slot_le_size
    (geometry : Geometry)
    {index : Nat}
    (inside : index < geometry.capacity) :
    index * geometry.itemSize + geometry.itemSize ≤ geometry.size := by
  rw [size, ← Nat.succ_mul]
  exact Nat.mul_le_mul_right _ inside

theorem size_eq_numBuckets_mul (geometry : Geometry) :
    geometry.size = geometry.numBuckets * geometry.bucketSize :=
  Nat.mul_assoc _ _ _

/-- A table has no more slots than bytes. -/
theorem capacity_le_size (geometry : Geometry) : geometry.capacity ≤ geometry.size :=
  Nat.le_mul_of_pos_right _ geometry.itemSize_pos

/-- A bucket has no more bytes than the table. -/
theorem bucketSize_le_size (geometry : Geometry) : geometry.bucketSize ≤ geometry.size := by
  rw [size_eq_numBuckets_mul]
  exact Nat.le_mul_of_pos_left _ geometry.numBuckets_pos

/-- A table has no more buckets than bytes. -/
theorem numBuckets_le_size (geometry : Geometry) : geometry.numBuckets ≤ geometry.size :=
  Nat.le_trans (Nat.le_mul_of_pos_right _ geometry.bucketDepth_pos) geometry.capacity_le_size

/-- What does not exceed the number of bytes of a table can be counted. -/
theorem lt_countLimit
    (geometry : Geometry)
    {count : Nat}
    (bounded : count ≤ geometry.size) :
    count < countLimit :=
  Nat.lt_of_le_of_lt bounded geometry.size_lt

end Geometry

namespace Table

variable {G : Type}

/-! ## Overwriting a buffer -/

@[simp] theorem size_overwrite
    (buffer : Array UInt8)
    (offset : Nat)
    (bytes : Bytes) :
    (overwrite buffer offset bytes).size = buffer.size := by
  induction bytes generalizing buffer offset with
  | nil => rfl
  | cons byte rest inductionHypothesis =>
      rw [overwrite, inductionHypothesis, Array.size_setIfInBounds]

/-- An overwritten buffer holds the new bytes in their window and the old ones outside it. -/
theorem getElem?_overwrite
    (buffer : Array UInt8)
    (offset : Nat)
    (bytes : Bytes)
    (position : Nat) :
    (overwrite buffer offset bytes)[position]? =
      if offset ≤ position ∧ position < offset + bytes.length ∧ position < buffer.size then
        bytes[position - offset]?
      else
        buffer[position]? := by
  induction bytes generalizing buffer offset with
  | nil => rw [overwrite, List.length_nil, if_neg (by omega)]
  | cons byte rest inductionHypothesis =>
      rw [overwrite, inductionHypothesis, Array.size_setIfInBounds, Array.getElem?_setIfInBounds,
        List.length_cons]
      rcases Nat.lt_trichotomy position offset with before | same | after
      · rw [if_neg (by omega), if_neg (by omega), if_neg (by omega)]
      · subst same
        rw [if_neg (by omega), if_pos rfl, Nat.sub_self, List.getElem?_cons_zero]
        by_cases inside : position < buffer.size
        · rw [if_pos inside, if_pos (by omega)]
        · rw [if_neg inside, if_neg (by omega), Array.getElem?_eq_none (by omega)]
      · obtain ⟨distance, rfl⟩ := Nat.exists_eq_add_of_lt after
        rw [if_neg (show ¬offset = offset + distance + 1 by omega),
          show offset + distance + 1 - (offset + 1) = distance by omega,
          show offset + distance + 1 - offset = distance + 1 by omega, List.getElem?_cons_succ]
        by_cases window : distance < rest.length ∧ offset + distance + 1 < buffer.size
        · rw [if_pos (by omega), if_pos (by omega)]
        · rw [if_neg (by omega), if_neg (by omega)]

/-- Of two strings of one length written to one place the second one stays. -/
theorem overwrite_overwrite
    (buffer : Array UInt8)
    (offset : Nat)
    {first second : Bytes}
    (same : first.length = second.length) :
    overwrite (overwrite buffer offset first) offset second = overwrite buffer offset second := by
  apply Array.ext_getElem?
  intro position
  rw [getElem?_overwrite, getElem?_overwrite, getElem?_overwrite, size_overwrite, same]
  split <;> rfl

/-- A window that was overwritten reads back what was written. -/
theorem extract_overwrite_self
    (buffer : Array UInt8)
    (offset : Nat)
    (bytes : Bytes)
    (inside : offset + bytes.length ≤ buffer.size) :
    ((overwrite buffer offset bytes).extract offset (offset + bytes.length)).toList = bytes := by
  apply List.ext_getElem?
  intro position
  rw [Array.getElem?_toList, Array.getElem?_extract, size_overwrite, getElem?_overwrite]
  by_cases bounded : position < bytes.length
  · rw [if_pos (by omega), if_pos (by omega), Nat.add_sub_cancel_left]
  · rw [if_neg (by omega), List.getElem?_eq_none (by omega)]

/-- A window apart from the overwritten one reads as before. -/
theorem extract_overwrite_of_apart
    (buffer : Array UInt8)
    (offset : Nat)
    (bytes : Bytes)
    {start stop : Nat}
    (apart : stop ≤ offset ∨ offset + bytes.length ≤ start) :
    (overwrite buffer offset bytes).extract start stop = buffer.extract start stop := by
  apply Array.ext_getElem?
  intro position
  rw [Array.getElem?_extract, Array.getElem?_extract, size_overwrite, getElem?_overwrite]
  by_cases bounded : position < min stop buffer.size - start
  · rw [if_pos bounded, if_pos bounded, if_neg (by omega)]
  · rw [if_neg bounded, if_neg bounded]

/-- The windows of two different slots are apart. -/
theorem windows_apart
    {index other : Nat}
    (different : other ≠ index)
    (size : Nat) :
    other * size + size ≤ index * size ∨ index * size + size ≤ other * size := by
  rcases Nat.lt_or_gt_of_ne different with before | after
  · left
    rw [← Nat.succ_mul]
    exact Nat.mul_le_mul_right _ before
  · right
    rw [← Nat.succ_mul]
    exact Nat.mul_le_mul_right _ after

/-! ## Assigning a slot -/

/-- Both arrays of a table are as long as its geometry says. -/
structure Sized (table : Table G) : Prop where
  size_slots : table.slots.size = table.geometry.capacity
  size_buffer : table.buffer.size = table.geometry.size

/-- The table with a record and bytes assigned to one slot. -/
def assign (table : Table G) (index : Nat) (slot : Slot) (bytes : Bytes) : Table G :=
  { table with
    slots := table.slots.setIfInBounds index slot
    buffer := overwrite table.buffer (index * table.geometry.itemSize) bytes }

theorem put_eq_assign (table : Table G) (index : Nat) (item : Item) :
    table.put index item = table.assign index (.holding item.toKey) item.payload := rfl

theorem clear_eq_assign (table : Table G) (index : Nat) :
    table.clear index =
      table.assign index .free (Bytes.zeros table.geometry.itemSize) := rfl

@[simp] theorem geometry_put (table : Table G) (index : Nat) (item : Item) :
    (table.put index item).geometry = table.geometry := rfl

@[simp] theorem geometry_clear (table : Table G) (index : Nat) :
    (table.clear index).geometry = table.geometry := rfl

theorem Sized.assign
    {table : Table G}
    (sized : table.Sized)
    (index : Nat)
    (slot : Slot)
    (bytes : Bytes) :
    (table.assign index slot bytes).Sized where
  size_slots := by
    change (table.slots.setIfInBounds index slot).size = table.geometry.capacity
    rw [Array.size_setIfInBounds, sized.size_slots]
  size_buffer := by
    change (overwrite table.buffer _ bytes).size = table.geometry.size
    rw [size_overwrite, sized.size_buffer]

theorem getElem?_slots_assign
    {table : Table G}
    {index other : Nat}
    {slot recorded : Slot}
    {bytes : Bytes}
    (found : (table.assign index slot bytes).slots[other]? = some recorded) :
    recorded = slot ∨ table.slots[other]? = some recorded := by
  change (table.slots.setIfInBounds index slot)[other]? = some recorded at found
  grind

theorem keyAt?_assign_self
    {table : Table G}
    (sized : table.Sized)
    {index : Nat}
    (inside : index < table.geometry.capacity)
    (slot : Slot)
    (bytes : Bytes) :
    (table.assign index slot bytes).keyAt? index = slot.key? := by
  change (table.slots.setIfInBounds index slot)[index]?.bind Slot.key? = slot.key?
  rw [Array.getElem?_setIfInBounds, if_pos rfl, sized.size_slots, if_pos inside, Option.bind_some]

theorem keyAt?_assign_of_ne
    (table : Table G)
    {index other : Nat}
    (different : other ≠ index)
    (slot : Slot)
    (bytes : Bytes) :
    (table.assign index slot bytes).keyAt? other = table.keyAt? other := by
  change (table.slots.setIfInBounds index slot)[other]?.bind Slot.key? =
    table.slots[other]?.bind Slot.key?
  rw [Array.getElem?_setIfInBounds, if_neg different.symm]

theorem payloadAt_assign_self
    {table : Table G}
    (sized : table.Sized)
    {index : Nat}
    (inside : index < table.geometry.capacity)
    (slot : Slot)
    {bytes : Bytes}
    (fills : bytes.length = table.geometry.itemSize) :
    (table.assign index slot bytes).payloadAt index = bytes := by
  have bounded : index * table.geometry.itemSize + bytes.length ≤ table.buffer.size := by
    rw [fills, sized.size_buffer]
    exact table.geometry.slot_le_size inside
  have readBack := extract_overwrite_self table.buffer _ bytes bounded
  rw [fills] at readBack
  exact readBack

theorem payloadAt_assign_of_ne
    (table : Table G)
    {index other : Nat}
    (different : other ≠ index)
    (slot : Slot)
    {bytes : Bytes}
    (fills : bytes.length = table.geometry.itemSize) :
    (table.assign index slot bytes).payloadAt other = table.payloadAt other := by
  have apart := windows_apart different table.geometry.itemSize
  exact congrArg Array.toList
    (extract_overwrite_of_apart table.buffer _ bytes (by rwa [fills]))

/-! ## What a slot holds after a write -/

/-- A slot into which an item was put holds that item. -/
theorem itemAt?_put_self
    {table : Table G}
    (sized : table.Sized)
    {index : Nat}
    (inside : index < table.geometry.capacity)
    {item : Item}
    (fills : item.payload.length = table.geometry.itemSize) :
    (table.put index item).itemAt? index = some item := by
  rw [itemAt?, put_eq_assign, keyAt?_assign_self sized inside, Slot.key?_holding,
    payloadAt_assign_self sized inside _ fills]
  rfl

/-- Putting an item into one slot leaves every other slot as it was. -/
theorem itemAt?_put_of_ne
    (table : Table G)
    {index other : Nat}
    (different : other ≠ index)
    {item : Item}
    (fills : item.payload.length = table.geometry.itemSize) :
    (table.put index item).itemAt? other = table.itemAt? other := by
  rw [itemAt?, put_eq_assign, keyAt?_assign_of_ne table different,
    payloadAt_assign_of_ne table different _ fills, itemAt?]

/-- A cleared slot holds nothing. -/
theorem itemAt?_clear_self
    {table : Table G}
    (sized : table.Sized)
    {index : Nat}
    (inside : index < table.geometry.capacity) :
    (table.clear index).itemAt? index = none := by
  rw [itemAt?, clear_eq_assign, keyAt?_assign_self sized inside, Slot.key?_free,
    Option.map_none]

/-- Clearing one slot leaves every other slot as it was. -/
theorem itemAt?_clear_of_ne
    (table : Table G)
    {index other : Nat}
    (different : other ≠ index) :
    (table.clear index).itemAt? other = table.itemAt? other := by
  rw [itemAt?, clear_eq_assign, keyAt?_assign_of_ne table different,
    payloadAt_assign_of_ne table different _ (Bytes.length_zeros _), itemAt?]

/-- Clearing a slot before an item is put into it makes no difference. -/
theorem put_clear
    (table : Table G)
    (index : Nat)
    {item : Item}
    (fills : item.payload.length = table.geometry.itemSize) :
    (table.clear index).put index item = table.put index item := by
  have sameSlots :
      (table.slots.setIfInBounds index Slot.free).setIfInBounds index (.holding item.toKey) =
        table.slots.setIfInBounds index (.holding item.toKey) :=
    Array.setIfInBounds_setIfInBounds _
  have sameBuffer := overwrite_overwrite table.buffer (index * table.geometry.itemSize)
    ((Bytes.length_zeros table.geometry.itemSize).trans fills.symm)
  unfold put clear
  rw [sameSlots, sameBuffer]

/-- An occupied slot exists. -/
theorem lt_capacity_of_keyAt?
    {table : Table G}
    (sized : table.Sized)
    {index : Nat}
    {key : Key}
    (occupied : table.keyAt? index = some key) :
    index < table.geometry.capacity := by
  apply Nat.lt_of_not_le
  intro outside
  rw [keyAt?, Array.getElem?_eq_none (by rwa [sized.size_slots])] at occupied
  cases occupied

/-- The bytes of an existing slot fill it. -/
theorem length_payloadAt
    {table : Table G}
    (sized : table.Sized)
    {index : Nat}
    (inside : index < table.geometry.capacity) :
    (table.payloadAt index).length = table.geometry.itemSize := by
  have bounded := table.geometry.slot_le_size inside
  simp only [payloadAt, Array.length_toList, Array.size_extract, sized.size_buffer]
  omega

/-! ## Drawing from the generator -/

/-- The table with its generator replaced. -/
def withCoins (table : Table G) (coins : G) : Table G :=
  { table with coins }

theorem Sized.withCoins
    {table : Table G}
    (sized : table.Sized)
    (coins : G) :
    (table.withCoins coins).Sized :=
  { sized with }

/-- A slot picked at random lies in the bucket it was picked from. -/
theorem pickSlot_mem [CoinSource G] (table : Table G) (bucket : Nat) :
    (table.pickSlot bucket).1 / table.geometry.bucketDepth = bucket :=
  table.geometry.slotIndex_div bucket (Fin.isLt _)

/-! ## Slots that stay as they are -/

/-- A slot has the same record and the same bytes in two tables. -/
structure SameAt (before after : Table G) (index : Nat) : Prop where
  slot_eq : after.slots[index]? = before.slots[index]?
  payload_eq : after.payloadAt index = before.payloadAt index

namespace SameAt

variable {before middle after : Table G} {index : Nat}

theorem trans
    (first : before.SameAt middle index)
    (second : middle.SameAt after index) :
    before.SameAt after index :=
  ⟨second.slot_eq.trans first.slot_eq, second.payload_eq.trans first.payload_eq⟩

theorem keyAt?_eq (same : before.SameAt after index) :
    after.keyAt? index = before.keyAt? index :=
  congrArg (Option.bind · Slot.key?) same.slot_eq

theorem itemAt?_eq (same : before.SameAt after index) :
    after.itemAt? index = before.itemAt? index := by
  rw [itemAt?, itemAt?, same.keyAt?_eq, same.payload_eq]

end SameAt

/-- An assignment leaves all slots but one as they were, whatever was drawn before it. -/
theorem sameAt_assign
    (table : Table G)
    (coins : G)
    {index other : Nat}
    (different : other ≠ index)
    (slot : Slot)
    {bytes : Bytes}
    (fills : bytes.length = table.geometry.itemSize) :
    table.SameAt ((table.withCoins coins).assign index slot bytes) other where
  slot_eq := Array.getElem?_setIfInBounds_ne different.symm
  payload_eq := payloadAt_assign_of_ne table different slot fills

end Table
end ObliviousLog
