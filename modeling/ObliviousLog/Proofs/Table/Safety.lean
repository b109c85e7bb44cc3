import ObliviousLog.Proofs.Table.Displacement
import ObliviousLog.Proofs.Table.Guarded

/-!
# No guard ever fails

In a valid table every number that an operation computes is at most the number of the table's bytes,
which fits in 64 bits, and every slot and every range that it computes lies in the arrays.  A chain
of evictions takes its victims from a bucket that was just found full, and puts the carried item,
which fits the table like all stored ones, into the slot that this has emptied.  So the guarded
operations give what the operations give, in every reachable table.
-/

namespace ObliviousLog
namespace Guarded

/-! ## Numbers and arrays -/

theorem add_of_lt {left right : Nat} (small : left + right < countLimit) :
    add left right = .ok (left + right) :=
  if_pos small

theorem mul_of_lt {left right : Nat} (small : left * right < countLimit) :
    mul left right = .ok (left * right) :=
  if_pos small

theorem slotAt_of_getElem?
    {slots : Array Slot}
    {index : Nat}
    {slot : Slot}
    (found : slots[index]? = some slot) :
    slotAt slots index = .ok slot := by
  rw [slotAt, found]

theorem setSlot_of_lt
    {slots : Array Slot}
    {index : Nat}
    (inside : index < slots.size)
    (slot : Slot) :
    setSlot slots index slot = .ok (slots.setIfInBounds index slot) :=
  if_pos inside

theorem readRange_of_le
    {buffer : Array UInt8}
    {start size : Nat}
    (inside : start + size ≤ buffer.size) :
    readRange buffer start (start + size) =
      .ok (buffer.extract start (start + size)).toList :=
  if_pos ⟨Nat.le_add_right start size, inside⟩

theorem writeRange_of_le
    {buffer : Array UInt8}
    {start size : Nat}
    (inside : start + size ≤ buffer.size)
    {bytes : Bytes}
    (fills : bytes.length = size) :
    writeRange buffer start (start + size) bytes = .ok (Table.overwrite buffer start bytes) := by
  rw [writeRange, if_pos ⟨Nat.le_add_right start size, inside⟩,
    if_pos (by rw [fills, Nat.add_sub_cancel_left])]

/-- Among slots that exist the first wanted one is found, if the test of a record tells whether its
slot is wanted. -/
theorem findSlot_eq
    {slots : Array Slot}
    {indices : List Nat}
    {test : Slot → Bool}
    {wanted : Nat → Bool}
    (tells : ∀ index ∈ indices, ∃ slot, slots[index]? = some slot ∧ test slot = wanted index) :
    findSlot slots test indices = .ok (indices.find? wanted) := by
  induction indices with
  | nil => rfl
  | cons index indices inductionHypothesis =>
      obtain ⟨slot, found, same⟩ := tells index List.mem_cons_self
      have later := inductionHypothesis fun other member =>
        tells other (List.mem_cons_of_mem index member)
      rw [findSlot, slotAt_of_getElem? found, ok_bind, same, later, List.find?_cons]
      cases wanted index <;> rfl

/-! ## Slots of a geometry -/

section

variable {geometry : Geometry} {bucket index : Nat}

theorem slotIndex_eq
    (inside : bucket < geometry.numBuckets)
    {depth : Nat}
    (depthInside : depth < geometry.bucketDepth) :
    slotIndex geometry bucket depth = .ok (geometry.slotIndex bucket depth) := by
  have slotInside : geometry.slotIndex bucket depth < geometry.capacity := by
    rw [Geometry.lt_capacity_iff, geometry.slotIndex_div bucket depthInside]
    exact inside
  have small : geometry.slotIndex bucket depth < countLimit :=
    geometry.lt_countLimit (Nat.le_trans (Nat.le_of_lt slotInside) geometry.capacity_le_size)
  have smallProduct : bucket * geometry.bucketDepth < countLimit :=
    Nat.lt_of_le_of_lt (Nat.le_add_right _ depth) small
  rw [slotIndex, mul_of_lt smallProduct, ok_bind, add_of_lt small, Geometry.slotIndex]

theorem bucketSlots_eq (inside : bucket < geometry.numBuckets) :
    bucketSlots geometry bucket = .ok (geometry.bucketSlots bucket) := by
  have first := slotIndex_eq inside geometry.bucketDepth_pos
  have stopInside : bucket * geometry.bucketDepth + geometry.bucketDepth ≤ geometry.capacity := by
    rw [← Nat.succ_mul]
    exact Nat.mul_le_mul_right _ inside
  have small : bucket * geometry.bucketDepth + geometry.bucketDepth < countLimit :=
    geometry.lt_countLimit (Nat.le_trans stopInside geometry.capacity_le_size)
  rw [bucketSlots, first, ok_bind, Geometry.slotIndex, Nat.add_zero, add_of_lt small, ok_bind,
    Nat.add_sub_cancel_left, List.range'_eq_map_range]
  rfl

theorem slotRange_eq (inside : index < geometry.capacity) :
    slotRange geometry index =
      .ok (index * geometry.itemSize, index * geometry.itemSize + geometry.itemSize) := by
  have small : index * geometry.itemSize + geometry.itemSize < countLimit :=
    geometry.lt_countLimit (geometry.slot_le_size inside)
  have smallStart : index * geometry.itemSize < countLimit :=
    Nat.lt_of_le_of_lt (Nat.le_add_right _ _) small
  rw [slotRange, mul_of_lt smallStart, ok_bind, add_of_lt small]
  rfl

end

/-! ## Slots of a table -/

section

variable {G : Type} {table : Table G} {bucket index : Nat} {item : Item}

theorem lt_size_slots_of_mem
    (sized : table.Sized)
    (inside : bucket < table.geometry.numBuckets)
    (member : index ∈ table.geometry.bucketSlots bucket) :
    index < table.slots.size := by
  rw [sized.size_slots, Geometry.lt_capacity_iff,
    (table.geometry.mem_bucketSlots bucket index).mp member]
  exact inside

/-- Searching an existing bucket record by record finds what is found in it by a property of the
slots' contents, if the test of a record is that property. -/
theorem findInBucket_eq
    (sized : table.Sized)
    (inside : bucket < table.geometry.numBuckets)
    {test : Slot → Bool}
    (wanted : Option Key → Bool)
    (sameTest : ∀ slot, test slot = wanted slot.key?) :
    findInBucket table test bucket =
      .ok ((table.geometry.bucketSlots bucket).find? fun index => wanted (table.keyAt? index)) := by
  rw [findInBucket, bucketSlots_eq inside, ok_bind]
  refine findSlot_eq fun index member => ?_
  have found := Array.getElem?_eq_getElem (lt_size_slots_of_mem sized inside member)
  exact ⟨_, found, by rw [Table.keyAt?, found, Option.bind_some, sameTest]⟩

theorem findInBucket_free
    (sized : table.Sized)
    (inside : bucket < table.geometry.numBuckets) :
    findInBucket table (fun slot => !slot.filled) bucket = .ok (table.freeSlot? bucket) := by
  have sameTest : ∀ slot : Slot, (!slot.filled) = slot.key?.isNone := by
    intro slot
    rw [← slot.isSome_key?, Option.not_isSome]
  exact findInBucket_eq sized inside Option.isNone sameTest

theorem findInBucket_holds
    (sized : table.Sized)
    (inside : bucket < table.geometry.numBuckets)
    (key : Key) :
    findInBucket table (·.holds key) bucket = .ok (table.slotOf? bucket key) := by
  have sameTest : ∀ slot : Slot, slot.holds key = (slot.key? == some key) := by
    intro slot
    rw [Bool.eq_iff_iff, slot.holds_iff, beq_iff_eq]
  exact findInBucket_eq sized inside (· == some key) sameTest

theorem placeAt_of_free
    (sized : table.Sized)
    (inside : index < table.geometry.capacity)
    (free : table.keyAt? index = none)
    (fills : item.payload.length = table.geometry.itemSize) :
    placeAt table index item = .ok (true, table.put index item) := by
  have slotInside : index < table.slots.size := sized.size_slots.symm ▸ inside
  have found := Array.getElem?_eq_getElem slotInside
  have unfilled : table.slots[index].filled = false := by
    rw [Table.keyAt?, found, Option.bind_some] at free
    rw [← Slot.isSome_key?, free, Option.isSome_none]
  have bytesInside := table.geometry.slot_le_size inside
  rw [← sized.size_buffer] at bytesInside
  rw [placeAt, slotAt_of_getElem? found, ok_bind, unfilled, if_neg Bool.false_ne_true,
    slotRange_eq inside, ok_bind]
  dsimp only
  rw [writeRange_of_le bytesInside fills, ok_bind, setSlot_of_lt slotInside, ok_bind]
  rfl

theorem takeSlot_of_held
    (sized : table.Sized)
    {key : Key}
    (held : table.keyAt? index = some key) :
    takeSlot table index =
      .ok ({ key with payload := table.payloadAt index }, table.clear index) := by
  have inside := Table.lt_capacity_of_keyAt? sized held
  have slotInside : index < table.slots.size := sized.size_slots.symm ▸ inside
  obtain ⟨slot, found, isKey⟩ := Option.bind_eq_some_iff.mp held
  have filled : slot.filled = true := by
    rw [← Slot.isSome_key?, isKey, Option.isSome_some]
  have sameKey : slot.toKey = key := by
    rw [Slot.key?, if_pos filled] at isKey
    exact Option.some.inj isKey
  have bytesInside := table.geometry.slot_le_size inside
  rw [← sized.size_buffer] at bytesInside
  have fills := Bytes.length_zeros table.geometry.itemSize
  rw [takeSlot, slotAt_of_getElem? found, ok_bind, filled, ensure, if_pos rfl, ok_bind,
    slotRange_eq inside, ok_bind]
  dsimp only
  rw [readRange_of_le bytesInside, ok_bind, Nat.add_sub_cancel_left,
    writeRange_of_le bytesInside fills, ok_bind, setSlot_of_lt slotInside, ok_bind, sameKey]
  rfl

/-- A slot that was just emptied takes an item that fits. -/
theorem placeAt_clear
    (sized : table.Sized)
    (inside : index < table.geometry.capacity)
    (fills : item.payload.length = table.geometry.itemSize) :
    placeAt (table.clear index) index item = .ok (true, table.put index item) := by
  have cleared : (table.clear index).keyAt? index = none :=
    Table.keyAt?_assign_self sized inside .free _
  have clearedSized : (table.clear index).Sized := sized.assign index .free _
  rw [placeAt_of_free clearedSized inside cleared fills, table.put_clear index fills]

theorem tryPlace_of_free
    (sized : table.Sized)
    (inside : bucket < table.geometry.numBuckets)
    (found : table.freeSlot? bucket = some index)
    (fills : item.payload.length = table.geometry.itemSize) :
    tryPlace table bucket item = .ok (true, table.put index item) := by
  obtain ⟨member, free⟩ := Table.free_of_freeSlot?_eq_some found
  have slotInside : index < table.geometry.capacity := by
    rw [Geometry.lt_capacity_iff, member]
    exact inside
  rw [tryPlace, findInBucket_free sized inside, ok_bind, found]
  exact placeAt_of_free sized slotInside free fills

theorem tryPlace_of_full
    (sized : table.Sized)
    (inside : bucket < table.geometry.numBuckets)
    (full : table.freeSlot? bucket = none)
    (item : Item) :
    tryPlace table bucket item = .ok (false, table) := by
  rw [tryPlace, findInBucket_free sized inside, ok_bind, full]
  rfl

/-! ## Operations -/

theorem contains_eq (sized : table.Sized) (key : Key) :
    contains table key = .ok (table.contains key) := by
  unfold contains Table.contains
  cases passes : table.checkKey key with
  | error error => rfl
  | ok =>
      obtain ⟨first, second⟩ := (table.checkKey_eq_ok_iff key).mp passes
      dsimp only
      rw [findInBucket_holds sized first, ok_bind, findInBucket_holds sized second, ok_bind]
      cases (table.slotOf? key.bucket1 key).isSome <;> rfl

theorem bucket_eq (sized : table.Sized) (index : Nat) :
    Guarded.bucket table index = .ok (table.bucket index) := by
  unfold Guarded.bucket Table.bucket checkBucket
  by_cases inside : index < table.geometry.numBuckets
  · have stopInside :
        index * table.geometry.bucketSize + table.geometry.bucketSize ≤ table.geometry.size := by
      rw [← Nat.succ_mul, Geometry.size_eq_numBuckets_mul]
      exact Nat.mul_le_mul_right _ inside
    have smallSize := table.geometry.lt_countLimit table.geometry.bucketSize_le_size
    have smallStop := table.geometry.lt_countLimit stopInside
    have smallStart := Nat.lt_of_le_of_lt (Nat.le_add_right _ _) smallStop
    have smallNext : index + 1 < countLimit :=
      table.geometry.lt_countLimit (Nat.le_trans inside table.geometry.numBuckets_le_size)
    have smallProduct : (index + 1) * table.geometry.bucketSize < countLimit := by
      rwa [Nat.succ_mul]
    rw [← sized.size_buffer] at stopInside
    rw [if_pos inside]
    dsimp only
    rw [mul_of_lt smallSize, ok_bind, ← Geometry.bucketSize, mul_of_lt smallStart, ok_bind,
      add_of_lt smallNext, ok_bind, mul_of_lt smallProduct, ok_bind, Nat.succ_mul,
      readRange_of_le stopInside]
    rfl
  · rw [if_neg inside]
    rfl

theorem removeFrom_eq
    (sized : table.Sized)
    (key : Key)
    {buckets : List Nat}
    (inside : ∀ bucket ∈ buckets, bucket < table.geometry.numBuckets) :
    removeFrom table key buckets =
      .ok (match buckets.findSome? fun bucket => table.slotOf? bucket key with
        | some index => (true, table.clear index)
        | none => (false, table)) := by
  induction buckets with
  | nil => rfl
  | cons bucket buckets inductionHypothesis =>
      have later := inductionHypothesis fun other member =>
        inside other (List.mem_cons_of_mem bucket member)
      rw [removeFrom, findInBucket_holds sized (inside bucket List.mem_cons_self), ok_bind,
        List.findSome?_cons]
      cases found : table.slotOf? bucket key with
      | none => exact later
      | some index =>
          have held := (Table.held_of_slotOf?_eq_some found).2
          dsimp only
          rw [takeSlot_of_held sized held]
          rfl

variable [CoinSource G]

theorem remove_eq (sized : table.Sized) (key : Key) :
    remove table key = .ok (table.remove key) := by
  unfold remove Table.remove
  cases passes : table.checkKey key with
  | error error => rfl
  | ok =>
      have flippedSized : table.flip.2.Sized := sized.withCoins table.flip.2.coins
      have inside : ∀ bucket ∈ [key.candidate table.flip.1,
          key.otherBucket (key.candidate table.flip.1)],
          bucket < table.flip.2.geometry.numBuckets := by
        intro bucket member
        rcases List.mem_pair.mp member with rfl | rfl
        · exact Table.lt_numBuckets_of_checkKey passes (key.allows_candidate _)
        · exact Table.lt_numBuckets_of_checkKey passes (key.allows_otherBucket _)
      refine (removeFrom_eq flippedSized key inside).trans (congrArg Except.ok ?_)
      cases first : table.flip.2.slotOf? (key.candidate table.flip.1) key with
      | some index => simp only [List.findSome?_cons, first, Option.some_or]
      | none =>
          cases second :
              table.flip.2.slotOf? (key.otherBucket (key.candidate table.flip.1)) key <;>
            simp only [List.findSome?_cons, List.findSome?_nil, first, second, Option.none_or]

theorem pickSlot_eq (inside : bucket < table.geometry.numBuckets) :
    pickSlot table.geometry bucket table.coins =
      .ok (table.victimSlot bucket, (table.pickSlot bucket).2.coins) := by
  have picked := slotIndex_eq inside
    (CoinSource.below table.geometry.bucketDepth table.geometry.bucketDepth_pos table.coins).1.isLt
  rw [pickSlot]
  dsimp only
  rw [picked]
  rfl

/-- A guarded chain of evictions goes as the chain without guards does. -/
theorem relocate_eq
    (budget evictions : Nat)
    {target : Nat}
    {carried : Item}
    (carries : table.Carries target carried) :
    relocate budget evictions target carried table =
      .ok (Table.relocate budget evictions target carried table) := by
  induction budget generalizing evictions table target carried with
  | zero => rfl
  | succ budget inductionHypothesis =>
      have sized := carries.valid.toSized
      have fills := ((table.check_eq_ok_iff carried).mp carries.fits).1
      cases found : table.freeSlot? target with
      | some index =>
          rw [relocate, tryPlace_of_free sized carries.target_lt found fills, ok_bind,
            Table.relocate_of_free found]
          rfl
      | none =>
          obtain ⟨victim, held⟩ := carries.exists_victim found (table.victimSlot_mem target)
          obtain ⟨key, occupied, rfl⟩ := Option.map_eq_some_iff.mp held
          have inside := carries.slot_lt (table.victimSlot_mem target)
          have pickedSized : { table with coins := (table.pickSlot target).2.coins }.Sized :=
            sized.withCoins (table.pickSlot target).2.coins
          have refilled := placeAt_clear pickedSized inside fills
          have next := inductionHypothesis (evictions + 1) (carries.evict held)
          rw [relocate, tryPlace_of_full sized carries.target_lt found, ok_bind,
            Table.relocate_of_full found held, ← next]
          dsimp only
          rw [if_neg Bool.false_ne_true, pickSlot_eq carries.target_lt, ok_bind]
          dsimp only
          rw [takeSlot_of_held pickedSized occupied, ok_bind]
          dsimp only
          rw [refilled, ok_bind]
          rfl

theorem insert_eq (valid : table.Valid) (item : Item) :
    insert table item = .ok (table.insert item) := by
  unfold insert Table.insert Table.place
  cases fits : table.check item with
  | error error => rfl
  | ok =>
      have carries : ∀ bucket, item.Allows bucket → table.flip.2.Carries bucket item :=
        fun _ allowed => ⟨valid.withCoins table.flip.2.coins, fits, allowed⟩
      rcases flipped : table.flip with ⟨heads, rest⟩
      rw [flipped] at carries
      have first := carries _ (item.allows_candidate heads)
      have second := carries _ (item.allows_otherBucket (item.candidate heads))
      have sized := first.valid.toSized
      have fills := ((rest.check_eq_ok_iff item).mp first.fits).1
      dsimp only
      cases found : rest.freeSlot? (item.candidate heads) with
      | some index =>
          rw [tryPlace_of_free sized first.target_lt found fills, ok_bind]
          rfl
      | none =>
          rw [tryPlace_of_full sized first.target_lt found, ok_bind]
          dsimp only
          rw [if_neg Bool.false_ne_true, relocate_eq maxEvictions 0 second, ok_bind]
          rfl

/-- No guard of an operation fails in a valid table. -/
theorem perform_eq (valid : table.Valid) (operation : Table.Operation) :
    perform table operation = .ok (table.perform operation) := by
  have sized := valid.toSized
  cases operation with
  | insert item =>
      rw [perform, insert_eq valid, ok_bind]
      rfl
  | remove key =>
      rw [perform, remove_eq sized, ok_bind]
      rfl
  | contains key =>
      rw [perform, contains_eq sized, ok_bind]
      rfl
  | check item => rfl
  | bucket index =>
      rw [perform, bucket_eq sized, ok_bind]
      rfl

end

end Guarded

namespace Table

variable {G : Type} [CoinSource G]

/-- Operations lead from reachable tables to reachable tables. -/
theorem Reachable.perform
    {table : Table G}
    (reachable : table.Reachable)
    (operation : Operation) :
    (table.perform operation).2.Reachable := by
  cases operation with
  | insert item => exact reachable.insert item
  | remove key => exact reachable.remove key
  | contains key => exact reachable
  | check item => exact reachable
  | bucket index => exact reachable

/-- Whatever is done with a table that insertions and removals built, no guard fails: no sum or
product exceeds 64 bits, no slot and no range of bytes lies outside the arrays, no bytes are copied
to a range of another length, every victim is found in its slot, and every slot that it leaves takes
the carried item.  The answers and the table are those of the operations without guards. -/
theorem reachable_tables_never_fault
    {table : Table G}
    (reachable : table.Reachable)
    (operations : List Operation) :
    Guarded.run table operations = .ok (table.run operations) := by
  induction operations generalizing table with
  | nil => rfl
  | cons operation operations inductionHypothesis =>
      have later := inductionHypothesis (reachable.perform operation)
      rw [Guarded.run, Guarded.perform_eq reachable.valid, Guarded.ok_bind]
      dsimp only
      rw [later]
      rfl

/-- Two items that contend for a single slot are exchanged until the budget is used up.  A bucket
that does not exist is refused after that. -/
theorem Contends.run
    {table : Table G}
    {bucket : Nat}
    {carried occupant : Item}
    (contends : table.Contends bucket carried occupant)
    {other : Nat}
    (outside : table.geometry.numBuckets ≤ other) :
    (table.run [.insert carried, .bucket other]).1 =
      [.placed (.ok (.displaced carried)),
        .bytes (.error (.bucketOutOfBounds other table.geometry.numBuckets))] := by
  obtain ⟨next, inserted, _⟩ := contends.insert
  have geometry := table.geometry_insert carried
  rw [inserted] at geometry
  have refused : next.bucket other =
      .error (.bucketOutOfBounds other table.geometry.numBuckets) := by
    rw [Table.bucket, geometry, checkBucket, if_neg (Nat.not_lt.mpr outside)]
  simp only [Table.run, Table.perform, inserted, refused]

/-- A chain of evictions that uses up its budget on a single slot meets no fault, nor does a
question for the last bucket that a number of 64 bits can name. -/
theorem reachable_tables_never_fault_of_occupiedSlot :
    occupiedSlot.Reachable ∧
      (Guarded.run occupiedSlot [.insert ⟨⟨2, 0, 0⟩, [9]⟩, .bucket (countLimit - 1)]).map Prod.fst =
        .ok
          [.placed (.ok (.displaced ⟨⟨2, 0, 0⟩, [9]⟩)),
            .bytes (.error (.bucketOutOfBounds (countLimit - 1) 1))] := by
  have reachable : occupiedSlot.Reachable := .insert (.empty _ _) _
  have single : occupiedSlot.geometry.numBuckets = 1 := by rw [geometry_occupiedSlot]
  have outside : occupiedSlot.geometry.numBuckets ≤ countLimit - 1 := by
    rw [single]
    decide
  have answers := occupiedSlot_contends.run outside
  rw [single] at answers
  refine ⟨reachable, ?_⟩
  rw [reachable_tables_never_fault reachable, Except.map, answers]

end Table
end ObliviousLog
