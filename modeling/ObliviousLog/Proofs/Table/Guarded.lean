import ObliviousLog.Proofs.Table.Lookup

/-!
# Table operations under guard

The operations of a table say nothing of what cannot happen to them: numbers of any size are added,
an index past the end of an array reads nothing and writes nothing, and a chain of evictions ends at
a victim slot that is empty.  Here the same operations stand with a guard on each sum and product,
on each access to a slot or to a range of bytes, and on what is taken for granted of the slots.  The
first guard that fails stops an operation with a fault.  Everything is done one access at a time: a
slot is searched record by record, and a victim is taken out of its slot before the carried item is
put in.
-/

namespace ObliviousLog

/-- Why a guarded operation stops. -/
inductive Fault where
  /-- A sum or a product does not fit in 64 bits. -/
  | overflow
  /-- There is no slot with an index. -/
  | slotIndex
  /-- A range of bytes ends before it begins, or past the end of the buffer. -/
  | byteRange
  /-- Bytes are copied to a range of another length. -/
  | copyLength
  /-- An item is taken from a slot that holds none. -/
  | emptySlot
  /-- A slot from which an item was just taken does not take another one. -/
  | refusedRefill
deriving DecidableEq

namespace Guarded

@[simp] theorem ok_bind
    {α β : Type}
    (value : α)
    (next : α → Except Fault β) :
    (Except.ok value >>= next) = next value := rfl

/-! ## Numbers and arrays -/

/-- Goes on if a condition holds. -/
def ensure (condition : Bool) (fault : Fault) : Except Fault Unit :=
  if condition then .ok () else .error fault

/-- The sum of two counts. -/
def add (left right : Nat) : Except Fault Nat :=
  if left + right < countLimit then .ok (left + right) else .error .overflow

/-- The product of two counts. -/
def mul (left right : Nat) : Except Fault Nat :=
  if left * right < countLimit then .ok (left * right) else .error .overflow

/-- The record of a slot. -/
def slotAt (slots : Array Slot) (index : Nat) : Except Fault Slot :=
  match slots[index]? with
  | some slot => .ok slot
  | none => .error .slotIndex

/-- Overwrites the record of a slot. -/
def setSlot (slots : Array Slot) (index : Nat) (slot : Slot) : Except Fault (Array Slot) :=
  if index < slots.size then .ok (slots.setIfInBounds index slot) else .error .slotIndex

/-- The bytes of a buffer from `start` to `stop`. -/
def readRange (buffer : Array UInt8) (start stop : Nat) : Except Fault Bytes :=
  if start ≤ stop ∧ stop ≤ buffer.size then
    .ok (buffer.extract start stop).toList
  else
    .error .byteRange

/-- Copies a string over the bytes of a buffer from `start` to `stop`. -/
def writeRange
    (buffer : Array UInt8)
    (start stop : Nat)
    (bytes : Bytes) : Except Fault (Array UInt8) :=
  if start ≤ stop ∧ stop ≤ buffer.size then
    if bytes.length = stop - start then
      .ok (Table.overwrite buffer start bytes)
    else
      .error .copyLength
  else
    .error .byteRange

/-! ## Slots of a geometry -/

/-- The index of slot `depth` of a bucket. -/
def slotIndex (geometry : Geometry) (bucket depth : Nat) : Except Fault Nat := do
  let first ← mul bucket geometry.bucketDepth
  add first depth

/-- The indices of the slots of a bucket, in order. -/
def bucketSlots (geometry : Geometry) (bucket : Nat) : Except Fault (List Nat) := do
  let first ← slotIndex geometry bucket 0
  let stop ← add first geometry.bucketDepth
  return List.range' first (stop - first)

/-- The range of the bytes of a slot. -/
def slotRange (geometry : Geometry) (index : Nat) : Except Fault (Nat × Nat) := do
  let start ← mul index geometry.itemSize
  let stop ← add start geometry.itemSize
  return (start, stop)

/-! ## Slots of a table -/

variable {G : Type}

/-- The first of several slots whose record passes a test. -/
def findSlot (slots : Array Slot) (test : Slot → Bool) : List Nat → Except Fault (Option Nat)
  | [] => return none
  | index :: indices => do
    let slot ← slotAt slots index
    if test slot then return some index else findSlot slots test indices

/-- The first slot of a bucket whose record passes a test. -/
def findInBucket
    (table : Table G)
    (test : Slot → Bool)
    (bucket : Nat) : Except Fault (Option Nat) := do
  let indices ← bucketSlots table.geometry bucket
  findSlot table.slots test indices

/-- Stores an item in a slot unless the slot is occupied, and tells whether it was free. -/
def placeAt (table : Table G) (index : Nat) (item : Item) : Except Fault (Bool × Table G) := do
  let slot ← slotAt table.slots index
  if slot.filled then
    return (false, table)
  else
    let (start, stop) ← slotRange table.geometry index
    let buffer ← writeRange table.buffer start stop item.payload
    let slots ← setSlot table.slots index (.holding item.toKey)
    return (true, { table with slots, buffer })

/-- Takes the item out of an occupied slot, which is wiped. -/
def takeSlot (table : Table G) (index : Nat) : Except Fault (Item × Table G) := do
  let slot ← slotAt table.slots index
  ensure slot.filled .emptySlot
  let (start, stop) ← slotRange table.geometry index
  let payload ← readRange table.buffer start stop
  let buffer ← writeRange table.buffer start stop (Bytes.zeros (stop - start))
  let slots ← setSlot table.slots index .free
  return ({ slot.toKey with payload }, { table with slots, buffer })

/-- Stores an item in the first free slot of a bucket, and tells whether there was one. -/
def tryPlace (table : Table G) (bucket : Nat) (item : Item) : Except Fault (Bool × Table G) := do
  match ← findInBucket table (fun slot => !slot.filled) bucket with
  | some index => placeAt table index item
  | none => return (false, table)

/-! ## Operations -/

/-- Whether a candidate bucket of a key holds the key. -/
def contains (table : Table G) (key : Key) : Except Fault Bool :=
  match table.checkKey key with
  | .error _ => return false
  | .ok () => do
    let first ← findInBucket table (·.holds key) key.bucket1
    if first.isSome then
      return true
    else
      let second ← findInBucket table (·.holds key) key.bucket2
      return second.isSome

/-- The bytes of one bucket. -/
def bucket (table : Table G) (index : Nat) : Except Fault (Except Error Bytes) :=
  match checkBucket index table.geometry.numBuckets with
  | .error error => return .error error
  | .ok () => do
    let size ← mul table.geometry.bucketDepth table.geometry.itemSize
    let start ← mul index size
    let next ← add index 1
    let stop ← mul next size
    let bytes ← readRange table.buffer start stop
    return .ok bytes

/-- Frees the first slot with a key in the first of several buckets that have one. -/
def removeFrom (table : Table G) (key : Key) : List Nat → Except Fault (Bool × Table G)
  | [] => return (false, table)
  | bucket :: buckets => do
    match ← findInBucket table (·.holds key) bucket with
    | some index =>
      let (_, table) ← takeSlot table index
      return (true, table)
    | none => removeFrom table key buckets

variable [CoinSource G]

/-- Removes one item with a key, and tells whether there was one. -/
def remove (table : Table G) (key : Key) : Except Fault (Bool × Table G) :=
  match table.checkKey key with
  | .error _ => return (false, table)
  | .ok () =>
    let (heads, table) := table.flip
    let first := key.candidate heads
    removeFrom table key [first, key.otherBucket first]

/-- Picks a slot of a bucket at random. -/
def pickSlot (geometry : Geometry) (bucket : Nat) (coins : G) : Except Fault (Nat × G) := do
  let (depth, coins) := CoinSource.below geometry.bucketDepth geometry.bucketDepth_pos coins
  let index ← slotIndex geometry bucket depth
  return (index, coins)

/-- Carries an item through a chain of at most `budget` evictions, of which `evictions` are past. -/
def relocate :
    (budget evictions target : Nat) →
    (carried : Item) →
    Table G →
    Except Fault (Placement × Table G)
  | 0, _, _, carried, table => return (.displaced carried, table)
  | budget + 1, evictions, target, carried, table => do
    let (placed, table) ← tryPlace table target carried
    if placed then
      return (.relocated evictions, table)
    else
      let (index, coins) ← pickSlot table.geometry target table.coins
      let (victim, table) ← takeSlot { table with coins } index
      let (refilled, table) ← placeAt table index carried
      ensure refilled .refusedRefill
      relocate budget (evictions + 1) (victim.otherBucket target) victim table

/-- Places an item, or refuses one that does not fit. -/
def insert (table : Table G) (item : Item) : Except Fault (Except Error Placement × Table G) :=
  match table.check item with
  | .error error => return (.error error, table)
  | .ok () => do
    let (heads, table) := table.flip
    let start := item.candidate heads
    let (placed, table) ← tryPlace table start item
    if placed then
      return (.ok .immediate, table)
    else
      let (placement, table) ← relocate maxEvictions 0 (item.otherBucket start) item table
      return (.ok placement, table)

end Guarded

/-! ## Runs -/

namespace Table

/-- What can be done with a table. -/
inductive Operation where
  /-- Inserts an item. -/
  | insert (item : Item)
  /-- Removes one item with a key. -/
  | remove (key : Key)
  /-- Asks whether a key is stored. -/
  | contains (key : Key)
  /-- Asks whether an item fits. -/
  | check (item : Item)
  /-- Asks for the bytes of a bucket. -/
  | bucket (index : Nat)
deriving DecidableEq

/-- What an operation answers. -/
inductive Answer where
  /-- An item was placed or refused. -/
  | placed (outcome : Except Error Placement)
  /-- A key was found or not. -/
  | found (whether : Bool)
  /-- An item fits or does not. -/
  | checked (outcome : Except Error Unit)
  /-- A question for bytes was answered or refused. -/
  | bytes (outcome : Except Error Bytes)

variable {G : Type} [CoinSource G]

/-- What an operation answers, and the table afterwards. -/
def perform (table : Table G) : Operation → Answer × Table G
  | .insert item => (.placed (table.insert item).1, (table.insert item).2)
  | .remove key => (.found (table.remove key).1, (table.remove key).2)
  | .contains key => (.found (table.contains key), table)
  | .check item => (.checked (table.check item), table)
  | .bucket index => (.bytes (table.bucket index), table)

/-- What several operations answer one after the other, and the table afterwards. -/
def run (table : Table G) : List Operation → List Answer × Table G
  | [] => ([], table)
  | operation :: operations =>
    let (answer, table) := table.perform operation
    let (answers, table) := table.run operations
    (answer :: answers, table)

end Table

namespace Guarded

variable {G : Type} [CoinSource G]

/-- An operation under guard.  Checking an item compares and neither computes nor accesses anything.
-/
def perform (table : Table G) : Table.Operation → Except Fault (Table.Answer × Table G)
  | .insert item => do
    let (outcome, table) ← insert table item
    return (.placed outcome, table)
  | .remove key => do
    let (removed, table) ← remove table key
    return (.found removed, table)
  | .contains key => do
    let contained ← contains table key
    return (.found contained, table)
  | .check item => return (.checked (table.check item), table)
  | .bucket index => do
    let outcome ← bucket table index
    return (.bytes outcome, table)

/-- Several operations under guard, one after the other. -/
def run (table : Table G) : List Table.Operation → Except Fault (List Table.Answer × Table G)
  | [] => return ([], table)
  | operation :: operations => do
    let (answer, table) ← perform table operation
    let (answers, table) ← run table operations
    return (answer :: answers, table)

end Guarded
end ObliviousLog
