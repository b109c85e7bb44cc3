import ObliviousLog.Event
import ObliviousLog.Numeric.Binary64
import ObliviousLog.Random.Source
import ObliviousLog.Table.Geometry

/-!
# Tables

A table keeps a record of each slot and, apart from these, one flat buffer with the payloads of all
slots in order.  The buffer can be published as it stands: a bucket is a contiguous part of it, and
a slot that holds nothing holds zeros.  The table owns the generator that its insertions and
removals draw from.
-/

namespace ObliviousLog

/-- What a table records of a slot. -/
structure Slot extends Key where
  /-- Whether the slot is occupied. -/
  filled : Bool
deriving DecidableEq

namespace Slot

/-- The record of a free slot. -/
def free : Slot where
  id := 0
  bucket1 := 0
  bucket2 := 0
  filled := false

/-- The record of a slot that holds an item with a given key. -/
def holding (key : Key) : Slot :=
  { key with filled := true }

/-- The key in a slot, if the slot is occupied. -/
def key? (slot : Slot) : Option Key :=
  if slot.filled then some slot.toKey else none

@[simp] theorem key?_free : free.key? = none := rfl

@[simp] theorem key?_holding (key : Key) : (holding key).key? = some key := rfl

theorem isSome_key? (slot : Slot) : slot.key?.isSome = slot.filled := by
  cases filled : slot.filled <;> simp [key?, filled]

end Slot

/-- A grid of slots, with the generator that steers placement in it. -/
structure Table (G : Type) where
  /-- The dimensions. -/
  geometry : Geometry
  /-- The records of the slots, bucket by bucket. -/
  slots : Array Slot
  /-- The payloads of all slots, in the same order. -/
  buffer : Array UInt8
  /-- The generator of coin flips and eviction victims. -/
  coins : G
deriving DecidableEq

namespace Table

variable {G : Type}

/-- The empty table of a geometry. -/
def empty [CoinSource G] (geometry : Geometry) (seed : UInt64) : Table G where
  geometry
  slots := Array.replicate geometry.capacity .free
  buffer := Array.replicate geometry.size 0
  coins := CoinSource.ofSeed seed

/-- What is told of the creation of a table. -/
def creationEvents (geometry : Geometry) : List Event :=
  [.tableCreated geometry.numBuckets geometry.bucketDepth geometry.itemSize]

/-- The bytes of the whole table. -/
def data (table : Table G) : Bytes :=
  table.buffer.toList

/-- The bytes of one bucket. -/
def bucket (table : Table G) (bucket : Nat) : Except Error Bytes :=
  match checkBucket bucket table.geometry.numBuckets with
  | .error error => .error error
  | .ok () =>
    let size := table.geometry.bucketSize
    .ok (table.buffer.extract (bucket * size) (bucket * size + size)).toList

/-- The key in a slot, if the slot is occupied. -/
def keyAt? (table : Table G) (index : Nat) : Option Key :=
  table.slots[index]?.bind Slot.key?

/-- The bytes in a slot. -/
def payloadAt (table : Table G) (index : Nat) : Bytes :=
  let size := table.geometry.itemSize
  (table.buffer.extract (index * size) (index * size + size)).toList

/-- The item in a slot, if the slot is occupied. -/
def itemAt? (table : Table G) (index : Nat) : Option Item :=
  (table.keyAt? index).map fun key => { key with payload := table.payloadAt index }

/-- The stored items, in the order of their slots. -/
def items (table : Table G) : List Item :=
  (List.range table.geometry.capacity).filterMap table.itemAt?

/-- The number of occupied slots. -/
def count (table : Table G) : Nat :=
  table.slots.countP Slot.filled

/-- The fraction of slots that are occupied. -/
def loadFactor (table : Table G) : Binary64 :=
  Binary64.ofNat table.count / Binary64.ofNat table.slots.size

/-- The first free slot of a bucket. -/
def freeSlot? (table : Table G) (bucket : Nat) : Option Nat :=
  (table.geometry.bucketSlots bucket).find? fun index => (table.keyAt? index).isNone

/-- The first slot of a bucket that holds a key. -/
def slotOf? (table : Table G) (bucket : Nat) (key : Key) : Option Nat :=
  (table.geometry.bucketSlots bucket).find? fun index => table.keyAt? index == some key

/-- Overwrites the bytes of a buffer from `offset` on. -/
def overwrite (buffer : Array UInt8) (offset : Nat) : Bytes → Array UInt8
  | [] => buffer
  | byte :: rest => overwrite (buffer.setIfInBounds offset byte) (offset + 1) rest

/-- Stores an item in a slot, in place of whatever the slot held. -/
def put (table : Table G) (index : Nat) (item : Item) : Table G :=
  { table with
    slots := table.slots.setIfInBounds index (.holding item.toKey)
    buffer := overwrite table.buffer (index * table.geometry.itemSize) item.payload }

/-- Frees a slot and wipes its bytes. -/
def clear (table : Table G) (index : Nat) : Table G :=
  { table with
    slots := table.slots.setIfInBounds index .free
    buffer :=
      overwrite table.buffer (index * table.geometry.itemSize)
        (Bytes.zeros table.geometry.itemSize) }

/-- Succeeds when both candidate buckets of a key exist; the first one is checked first. -/
def checkKey (table : Table G) (key : Key) : Except Error Unit :=
  match checkBucket key.bucket1 table.geometry.numBuckets with
  | .error error => .error error
  | .ok () => checkBucket key.bucket2 table.geometry.numBuckets

/-- Succeeds when an item fits the table: its payload fills a slot, and its buckets exist. -/
def check (table : Table G) (item : Item) : Except Error Unit :=
  if item.payload.length = table.geometry.itemSize then
    table.checkKey item.toKey
  else
    .error (.invalidConfiguration .payloadLength)

/-- Flips the table's coin. -/
def flip [CoinSource G] (table : Table G) : Bool × Table G :=
  let (heads, coins) := CoinSource.flip table.coins
  (heads, { table with coins })

/-- Picks a slot of a bucket at random. -/
def pickSlot [CoinSource G] (table : Table G) (bucket : Nat) : Nat × Table G :=
  let (depth, coins) :=
    CoinSource.below table.geometry.bucketDepth table.geometry.bucketDepth_pos table.coins
  (table.geometry.slotIndex bucket depth, { table with coins })

end Table
end ObliviousLog
