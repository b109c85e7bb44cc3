import ObliviousLog.Error

/-!
# The geometry of a table

A table is a grid of equally long slots, a fixed number of them in each bucket.  A geometry is such
a grid whose dimensions are positive and whose bytes can all be counted in 64 bits, so that every
index and offset computed from it stays representable.
-/

namespace ObliviousLog

/-- One more than the largest count that fits in 64 bits. -/
def countLimit : Nat := UInt64.size

/-- The dimensions of a table. -/
@[ext]
structure Geometry where
  /-- The number of buckets. -/
  numBuckets : Nat
  /-- The number of slots in each bucket. -/
  bucketDepth : Nat
  /-- The number of bytes in each slot. -/
  itemSize : Nat
  numBuckets_pos : 0 < numBuckets
  bucketDepth_pos : 0 < bucketDepth
  itemSize_pos : 0 < itemSize
  size_lt : numBuckets * bucketDepth * itemSize < countLimit

namespace Geometry

instance : DecidableEq Geometry :=
  fun _ _ => decidable_of_iff _ Geometry.ext_iff.symm

/-- The number of slots. -/
def capacity (geometry : Geometry) : Nat :=
  geometry.numBuckets * geometry.bucketDepth

/-- The number of bytes in each bucket. -/
def bucketSize (geometry : Geometry) : Nat :=
  geometry.bucketDepth * geometry.itemSize

/-- The number of bytes in the whole table. -/
def size (geometry : Geometry) : Nat :=
  geometry.capacity * geometry.itemSize

/-- The index of slot `depth` of a bucket; slots are numbered bucket by bucket. -/
def slotIndex (geometry : Geometry) (bucket depth : Nat) : Nat :=
  bucket * geometry.bucketDepth + depth

/-- The indices of the slots of a bucket, in order. -/
def bucketSlots (geometry : Geometry) (bucket : Nat) : List Nat :=
  (List.range geometry.bucketDepth).map (geometry.slotIndex bucket)

/-- The geometry with given dimensions.  A zero dimension is reported first, then a number of slots
and last a number of bytes that do not fit in 64 bits. -/
def ofDimensions (numBuckets bucketDepth itemSize : Nat) : Except Error Geometry :=
  if positive : 0 < numBuckets ∧ 0 < bucketDepth ∧ 0 < itemSize then
    if countLimit ≤ numBuckets * bucketDepth then
      .error (.invalidConfiguration .tableCapacity)
    else if representable : numBuckets * bucketDepth * itemSize < countLimit then
      .ok {
        numBuckets, bucketDepth, itemSize
        numBuckets_pos := positive.1
        bucketDepth_pos := positive.2.1
        itemSize_pos := positive.2.2
        size_lt := representable }
    else
      .error (.invalidConfiguration .tableSize)
  else
    .error (.invalidConfiguration .emptyTable)

end Geometry
end ObliviousLog
