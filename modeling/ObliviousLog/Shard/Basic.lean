import ObliviousLog.Error

/-!
# Shards

A shard is an immutable copy of a table's bytes, cut into equally long buckets, from which reads are
answered.  It also fixes by which method its buckets are scanned.
-/

namespace ObliviousLog

/-- How the buckets of a shard are scanned. -/
inductive ScanMethod where
  /-- One byte at a time. -/
  | bytewise
  /-- In 64-bit lanes, and one byte at a time where a bucket ends inside a lane. -/
  | wordwise
deriving DecidableEq

/-- A sequence of equally long buckets to scan. -/
structure Shard where
  /-- The method by which the buckets are scanned. -/
  method : ScanMethod
  /-- The number of buckets. -/
  numBuckets : Nat
  /-- The number of bytes in each bucket. -/
  bucketSize : Nat
  /-- The bytes of all buckets in order. -/
  data : Bytes
  numBuckets_pos : 0 < numBuckets
  bucketSize_pos : 0 < bucketSize
  length_data : data.length = numBuckets * bucketSize
deriving DecidableEq

namespace Shard

/-- The shard with given buckets.  A zero dimension is reported before a wrong number of bytes. -/
def ofData
    (method : ScanMethod)
    (numBuckets bucketSize : Nat)
    (data : Bytes) : Except Error Shard :=
  if positive : 0 < numBuckets ∧ 0 < bucketSize then
    if fills : data.length = numBuckets * bucketSize then
      .ok {
        method, numBuckets, bucketSize, data
        numBuckets_pos := positive.1
        bucketSize_pos := positive.2
        length_data := fills }
    else
      .error (.invalidConfiguration .shardLength)
  else
    .error (.invalidConfiguration .emptyShard)

/-- The buckets in order. -/
def buckets (shard : Shard) : List Bytes :=
  shard.data.pieces shard.bucketSize shard.numBuckets

/-- The bytes of one bucket. -/
def bucket (shard : Shard) (bucket : Nat) : Except Error Bytes :=
  match checkBucket bucket shard.numBuckets with
  | .error error => .error error
  | .ok () => .ok ((shard.data.drop (bucket * shard.bucketSize)).take shard.bucketSize)

end Shard
end ObliviousLog
