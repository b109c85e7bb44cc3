import ObliviousLog.Shard.Basic

/-!
# Scanning a shard

The answer to a request is the exclusive or of the buckets whose bit is set in it.  Both methods
visit every bucket in order for every request and mask it with its bit, so that neither the accesses
nor the work depend on which bits are set.  A batch is a concatenation of equally long requests,
which are answered one after the other.
-/

namespace ObliviousLog
namespace Shard

/-- The byte that keeps a selected byte and blanks any other. -/
def byteMask (selected : Bool) : UInt8 :=
  if selected then 0xff else 0

/-- The word that keeps a selected lane and blanks any other. -/
def laneMask (selected : Bool) : UInt64 :=
  if selected then 0xffffffffffffffff else 0

/-- Adds the masked bytes of one bucket to a sum. -/
def addBytes (mask : UInt8) (sum bucket : Bytes) : Bytes :=
  List.zipWith (fun total byte => total ^^^ (byte &&& mask)) sum bucket

/-- The answer to one request, one byte at a time. -/
def answerBytewise (shard : Shard) (request : Bytes) : Bytes :=
  shard.buckets.zipIdx.foldl
    (fun sum entry => addBytes (byteMask (request.bit entry.2)) sum entry.1)
    (Bytes.zeros shard.bucketSize)

/-- The number of bytes in a lane. -/
def laneSize : Nat := 8

/-- The 64-bit lanes at the front of a bucket, each low byte first. -/
def lanesOf (count : Nat) (bucket : Bytes) : List UInt64 :=
  (bucket.pieces laneSize count).map fun lane => UInt64.ofNat lane.littleEndian

/-- Adds the masked lanes of one bucket to a sum. -/
def addLanes (mask : UInt64) (sum lanes : List UInt64) : List UInt64 :=
  List.zipWith (fun total lane => total ^^^ (lane &&& mask)) sum lanes

/-- The bytes of a lane, low byte first. -/
def laneBytes (lane : UInt64) : Bytes :=
  Bytes.ofLittleEndian laneSize lane.toNat

/-- The total that stands in lanes and left-over bytes. -/
def joined (sums : List UInt64 × Bytes) : Bytes :=
  sums.1.flatMap laneBytes ++ sums.2

/-- Adds one bucket to a total in lanes if it is wanted, given the number of lanes. -/
def addBucket
    (count : Nat)
    (wanted : Bool)
    (sums : List UInt64 × Bytes)
    (bucket : Bytes) : List UInt64 × Bytes :=
  (addLanes (laneMask wanted) sums.1 (lanesOf count bucket),
    addBytes (laneMask wanted).toUInt8 sums.2 (bucket.drop (count * laneSize)))

/-- Sets a total in lanes back to zero. -/
def clearSums (sums : List UInt64 × Bytes) : List UInt64 × Bytes :=
  (sums.1.map fun _ => 0, sums.2.map fun _ => 0)

/-- The total over the buckets that one request asks for, taken where the total of the request
before it may still stand. -/
def sumWordwise
    (shard : Shard)
    (request : Bytes)
    (sums : List UInt64 × Bytes) : List UInt64 × Bytes :=
  shard.buckets.zipIdx.foldl
    (fun sums entry =>
      addBucket (shard.bucketSize / laneSize) (request.bit entry.2) sums entry.1)
    (clearSums sums)

/-- The answers to several requests, in lanes, with the bytes after the last whole lane one at a
time.  All requests share one total. -/
def answersWordwise (shard : Shard) : (requests : List Bytes) → List UInt64 × Bytes → Bytes
  | [], _ => []
  | request :: requests, sums =>
    let sums := shard.sumWordwise request sums
    joined sums ++ shard.answersWordwise requests sums

/-- The answers to several requests, by the shard's own method. -/
def answers (shard : Shard) (requests : List Bytes) : Bytes :=
  match shard.method with
  | .bytewise => requests.flatMap shard.answerBytewise
  | .wordwise =>
    let count := shard.bucketSize / laneSize
    shard.answersWordwise requests
      (List.replicate count 0, Bytes.zeros (shard.bucketSize - count * laneSize))

/-- The answers to a batch of requests of `stride` bytes each.  A stride without a bit for every
bucket is reported before a batch that is not a whole number of requests. -/
def read (shard : Shard) (requests : Bytes) (stride : Nat) : Except Error Bytes :=
  if stride < Bytes.forBits shard.numBuckets then
    .error (.invalidConfiguration .shortRequest)
  else if requests.length % stride = 0 then
    .ok (shard.answers (requests.pieces stride (requests.length / stride)))
  else
    .error (.invalidConfiguration .batchLength)

end Shard
end ObliviousLog
