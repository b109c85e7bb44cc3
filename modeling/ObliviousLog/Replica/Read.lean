import ObliviousLog.Replica.Basic
import ObliviousLog.Request.Recovery

/-!
# Reading from a replica

A replica answers batches of requests from its published shard.  A padded batch consists of read
shares; each response is hidden by the pad of its share.
-/

namespace ObliviousLog
namespace Replica

variable {G E S : Type}

/-- The answers of the published shard to a batch of requests. -/
def batchRead
    [ShardLike S]
    (replica : Replica G E S)
    (requests : Bytes) : Except Error Bytes :=
  ShardLike.read replica.published requests replica.config.requestLength

/-- What is told of a batch, whether or not it can be answered. -/
def readEvents (replica : Replica G E S) (requests : Bytes) : List Event :=
  [.batchRead requests.length replica.epoch]

/-- The batch that the vectors of several shares make, if they all address the replica's buckets.
-/
def gather (replica : Replica G E S) (shares : List ReadShare) : Except Error Bytes :=
  if shares.all fun share => share.vector.numBuckets == replica.config.numBuckets then
    RequestVector.batch (shares.map ReadShare.vector)
  else
    .error (.invalidConfiguration .foreignVector)

/-- One response for each share, under the share's pad. -/
def batchReadPadded
    [ShardLike S]
    (C : Type)
    [BlockCipher C]
    (replica : Replica G E S)
    (shares : List ReadShare) : Except Error (List Bytes) := do
  let batch ← replica.gather shares
  let answers ← replica.batchRead batch
  let size := replica.config.bucketSize
  return List.zipWith (fun response share => share.padSeed.apply C response)
    (answers.pieces size (answers.length / size)) shares

/-- What is told of a padded batch: nothing if its vectors do not belong together. -/
def paddedReadEvents (replica : Replica G E S) (shares : List ReadShare) : List Event :=
  match replica.gather shares with
  | .error _ => []
  | .ok batch => replica.readEvents batch

end Replica
end ObliviousLog
