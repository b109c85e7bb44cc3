import ObliviousLog.Proofs.Replica.Session
import ObliviousLog.Proofs.Shard.Selection

/-!
# A store with a single snapshot

What a replica is for can be said with one snapshot and a copy of its bytes.  Writes are applied to
the snapshot, a flop renews the copy, and questions are answered from the copy by the sums they ask
for.  There is no second table, no replay and no engine.
-/

namespace ObliviousLog

/-- A snapshot with the bytes of it that were published last. -/
structure Store (G : Type) where
  /-- The parameters. -/
  config : Config
  /-- The snapshot that writes are applied to. -/
  snapshot : Snapshot G
  /-- The published bytes. -/
  published : Bytes
  /-- The number of flops so far. -/
  epoch : UInt64
  /-- The number of writes accepted since the last flop. -/
  unpublished : Nat

namespace Store

variable {G : Type} [CoinSource G]

/-- The empty store of a configuration. -/
def create (config : Config) : Except Error (Store G) := do
  config.validate
  let snapshot : Snapshot G ← Snapshot.empty config
  return { config, snapshot, published := snapshot.table.data, epoch := 0, unpublished := 0 }

/-- Applies a write to the snapshot, and counts it unless it is refused. -/
def write (store : Store G) (item : Item) : Except Error WriteReport × Store G :=
  match store.snapshot.apply store.config item with
  | (.error error, snapshot) => (.error error, { store with snapshot })
  | (.ok report, snapshot) =>
    (.ok report, { store with snapshot, unpublished := store.unpublished + 1 })

/-- Publishes the bytes of the snapshot. -/
def flop (store : Store G) : Store G :=
  { store with
    published := store.snapshot.table.data
    epoch := store.epoch + 1
    unpublished := 0 }

/-- For each request of a batch, the exclusive or of the published buckets that it selects. -/
def read (store : Store G) (requests : Bytes) : Except Error Bytes :=
  let stride := store.config.requestLength
  if requests.length % stride = 0 then
    .ok ((requests.pieces stride (requests.length / stride)).flatMap
      (store.published.selected store.config.bucketSize store.config.numBuckets))
  else
    .error (.invalidConfiguration .batchLength)

/-- The bytes of one published bucket. -/
def bucket (store : Store G) (index : Nat) : Except Error Bytes :=
  (checkBucket index store.config.numBuckets).map fun _ =>
    store.published.window store.config.bucketSize index

/-- What a store answers to a call, and the store afterwards. -/
def call (store : Store G) : Call → Response × Store G
  | .write item => (.written (store.write item).1, (store.write item).2)
  | .flop => (.flopped (.ok ()), store.flop)
  | .read requests => (.bytes (store.read requests), store)
  | .bucket index => (.bytes (store.bucket index), store)
  | .epoch => (.epoch store.epoch, store)
  | .pendingWrites => (.number store.unpublished, store)
  | .count => (.number store.snapshot.table.count, store)

/-- The calls of a session with a store, each with its response. -/
def trace (store : Store G) (calls : List Call) : List (Call × Response) :=
  Session.trace call store calls

end Store
end ObliviousLog
