import ObliviousLog.Replica.Snapshot

/-!
# Replicas

A replica serves reads from a published shard while writes go to a second table.  A flop publishes
the second table and lets the two trade places; the writes recorded since the last flop are then
replayed on the table that was published before, which brings the two back in step.
-/

namespace ObliviousLog

/-- A double-buffered store: tables steered by `G`, shards of type `S` built by `E`. -/
structure Replica (G E S : Type) where
  /-- The parameters. -/
  config : Config
  /-- The scan engine, in its present state. -/
  engine : E
  /-- The snapshot whose bytes are published. -/
  active : Snapshot G
  /-- The snapshot that writes go to. -/
  alternate : Snapshot G
  /-- The writes since the last flop, in order. -/
  pending : List Item
  /-- The number of flops so far. -/
  epoch : UInt64
  /-- The published shard. -/
  published : S
deriving DecidableEq

/-- What a flop did. -/
structure FlopReport where
  /-- The epoch that was published. -/
  epoch : UInt64
  /-- The replayed writes, with the outcome of each. -/
  replays : List (Item × Except Error WriteReport)

namespace FlopReport

/-- What is told of the replay of one write. -/
def replayEvents (item : Item) : Except Error WriteReport → List Event
  | .error error => [.replayRefused item.id error]
  | .ok report =>
    report.events ++
      match report.outcome with
      | .ok () => []
      | .error error => [.replayRefused item.id error]

/-- What is told of a flop. -/
def events (report : FlopReport) : List Event :=
  report.replays.flatMap (fun replay => replayEvents replay.1 replay.2) ++
    [.epochPublished report.epoch report.replays.length]

end FlopReport

namespace Replica

variable {G E S : Type} [CoinSource G] [ShardLike S] [ScanEngine E S]

/-- Has the engine build a shard of a table, and checks that it has the shape of the configuration.
-/
def buildShard (config : Config) (engine : E) (table : Table G) : Except Error S × E :=
  match
    ScanEngine.build engine table.geometry.numBuckets table.geometry.bucketSize table.data
  with
  | (.error error, engine) => (.error error, engine)
  | (.ok shard, engine) =>
    if
      ShardLike.numBuckets shard = config.numBuckets ∧
        ShardLike.bucketSize shard = config.bucketSize
    then
      (.ok shard, engine)
    else
      (.error (.state .shardGeometry), engine)

/-- The empty replica of a configuration, with the engine that a registry holds under its name. -/
def create (config : Config) (registry : Registry E) : Except Error (Replica G E S) := do
  config.validate
  let engine ← registry.get config.engine
  let snapshot : Snapshot G ← Snapshot.empty config
  let (built, engine) := buildShard config engine snapshot.table
  let published ← built
  return {
    config, engine, published
    active := snapshot
    alternate := snapshot
    pending := []
    epoch := 0 }

/-- What is told of a creation: the replica, and each of its two tables. -/
def creationEvents (config : Config) : List Event :=
  let table :=
    Event.tableCreated config.numBuckets config.bucketDepth config.itemSize
  [.replicaCreated config.numBuckets config.bucketDepth config.itemSize config.engine, table, table]

/-- Writes an item to the alternate table, and records it for the next flop unless it is refused.
-/
def write
    (replica : Replica G E S)
    (item : Item) : Except Error WriteReport × Replica G E S :=
  match replica.alternate.apply replica.config item with
  | (.error error, alternate) => (.error error, { replica with alternate })
  | (.ok report, alternate) =>
    (.ok report, { replica with alternate, pending := replica.pending ++ [item] })

/-- What is told of a write. -/
def writeEvents (item : Item) : Except Error WriteReport → List Event
  | .error _ => []
  | .ok report =>
    report.events ++
      match report.placement with
      | .displaced displaced => [.writeDisplaced item.id displaced.id]
      | _ => []

/-- Applies writes one after the other, keeping the outcome of each. -/
def replay (config : Config) :
    List Item → Snapshot G → List (Item × Except Error WriteReport) × Snapshot G
  | [], snapshot => ([], snapshot)
  | item :: items, snapshot =>
    let (outcome, snapshot) := snapshot.apply config item
    let (replays, snapshot) := replay config items snapshot
    ((item, outcome) :: replays, snapshot)

/-- Publishes the alternate table and brings the other one up to date.  When the engine fails,
nothing but the engine's own state changes. -/
def flop (replica : Replica G E S) : Except Error FlopReport × Replica G E S :=
  match buildShard replica.config replica.engine replica.alternate.table with
  | (.error error, engine) => (.error error, { replica with engine })
  | (.ok published, engine) =>
    let (replays, alternate) := replay replica.config replica.pending replica.active
    let epoch := replica.epoch + 1
    (.ok { epoch, replays }, {
      replica with
      engine, alternate, epoch, published
      active := replica.alternate
      pending := [] })

/-- The number of items in the alternate table. -/
def count (replica : Replica G E S) : Nat :=
  replica.alternate.table.count

end Replica
end ObliviousLog
