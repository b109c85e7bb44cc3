import ObliviousLog.Proofs.Replica.InStep
import ObliviousLog.Proofs.Shard.Answer

/-!
# Replicas with a standard engine

The standard engines build a shard of every table that has the dimensions of its configuration.  A
replica that uses one of them therefore publishes its active table at all times, no flop of it
fails, and its reads are selections from that table.
-/

namespace ObliviousLog

/-! ## Dimensions -/

/-- A count that fits in 64 bits is not saturated. -/
theorem Config.saturate_of_lt {count : Nat} (small : count < countLimit) :
    Config.saturate count = count :=
  Nat.min_eq_left (Nat.le_sub_one_of_lt small)

/-- A configuration describes a geometry if its dimensions make that geometry. -/
def Config.Describes (config : Config) (geometry : Geometry) : Prop :=
  Geometry.ofDimensions config.numBuckets config.bucketDepth config.itemSize = .ok geometry

namespace Config.Describes

variable {config : Config} {geometry : Geometry}

theorem dimensions (described : config.Describes geometry) :
    config.numBuckets = geometry.numBuckets ∧
      config.bucketDepth = geometry.bucketDepth ∧
      config.itemSize = geometry.itemSize := by
  unfold Describes Geometry.ofDimensions at described
  split at described
  · split at described
    · cases described
    · split at described
      · cases described
        exact ⟨rfl, rfl, rfl⟩
      · cases described
  · cases described

theorem numBuckets (described : config.Describes geometry) :
    config.numBuckets = geometry.numBuckets :=
  described.dimensions.1

/-- A described geometry is small enough for the number of its slots to be exact. -/
theorem capacity (described : config.Describes geometry) :
    config.capacity = geometry.capacity := by
  obtain ⟨sameBuckets, sameDepth, _⟩ := described.dimensions
  have small : geometry.capacity < countLimit := geometry.lt_countLimit geometry.capacity_le_size
  rw [Config.capacity, sameBuckets, sameDepth, ← Geometry.capacity]
  exact saturate_of_lt small

/-- A described geometry is small enough for the size of its buckets to be exact. -/
theorem bucketSize (described : config.Describes geometry) :
    config.bucketSize = geometry.bucketSize := by
  obtain ⟨_, sameDepth, sameSize⟩ := described.dimensions
  have small : geometry.bucketSize < countLimit :=
    geometry.lt_countLimit geometry.bucketSize_le_size
  rw [Config.bucketSize, sameDepth, sameSize, ← Geometry.bucketSize]
  exact saturate_of_lt small

end Config.Describes

theorem Geometry.bucketSize_pos (geometry : Geometry) : 0 < geometry.bucketSize :=
  Nat.mul_pos geometry.bucketDepth_pos geometry.itemSize_pos

/-- The bytes of a table are those of its buckets. -/
theorem Table.length_data
    {G : Type}
    {table : Table G}
    (sized : table.Sized) :
    table.data.length = table.geometry.numBuckets * table.geometry.bucketSize :=
  sized.size_buffer.trans (Nat.mul_assoc _ _ _)

/-- An empty snapshot holds an empty table of the described geometry. -/
theorem Snapshot.eq_of_empty
    {G : Type}
    [CoinSource G]
    {config : Config}
    {snapshot : Snapshot G}
    (emptied : Snapshot.empty config = .ok snapshot) :
    ∃ geometry,
      config.Describes geometry ∧
      snapshot = { table := Table.empty geometry config.seed, history := [] } := by
  unfold Snapshot.empty at emptied
  cases made : Geometry.ofDimensions config.numBuckets config.bucketDepth config.itemSize with
  | error error =>
      rw [made] at emptied
      cases emptied
  | ok geometry =>
      rw [made] at emptied
      cases emptied
      exact ⟨geometry, made, rfl⟩

/-! ## Engines and shards -/

theorem Registry.get_standard
    {engine : String}
    (standardEngine : engine = "cpu" ∨ engine = "cpu64") :
    ∃ method, Registry.standard.get engine = .ok method := by
  rcases standardEngine with rfl | rfl
  · exact ⟨.bytewise, rfl⟩
  · exact ⟨.wordwise, rfl⟩

/-- The shard of a table's bytes. -/
def Shard.ofTable
    {G : Type}
    (method : ScanMethod)
    (table : Table G)
    (sized : table.Sized) : Shard where
  method := method
  numBuckets := table.geometry.numBuckets
  bucketSize := table.geometry.bucketSize
  data := table.data
  numBuckets_pos := table.geometry.numBuckets_pos
  bucketSize_pos := table.geometry.bucketSize_pos
  length_data := Table.length_data sized

namespace Replica

variable {G : Type}

/-- A standard engine builds the shard of a table that has the dimensions of the configuration. -/
theorem buildShard_standard
    {config : Config}
    {table : Table G}
    (described : config.Describes table.geometry)
    (sized : table.Sized)
    (method : ScanMethod) :
    buildShard config method table = (.ok (Shard.ofTable method table sized), method) := by
  have positive : 0 < table.geometry.numBuckets ∧ 0 < table.geometry.bucketSize :=
    ⟨table.geometry.numBuckets_pos, table.geometry.bucketSize_pos⟩
  have fills := Table.length_data sized
  have built :
      (ScanEngine.build method table.geometry.numBuckets table.geometry.bucketSize table.data :
        Except Error Shard × ScanMethod) = (.ok (Shard.ofTable method table sized), method) := by
    change (Shard.ofData _ _ _ _, method) = _
    rw [Shard.ofData, dif_pos positive, dif_pos fills]
    rfl
  rw [buildShard, built]
  exact if_pos ⟨described.numBuckets.symm, described.bucketSize.symm⟩

variable [CoinSource G]

/-- Both tables have the dimensions of the configuration, the writes go to a valid one, and the
published shard is the shard of the active one. -/
structure Sound (replica : Replica G ScanMethod Shard) : Prop extends replica.InStep where
  described : replica.config.Describes replica.alternate.table.geometry
  valid : replica.alternate.table.Valid
  activeDescribed : replica.config.Describes replica.active.table.geometry
  mirrored :
    ∃ method sized, replica.published = Shard.ofTable method replica.active.table sized

/-- The empty replica of a configuration that describes a geometry. -/
def start
    (config : Config)
    (method : ScanMethod)
    (geometry : Geometry) : Replica G ScanMethod Shard where
  config := config
  engine := method
  active := { table := Table.empty geometry config.seed, history := [] }
  alternate := { table := Table.empty geometry config.seed, history := [] }
  pending := []
  epoch := 0
  published :=
    Shard.ofTable method (Table.empty (G := G) geometry config.seed)
      (Table.valid_empty geometry config.seed).toSized

/-- With a standard engine, nothing but the parameters can keep a replica from being created. -/
theorem create_standard
    {config : Config}
    {registry : Registry ScanMethod}
    {method : ScanMethod}
    {geometry : Geometry}
    (validated : config.validate = .ok ())
    (found : registry.get config.engine = .ok method)
    (described : config.Describes geometry) :
    create config registry = .ok (start config method geometry : Replica G ScanMethod Shard) := by
  have emptied :
      Snapshot.empty config =
        .ok { table := Table.empty (G := G) geometry config.seed, history := [] } := by
    rw [Snapshot.empty, described]
  exact create_of_shard validated found emptied (buildShard_standard described _ method)

/-- A replica of two one-byte slots in buckets of their own can be created. -/
theorem create_twoSlots
    {engine : String}
    (standardEngine : engine = "cpu" ∨ engine = "cpu64") :
    ∃ fresh : Replica G ScanMethod Shard,
      create { Config.ofDimensions 2 1 1 with engine } Registry.standard = .ok fresh := by
  have validated : (Config.ofDimensions 2 1 1).validate = .ok () := by decide +kernel
  obtain ⟨method, found⟩ := Registry.get_standard standardEngine
  obtain ⟨geometry, described⟩ : ∃ geometry, (Config.ofDimensions 2 1 1).Describes geometry :=
    ⟨_, rfl⟩
  exact ⟨start _ method geometry, create_standard validated found described⟩

/-- A replica that was created with a standard engine is sound. -/
theorem sound_of_create
    {config : Config}
    {registry : Registry ScanMethod}
    {fresh : Replica G ScanMethod Shard}
    (created : create config registry = .ok fresh) :
    fresh.Sound := by
  have inStep := inStep_of_create created
  obtain ⟨_, method, _, _, _, _, emptied, built, rfl⟩ := eq_of_create created
  obtain ⟨geometry, described, rfl⟩ := Snapshot.eq_of_empty emptied
  have valid := Table.valid_empty (G := G) geometry config.seed
  rw [buildShard_standard described valid.toSized] at built
  cases built
  exact ⟨inStep, described, valid, described, method, valid.toSized, rfl⟩

namespace Sound

variable {replica : Replica G ScanMethod Shard}

/-- Every call keeps a replica sound. -/
theorem call
    (sound : replica.Sound)
    (call : Call) :
    (replica.call call).2.Sound := by
  have inStep := sound.toInStep.call call
  rcases replica.call_cases call with
    ⟨_, _, quiet, _⟩ | ⟨item, _, alternate, _, applied, accepts⟩ | ⟨_, _, _, built, publishes⟩
  · rw [quiet] at inStep ⊢
    exact ⟨inStep, sound.described, sound.valid, sound.activeDescribed, sound.mirrored⟩
  · have sameGeometry := replica.alternate.geometry_apply replica.config item
    have valid := Snapshot.valid_apply sound.valid replica.config item
    rw [applied] at sameGeometry valid
    rw [accepts] at inStep ⊢
    refine ⟨inStep, ?_, valid, sound.activeDescribed, sound.mirrored⟩
    change replica.config.Describes alternate.table.geometry
    rw [sameGeometry]
    exact sound.described
  · rw [buildShard_standard sound.described sound.valid.toSized] at built
    cases built
    rw [publishes] at inStep ⊢
    rw [sound.caughtUp] at inStep ⊢
    exact ⟨inStep, sound.described, sound.valid, sound.described, _, sound.valid.toSized, rfl⟩

theorem after
    (sound : replica.Sound)
    (calls : List Call) :
    (replica.after calls).Sound :=
  Session.final_keeps Sound (fun _ call sound => sound.call call) sound calls

/-- Every flop of a sound replica succeeds.  It reports the next epoch with the replay of the
pending writes, and publishes the shard of the alternate table. -/
theorem flop_eq (sound : replica.Sound) :
    replica.flop =
      (.ok {
        epoch := replica.epoch + 1
        replays := (replay replica.config replica.pending replica.active).1 },
      { replica with
        published :=
          Shard.ofTable replica.engine replica.alternate.table sound.valid.toSized
        active := replica.alternate
        alternate := replica.active.applyAll replica.config replica.pending
        epoch := replica.epoch + 1
        pending := [] }) :=
  flop_of_shard (buildShard_standard sound.described sound.valid.toSized replica.engine)

theorem call_flop (sound : replica.Sound) : (replica.call .flop).1 = .flopped (.ok ()) := by
  rw [Replica.call, sound.flop_eq]
  rfl

/-- The published bytes are the bytes of the active table. -/
theorem published_data (sound : replica.Sound) :
    replica.published.data = replica.active.table.data := by
  obtain ⟨_, _, published⟩ := sound.mirrored
  rw [published]
  rfl

/-- A batch is answered with what each of its requests selects from the active table. -/
theorem batchRead_eq
    (sound : replica.Sound)
    (requests : Bytes) :
    replica.batchRead requests =
      if requests.length % replica.config.requestLength = 0 then
        .ok ((requests.pieces replica.config.requestLength
          (requests.length / replica.config.requestLength)).flatMap
            (replica.active.table.data.selected replica.config.bucketSize
              replica.config.numBuckets))
      else
        .error (.invalidConfiguration .batchLength) := by
  obtain ⟨method, sized, published⟩ := sound.mirrored
  rw [batchRead, published, Config.requestLength, sound.activeDescribed.numBuckets,
    sound.activeDescribed.bucketSize]
  exact Shard.read_eq_selected (Nat.le_refl _) requests

/-- A published bucket is a window of the active table. -/
theorem bucket_eq
    (sound : replica.Sound)
    (index : Nat) :
    ShardLike.bucket replica.published index =
      (checkBucket index replica.config.numBuckets).map fun _ =>
        replica.active.table.data.window replica.config.bucketSize index := by
  obtain ⟨method, sized, published⟩ := sound.mirrored
  rw [published, sound.activeDescribed.numBuckets, sound.activeDescribed.bucketSize]
  exact Shard.bucket_eq_window _ index

end Sound

end Replica
end ObliviousLog
