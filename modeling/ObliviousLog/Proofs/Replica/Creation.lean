import ObliviousLog.Proofs.Replica.History

/-!
# Which replicas can be created

Sizes are computed in several ways: a configuration saturates them, a geometry checks one product
after the other, a table multiplies plainly, and a shard compares the product with the bytes it is
given.  All of these agree as soon as the number of bytes of a table fits in 64 bits, and a
configuration whose tables do not fit is refused.  What a standard engine is asked for after that is
always of the shape it was asked for at first, so that no flop can fail.
-/

namespace ObliviousLog

/-- Dimensions make a geometry exactly if none is zero and the number of bytes fits in 64 bits. -/
theorem Geometry.exists_ofDimensions_iff (numBuckets bucketDepth itemSize : Nat) :
    (∃ geometry, ofDimensions numBuckets bucketDepth itemSize = .ok geometry) ↔
      (0 < numBuckets ∧ 0 < bucketDepth ∧ 0 < itemSize) ∧
        numBuckets * bucketDepth * itemSize < countLimit := by
  by_cases positive : 0 < numBuckets ∧ 0 < bucketDepth ∧ 0 < itemSize
  · by_cases tooMany : countLimit ≤ numBuckets * bucketDepth
    · have slotsLeBytes :
          numBuckets * bucketDepth ≤ numBuckets * bucketDepth * itemSize :=
        Nat.le_mul_of_pos_right _ positive.2.2
      have tooLarge : ¬numBuckets * bucketDepth * itemSize < countLimit :=
        Nat.not_lt.mpr (Nat.le_trans tooMany slotsLeBytes)
      simp [ofDimensions, positive, tooMany, tooLarge]
    · by_cases representable : numBuckets * bucketDepth * itemSize < countLimit
      · simp [ofDimensions, positive, tooMany, representable]
      · simp [ofDimensions, positive, tooMany, representable]
  · simp [ofDimensions, positive]

namespace Config

variable {config : Config}

/-- A configuration is valid exactly if no dimension is zero and both load factors are valid. -/
theorem validate_eq_ok_iff :
    config.validate = .ok () ↔
      (0 < config.numBuckets ∧ 0 < config.bucketDepth ∧ 0 < config.itemSize) ∧
        isLoadFactor config.maxLoadFactor = true ∧ isLoadFactor config.loadFactorStep = true := by
  unfold validate
  by_cases zero : config.numBuckets = 0 ∨ config.bucketDepth = 0 ∨ config.itemSize = 0
  · have notPositive :
        ¬(0 < config.numBuckets ∧ 0 < config.bucketDepth ∧ 0 < config.itemSize) := by omega
    simp [zero, notPositive]
  · have positive : 0 < config.numBuckets ∧ 0 < config.bucketDepth ∧ 0 < config.itemSize := by
      omega
    simp [zero, positive]

end Config

namespace Replica

variable {G : Type} [CoinSource G]

/-- With a standard engine a replica is created exactly if its configuration is valid and describes
a geometry. -/
theorem exists_create_standard_iff
    {config : Config}
    (standardEngine : config.engine = "cpu" ∨ config.engine = "cpu64") :
    (∃ fresh : Replica G ScanMethod Shard, create config Registry.standard = .ok fresh) ↔
      config.validate = .ok () ∧ ∃ geometry, config.Describes geometry := by
  constructor
  · rintro ⟨fresh, created⟩
    obtain ⟨snapshot, _, _, _, validated, _, emptied, _⟩ := eq_of_create created
    obtain ⟨geometry, described, _⟩ := Snapshot.eq_of_empty emptied
    exact ⟨validated, geometry, described⟩
  · rintro ⟨validated, geometry, described⟩
    obtain ⟨method, found⟩ := Registry.get_standard standardEngine
    exact ⟨start config method geometry, create_standard validated found described⟩

/-- With a standard engine, a replica is created exactly if no dimension is zero, both load factors
are valid and the exact number of bytes of its tables fits in 64 bits.  Then the sizes that the
configuration saturates are exact, every snapshot that the replica ever holds has these sizes, and
whatever was written and read before, a flop succeeds: it reports the next epoch with the replay of
the pending writes, and publishes the bytes of the alternate snapshot, which becomes the active one.
-/
theorem standard_replica_never_breaks
    (config : Config)
    (standardEngine : config.engine = "cpu" ∨ config.engine = "cpu64") :
    ((∃ fresh : Replica G ScanMethod Shard, create config Registry.standard = .ok fresh) ↔
      (0 < config.numBuckets ∧ 0 < config.bucketDepth ∧ 0 < config.itemSize) ∧
        (Config.isLoadFactor config.maxLoadFactor = true ∧
          Config.isLoadFactor config.loadFactorStep = true) ∧
        config.numBuckets * config.bucketDepth * config.itemSize < 2 ^ 64) ∧
    ∀ fresh : Replica G ScanMethod Shard, create config Registry.standard = .ok fresh →
      config.capacity = config.numBuckets * config.bucketDepth ∧
      config.bucketSize = config.bucketDepth * config.itemSize ∧
      ∀ calls : List Call,
        let reached := fresh.after calls
        (∀ snapshot, reached.Holds snapshot →
          snapshot.table.slots.size = config.capacity ∧
          snapshot.table.geometry.bucketSize = config.bucketSize) ∧
        reached.flop.1 =
          .ok {
            epoch := reached.epoch + 1
            replays := (replay config reached.pending reached.active).1 } ∧
        reached.flop.2.active = reached.alternate ∧
        reached.flop.2.published.data = reached.alternate.table.data := by
  constructor
  · have representable := Geometry.exists_ofDimensions_iff config.numBuckets config.bucketDepth
      config.itemSize
    have limit : countLimit = 2 ^ 64 := rfl
    rw [limit] at representable
    rw [exists_create_standard_iff standardEngine, Config.validate_eq_ok_iff]
    simp only [Config.Describes, representable]
    constructor
    · rintro ⟨⟨positive, factors⟩, _, small⟩
      exact ⟨positive, factors, small⟩
    · rintro ⟨positive, factors, small⟩
      exact ⟨⟨positive, factors⟩, positive, small⟩
  · intro fresh created
    have held := describes_of_held created [] .active
    obtain ⟨sameBuckets, sameDepth, sameSize⟩ := held.dimensions
    refine ⟨?_, ?_, fun calls => ⟨fun snapshot held => ⟨?_, ?_⟩, ?_⟩⟩
    · rw [held.capacity, sameBuckets, sameDepth, Geometry.capacity]
    · rw [held.bucketSize, sameDepth, sameSize, Geometry.bucketSize]
    · rw [(describes_of_held created calls held).capacity]
      exact (consistent_of_held created calls held).valid.size_slots
    · exact (describes_of_held created calls held).bucketSize.symm
    · rw [((sound_of_create created).after calls).flop_eq, config_after_of_create created calls]
      exact ⟨rfl, rfl, rfl⟩

/-- The largest table that can be addressed can be created, up to the memory that it takes, and a
flop of a replica of such tables succeeds and publishes what was written.  A table of one byte more
cannot, even though the number of its slots and the size of its buckets are far below the limit. -/
theorem standard_replica_never_breaks_at_limit :
    (∃ fresh : Replica ChaCha ScanMethod Shard,
      create { Config.ofDimensions (2 ^ 64 - 1) 1 1 with engine := "cpu64" } Registry.standard =
        .ok fresh ∧
      (∀ snapshot, (fresh.after [.write ⟨⟨1, 0, 2⟩, [5]⟩]).Holds snapshot →
        snapshot.table.slots.size = 2 ^ 64 - 1) ∧
      (∃ report, (fresh.after [.write ⟨⟨1, 0, 2⟩, [5]⟩]).flop.1 = .ok report) ∧
      (fresh.after [.write ⟨⟨1, 0, 2⟩, [5]⟩]).flop.2.active =
        (fresh.after [.write ⟨⟨1, 0, 2⟩, [5]⟩]).alternate) ∧
    ¬∃ fresh : Replica ChaCha ScanMethod Shard,
      create (Config.ofDimensions (2 ^ 32) (2 ^ 16) (2 ^ 16)) Registry.standard = .ok fresh := by
  have laneEngine : "cpu64" = "cpu" ∨ "cpu64" = "cpu64" := Or.inr rfl
  have byteEngine : "cpu" = "cpu" ∨ "cpu" = "cpu64" := Or.inl rfl
  have factors :
      Config.isLoadFactor Config.defaultMaxLoadFactor = true ∧
        Config.isLoadFactor Config.defaultLoadFactorStep = true := by decide +kernel
  constructor
  · obtain ⟨creates, keeps⟩ := standard_replica_never_breaks (G := ChaCha)
      { Config.ofDimensions (2 ^ 64 - 1) 1 1 with engine := "cpu64" } laneEngine
    obtain ⟨fresh, created⟩ := creates.mpr ⟨by decide, factors, by decide⟩
    obtain ⟨capacity, _, reaches⟩ := keeps fresh created
    obtain ⟨sizes, flops, publishes, _⟩ := reaches [.write ⟨⟨1, 0, 2⟩, [5]⟩]
    exact ⟨fresh, created, fun snapshot held => (sizes snapshot held).1.trans capacity,
      ⟨_, flops⟩, publishes⟩
  · intro isCreated
    obtain ⟨creates, _⟩ := standard_replica_never_breaks (G := ChaCha)
      (Config.ofDimensions (2 ^ 32) (2 ^ 16) (2 ^ 16)) byteEngine
    have tooLarge : ¬2 ^ 32 * 2 ^ 16 * 2 ^ 16 < 2 ^ 64 := by decide
    exact tooLarge (creates.mp isCreated).2.2

end Replica
end ObliviousLog
