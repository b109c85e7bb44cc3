import ObliviousLog.Proofs.Replica.History
import ObliviousLog.Proofs.Replica.Padded
import ObliviousLog.Proofs.Request.Sharing
import ObliviousLog.Proofs.Table.Buckets

/-!
# What readers find in the published buckets

A replica with a standard engine publishes the bytes of its active table.  Whoever reads a bucket
and cuts it into slots finds the payload of a stored item or zeros in each of them, every stored
item exactly once, and each in one of the two buckets that the item may live in.
-/

namespace ObliviousLog
namespace Replica

/-- A replica gives these bytes for a bucket, whether a reader asks for its vector or the published
shard for the bucket. -/
structure Serves
    {G E S : Type}
    [ShardLike S]
    (replica : Replica G E S)
    (index : Nat)
    (bucket : Bytes) : Prop where
  answered :
    ∃ request,
      RequestVector.unit index replica.config.numBuckets = .ok request ∧
      replica.batchRead request.bits = .ok bucket
  sliced : ShardLike.bucket replica.published index = .ok bucket

variable {G : Type} [CoinSource G]

namespace Sound

variable {replica : Replica G ScanMethod Shard} {index : Nat}

/-- The vector of a bucket is answered with the bucket of the active table. -/
theorem batchRead_unit
    (sound : replica.Sound)
    (inside : index < replica.config.numBuckets) :
    ∃ request,
      RequestVector.unit index replica.config.numBuckets = .ok request ∧
      replica.batchRead request.bits =
        .ok (replica.active.table.data.window replica.config.bucketSize index) := by
  obtain ⟨request, isUnit, sameBuckets, singleBit⟩ := RequestVector.unit_of_lt inside
  have sized : request.bits.length = replica.config.requestLength := by
    rw [request.length_bits, sameBuckets, Config.requestLength]
  have stridePositive : 0 < replica.config.requestLength :=
    Bytes.forBits_pos sound.numBuckets_pos
  refine ⟨request, isUnit, ?_⟩
  rw [sound.batchRead_eq, sized, Nat.mod_self, if_pos rfl, Nat.div_self stridePositive,
    Bytes.pieces, Bytes.pieces, List.take_of_length_le (Nat.le_of_eq sized),
    List.flatMap_singleton,
    Bytes.selected_of_single sound.length_data inside fun other _ => singleBit other]

/-- A sound replica serves the buckets of its active table. -/
theorem serves_window
    (sound : replica.Sound)
    (inside : index < replica.config.numBuckets) :
    replica.Serves index
      (replica.active.table.data.window replica.config.bucketSize index) where
  answered := sound.batchRead_unit inside
  sliced := by
    rw [sound.bucket_eq, checkBucket, if_pos inside]
    rfl

/-- The bucket that a sound replica serves, cut into slots, is what the slots of the active table
hold. -/
theorem serves_occupants
    (sound : replica.Sound)
    (valid : replica.active.table.Valid)
    (inside : index < replica.config.numBuckets) :
    ∃ bucket,
      replica.Serves index bucket ∧
      bucket.length = replica.config.bucketDepth * replica.config.itemSize ∧
      bucket.pieces replica.config.itemSize replica.config.bucketDepth =
        (replica.active.table.occupants index).map (slotBytes replica.config.itemSize) := by
  obtain ⟨sameBuckets, sameDepth, sameSize⟩ := sound.activeDescribed.dimensions
  have bucketInside : index < replica.active.table.geometry.numBuckets := sameBuckets ▸ inside
  refine ⟨_, sound.serves_window inside, ?_, ?_⟩
  · rw [Bytes.length_window sound.length_data inside, sound.activeDescribed.bucketSize,
      Geometry.bucketSize, sameDepth, sameSize]
  · rw [sound.activeDescribed.bucketSize, sameDepth, sameSize, valid.pieces_window bucketInside]

/-- Both buckets of an item in the active table are served, and one of them has the payload of the
item in a slot. -/
theorem serves_item
    (sound : replica.Sound)
    (valid : replica.active.table.Valid)
    {item : Item}
    (stored : item ∈ replica.active.table.items) :
    ∃ first second,
      replica.Serves item.bucket1 first ∧
      replica.Serves item.bucket2 second ∧
      (item.payload ∈ first.pieces replica.config.itemSize replica.config.bucketDepth ∨
        item.payload ∈ second.pieces replica.config.itemSize replica.config.bucketDepth) := by
  have sameBuckets := sound.activeDescribed.numBuckets
  obtain ⟨slot, _, held⟩ := List.mem_filterMap.mp stored
  obtain ⟨_, firstInside, secondInside⟩ :=
    (Table.check_eq_ok_iff _ item).mp (valid.fits_of_itemAt? held)
  obtain ⟨first, servesFirst, _, firstSlots⟩ :=
    sound.serves_occupants valid (sameBuckets.symm ▸ firstInside)
  obtain ⟨second, servesSecond, _, secondSlots⟩ :=
    sound.serves_occupants valid (sameBuckets.symm ▸ secondInside)
  -- The item is in a slot of some bucket, which is one of its own two.
  rw [← Table.reduceOption_flatMap_occupants, List.reduceOption_mem_iff,
    List.mem_flatMap] at stored
  obtain ⟨bucket, _, occupies⟩ := stored
  have payloadServed :
      item.payload ∈
        (replica.active.table.occupants bucket).map (slotBytes replica.config.itemSize) :=
    List.mem_map_of_mem occupies
  refine ⟨first, second, servesFirst, servesSecond, ?_⟩
  rcases valid.allows_of_mem_occupants occupies with rfl | rfl
  · exact Or.inl (firstSlots ▸ payloadServed)
  · exact Or.inr (secondSlots ▸ payloadServed)

end Sound

/-- After any session with a replica that has a standard engine, the published bytes are those of
the active table.  The slots into which the served buckets are cut stand for the stored items, each
once and in a bucket that it may live in, and otherwise hold zeros.  So both buckets of a stored
item can be read, and its payload is in a slot of one of them. -/
theorem published_layout
    {config : Config}
    {registry : Registry ScanMethod}
    {fresh : Replica G ScanMethod Shard}
    (created : create config registry = .ok fresh)
    (calls : List Call) :
    (fresh.after calls).published.data = (fresh.after calls).active.table.data ∧
    (∃ occupants : Nat → List (Option Item),
      (((List.range config.numBuckets).flatMap occupants).reduceOption : Multiset Item) =
        (fresh.after calls).active.table.items ∧
      ∀ index < config.numBuckets,
        (occupants index).length = config.bucketDepth ∧
        (∀ item, some item ∈ occupants index → item.Allows index) ∧
        ∃ bucket,
          (fresh.after calls).Serves index bucket ∧
          bucket.length = config.bucketDepth * config.itemSize ∧
          bucket.pieces config.itemSize config.bucketDepth =
            (occupants index).map (slotBytes config.itemSize)) ∧
    ∀ item ∈ (fresh.after calls).active.table.items,
      ∃ first second,
        (fresh.after calls).Serves item.bucket1 first ∧
        (fresh.after calls).Serves item.bucket2 second ∧
        (item.payload ∈ first.pieces config.itemSize config.bucketDepth ∨
          item.payload ∈ second.pieces config.itemSize config.bucketDepth) := by
  have sound := (sound_of_create created).after calls
  have valid := (consistent_of_held created calls .active).valid
  have sameConfig := config_after_of_create created calls
  refine ⟨sound.published_data, ⟨(fresh.after calls).active.table.occupants, ?_, ?_⟩, ?_⟩
  · rw [← sameConfig, sound.activeDescribed.numBuckets, Table.reduceOption_flatMap_occupants]
  · intro index inside
    have served := sound.serves_occupants valid (sameConfig.symm ▸ inside)
    rw [sameConfig] at served
    refine ⟨?_, fun item occupies => valid.allows_of_mem_occupants occupies, served⟩
    rw [Table.length_occupants, ← sound.activeDescribed.dimensions.2.1, sameConfig]
  · intro item stored
    have served := sound.serves_item valid stored
    rwa [sameConfig] at served

/-- A replica of two one-byte slots that has published one of two writes: its payload is in one of
the two buckets that are served. -/
theorem published_layout_of_filled :
    ∃ (fresh : Replica ChaCha ScanMethod Shard) (first second : Bytes),
      create (Config.ofDimensions 2 1 1) Registry.standard = .ok fresh ∧
      (fresh.after fillingCalls).published.data = (fresh.after fillingCalls).active.table.data ∧
      (fresh.after fillingCalls).active.table.items = [⟨⟨1, 0, 1⟩, [5]⟩] ∧
      (fresh.after fillingCalls).Serves 0 first ∧
      (fresh.after fillingCalls).Serves 1 second ∧
      ([5] ∈ first.pieces 1 1 ∨ [5] ∈ second.pieces 1 1) := by
  have evaluated :
      ((create (Config.ofDimensions 2 1 1) Registry.standard :
          Except Error (Replica ChaCha ScanMethod Shard)).map fun fresh =>
        (fresh.after fillingCalls).active.table.items).toOption =
        some [⟨⟨1, 0, 1⟩, [5]⟩] := by
    decide +kernel
  obtain ⟨fresh, created, items⟩ := Error.toOption_map_eq_some.mp evaluated
  obtain ⟨mirrored, _, found⟩ := published_layout created fillingCalls
  obtain ⟨first, second, servesFirst, servesSecond, readable⟩ :=
    found ⟨⟨1, 0, 1⟩, [5]⟩ (items ▸ List.mem_singleton_self _)
  exact ⟨fresh, first, second, created, mirrored, items, servesFirst, servesSecond, readable⟩

end Replica
end ObliviousLog
