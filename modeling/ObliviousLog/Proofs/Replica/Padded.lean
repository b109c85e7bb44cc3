import ObliviousLog.Proofs.Replica.Standard

/-!
# Padded reads

A sound replica answers a padded batch share by share: each response is what the share's vector
selects from the active table, under the pad of that share.
-/

namespace ObliviousLog

/-- Vectors over the same buckets make the batch of their bytes. -/
theorem RequestVector.batch_of_same
    {vectors : List RequestVector}
    {numBuckets : Nat}
    (same : ∀ vector ∈ vectors, vector.numBuckets = numBuckets) :
    batch vectors = .ok (vectors.flatMap bits) := by
  cases vectors with
  | nil => rfl
  | cons first rest =>
      refine if_pos (List.all_eq_true.mpr fun vector member => beq_iff_eq.mpr ?_)
      rw [same vector (List.mem_cons_of_mem first member), same first List.mem_cons_self]

namespace Replica

/-- Shares that all address the replica's buckets are gathered. -/
theorem gather_of_same
    {G E S : Type}
    {replica : Replica G E S}
    {shares : List ReadShare}
    (same : ∀ share ∈ shares, share.vector.numBuckets = replica.config.numBuckets) :
    replica.gather shares = .ok (shares.flatMap fun share => share.vector.bits) := by
  have allSame :
      (shares.all fun share => share.vector.numBuckets == replica.config.numBuckets) = true :=
    List.all_eq_true.mpr fun share member => beq_iff_eq.mpr (same share member)
  have sameVectors :
      ∀ vector ∈ shares.map ReadShare.vector, vector.numBuckets = replica.config.numBuckets := by
    intro vector member
    obtain ⟨share, memberShare, rfl⟩ := List.mem_map.mp member
    exact same share memberShare
  rw [gather, if_pos allSame, RequestVector.batch_of_same sameVectors, List.flatMap_map]

/-- What the vector of a share selects from the active table, under the pad of the share. -/
def paddedAnswer
    {G E S : Type}
    (C : Type)
    [BlockCipher C]
    (replica : Replica G E S)
    (share : ReadShare) : Bytes :=
  share.padSeed.apply C
    (replica.active.table.data.selected replica.config.bucketSize replica.config.numBuckets
      share.vector.bits)

variable {G C : Type} [CoinSource G] [BlockCipher C]

namespace Sound

variable {replica : Replica G ScanMethod Shard}

theorem length_data (sound : replica.Sound) :
    replica.active.table.data.length = replica.config.numBuckets * replica.config.bucketSize := by
  obtain ⟨_, sized, _⟩ := sound.mirrored
  rw [sound.activeDescribed.numBuckets, sound.activeDescribed.bucketSize]
  exact Table.length_data sized

theorem numBuckets_pos (sound : replica.Sound) : 0 < replica.config.numBuckets := by
  rw [sound.activeDescribed.numBuckets]
  exact replica.active.table.geometry.numBuckets_pos

theorem bucketSize_pos (sound : replica.Sound) : 0 < replica.config.bucketSize := by
  rw [sound.activeDescribed.bucketSize]
  exact replica.active.table.geometry.bucketSize_pos

/-- Shares that all address the replica's buckets are answered in order, each under its own pad. -/
theorem batchReadPadded_eq
    (sound : replica.Sound)
    {shares : List ReadShare}
    (same : ∀ share ∈ shares, share.vector.numBuckets = replica.config.numBuckets) :
    replica.batchReadPadded C shares = .ok (shares.map (replica.paddedAnswer C)) := by
  have vectorsSized :
      ∀ share ∈ shares, share.vector.bits.length = replica.config.requestLength := by
    intro share member
    rw [share.vector.length_bits, same share member, Config.requestLength]
  have stridePos : 0 < replica.config.requestLength := Bytes.forBits_pos sound.numBuckets_pos
  have answered :
      replica.batchRead (shares.flatMap fun share => share.vector.bits) =
        .ok (shares.flatMap fun share =>
          replica.active.table.data.selected replica.config.bucketSize replica.config.numBuckets
            share.vector.bits) := by
    rw [sound.batchRead_eq, Bytes.length_flatMap_of_sized vectorsSized, Nat.mul_mod_left,
      if_pos rfl, Nat.mul_div_cancel _ stridePos, Bytes.pieces_flatMap vectorsSized,
      List.flatMap_map]
  have answersSized :
      ∀ share ∈ shares,
        (replica.active.table.data.selected replica.config.bucketSize replica.config.numBuckets
          share.vector.bits).length = replica.config.bucketSize :=
    fun share _ => Bytes.length_selected sound.length_data share.vector.bits
  rw [batchReadPadded, gather_of_same same]
  change (replica.batchRead _ >>= _) = _
  rw [answered]
  change Except.ok _ = _
  rw [Bytes.length_flatMap_of_sized answersSized, Nat.mul_div_cancel _ sound.bucketSize_pos,
    Bytes.pieces_flatMap answersSized, List.zipWith_map_left, List.zipWith_self]
  rfl

end Sound

end Replica
end ObliviousLog
