import ObliviousLog.Proofs.Request.Recovery
import ObliviousLog.Proofs.Shard.Reads

/-!
# Scans are linear

The answer to a batch is linear in the batch: adding several batches and asking for the sum gives
what adding their answers gives.  This is what lets several domains answer parts of one request, of
which none tells anything, for a reader to combine the answers.
-/

namespace ObliviousLog

namespace Bytes

/-- A window of a sum is the sum of the windows. -/
theorem window_xor (left right : Bytes) (size index : Nat) :
    (left.xor right).window size index =
      (left.window size index).xor (right.window size index) := by
  rw [window, xor, List.drop_zipWith, List.take_zipWith]
  rfl

/-- Sums that are put end to end are the sum of what is put end to end. -/
theorem flatMap_xor
    {α : Type}
    {items : List α}
    {left right : α → Bytes}
    (same : ∀ item ∈ items, (left item).length = (right item).length) :
    (items.flatMap fun item => (left item).xor (right item)) =
      xor (items.flatMap left) (items.flatMap right) := by
  induction items with
  | nil => rfl
  | cons first rest inductionHypothesis =>
      have sameRest := fun item member => same item (List.mem_cons_of_mem first member)
      rw [List.flatMap_cons, List.flatMap_cons, List.flatMap_cons,
        xor_append (same first List.mem_cons_self), inductionHypothesis sameRest]

end Bytes

namespace Shard

/-- What the first `count` requests of a batch select, one after the other. -/
def selections (shard : Shard) (stride count : Nat) (batch : Bytes) : Bytes :=
  (List.range count).flatMap fun index =>
    shard.data.selected shard.bucketSize shard.numBuckets (batch.window stride index)

/-- A whole number of requests is answered with their selections. -/
theorem read_of_whole
    {shard : Shard}
    {stride count : Nat}
    (wide : Bytes.forBits shard.numBuckets ≤ stride)
    {batch : Bytes}
    (whole : batch.length = count * stride) :
    shard.read batch stride = .ok (shard.selections stride count batch) := by
  have positive := Nat.lt_of_lt_of_le (Bytes.forBits_pos shard.numBuckets_pos) wide
  rw [read_eq_selected wide, whole, Nat.mul_mod_left, if_pos rfl, Nat.mul_div_cancel _ positive,
    Bytes.pieces_eq_map_window, List.flatMap_map]
  rfl

/-- The selections of a batch are linear in the batch. -/
theorem linear_selections (shard : Shard) (stride count : Nat) :
    Bytes.Linear (shard.selections stride count) (count * stride) (count * shard.bucketSize) where
  length_image batch _ := by
    have sized := Bytes.length_selected shard.length_data
    rw [selections, Bytes.length_flatMap_of_sized fun index _ => sized (batch.window stride index),
      List.length_range]
  image_xor left right leftWhole rightWhole := by
    rw [selections, selections, selections, ← Bytes.flatMap_xor]
    · refine List.flatMap_congr fun index member => ?_
      have inside := List.mem_range.mp member
      have same : (left.window stride index).length = (right.window stride index).length := by
        rw [Bytes.length_window leftWhole inside, Bytes.length_window rightWhole inside]
      rw [Bytes.window_xor, Bytes.selected_xor shard.length_data same]
    · intro index _
      rw [Bytes.length_selected shard.length_data, Bytes.length_selected shard.length_data]

/-- By either method, the sum of several batches of requests is answered with the sum of their
answers, whatever the bits that stand for no bucket. -/
theorem read_combineResponses
    (shard : Shard)
    {stride : Nat}
    (wide : Bytes.forBits shard.numBuckets ≤ stride)
    {batches : List Bytes}
    (nonempty : batches ≠ [])
    {length : Nat}
    (whole : stride ∣ length)
    (sized : ∀ batch ∈ batches, batch.length = length) :
    ∃ answers combined answer,
      List.Forall₂ (fun batch answer => shard.read batch stride = .ok answer) batches answers ∧
      combineResponses batches = .ok combined ∧
      shard.read combined stride = .ok answer ∧
      combineResponses answers = .ok answer := by
  obtain ⟨count, rfl⟩ := whole
  rw [Nat.mul_comm] at sized
  have linear := shard.linear_selections stride count
  have answersSized :
      ∀ answer ∈ batches.map (shard.selections stride count),
        answer.length = count * shard.bucketSize := by
    intro answer member
    obtain ⟨batch, memberBatch, rfl⟩ := List.mem_map.mp member
    exact linear.length_image batch (sized batch memberBatch)
  refine ⟨batches.map (shard.selections stride count), Bytes.sum (count * stride) batches,
    shard.selections stride count (Bytes.sum (count * stride) batches), ?_,
    combineResponses_of_sized nonempty sized, read_of_whole wide (Bytes.length_sum sized), ?_⟩
  · rw [List.forall₂_map_right_iff, List.forall₂_same]
    exact fun batch member => read_of_whole wide (sized batch member)
  · rw [combineResponses_of_sized (mt List.map_eq_nil_iff.mp nonempty) answersSized,
      linear.image_sum sized]

/-- Three batches of two requests each to a shard of three buckets.  The first requests add up to
one for the first bucket, the second ones to one for the last bucket with all stray bits set. -/
def threeBatches : List Bytes :=
  [[0x03, 0xfc], [0x06, 0x05], [0x04, 0x05]]

/-- The three batches are put to a shard with a lane and one byte more in each bucket. -/
theorem read_combineResponses_of_threeBatches :
    ∃ shard answers answer,
      ofData .wordwise 3 9 threeBuckets = .ok shard ∧
      List.Forall₂ (fun batch answer => shard.read batch 1 = .ok answer) threeBatches answers ∧
      shard.read [0x01, 0xfc] 1 = .ok answer ∧
      combineResponses answers = .ok answer ∧
      answer = [0, 1, 2, 3, 4, 5, 6, 7, 8, 18, 19, 20, 21, 22, 23, 24, 25, 26] := by
  obtain ⟨shard, made, sameBuckets⟩ := exists_ofData_threeBuckets .wordwise
  have wide : Bytes.forBits shard.numBuckets ≤ 1 := by
    rw [sameBuckets]
    decide
  have nonempty : threeBatches ≠ [] := by decide
  have whole : 1 ∣ 2 := by decide
  have sized : ∀ batch ∈ threeBatches, batch.length = 2 := by decide
  obtain ⟨answers, combined, answer, answered, isCombined, read, total⟩ :=
    read_combineResponses shard wide nonempty whole sized
  cases isCombined
  have evaluated :
      (ofData .wordwise 3 9 threeBuckets >>= fun shard => shard.read [0x01, 0xfc] 1) =
        .ok [0, 1, 2, 3, 4, 5, 6, 7, 8, 18, 19, 20, 21, 22, 23, 24, 25, 26] := by
    decide +kernel
  rw [made] at evaluated
  exact ⟨shard, answers, answer, made, answered, read, total,
    Except.ok.inj (read.symm.trans evaluated)⟩

end Shard
end ObliviousLog
