import ObliviousLog.Proofs.Shard.Selection
import ObliviousLog.Shard.Scan

/-!
# Scans compute selections

Both scanning methods compute the selection of a request: the bytewise one keeps the total of what
it has visited, and the lanes of the wordwise one, put end to end, are that same total.  The lanes
are shared by all requests of a batch but cleared for each, so that nothing of one answer reaches
the next.  A read is therefore answered by selections, whichever engine built the shard.
-/

namespace ObliviousLog

namespace Bytes

/-- A fold whose every step acts on what its state stands for as `add` does, computes a fold of
`add`, and keeps what every step keeps. -/
theorem foldl_represents
    {State : Type}
    (represented : State → Bytes)
    (Fits : State → Prop)
    {step : State → Nat → State}
    {add : Bytes → Nat → Bytes}
    {indices : List Nat}
    (represents : ∀ state, Fits state → ∀ index ∈ indices,
      represented (step state index) = add (represented state) index ∧ Fits (step state index))
    {start : State}
    (fits : Fits start) :
    represented (indices.foldl step start) = indices.foldl add (represented start) ∧
      Fits (indices.foldl step start) := by
  induction indices generalizing start with
  | nil => exact ⟨rfl, fits⟩
  | cons index indices inductionHypothesis =>
      obtain ⟨same, fitsNext⟩ := represents start fits index List.mem_cons_self
      rw [List.foldl_cons, List.foldl_cons, ← same]
      refine inductionHypothesis (fun state fits later member => ?_) fitsNext
      exact represents state fits later (List.mem_cons_of_mem index member)

theorem addIf_append
    {total bytes : Bytes}
    (same : total.length = bytes.length)
    (wanted : Bool)
    (totalRest rest : Bytes) :
    addIf wanted (total ++ totalRest) (bytes ++ rest) =
      addIf wanted total bytes ++ addIf wanted totalRest rest := by
  cases wanted with
  | false => rfl
  | true => exact xor_append same totalRest rest

end Bytes

namespace Shard

theorem window_length (shard : Shard) {index : Nat} (inside : index < shard.numBuckets) :
    (shard.data.window shard.bucketSize index).length = shard.bucketSize :=
  Bytes.length_window shard.length_data inside

/-- A shard's buckets are the windows of its data. -/
theorem zipIdx_buckets (shard : Shard) :
    shard.buckets.zipIdx =
      (List.range shard.numBuckets).map
        fun index => (shard.data.window shard.bucketSize index, index) := by
  rw [buckets, Bytes.pieces_eq_map_window]
  apply List.ext_getElem
  · simp
  · simp

/-! ## One byte at a time -/

theorem xor_and_byteMask (wanted : Bool) (total byte : UInt8) :
    total ^^^ (byte &&& byteMask wanted) = if wanted then total ^^^ byte else total := by
  cases wanted with
  | false =>
      rw [byteMask, if_neg Bool.false_ne_true, UInt8.and_zero, UInt8.xor_zero]
      rfl
  | true =>
      have kept : byte &&& 0xff = byte := UInt8.and_neg_one
      rw [byteMask, if_pos rfl, kept, if_pos rfl]

/-- Under a mask that keeps everything or nothing, bytes are added or left. -/
theorem addBytes_byteMask
    {total bytes : Bytes}
    (same : total.length = bytes.length)
    (wanted : Bool) :
    addBytes (byteMask wanted) total bytes = Bytes.addIf wanted total bytes := by
  unfold addBytes
  simp only [xor_and_byteMask]
  cases wanted with
  | true => rfl
  | false =>
      calc
        List.zipWith (fun left _ => left) total bytes = (total.zip bytes).map Prod.fst :=
          (List.map_zip_eq_zipWith (f := Prod.fst)).symm
        _ = total := List.map_fst_zip (Nat.le_of_eq same)

theorem answerBytewise_eq_selected (shard : Shard) (request : Bytes) :
    shard.answerBytewise request =
      shard.data.selected shard.bucketSize shard.numBuckets request := by
  rw [answerBytewise, zipIdx_buckets, List.foldl_map, Bytes.selected_eq_foldl]
  refine (Bytes.foldl_represents id (fun total => total.length = shard.bucketSize) ?_
    (Bytes.length_zeros _)).1
  intro total fits index member
  have full := shard.window_length (List.mem_range.mp member)
  rw [addBytes_byteMask (fits.trans full.symm)]
  exact ⟨rfl, (Bytes.length_addIf (full.trans fits.symm) _).trans fits⟩

/-! ## In lanes -/

theorem length_laneBytes (lane : UInt64) : (laneBytes lane).length = laneSize :=
  Bytes.length_ofLittleEndian laneSize lane.toNat

theorem length_flatMap_laneBytes (lanes : List UInt64) :
    (lanes.flatMap laneBytes).length = lanes.length * laneSize :=
  Bytes.length_flatMap_of_sized fun lane _ => length_laneBytes lane

theorem laneBytes_xor (left right : UInt64) :
    laneBytes (left ^^^ right) = (laneBytes left).xor (laneBytes right) := by
  rw [laneBytes, UInt64.toNat_xor, Bytes.ofLittleEndian_xor]
  rfl

/-- A lane spells the bytes it was read from. -/
theorem laneBytes_ofNat_littleEndian
    {bytes : Bytes}
    (full : bytes.length = laneSize) :
    laneBytes (UInt64.ofNat bytes.littleEndian) = bytes := by
  have small := bytes.littleEndian_lt
  rw [full] at small
  rw [laneBytes, UInt64.toNat_ofNat_of_lt' small, ← full, Bytes.ofLittleEndian_littleEndian]

/-- Under a mask that keeps everything or nothing, the bytes of a lane are added or left. -/
theorem laneBytes_xor_and_laneMask
    {bytes : Bytes}
    (full : bytes.length = laneSize)
    (wanted : Bool)
    (total : UInt64) :
    laneBytes (total ^^^ (UInt64.ofNat bytes.littleEndian &&& laneMask wanted)) =
      Bytes.addIf wanted (laneBytes total) bytes := by
  cases wanted with
  | false =>
      rw [laneMask, if_neg Bool.false_ne_true, UInt64.and_zero, UInt64.xor_zero]
      rfl
  | true =>
      have kept (lane : UInt64) : lane &&& 0xffffffffffffffff = lane := UInt64.and_neg_one
      rw [laneMask, if_pos rfl, kept, laneBytes_xor, laneBytes_ofNat_littleEndian full]
      rfl

/-- Adding masked lanes adds the bytes under them, or leaves the total. -/
theorem flatMap_addLanes
    (wanted : Bool)
    {lanes : List UInt64}
    {bucket : Bytes}
    (room : lanes.length * laneSize ≤ bucket.length) :
    (addLanes (laneMask wanted) lanes (lanesOf lanes.length bucket)).flatMap laneBytes =
      Bytes.addIf wanted (lanes.flatMap laneBytes) (bucket.take (lanes.length * laneSize)) := by
  induction lanes generalizing bucket with
  | nil =>
      rw [List.length_nil, Nat.zero_mul, List.take_zero]
      cases wanted <;> rfl
  | cons lane lanes inductionHypothesis =>
      rw [List.length_cons, Nat.succ_mul] at room
      have full : (bucket.take laneSize).length = laneSize := by
        rw [List.length_take]
        omega
      have roomLater : lanes.length * laneSize ≤ (bucket.drop laneSize).length := by
        rw [List.length_drop]
        omega
      have count : (lane :: lanes).length * laneSize = laneSize + lanes.length * laneSize := by
        rw [List.length_cons, Nat.succ_mul, Nat.add_comm]
      rw [count, List.take_add, List.flatMap_cons,
        Bytes.addIf_append ((length_laneBytes lane).trans full.symm),
        ← inductionHypothesis roomLater, ← laneBytes_xor_and_laneMask full]
      rfl

/-- A step of the wordwise scan adds the bucket to the joined total or leaves it, and it keeps the
number of lanes and of left-over bytes. -/
theorem joined_addBucket
    (wanted : Bool)
    {sums : List UInt64 × Bytes}
    {count : Nat}
    {bucket : Bytes}
    (lanesFit : sums.1.length = count)
    (fits : count * laneSize + sums.2.length = bucket.length) :
    joined (addBucket count wanted sums bucket) = Bytes.addIf wanted (joined sums) bucket ∧
      (addBucket count wanted sums bucket).1.length = count ∧
      (addBucket count wanted sums bucket).2.length = sums.2.length := by
  have sameMask : (laneMask wanted).toUInt8 = byteMask wanted := by
    cases wanted <;> rfl
  have room : count * laneSize ≤ bucket.length := by omega
  have fullLanes : (sums.1.flatMap laneBytes).length = (bucket.take (count * laneSize)).length := by
    rw [length_flatMap_laneBytes, lanesFit, List.length_take, Nat.min_eq_left room]
  have sameRest : sums.2.length = (bucket.drop (count * laneSize)).length := by
    rw [List.length_drop]
    omega
  subst lanesFit
  refine ⟨?_, ?_, ?_⟩
  · rw [joined, addBucket, flatMap_addLanes wanted room, sameMask, addBytes_byteMask sameRest,
      ← Bytes.addIf_append fullLanes, List.take_append_drop]
    rfl
  · rw [addBucket, addLanes, List.length_zipWith, lanesOf, List.length_map, Bytes.length_pieces,
      Nat.min_self]
  · rw [addBucket, addBytes, List.length_zipWith, ← sameRest, Nat.min_self]

/-- A cleared total joins to zeros. -/
theorem joined_clearSums (sums : List UInt64 × Bytes) :
    joined (clearSums sums) = Bytes.zeros (sums.1.length * laneSize + sums.2.length) := by
  have clear : laneBytes 0 = List.replicate laneSize 0 := rfl
  rw [joined, clearSums, List.map_const', List.map_const', List.flatMap_replicate, clear,
    List.flatten_replicate_replicate, Bytes.zeros, List.replicate_append_replicate]

/-- A total in lanes that has room for exactly one bucket. -/
def HoldsBucket (shard : Shard) (sums : List UInt64 × Bytes) : Prop :=
  sums.1.length = shard.bucketSize / laneSize ∧
    shard.bucketSize / laneSize * laneSize + sums.2.length = shard.bucketSize

theorem HoldsBucket.clearSums
    {shard : Shard}
    {sums : List UInt64 × Bytes}
    (holds : shard.HoldsBucket sums) :
    shard.HoldsBucket (clearSums sums) := by
  simpa [HoldsBucket, Shard.clearSums] using holds

/-- Whatever the total held before, a wordwise scan leaves the selection of its request in it. -/
theorem joined_sumWordwise
    {shard : Shard}
    {sums : List UInt64 × Bytes}
    (holds : shard.HoldsBucket sums)
    (request : Bytes) :
    joined (shard.sumWordwise request sums) =
        shard.data.selected shard.bucketSize shard.numBuckets request ∧
      shard.HoldsBucket (shard.sumWordwise request sums) := by
  have clear : Bytes.zeros shard.bucketSize = joined (clearSums sums) := by
    rw [joined_clearSums, holds.1, holds.2]
  rw [sumWordwise, zipIdx_buckets, List.foldl_map, Bytes.selected_eq_foldl, clear]
  refine Bytes.foldl_represents joined shard.HoldsBucket ?_ holds.clearSums
  rintro total ⟨lanesFit, fits⟩ index member
  have full := shard.window_length (List.mem_range.mp member)
  obtain ⟨added, lanesKept, restKept⟩ :=
    joined_addBucket (request.bit index) lanesFit (fits.trans full.symm)
  exact ⟨added, lanesKept, restKept.symm ▸ fits⟩

/-- The wordwise scan answers each request with its selection, whatever it was asked before. -/
theorem answersWordwise_eq_flatMap
    {shard : Shard}
    {sums : List UInt64 × Bytes}
    (holds : shard.HoldsBucket sums)
    (requests : List Bytes) :
    shard.answersWordwise requests sums =
      requests.flatMap (shard.data.selected shard.bucketSize shard.numBuckets) := by
  induction requests generalizing sums with
  | nil => rfl
  | cons request requests inductionHypothesis =>
      obtain ⟨answered, holdsNext⟩ := joined_sumWordwise holds request
      rw [answersWordwise, answered, inductionHypothesis holdsNext, List.flatMap_cons]

/-- A total that is made for the buckets of a shard has room for exactly one of them. -/
theorem holdsBucket_initial (shard : Shard) :
    shard.HoldsBucket
      (List.replicate (shard.bucketSize / laneSize) 0,
        Bytes.zeros (shard.bucketSize - shard.bucketSize / laneSize * laneSize)) := by
  constructor
  · exact List.length_replicate
  · rw [Bytes.length_zeros]
    exact Nat.add_sub_of_le (Nat.div_mul_le_self shard.bucketSize laneSize)

/-! ## Reads -/

/-- A bucket that exists is a window of the data. -/
theorem bucket_eq_window (shard : Shard) (index : Nat) :
    shard.bucket index =
      (checkBucket index shard.numBuckets).map fun _ =>
        shard.data.window shard.bucketSize index := by
  rw [bucket]
  cases checkBucket index shard.numBuckets with
  | error error => rfl
  | ok => rfl

/-- Whatever its method, a shard answers each request with its selection. -/
theorem answers_eq_flatMap (shard : Shard) (requests : List Bytes) :
    shard.answers requests =
      requests.flatMap (shard.data.selected shard.bucketSize shard.numBuckets) := by
  unfold answers
  cases shard.method with
  | bytewise =>
      rw [← funext shard.answerBytewise_eq_selected]
  | wordwise => exact answersWordwise_eq_flatMap shard.holdsBucket_initial requests

/-- A whole number of requests, each with a bit for every bucket, is answered with the selection of
each of them. -/
theorem read_eq_selected
    {shard : Shard}
    {stride : Nat}
    (wide : Bytes.forBits shard.numBuckets ≤ stride)
    (requests : Bytes) :
    shard.read requests stride =
      if requests.length % stride = 0 then
        .ok ((requests.pieces stride (requests.length / stride)).flatMap
          (shard.data.selected shard.bucketSize shard.numBuckets))
      else
        .error (.invalidConfiguration .batchLength) := by
  rw [read, if_neg (Nat.not_lt.mpr wide), answers_eq_flatMap]

end Shard
end ObliviousLog
