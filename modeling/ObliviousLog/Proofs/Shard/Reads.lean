import ObliviousLog.Proofs.Shard.Answer
import Mathlib.Data.List.Forall2

/-!
# Reads by either method

What a shard answers to a batch does not depend on the method by which it scans its buckets.  A
batch that can be cut into requests is answered request by request, and of each request only the
bits that stand for a bucket count.
-/

namespace ObliviousLog

namespace Bytes

/-- A selection depends on no other bits than those of its windows. -/
theorem selected_congr
    {data : Bytes}
    {size count : Nat}
    {left right : Bytes}
    (agree : ∀ index < count, left.bit index = right.bit index) :
    data.selected size count left = data.selected size count right := by
  rw [selected, List.filter_congr fun index member => agree index (List.mem_range.mp member),
    selected]

/-- Strings of one length that are put end to end are found again by cutting. -/
theorem pieces_flatten
    {size : Nat}
    (positive : 0 < size)
    {strings : List Bytes}
    (sized : ∀ bytes ∈ strings, bytes.length = size) :
    strings.flatten.length % size = 0 ∧
      pieces size (strings.flatten.length / size) strings.flatten = strings := by
  have length : (strings.flatMap id).length = strings.length * size :=
    length_flatMap_of_sized sized
  have cut : pieces size strings.length (strings.flatMap id) = strings.map id :=
    pieces_flatMap sized
  rw [List.flatMap_id] at length cut
  rw [List.map_id] at cut
  rw [length, Nat.mul_mod_left, Nat.mul_div_cancel _ positive, cut]
  exact ⟨rfl, rfl⟩

end Bytes

/-- Requests of `stride` bytes each, which have a bit for each of `count` buckets. -/
structure AreRequests (count stride : Nat) (requests : List Bytes) : Prop where
  wide : Bytes.forBits count ≤ stride
  sized : ∀ request ∈ requests, request.length = stride

namespace Shard

/-- Any data of the right length make a shard, by either method. -/
theorem exists_ofData
    {numBuckets bucketSize : Nat}
    {data : Bytes}
    (bucketsExist : 0 < numBuckets)
    (bytesExist : 0 < bucketSize)
    (fills : data.length = numBuckets * bucketSize)
    (method : ScanMethod) :
    ∃ shard,
      ofData method numBuckets bucketSize data = .ok shard ∧
      shard.numBuckets = numBuckets ∧
      shard.bucketSize = bucketSize ∧
      shard.data = data := by
  rw [ofData, dif_pos ⟨bucketsExist, bytesExist⟩, dif_pos fills]
  exact ⟨_, rfl, rfl, rfl, rfl⟩

/-! ## Batches of requests -/

section

variable {shard : Shard} {stride : Nat} {requests : List Bytes}

/-- Requests that are put end to end are answered with the selection of each. -/
theorem read_flatten (batch : AreRequests shard.numBuckets stride requests) :
    shard.read requests.flatten stride =
      .ok (requests.flatMap (shard.data.selected shard.bucketSize shard.numBuckets)) := by
  have positive := Nat.lt_of_lt_of_le (Bytes.forBits_pos shard.numBuckets_pos) batch.wide
  obtain ⟨whole, cut⟩ := Bytes.pieces_flatten positive batch.sized
  rw [read_eq_selected batch.wide, if_pos whole, cut]

/-- A single request is answered with its selection. -/
theorem read_single
    (wide : Bytes.forBits shard.numBuckets ≤ stride)
    {request : Bytes}
    (sized : request.length = stride) :
    shard.read request stride =
      .ok (shard.data.selected shard.bucketSize shard.numBuckets request) := by
  have alone : AreRequests shard.numBuckets stride [request] := ⟨wide, by simpa using sized⟩
  simpa using read_flatten alone

/-- Requests that are put end to end are answered with what each is answered with alone. -/
theorem read_flatten_eq_flatten_read (batch : AreRequests shard.numBuckets stride requests) :
    ∃ answers,
      List.Forall₂ (fun request answer => shard.read request stride = .ok answer)
        requests answers ∧
      shard.read requests.flatten stride = .ok answers.flatten := by
  refine ⟨requests.map (shard.data.selected shard.bucketSize shard.numBuckets), ?_, ?_⟩
  · rw [List.forall₂_map_right_iff, List.forall₂_same]
    exact fun request member => read_single batch.wide (batch.sized request member)
  · rw [read_flatten batch, List.flatMap_def]

/-- Requests that agree in the bits that stand for buckets have the same answers, however long they
are. -/
theorem read_flatten_congr
    (batch : AreRequests shard.numBuckets stride requests)
    {others : List Bytes}
    {otherStride : Nat}
    (otherBatch : AreRequests shard.numBuckets otherStride others)
    (agree : List.Forall₂
      (fun left right : Bytes => ∀ index < shard.numBuckets, left.bit index = right.bit index)
      requests others) :
    shard.read requests.flatten stride = shard.read others.flatten otherStride := by
  have sameSelections :
      requests.map (shard.data.selected shard.bucketSize shard.numBuckets) =
        others.map (shard.data.selected shard.bucketSize shard.numBuckets) := by
    rw [← List.forall₂_eq_eq_eq, List.forall₂_map_left_iff, List.forall₂_map_right_iff]
    exact agree.imp fun _ _ => Bytes.selected_congr
  rw [read_flatten batch, read_flatten otherBatch, List.flatMap_def, sameSelections,
    List.flatMap_def]

end

/-- Over any data of the right length both methods answer alike.  A stride without a bit for every
bucket is refused, zero included; then a batch that is not a whole number of requests is; any other
batch is answered with the exclusive or of the buckets whose bit is set, for one request after the
other.  Each request is answered as it would be alone, and neither bits past the buckets nor further
bytes of a request have any effect. -/
theorem read_by_either_method
    {numBuckets bucketSize : Nat}
    {data : Bytes}
    (bucketsExist : 0 < numBuckets)
    (bytesExist : 0 < bucketSize)
    (fills : data.length = numBuckets * bucketSize)
    (method : ScanMethod) :
    ∃ shard,
      ofData method numBuckets bucketSize data = .ok shard ∧
      (∀ requests stride,
        shard.read requests stride =
          if stride < Bytes.forBits numBuckets then
            .error (.invalidConfiguration .shortRequest)
          else if stride ∣ requests.length then
            .ok ((requests.pieces stride (requests.length / stride)).flatMap
              (data.selected bucketSize numBuckets))
          else
            .error (.invalidConfiguration .batchLength)) ∧
      (∀ stride requests,
        AreRequests numBuckets stride requests →
        ∃ answers,
          List.Forall₂ (fun request answer => shard.read request stride = .ok answer)
            requests answers ∧
          shard.read requests.flatten stride = .ok answers.flatten) ∧
      ∀ stride requests otherStride others,
        AreRequests numBuckets stride requests →
        AreRequests numBuckets otherStride others →
        List.Forall₂
          (fun left right : Bytes => ∀ index < numBuckets, left.bit index = right.bit index)
          requests others →
        shard.read requests.flatten stride = shard.read others.flatten otherStride := by
  obtain ⟨shard, made, rfl, rfl, rfl⟩ := exists_ofData bucketsExist bytesExist fills method
  refine ⟨shard, made, ?_, ?_, ?_⟩
  · intro requests stride
    by_cases short : stride < Bytes.forBits shard.numBuckets
    · rw [if_pos short]
      exact if_pos short
    · rw [if_neg short, read_eq_selected (Nat.not_lt.mp short)]
      simp only [Nat.dvd_iff_mod_eq_zero]
  · intro stride requests batch
    exact read_flatten_eq_flatten_read batch
  · intro stride requests otherStride others batch otherBatch agree
    exact read_flatten_congr batch otherBatch agree

/-- Three buckets of nine bytes: a lane and one byte more in each. -/
def threeBuckets : Bytes :=
  (List.range 27).map UInt8.ofNat

/-- Two requests for the sum of the first two of three buckets, the second with stray bits set. -/
theorem read_by_either_method_threeBuckets :
    ∃ bytewise wordwise,
      ofData .bytewise 3 9 threeBuckets = .ok bytewise ∧
      ofData .wordwise 3 9 threeBuckets = .ok wordwise ∧
      bytewise.read [0x03, 0xfb] 1 =
        .ok [9, 11, 9, 15, 9, 11, 9, 23, 25, 9, 11, 9, 15, 9, 11, 9, 23, 25] ∧
      wordwise.read [0x03, 0xfb] 1 = bytewise.read [0x03, 0xfb] 1 ∧
      wordwise.read [] 0 = .error (.invalidConfiguration .shortRequest) := by
  obtain ⟨bytewise, madeBytewise, readBytewise, _⟩ :=
    read_by_either_method (by decide) (by decide) (by decide +kernel : threeBuckets.length = 3 * 9)
      .bytewise
  obtain ⟨wordwise, madeWordwise, readWordwise, _⟩ :=
    read_by_either_method (by decide) (by decide) (by decide +kernel : threeBuckets.length = 3 * 9)
      .wordwise
  refine ⟨bytewise, wordwise, madeBytewise, madeWordwise, ?_, ?_, ?_⟩
  · rw [readBytewise]
    decide +kernel
  · rw [readWordwise, readBytewise]
  · rw [readWordwise]
    rfl

theorem exists_ofData_threeBuckets (method : ScanMethod) :
    ∃ shard, ofData method 3 9 threeBuckets = .ok shard ∧ shard.numBuckets = 3 := by
  have fills : threeBuckets.length = 3 * 9 := by decide +kernel
  obtain ⟨shard, made, sameBuckets, _⟩ := exists_ofData (by decide) (by decide) fills method
  exact ⟨shard, made, sameBuckets⟩

end Shard
end ObliviousLog
