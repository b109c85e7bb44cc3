import ObliviousLog.Proofs.Request.Sharing
import ObliviousLog.Proofs.Shard.Reads
import Mathlib.Algebra.Ring.Parity

/-!
# Requests for several buckets

A vector that is made by adding the vectors of listed buckets has the bits of those that are listed
an odd number of times, and no other.  Reading with it gives the exclusive or of the buckets over
the whole list: a bucket that is listed twice cancels in the vector as it does in the sum.
-/

namespace ObliviousLog

/-- A bit of a sum is set exactly if an odd number of its strings have it. -/
theorem Bytes.bit_sum
    {size : Nat}
    {strings : List Bytes}
    (sized : ∀ bytes ∈ strings, bytes.length = size)
    (index : Nat) :
    (sum size strings).bit index = true ↔ Odd (strings.countP fun bytes => bytes.bit index) := by
  induction strings with
  | nil => simp
  | cons first rest inductionHypothesis =>
      have firstSized := sized first List.mem_cons_self
      have restSized := fun bytes member => sized bytes (List.mem_cons_of_mem first member)
      rw [sum_cons firstSized restSized, bit_xor (firstSized.trans (length_sum restSized).symm),
        List.countP_cons]
      cases first.bit index with
      | false => simpa using inductionHypothesis restSized
      | true => simp [Nat.odd_add_one, ← inductionHypothesis restSized]

namespace RequestVector

/-- A vector is the unit vector of a bucket: it has the bit of that bucket and no other. -/
structure IsUnit (numBuckets position : Nat) (vector : RequestVector) : Prop where
  unit_eq : unit position numBuckets = .ok vector
  numBuckets_eq : vector.numBuckets = numBuckets
  bit_eq : ∀ index, vector.bits.bit index = (index == position)

section

variable {numBuckets : Nat} {positions : List Nat} {units : List RequestVector}

/-- Buckets that exist have unit vectors. -/
theorem exists_units (inside : ∀ position ∈ positions, position < numBuckets) :
    ∃ units, List.Forall₂ (IsUnit numBuckets) positions units := by
  induction positions with
  | nil => exact ⟨[], .nil⟩
  | cons position rest inductionHypothesis =>
      obtain ⟨wanted, isUnit, sameBuckets, singleBit⟩ :=
        unit_of_lt (inside position List.mem_cons_self)
      obtain ⟨units, areUnits⟩ :=
        inductionHypothesis fun other member => inside other (List.mem_cons_of_mem position member)
      exact ⟨wanted :: units, .cons ⟨isUnit, sameBuckets, singleBit⟩ areUnits⟩

/-- Each of the unit vectors of listed buckets is one. -/
theorem isUnit_of_mem
    (areUnits : List.Forall₂ (IsUnit numBuckets) positions units)
    {unit : RequestVector}
    (member : unit ∈ units) :
    ∃ position, IsUnit numBuckets position unit := by
  induction areUnits with
  | nil => cases member
  | @cons position _ _ _ isUnit _ inductionHypothesis =>
      rcases List.mem_cons.mp member with rfl | later
      · exact ⟨position, isUnit⟩
      · exact inductionHypothesis later

/-- The vector of listed buckets is made by adding their unit vectors. -/
theorem ofPositions_eq_foldlM (areUnits : List.Forall₂ (IsUnit numBuckets) positions units) :
    ofPositions numBuckets positions = units.foldlM RequestVector.xor (zero numBuckets) := by
  unfold ofPositions
  generalize zero numBuckets = start
  induction areUnits generalizing start with
  | nil => rfl
  | @cons position unit positions units isUnit _ inductionHypothesis =>
      rw [List.foldlM_cons, List.foldlM_cons, isUnit.unit_eq]
      exact bind_congr fun next => inductionHypothesis next

/-- The vector of listed buckets is the sum of their unit vectors. -/
theorem ofPositions_of_units (areUnits : List.Forall₂ (IsUnit numBuckets) positions units) :
    ∃ vector,
      ofPositions numBuckets positions = .ok vector ∧
      vector.numBuckets = numBuckets ∧
      vector.bits = Bytes.sum (Bytes.forBits numBuckets) (units.map bits) := by
  rw [ofPositions_eq_foldlM areUnits]
  refine foldlM_xor fun unit member => ?_
  obtain ⟨_, isUnit⟩ := isUnit_of_mem areUnits member
  exact isUnit.numBuckets_eq

/-- The bytes of unit vectors over the same buckets have one length. -/
theorem length_bits_units (areUnits : List.Forall₂ (IsUnit numBuckets) positions units) :
    ∀ bytes ∈ units.map bits, bytes.length = Bytes.forBits numBuckets := by
  intro bytes member
  obtain ⟨unit, memberUnit, rfl⟩ := List.mem_map.mp member
  obtain ⟨_, isUnit⟩ := isUnit_of_mem areUnits memberUnit
  rw [unit.length_bits, isUnit.numBuckets_eq]

/-- Of the unit vectors of listed buckets as many have a bit as the list names its bucket. -/
theorem countP_bit_units
    (areUnits : List.Forall₂ (IsUnit numBuckets) positions units)
    (index : Nat) :
    (units.map bits).countP (fun bytes => bytes.bit index) = positions.count index := by
  induction areUnits with
  | nil => rfl
  | cons isUnit _ inductionHypothesis =>
      rw [List.map_cons, List.countP_cons, inductionHypothesis, List.count_cons, isUnit.bit_eq,
        Bool.beq_comm]

/-- The unit vectors of listed buckets select the buckets, in order. -/
theorem map_selected_units
    (areUnits : List.Forall₂ (IsUnit numBuckets) positions units)
    (inside : ∀ position ∈ positions, position < numBuckets)
    {data : Bytes}
    {size : Nat}
    (fills : data.length = numBuckets * size) :
    (units.map bits).map (data.selected size numBuckets) = positions.map (data.window size) := by
  induction areUnits with
  | nil => rfl
  | @cons position unit positions units isUnit _ inductionHypothesis =>
      have first :
          data.selected size numBuckets unit.bits = data.window size position :=
        Bytes.selected_of_single fills (inside position List.mem_cons_self)
          fun index _ => isUnit.bit_eq index
      have rest :=
        inductionHypothesis fun other member => inside other (List.mem_cons_of_mem position member)
      rw [List.map_cons, List.map_cons, List.map_cons, first, rest]

end

end RequestVector

namespace Shard

/-- The vector of listed buckets, in any order and with repetitions, has the bits of those that the
list names an odd number of times, and none past the last bucket.  Either method answers it with the
exclusive or over the whole list, which is zeros if the list is empty. -/
theorem read_ofPositions
    {numBuckets : Nat}
    {positions : List Nat}
    (inside : ∀ position ∈ positions, position < numBuckets) :
    ∃ vector,
      RequestVector.ofPositions numBuckets positions = .ok vector ∧
      vector.numBuckets = numBuckets ∧
      (∀ index, vector.bits.bit index = true ↔ Odd (positions.count index)) ∧
      (∀ index, numBuckets ≤ index → vector.bits.bit index = false) ∧
      ∀ shard : Shard,
        shard.numBuckets = numBuckets →
        ∃ buckets,
          List.Forall₂ (fun position bucket => shard.bucket position = .ok bucket)
            positions buckets ∧
          shard.read vector.bits (Bytes.forBits numBuckets) =
            .ok (Bytes.sum shard.bucketSize buckets) := by
  obtain ⟨units, areUnits⟩ := RequestVector.exists_units inside
  obtain ⟨vector, made, sameBuckets, isSum⟩ := RequestVector.ofPositions_of_units areUnits
  have unitsSized := RequestVector.length_bits_units areUnits
  have bits : ∀ index, vector.bits.bit index = true ↔ Odd (positions.count index) := by
    intro index
    rw [isSum, Bytes.bit_sum unitsSized, RequestVector.countP_bit_units areUnits]
  refine ⟨vector, made, sameBuckets, bits, fun index outside => ?_, ?_⟩
  · have absent : positions.count index = 0 :=
      List.count_eq_zero.mpr fun member => Nat.not_lt.mpr outside (inside index member)
    rw [← Bool.not_eq_true, bits, absent]
    exact Nat.not_odd_zero
  · rintro shard rfl
    refine ⟨positions.map (shard.data.window shard.bucketSize), ?_, ?_⟩
    · rw [List.forall₂_map_right_iff, List.forall₂_same]
      intro position member
      rw [shard.bucket_eq_window, checkBucket, if_pos (inside position member)]
      rfl
    · have sized : vector.bits.length = Bytes.forBits shard.numBuckets := by
        rw [vector.length_bits, sameBuckets]
      rw [read_single (Nat.le_refl _) sized, isSum,
        (Bytes.linear_selected shard.length_data _).image_sum unitsSized,
        RequestVector.map_selected_units areUnits inside shard.length_data]

/-- Of three buckets the last one is named twice and the first one once, so the first one remains.
-/
theorem read_ofPositions_of_repeated :
    ∃ vector shard buckets answer,
      RequestVector.ofPositions 3 [2, 0, 2] = .ok vector ∧
      vector.bits = [0x01] ∧
      ofData .wordwise 3 9 threeBuckets = .ok shard ∧
      List.Forall₂ (fun position bucket => shard.bucket position = .ok bucket) [2, 0, 2] buckets ∧
      shard.read vector.bits 1 = .ok answer ∧
      answer = Bytes.sum shard.bucketSize buckets ∧
      answer = [0, 1, 2, 3, 4, 5, 6, 7, 8] := by
  have inside : ∀ position ∈ [2, 0, 2], position < 3 := by decide
  obtain ⟨vector, made, _, _, _, read⟩ := read_ofPositions inside
  have bits : (RequestVector.ofPositions 3 [2, 0, 2]).map RequestVector.bits = .ok [0x01] := by
    decide +kernel
  rw [made] at bits
  obtain ⟨shard, madeShard, sameBuckets⟩ := exists_ofData_threeBuckets .wordwise
  obtain ⟨buckets, areBuckets, answered⟩ := read shard sameBuckets
  have evaluated :
      (ofData .wordwise 3 9 threeBuckets >>= fun shard => shard.read [0x01] 1) =
        .ok [0, 1, 2, 3, 4, 5, 6, 7, 8] := by
    decide +kernel
  rw [madeShard, ← Except.ok.inj bits] at evaluated
  exact ⟨vector, shard, buckets, _, made, Except.ok.inj bits, madeShard, areBuckets, answered, rfl,
    Except.ok.inj (answered.symm.trans evaluated)⟩

end Shard
end ObliviousLog
