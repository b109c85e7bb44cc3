import ObliviousLog.Proofs.Bytes.Sharings
import ObliviousLog.Request.Share

/-!
# Shares add up to the request

The vectors that a read is split into have one length and add up to the vector of the wanted bucket,
whatever was drawn for them.  That vector has a single bit, the one of the wanted bucket.
-/

namespace ObliviousLog
namespace RequestVector

theorem eq_of_bits
    {left right : RequestVector}
    (sameBuckets : left.numBuckets = right.numBuckets)
    (sameBits : left.bits = right.bits) :
    left = right := by
  cases left
  cases right
  cases sameBuckets
  cases sameBits
  rfl

/-! ## Unit vectors -/

/-- Overwriting one byte changes the bits of that byte. -/
theorem bit_set
    {bytes : Bytes}
    {position : Nat}
    (inside : position < bytes.length)
    (byte : UInt8)
    (index : Nat) :
    Bytes.bit (bytes.set position byte) index =
      if index / 8 = position then byte.toNat.testBit (index % 8) else bytes.bit index := by
  rw [Bytes.bit, List.getD_eq_getElem?_getD, List.getElem?_set]
  by_cases same : index / 8 = position
  · rw [if_pos same, if_pos same.symm, if_pos (same ▸ inside)]
    rfl
  · rw [if_neg same, if_neg fun equal => same equal.symm, ← List.getD_eq_getElem?_getD]
    rfl

/-- The bit of the byte that holds nothing but one bit. -/
theorem testBit_ofNat_shiftLeft (position index : Nat) :
    (UInt8.ofNat (1 <<< (position % 8))).toNat.testBit (index % 8) =
      decide (position % 8 = index % 8) := by
  have small : 2 ^ (position % 8) < 2 ^ 8 :=
    Nat.pow_lt_pow_right Nat.one_lt_two (Nat.mod_lt position (Nat.succ_pos 7))
  rw [Nat.one_shiftLeft, UInt8.toNat_ofNat_of_lt' small, Nat.testBit_two_pow]

/-- The vector of a bucket that exists has the bit of that bucket and no other. -/
theorem unit_of_lt
    {target numBuckets : Nat}
    (inside : target < numBuckets) :
    ∃ wanted,
      unit target numBuckets = .ok wanted ∧
      wanted.numBuckets = numBuckets ∧
      ∀ index, wanted.bits.bit index = (index == target) := by
  have byteInside : target / 8 < (Bytes.zeros (Bytes.forBits numBuckets)).length := by
    rw [Bytes.length_zeros, Bytes.forBits]
    omega
  rw [unit, checkBucket, if_pos inside]
  refine ⟨_, rfl, rfl, fun index => ?_⟩
  rw [bit_set byteInside, testBit_ofNat_shiftLeft, Bytes.bit_zeros, Bool.eq_iff_iff, beq_iff_eq]
  by_cases sameByte : index / 8 = target / 8
  · rw [if_pos sameByte, decide_eq_true_iff]
    omega
  · rw [if_neg sameByte]
    refine ⟨fun impossible => absurd impossible Bool.false_ne_true, fun same => ?_⟩
    exact absurd (congrArg (· / 8) same) sameByte

/-! ## Drawn vectors -/

theorem length_drawMany
    {R : Type}
    [ByteSource R]
    (numBuckets count : Nat)
    (source : R) :
    (drawMany numBuckets count source).1.length = count := by
  induction count generalizing source with
  | zero => rfl
  | succ count inductionHypothesis =>
      exact congrArg Nat.succ (inductionHypothesis (draw numBuckets source).2)

/-- All drawn vectors address the same buckets. -/
theorem numBuckets_of_mem_drawMany
    {R : Type}
    [ByteSource R]
    {numBuckets count : Nat}
    {source : R}
    {vector : RequestVector}
    (drawn : vector ∈ (drawMany numBuckets count source).1) :
    vector.numBuckets = numBuckets := by
  induction count generalizing source with
  | zero => cases drawn
  | succ count inductionHypothesis =>
      rcases List.mem_cons.mp drawn with rfl | later
      · rfl
      · exact inductionHypothesis later

/-- The bytes of drawn vectors are as many strings, each of the length of a vector. -/
theorem map_bits_drawMany_mem_tuples
    {R : Type}
    [ByteSource R]
    (numBuckets count : Nat)
    (source : R) :
    (drawMany numBuckets count source).1.map bits ∈
      Bytes.tuples count (Bytes.forBits numBuckets) := by
  refine ⟨?_, fun bytes member => ?_⟩
  · rw [List.length_map, length_drawMany]
  · obtain ⟨vector, drawn, rfl⟩ := List.mem_map.mp member
    rw [vector.length_bits, numBuckets_of_mem_drawMany drawn]

/-! ## Sums of vectors -/

/-- Vectors over the same buckets can be added to a vector. -/
theorem foldlM_xor
    {vectors : List RequestVector}
    {start : RequestVector}
    (same : ∀ vector ∈ vectors, vector.numBuckets = start.numBuckets) :
    ∃ total,
      vectors.foldlM RequestVector.xor start = .ok total ∧
      total.numBuckets = start.numBuckets ∧
      total.bits = (vectors.map bits).foldl Bytes.xor start.bits := by
  induction vectors generalizing start with
  | nil => exact ⟨start, rfl, rfl, rfl⟩
  | cons first rest inductionHypothesis =>
      have sameFirst := same first List.mem_cons_self
      obtain ⟨next, added, sameNext, bitsNext⟩ :
          ∃ next,
            start.xor first = .ok next ∧
            next.numBuckets = start.numBuckets ∧
            next.bits = start.bits.xor first.bits := by
        rw [xor, dif_pos sameFirst.symm]
        exact ⟨_, rfl, rfl, rfl⟩
      obtain ⟨total, summed, sameTotal, bitsTotal⟩ :=
        inductionHypothesis fun vector member =>
          (same vector (List.mem_cons_of_mem first member)).trans sameNext.symm
      refine ⟨total, ?_, sameTotal.trans sameNext, ?_⟩
      · rw [List.foldlM_cons, added]
        exact summed
      · rw [bitsTotal, bitsNext]
        rfl

end RequestVector

variable {R : Type} [ByteSource R]

/-- Among two or more domains a request is split into what was drawn and, in front of it for the
first domain, the wanted vector with all drawn ones added to it. -/
theorem shareRequest_eq
    {target numDomains numBuckets : Nat}
    (several : 2 ≤ numDomains)
    {wanted : RequestVector}
    (isUnit : RequestVector.unit target numBuckets = .ok wanted)
    (sameWanted : wanted.numBuckets = numBuckets)
    (source : R) :
    ∃ first,
      shareRequest target numDomains numBuckets source =
        (.ok (first :: (RequestVector.drawMany numBuckets (numDomains - 1) source).1),
          (RequestVector.drawMany numBuckets (numDomains - 1) source).2) ∧
      first.numBuckets = numBuckets ∧
      first.bits =
        ((RequestVector.drawMany numBuckets (numDomains - 1) source).1.map
          RequestVector.bits).foldl Bytes.xor wanted.bits := by
  have sameMasks :
      ∀ mask ∈ (RequestVector.drawMany numBuckets (numDomains - 1) source).1,
        mask.numBuckets = wanted.numBuckets :=
    fun _ drawn => (RequestVector.numBuckets_of_mem_drawMany drawn).trans sameWanted.symm
  rcases drawn : RequestVector.drawMany numBuckets (numDomains - 1) source with ⟨masks, rest⟩
  rw [drawn] at sameMasks
  obtain ⟨first, combined, sameFirst, bitsFirst⟩ := RequestVector.foldlM_xor sameMasks
  refine ⟨first, ?_, sameFirst.trans sameWanted, bitsFirst⟩
  rw [shareRequest, if_neg (Nat.not_lt.mpr several), isUnit]
  dsimp only
  rw [drawn]
  dsimp only
  rw [combined]
  rfl

/-- Among two or more domains a request is split into what was drawn and, for the first domain, the
one vector that makes the sum of all the wanted one. -/
theorem shareRequest_completes
    {target numDomains numBuckets : Nat}
    (several : 2 ≤ numDomains)
    {wanted : RequestVector}
    (isUnit : RequestVector.unit target numBuckets = .ok wanted)
    (sameWanted : wanted.numBuckets = numBuckets)
    (source : R) :
    ∃ vectors,
      shareRequest target numDomains numBuckets source =
        (.ok vectors, (RequestVector.drawMany numBuckets (numDomains - 1) source).2) ∧
      (∀ vector ∈ vectors, vector.numBuckets = numBuckets) ∧
      vectors.map RequestVector.bits =
        Bytes.complete 0 (Bytes.forBits numBuckets) wanted.bits
          ((RequestVector.drawMany numBuckets (numDomains - 1) source).1.map
            RequestVector.bits) := by
  have masksSized :=
    (RequestVector.map_bits_drawMany_mem_tuples numBuckets (numDomains - 1) source).2
  have wantedSized : wanted.bits.length = Bytes.forBits numBuckets := by
    rw [wanted.length_bits, sameWanted]
  obtain ⟨first, shared, sameFirst, bitsFirst⟩ :=
    shareRequest_eq several isUnit sameWanted source
  refine ⟨_, shared, fun vector member => ?_, ?_⟩
  · rcases List.mem_cons.mp member with rfl | mask
    · exact sameFirst
    · exact RequestVector.numBuckets_of_mem_drawMany mask
  · rw [Bytes.complete, List.insertIdx_zero, List.map_cons, bitsFirst,
      Bytes.foldl_xor masksSized wantedSized]

/-- A request for a bucket that exists is split, among two or more domains, into vectors that add up
to the vector of the bucket. -/
theorem shareRequest_of_lt
    {target numDomains numBuckets : Nat}
    (several : 2 ≤ numDomains)
    (inside : target < numBuckets)
    (source : R) :
    ∃ vectors rest,
      shareRequest target numDomains numBuckets source = (.ok vectors, rest) ∧
      vectors.length = numDomains ∧
      (∀ vector ∈ vectors, vector.numBuckets = numBuckets) ∧
      ∀ index,
        (Bytes.sum (Bytes.forBits numBuckets) (vectors.map RequestVector.bits)).bit index =
          (index == target) := by
  obtain ⟨wanted, isUnit, sameWanted, singleBit⟩ := RequestVector.unit_of_lt inside
  obtain ⟨vectors, shared, sameVectors, completed⟩ :=
    shareRequest_completes several isUnit sameWanted source
  have wantedSized : wanted.bits.length = Bytes.forBits numBuckets := by
    rw [wanted.length_bits, sameWanted]
  have sharing :=
    Bytes.complete_mem_sharings (Nat.zero_le _) wantedSized
      (RequestVector.map_bits_drawMany_mem_tuples numBuckets (numDomains - 1) source)
  rw [← completed] at sharing
  obtain ⟨⟨count, _⟩, total⟩ := sharing
  refine ⟨vectors, _, shared, ?_, sameVectors, fun index => ?_⟩
  · rw [List.length_map] at count
    omega
  · rw [total, singleBit]

/-- Attaching seeds keeps the vectors, in order. -/
theorem ReadShare.map_vector_attachSeeds (vectors : List RequestVector) (source : R) :
    (ReadShare.attachSeeds vectors source).1.map ReadShare.vector = vectors := by
  induction vectors generalizing source with
  | nil => rfl
  | cons vector vectors inductionHypothesis =>
      exact congrArg (vector :: ·) (inductionHypothesis (PadSeed.draw source).2)

/-- A read of a bucket that exists is split, among two or more domains, into one share each, whose
vectors add up to the vector of the bucket. -/
theorem shareRead_of_lt
    {target numDomains numBuckets : Nat}
    (several : 2 ≤ numDomains)
    (inside : target < numBuckets)
    (source : R) :
    ∃ shares rest,
      shareRead target numDomains numBuckets source = (.ok shares, rest) ∧
      shares.length = numDomains ∧
      (∀ share ∈ shares, share.vector.numBuckets = numBuckets) ∧
      ∀ index,
        (Bytes.sum (Bytes.forBits numBuckets)
          (shares.map fun share => share.vector.bits)).bit index = (index == target) := by
  obtain ⟨vectors, drawn, shared, count, sameVectors, singleBit⟩ :=
    shareRequest_of_lt several inside source
  have kept := ReadShare.map_vector_attachSeeds vectors drawn
  rcases attached : ReadShare.attachSeeds vectors drawn with ⟨shares, rest⟩
  rw [attached] at kept
  refine ⟨shares, rest, ?_, ?_, ?_, fun index => ?_⟩
  · rw [shareRead, shared]
    dsimp only
    rw [attached]
  · rw [← count, ← kept, List.length_map]
  · intro share member
    exact sameVectors share.vector (kept ▸ List.mem_map_of_mem member)
  · rw [← singleBit index, ← kept, List.map_map]
    rfl

end ObliviousLog
