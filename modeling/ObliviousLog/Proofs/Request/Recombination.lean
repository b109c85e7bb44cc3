import ObliviousLog.Proofs.Request.Secrecy

/-!
# Shares recombine to the request

Whoever holds the vectors of all domains can add them up in any order, from the vector that selects
nothing on, and gets the vector of the wanted bucket back, byte for byte.  The bits past the last
bucket, which are drawn like all others, cancel as well.
-/

namespace ObliviousLog

namespace RequestVector

theorem unit_of_ge
    {target numBuckets : Nat}
    (outside : numBuckets ≤ target) :
    unit target numBuckets = .error (.bucketOutOfBounds target numBuckets) := by
  rw [unit, checkBucket, if_neg (Nat.not_lt.mpr outside)]

/-- Vectors over the same buckets that add up to the bytes of a vector over these are summed to that
vector, in any order. -/
theorem foldlM_xor_zero
    {numBuckets : Nat}
    {vectors order : List RequestVector}
    (same : ∀ vector ∈ vectors, vector.numBuckets = numBuckets)
    {total : RequestVector}
    (sameTotal : total.numBuckets = numBuckets)
    (sum : Bytes.sum (Bytes.forBits numBuckets) (vectors.map bits) = total.bits)
    (rearranged : order.Perm vectors) :
    order.foldlM RequestVector.xor (zero numBuckets) = .ok total := by
  have sameOrder : ∀ vector ∈ order, vector.numBuckets = (zero numBuckets).numBuckets :=
    fun vector member => same vector (rearranged.subset member)
  obtain ⟨added, summed, sameAdded, bitsAdded⟩ := foldlM_xor sameOrder
  have bitsTotal : added.bits = total.bits := by
    rw [← sum, ← Bytes.sum_perm (rearranged.map bits), bitsAdded]
    rfl
  rw [summed, eq_of_bits (sameAdded.trans sameTotal.symm) bitsTotal]

end RequestVector

variable {R : Type} [ByteSource R]

theorem shareRequest_of_few
    {numDomains : Nat}
    (few : numDomains < 2)
    (target numBuckets : Nat)
    (source : R) :
    shareRequest target numDomains numBuckets source =
      (.error (.invalidConfiguration .tooFewDomains), source) :=
  if_pos few

theorem shareRequest_of_ge
    {target numDomains numBuckets : Nat}
    (several : 2 ≤ numDomains)
    (outside : numBuckets ≤ target)
    (source : R) :
    shareRequest target numDomains numBuckets source =
      (.error (.bucketOutOfBounds target numBuckets), source) := by
  rw [shareRequest, if_neg (Nat.not_lt.mpr several), RequestVector.unit_of_ge outside]

/-- Among two or more domains the vectors for a bucket that exists add up to its unit vector. -/
theorem shareRequest_sums_to_unit
    {target numDomains numBuckets : Nat}
    (several : 2 ≤ numDomains)
    (inside : target < numBuckets)
    (source : R) :
    ∃ vectors wanted,
      shareRequest target numDomains numBuckets source =
        (.ok vectors, (RequestVector.drawMany numBuckets (numDomains - 1) source).2) ∧
      vectors.length = numDomains ∧
      vectors.tail = (RequestVector.drawMany numBuckets (numDomains - 1) source).1 ∧
      (∀ vector ∈ vectors,
        vector.numBuckets = numBuckets ∧ vector.bits.length = Bytes.forBits numBuckets) ∧
      RequestVector.unit target numBuckets = .ok wanted ∧
      ∀ order : List RequestVector, order.Perm vectors →
        order.foldlM RequestVector.xor (RequestVector.zero numBuckets) = .ok wanted := by
  obtain ⟨wanted, isUnit, sameWanted, _⟩ := RequestVector.unit_of_lt inside
  have wantedSized : wanted.bits.length = Bytes.forBits numBuckets := by
    rw [wanted.length_bits, sameWanted]
  obtain ⟨first, shared, sameFirst, bitsFirst⟩ :=
    shareRequest_eq several isUnit sameWanted source
  have drawn := RequestVector.map_bits_drawMany_mem_tuples numBuckets (numDomains - 1) source
  have sum := (Bytes.complete_mem_sharings (Nat.zero_le _) wantedSized drawn).2
  rw [Bytes.complete, List.insertIdx_zero, ← Bytes.foldl_xor drawn.2 wantedSized, ← bitsFirst,
    ← List.map_cons] at sum
  have same :
      ∀ vector ∈ first :: (RequestVector.drawMany numBuckets (numDomains - 1) source).1,
        vector.numBuckets = numBuckets := by
    intro vector member
    rcases List.mem_cons.mp member with rfl | mask
    · exact sameFirst
    · exact RequestVector.numBuckets_of_mem_drawMany mask
  refine ⟨_, wanted, shared, ?_, rfl, fun vector member => ?_, isUnit, fun order rearranged => ?_⟩
  · rw [List.length_cons, RequestVector.length_drawMany]
    omega
  · exact ⟨same vector member, by rw [vector.length_bits, same vector member]⟩
  · exact RequestVector.foldlM_xor_zero same sameWanted sum rearranged

/-- A request is refused for too few domains, or else for a bucket that does not exist, and in
neither case is anything drawn.  Otherwise there is one vector for each domain, all but the first as
they were drawn, and adding the vectors to the one that selects nothing succeeds in any order and
gives the unit vector of the bucket, unused bits included. -/
theorem shareRequest_recombines
    (target numDomains numBuckets : Nat)
    (source : R) :
    ((∃ reason,
        (shareRequest target numDomains numBuckets source).1 =
          .error (.invalidConfiguration reason)) ↔
      numDomains < 2) ∧
    ((∃ bucket count,
        (shareRequest target numDomains numBuckets source).1 =
          .error (.bucketOutOfBounds bucket count)) ↔
      2 ≤ numDomains ∧ numBuckets ≤ target) ∧
    (∀ error,
      (shareRequest target numDomains numBuckets source).1 = .error error →
        (shareRequest target numDomains numBuckets source).2 = source) ∧
    (2 ≤ numDomains → target < numBuckets →
      ∃ vectors wanted,
        shareRequest target numDomains numBuckets source =
          (.ok vectors, (RequestVector.drawMany numBuckets (numDomains - 1) source).2) ∧
        vectors.length = numDomains ∧
        vectors.tail = (RequestVector.drawMany numBuckets (numDomains - 1) source).1 ∧
        (∀ vector ∈ vectors,
          vector.numBuckets = numBuckets ∧ vector.bits.length = Bytes.forBits numBuckets) ∧
        RequestVector.unit target numBuckets = .ok wanted ∧
        ∀ order : List RequestVector, order.Perm vectors →
          order.foldlM RequestVector.xor (RequestVector.zero numBuckets) = .ok wanted) := by
  rcases Nat.lt_or_ge numDomains 2 with few | several
  · have notSeveral : ¬2 ≤ numDomains := Nat.not_le.mpr few
    rw [shareRequest_of_few few]
    simp [few, notSeveral]
  · have notFew : ¬numDomains < 2 := Nat.not_lt.mpr several
    rcases Nat.lt_or_ge target numBuckets with inside | outside
    · have succeeds := shareRequest_sums_to_unit several inside source
      have ⟨vectors, _, shared, _⟩ := succeeds
      refine ⟨?_, ?_, ?_, fun _ _ => succeeds⟩
      · simp [shared, notFew]
      · simp [shared, inside]
      · simp [shared]
    · have notInside : ¬target < numBuckets := Nat.not_lt.mpr outside
      rw [shareRequest_of_ge several outside]
      simp [notFew, several, outside, notInside]

/-- Three domains and nine buckets, of which the last one is wanted.  The drawn vectors have unused
bits set, which are gone when the vectors are added up from the last one to the first. -/
theorem shareRequest_recombines_of_three :
    ∃ vectors wanted,
      (shareRequest 8 3 9 (Script.mk [[0x12, 0xfe], [0x56, 0x7b]])).1 = .ok vectors ∧
      vectors.tail.map RequestVector.bits = [[0x12, 0xfe], [0x56, 0x7b]] ∧
      vectors.reverse.foldlM RequestVector.xor (RequestVector.zero 9) = .ok wanted ∧
      wanted.bits = [0, 1] := by
  obtain ⟨_, _, _, combines⟩ :=
    shareRequest_recombines 8 3 9 (Script.mk [[0x12, 0xfe], [0x56, 0x7b]])
  obtain ⟨vectors, wanted, shared, _, drawn, _, isUnit, total⟩ :=
    combines (by decide) (by decide)
  have evaluated : (RequestVector.unit 8 9).map RequestVector.bits = .ok [0, 1] := rfl
  rw [isUnit] at evaluated
  refine ⟨vectors, wanted, by rw [shared], ?_, total _ vectors.reverse_perm,
    Except.ok.inj evaluated⟩
  rw [drawn]
  rfl

end ObliviousLog
