import ObliviousLog.Pad.Aes
import ObliviousLog.Proofs.Bytes.Sharings
import ObliviousLog.Proofs.Pad.Mask
import ObliviousLog.Request.Recovery

/-!
# Combining responses

Responses of one length combine to their sum, and pads that were laid on them come off before.  What
responses combine to, be it a string or an error, does not depend on their order, and what a pad was
laid on comes back whatever its length.
-/

namespace ObliviousLog

/-- Responses of one length are combined into their sum. -/
theorem combineResponses_of_sized
    {size : Nat}
    {responses : List Bytes}
    (nonempty : responses ≠ [])
    (sized : ∀ response ∈ responses, response.length = size) :
    combineResponses responses = .ok (Bytes.sum size responses) := by
  cases responses with
  | nil => exact absurd rfl nonempty
  | cons first rest =>
      have firstSized := sized first List.mem_cons_self
      have sameLength : (rest.all fun response => response.length == first.length) = true := by
        refine List.all_eq_true.mpr fun response member => beq_iff_eq.mpr ?_
        rw [sized response (List.mem_cons_of_mem first member), firstSized]
      rw [Bytes.sum_cons_eq_foldl firstSized]
      exact if_pos sameLength

/-- Responses of two different lengths are not combined, wherever they stand. -/
theorem combineResponses_of_unequal
    {responses : List Bytes}
    (unequal :
      ∃ left ∈ responses, ∃ right ∈ responses, left.length ≠ right.length) :
    combineResponses responses = .error (.invalidConfiguration .responseLength) := by
  obtain ⟨left, leftMember, right, rightMember, different⟩ := unequal
  cases responses with
  | nil => cases leftMember
  | cons first rest =>
      refine if_neg fun sameLength => different ?_
      have asLongAsFirst : ∀ response ∈ first :: rest, response.length = first.length := by
        intro response member
        rcases List.mem_cons.mp member with rfl | inRest
        · rfl
        · exact beq_iff_eq.mp (List.all_eq_true.mp sameLength response inRest)
      rw [asLongAsFirst left leftMember, asLongAsFirst right rightMember]

/-- What responses combine to does not depend on their order. -/
theorem combineResponses_perm
    {order responses : List Bytes}
    (rearranged : order.Perm responses) :
    combineResponses order = combineResponses responses := by
  by_cases unequal : ∃ left ∈ responses, ∃ right ∈ responses, left.length ≠ right.length
  · have unequalOrder : ∃ left ∈ order, ∃ right ∈ order, left.length ≠ right.length := by
      simpa only [rearranged.mem_iff] using unequal
    rw [combineResponses_of_unequal unequal, combineResponses_of_unequal unequalOrder]
  · cases responses with
    | nil => rw [rearranged.eq_nil]
    | cons first rest =>
        have sized : ∀ response ∈ first :: rest, response.length = first.length := by
          intro response member
          by_contra different
          exact unequal ⟨response, member, first, List.mem_cons_self, different⟩
        have sizedOrder : ∀ response ∈ order, response.length = first.length :=
          fun response member => sized response (rearranged.subset member)
        have nonempty : order ≠ [] := by
          rintro rfl
          exact List.cons_ne_nil first rest rearranged.symm.eq_nil
        rw [combineResponses_of_sized (List.cons_ne_nil first rest) sized,
          combineResponses_of_sized nonempty sizedOrder, Bytes.sum_perm rearranged]

/-! ## Pads -/

variable (C : Type) [BlockCipher C]

/-- Recovery takes each share's pad off its response before it combines. -/
theorem recoverBucket_map
    {α : Type}
    (entries : List α)
    (share : α → ReadShare)
    (response : α → Bytes) :
    recoverBucket C (entries.map share) (entries.map response) =
      combineResponses
        (entries.map fun entry => (share entry).padSeed.apply C (response entry)) := by
  rw [recoverBucket, if_pos (by rw [List.length_map, List.length_map]), List.zipWith_map,
    List.zipWith_self]

/-- Recovery from padded answers combines the answers. -/
theorem recoverBucket_of_padded (shares : List ReadShare) (answer : ReadShare → Bytes) :
    recoverBucket C shares (shares.map fun share => share.padSeed.apply C (answer share)) =
      combineResponses (shares.map answer) := by
  have recovered :=
    recoverBucket_map C shares id fun share => share.padSeed.apply C (answer share)
  simpa only [List.map_id, id, PadSeed.apply_apply] using recovered

/-- Whatever byte strings the pads of as many shares were laid on, recovery gives what combining
these strings gives, a bucket or an error.  Nor does it matter in which order the shares come, as
long as each response goes with its share. -/
theorem recoverBucket_sees_through_pads
    {shares : List ReadShare}
    {responses : List Bytes}
    (same : shares.length = responses.length) :
    recoverBucket C shares
        (List.zipWith (fun share response => share.padSeed.apply C response) shares responses) =
      combineResponses responses ∧
    ∀ order : List (ReadShare × Bytes), order.Perm (shares.zip responses) →
      recoverBucket C (order.map Prod.fst) (order.map Prod.snd) =
        recoverBucket C shares responses := by
  -- Equally many shares and responses are the two sides of one list of pairs.
  obtain ⟨pairs, rfl, rfl⟩ :
      ∃ pairs : List (ReadShare × Bytes),
        pairs.map Prod.fst = shares ∧ pairs.map Prod.snd = responses :=
    ⟨shares.zip responses, List.map_fst_zip same.le, List.map_snd_zip same.ge⟩
  constructor
  · rw [List.zipWith_map, List.zipWith_self, recoverBucket_map]
    simp only [PadSeed.apply_apply]
  · intro order rearranged
    rw [← List.unzip_fst, ← List.unzip_snd, List.zip_unzip] at rearranged
    rw [recoverBucket_map, recoverBucket_map]
    exact combineResponses_perm (rearranged.map _)

/-- A share that asks for none of one bucket, under a seed that repeats a byte. -/
def blankShare (byte : UInt8) : ReadShare where
  vector := .zero 1
  padSeed := ⟨Vector.replicate 16 byte, Vector.replicate 16 byte⟩

/-- Of three shares the first and the last have the same seed.  Three strings of two bytes are
recovered as their sum, also when the last share comes first, and with an empty string among them
their lengths differ. -/
theorem recoverBucket_sees_through_pads_of_repeated :
    let share := blankShare 0
    let other := blankShare 1
    recoverBucket Aes [share, other, share]
        [share.padSeed.apply Aes [5, 6], other.padSeed.apply Aes [7, 8],
          share.padSeed.apply Aes [1, 1]] =
      .ok [3, 15] ∧
    recoverBucket Aes [share, share, other]
        [share.padSeed.apply Aes [1, 1], share.padSeed.apply Aes [5, 6],
          other.padSeed.apply Aes [7, 8]] =
      .ok [3, 15] ∧
    recoverBucket Aes [share, other, share]
        [share.padSeed.apply Aes [5, 6], other.padSeed.apply Aes [], share.padSeed.apply Aes [1]] =
      .error (.invalidConfiguration .responseLength) := by
  intro share other
  have same : [share, other, share].length = ([[5, 6], [7, 8], [1, 1]] : List Bytes).length := rfl
  have sameUnequal : [share, other, share].length = ([[5, 6], [], [1]] : List Bytes).length := rfl
  have samePadded : [share, other, share].length =
      [share.padSeed.apply Aes [5, 6], other.padSeed.apply Aes [7, 8],
        share.padSeed.apply Aes [1, 1]].length := rfl
  have recovered := (recoverBucket_sees_through_pads Aes same).1
  have lastFirst := (recoverBucket_sees_through_pads Aes samePadded).2
    [(share, share.padSeed.apply Aes [1, 1]), (share, share.padSeed.apply Aes [5, 6]),
      (other, other.padSeed.apply Aes [7, 8])]
    (List.perm_append_singleton _ [_, _]).symm
  exact ⟨recovered, lastFirst.trans recovered, (recoverBucket_sees_through_pads Aes sameUnequal).1⟩

end ObliviousLog
