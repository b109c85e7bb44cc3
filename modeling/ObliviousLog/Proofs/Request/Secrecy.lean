import ObliviousLog.Proofs.Request.Sharing
import Mathlib.Data.Set.Card

/-!
# All domains but one learn nothing

The vectors of all domains but one are an arbitrary list of strings, and each such list arises from
exactly one outcome of the draws, whatever bucket is wanted and whichever domain is left out.  So
when the draws are uniform, the vectors that these domains see together are uniform as well, and
they would look the same for any other bucket.
-/

namespace ObliviousLog

/-! ## Draws as a list of strings -/

/-- A source that hands out given strings one after the other, and zeros in place of a string that
does not have the length asked for. -/
structure Script where
  /-- The strings that are still to be handed out. -/
  strings : List Bytes

namespace Script

/-- A string, or zeros if it has another length. -/
def fitted (bytes : Bytes) (length : Nat) : Bytes :=
  if bytes.length = length then bytes else Bytes.zeros length

theorem length_fitted (bytes : Bytes) (length : Nat) : (fitted bytes length).length = length := by
  unfold fitted
  split
  · assumption
  · exact Bytes.length_zeros length

instance : ByteSource Script where
  draw script length := (fitted (script.strings.headD []) length, ⟨script.strings.tail⟩)
  length_draw script length := length_fitted (script.strings.headD []) length

end Script

namespace RequestVector

/-- Vectors that are drawn from strings of the right length are these strings. -/
theorem map_bits_drawMany_script
    {numBuckets count : Nat}
    {strings : List Bytes}
    (member : strings ∈ Bytes.tuples count (Bytes.forBits numBuckets)) :
    (drawMany numBuckets count (Script.mk strings)).1.map bits = strings := by
  obtain ⟨rfl, sized⟩ := member
  induction strings with
  | nil => rfl
  | cons first rest inductionHypothesis =>
      have drawn : Script.fitted first (Bytes.forBits numBuckets) = first :=
        if_pos (sized first List.mem_cons_self)
      have later :=
        inductionHypothesis fun bytes member => sized bytes (List.mem_cons_of_mem first member)
      calc
        (drawMany numBuckets (first :: rest).length (Script.mk (first :: rest))).1.map bits
          = Script.fitted first (Bytes.forBits numBuckets) ::
              (drawMany numBuckets rest.length (Script.mk rest)).1.map bits := rfl
        _ = first :: rest := by rw [drawn, later]

/-- Vectors over the same buckets are told apart by their bytes. -/
theorem map_bits_injOn (numBuckets : Nat) :
    Set.InjOn (List.map bits) {vectors | ∀ vector ∈ vectors, vector.numBuckets = numBuckets} := by
  intro left sameLeft right sameRight equal
  induction left generalizing right with
  | nil => exact (List.map_eq_nil_iff.mp equal.symm).symm
  | cons first rest inductionHypothesis =>
      obtain ⟨other, others, rfl, sameBits, sameRest⟩ := List.map_eq_cons_iff.mp equal.symm
      have sameBuckets : first.numBuckets = other.numBuckets :=
        (sameLeft first List.mem_cons_self).trans (sameRight other List.mem_cons_self).symm
      have sameFirst : first = other := eq_of_bits sameBuckets sameBits.symm
      rw [sameFirst, inductionHypothesis
        (fun vector member => sameLeft vector (List.mem_cons_of_mem first member))
        (fun vector member => sameRight vector (List.mem_cons_of_mem other member)) sameRest.symm]

end RequestVector

/-! ## What the other domains see -/

/-- The bytes of the vectors of all domains but one, as the draws decide them. -/
def viewBeside
    (withheld target numDomains numBuckets : Nat)
    (strings : List Bytes) : Except Error (List Bytes) :=
  (shareRequest target numDomains numBuckets (Script.mk strings)).1.map
    fun vectors => (vectors.eraseIdx withheld).map RequestVector.bits

theorem ok_injective {α : Type} : Function.Injective (Except.ok : α → Except Error α) :=
  fun _ _ => Except.ok.inj

/-- Leaving out one entry leaves the same of two lists exactly when they agree everywhere else. -/
theorem eraseIdx_eq_iff
    {α : Type}
    {withheld : Nat}
    {left right : List α} :
    left.eraseIdx withheld = right.eraseIdx withheld ↔
      ∀ index, index ≠ withheld → left[index]? = right[index]? := by
  constructor
  · intro equal index different
    rcases Nat.lt_or_gt_of_ne different with before | after
    · rw [← List.getElem?_eraseIdx_of_lt before, equal, List.getElem?_eraseIdx_of_lt before]
    · obtain ⟨index, rfl⟩ := Nat.exists_eq_add_one_of_ne_zero (Nat.ne_zero_of_lt after)
      have behind : withheld ≤ index := Nat.le_of_lt_succ after
      rw [← List.getElem?_eraseIdx_of_ge behind, equal, List.getElem?_eraseIdx_of_ge behind]
  · intro agree
    apply List.ext_getElem?
    intro index
    rw [List.getElem?_eraseIdx, List.getElem?_eraseIdx]
    split
    · exact agree index (by omega)
    · exact agree (index + 1) (by omega)

section

variable {numDomains numBuckets withheld target : Nat}

/-- A view arises from exactly one outcome of the draws. -/
theorem viewBeside_bijOn
    (several : 2 ≤ numDomains)
    (isDomain : withheld < numDomains)
    (inside : target < numBuckets) :
    Set.BijOn (viewBeside withheld target numDomains numBuckets)
      (Bytes.tuples (numDomains - 1) (Bytes.forBits numBuckets))
      (Set.image Except.ok (Bytes.tuples (numDomains - 1) (Bytes.forBits numBuckets))) := by
  obtain ⟨wanted, isUnit, sameWanted, _⟩ := RequestVector.unit_of_lt inside
  have wantedSized : wanted.bits.length = Bytes.forBits numBuckets := by
    rw [wanted.length_bits, sameWanted]
  -- The vectors complete the draws to a sharing of the wanted one, and any part may be left out.
  have completed :=
    Bytes.complete_bijOn_sharings (Nat.zero_le (numDomains - 1)) wantedSized
  have leftOut :=
    Bytes.eraseIdx_bijOn_sharings (Nat.le_sub_one_of_lt isDomain) wantedSized
  refine (ok_injective.injOn.bijOn_image.comp (leftOut.comp completed)).congr
    fun strings member => ?_
  obtain ⟨vectors, shared, _, bits⟩ :=
    shareRequest_completes several isUnit sameWanted (Script.mk strings)
  rw [RequestVector.map_bits_drawMany_script member] at bits
  rw [viewBeside, shared, Except.map, ← List.eraseIdx_map, bits]
  rfl

/-- Two views are the same exactly when the vectors are, but for the one that is left out. -/
theorem viewBeside_eq_iff
    (several : 2 ≤ numDomains)
    (inside : target < numBuckets)
    {other : Nat}
    (otherInside : other < numBuckets)
    (strings others : List Bytes) :
    viewBeside withheld other numDomains numBuckets others =
        viewBeside withheld target numDomains numBuckets strings ↔
      ∃ vectors otherVectors,
        (shareRequest target numDomains numBuckets (Script.mk strings)).1 = .ok vectors ∧
        (shareRequest other numDomains numBuckets (Script.mk others)).1 = .ok otherVectors ∧
        ∀ index, index ≠ withheld → vectors[index]? = otherVectors[index]? := by
  obtain ⟨vectors, _, shared, _, same, _⟩ :=
    shareRequest_of_lt several inside (Script.mk strings)
  obtain ⟨otherVectors, _, otherShared, _, otherSame, _⟩ :=
    shareRequest_of_lt several otherInside (Script.mk others)
  rw [viewBeside, viewBeside, shared, otherShared]
  constructor
  · intro equal
    refine ⟨vectors, otherVectors, rfl, rfl, eraseIdx_eq_iff.mp ?_⟩
    exact (RequestVector.map_bits_injOn numBuckets
      (fun vector member => otherSame vector (List.mem_of_mem_eraseIdx member))
      (fun vector member => same vector (List.mem_of_mem_eraseIdx member))
      (Except.ok.inj equal)).symm
  · rintro ⟨_, _, isVectors, isOtherVectors, agree⟩
    cases isVectors
    cases isOtherVectors
    rw [Except.map, Except.map, eraseIdx_eq_iff.mpr agree]

/-- As many outcomes of the draws lead to certain views as there are such views. -/
theorem encard_viewBeside
    (several : 2 ≤ numDomains)
    (isDomain : withheld < numDomains)
    (inside : target < numBuckets)
    (views : Set (List Bytes)) :
    {strings | strings ∈ Bytes.tuples (numDomains - 1) (Bytes.forBits numBuckets) ∧
        ∃ view ∈ views,
          viewBeside withheld target numDomains numBuckets strings = .ok view}.encard =
      (Bytes.tuples (numDomains - 1) (Bytes.forBits numBuckets) ∩ views).encard := by
  have bijection := viewBeside_bijOn several isDomain inside
  have leading :
      {strings | strings ∈ Bytes.tuples (numDomains - 1) (Bytes.forBits numBuckets) ∧
        ∃ view ∈ views,
          viewBeside withheld target numDomains numBuckets strings = .ok view} =
      Bytes.tuples (numDomains - 1) (Bytes.forBits numBuckets) ∩
        Set.preimage (viewBeside withheld target numDomains numBuckets)
          (Set.image Except.ok views) := by
    ext strings
    simp only [Set.mem_ofPred_eq, Set.mem_inter_iff, Set.mem_preimage, Set.mem_image, eq_comm]
  rw [leading, ← (bijection.injOn.mono Set.inter_subset_left).encard_image,
    Set.image_inter_preimage, bijection.image_eq,
    ← Set.image_inter ok_injective, ok_injective.injOn.encard_image]

/-- Of two or more domains any one may be left out: whatever bucket is wanted, the vectors of all
others are an arbitrary list of strings of their length, and each list arises from exactly one
outcome of the draws.  So for any other bucket there is exactly one outcome that gives them the same
vectors, and what they see is in no set of views more often for one bucket than for another. -/
theorem shareRequest_hides_target
    (several : 2 ≤ numDomains)
    (isDomain : withheld < numDomains) :
    (∀ target < numBuckets,
      Set.BijOn (viewBeside withheld target numDomains numBuckets)
        (Bytes.tuples (numDomains - 1) (Bytes.forBits numBuckets))
        (Set.image Except.ok (Bytes.tuples (numDomains - 1) (Bytes.forBits numBuckets)))) ∧
    (∀ target < numBuckets, ∀ other < numBuckets,
      ∀ strings ∈ Bytes.tuples (numDomains - 1) (Bytes.forBits numBuckets),
        ∃! others, others ∈ Bytes.tuples (numDomains - 1) (Bytes.forBits numBuckets) ∧
          ∃ vectors otherVectors,
            (shareRequest target numDomains numBuckets (Script.mk strings)).1 = .ok vectors ∧
            (shareRequest other numDomains numBuckets (Script.mk others)).1 = .ok otherVectors ∧
            ∀ index, index ≠ withheld → vectors[index]? = otherVectors[index]?) ∧
    ∀ target < numBuckets, ∀ other < numBuckets, ∀ views : Set (List Bytes),
      {strings | strings ∈ Bytes.tuples (numDomains - 1) (Bytes.forBits numBuckets) ∧
          ∃ view ∈ views,
            viewBeside withheld target numDomains numBuckets strings = .ok view}.encard =
        {strings | strings ∈ Bytes.tuples (numDomains - 1) (Bytes.forBits numBuckets) ∧
          ∃ view ∈ views,
            viewBeside withheld other numDomains numBuckets strings = .ok view}.encard := by
  refine ⟨fun target inside => viewBeside_bijOn several isDomain inside, ?_, ?_⟩
  · intro target inside other otherInside strings member
    have seen := (viewBeside_bijOn several isDomain inside).mapsTo member
    have otherBijection := viewBeside_bijOn several isDomain otherInside
    obtain ⟨others, otherMember, sameView⟩ := otherBijection.surjOn seen
    simp only [← viewBeside_eq_iff several inside otherInside]
    refine ⟨others, ⟨otherMember, sameView⟩, ?_⟩
    rintro rival ⟨rivalMember, rivalView⟩
    exact otherBijection.injOn rivalMember otherMember (rivalView.trans sameView.symm)
  · intro target inside other otherInside views
    rw [encard_viewBeside several isDomain inside, encard_viewBeside several isDomain otherInside]

end

/-- Three domains and nine buckets, of which the first or the last one is wanted: without the second
domain, which of the two it is cannot be told. -/
theorem shareRequest_hides_target_of_three :
    [[0x12, 0x34], [0x56, 0x78]] ∈ Bytes.tuples 2 2 ∧
      ∃! others, others ∈ Bytes.tuples 2 2 ∧
        ∃ vectors otherVectors,
          (shareRequest 0 3 9 (Script.mk [[0x12, 0x34], [0x56, 0x78]])).1 = .ok vectors ∧
          (shareRequest 8 3 9 (Script.mk others)).1 = .ok otherVectors ∧
          ∀ index, index ≠ 1 → vectors[index]? = otherVectors[index]? := by
  have member : [[0x12, 0x34], [0x56, 0x78]] ∈ Bytes.tuples 2 2 := ⟨rfl, by decide⟩
  have several : 2 ≤ 3 := by decide
  have isDomain : 1 < 3 := by decide
  obtain ⟨_, unique, _⟩ := @shareRequest_hides_target 3 9 1 several isDomain
  exact ⟨member, unique 0 (by decide) 8 (by decide) _ member⟩

end ObliviousLog
