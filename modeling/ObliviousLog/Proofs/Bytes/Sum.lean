import ObliviousLog.Proofs.Bytes.Xor

/-!
# Sums of byte strings

Several byte strings of one length have an exclusive or that depends neither on their order nor on
where the adding begins.
-/

namespace ObliviousLog
namespace Bytes

/-- The exclusive or of several strings of `size` bytes. -/
def sum (size : Nat) (strings : List Bytes) : Bytes :=
  strings.foldl xor (zeros size)

@[simp] theorem sum_nil (size : Nat) : sum size [] = zeros size := rfl

/-- A sum can begin with its first string. -/
theorem sum_cons_eq_foldl
    {size : Nat}
    {first : Bytes}
    (firstSized : first.length = size)
    (rest : List Bytes) :
    sum size (first :: rest) = rest.foldl xor first := by
  rw [sum, List.foldl_cons, xor_comm, xor_zeros_of_length firstSized]

/-- Adding strings to a start is adding their sum to it. -/
theorem foldl_xor
    {size : Nat}
    {strings : List Bytes}
    (sized : ∀ bytes ∈ strings, bytes.length = size)
    {start : Bytes}
    (startSized : start.length = size) :
    strings.foldl xor start = start.xor (sum size strings) := by
  induction strings generalizing start with
  | nil => exact (xor_zeros_of_length startSized).symm
  | cons first rest inductionHypothesis =>
      have firstSized := sized first List.mem_cons_self
      have restSized := fun bytes member => sized bytes (List.mem_cons_of_mem first member)
      have added : (start.xor first).length = size := by
        rw [length_xor, startSized, firstSized, Nat.min_self]
      rw [List.foldl_cons, inductionHypothesis restSized added, sum_cons_eq_foldl firstSized,
        inductionHypothesis restSized firstSized, xor_assoc]

theorem sum_cons
    {size : Nat}
    {first : Bytes}
    (firstSized : first.length = size)
    {rest : List Bytes}
    (restSized : ∀ bytes ∈ rest, bytes.length = size) :
    sum size (first :: rest) = first.xor (sum size rest) := by
  rw [sum_cons_eq_foldl firstSized, foldl_xor restSized firstSized]

theorem length_sum
    {size : Nat}
    {strings : List Bytes}
    (sized : ∀ bytes ∈ strings, bytes.length = size) :
    (sum size strings).length = size := by
  induction strings with
  | nil => exact length_zeros size
  | cons first rest inductionHypothesis =>
      have firstSized := sized first List.mem_cons_self
      have restSized := fun bytes member => sized bytes (List.mem_cons_of_mem first member)
      rw [sum_cons firstSized restSized, length_xor, firstSized, inductionHypothesis restSized,
        Nat.min_self]

/-! ## Linear maps -/

/-- A map from strings of `size` bytes to strings of `imageSize` bytes takes sums to sums. -/
structure Linear (image : Bytes → Bytes) (size imageSize : Nat) : Prop where
  length_image : ∀ bytes, bytes.length = size → (image bytes).length = imageSize
  image_xor :
    ∀ left right,
      left.length = size →
      right.length = size →
      image (left.xor right) = (image left).xor (image right)

namespace Linear

variable {image : Bytes → Bytes} {size imageSize : Nat}

/-- Zeros are a string added to itself, and so is their image. -/
theorem image_zeros (linear : Linear image size imageSize) :
    image (zeros size) = zeros imageSize := by
  have sized := length_zeros size
  have doubled : zeros size = (zeros size).xor (zeros size) :=
    (xor_zeros_of_length sized).symm
  rw [doubled, linear.image_xor _ _ sized sized, xor_self, linear.length_image _ sized]

/-- The image of a sum is the sum of the images. -/
theorem image_sum
    (linear : Linear image size imageSize)
    {strings : List Bytes}
    (sized : ∀ bytes ∈ strings, bytes.length = size) :
    image (sum size strings) = sum imageSize (strings.map image) := by
  induction strings with
  | nil => exact linear.image_zeros
  | cons first rest inductionHypothesis =>
      have firstSized := sized first List.mem_cons_self
      have restSized := fun bytes member => sized bytes (List.mem_cons_of_mem first member)
      have imagesSized : ∀ bytes ∈ rest.map image, bytes.length = imageSize := by
        intro bytes member
        obtain ⟨string, memberString, rfl⟩ := List.mem_map.mp member
        exact linear.length_image string (restSized string memberString)
      rw [sum_cons firstSized restSized, List.map_cons,
        sum_cons (linear.length_image first firstSized) imagesSized,
        linear.image_xor _ _ firstSized (length_sum restSized), inductionHypothesis restSized]

end Linear

end Bytes
end ObliviousLog
