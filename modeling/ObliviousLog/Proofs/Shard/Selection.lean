import ObliviousLog.Proofs.Bytes.Pieces
import ObliviousLog.Proofs.Bytes.Sum

/-!
# Sums of selected windows

What a request asks for can be said without any scan: it is the exclusive or of the windows of the
data whose bit is set.  This sum is linear in the request, and a request with a single bit selects a
single window.
-/

namespace ObliviousLog
namespace Bytes

/-- The exclusive or of those among the first `count` windows whose bit is set in a request. -/
def selected (data : Bytes) (size count : Nat) (request : Bytes) : Bytes :=
  sum size (((List.range count).filter request.bit).map (data.window size))

/-! ## Adding on condition -/

/-- Adds a string to a total if it is wanted. -/
def addIf (wanted : Bool) (total bytes : Bytes) : Bytes :=
  if wanted then total.xor bytes else total

theorem length_addIf
    {total bytes : Bytes}
    (same : bytes.length = total.length)
    (wanted : Bool) :
    (addIf wanted total bytes).length = total.length := by
  cases wanted with
  | false => rfl
  | true => rw [addIf, if_pos rfl, length_xor, same, Nat.min_self]

/-- Of two totals exactly one of which takes the string, the sum takes it. -/
theorem addIf_xor
    {left right bytes : Bytes}
    (same : left.length = right.length)
    (fits : bytes.length = right.length)
    (leftWants rightWants : Bool) :
    addIf (leftWants ^^ rightWants) (left.xor right) bytes =
      (addIf leftWants left bytes).xor (addIf rightWants right bytes) := by
  cases leftWants with
  | false =>
      cases rightWants with
      | false => rfl
      | true => exact xor_assoc left right bytes
  | true =>
      cases rightWants with
      | false =>
          change (left.xor right).xor bytes = (left.xor bytes).xor right
          rw [xor_assoc, xor_comm right, xor_assoc]
      | true =>
          change left.xor right = (left.xor bytes).xor (right.xor bytes)
          have full : (left.xor right).length = bytes.length := by
            rw [length_xor, same, Nat.min_self, fits]
          rw [xor_xor_xor_comm, xor_self, xor_zeros_of_length full]

/-! ## Selections -/

/-- A selection visits all windows in order and adds those whose bit is set. -/
theorem selected_eq_foldl (data : Bytes) (size count : Nat) (request : Bytes) :
    data.selected size count request =
      (List.range count).foldl
        (fun total index => addIf (request.bit index) total (data.window size index))
        (zeros size) := by
  rw [selected, sum, List.foldl_map, List.foldl_filter]
  rfl

/-- The total over windows that all have its length keeps its length. -/
theorem length_foldl_addIf
    (wanted : Nat → Bool)
    {windowAt : Nat → Bytes}
    {indices : List Nat}
    {total : Bytes}
    (fits : ∀ index ∈ indices, (windowAt index).length = total.length) :
    (indices.foldl
      (fun total index => addIf (wanted index) total (windowAt index)) total).length =
        total.length := by
  induction indices generalizing total with
  | nil => rfl
  | cons index indices inductionHypothesis =>
      have step :=
        length_addIf (fits index List.mem_cons_self) (wanted index)
      rw [List.foldl_cons, inductionHypothesis, step]
      intro later member
      rw [step, fits later (List.mem_cons_of_mem index member)]

theorem foldl_addIf_xor
    (leftWants rightWants : Nat → Bool)
    {windowAt : Nat → Bytes}
    {indices : List Nat}
    {left right : Bytes}
    (same : left.length = right.length)
    (fits : ∀ index ∈ indices, (windowAt index).length = right.length) :
    indices.foldl
        (fun total index => addIf (leftWants index ^^ rightWants index) total (windowAt index))
        (left.xor right) =
      (indices.foldl
          (fun total index => addIf (leftWants index) total (windowAt index)) left).xor
        (indices.foldl
          (fun total index => addIf (rightWants index) total (windowAt index)) right) := by
  induction indices generalizing left right with
  | nil => rfl
  | cons index indices inductionHypothesis =>
      have fitsFirst := fits index List.mem_cons_self
      have rightStep := length_addIf fitsFirst (rightWants index)
      have leftStep := length_addIf (fitsFirst.trans same.symm) (leftWants index)
      rw [List.foldl_cons, addIf_xor same fitsFirst, inductionHypothesis]
      · rfl
      · rw [leftStep, rightStep, same]
      · intro later member
        rw [rightStep, fits later (List.mem_cons_of_mem index member)]

section

variable {data : Bytes} {size count : Nat}

theorem length_selected
    (fills : data.length = count * size)
    (request : Bytes) :
    (data.selected size count request).length = size := by
  rw [selected_eq_foldl, length_foldl_addIf, length_zeros]
  intro index member
  rw [length_window fills (List.mem_range.mp member), length_zeros]

/-- What a sum of requests selects is the sum of what they select. -/
theorem selected_xor
    (fills : data.length = count * size)
    {left right : Bytes}
    (same : left.length = right.length) :
    data.selected size count (left.xor right) =
      (data.selected size count left).xor (data.selected size count right) := by
  rw [selected_eq_foldl, selected_eq_foldl, selected_eq_foldl, ← foldl_addIf_xor _ _ rfl]
  · rw [xor_self, length_zeros]
    simp only [bit_xor same]
  · intro index member
    rw [length_window fills (List.mem_range.mp member), length_zeros]

/-- Selecting is linear in the request. -/
theorem linear_selected
    (fills : data.length = count * size)
    (length : Nat) :
    Linear (data.selected size count) length size where
  length_image request _ := length_selected fills request
  image_xor _ _ leftSized rightSized := selected_xor fills (leftSized.trans rightSized.symm)

/-- A request with a single bit selects a single window. -/
theorem selected_of_single
    (fills : data.length = count * size)
    {request : Bytes}
    {target : Nat}
    (inside : target < count)
    (single : ∀ index < count, request.bit index = (index == target)) :
    data.selected size count request = data.window size target := by
  have onlyTarget : (List.range count).filter request.bit = [target] := by
    rw [List.filter_congr fun index member => single index (List.mem_range.mp member),
      List.filter_beq, List.nodup_range.count, if_pos (List.mem_range.mpr inside)]
    rfl
  rw [selected, onlyTarget, List.map_singleton, sum, List.foldl_cons, List.foldl_nil, xor_comm,
    xor_zeros_of_length (length_window fills inside)]

end

end Bytes
end ObliviousLog
