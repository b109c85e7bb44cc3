import ObliviousLog.Numeric.Binary64
import Mathlib.Algebra.Group.Nat.Defs
import Mathlib.Order.MinMax

/-!
# Counts keep their order as binary64 numbers

A count too large for a significand is rounded, and two counts may become one number, but they never
change places.  Rounding keeps the order of what has one exponent, and a larger exponent starts
where the rounded significands of the smaller one end.
-/

namespace ObliviousLog
namespace Binary64

/-! ## Rounding to a whole number -/

/-- A quotient is rounded down or up to the next whole number. -/
theorem roundHalfEven_bounds (numerator denominator : Nat) :
    numerator / denominator ≤ roundHalfEven numerator denominator ∧
      roundHalfEven numerator denominator ≤ numerator / denominator + 1 := by
  unfold roundHalfEven
  dsimp only
  split <;> omega

/-- Rounding quotients by one denominator keeps the order of the numerators. -/
theorem roundHalfEven_mono
    {less more : Nat}
    (ordered : less ≤ more)
    (denominator : Nat) :
    roundHalfEven less denominator ≤ roundHalfEven more denominator := by
  rcases Nat.lt_or_eq_of_le (Nat.div_le_div_right (c := denominator) ordered) with
    below | sameQuotient
  · calc
      roundHalfEven less denominator ≤ less / denominator + 1 := (roundHalfEven_bounds _ _).2
      _ ≤ more / denominator := below
      _ ≤ roundHalfEven more denominator := (roundHalfEven_bounds _ _).1
  · -- Of two numbers with one quotient, the larger one has the larger remainder.
    have remainders : less % denominator ≤ more % denominator := by
      have lessParts := Nat.div_add_mod less denominator
      have moreParts := Nat.div_add_mod more denominator
      rw [sameQuotient] at lessParts
      omega
    unfold roundHalfEven
    rw [sameQuotient]
    dsimp only
    split <;> split <;> omega

/-! ## Rounding to a magnitude -/

/-- The exponent of a magnitude of so many whole units, over that of the least significand. -/
def exponentOf (whole : Nat) : Nat :=
  whole.log2 - 52

theorem roundUnits_eq (numerator denominator : Nat) :
    roundUnits numerator denominator =
      min (exponentOf (numerator / denominator) * 2 ^ 52 +
          roundHalfEven numerator (denominator * 2 ^ exponentOf (numerator / denominator)))
        infiniteMagnitude := by
  rw [roundUnits, exponentOf, Nat.shiftLeft_eq, Nat.shiftLeft_eq]

theorem exponentOf_mono
    {less more : Nat}
    (ordered : less ≤ more) :
    exponentOf less ≤ exponentOf more := by
  refine Nat.sub_le_sub_right ?_ 52
  rcases Nat.eq_zero_or_pos less with rfl | positive
  · rw [Nat.log2_zero]
    exact Nat.zero_le _
  · have highBit := Nat.log2_self_le (Nat.ne_of_gt positive)
    exact (Nat.le_log2 (by omega)).mpr (Nat.le_trans highBit ordered)

/-- Scaled down by its exponent, a number is below `2 ^ 53`. -/
theorem div_two_pow_exponentOf_lt (whole : Nat) :
    whole / 2 ^ exponentOf whole < 2 ^ 53 := by
  rw [Nat.div_lt_iff_lt_mul (Nat.two_pow_pos _), ← Nat.pow_add]
  refine Nat.lt_of_lt_of_le Nat.lt_log2_self (Nat.pow_le_pow_right Nat.two_pos ?_)
  unfold exponentOf
  omega

/-- Scaled down by its exponent, a number is at least `2 ^ 52`, unless its exponent is the least. -/
theorem le_div_two_pow_exponentOf
    {whole : Nat}
    (positive : 0 < exponentOf whole) :
    2 ^ 52 ≤ whole / 2 ^ exponentOf whole := by
  have exponent : 52 + exponentOf whole = whole.log2 := by
    unfold exponentOf at positive ⊢
    omega
  have nonzero : whole ≠ 0 := by
    rintro rfl
    exact absurd positive (by decide)
  rw [Nat.le_div_iff_mul_le (Nat.two_pow_pos _), ← Nat.pow_add, exponent]
  exact Nat.log2_self_le nonzero

/-- The magnitudes nearest to two quotients with one denominator are in the order of the numerators.
-/
theorem roundUnits_mono
    {less more : Nat}
    (ordered : less ≤ more)
    (denominator : Nat) :
    roundUnits less denominator ≤ roundUnits more denominator := by
  rw [roundUnits_eq, roundUnits_eq]
  refine min_le_min_right _ ?_
  have wholes : less / denominator ≤ more / denominator := Nat.div_le_div_right ordered
  rcases Nat.lt_or_eq_of_le (exponentOf_mono wholes) with smaller | same
  · have top := div_two_pow_exponentOf_lt (less / denominator)
    have bottom := le_div_two_pow_exponentOf (Nat.zero_lt_of_lt smaller)
    rw [Nat.div_div_eq_div_mul] at top bottom
    have above := (roundHalfEven_bounds less
      (denominator * 2 ^ exponentOf (less / denominator))).2
    have below := (roundHalfEven_bounds more
      (denominator * 2 ^ exponentOf (more / denominator))).1
    have step := Nat.mul_le_mul_right (2 ^ 52) smaller
    rw [Nat.succ_mul] at step
    omega
  · rw [same]
    exact Nat.add_le_add_left (roundHalfEven_mono ordered _) _

/-! ## Counts as numbers -/

/-- A magnitude that is at most infinite is kept as the pattern of a number that is not negative. -/
theorem toNat_bits_ofMagnitude
    {magnitude : Nat}
    (bounded : magnitude ≤ infiniteMagnitude) :
    (ofMagnitude false magnitude).bits.toNat = magnitude := by
  have small : infiniteMagnitude < UInt64.size := by decide
  rw [ofMagnitude, if_neg Bool.false_ne_true, UInt64.toNat_ofNat_of_lt' (by omega)]

section

variable {magnitude : Nat} (bounded : magnitude ≤ infiniteMagnitude)

include bounded

theorem isNegative_ofMagnitude : (ofMagnitude false magnitude).isNegative = false := by
  have small : infiniteMagnitude < 1 <<< 63 := by decide
  rw [isNegative, toNat_bits_ofMagnitude bounded, decide_eq_false_iff_not]
  omega

theorem magnitude_ofMagnitude : (ofMagnitude false magnitude).magnitude = magnitude := by
  have small : infiniteMagnitude < 1 <<< 63 := by decide
  rw [Binary64.magnitude, toNat_bits_ofMagnitude bounded]
  exact Nat.mod_eq_of_lt (Nat.lt_of_le_of_lt bounded small)

theorem isNaN_ofMagnitude : (ofMagnitude false magnitude).isNaN = false := by
  rw [isNaN, magnitude_ofMagnitude bounded, decide_eq_false_iff_not]
  omega

theorem rank_ofMagnitude : (ofMagnitude false magnitude).rank = magnitude := by
  rw [rank, isNegative_ofMagnitude bounded, magnitude_ofMagnitude bounded,
    if_neg Bool.false_ne_true]

end

theorem roundUnits_le (numerator denominator : Nat) :
    roundUnits numerator denominator ≤ infiniteMagnitude :=
  Nat.min_le_right _ _

theorem isNaN_ofNat (value : Nat) : (ofNat value).isNaN = false :=
  isNaN_ofMagnitude (roundUnits_le _ _)

/-- The rank of a count does not fall when the count grows. -/
theorem rank_ofNat_mono
    {less more : Nat}
    (ordered : less ≤ more) :
    (ofNat less).rank ≤ (ofNat more).rank := by
  have units : less <<< 1074 ≤ more <<< 1074 := by
    rw [Nat.shiftLeft_eq, Nat.shiftLeft_eq]
    exact Nat.mul_le_mul_right _ ordered
  calc
    (ofNat less).rank = (roundUnits (less <<< 1074) 1 : Int) :=
      rank_ofMagnitude (roundUnits_le _ _)
    _ ≤ (roundUnits (more <<< 1074) 1 : Int) :=
      Int.ofNat_le.mpr (roundUnits_mono units 1)
    _ = (ofNat more).rank := (rank_ofMagnitude (roundUnits_le _ _)).symm

/-- What is below a count is below every larger one. -/
theorem lt_ofNat_mono
    {bound : Binary64}
    {less more : Nat}
    (ordered : less ≤ more)
    (below : bound.lt (ofNat less) = true) :
    bound.lt (ofNat more) = true := by
  simp only [lt, isNaN_ofNat, Bool.and_eq_true, decide_eq_true_eq] at below ⊢
  exact ⟨below.1, Int.lt_of_lt_of_le below.2 (rank_ofNat_mono ordered)⟩

end Binary64
end ObliviousLog
