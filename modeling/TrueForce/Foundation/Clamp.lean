import TrueForce.Foundation.CInt
import Mathlib.Algebra.Order.Group.Unbundled.Int
import Mathlib.Algebra.Order.Group.Abs
import Mathlib.Algebra.Order.Ring.Int

/-!
# Saturation

What a clamp keeps: the range, the order, the sign and, with symmetric limits, the smaller
of two sizes.
-/

namespace TrueForce.CInt

variable {value other bound low high : ℤ}

theorem clamp_between (ordered : low ≤ high) : low ≤ clamp value low high ∧
    clamp value low high ≤ high := by
  simp only [clamp]
  omega

theorem clamp_of_between (above : low ≤ value) (below : value ≤ high) :
    clamp value low high = value := by
  simp only [clamp]
  omega

theorem clamp_mono (ordered : value ≤ other) : clamp value low high ≤ clamp other low high := by
  simp only [clamp]
  omega

theorem abs_clamp (bounded : 0 ≤ bound) : |clamp value (-bound) bound| = min |value| bound := by
  simp only [clamp]
  rcases abs_cases value with ⟨size, _⟩ | ⟨size, _⟩ <;>
    rcases abs_cases (min (max value (-bound)) bound) with ⟨clipped, _⟩ | ⟨clipped, _⟩ <;> omega

theorem abs_clamp_le (bounded : 0 ≤ bound) : |clamp value (-bound) bound| ≤ bound := by
  rw [abs_clamp bounded]
  exact Int.min_le_right _ _

theorem abs_clamp_add_clamp_le (bounded : 0 ≤ bound) :
    |clamp value (-bound) bound + clamp other (-bound) bound| ≤ |value + other| := by
  have least := neg_abs_le (value + other)
  have greatest := le_abs_self (value + other)
  rw [abs_le]
  simp only [clamp]
  omega

/-- A share of a number in whole parts has a size of at most `bound` if the number falls short of
the next part. -/
theorem abs_tdiv_le_iff {parts : ℤ} (positive : 0 < parts) :
    |value.tdiv parts| ≤ bound ↔ |value| < parts * (bound + 1) := by
  rw [Int.mul_comm, ← Int.ediv_lt_iff_lt_mul positive, Int.lt_add_one_iff]
  rcases Int.le_total 0 value with nonneg | nonpos
  · rw [Int.tdiv_eq_ediv_of_nonneg nonneg, abs_of_nonneg nonneg,
      abs_of_nonneg (Int.ediv_nonneg nonneg (Int.le_of_lt positive))]
  · have nonneg : 0 ≤ -value := by omega
    rw [← Int.neg_neg value, Int.neg_tdiv, abs_neg, abs_neg, Int.tdiv_eq_ediv_of_nonneg nonneg,
      abs_of_nonneg nonneg, abs_of_nonneg (Int.ediv_nonneg nonneg (Int.le_of_lt positive))]

theorem abs_tdiv_le_abs_tdiv {parts : ℤ} (positive : 0 < parts) (smaller : |value| ≤ |other|) :
    |value.tdiv parts| ≤ |other.tdiv parts| :=
  (abs_tdiv_le_iff positive).mpr
    (Int.lt_of_le_of_lt smaller ((abs_tdiv_le_iff positive).mp (le_refl _)))

/-- A share of a positive number is clamped to the same only past the limit. -/
theorem clamp_tdiv_eq_iff_of_pos {share parts : ℤ} (lowest : low < 0) (highest : 0 < high)
    (nonneg : 0 ≤ share) (short : share < parts) (positive : 0 < value) :
    clamp ((value * share).tdiv parts) low high = clamp value low high ↔
      high * parts ≤ value * share := by
  have divisor : 0 < parts := Int.lt_of_le_of_lt nonneg short
  have product : 0 ≤ value * share := Int.mul_nonneg (Int.le_of_lt positive) nonneg
  have less : value * share / parts < value :=
    Int.ediv_lt_of_lt_mul divisor (Int.mul_lt_mul_of_pos_left short positive)
  have quotient : 0 ≤ value * share / parts := Int.ediv_nonneg product (Int.le_of_lt divisor)
  rw [Int.tdiv_eq_ediv_of_nonneg product, ← Int.le_ediv_iff_mul_le divisor]
  simp only [clamp]
  omega

/-- A share of a number is clamped to the same only at zero and past the limits. -/
theorem clamp_tdiv_eq_iff {share parts : ℤ} (lowest : low < 0) (highest : 0 < high)
    (nonneg : 0 ≤ share) (short : share < parts) :
    clamp ((value * share).tdiv parts) low high = clamp value low high ↔
      value = 0 ∨ high * parts ≤ value * share ∨ value * share ≤ low * parts := by
  have divisor : 0 < parts := Int.lt_of_le_of_lt nonneg short
  have below : low * parts < 0 := Int.mul_neg_of_neg_of_pos lowest divisor
  have above : 0 < high * parts := Int.mul_pos highest divisor
  rcases Int.lt_trichotomy value 0 with negative | rfl | positive
  · have product : value * share ≤ 0 := Int.mul_nonpos_of_nonpos_of_nonneg
      (Int.le_of_lt negative) nonneg
    have mirrored := @clamp_tdiv_eq_iff_of_pos (-value) (-high) (-low) share parts (by omega)
      (by omega) nonneg short (by omega)
    rw [Int.neg_mul, Int.neg_tdiv, Int.neg_mul] at mirrored
    simp only [clamp] at mirrored ⊢
    omega
  · rw [Int.zero_mul, Int.zero_tdiv]
    simp
  · have product : 0 ≤ value * share := Int.mul_nonneg (Int.le_of_lt positive) nonneg
    rw [clamp_tdiv_eq_iff_of_pos lowest highest nonneg short positive]
    omega

end TrueForce.CInt
