import TrueForce.Foundation.Clamp
import Mathlib.Logic.Function.Iterate
import Mathlib.Tactic.Linarith
import Mathlib.Tactic.Ring

/-!
# Pursuit by a truncated share

A follower closes a share `1 / span` of its gap in each step, in whole numbers.  The
truncated share of a small gap is nothing, so a gap below `span` is closed at once; that
is what makes the pursuit arrive.
-/

namespace TrueForce.Pursuit

open TrueForce.CInt

/-- The gap that is left after one step. -/
def narrow (span gap : ℤ) : ℤ := if -span < gap ∧ gap < span then 0 else gap - gap.tdiv span

variable {span gap bound drift : ℤ} {first later : ℕ}

theorem narrow_of_small (small : |gap| < span) : narrow span gap = 0 :=
  if_pos (abs_lt.mp small)

@[simp]
theorem narrow_zero (positive : 0 < span) : narrow span 0 = 0 := narrow_of_small positive

theorem narrow_neg : narrow span (-gap) = -narrow span gap := by
  simp only [narrow, Int.neg_tdiv]
  split
  · rw [if_pos (by omega), Int.neg_zero]
  · rw [if_neg (by omega)]
    omega

theorem narrow_nonneg (positive : 0 < span) (ahead : 0 ≤ gap) :
    0 ≤ narrow span gap ∧ narrow span gap ≤ gap ∧ (0 < gap → narrow span gap < gap) := by
  simp only [narrow]
  split
  · omega
  · rename_i wide
    have share := Int.tdiv_eq_ediv_of_nonneg (b := span) ahead
    have least : 1 ≤ gap / span := (Int.le_ediv_iff_mul_le positive).mpr (by omega)
    have greatest := Int.ediv_le_self span ahead
    omega

theorem abs_narrow_le (positive : 0 < span) : |narrow span gap| ≤ |gap| := by
  rcases Int.le_total 0 gap with ahead | behind
  · have step := narrow_nonneg positive ahead
    rw [abs_of_nonneg ahead, abs_of_nonneg step.1]
    exact step.2.1
  · have step := narrow_nonneg positive (Int.neg_nonneg_of_nonpos behind)
    rw [narrow_neg] at step
    rw [abs_of_nonpos behind, abs_of_nonpos (by omega)]
    exact step.2.1

theorem abs_narrow_lt (positive : 0 < span) (apart : gap ≠ 0) : |narrow span gap| < |gap| := by
  rcases Int.lt_or_gt_of_ne apart with behind | ahead
  · have step := narrow_nonneg positive (Int.le_of_lt (Int.neg_pos_of_neg behind))
    rw [narrow_neg] at step
    rw [abs_of_neg behind, abs_of_nonpos (by omega)]
    exact step.2.2 (by omega)
  · have step := narrow_nonneg positive (Int.le_of_lt ahead)
    rw [abs_of_pos ahead, abs_of_nonneg step.1]
    exact step.2.2 ahead

theorem abs_iterate_narrow_le (positive : 0 < span) (ordered : first ≤ later) :
    |(narrow span)^[later] gap| ≤ |(narrow span)^[first] gap| := by
  induction later, ordered using Nat.le_induction with
  | base => exact le_refl _
  | succ later _ ih =>
      rw [Function.iterate_succ_apply']
      exact (abs_narrow_le positive).trans ih

theorem iterate_narrow_nonneg (positive : 0 < span) (ahead : 0 ≤ gap) (steps : ℕ) :
    0 ≤ (narrow span)^[steps] gap := by
  induction steps with
  | zero => exact ahead
  | succ steps ih =>
      rw [Function.iterate_succ_apply']
      exact (narrow_nonneg positive ih).1

theorem iterate_narrow_neg (steps : ℕ) :
    (narrow span)^[steps] (-gap) = -(narrow span)^[steps] gap := by
  induction steps with
  | zero => rfl
  | succ steps ih => rw [Function.iterate_succ_apply', Function.iterate_succ_apply', ih, narrow_neg]

theorem iterate_narrow_between (positive : 0 < span) (steps : ℕ) :
    min 0 gap ≤ (narrow span)^[steps] gap ∧ (narrow span)^[steps] gap ≤ max 0 gap := by
  have size := @abs_iterate_narrow_le span gap 0 steps positive (Nat.zero_le steps)
  rw [Function.iterate_zero, id, abs_le] at size
  rcases Int.le_total 0 gap with ahead | behind
  · have side := iterate_narrow_nonneg positive ahead steps
    rw [abs_of_nonneg ahead] at size
    omega
  · have side := iterate_narrow_nonneg positive (Int.neg_nonneg_of_nonpos behind) steps
    rw [iterate_narrow_neg] at side
    rw [abs_of_nonpos behind] at size
    omega

/-- The follower arrives and stays. -/
theorem iterate_narrow_eq_zero (positive : 0 < span) (enough : gap.natAbs ≤ later) :
    (narrow span)^[later] gap = 0 := by
  induction later generalizing gap with
  | zero => exact Int.natAbs_eq_zero.mp (Nat.le_zero.mp enough)
  | succ later ih =>
      rw [Function.iterate_succ_apply]
      apply ih
      by_cases arrived : gap = 0
      · rw [arrived, narrow_zero positive]
        exact Nat.zero_le later
      · have closer := abs_narrow_lt positive arrived
        rw [Int.abs_eq_natAbs, Int.abs_eq_natAbs] at closer
        omega

/-- What is left behind a target whose steps are no longer than `bound`: the follower keeps up with
`span - 1` of the steps, and with what the truncation leaves. -/
theorem abs_narrow_le_of_drift (wide : 1 < span) (bounded : 0 ≤ bound)
    (near : |gap| ≤ span * bound + (span - 2)) :
    |narrow span gap| ≤ (span - 1) * bound + (span - 2) := by
  have ahead {gap : ℤ} (side : 0 ≤ gap) (near : gap ≤ span * bound + (span - 2)) :
      narrow span gap ≤ (span - 1) * bound + (span - 2) := by
    have room : 0 ≤ (span - 1) * bound := mul_nonneg (by omega) bounded
    simp only [narrow]
    split
    · omega
    · rw [Int.tdiv_eq_ediv_of_nonneg side]
      have whole := Int.mul_ediv_add_emod gap span
      have rest := Int.emod_lt_of_pos gap (show 0 < span by omega)
      rcases Int.lt_or_le (gap / span) bound with few | many
      · have share : (span - 1) * (gap / span) ≤ (span - 1) * (bound - 1) :=
          Int.mul_le_mul_of_nonneg_left (by omega) (by omega)
        nlinarith
      · nlinarith
  rw [abs_le] at near ⊢
  rcases Int.le_total 0 gap with side | side
  · have step := narrow_nonneg (show 0 < span by omega) side
    have close := ahead side near.2
    omega
  · have turned : 0 ≤ -gap := by omega
    have step := narrow_nonneg (show 0 < span by omega) turned
    have close := ahead turned (by omega)
    rw [narrow_neg] at step close
    omega

end TrueForce.Pursuit
