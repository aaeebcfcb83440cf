import Mathlib.Algebra.Order.Ring.Int
import Mathlib.Tactic.Ring

/-!
# Linear interpolation with rounded quotients

The value on the way from one level to another.  Truncation rounds towards the level
that the way starts from, and the floor downwards; in either case the value never
leaves the way, never turns back and arrives where it should.
-/

namespace TrueForce.Interpolation

def lerp (start stop : ℤ) (time span : ℕ) : ℤ := start + ((stop - start) * time).tdiv span

/-- On the way from `start` to `stop`, `later` is as far as `first` or further. -/
def Towards (start stop first later : ℤ) : Prop :=
  start ≤ first ∧ first ≤ later ∧ later ≤ stop ∨ stop ≤ later ∧ later ≤ first ∧ first ≤ start

variable {start stop : ℤ} {first later time span : ℕ}

@[simp]
theorem lerp_zero : lerp start stop 0 span = start := by
  simp only [lerp, Nat.cast_zero, Int.mul_zero, Int.zero_tdiv, Int.add_zero]

theorem lerp_span (wide : 0 < span) : lerp start stop span span = stop := by
  have nonzero : (span : ℤ) ≠ 0 := Int.natCast_ne_zero_iff_pos.mpr wide
  rw [lerp, Int.mul_tdiv_cancel _ nonzero]
  ring

theorem lerp_self : lerp start start time span = start := by
  simp only [lerp, Int.sub_self, Int.zero_mul, Int.zero_tdiv, Int.add_zero]

theorem lerp_neg : lerp (-start) (-stop) time span = -lerp start stop time span := by
  have turned : (-stop - -start) * (time : ℤ) = -((stop - start) * time) := by ring
  rw [lerp, turned, Int.neg_tdiv, lerp]
  ring

/-- The same way, with the difference taken the other way round. -/
theorem lerp_eq_sub : lerp start stop time span = start - ((start - stop) * time).tdiv span := by
  have turned : (stop - start) * (time : ℤ) = -((start - stop) * time) := by ring
  rw [lerp, turned, Int.neg_tdiv]
  ring

theorem lerp_mono (rising : start ≤ stop) (wide : 0 < span) (ordered : first ≤ later) :
    lerp start stop first span ≤ lerp start stop later span := by
  apply Int.add_le_add_left
  apply Int.tdiv_le_tdiv (Int.natCast_pos.mpr wide)
  apply Int.mul_le_mul_of_nonneg_left
  · exact_mod_cast ordered
  · exact Int.sub_nonneg_of_le rising

theorem lerp_towards (wide : 0 < span) (ordered : first ≤ later) (inside : later ≤ span) :
    Towards start stop (lerp start stop first span) (lerp start stop later span) := by
  have climbs {low high : ℤ} (rising : low ≤ high) :
      low ≤ lerp low high first span ∧
        lerp low high first span ≤ lerp low high later span ∧
          lerp low high later span ≤ high := by
    have begins := lerp_mono rising wide (Nat.zero_le first)
    have ends := lerp_mono rising wide inside
    rw [lerp_zero] at begins
    rw [lerp_span wide] at ends
    exact ⟨begins, lerp_mono rising wide ordered, ends⟩
  rcases Int.le_total start stop with rising | falling
  · left
    exact climbs rising
  · right
    have mirrored := climbs (Int.neg_le_neg falling)
    simp only [lerp_neg] at mirrored
    omega

theorem Towards.of_le {first later : ℤ} (way : Towards start stop first later) :
    min start stop ≤ later ∧ later ≤ max start stop := by
  rcases way with ⟨begins, further, ends⟩ | ⟨ends, further, begins⟩ <;> omega

theorem lerp_between (wide : 0 < span) (inside : time ≤ span) :
    min start stop ≤ lerp start stop time span ∧ lerp start stop time span ≤ max start stop :=
  (lerp_towards wide (Nat.zero_le time) inside).of_le

/-- Only the end of the way is its end. -/
theorem lerp_eq_stop_iff (wide : 0 < span) (inside : time ≤ span) :
    lerp start stop time span = stop ↔ start = stop ∨ time = span := by
  constructor
  · intro arrived
    by_contra underway
    have gap : 0 < (stop - start).natAbs := by omega
    have covered : ((stop - start) * time).tdiv span = stop - start := by
      rw [lerp] at arrived
      omega
    have size : (stop - start).natAbs * time / span = (stop - start).natAbs := by
      calc (stop - start).natAbs * time / span
          = (((stop - start) * time).tdiv span).natAbs := by
            rw [Int.natAbs_tdiv, Int.natAbs_mul, Int.natAbs_natCast, Int.natAbs_natCast]
            rfl
        _ = (stop - start).natAbs := by rw [covered]
    have short : (stop - start).natAbs * time < (stop - start).natAbs * span :=
      Nat.mul_lt_mul_of_pos_left (by omega) gap
    have less := (Nat.div_lt_iff_lt_mul wide).mpr short
    omega
  · rintro (rfl | rfl)
    · exact lerp_self
    · exact lerp_span wide

def lerpFloor (start stop : ℤ) (time span : ℕ) : ℤ := start + (stop - start) * time / span

@[simp]
theorem lerpFloor_zero : lerpFloor start stop 0 span = start := by
  simp only [lerpFloor, Nat.cast_zero, Int.mul_zero, Int.zero_ediv, Int.add_zero]

theorem lerpFloor_span (wide : 0 < span) : lerpFloor start stop span span = stop := by
  have nonzero : (span : ℤ) ≠ 0 := Int.natCast_ne_zero_iff_pos.mpr wide
  rw [lerpFloor, Int.mul_ediv_cancel _ nonzero]
  ring

theorem lerpFloor_mono (rising : start ≤ stop) (wide : 0 < span) (ordered : first ≤ later) :
    lerpFloor start stop first span ≤ lerpFloor start stop later span := by
  apply Int.add_le_add_left
  apply Int.ediv_le_ediv (Int.natCast_pos.mpr wide)
  apply Int.mul_le_mul_of_nonneg_left
  · exact_mod_cast ordered
  · exact Int.sub_nonneg_of_le rising

theorem lerpFloor_anti (falling : stop ≤ start) (wide : 0 < span) (ordered : first ≤ later) :
    lerpFloor start stop later span ≤ lerpFloor start stop first span := by
  apply Int.add_le_add_left
  apply Int.ediv_le_ediv (Int.natCast_pos.mpr wide)
  apply Int.mul_le_mul_of_nonpos_left
  · exact Int.sub_nonpos_of_le falling
  · exact_mod_cast ordered

theorem lerpFloor_towards (wide : 0 < span) (ordered : first ≤ later) (inside : later ≤ span) :
    Towards start stop (lerpFloor start stop first span) (lerpFloor start stop later span) := by
  rcases Int.le_total start stop with rising | falling
  · left
    have begins := lerpFloor_mono rising wide (Nat.zero_le first)
    have ends := lerpFloor_mono rising wide inside
    rw [lerpFloor_zero] at begins
    rw [lerpFloor_span wide] at ends
    exact ⟨begins, lerpFloor_mono rising wide ordered, ends⟩
  · right
    have begins := lerpFloor_anti falling wide (Nat.zero_le first)
    have ends := lerpFloor_anti falling wide inside
    rw [lerpFloor_zero] at begins
    rw [lerpFloor_span wide] at ends
    exact ⟨ends, lerpFloor_anti falling wide ordered, begins⟩

end TrueForce.Interpolation
