import TrueForce.Ffb.EffectMath
import TrueForce.Foundation.CheckedInt
import TrueForce.Foundation.Clamp
import Mathlib.Algebra.Order.Group.Unbundled.Int
import Mathlib.Algebra.Order.Ring.Abs
import Mathlib.Algebra.Order.Ring.Int
import Mathlib.Tactic.Linarith

/-!
# The law of the conditions

`hidpp_dd_condition_force` in the arithmetic of its types, where nothing overflows, and
the shape of its force.  On either side of the deadband the force is one function of the
coefficient, the saturation and the distance to the deadband; the shift rounds it down on
both sides, which is all that keeps the two from mirroring each other.
-/

namespace TrueForce.Ffb

open TrueForce.CInt TrueForce.CInt.CType

namespace Checked

/-- A negated force that an `s32` product and an `s32` shift give, clipped to the saturation. -/
def clipped (coeff : Int16) (saturation : UInt16) (delta : ℤ) : Option ℤ := do
  let product ← fit .s32 (coeff.toInt * delta)
  let shifted ← fit .s32 (product / 0x8000)
  let force ← fit .s32 (-shifted)
  let saturation ← fit .s32 saturation.toNat
  let least ← fit .s32 (-saturation)
  if saturation < force then some saturation
  else if force < least then some least
  else some force

/-- `hidpp_dd_condition_force` -/
def conditionForce (c : Condition) (metric : ℤ) : Option ℤ := do
  let halfDb ← fit .s32 (c.deadband.toNat / 2 : ℕ)
  let rightEdge ← fit .s32 (c.center.toInt + halfDb)
  if rightEdge < metric then
    let distance ← fit .s32 (metric - c.center.toInt)
    let delta ← fit .s32 (distance - halfDb)
    clipped c.rightCoeff c.rightSaturation delta
  else
    let leftEdge ← fit .s32 (c.center.toInt - halfDb)
    if metric < leftEdge then
      let distance ← fit .s32 (metric - c.center.toInt)
      let delta ← fit .s32 (distance + halfDb)
      clipped c.leftCoeff c.leftSaturation delta
    else some 0

end Checked

/-- The force of one side at a distance from the deadband. -/
def sideForce (coeff : Int16) (saturation : UInt16) (delta : ℤ) : ℤ :=
  clamp (-(coeff.toInt * delta / 0x8000)) (-(saturation.toNat : ℤ)) saturation.toNat

variable {coeff : Int16} {saturation : UInt16} {delta further : ℤ}

theorem product_small (range : -0xFFFF ≤ delta ∧ delta ≤ 0xFFFF) :
    -0x7FFF8000 ≤ coeff.toInt * delta ∧ coeff.toInt * delta ≤ 0x7FFF8000 := by
  have least := coeff.le_toInt
  have greatest := coeff.toInt_lt
  have size : |coeff.toInt * delta| ≤ 0x8000 * 0xFFFF := by
    rw [abs_mul]
    apply mul_le_mul
    · rw [abs_le]
      omega
    · rw [abs_le]
      exact range
    · exact abs_nonneg delta
    · decide
  rw [abs_le] at size
  omega

theorem Checked.clipped_eq (range : -0xFFFF ≤ delta ∧ delta ≤ 0xFFFF) :
    Checked.clipped coeff saturation delta = some (sideForce coeff saturation delta) := by
  have product := @product_small coeff delta range
  have cap := saturation.toNat_lt
  simp only [Checked.clipped, sideForce, clamp]
  rw [fit_bind (holds_s32 (by omega)), fit_bind (holds_s32 (by omega)),
    fit_bind (holds_s32 (by omega)), fit_bind (holds_s32 (by omega)),
    fit_bind (holds_s32 (by omega))]
  split
  · congr 1
    omega
  · split <;> congr 1 <;> omega

theorem sideForce_zero : sideForce coeff saturation 0 = 0 := by
  simp only [sideForce, Int.mul_zero, Int.zero_ediv, Int.neg_zero]
  exact clamp_of_between (by omega) (by omega)

theorem abs_sideForce_le : |sideForce coeff saturation delta| ≤ saturation.toNat :=
  abs_clamp_le (Int.natCast_nonneg _)

theorem sideForce_antitone (restoring : 0 ≤ coeff.toInt) (ordered : delta ≤ further) :
    sideForce coeff saturation further ≤ sideForce coeff saturation delta := by
  have product := Int.mul_le_mul_of_nonneg_left ordered restoring
  apply clamp_mono
  omega

/-- The floors of a number and of its negative differ by at most one in size. -/
theorem abs_sideForce_neg_add_le :
    |sideForce coeff saturation (-delta) + sideForce coeff saturation delta| ≤ 1 := by
  apply (abs_clamp_add_clamp_le (Int.natCast_nonneg _)).trans
  rw [Int.mul_neg, abs_le]
  omega

namespace Condition

def halfDb (c : Condition) : ℤ := (c.deadband.toNat / 2 : ℕ)

/-- The saturation of the side that the metric is on. -/
def saturationAt (c : Condition) (metric : ℤ) : ℤ :=
  if c.center.toInt < metric then c.rightSaturation.toNat else c.leftSaturation.toNat

structure Mirrors (c mirrored : Condition) : Prop where
  center : mirrored.center.toInt = -c.center.toInt
  rightCoeff : mirrored.rightCoeff = c.leftCoeff
  leftCoeff : mirrored.leftCoeff = c.rightCoeff
  rightSaturation : mirrored.rightSaturation = c.leftSaturation
  leftSaturation : mirrored.leftSaturation = c.rightSaturation
  deadband : mirrored.deadband = c.deadband

end Condition

variable {c mirrored : Condition} {metric later : ℤ}

theorem conditionForce_right (outside : c.center.toInt + c.halfDb < metric) :
    conditionForce c metric =
      sideForce c.rightCoeff c.rightSaturation (metric - c.center.toInt - c.halfDb) :=
  if_pos outside

theorem conditionForce_left (outside : metric < c.center.toInt - c.halfDb) :
    conditionForce c metric =
      sideForce c.leftCoeff c.leftSaturation (metric - c.center.toInt + c.halfDb) := by
  have nonneg : 0 ≤ c.halfDb := Int.natCast_nonneg _
  exact (if_neg (fun right => by simp only [Condition.halfDb] at *; omega)).trans (if_pos outside)

theorem conditionForce_inside (left : c.center.toInt - c.halfDb ≤ metric)
    (right : metric ≤ c.center.toInt + c.halfDb) : conditionForce c metric = 0 :=
  (if_neg (Int.not_lt.mpr right)).trans (if_neg (Int.not_lt.mpr left))

theorem Checked.conditionForce_eq (range : -0x8000 ≤ metric ∧ metric ≤ 0x8000)
    (reach : |metric - c.center.toInt| ≤ 0xFFFF) :
    Checked.conditionForce c metric = some (Ffb.conditionForce c metric) := by
  have least := c.center.le_toInt
  have greatest := c.center.toInt_lt
  have band := c.deadband.toNat_lt
  rw [abs_le] at reach
  simp only [Checked.conditionForce, Ffb.conditionForce]
  rw [fit_bind (holds_s32 (by omega)), fit_bind (holds_s32 (by omega))]
  split
  · rw [fit_bind (holds_s32 (by omega)), fit_bind (holds_s32 (by omega))]
    exact Checked.clipped_eq (by omega)
  · rw [fit_bind (holds_s32 (by omega))]
    split
    · rw [fit_bind (holds_s32 (by omega)), fit_bind (holds_s32 (by omega))]
      exact Checked.clipped_eq (by omega)
    · rfl

theorem abs_conditionForce_le : |conditionForce c metric| ≤ c.saturationAt metric := by
  have nonneg : 0 ≤ c.halfDb := Int.natCast_nonneg _
  by_cases right : c.center.toInt + c.halfDb < metric
  · have side : c.center.toInt < metric := by omega
    rw [conditionForce_right right, Condition.saturationAt, if_pos side]
    exact abs_sideForce_le
  · by_cases left : metric < c.center.toInt - c.halfDb
    · have side : ¬c.center.toInt < metric := by omega
      rw [conditionForce_left left, Condition.saturationAt, if_neg side]
      exact abs_sideForce_le
    · rw [conditionForce_inside (by omega) (by omega), abs_zero, Condition.saturationAt]
      split <;> exact Int.natCast_nonneg _

theorem conditionForce_right_nonpos (restoring : 0 ≤ c.rightCoeff.toInt)
    (side : c.center.toInt - c.halfDb ≤ metric) : conditionForce c metric ≤ 0 := by
  by_cases right : c.center.toInt + c.halfDb < metric
  · rw [conditionForce_right right, ← @sideForce_zero c.rightCoeff]
    exact sideForce_antitone restoring (by omega)
  · rw [conditionForce_inside side (by omega)]

theorem conditionForce_left_nonneg (restoring : 0 ≤ c.leftCoeff.toInt)
    (side : metric ≤ c.center.toInt + c.halfDb) : 0 ≤ conditionForce c metric := by
  by_cases left : metric < c.center.toInt - c.halfDb
  · rw [conditionForce_left left, ← @sideForce_zero c.leftCoeff]
    exact sideForce_antitone restoring (by omega)
  · rw [conditionForce_inside (by omega) side]

theorem conditionForce_antitone (right : 0 ≤ c.rightCoeff.toInt) (left : 0 ≤ c.leftCoeff.toInt)
    (ordered : metric ≤ later) : conditionForce c later ≤ conditionForce c metric := by
  by_cases beyond : c.center.toInt + c.halfDb < metric
  · rw [conditionForce_right beyond, conditionForce_right (Int.lt_of_lt_of_le beyond ordered)]
    exact sideForce_antitone right (by omega)
  · by_cases before : later < c.center.toInt - c.halfDb
    · rw [conditionForce_left before, conditionForce_left (Int.lt_of_le_of_lt ordered before)]
      exact sideForce_antitone left (by omega)
    · exact (conditionForce_right_nonpos right (by omega)).trans
        (conditionForce_left_nonneg left (by omega))

theorem conditionForce_restoring (right : 0 ≤ c.rightCoeff.toInt) (left : 0 ≤ c.leftCoeff.toInt) :
    (metric - c.center.toInt) * conditionForce c metric ≤ 0 := by
  have nonneg : 0 ≤ c.halfDb := Int.natCast_nonneg _
  rcases Int.le_total c.center.toInt metric with side | side
  · exact mul_nonpos_of_nonneg_of_nonpos (by omega)
      (conditionForce_right_nonpos right (by omega))
  · exact mul_nonpos_of_nonpos_of_nonneg (by omega) (conditionForce_left_nonneg left (by omega))

theorem Condition.Mirrors.halfDb (mirrors : c.Mirrors mirrored) : mirrored.halfDb = c.halfDb := by
  rw [Condition.halfDb, mirrors.deadband, Condition.halfDb]

theorem abs_conditionForce_mirror_le (mirrors : c.Mirrors mirrored) :
    |conditionForce mirrored (-metric) + conditionForce c metric| ≤ 1 := by
  have nonneg : 0 ≤ c.halfDb := Int.natCast_nonneg _
  have center := mirrors.center
  have halfDb := mirrors.halfDb
  by_cases right : c.center.toInt + c.halfDb < metric
  · have distance : -metric - mirrored.center.toInt + mirrored.halfDb =
        -(metric - c.center.toInt - c.halfDb) := by omega
    rw [conditionForce_right right, conditionForce_left (by omega), distance,
      mirrors.leftCoeff, mirrors.leftSaturation]
    exact abs_sideForce_neg_add_le
  · by_cases left : metric < c.center.toInt - c.halfDb
    · have distance : -metric - mirrored.center.toInt - mirrored.halfDb =
          -(metric - c.center.toInt + c.halfDb) := by omega
      rw [conditionForce_left left, conditionForce_right (by omega), distance,
        mirrors.rightCoeff, mirrors.rightSaturation]
      exact abs_sideForce_neg_add_le
    · have inside : conditionForce mirrored (-metric) = 0 :=
        conditionForce_inside (by omega) (by omega)
      rw [inside, conditionForce_inside (by omega) (by omega)]
      decide

/-- A condition's force never overflows, is nothing in the deadband and within the saturation of
its side outside of it, falls with the metric and leads to the centre where the coefficients are
not negative, and mirrors to its negative up to one count. -/
theorem condition_law (c : Condition) (metric : Int16) :
    Checked.conditionForce c metric.toInt = some (conditionForce c metric.toInt) ∧
      (c.center.toInt - c.halfDb ≤ metric.toInt → metric.toInt ≤ c.center.toInt + c.halfDb →
        conditionForce c metric.toInt = 0) ∧
      |conditionForce c metric.toInt| ≤ c.saturationAt metric.toInt ∧
      (0 ≤ c.rightCoeff.toInt → 0 ≤ c.leftCoeff.toInt →
        (∀ later : Int16, metric.toInt ≤ later.toInt →
          conditionForce c later.toInt ≤ conditionForce c metric.toInt) ∧
        (metric.toInt - c.center.toInt) * conditionForce c metric.toInt ≤ 0) ∧
      ∀ mirrored, c.Mirrors mirrored →
        Checked.conditionForce mirrored (-metric.toInt) =
          some (conditionForce mirrored (-metric.toInt)) ∧
        |conditionForce mirrored (-metric.toInt) + conditionForce c metric.toInt| ≤ 1 := by
  have least := metric.le_toInt
  have greatest := metric.toInt_lt
  have first := c.center.le_toInt
  have last := c.center.toInt_lt
  refine ⟨?_, conditionForce_inside, abs_conditionForce_le, ?_, ?_⟩
  · apply Checked.conditionForce_eq
    · omega
    · rw [abs_le]
      omega
  · intro right left
    refine ⟨?_, conditionForce_restoring right left⟩
    intro later ordered
    exact conditionForce_antitone right left ordered
  · intro mirrored mirrors
    refine ⟨?_, abs_conditionForce_mirror_le mirrors⟩
    apply Checked.conditionForce_eq
    · omega
    · rw [mirrors.center, abs_le]
      omega

end TrueForce.Ffb
