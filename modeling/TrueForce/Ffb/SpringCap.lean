import TrueForce.Ffb.ConditionLaw
import TrueForce.Ffb.Engine

/-!
# The cap of a spring

The restoring force of a spring is clipped to the saturation of the side that the wheel is
on.  With a synthetic damping the sum is clipped once more, to the larger of the two
saturations, so on the gentler side the damping gets past the cap.
-/

namespace TrueForce.Ffb

open TrueForce.CInt

namespace Condition

/-- The saturation of the side of the centre; the centre itself is on neither. -/
def capAt (c : Condition) (pos : ℤ) : ℤ :=
  if c.center.toInt < pos then c.rightSaturation.toNat
  else if pos < c.center.toInt then c.leftSaturation.toNat
  else max c.rightSaturation.toNat c.leftSaturation.toNat

def looserCap (c : Condition) : ℤ := max c.rightSaturation.toNat c.leftSaturation.toNat

/-- The synthetic damping of a spring. -/
def drag (c : Condition) (damping : UInt8) (vel : ℤ) : ℤ :=
  let coeff : ℤ := max c.rightCoeff.toInt.natAbs c.leftCoeff.toInt.natAbs
  (coeff * velMetric vel / 0x8000 * damping.toNat).tdiv 100

end Condition

variable {c : Condition} {tunables : Tunables} {wheel : WheelState} {pos force cap : ℤ}

theorem abs_conditionForce_le_capAt : |conditionForce c pos| ≤ c.capAt pos := by
  have cap := @abs_conditionForce_le c pos
  simp only [Condition.saturationAt] at cap
  simp only [Condition.capAt]
  split
  · rename_i right
    rw [if_pos right] at cap
    exact cap
  · rename_i notRight
    rw [if_neg notRight] at cap
    split
    · exact cap
    · exact cap.trans (Int.le_max_right _ _)

theorem Condition.looserCap_nonneg : 0 ≤ c.looserCap := by
  simp only [Condition.looserCap]
  omega

theorem springForce_undamped (undamped : tunables.springDamping = 0) :
    springForce tunables c wheel =
      (conditionForce c wheel.posSigned * tunables.springLevel).tdiv 100 := by
  simp only [springForce, undamped]
  rfl

theorem springForce_damped (damped : tunables.springDamping ≠ 0) :
    springForce tunables c wheel =
      (clamp (conditionForce c wheel.posSigned - c.drag tunables.springDamping wheel.vel)
        (-c.looserCap) c.looserCap * tunables.springLevel).tdiv 100 := by
  have nonzero : (tunables.springDamping.toNat : ℤ) ≠ 0 := by
    rw [Int.natCast_ne_zero]
    intro zero
    exact damped (UInt8.toNat_inj.mp zero)
  simp only [springForce, if_neg nonzero]
  rfl

/-- A force that the level scales stays within a cap. -/
theorem abs_scaled_le_iff {level : ℕ} :
    |(force * level).tdiv 100| ≤ cap ↔ |force| * level < 100 * (cap + 1) := by
  rw [abs_tdiv_le_iff (by decide), abs_mul, Nat.abs_cast]

theorem scaled_within {level : ℕ} (reduced : level ≤ 100) (within : |force| ≤ cap) :
    |force| * level < 100 * (cap + 1) := by
  have size := abs_nonneg force
  have least : |force| * level ≤ |force| * 100 :=
    Int.mul_le_mul_of_nonneg_left (Int.ofNat_le.mpr reduced) size
  omega

/-- A spring stays within the cap of the wheel's side exactly if it has no synthetic damping, the
looser cap is no looser at that level, or what the damping leaves of the force is within it. -/
theorem spring_within_cap_iff (kernel : Kernel) {effect : FfEffect}
    (spring : effect.kind = .spring c) (level : tunables.springLevel ≤ 100)
    (elapsedMs subQms : ℕ) :
    |effectTick kernel tunables effect elapsedMs subQms wheel| ≤ c.capAt wheel.posSigned ↔
      tunables.springDamping = 0 ∨
        c.looserCap * tunables.springLevel < 100 * (c.capAt wheel.posSigned + 1) ∨
        |conditionForce c wheel.posSigned - c.drag tunables.springDamping wheel.vel| *
          tunables.springLevel < 100 * (c.capAt wheel.posSigned + 1) := by
  have tick : effectTick kernel tunables effect elapsedMs subQms wheel =
      springForce tunables c wheel := by
    simp only [effectTick, spring]
  rw [tick]
  by_cases undamped : tunables.springDamping = 0
  · rw [springForce_undamped undamped, abs_scaled_le_iff]
    exact iff_of_true (scaled_within level abs_conditionForce_le_capAt) (.inl undamped)
  · rw [springForce_damped undamped, abs_scaled_le_iff, abs_clamp Condition.looserCap_nonneg,
      or_iff_right undamped, min_mul_of_nonneg _ _ (Int.natCast_nonneg _), min_lt_iff, or_comm]

/-- A spring that is gentle to the right and strong to the left. -/
def lopsided : Condition where
  rightSaturation := 1000
  leftSaturation := 0xFFFF
  rightCoeff := 0x4000
  leftCoeff := 0x4000
  deadband := 0
  center := 0

theorem spring_within_cap_still :
    |effectTick quarterKernel defaultTunables ⟨.spring lopsided, 0, 0, 0⟩ 0 0 ⟨100, 0, 0⟩| ≤
      lopsided.capAt 100 :=
  (@spring_within_cap_iff lopsided defaultTunables ⟨100, 0, 0⟩ quarterKernel _ rfl (by decide) 0
    0).mpr (.inr (.inr (by decide)))

/-- Just right of the centre and turning fast, the wheel gets four times the cap. -/
theorem lopsided_spring_past_cap :
    lopsided.capAt 100 = 1000 ∧
      effectTick quarterKernel defaultTunables ⟨.spring lopsided, 0, 0, 0⟩ 0 0 ⟨100, 128, 0⟩ =
        -4145 := by
  decide

end TrueForce.Ffb
