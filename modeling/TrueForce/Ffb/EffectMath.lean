import TrueForce.Foundation.CInt

/-!
# Force-feedback arithmetic

The pure arithmetic of `hidpp_dd_effect_math.h`: envelope shaping, condition
effects, the acceleration filter and the wire form of a force.
-/

namespace TrueForce.Ffb

open TrueForce.CInt

structure Envelope where
  attackLength : UInt16
  attackLevel : UInt16
  fadeLength : UInt16
  fadeLevel : UInt16
  deriving DecidableEq, Repr

structure Condition where
  rightSaturation : UInt16
  leftSaturation : UInt16
  rightCoeff : Int16
  leftCoeff : Int16
  deadband : UInt16
  center : Int16
  deriving DecidableEq, Repr

/-- The magnitude at one instant of an attack, hold and fade, without its sign. -/
def envelopeLevel (env : Envelope) (absMag : ℤ) (elapsedMs lengthMs : ℕ) : ℤ :=
  let attackLevel : ℤ := env.attackLevel.toNat
  let fadeLevel : ℤ := env.fadeLevel.toNat
  let attackLength := env.attackLength.toNat
  let fadeLength := env.fadeLength.toNat
  if attackLength ≠ 0 ∧ elapsedMs < attackLength then
    attackLevel + ((absMag - attackLevel) * elapsedMs).tdiv attackLength
  else if lengthMs ≠ 0 ∧ fadeLength ≠ 0 ∧ fadeLength ≤ lengthMs ∧
      lengthMs - fadeLength < elapsedMs then
    let time := min (elapsedMs - (lengthMs - fadeLength)) fadeLength
    absMag - ((absMag - fadeLevel) * time).tdiv fadeLength
  else absMag

def applyEnvelope (env : Envelope) (magnitude : ℤ) (elapsedMs lengthMs : ℕ) : ℤ :=
  if env.attackLength = 0 ∧ env.fadeLength = 0 then magnitude
  else if magnitude < 0 then -envelopeLevel env (-magnitude) elapsedMs lengthMs
  else envelopeLevel env magnitude elapsedMs lengthMs

def conditionForce (c : Condition) (metric : ℤ) : ℤ :=
  let center := c.center.toInt
  let halfDb : ℤ := (c.deadband.toNat / 2 : ℕ)
  if center + halfDb < metric then
    let delta := metric - center - halfDb
    let saturation : ℤ := c.rightSaturation.toNat
    clamp (-(c.rightCoeff.toInt * delta / 0x8000)) (-saturation) saturation
  else if metric < center - halfDb then
    let delta := metric - center + halfDb
    let saturation : ℤ := c.leftSaturation.toNat
    clamp (-(c.leftCoeff.toInt * delta / 0x8000)) (-saturation) saturation
  else 0

/-- `hidpp_dd_accel_filter`: the tracker's next value and the acceleration. -/
def accelFilter (velSlowQ8 vel : ℤ) (dtMs tauMs : ℕ) : ℤ × ℤ :=
  let velQ8 := s32 (vel * 256)
  let diff := s32 (velQ8 - velSlowQ8)
  let span : ℤ := tauMs + dtMs
  let slow := if -span < diff ∧ diff < span then velQ8
    else s32 (velSlowQ8 + (s32 (diff * dtMs)).tdiv span)
  (slow, (s32 (velQ8 - slow)).tdiv tauMs)

def forceToOffsetBinary (force : ℤ) : ℕ := (clampS16 force + 0x8000).toNat

def centre : ℕ := 0x8000

@[simp]
theorem forceToOffsetBinary_zero : forceToOffsetBinary 0 = centre := rfl

/-- `force * factor / 0xFFFF`, skipped at full scale; the shape of the gain and of the strength. -/
def scaleU16 (force : ℤ) (factor : UInt16) : ℤ :=
  if factor = 0xFFFF then force else (force * factor.toNat).tdiv 0xFFFF

@[simp]
theorem scaleU16_zero (factor : UInt16) : scaleU16 0 factor = 0 := by
  simp [scaleU16]

end TrueForce.Ffb
