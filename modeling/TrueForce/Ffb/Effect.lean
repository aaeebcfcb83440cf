import TrueForce.Ffb.EffectMath

/-!
# One effect's force

`struct ff_effect` as far as the engine reads it, and `hidpp_dd_ff_effect_tick`,
which gives one effect's contribution at one instant.  The kernel's sine table
and its jiffies conversions are outside the driver and enter as the `Kernel`
parameter.
-/

namespace TrueForce.Ffb

open TrueForce.CInt

/-- The kernel functions the engine calls. -/
structure Kernel where
  /-- `fixp_sin16`, a q15 sine of an angle in degrees. -/
  fixpSin16 : ℤ → ℤ
  jiffiesToMsecs : UInt64 → ℕ
  msecsToJiffies : ℕ → UInt64

/-- The periodic waveforms; the engine renders any other as silence. -/
inductive Waveform where
  | sine
  | square
  | triangle
  | sawUp
  | sawDown
  | other
  deriving DecidableEq, Repr

/-- The effect type with the member of the union that the type selects. -/
inductive EffectKind where
  | constant (level : Int16) (envelope : Envelope)
  | ramp (startLevel endLevel : Int16) (envelope : Envelope)
  | periodic (waveform : Waveform) (period : UInt16) (magnitude offset : Int16) (phase : UInt16)
      (envelope : Envelope)
  | spring (condition : Condition)
  | damper (condition : Condition)
  | friction (condition : Condition)
  | inertia (condition : Condition)
  | rumble (strongMagnitude weakMagnitude : UInt16)
  | other
  deriving DecidableEq, Repr

structure FfEffect where
  kind : EffectKind
  direction : UInt16
  replayLength : UInt16
  replayDelay : UInt16
  deriving DecidableEq, Repr

def FfEffect.zero : FfEffect := ⟨.other, 0, 0, 0⟩

inductive TextureRoute where
  | kf
  | tf
  deriving DecidableEq, Repr

/-- The settings the engine reads, as the sysfs attributes, module parameters and
evdev gain leave them. -/
structure Tunables where
  ffbConstantSign : Bool
  springDamping : UInt8
  springLevel : ℕ
  damperLevel : ℕ
  frictionLevel : ℕ
  inertiaLevel : ℕ
  gain : UInt16
  strength : UInt16
  textureRoute : TextureRoute
  kfIdleGate : Bool
  /-- `idx_g920_ff` is present: the wheel does not scale the stream by its strength. -/
  g920 : Bool
  deriving DecidableEq, Repr

structure WheelState where
  posSigned : ℤ
  vel : ℤ
  accel : ℤ
  deriving DecidableEq, Repr

def frictionRampCounts : ℤ := 8

def tfCrossoverPeriodMs : ℕ := 50

def velMetric (vel : ℤ) : ℤ := clampS16 (s32 (vel * 256))

def projectConstant (kernel : Kernel) (direction : UInt16) (level : Int16) : ℤ :=
  level.toInt * kernel.fixpSin16 (direction.toNat * 360 / 0x10000 : ℕ) / 0x8000

/-- The `FF_SPRING` case: the restoring force with its synthetic damping. -/
def springForce (tunables : Tunables) (c : Condition) (wheel : WheelState) : ℤ :=
  let restoring := conditionForce c wheel.posSigned
  let damping : ℤ := tunables.springDamping.toNat
  let damped :=
    if damping = 0 then restoring
    else
      let coeff : ℤ := max c.rightCoeff.toInt.natAbs c.leftCoeff.toInt.natAbs
      let saturation : ℤ := max c.rightSaturation.toNat c.leftSaturation.toNat
      clamp (restoring - (coeff * velMetric wheel.vel / 0x8000 * damping).tdiv 100)
        (-saturation) saturation
  (damped * tunables.springLevel).tdiv 100

def frictionMetric (vel : ℤ) : ℤ :=
  if frictionRampCounts ≤ vel then 0x7fff
  else if vel ≤ -frictionRampCounts then -0x7fff
  else vel * (0x7fff / 8)

def rampLevel (startLevel endLevel : Int16) (elapsedMs duration : ℕ) : ℤ :=
  if duration = 0 then startLevel.toInt
  else startLevel.toInt +
    ((endLevel.toInt - startLevel.toInt) * (min elapsedMs duration : ℕ)).tdiv duration

def periodicAngle (period phase : UInt16) (elapsedMs subQms : ℕ) : ℕ :=
  let cycleQms := elapsedMs % period.toNat * 4 + subQms
  (cycleQms * 360 / (period.toNat * 4) + phase.toNat * 360 / 0xFFFF) % 360

def waveQ15 (kernel : Kernel) (waveform : Waveform) (angle : ℕ) : ℤ :=
  match waveform with
  | .sine => kernel.fixpSin16 angle
  | .square => if angle < 180 then 0x7fff else -0x7fff
  | .triangle =>
      if angle < 90 then ((angle : ℤ) * 0x7fff).tdiv 90
      else if angle < 270 then 0x7fff - (((angle : ℤ) - 90) * 2 * 0x7fff).tdiv 180
      else -0x7fff + (((angle : ℤ) - 270) * 0x7fff).tdiv 90
  | .sawUp => -0x7fff + ((angle : ℤ) * 2 * 0x7fff).tdiv 360
  | .sawDown => 0x7fff - ((angle : ℤ) * 2 * 0x7fff).tdiv 360
  | .other => 0

/-- The `FF_RUMBLE` case: a 25 Hz shake and a 100 Hz buzz. -/
def rumbleForce (strong weak : UInt16) (elapsedMs : ℕ) : ℤ :=
  let strongForce : ℤ :=
    if elapsedMs % 40 < 20 then (strong.toNat / 2 : ℕ) else -(strong.toNat / 2 : ℕ)
  let weakForce : ℤ := if elapsedMs % 10 < 5 then (weak.toNat / 4 : ℕ) else -(weak.toNat / 4 : ℕ)
  clampS16 (strongForce + weakForce)

def effectTick (kernel : Kernel) (tunables : Tunables) (effect : FfEffect)
    (elapsedMs subQms : ℕ) (wheel : WheelState) : ℤ :=
  let duration := effect.replayLength.toNat
  match effect.kind with
  | .constant level envelope =>
      let projected := projectConstant kernel effect.direction level
      applyEnvelope envelope (if tunables.ffbConstantSign then -projected else projected)
        elapsedMs duration
  | .spring c => springForce tunables c wheel
  | .damper c => (conditionForce c (velMetric wheel.vel) * tunables.damperLevel).tdiv 100
  | .friction c =>
      if wheel.vel = 0 then 0
      else (conditionForce c (frictionMetric wheel.vel) * tunables.frictionLevel).tdiv 100
  | .inertia c =>
      (conditionForce c (clampS16 (s32 (wheel.accel * 16))) * tunables.inertiaLevel).tdiv 100
  | .ramp startLevel endLevel envelope =>
      applyEnvelope envelope (rampLevel startLevel endLevel elapsedMs duration) elapsedMs duration
  | .periodic waveform period magnitude offset phase envelope =>
      if period = 0 then offset.toInt
      else
        let wave := waveQ15 kernel waveform (periodicAngle period phase elapsedMs subQms)
        let scaled := applyEnvelope envelope magnitude.toInt elapsedMs duration
        offset.toInt + scaled * wave / 0x8000
  | .rumble strong weak => rumbleForce strong weak elapsedMs
  | .other => 0

def FfEffect.isTexture (effect : FfEffect) : Bool :=
  match effect.kind with
  | .rumble _ _ => true
  | .periodic _ period _ _ _ _ => 0 < period.toNat ∧ period.toNat ≤ tfCrossoverPeriodMs
  | _ => false

/-- The steady part of a texture effect, which stays on the steering sum. -/
def FfEffect.dcOffset (effect : FfEffect) : ℤ :=
  match effect.kind with
  | .periodic _ _ _ offset _ _ => offset.toInt
  | _ => 0

def FfEffect.isConstant (effect : FfEffect) : Bool :=
  match effect.kind with
  | .constant _ _ => true
  | _ => false

/-- What a playing effect adds to the cached `FF_CONSTANT` sum. -/
def FfEffect.constantForce (kernel : Kernel) (effect : FfEffect) : ℤ :=
  match effect.kind with
  | .constant level _ => projectConstant kernel effect.direction level
  | _ => 0

end TrueForce.Ffb
