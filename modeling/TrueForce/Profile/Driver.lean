import Mathlib.Logic.Function.Basic
import TrueForce.Foundation.CInt
import TrueForce.Foundation.Transition
import TrueForce.Profile.ResponseCurve

/-!
# The driver's shaping and brightness attributes

Every axis has one curve on the wheel and up to three attributes that overwrite
it: the sensitivity and the deadzone, which the driver also caches, and the
curve itself, which reads back as a point count.  The strip has one brightness
register and two attributes that write it, one of them per light slot.

A store works out from its text alone what it is going to send and to cache;
the checks never look at what the driver has cached.  A store is therefore a
`decode` to a command, which may fail, and a `perform` of it, which does not:
the wheel is taken to answer.  Attributes that touch neither a curve, nor the
brightness, nor the active light slot are left out.
-/

namespace TrueForce.Profile

open TrueForce.CInt TrueForce.Transition
open TrueForce.Settings (Mode Model Raw)

inductive Pedal where
  | throttle
  | brake
  | clutch
  deriving DecidableEq

inductive Axis where
  | steering
  | pedal (pedal : Pedal)
  | handbrake
  deriving DecidableEq

inductive Attribute where
  | wheelSensitivity
  | wheelResponseCurve
  | pedalSensitivity (pedal : Pedal)
  | pedalCurve (pedal : Pedal)
  | pedalDeadzone (pedal : Pedal)
  | handbrakeSensitivity
  | handbrakeCurve
  | ledEffect
  | ledBrightness
  | ledSlot
  | ledSlotBrightness
  deriving DecidableEq

/-- What holds throughout a session: the wheel, the mode, whether the handbrake settings apply to
the accessory that is attached, and the features found (`lightsync` is the strip's pair of effect
and colour features). -/
structure Session where
  model : Model
  mode : Mode
  responseCurve : Bool
  pedals : Bool
  handbrake : Bool
  lightsync : Bool
  brightness : Bool
  deriving DecidableEq

/-- The wheel's curves and brightness register, and the driver's caches. -/
structure State where
  curve : Axis → Curve
  register : ℕ
  sensitivity : Axis → ℕ
  deadzone : Pedal → ℕ × ℕ
  ledBrightness : ℕ
  ledEffect : ℕ
  ledActiveSlot : Fin 5
  slotBrightness : Fin 5 → ℕ

/-- What a store of an axis attribute keeps for its own readback. -/
inductive Kept where
  | nothing
  | sensitivity (value : ℕ)
  | deadzone (lower upper : ℕ)
  deriving DecidableEq

inductive Command where
  | shape (axis : Axis) (curve : Curve) (kept : Kept)
  | ledEffect (effect : ℕ)
  | ledBrightness (brightness : ℕ)
  | ledSlot (slot : Fin 5)
  | ledSlotBrightness (brightness : ℕ)
  deriving DecidableEq

def kstrtoint : Raw → Except Errno ℤ
  | .number value =>
      if -0x80000000 ≤ value ∧ value < 0x80000000 then .ok value else .error .erange
  | _ => .error .einval

def kstrtouint : Raw → Except Errno ℕ
  | .number value =>
      if value < 0 then .error .einval
      else if value < 0x100000000 then .ok value.toNat
      else .error .erange
  | _ => .error .einval

namespace Session

/-- The feature check of the steering and the handbrake stores. -/
def responseCurveFeature (session : Session) : Except Errno Unit :=
  if session.responseCurve then .ok () else .error .eopnotsupp

/-- The curve lives on the base, but only wheels whose pedal unit answered offer pedal settings. -/
def pedalFf (session : Session) : Except Errno Unit :=
  if session.responseCurve && session.pedals then .ok () else .error .eopnotsupp

end Session

def sensitivityStore (gate : Except Errno Unit) (axis : Axis) (raw : Raw) :
    Except Errno Command := do
  gate
  let value ← kstrtoint raw
  let sensitivity := (clamp value 0 100).toNat
  let curve ← sensitivityCurve sensitivity
  return .shape axis curve (.sensitivity sensitivity)

def curveStore (gate : Except Errno Unit) (axis : Axis) (raw : Raw) : Except Errno Command := do
  gate
  match raw with
  | .reset => return .shape axis [] .nothing
  | .points pairs =>
      let curve ← responseCurveUpload pairs
      return .shape axis curve .nothing
  | _ => .error .einval

/-- Only this sensitivity is tied to the mode; its own checks come in another order. -/
def wheelSensitivityStore (session : Session) (raw : Raw) : Except Errno Command := do
  if session.mode ≠ .desktop then .error .eperm
  else
    let _ ← kstrtoint raw
    sensitivityStore session.responseCurveFeature .steering raw

def wheelResponseCurveStore (session : Session) : Raw → Except Errno Command :=
  curveStore session.responseCurveFeature .steering

def handbrakeSensitivityStore (session : Session) : Raw → Except Errno Command :=
  sensitivityStore session.responseCurveFeature .handbrake

def handbrakeCurveStore (session : Session) : Raw → Except Errno Command :=
  curveStore session.responseCurveFeature .handbrake

def pedalSensitivityStore (session : Session) (pedal : Pedal) : Raw → Except Errno Command :=
  sensitivityStore session.pedalFf (.pedal pedal)

def pedalCurveStore (session : Session) (pedal : Pedal) : Raw → Except Errno Command :=
  curveStore session.pedalFf (.pedal pedal)

def pedalDeadzoneStore (session : Session) (pedal : Pedal) (raw : Raw) :
    Except Errno Command := do
  session.pedalFf
  match raw with
  | .numbers lower upper =>
      if 100 < lower ∨ 100 < upper ∨ 99 < lower + upper then .error .einval
      else
        let curve ← deadzoneCurve lower upper
        return .shape (.pedal pedal) curve (.deadzone lower upper)
  | _ => .error .einval

def ledEffectStore (session : Session) (raw : Raw) : Except Errno Command := do
  let value ← kstrtoint raw
  if session.lightsync then return .ledEffect (clamp value 1 9).toNat else .error .eopnotsupp

def ledBrightnessStore (session : Session) (raw : Raw) : Except Errno Command := do
  let value ← kstrtoint raw
  if session.brightness then return .ledBrightness (clamp value 0 100).toNat
  else .error .eopnotsupp

def ledSlotStore (session : Session) (raw : Raw) : Except Errno Command := do
  let value ← kstrtouint raw
  if bound : value < 5 then
    if session.lightsync then return .ledSlot ⟨value, bound⟩ else .error .eopnotsupp
  else .error .einval

def ledSlotBrightnessStore (raw : Raw) : Except Errno Command := do
  let value ← kstrtouint raw
  return .ledSlotBrightness (min value 100)

def decode (session : Session) : Attribute → Raw → Except Errno Command
  | .wheelSensitivity => wheelSensitivityStore session
  | .wheelResponseCurve => wheelResponseCurveStore session
  | .pedalSensitivity pedal => pedalSensitivityStore session pedal
  | .pedalCurve pedal => pedalCurveStore session pedal
  | .pedalDeadzone pedal => pedalDeadzoneStore session pedal
  | .handbrakeSensitivity => handbrakeSensitivityStore session
  | .handbrakeCurve => handbrakeCurveStore session
  | .ledEffect => ledEffectStore session
  | .ledBrightness => ledBrightnessStore session
  | .ledSlot => ledSlotStore session
  | .ledSlotBrightness => ledSlotBrightnessStore

namespace State

def keep (state : State) (axis : Axis) : Kept → State
  | .nothing => state
  | .sensitivity value =>
      { state with sensitivity := Function.update state.sensitivity axis value }
  | .deadzone lower upper =>
      match axis with
      | .pedal pedal =>
          { state with deadzone := Function.update state.deadzone pedal (lower, upper) }
      | _ => state

def perform (session : Session) (state : State) : Command → State
  | .shape axis curve kept =>
      State.keep { state with curve := Function.update state.curve axis curve } axis kept
  -- Effects 6 to 9 are light slots; effect 5 shows the active one.
  | .ledEffect effect =>
      { state with
        ledEffect := effect
        ledActiveSlot := if 6 ≤ effect then Fin.ofNat 5 (effect - 5) else state.ledActiveSlot }
  | .ledBrightness brightness =>
      { state with register := brightness, ledBrightness := brightness }
  | .ledSlot slot => { state with ledActiveSlot := slot }
  | .ledSlotBrightness brightness =>
      { state with
        register := if session.brightness then brightness else state.register
        ledBrightness := brightness
        slotBrightness := Function.update state.slotBrightness state.ledActiveSlot brightness }

def shown (session : Session) (state : State) : Attribute → Except Errno Raw
  | .wheelSensitivity => .ok (.number (state.sensitivity .steering))
  | .wheelResponseCurve => do
      session.responseCurveFeature
      return .pointsLoaded (state.curve .steering).length curvePoints
  | .pedalSensitivity pedal => do
      session.pedalFf
      return .number (state.sensitivity (.pedal pedal))
  | .pedalCurve pedal => do
      session.pedalFf
      return .pointsLoaded (state.curve (.pedal pedal)).length curvePoints
  | .pedalDeadzone pedal => do
      session.pedalFf
      return .numbers (state.deadzone pedal).1 (state.deadzone pedal).2
  | .handbrakeSensitivity => do
      session.responseCurveFeature
      return .number (state.sensitivity .handbrake)
  | .handbrakeCurve => do
      session.responseCurveFeature
      return .pointsLoaded (state.curve .handbrake).length curvePoints
  | .ledEffect => .ok (.number state.ledEffect)
  | .ledBrightness => .ok (.number state.ledBrightness)
  | .ledSlot => .ok (.number state.ledActiveSlot.val)
  | .ledSlotBrightness => .ok (.number (state.slotBrightness state.ledActiveSlot))

/-- The driver as the probe leaves it: it has read the brightness and, where the wheel tells, the
light effect, never reads back a curve or a slot's brightness, and knows neither slider nor
deadzone. -/
def Fresh (state : State) : Prop :=
  (∀ axis, state.sensitivity axis = 50) ∧ (∀ pedal, state.deadzone pedal = (0, 0)) ∧
    state.ledBrightness = min state.register 100 ∧
    (1 ≤ state.ledEffect ∧ state.ledEffect ≤ 9) ∧
    state.ledActiveSlot = (if 6 ≤ state.ledEffect then Fin.ofNat 5 (state.ledEffect - 5) else 0) ∧
    ∀ slot, state.slotBrightness slot = 100

end State

/-- The driver right after the probe, on a wheel with built-in curves and full brightness. -/
def probed : State where
  curve _ := []
  register := 100
  sensitivity _ := 50
  deadzone _ := (0, 0)
  ledBrightness := 100
  ledEffect := 5
  ledActiveSlot := 0
  slotBrightness _ := 100

theorem probed_fresh : probed.Fresh :=
  ⟨fun _ => rfl, fun _ => rfl, rfl, by decide, rfl, fun _ => rfl⟩

/-- Attribute writes, of which only the successful ones are steps. -/
def writes (session : Session) : System State (Attribute × Raw) where
  initial := State.Fresh
  step state write :=
    match decode session write.1 write.2 with
    | .ok command => some (state.perform session command)
    | .error _ => none

end TrueForce.Profile
