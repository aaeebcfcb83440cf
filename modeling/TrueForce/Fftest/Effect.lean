import TrueForce.Foundation.ByteBuffer
import TrueForce.Gui.Picker

/-!
# The steps of the force-feedback test

A step names what it plays by a logical side and a `StepEffect`; the kernel's
`ff_effect` is built from these for the wheel at hand.  The capability bitmap says
which steps a wheel can play.
-/

namespace TrueForce.Fftest

open ByteBuffer RustText

def ffPeriodic : UInt16 := 0x51

def ffConstant : UInt16 := 0x52

def ffSpring : UInt16 := 0x53

def ffFriction : UInt16 := 0x54

def ffDamper : UInt16 := 0x55

def ffInertia : UInt16 := 0x56

def ffRamp : UInt16 := 0x57

def ffGain : UInt16 := 0x60

def ffAutocenter : UInt16 := 0x61

def ffUnionSize : ℕ := 32

def directionEast : UInt16 := 0x4000

def directionWest : UInt16 := 0xC000

def simGainFull : Int32 := 0xFFFF

inductive Side where
  | right
  | left
  | none
  deriving DecidableEq, Repr

/-- The classic engine of the G923 takes east for left. -/
def resolveDirection : Side → Gui.WheelModel → UInt16
  | .none, _ => 0
  | .right, .g923 => directionWest
  | .right, _ => directionEast
  | .left, .g923 => directionEast
  | .left, _ => directionWest

/-- The lead-in of a step; a tick is in nanoseconds. -/
structure Countdown where
  ticks : UInt64
  tick : ℕ
  deriving DecidableEq, Repr

structure FfEffect where
  type : UInt16
  id : Int16
  direction : UInt16
  triggerButton : UInt16
  triggerInterval : UInt16
  replayLength : UInt16
  replayDelay : UInt16
  u : Bytes
  deriving DecidableEq, Repr

structure Envelope where
  attackLength : UInt16
  attackLevel : UInt16
  fadeLength : UInt16
  fadeLevel : UInt16
  deriving DecidableEq, Repr

inductive StepEffect where
  | constant (level : Int16) (envelope : Envelope)
  | ramp (start : Int16) (stop : Int16)
  | spring (rightCoeff leftCoeff : Int16) (rightSat leftSat : UInt16)
  | damper (rightCoeff leftCoeff : Int16) (rightSat leftSat : UInt16)
  | friction (rightCoeff leftCoeff : Int16) (rightSat leftSat : UInt16)
  | inertia (rightCoeff leftCoeff : Int16) (rightSat leftSat : UInt16)
  | periodic (waveform periodMs : UInt16) (magnitude : Int16) (envelope : Envelope)
  deriving DecidableEq, Repr

namespace StepEffect

def ffType : StepEffect → UInt16
  | .constant .. => ffConstant
  | .ramp .. => ffRamp
  | .spring .. => ffSpring
  | .damper .. => ffDamper
  | .friction .. => ffFriction
  | .inertia .. => ffInertia
  | .periodic .. => ffPeriodic

def writeEnvelope (u : Bytes) (offset : ℕ) (envelope : Envelope) : Bytes :=
  let u := write u offset (le16 envelope.attackLength)
  let u := write u (offset + 2) (le16 envelope.attackLevel)
  let u := write u (offset + 4) (le16 envelope.fadeLength)
  write u (offset + 6) (le16 envelope.fadeLevel)

def writeCondition (u : Bytes) (rightCoeff leftCoeff : Int16) (rightSat leftSat : UInt16) :
    Bytes :=
  let u := write u 0 (le16 rightSat)
  let u := write u 2 (le16 leftSat)
  let u := write u 4 (le16 rightCoeff.toUInt16)
  write u 6 (le16 leftCoeff.toUInt16)

def union (effect : StepEffect) : Bytes :=
  let u : Bytes := List.replicate ffUnionSize 0
  match effect with
  | .constant level envelope => writeEnvelope (write u 0 (le16 level.toUInt16)) 2 envelope
  | .ramp start stop => write (write u 0 (le16 start.toUInt16)) 2 (le16 stop.toUInt16)
  | .spring rightCoeff leftCoeff rightSat leftSat =>
      writeCondition u rightCoeff leftCoeff rightSat leftSat
  | .damper rightCoeff leftCoeff rightSat leftSat =>
      writeCondition u rightCoeff leftCoeff rightSat leftSat
  | .friction rightCoeff leftCoeff rightSat leftSat =>
      writeCondition u rightCoeff leftCoeff rightSat leftSat
  | .inertia rightCoeff leftCoeff rightSat leftSat =>
      writeCondition u rightCoeff leftCoeff rightSat leftSat
  | .periodic waveform periodMs magnitude envelope =>
      let u := write u 0 (le16 waveform)
      let u := write u 2 (le16 periodMs)
      let u := write u 4 (le16 magnitude.toUInt16)
      writeEnvelope u 10 envelope

end StepEffect

def effectToFf (effect : StepEffect) (direction : Side) (durationMs : UInt16)
    (model : Gui.WheelModel) : FfEffect where
  type := effect.ffType
  id := -1
  direction := resolveDirection direction model
  triggerButton := 0
  triggerInterval := 0
  replayLength := durationMs
  replayDelay := 0
  u := effect.union

inductive StepAction where
  | effect (effect : StepEffect)
  | mixed (first second : StepEffect)
  | gainDemo (effect : StepEffect) (demoGain : Int32)
  | autocenter (level : Int32)
  deriving DecidableEq, Repr

def ffTypeSupported (bits : Bytes) (ffType : UInt16) : Bool :=
  match bits[ffType.toNat / 8]? with
  | some byte => byte &&& (1 <<< UInt8.ofNat (ffType.toNat % 8)) != 0
  | none => false

def StepAction.supported (bits : Bytes) : StepAction → Bool
  | .effect single => ffTypeSupported bits single.ffType
  | .mixed first second =>
      ffTypeSupported bits first.ffType && ffTypeSupported bits second.ffType
  | .gainDemo single _ => ffTypeSupported bits single.ffType && ffTypeSupported bits ffGain
  | .autocenter _ => ffTypeSupported bits ffAutocenter

structure SimStep where
  label : Text
  action : StepAction
  durationMs : UInt16
  direction : Side
  countdown : Countdown
  deriving DecidableEq, Repr

end TrueForce.Fftest
