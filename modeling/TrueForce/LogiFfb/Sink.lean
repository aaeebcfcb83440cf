import TrueForce.Foundation.EffectTable
import TrueForce.LogiFfb.Report
import Mathlib.Logic.Function.Basic

/-!
# The sink of the virtual wheel

The sink turns effect operations into calls on the event device of the real wheel.
It keeps, for each effect block, the kind its Create gave, the parameters gathered
so far and the id of the kernel's effect, and hands the whole effect to the kernel
on every change.

The kernel's side of the file is part of the state: the effects that live there,
the device gain, and the calls made with their outcomes.  What the kernel answers
to the calls of one operation is an argument of the operation.  The maps iterate in
block order, on which nothing depends.
-/

namespace TrueForce.LogiFfb

open TrueForce.Foundation

inductive FfType where
  | periodic
  | constant
  | spring
  | friction
  | damper
  | inertia
  | ramp
  deriving DecidableEq, Repr

inductive Waveform where
  | square
  | triangle
  | sine
  | sawUp
  | sawDown
  deriving DecidableEq, Repr

structure FfTrigger where
  button : UInt16 := 0
  interval : UInt16 := 0
  deriving DecidableEq, Repr

structure FfReplay where
  length : UInt16
  delay : UInt16
  deriving DecidableEq, Repr

structure FfEnvelope where
  attackLength : UInt16 := 0
  attackLevel : UInt16 := 0
  fadeLength : UInt16 := 0
  fadeLevel : UInt16 := 0
  deriving DecidableEq, Repr

/-- The union of an effect.  Of the two conditions only the first axis is driven. -/
inductive FfUnion where
  | constant (level : Int16) (envelope : FfEnvelope)
  | ramp (startLevel endLevel : Int16) (envelope : FfEnvelope)
  | periodic (waveform : Waveform) (period : UInt16) (magnitude offset : Int16) (phase : UInt16)
      (envelope : FfEnvelope)
  | condition (rightSaturation leftSaturation : UInt16) (rightCoeff leftCoeff : Int16)
      (deadband : UInt16) (center : Int16)
  deriving DecidableEq, Repr

structure FfEffect where
  type : FfType
  id : ℤ
  direction : UInt16
  trigger : FfTrigger
  replay : FfReplay
  u : FfUnion
  deriving DecidableEq, Repr

structure EffectParams where
  durationMs : UInt16 := 0
  direction : UInt16 := 0
  constantLevel : Int16 := 0
  rampStart : Int16 := 0
  rampEnd : Int16 := 0
  periodicMagnitude : Int16 := 0
  periodicOffset : Int16 := 0
  periodicPhase : UInt16 := 0
  periodicPeriodMs : UInt16 := 0
  condCenter : Int16 := 0
  condCoeffPos : Int16 := 0
  condCoeffNeg : Int16 := 0
  condSatPos : UInt16 := 0
  condSatNeg : UInt16 := 0
  attackMs : UInt16 := 0
  attackLevel : UInt16 := 0
  fadeMs : UInt16 := 0
  fadeLevel : UInt16 := 0
  deriving DecidableEq, Repr

def EffectParams.envelope (params : EffectParams) : FfEnvelope where
  attackLength := params.attackMs
  attackLevel := params.attackLevel
  fadeLength := params.fadeMs
  fadeLevel := params.fadeLevel

/-- The direction of evdev for hundredths of a degree.  North and south, which a one-axis wheel would
not feel, are turned onto its axis. -/
def evdevDirection (pidHundredths : UInt16) : UInt16 :=
  if pidHundredths = 0 then 0x4000
  else if pidHundredths = 18000 then 0xC000
  else UInt16.ofNat (min (pidHundredths.toNat * 0x10000 / 36000) 0xFFFF)

def EffectParams.periodic (params : EffectParams) (waveform : Waveform) : FfUnion :=
  .periodic waveform params.periodicPeriodMs params.periodicMagnitude params.periodicOffset
    params.periodicPhase params.envelope

/-- No field of the parameters feeds the dead band. -/
def EffectParams.condition (params : EffectParams) : FfUnion :=
  .condition params.condSatPos params.condSatNeg params.condCoeffPos params.condCoeffNeg 0
    params.condCenter

/-- `effect_type_and_waveform` with the union that goes with it. -/
def typeAndUnion (params : EffectParams) : EffectKind → FfType × FfUnion
  | .constant => (.constant, .constant params.constantLevel params.envelope)
  | .ramp => (.ramp, .ramp params.rampStart params.rampEnd params.envelope)
  | .sine => (.periodic, params.periodic .sine)
  | .square => (.periodic, params.periodic .square)
  | .triangle => (.periodic, params.periodic .triangle)
  | .sawUp => (.periodic, params.periodic .sawUp)
  | .sawDown => (.periodic, params.periodic .sawDown)
  | .spring => (.spring, params.condition)
  | .damper => (.damper, params.condition)
  | .inertia => (.inertia, params.condition)
  | .friction => (.friction, params.condition)

def toFfEffect (kind : EffectKind) (params : EffectParams) (id : ℤ) : FfEffect where
  type := (typeAndUnion params kind).1
  id := id
  direction := evdevDirection params.direction
  trigger := {}
  replay := { length := params.durationMs, delay := 0 }
  u := (typeAndUnion params kind).2

/-- The code of an `EV_FF` event: an effect, or the device gain. -/
inductive FfCode where
  | effect (id : ℤ)
  | gain
  deriving DecidableEq, Repr

/-- A call on the event device and what came of it. -/
inductive Call where
  | eviocsff (effect : FfEffect) (assigned : Option ℤ)
  | eviocrmff (id : ℤ) (removed : Bool)
  | writeFf (code : FfCode) (value : ℤ) (written : Bool)
  deriving DecidableEq, Repr

/-- The kernel's side of the open file. -/
structure Fd where
  effects : EffectTable FfEffect
  gain : ℤ
  calls : List Call

/-- What the kernel answers to the calls of one operation. -/
structure Answers where
  upload : UploadReply
  removes : ℤ → Bool
  writes : FfCode → Bool

namespace Fd

def eviocsff (fd : Fd) (effect : FfEffect) (reply : UploadReply) : Fd × Option ℤ :=
  match fd.effects.upload effect.id effect reply with
  | some (effects, id) =>
      ({ fd with effects, calls := fd.calls ++ [.eviocsff effect (some id)] }, some id)
  | none => ({ fd with calls := fd.calls ++ [.eviocsff effect none] }, none)

def eviocrmff (fd : Fd) (id : ℤ) (removes : Bool) : Fd :=
  { fd with
    effects := if removes ∧ 0 ≤ id then fd.effects.remove id.toNat else fd.effects
    calls := fd.calls ++ [.eviocrmff id removes] }

/-- An event that is not written is lost; one for an effect starts or stops it. -/
def writeFf (fd : Fd) (code : FfCode) (value : ℤ) (writes : Bool) : Fd :=
  let fd := { fd with calls := fd.calls ++ [.writeFf code value writes] }
  if !writes then fd
  else
    match code with
    | .effect id => { fd with effects := fd.effects.play id.toNat (0 < value) }
    | .gain => { fd with gain := value }

end Fd

inductive Error where
  | protocol (message : String)
  | io (context : String)
  deriving DecidableEq, Repr

abbrev Result := Except Error Unit

structure Sink where
  fd : Fd
  effects : UInt8 → Option ℤ
  kinds : UInt8 → Option EffectKind
  params : UInt8 → Option EffectParams

def allBlocks : List UInt8 := (List.range 256).map UInt8.ofNat

namespace Sink

def writeFfEvent (sink : Sink) (code : FfCode) (value : ℤ) (answers : Answers) : Sink × Result :=
  ({ sink with fd := sink.fd.writeFf code value (answers.writes code) },
    if answers.writes code then .ok () else .error (.io "write EV_FF"))

/-- `Sink::open` on a file that opens; without the first gain write there is no sink. -/
def opened : Sink where
  fd := { effects := [], gain := 0xFFFF, calls := [.writeFf .gain 0xFFFF true] }
  effects := fun _ => none
  kinds := fun _ => none
  params := fun _ => none

def idOf (sink : Sink) (block : UInt8) : ℤ := (sink.effects block).getD (-1)

/-- `self.params.entry(block).or_default()`, changed. -/
def withParams (sink : Sink) (block : UInt8) (change : EffectParams → EffectParams) : Sink :=
  { sink with
    params := Function.update sink.params block (some (change ((sink.params block).getD {}))) }

def effectFor (sink : Sink) (block : UInt8) (kind : EffectKind) : FfEffect :=
  toFfEffect kind ((sink.params block).getD {}) (sink.idOf block)

def upload (sink : Sink) (block : UInt8) (answers : Answers) : Sink × Result :=
  match sink.kinds block with
  | none => (sink, .error (.protocol s!"effect block {block} has no Create"))
  | some kind =>
      let sink := sink.withParams block id
      let outcome := sink.fd.eviocsff (sink.effectFor block kind) answers.upload
      match outcome.2 with
      | some id =>
          ({ sink with
              fd := outcome.1
              effects := Function.update sink.effects block (some id) }, .ok ())
      | none => ({ sink with fd := outcome.1 }, .error (.io "EVIOCSFF"))

/-- A report that changes parameters: they are kept even if the upload fails. -/
def set (sink : Sink) (block : UInt8) (change : EffectParams → EffectParams) (answers : Answers) :
    Sink × Result :=
  (sink.withParams block change).upload block answers

def heldIds (sink : Sink) : List ℤ := allBlocks.filterMap sink.effects

/-- The removal of every effect held, whose errors are ignored, and of the books. -/
def drain (sink : Sink) (answers : Answers) : Sink where
  fd := sink.heldIds.foldl (fun fd id => fd.eviocrmff id (answers.removes id)) sink.fd
  effects := fun _ => none
  kinds := fun _ => none
  params := fun _ => none

def destroy (sink : Sink) (block : UInt8) (answers : Answers) : Sink where
  fd :=
    match sink.effects block with
    | some id => sink.fd.eviocrmff id (answers.removes id)
    | none => sink.fd
  effects := Function.update sink.effects block none
  kinds := Function.update sink.kinds block none
  params := Function.update sink.params block none

def stopAll (sink : Sink) (answers : Answers) : Sink :=
  { sink with
    fd := sink.heldIds.foldl
      (fun fd id => fd.writeFf (.effect id) 0 (answers.writes (.effect id))) sink.fd }

def deviceControl (sink : Sink) (op : DeviceControlOp) (answers : Answers) : Sink × Result :=
  match op with
  | .enableActuators => sink.writeFfEvent .gain 0xFFFF answers
  | .disableActuators => sink.writeFfEvent .gain 0 answers
  | .stopAllEffects => (sink.stopAll answers, .ok ())
  | .reset => (sink.drain answers).writeFfEvent .gain 0xFFFF answers
  | .pause | .continue => (sink, .ok ())

def apply (sink : Sink) (op : EffectOp) (answers : Answers) : Sink × Result :=
  match op with
  | .create block kind =>
      ({ sink.withParams block id with
          kinds := Function.update sink.kinds block (some kind) }, .ok ())
  | .setEffect block durationMs direction =>
      sink.set block (fun params => { params with durationMs, direction }) answers
  | .setConstant block magnitude =>
      sink.set block (fun params => { params with constantLevel := magnitude }) answers
  | .setRamp block start stop =>
      sink.set block (fun params => { params with rampStart := start, rampEnd := stop }) answers
  | .setPeriodic block magnitude offset phase periodMs =>
      sink.set block (fun params =>
        { params with
          periodicMagnitude := magnitude
          periodicOffset := offset
          periodicPhase := phase
          periodicPeriodMs := periodMs }) answers
  | .setCondition block center coeffPos coeffNeg satPos satNeg =>
      sink.set block (fun params =>
        { params with
          condCenter := center
          condCoeffPos := coeffPos
          condCoeffNeg := coeffNeg
          condSatPos := satPos
          condSatNeg := satNeg }) answers
  | .setEnvelope block attackMs attackLevel fadeMs fadeLevel =>
      sink.set block (fun params => { params with attackMs, attackLevel, fadeMs, fadeLevel }) answers
  | .operation block start loopCount =>
      match sink.effects block with
      | none => (sink, .error (.protocol s!"effect block {block} was never uploaded"))
      | some id =>
          sink.writeFfEvent (.effect id) (if start then max loopCount.toNat 1 else 0) answers
  | .destroy block => (sink.destroy block answers, .ok ())
  | .gain value => sink.writeFfEvent .gain (value.toNat * 0xFFFF / 255 : ℕ) answers
  | .deviceControl op => sink.deviceControl op answers

def shutdown (sink : Sink) (answers : Answers) : Sink :=
  ((sink.drain answers).writeFfEvent .gain 0xFFFF answers).1

end Sink

end TrueForce.LogiFfb
