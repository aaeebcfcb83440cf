import Mathlib.Data.Int.Notation
import Mathlib.Data.Nat.Notation

/-!
# The reports of the virtual wheel

`logi-ffb` puts a virtual wheel with a PID collection in front of the real one.
The output reports that a host writes to it are decoded into effect operations;
the feature reports that create an effect and read its block back are answered by
the proxy itself.  A report that is too short for the fields it is read for, or
whose id is not known, decodes to nothing.
-/

namespace TrueForce.LogiFfb

-- The PID output report ids of the collection.

def reportDeviceControl : UInt8 := 0x50

def reportSetEffect : UInt8 := 0x51

def reportSetEnvelope : UInt8 := 0x52

def reportSetCondition : UInt8 := 0x53

def reportSetConstant : UInt8 := 0x55

def reportSetRamp : UInt8 := 0x58

def reportDeviceGain : UInt8 := 0x59

def reportEffectOperation : UInt8 := 0x5A

def reportBlockFree : UInt8 := 0x5B

def reportSetPeriodic : UInt8 := 0x5D

def pidDurationInfinite : UInt16 := 0xFFFF

inductive EffectKind where
  | constant
  | ramp
  | square
  | sine
  | triangle
  | sawUp
  | sawDown
  | spring
  | damper
  | inertia
  | friction
  deriving DecidableEq, Repr

/-- The effect type of a Create New Effect, as an index into the usage list or as the usage itself. -/
def effectKindFromTypeByte (byte : UInt8) : Option EffectKind :=
  match byte.toNat with
  | 1 | 0x26 => some .constant
  | 2 | 0x27 => some .ramp
  | 4 | 0x30 => some .square
  | 5 | 0x31 => some .sine
  | 6 | 0x32 => some .triangle
  | 7 | 0x33 => some .sawUp
  | 8 | 0x34 => some .sawDown
  | 9 | 0x40 => some .spring
  | 10 | 0x41 => some .damper
  | 11 | 0x42 => some .inertia
  | 12 | 0x43 => some .friction
  | _ => none

def pidPoolRamSize : UInt16 := 0xFFFF

def pidPoolSimultaneousMax : UInt8 := 40

def toLeBytes (value : UInt16) : List UInt8 :=
  [UInt8.ofNat (value.toNat % 256), UInt8.ofNat (value.toNat / 256)]

/-- The Block Load report: its id, the block, the status "success" and the RAM left. -/
def pidBlockLoadReply (block : UInt8) : List UInt8 := [0x56, block, 1] ++ toLeBytes pidPoolRamSize

def pidPoolReply : List UInt8 :=
  [0x57] ++ toLeBytes pidPoolRamSize ++ [pidPoolSimultaneousMax, 0x01]

inductive DeviceControlOp where
  | enableActuators
  | disableActuators
  | stopAllEffects
  | reset
  | pause
  | continue
  deriving DecidableEq, Repr

def DeviceControlOp.fromWire (byte : UInt8) : Option DeviceControlOp :=
  match byte.toNat with
  | 1 => some .enableActuators
  | 2 => some .disableActuators
  | 3 => some .stopAllEffects
  | 4 => some .reset
  | 5 => some .pause
  | 6 => some .continue
  | _ => none

inductive EffectOp where
  | create (block : UInt8) (kind : EffectKind)
  | setEffect (block : UInt8) (durationMs direction : UInt16)
  | setConstant (block : UInt8) (magnitude : Int16)
  | setRamp (block : UInt8) (start stop : Int16)
  | setPeriodic (block : UInt8) (magnitude offset : Int16) (phase periodMs : UInt16)
  | setCondition (block : UInt8) (center coeffPos coeffNeg : Int16) (satPos satNeg : UInt16)
  | setEnvelope (block : UInt8) (attackMs attackLevel fadeMs fadeLevel : UInt16)
  | operation (block : UInt8) (start : Bool) (loopCount : UInt8)
  | destroy (block : UInt8)
  | gain (value : UInt8)
  | deviceControl (op : DeviceControlOp)
  deriving DecidableEq, Repr

def u16At (report : List UInt8) (index : ℕ) : Option UInt16 := do
  let low ← report[index]?
  let high ← report[index + 1]?
  return UInt16.ofNat (low.toNat + 256 * high.toNat)

def i16At (report : List UInt8) (index : ℕ) : Option Int16 :=
  (u16At report index).map UInt16.toInt16

-- The arms of `decode`, one for each report.

def decodeDeviceControl (report : List UInt8) : Option EffectOp := do
  let op ← DeviceControlOp.fromWire (← report[1]?)
  return .deviceControl op

def decodeSetEffect (report : List UInt8) : Option EffectOp := do
  let block ← report[1]?
  let duration ← u16At report 3
  let direction ← u16At report 14
  return .setEffect block (if duration = pidDurationInfinite then 0 else duration) direction

def decodeSetEnvelope (report : List UInt8) : Option EffectOp := do
  let block ← report[1]?
  let attackLevel ← u16At report 2
  let fadeLevel ← u16At report 4
  let attackMs ← u16At report 6
  let fadeMs ← u16At report 8
  return .setEnvelope block attackMs attackLevel fadeMs fadeLevel

/-- The Parameter Block Offset in byte 2 and the Dead Band after byte 12 are not read. -/
def decodeSetCondition (report : List UInt8) : Option EffectOp := do
  let block ← report[1]?
  let center ← i16At report 3
  let coeffPos ← i16At report 5
  let coeffNeg ← i16At report 7
  let satPos ← u16At report 9
  let satNeg ← u16At report 11
  return .setCondition block center coeffPos coeffNeg satPos satNeg

def decodeSetConstant (report : List UInt8) : Option EffectOp := do
  let block ← report[1]?
  let magnitude ← i16At report 2
  return .setConstant block magnitude

/-- A ramp level of one unsigned byte on the scale of evdev. -/
def rampLevel (byte : UInt8) : Int16 := Int16.ofNat (byte.toNat * 32767 / 255)

def decodeSetRamp (report : List UInt8) : Option EffectOp := do
  let block ← report[1]?
  let start ← report[2]?
  let stop ← report[3]?
  return .setRamp block (rampLevel start) (rampLevel stop)

def decodeEffectOperation (report : List UInt8) : Option EffectOp := do
  let block ← report[1]?
  let op ← report[2]?
  let loopCount ← report[3]?
  return .operation block (op = 0x01 ∨ op = 0x02) loopCount

def decodeSetPeriodic (report : List UInt8) : Option EffectOp := do
  let block ← report[1]?
  let magnitude ← i16At report 2
  let offset ← i16At report 4
  let phase ← u16At report 6
  let periodMs ← u16At report 8
  return .setPeriodic block magnitude offset phase periodMs

/-- A Create New Effect is a feature report and never decoded here. -/
def decode (report : List UInt8) : Option EffectOp :=
  match report.head? with
  | none => none
  | some id =>
      if id = reportDeviceControl then decodeDeviceControl report
      else if id = reportSetEffect then decodeSetEffect report
      else if id = reportSetEnvelope then decodeSetEnvelope report
      else if id = reportSetCondition then decodeSetCondition report
      else if id = reportSetConstant then decodeSetConstant report
      else if id = reportSetRamp then decodeSetRamp report
      else if id = reportDeviceGain then report[1]?.map .gain
      else if id = reportBlockFree then report[1]?.map .destroy
      else if id = reportEffectOperation then decodeEffectOperation report
      else if id = reportSetPeriodic then decodeSetPeriodic report
      else none

end TrueForce.LogiFfb
