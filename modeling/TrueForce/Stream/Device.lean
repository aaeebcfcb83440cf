import TrueForce.Foundation.Ring
import Mathlib.Data.Int.Notation

/-!
# The TrueForce stream device

This file models what `logitf_device` keeps of a TrueForce session and the
critical sections that act on it: the push and clear of the sample ring, the
three sections of `logitf_stream_tick_n`, the two halves of the teardown pair,
and the session and stream lifecycle.  Each function is one section, so that the
machine built on top can interleave them as the two mutexes allow.

A refused write is an argument of the section that makes it.  The feedback
fields, the drop report on stderr and the payload of the init packets have no
influence on the stream and are left out.
-/

namespace TrueForce.Stream

open TrueForce.Foundation

-- The `LOGITF_TF_*` constants of `internal.h` and `TF_INIT_PACKET_COUNT`.

def logitfTfRing : ℕ := 4096

def logitfTfWindow : ℕ := 13

def logitfTfNew : ℕ := 4

def logitfTfPktHz : ℕ := 1000

def logitfTfMaxPendingMs : ℕ := 128

def logitfTfMaxPending : ℕ := logitfTfMaxPendingMs * logitfTfPktHz * logitfTfNew / 1000

def logitfTfCatchupMax : ℕ := logitfTfNew * 3

def logitfTfIdleGraceTicks : ℕ := logitfTfPktHz / 2

def logitfTfStarveDecayTicks : ℕ := 40

def logitfTfStarveDecayStep : ℕ :=
  (0x8000 + logitfTfStarveDecayTicks - 1) / logitfTfStarveDecayTicks

def logitfTfStarveHoldTicks : ℕ := 8

def tfInitPacketCount : ℕ := 68

def centre : UInt16 := 0x8000

def logitfS16ToWire (sample : Int16) : UInt16 := UInt16.ofInt (sample.toInt + 0x8000)

inductive Packet where
  | init (seq : UInt8)
  | stream (seq : UInt8) (current : UInt16) (window : List UInt16) (newCount : UInt8)
  | idle (seq : UInt8) (current : UInt16)
  | ctrl (type : UInt8) (seq : UInt8)
  deriving DecidableEq, Repr

inductive WriteResult where
  | accepted
  | short
  | failed (errno : ℕ)
  deriving DecidableEq, Repr

-- The errno values that `stream_error_is_fatal` lists.

def ENXIO : ℕ := 6

def EIO : ℕ := 5

def EBADF : ℕ := 9

def ENODEV : ℕ := 19

def EPIPE : ℕ := 32

def ESHUTDOWN : ℕ := 108

def streamErrorIsFatal (rc : ℤ) : Bool :=
  -rc ∈ ([ENODEV, ENXIO, EIO, EPIPE, EBADF, ESHUTDOWN].map Int.ofNat)

def WriteResult.rc : WriteResult → ℤ
  | .accepted => 0
  | .short => -( EIO : ℤ)
  | .failed errno => -(errno : ℤ)

structure Device where
  hidrawOpen : Bool
  tfInitialized : Bool
  tfPaused : Bool
  tfArmedIdle : Bool
  tfTeardownPending : Bool
  tfIdleTicks : ℕ
  tfStarvedTicks : ℕ
  tfSeq : UInt8
  streamRunning : Bool
  shuttingDown : Bool
  streamError : ℤ
  tfWindow : List UInt16
  tfLastCurrent : UInt16
  ring : RingBuffer UInt16
  ringDropped : UInt64

def Device.discovered : Device where
  hidrawOpen := false
  tfInitialized := false
  tfPaused := false
  tfArmedIdle := false
  tfTeardownPending := false
  tfIdleTicks := 0
  tfStarvedTicks := 0
  tfSeq := 0
  streamRunning := false
  shuttingDown := false
  streamError := 0
  tfWindow := List.replicate logitfTfWindow 0
  tfLastCurrent := 0
  ring := { cells := fun _ => 0, head := 0, tail := 0 }
  ringDropped := 0

inductive Progress where
  | returned (rc : ℤ)
  /-- The 0x04 is out and the lock is released for the pair spacing. -/
  | armPending
  deriving DecidableEq, Repr

namespace Device

def ringOccupied (device : Device) : ℕ := device.ring.occupancy % logitfTfRing

def noteDropped (device : Device) (count : ℕ) : Device :=
  { device with ringDropped := device.ringDropped + UInt64.ofNat count }

/-- The end of `logitf_stream_push_s16`: hold the backlog to the latency bound. -/
def shedBacklog (device : Device) : Device :=
  let occupied := device.ringOccupied
  if occupied > logitfTfMaxPending then
    let excess := occupied - logitfTfMaxPending
    { device with ring := device.ring.discard excess }.noteDropped excess
  else device

/-- The part of `logitf_stream_push_s16` under `ring_lock`, past its running check. -/
def pushCopy (device : Device) (samples : List Int16) : Device :=
  let excess := samples.length - logitfTfMaxPending
  let device := if samples.length > logitfTfMaxPending then device.noteDropped excess else device
  -- Only the newest tail of an oversized push is copied, so the copy never laps the consumer.
  let kept := samples.drop excess
  let ring := device.ring.writeAll logitfTfRing (kept.map logitfS16ToWire)
  { device with ring }.shedBacklog

def accepting (device : Device) : Bool := device.streamRunning && !device.shuttingDown

def clearRing (device : Device) : Device := { device with ring := device.ring.clear }

def recentre (device : Device) : Device :=
  { device with
    tfWindow := List.replicate logitfTfWindow centre
    tfLastCurrent := centre }

/-- `write` of one packet; a closed node answers `EBADF`. -/
def write (device : Device) (packet : Packet) (result : WriteResult) : List Packet × ℤ :=
  if device.hidrawOpen then
    (if result = .accepted then [packet] else [], result.rc)
  else ([], -(EBADF : ℤ))

def nextSeq (device : Device) : Device := { device with tfSeq := device.tfSeq + 1 }

def stopClear (device : Device) (result : WriteResult) : Device × List Packet × Progress :=
  if device.tfArmedIdle then (device, [], .returned 0)
  else if !device.hidrawOpen then (device, [], .returned (-( EIO : ℤ)))
  else
    let (packets, rc) := device.write (.ctrl 0x04 device.tfSeq) result
    (device.nextSeq, packets, if rc = 0 then .armPending else .returned (-( EIO : ℤ)))

def stopArm (device : Device) (result : WriteResult) : Device × List Packet × ℤ :=
  let (packets, rc) := device.write (.ctrl 0x03 device.tfSeq) result
  if rc = 0 then ({ device.nextSeq with tfArmedIdle := true }, packets, 0)
  else (device.nextSeq, packets, -( EIO : ℤ))

def blockIsSilent (samples : List UInt16) : Bool := samples.all (· == centre)

def decayTowardsCentre (current : UInt16) : UInt16 :=
  let distance : ℤ := (current.toNat : ℤ) - 0x8000
  let step : ℤ := logitfTfStarveDecayStep
  let distance :=
    if distance > 0 then
      if distance - step < 0 then 0 else distance - step
    else if distance < 0 then
      if distance + step > 0 then 0 else distance + step
    else distance
  UInt16.ofInt (0x8000 + distance)

def sampleBudget (expiries : ℕ) : ℕ :=
  if expiries > 1 then
    if expiries ≥ logitfTfCatchupMax / logitfTfNew then logitfTfCatchupMax
    else expiries * logitfTfNew
  else logitfTfNew

def tickDrain (device : Device) (expiries : ℕ) : List UInt16 × Device :=
  let (newSamples, ring) := device.ring.drain logitfTfRing (sampleBudget expiries)
  (newSamples, { device with ring })

/-- What the drained block does to the window, the force and the starvation count. -/
def advance (device : Device) (newSamples : List UInt16) : Device :=
  if newSamples ≠ [] then
    let window := device.tfWindow.drop newSamples.length ++ newSamples
    { device with
      tfWindow := window
      tfLastCurrent := window.getLast?.getD centre
      tfStarvedTicks := 0 }
  else
    -- The count saturates one past the hold: `++` runs only while it is inside.
    let starved :=
      if device.tfStarvedTicks ≤ logitfTfStarveHoldTicks then device.tfStarvedTicks + 1
      else device.tfStarvedTicks
    if starved ≤ logitfTfStarveHoldTicks then { device with tfStarvedTicks := starved }
    else
      { device with
        tfStarvedTicks := starved
        tfWindow := device.tfWindow.drop logitfTfNew ++ List.replicate logitfTfNew centre
        tfLastCurrent := decayTowardsCentre device.tfLastCurrent }

def emitPacket (device : Device) (packet : Packet) (result : WriteResult) :
    Device × List Packet × Progress :=
  let (packets, rc) := device.write packet result
  (device.nextSeq, packets, .returned rc)

def emitIdle (device : Device) (armedIdle : Bool) (result : WriteResult) :
    Device × List Packet × Progress :=
  if armedIdle then (device, [], .returned 0)
  else if device.tfLastCurrent = centre then
    if device.tfIdleTicks + 1 ≥ logitfTfIdleGraceTicks then
      { device with tfIdleTicks := 0 }.stopClear result
    else
      let device := { device with tfIdleTicks := device.tfIdleTicks + 1 }
      device.emitPacket (.idle device.tfSeq device.tfLastCurrent) result
  else
    let device := { device with tfIdleTicks := 0 }
    device.emitPacket (.idle device.tfSeq device.tfLastCurrent) result

/-- The tick after its drain, up to the sleep of a teardown pair. -/
def tickEmit (device : Device) (paused armedIdle : Bool) (newSamples : List UInt16)
    (result : WriteResult) : Device × List Packet × Progress :=
  let device := device.advance newSamples
  if paused then (device, [], .returned 0)
  else if newSamples.isEmpty || blockIsSilent newSamples then device.emitIdle armedIdle result
  else
    let device := { device with tfIdleTicks := 0, tfArmedIdle := false }
    device.emitPacket
      (.stream device.tfSeq device.tfLastCurrent device.tfWindow
        (UInt8.ofNat newSamples.length))
      result

def streamRecordError (device : Device) (rc : ℤ) : Device :=
  if device.streamError = 0 then { device with streamError := rc } else device

inductive Opening where
  | opened
  | notOpened
  /-- The init sequence is refused after some packets. -/
  | initRefused (sent : ℕ)
  deriving DecidableEq, Repr

/-- Both passes of the init sequence, the sequence byte restarting with each. -/
def initPackets : List Packet :=
  let pass := (List.range tfInitPacketCount).map fun index => Packet.init (UInt8.ofNat (index + 1))
  pass ++ pass

def sessionEnsure (device : Device) (opening : Opening) : Device × List Packet :=
  if device.tfInitialized && device.hidrawOpen then (device, [])
  else
    match opening with
    | .notOpened => (device, [])
    | .initRefused sent => ({ device with hidrawOpen := false }, initPackets.take sent)
    | .opened =>
        ({ device with
            hidrawOpen := true
            tfInitialized := true
            tfPaused := false
            tfArmedIdle := false
            tfIdleTicks := 0
            tfSeq := UInt8.ofNat (tfInitPacketCount + 1) },
          initPackets)

/-- What `logitf_stream_start` resets before it asks for the timer and the thread. -/
def streamReset (device : Device) : Device :=
  { device.recentre with
    tfIdleTicks := 0
    tfStarvedTicks := 0
    streamError := 0
    tfTeardownPending := false
    ringDropped := 0
    tfSeq := if device.tfSeq = 0 then UInt8.ofNat (tfInitPacketCount + 1) else device.tfSeq }

end Device

end TrueForce.Stream
