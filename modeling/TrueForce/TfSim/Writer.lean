import TrueForce.Foundation.CInt
import Mathlib.Data.List.Basic
import Mathlib.Data.Nat.Notation

/-!
# The G923 writer

`G923Stream` sends the init sequence and hands the wheel to a writer thread that
emits one packet a tick, goes idle after a silence, initialises again when sound
returns, and attempts a stop packet before it ends.  The device is any answer to
each write in turn; what the writer reads of the live force comes with the tick.

Samples are floats and appear by their bits: only the test for zero and the
conversion to the wire look at them, and the conversion is a parameter.  The
payload of the init packets comes from a generated table and has no influence on
the writer, so an init packet is its index in that table.
-/

namespace TrueForce.TfSim.G923

open TrueForce.CInt

def windowSize : ℕ := 13

def newPerPacket : ℕ := 4

def maxPending : ℕ := (100 + 28) * 4

def centre : UInt16 := 0x8000

/-- `IDLE_TIMEOUT` in nanoseconds. -/
def idleTimeout : ℕ := 5 * 1000000000

def tfInitPacketCount : ℕ := 68

/-- The bits of an `f32`. -/
abbrev Sample := UInt32

/-- Both zeros compare equal to `0.0`. -/
def Sample.isZero (sample : Sample) : Bool := sample &&& 0x7fffffff == 0

inductive Sign where
  | normal
  | inverted
  deriving DecidableEq, Repr

/-- The most negative value has no negation and saturates. -/
def Sign.apply (value : ℤ) : Sign → ℤ
  | .normal => value
  | .inverted => if value = -0x8000 then 0x7fff else -value

def mixToWire (floatToI16 : Sample → Int16) (sample : Sample) (ffbRaw : Int32) (sign : Sign) :
    UInt16 :=
  let mixed := (floatToI16 sample).toInt + sign.apply (clampS16 ffbRaw.toInt)
  UInt16.ofInt (clampS16 mixed + 0x8000)

inductive Packet where
  | init (index : ℕ)
  | sample (seq : UInt8) (window : List UInt16)
  | stop (seq : UInt8)
  deriving DecidableEq, Repr

/-- The sequence byte of a sample or stop packet. -/
def Packet.number : Packet → Option UInt8
  | .init _ => none
  | .sample seq _ => some seq
  | .stop seq => some seq

inductive IdleAction where
  | stream
  | enterIdle
  | stayIdle
  | resume
  deriving DecidableEq, Repr

structure IdlePolicy where
  silentSince : Option ℕ
  idle : Bool
  deriving DecidableEq, Repr

namespace IdlePolicy

def new : IdlePolicy := ⟨none, false⟩

def tick (policy : IdlePolicy) (now : ℕ) (silent : Bool) : IdlePolicy × IdleAction :=
  if silent then
    if policy.idle then (policy, .stayIdle)
    else
      let since := policy.silentSince.getD now
      if now - since ≥ idleTimeout then (⟨some since, true⟩, .enterIdle)
      else (⟨some since, false⟩, .stream)
  else if policy.idle then (⟨none, false⟩, .resume)
  else (⟨none, false⟩, .stream)

end IdlePolicy

/-- What an observer sees: a tick with its clock and silence, or a write with its outcome. -/
inductive Entry where
  | tick (now : ℕ) (silent : Bool)
  | write (packet : Packet) (ok : Bool)
  deriving DecidableEq, Repr

inductive Cmd where
  | push (samples : List Sample)
  | stop
  deriving DecidableEq, Repr

structure Writer where
  seq : UInt8
  window : List UInt16
  pending : List Sample
  droppedStale : ℕ
  idle : IdlePolicy
  /-- What has happened so far, newest first. -/
  log : List Entry
  deriving DecidableEq, Repr

/-- One round of the writer's loop: what the pacer, the channel and the mirror give. -/
structure Round where
  now : ℕ
  commands : List Cmd
  disconnected : Bool
  ffbRaw : Int32
  deriving DecidableEq, Repr

/-- What the writer runs against: how each write ends, in turn, and its configuration. -/
structure Host where
  accepts : ℕ → Bool
  floatToI16 : Sample → Int16
  sign : Sign

def Entry.isWrite : Entry → Bool
  | .write _ _ => true
  | .tick _ _ => false

/-- The whole init sequence: two passes. -/
def initPackets : List Packet :=
  let pass := (List.range tfInitPacketCount).map Packet.init
  pass ++ pass

/-- The sequence byte behind the init sequence. -/
def firstSeq : UInt8 := UInt8.ofNat (tfInitPacketCount + 1)

namespace Writer

def new : Writer where
  seq := 0
  window := List.replicate windowSize centre
  pending := []
  droppedStale := 0
  idle := .new
  log := []

def note (writer : Writer) (entry : Entry) : Writer :=
  { writer with log := entry :: writer.log }

/-- `write_all` of one packet, and whether it went well. -/
def write (host : Host) (writer : Writer) (packet : Packet) : Writer × Bool :=
  let ok := host.accepts (writer.log.countP Entry.isWrite)
  (writer.note (.write packet ok), ok)

/-- Write packets until one is refused. -/
def writeAll (host : Host) (writer : Writer) : List Packet → Writer × Bool
  | [] => (writer, true)
  | packet :: packets =>
      match writer.write host packet with
      | (writer, true) => writer.writeAll host packets
      | (writer, false) => (writer, false)

def sendInit (host : Host) (writer : Writer) : Writer × Bool :=
  match writer.writeAll host initPackets with
  | (writer, true) =>
      ({ writer with seq := firstSeq, window := List.replicate windowSize centre }, true)
  | (writer, false) => (writer, false)

def nextSeq (writer : Writer) : Writer := { writer with seq := writer.seq + 1 }

def sendStop (host : Host) (writer : Writer) : Writer × Bool :=
  writer.nextSeq.write host (.stop writer.seq)

def pushPending (writer : Writer) (samples : List Sample) : Writer :=
  let pending := writer.pending ++ samples
  let excess := pending.length - maxPending
  { writer with
    pending := pending.drop excess
    droppedStale := writer.droppedStale + excess }

/-- Up to a packet's worth of samples, filled up with the last of them or zero. -/
def takeChunk (writer : Writer) : List Sample × Writer :=
  let taken := writer.pending.take newPerPacket
  let fill := taken.getLast?.getD 0
  (taken ++ List.replicate (newPerPacket - taken.length) fill,
    { writer with pending := writer.pending.drop newPerPacket })

def slideWindow (window fresh : List UInt16) : List UInt16 :=
  window.drop fresh.length ++ fresh

def sendSample (host : Host) (writer : Writer) (chunk : List Sample) (ffbRaw : Int32) :
    Writer × Bool :=
  let fresh := chunk.map fun sample => mixToWire host.floatToI16 sample ffbRaw host.sign
  let window := slideWindow writer.window fresh
  { writer.nextSeq with window }.write host (.sample writer.seq window)

def tick (host : Host) (writer : Writer) (now : ℕ) (ffbRaw : Int32) : Writer × Bool :=
  let (chunk, writer) := writer.takeChunk
  let silent := ffbRaw == 0 && chunk.all Sample.isZero
  let (idle, action) := writer.idle.tick now silent
  let writer := { writer with idle }.note (.tick now silent)
  match action with
  | .stream => writer.sendSample host chunk ffbRaw
  | .enterIdle => writer.sendStop host
  | .stayIdle => (writer, true)
  | .resume =>
      match writer.sendInit host with
      | (writer, true) => writer.sendSample host chunk ffbRaw
      | (writer, false) => (writer, false)

/-- Take the commands off the channel; a push may stand behind a stop. -/
def drain (writer : Writer) (commands : List Cmd) : Writer :=
  commands.foldl
    (fun writer command =>
      match command with
      | .push samples => writer.pushPending samples
      | .stop => writer) writer

/-- `run_writer`: the pacer runs out at the end of the rounds. -/
def run (host : Host) (writer : Writer) : List Round → Writer
  | [] => (writer.sendStop host).1
  | round :: rounds =>
      let writer := writer.drain round.commands
      if round.commands.contains .stop || round.disconnected then (writer.sendStop host).1
      else
        match writer.tick host round.now round.ffbRaw with
        | (writer, true) => writer.run host rounds
        | (writer, false) => (writer.sendStop host).1

end Writer

/-- The log of a stream from its opening to the end of its writer; a stream whose init
sequence is refused does not open. -/
def trace (host : Host) (rounds : List Round) : Option (List Entry) :=
  match Writer.new.sendInit host with
  | (writer, true) => some (writer.run host rounds).log
  | (_, false) => none

end TrueForce.TfSim.G923
