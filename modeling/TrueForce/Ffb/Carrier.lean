import TrueForce.Ffb.Effect

/-!
# The force carriers

The part of a tick that puts its force on the wire: the TrueForce texture
channel (`hidpp_dd_tf_tick`), the zero-force idle gate, and the plain force
packet (`hidpp_dd_ff_send_force`).  Every packet is either queued or dropped; an
attempt to queue one sees some completed work before it reads the pending
count, and its allocation succeeds or fails.  The error counter only feeds a log
message and is left out.
-/

namespace TrueForce.Ffb

def maxPendingWork : ℕ := 8

def tfNewSamples : ℕ := 4

def tfWindowSlots : ℕ := 13

def tfMaxAmplitude : ℤ := 16383

def tfStopMaxAttempts : ℕ := 1000

def kfIdleGraceTicks : ℕ := 500

inductive TfCommand where
  | start
  | stop
  deriving DecidableEq, Repr

inductive Packet where
  | force (cur : ℕ)
  | control (command : TfCommand) (seq : UInt8)
  | stream (seq : UInt8) (cur : ℕ) (window : List ℕ)
  deriving DecidableEq, Repr

structure Attempt where
  completed : ℕ
  allocated : Bool
  deriving DecidableEq, Repr

structure SendEnv where
  /-- `hidpp_dd_foreign_stream_active` as the stream path reads it. -/
  foreignStream : Bool
  /-- `hidpp_dd_foreign_stream_active` as the force path reads it. -/
  foreignForce : Bool
  stream : Attempt
  stop : Attempt
  start : Attempt
  force : Attempt
  deriving DecidableEq, Repr

/-- The environment on a device that is not initialised or stopping: every packet is refused, and
only the stream path still publishes for a foreign stream. -/
def SendEnv.refuse (env : SendEnv) : SendEnv :=
  { env with
    foreignForce := false
    stream := { env.stream with allocated := false }
    stop := { env.stop with allocated := false }
    start := { env.start with allocated := false }
    force := { env.force with allocated := false } }

structure Carrier where
  tfStreaming : Bool
  tfRecentreSent : Bool
  tfStopSent : Bool
  tfStopAttempts : ℕ
  tfSeq : UInt8
  tfWindow : List ℕ
  kfIdleTicks : ℕ
  kfGated : Bool
  pendingWork : ℕ
  /-- The force last queued or published, in offset binary. -/
  delivered : ℕ
  /-- Everything queued so far, newest first. -/
  queued : List Packet
  /-- What `yield_force` has held so far, newest first. -/
  yieldForces : List ℕ
  deriving DecidableEq, Repr

namespace Carrier

def zero : Carrier where
  tfStreaming := false
  tfRecentreSent := false
  tfStopSent := false
  tfStopAttempts := 0
  tfSeq := 0
  tfWindow := List.replicate tfWindowSlots centre
  kfIdleTicks := 0
  kfGated := false
  pendingWork := 0
  delivered := centre
  queued := []
  yieldForces := []

/-- Leave the force to the owner of the stream, who writes it into the packets of his own. -/
def publish (carrier : Carrier) (cur : ℕ) : Carrier :=
  { carrier with delivered := cur, yieldForces := cur :: carrier.yieldForces }

def queue (carrier : Carrier) (attempt : Attempt) (limit : ℕ) (packet : Packet) :
    Carrier × Bool :=
  let pending := carrier.pendingWork - attempt.completed
  if pending < limit ∧ attempt.allocated then
    ({ carrier with pendingWork := pending + 1, queued := packet :: carrier.queued }, true)
  else ({ carrier with pendingWork := pending }, false)

/-- `hidpp_dd_tf_queue_raw`, which leaves two slots of the pending budget to the force packets. -/
def tfQueueRaw (carrier : Carrier) (attempt : Attempt) (packet : Packet) : Carrier × Bool :=
  carrier.queue attempt (maxPendingWork - 2) packet

/-- `hidpp_dd_tf_queue_ctrl`: the sequence advances only with a queued packet. -/
def tfQueueCtrl (carrier : Carrier) (attempt : Attempt) (command : TfCommand) : Carrier × Bool :=
  match carrier.tfQueueRaw attempt (.control command carrier.tfSeq) with
  | (next, true) => ({ next with tfSeq := next.tfSeq + 1 }, true)
  | (next, false) => (next, false)

def nextWindow (carrier : Carrier) : Option (List ℕ) → List ℕ
  | none => carrier.tfWindow
  | some quartet => carrier.tfWindow.drop tfNewSamples ++ quartet

/-- `hidpp_dd_tf_queue_stream`: the window advances only with a queued packet. -/
def tfQueueStream (carrier : Carrier) (foreign : Bool) (attempt : Attempt) (force : ℤ)
    (quartet : Option (List ℕ)) : Carrier × Bool :=
  let cur := forceToOffsetBinary force
  if foreign then (carrier.publish cur, true)
  else
    let window := carrier.nextWindow quartet
    match carrier.tfQueueRaw attempt (.stream carrier.tfSeq cur window) with
    | (next, true) =>
        ({ next with tfSeq := next.tfSeq + 1, tfWindow := window, delivered := cur }, true)
    | (next, false) => (next, false)

def textureSlot (tunables : Tunables) (sample : ℤ) : ℕ :=
  forceToOffsetBinary (CInt.clamp (scaleU16 (scaleU16 sample tunables.gain) tunables.strength)
    (-tfMaxAmplitude) tfMaxAmplitude)

def sendStopHalf (carrier : Carrier) (env : SendEnv) : Carrier :=
  if carrier.tfStopSent then carrier
  else
    match carrier.tfQueueCtrl env.stop .stop with
    | (next, sent) => { next with tfStopSent := sent }

/-- Try the teardown pair of `0x04` and `0x03`: `done` once both are queued, or once the
attempts are used up. -/
def sendStopPair (carrier : Carrier) (env : SendEnv) : Carrier × Bool :=
  let stopped := carrier.sendStopHalf env
  let (armed, started) :=
    if stopped.tfStopSent then stopped.tfQueueCtrl env.start .start else (stopped, false)
  if started then ({ armed with tfStopSent := false, tfStopAttempts := 0 }, true)
  else if tfStopMaxAttempts ≤ armed.tfStopAttempts + 1 then
    ({ armed with tfStopSent := false, tfStopAttempts := 0 }, true)
  else ({ armed with tfStopAttempts := armed.tfStopAttempts + 1 }, false)

def sendRecentre (carrier : Carrier) (env : SendEnv) (force : ℤ) : Carrier × Bool :=
  if carrier.tfRecentreSent then (carrier, false)
  else
    let centred := { carrier with tfWindow := List.replicate tfWindowSlots centre }
    match centred.tfQueueStream env.foreignStream env.stream force none with
    | (next, sent) => ({ next with tfRecentreSent := sent }, sent)

/-- `hidpp_dd_tf_tick` with no texture playing: wind the stream down. -/
def tfWindDown (carrier : Carrier) (env : SendEnv) (force : ℤ) : Carrier × Bool :=
  if carrier.tfStreaming then
    let (recentred, sent) := carrier.sendRecentre env force
    let (next, done) := recentred.sendStopPair env
    ({ next with tfStreaming := next.tfStreaming && !done }, sent)
  else (carrier, false)

def tfOpen (carrier : Carrier) (env : SendEnv) : Carrier × Bool :=
  if carrier.tfStreaming && !carrier.tfStopSent then (carrier, true)
  else
    match carrier.tfQueueCtrl env.start .start with
    | (next, true) =>
        ({ next with
          tfStreaming := true, tfRecentreSent := false, tfStopSent := false, tfStopAttempts := 0 },
          true)
    | (next, false) => (next, false)

/-- `hidpp_dd_tf_tick`: whether a stream packet carried this tick's force. -/
def tfTick (carrier : Carrier) (tunables : Tunables) (env : SendEnv) (anyTexture : Bool)
    (samples : List ℤ) (force : ℤ) : Carrier × Bool :=
  if anyTexture then
    match carrier.tfOpen env with
    | (opened, true) => opened.tfQueueStream env.foreignStream env.stream force
        (some (samples.map (textureSlot tunables)))
    | (next, false) => (next, false)
  else carrier.tfWindDown env force

/-- The zero-force idle gate of the timer callback. -/
def idleGate (carrier : Carrier) (env : SendEnv) (idle : Bool) : Carrier :=
  if idle then
    if carrier.kfIdleTicks < kfIdleGraceTicks then
      { carrier with kfIdleTicks := carrier.kfIdleTicks + 1 }
    else if carrier.kfGated then carrier
    else
      match carrier.sendStopPair env with
      | (next, done) => { next with kfGated := done }
  else { carrier with kfIdleTicks := 0, kfGated := false }

/-- The force packet is dropped: nobody else owns the stream, and the queue is full or the
allocation fails. -/
def DropsForce (carrier : Carrier) (env : SendEnv) : Prop :=
  env.foreignForce = false ∧
    (maxPendingWork ≤ carrier.pendingWork - env.force.completed ∨ env.force.allocated = false)

/-- `hidpp_dd_ff_send_force` on an initialised device that is not stopping. -/
def sendForce (carrier : Carrier) (tunables : Tunables) (env : SendEnv) (force : ℤ) : Carrier :=
  let scaled := if tunables.g920 then scaleU16 force tunables.strength else force
  let cur := forceToOffsetBinary scaled
  if env.foreignForce then carrier.publish cur
  else
    match carrier.queue env.force maxPendingWork (.force cur) with
    | (next, true) => { next with delivered := cur }
    | (next, false) => next

end Carrier

end TrueForce.Ffb
