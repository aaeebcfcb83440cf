import TrueForce.Foundation.Transition
import TrueForce.Udp.RelayWire
import Mathlib.Logic.Function.Basic

/-!
# The rev strip of the texture bridge

One turn of the bridge's loop receives, sets the strip and writes the speed of the engine.
Wheels come and go between the steps.  `errno`, the clocks and what a look for the wheel
finds are inputs, and so is the fate of every write: one whose file opens but that is lost
when the file is closed counts as a success.  The bridge's other half, the forwarding of
datagrams, and its exit on a signal are left out.
-/

namespace TrueForce.Udp.Bridge

open TrueForce.Binary32 TrueForce.ByteBuffer TrueForce.Transition

inductive Errno where
  /-- `EAGAIN`, which is `EWOULDBLOCK`. -/
  | again
  | noEnt
  | noDev
  | addrInUse
  | other
  deriving DecidableEq

def pathWentAway (err : Errno) : Bool := err == .noEnt || err == .noDev

/-- The directory of a wheel's attributes. -/
abbrev Path := ℕ

structure Target where
  rpm : Option Path
  rev : Option Path
  deriving DecidableEq

/-- The target that a look makes of the wheel it finds and the strip that wheel names. -/
def resolveTarget : Option (Path × Option Path) → Target
  | none => { rpm := none, rev := none }
  | some (rpm, rev) => { rpm := some rpm, rev }

/-- The second at which the wheel is looked for, and what would be found. -/
structure Look where
  now : ℕ
  found : Option (Path × Option Path)

/-- What becomes of a `write_attr`. -/
inductive Reply where
  | stored
  | lost
  | failed (err : Errno)
  deriving DecidableEq

/-- `write_attr(...) < 0 && path_went_away(errno)` -/
def Reply.wentAway : Reply → Bool
  | .stored | .lost => false
  | .failed err => pathWentAway err

/-- The second of a turn, and how the bind of a promotion in it fails, if it does. -/
structure Promotion where
  now : ℕ
  bind : Option Errno

structure Sample where
  rpm : F32
  firstLed : F32
  maxRpm : F32

/-- What the bridge takes from a datagram. -/
def sampleOf (datagram : Bytes) : Option Sample :=
  let pkt := datagram.take 64
  if pkt.length < 28 ∨ pkt.take 4 ≠ Relay.magic ∨ pkt[4]? ≠ some Relay.version then none
  else
    let rpm := field pkt 14
    let maxRpm := field pkt 18
    let firstLed := if 32 ≤ pkt.length then field pkt 28 else zero
    if le zero rpm && lt rpm (ofNat 30000) then
      some {
        rpm
        firstLed
        maxRpm :=
          if lt maxRpm zero then zero
          else if le (ofNat 30000) maxRpm then ofNat 29999
          else maxRpm }
    else none

/-- `rev_level` in some mode. -/
structure RevMapping where
  level : Sample → ℤ
  low : ∀ sample, -1 ≤ level sample
  high : ∀ sample, level sample ≤ 10

def promoteInterval : ℕ := 2

/-- In nanoseconds. -/
def rpmInterval : ℤ := 10 * 1000 * 1000

structure State where
  target : Target
  /-- What the strip shows as far as the bridge knows, -1 where it does not. -/
  lastLevel : ℤ
  lastResolve : ℕ
  hub : Bool
  nextPromote : ℕ
  /-- When the speed was last written. -/
  last : ℤ
  /-- The sample whose speed is still to be written in this turn. -/
  sample : Option Sample
  /-- What the strip of each wheel shows. -/
  strips : Path → Option ℤ

namespace State

def reresolve (state : State) (look : Look) : State :=
  if look.now = state.lastResolve then state
  else { state with lastResolve := look.now, target := resolveTarget look.found }

def promotes (state : State) (promotion : Promotion) : Bool :=
  !(state.hub || promotion.now < state.nextPromote)

def relayPromote (state : State) (promotion : Promotion) : State :=
  if state.promotes promotion then
    { state with
      nextPromote := promotion.now + promoteInterval
      hub := promotion.bind.isNone }
  else state

/-- `errno` after the promotion of a turn whose `recv` has set it. -/
def errnoAfter (state : State) (promotion : Promotion) (errno : Errno) : Errno :=
  if state.promotes promotion then promotion.bind.getD errno else errno

/-- A strip that a write of a level reaches shows it; a path without a wheel shows nothing. -/
def storeLevel (state : State) (path : Path) (level : ℤ) (reply : Reply) : State :=
  if reply = .stored then
    { state with
      strips := Function.update state.strips path ((state.strips path).map fun _ => level) }
  else state

def darken (state : State) (errno : Errno) (reply : Reply) : State :=
  match state.target.rev with
  | none => state
  | some path =>
      if errno = .again ∧ 0 < state.lastLevel then
        { state.storeLevel path 0 reply with lastLevel := 0 }
      else state

def recvFailed (state : State) (errno : Errno) (promotion : Promotion) (reply : Reply) : State :=
  (state.relayPromote promotion).darken (state.errnoAfter promotion errno) reply

def showLevel (state : State) (level : ℤ) (reply : Reply) (look : Look) : State :=
  match state.target.rev with
  | none => state
  | some path =>
      if 0 ≤ level ∧ level ≠ state.lastLevel then
        let written := state.storeLevel path level reply
        { if reply.wentAway then written.reresolve look else written with lastLevel := level }
      else state

def datagram (mapping : RevMapping) (state : State) (bytes : Bytes) (promotion : Promotion)
    (reply : Reply) (look : Look) : State :=
  match sampleOf bytes with
  | none => state.relayPromote promotion
  | some sample =>
      { (state.relayPromote promotion).showLevel (mapping.level sample) reply look with
        sample := some sample }

/-- The speed is due, and a wheel that is gone is looked for. -/
def beginRpm (state : State) (now : ℤ) (look : Look) : State :=
  let begun := { state with last := now }
  if begun.target.rpm.isNone then begun.reresolve look else begun

def writeRpm (state : State) (now : ℤ) (first : Look) (reply : Reply) (second : Look) : State :=
  if now - state.last < rpmInterval then state
  else
    let begun := state.beginRpm now first
    if begun.target.rpm.isSome && reply.wentAway then
      { begun.reresolve second with lastLevel := -1 }
    else begun

end State

inductive Event where
  | unplug (path : Path)
  | plug (path : Path)
  /-- `recv` returns with an error; a timeout is `Errno.again`. -/
  | recvFailed (errno : Errno) (promotion : Promotion) (reply : Reply)
  | datagram (bytes : Bytes) (promotion : Promotion) (reply : Reply) (look : Look)
  | writeRpm (now : ℤ) (first : Look) (reply : Reply) (second : Look)

/-- A wheel that is plugged in is dark. -/
def State.step (mapping : RevMapping) (state : State) : Event → Option State
  | .unplug path => some { state with strips := Function.update state.strips path none }
  | .plug path => some { state with strips := Function.update state.strips path (some 0) }
  | .recvFailed errno promotion reply =>
      if state.sample.isNone then some (state.recvFailed errno promotion reply) else none
  | .datagram bytes promotion reply look =>
      if state.sample.isNone then some (state.datagram mapping bytes promotion reply look)
      else none
  | .writeRpm now first reply second =>
      if state.sample.isSome then
        some { state.writeRpm now first reply second with sample := none }
      else none

/-- The bridge with its target resolved and its socket open. -/
def State.opened (rpm : Path) (rev : Option Path) (hub : Bool) (nextPromote : ℕ)
    (strips : Path → Option ℤ) : State where
  target := resolveTarget (some (rpm, rev))
  lastLevel := -1
  lastResolve := 0
  hub
  nextPromote
  last := 0
  sample := none
  strips

/-- The strip of the wheel that the paths name. -/
def State.strip (state : State) : Option ℤ := state.target.rev.bind state.strips

def State.Coherent (state : State) : Prop :=
  0 ≤ state.lastLevel → ∀ level ∈ state.strip, level = state.lastLevel

def State.Dark (state : State) : Prop := ∀ level ∈ state.strip, level = 0

def bridge (mapping : RevMapping) : System State Event where
  initial state := ∃ rpm rev hub nextPromote strips,
    state = .opened rpm rev hub nextPromote strips
  step := State.step mapping

/-- The same, started on a wheel whose strip is dark. -/
def darkBridge (mapping : RevMapping) : System State Event where
  initial state := (bridge mapping).initial state ∧ state.Dark
  step := State.step mapping

/-- Writes to the strip reach the wheel that is named after them or find their level there;
a wheel is put back in its place, or found again by the write of the speed, only when the
level that the bridge remembers is the one shown. -/
def State.Faithful (mapping : RevMapping) (state : State) : Event → Prop
  | .unplug _ => True
  | .plug path => state.target.rev = some path → state.lastLevel ≤ 0
  | .recvFailed errno promotion reply =>
      state.errnoAfter promotion errno = .again → 0 < state.lastLevel →
        reply = .stored ∨ state.strip = none
  | .datagram bytes _ reply look => ∀ sample ∈ sampleOf bytes, state.target.rev ≠ none →
      0 ≤ mapping.level sample → mapping.level sample ≠ state.lastLevel →
        reply = .stored ∨
          ∀ level ∈ (if reply.wentAway then state.reresolve look else state).strip,
            level = mapping.level sample
  | .writeRpm now first reply _ => rpmInterval ≤ now - state.last → state.target.rpm = none →
      0 ≤ state.lastLevel → reply.wentAway = false →
        ∀ level ∈ (state.reresolve first).strip, level = state.lastLevel

/-- A wheel that is looked for because of the speed is dark when it is found. -/
def State.FindsDark (state : State) : Event → Prop
  | .writeRpm now first reply second => rpmInterval ≤ now - state.last →
      state.target.rpm = none ∨ reply.wentAway = true →
        (state.writeRpm now first reply second).Dark
  | _ => True

end TrueForce.Udp.Bridge
