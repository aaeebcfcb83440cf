import TrueForce.Foundation.Transition
import Mathlib.Algebra.Group.Nat.Defs
import Mathlib.Logic.Function.Basic
import Mathlib.Tactic.Common

/-!
# The readers of the relay

Whoever binds the relay port is the hub and forwards every datagram to the
fan-out ports behind it; whoever finds it taken reads a fan-out port and keeps
trying.  `RelayListener` in the daemon and `relay_in` in the bridge are written
after the same rules, with one difference in the order of their loops: the bridge
tries the relay port between receiving a datagram and forwarding it.
-/

namespace TrueForce.Udp.FanOut

open Transition

/-- Which program a reader is. -/
inductive Impl where
  /-- `RelayListener` -/
  | rust
  /-- `logi-rpm-bridge` -/
  | c
  deriving DecidableEq, Repr

/-- A copy of the `number`th datagram of a producer. -/
structure Datagram where
  number : ℕ
  payload : List UInt8
  /-- The reader that forwarded this copy, if one did. -/
  via : Option ℕ
  deriving DecidableEq

structure Socket where
  holder : ℕ
  queue : List Datagram
  deriving DecidableEq

/-- What a port number is to the kernel. -/
def wire (port : ℕ) : ℕ := port % 2 ^ 16

/-- The fan-out addresses of a hub: checked in the one program, cut to 16 bits in the other. -/
def fanoutPorts (impl : Impl) (base : ℕ) : List ℕ :=
  match impl with
  | .rust => [base + 2, base + 3, base + 4].filter (· < 2 ^ 16)
  | .c => [wire (base + 2), wire (base + 3), wire (base + 4)]

/-- The ports that are tried in turn. -/
def candidates (impl : Impl) (base : ℕ) : List ℕ := wire base :: fanoutPorts impl base

/-- `PROMOTE_INTERVAL`, in seconds. -/
def promoteInterval : ℕ := 2

/-- The length of the receive buffer. -/
def bufferLen : Impl → ℕ
  | .rust => 2048
  | .c => 64

/-- Where in its code a reader is. -/
inductive Phase where
  | opening (tried : ℕ)
  | idle
  /-- The bridge has called `recv`. -/
  | received (datagram : Option Datagram)
  /-- The relay port is bound, and the fan-out port not yet closed. -/
  | promoting (datagram : Option Datagram)
  | forwarding (datagram : Datagram) (left : List ℕ)
  deriving DecidableEq

structure Reader where
  impl : Impl
  base : ℕ
  port : ℕ
  hub : Bool
  nextPromote : ℕ
  phase : Phase
  deriving DecidableEq

namespace Reader

def listening (reader : Reader) : Bool :=
  match reader.phase with
  | .opening _ => false
  | .idle | .received _ | .promoting _ | .forwarding _ _ => true

/-- What comes after a datagram, or after nothing. -/
def judge (reader : Reader) : Option Datagram → Phase
  | none => .idle
  | some datagram =>
      .forwarding datagram (if reader.hub then fanoutPorts reader.impl reader.base else [])

/-- A follower whose interval is over. -/
def due (reader : Reader) (now : ℕ) : Bool := !reader.hub && reader.nextPromote ≤ now

end Reader

structure Forward where
  number : ℕ
  source : ℕ
  target : ℕ
  deriving DecidableEq

structure Take where
  reader : ℕ
  number : ℕ
  port : ℕ
  deriving DecidableEq

structure State where
  sockets : ℕ → Option Socket
  readers : ℕ → Option Reader
  /-- How many readers there have been. -/
  born : ℕ
  /-- The ports that producers sent to, by number. -/
  origins : List ℕ
  forwards : List Forward
  takes : List Take
  /-- Which reader was handed which datagram. -/
  handed : List (ℕ × ℕ)

namespace State

def initial : State where
  sockets _ := none
  readers _ := none
  born := 0
  origins := []
  forwards := []
  takes := []
  handed := []

def setReader (state : State) (id : ℕ) (reader : Option Reader) : State :=
  { state with readers := Function.update state.readers id reader }

def setSocket (state : State) (port : ℕ) (socket : Option Socket) : State :=
  { state with sockets := Function.update state.sockets port socket }

/-- A datagram for a port nobody holds is lost, and any other may be. -/
def deliver (state : State) (port : ℕ) (datagram : Datagram) (kept : Bool) : State :=
  match state.sockets port with
  | some socket =>
      if kept then
        state.setSocket port (some { socket with queue := socket.queue ++ [datagram] })
      else state
  | none => state

/-- Tries the next port. -/
def bind (state : State) (id now : ℕ) (reader : Reader) (tried : ℕ) : State :=
  match (candidates reader.impl reader.base)[tried]? with
  | none => state.setReader id none
  | some port =>
      if state.sockets port = none then
        (state.setSocket port (some { holder := id, queue := [] })).setReader id (some { reader with
          port, hub := tried = 0, nextPromote := now + promoteInterval, phase := .idle })
      else state.setReader id (some { reader with phase := .opening (tried + 1) })

/-- Takes the first datagram that waits. -/
def receive (state : State) (id : ℕ) (reader : Reader) (datagram : Datagram)
    (waiting : List Datagram) : State :=
  let datagram :=
    { datagram with payload := datagram.payload.take (bufferLen reader.impl) }
  let phase :=
    match reader.impl with
    | .rust => reader.judge (some datagram)
    | .c => .received (some datagram)
  let state := { state with
    takes := { reader := id, number := datagram.number, port := reader.port } :: state.takes }
  (state.setSocket reader.port (some { holder := id, queue := waiting })).setReader id
    (some { reader with phase })

/-- `poll_promotion` and `relay_promote`, with what the reader has in hand. -/
def promote (state : State) (id now : ℕ) (reader : Reader) (inHand : Option Datagram) : State :=
  if reader.due now then
    let reader := { reader with nextPromote := now + promoteInterval }
    if state.sockets (wire reader.base) = none then
      (state.setSocket (wire reader.base) (some { holder := id, queue := [] })).setReader id
        (some { reader with phase := .promoting inHand })
    else state.setReader id (some { reader with phase := reader.judge inHand })
  else state.setReader id (some { reader with phase := reader.judge inHand })

/-- The fan-out socket is closed and the relay socket put in its place. -/
def swap (state : State) (id : ℕ) (reader : Reader) (inHand : Option Datagram) : State :=
  let hub := { reader with port := wire reader.base, hub := true }
  (state.setSocket reader.port none).setReader id (some { hub with phase := hub.judge inHand })

def forward (state : State) (id : ℕ) (reader : Reader) (datagram : Datagram) (target : ℕ)
    (left : List ℕ) (kept : Bool) : State :=
  let state := { state with
    forwards := { number := datagram.number, source := reader.port, target } :: state.forwards }
  (state.deliver target { datagram with via := some id } kept).setReader id
    (some { reader with phase := .forwarding datagram left })

def finish (state : State) (id : ℕ) (reader : Reader) (datagram : Datagram) : State :=
  { state with handed := (id, datagram.number) :: state.handed }.setReader id
    (some { reader with phase := .idle })

/-- The kernel closes what the reader held. -/
def exit (state : State) (id : ℕ) : State :=
  { state with sockets := fun port => (state.sockets port).filter fun socket => socket.holder ≠ id
    }.setReader id none

end State

inductive Event where
  | open (impl : Impl) (base : ℕ)
  | bind (id now : ℕ)
  | receive (id : ℕ)
  /-- The bridge's `recv` gives up after a second. -/
  | timeout (id : ℕ)
  | promote (id now : ℕ)
  | swap (id : ℕ)
  | forward (id : ℕ) (kept : Bool)
  | finish (id : ℕ)
  | exit (id : ℕ)
  /-- A producer sends. -/
  | send (port : ℕ) (payload : List UInt8) (kept : Bool)
  deriving DecidableEq

def step (state : State) : Event → Option State
  | .open impl base =>
      some ({ state with born := state.born + 1 }.setReader state.born (some {
        impl, base, port := 0, hub := false, nextPromote := 0, phase := .opening 0 }))
  | .bind id now => do
      let reader ← state.readers id
      match reader.phase with
      | .opening tried => some (state.bind id now reader tried)
      | _ => none
  | .receive id => do
      let reader ← state.readers id
      let socket ← state.sockets reader.port
      match reader.phase, socket.queue with
      | .idle, datagram :: waiting => some (state.receive id reader datagram waiting)
      | _, _ => none
  | .timeout id => do
      let reader ← state.readers id
      match reader.phase, reader.impl with
      | .idle, .c => some (state.setReader id (some { reader with phase := .received none }))
      | _, _ => none
  | .promote id now => do
      let reader ← state.readers id
      match reader.phase, reader.impl with
      | .idle, .rust => some (state.promote id now reader none)
      | .received inHand, .c => some (state.promote id now reader inHand)
      | _, _ => none
  | .swap id => do
      let reader ← state.readers id
      match reader.phase with
      | .promoting inHand => some (state.swap id reader inHand)
      | _ => none
  | .forward id kept => do
      let reader ← state.readers id
      match reader.phase with
      | .forwarding datagram (target :: left) =>
          some (state.forward id reader datagram target left kept)
      | _ => none
  | .finish id => do
      let reader ← state.readers id
      match reader.phase with
      | .forwarding datagram [] => some (state.finish id reader datagram)
      | _ => none
  | .exit id => (state.readers id).map fun _ => state.exit id
  | .send port payload kept =>
      some ({ state with origins := state.origins ++ [port] }.deliver port
        { number := state.origins.length, payload, via := none } kept)

def system : System State Event where
  initial state := state = State.initial
  step := step

end TrueForce.Udp.FanOut
