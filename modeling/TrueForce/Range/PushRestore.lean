import TrueForce.Foundation.Transition
import Mathlib.Data.Int.Notation
import Mathlib.Data.Nat.Notation
import Mathlib.Logic.Function.Basic

/-!
# The range push and its restore

When the SDK pushes its blind 90-degree range over the wheel, the driver arms a
one-shot work item that puts the previous range back.  Three parties share the
arming flag `tm_push_seen`, the generation `tm_restore_gen` and the range cache:

* `hidpp_dd_texmerge_seen_range_push`, serialised by the shim lock;
* `hidpp_dd_texmerge_restore_work`, one work item that can be queued again while it runs;
* `wheel_range_store`, any number of writers at once.

Every access to the flag and to the generation is a step of its own, so the
generation increments are a read followed by a write.  A schedule that runs a
party's steps back to back is one of the interleavings.  The attempt counters
only feed log messages and are left out; the model covers the life of the device
before its teardown, where `stopping` reads zero.
-/

namespace TrueForce.Range

open TrueForce.Transition

inductive RangePath where
  | g920
  | compat
  | native
  deriving DecidableEq, Repr

/-- The range `hidpp_dd_set_range_hw` puts on the wheel and into its cache. -/
def RangePath.settle : RangePath → ℕ → ℕ
  | .g920, range => min (max range 180) 900
  | .compat, range => range
  | .native, range => range

/-- The range `wheel_range_store` asks for, `clamp(range, 90, 2700)`. -/
def requestedRange (request : ℤ) : ℕ :=
  (min (max request 90) 2700).toNat

def sdkBlindRangeDeg : ℕ := 90

inductive StorePhase where
  | idle
  | setting (range : ℕ)
  | clearingSeen
  | readingGen
  | writingGen (gen : UInt32)
  deriving DecidableEq, Repr

inductive PushPhase where
  | idle
  | readingRange (deg : ℕ)
  | settingSeen (cur : ℕ)
  | recordingDeg (cur : ℕ)
  | readingGen
  | writingGen (gen : UInt32)
  | scheduling
  deriving DecidableEq, Repr

inductive WorkPhase where
  | idle
  | readingWant
  | readingGen (want : ℕ)
  | sleeping (want : ℕ) (gen : UInt32)
  | checkingGen (want : ℕ) (gen : UInt32)
  | setting (want : ℕ) (gen : UInt32)
  | checkingLast (gen : UInt32)
  | clearingSeen
  deriving DecidableEq, Repr

/-- The driver fields the three parties share, their program counters, and what
has been SET on the wheel so far. -/
structure State where
  path : RangePath
  range : ℕ
  rangeRestore : Bool
  tmPushSeen : Bool
  tmRestoreDeg : ℕ
  tmRestoreGen : UInt32
  pending : Bool
  push : PushPhase
  work : WorkPhase
  store : ℕ → StorePhase
  lastSet : Option ℕ
  /-- The range last SET on behalf of a user. -/
  userSet : Option ℕ
  /-- A user write has completed since the last blind push. -/
  userSincePush : Bool

inductive Event where
  | push (deg : ℕ)
  | pushStep
  | workStep (accepted : Bool)
  | store (writer : ℕ) (request : ℤ)
  | storeStep (writer : ℕ) (accepted : Bool)
  | setRangeRestore (enabled : Bool)
  deriving DecidableEq, Repr

namespace State

/-- `hidpp_dd_set_range_hw` when the wheel accepts the command: the cache follows the wheel. -/
def setRangeHw (state : State) (range : ℕ) : State :=
  { state with
    range := state.path.settle range
    lastSet := some (state.path.settle range) }

/-- `schedule_work`: a no-op on an item that is queued already. -/
def scheduleWork (state : State) : State := { state with pending := true }

def setStore (state : State) (writer : ℕ) (phase : StorePhase) : State :=
  { state with store := Function.update state.store writer phase }

def beginPush (state : State) (deg : ℕ) : Option State :=
  match state.push with
  | .idle =>
      if deg = sdkBlindRangeDeg then
        let seen := { state with userSincePush := false }
        if !state.rangeRestore || state.tmPushSeen then some seen
        else some { seen with push := .readingRange deg }
      else some state
  | _ => none

def stepPush (state : State) : Option State :=
  match state.push with
  | .idle => none
  | .readingRange deg =>
      if state.range = 0 ∨ state.range = deg then some { state with push := .idle }
      else some { state with push := .settingSeen state.range }
  | .settingSeen cur => some { state with tmPushSeen := true, push := .recordingDeg cur }
  | .recordingDeg cur => some { state with tmRestoreDeg := cur, push := .readingGen }
  | .readingGen => some { state with push := .writingGen state.tmRestoreGen }
  | .writingGen gen => some { state with tmRestoreGen := gen + 1, push := .scheduling }
  | .scheduling => some { state.scheduleWork with push := .idle }

/-- The next access of the work item; `accepted` is the wheel's answer to a SET. -/
def stepWork (state : State) (accepted : Bool) : Option State :=
  match state.work with
  | .idle =>
      if state.pending then some { state with pending := false, work := .readingWant } else none
  | .readingWant => some { state with work := .readingGen state.tmRestoreDeg }
  | .readingGen want => some { state with work := .sleeping want state.tmRestoreGen }
  | .sleeping want gen =>
      if state.tmPushSeen then some { state with work := .checkingGen want gen }
      else some { state with work := .checkingLast gen }
  | .checkingGen want gen =>
      if state.tmRestoreGen = gen then some { state with work := .setting want gen }
      else some { state with work := .checkingLast gen }
  | .setting want gen =>
      if accepted then some { state.setRangeHw want with work := .checkingLast gen }
      else some { state with work := .checkingLast gen }
  | .checkingLast gen =>
      if state.tmRestoreGen = gen then some { state with work := .clearingSeen }
      else some { state with work := .idle }
  | .clearingSeen => some { state with tmPushSeen := false, work := .idle }

def beginStore (state : State) (writer : ℕ) (request : ℤ) : Option State :=
  match state.store writer with
  | .idle => some (state.setStore writer (.setting (requestedRange request)))
  | _ => none

/-- The next access of a writer; a SET the wheel refuses ends the call with its error. -/
def stepStore (state : State) (writer : ℕ) (accepted : Bool) : Option State :=
  match state.store writer with
  | .idle => none
  | .setting range =>
      if accepted then
        some { (state.setRangeHw range).setStore writer .clearingSeen with
          userSet := some (state.path.settle range) }
      else some (state.setStore writer .idle)
  | .clearingSeen => some { state.setStore writer .readingGen with tmPushSeen := false }
  | .readingGen => some (state.setStore writer (.writingGen state.tmRestoreGen))
  | .writingGen gen =>
      some { state.setStore writer .idle with tmRestoreGen := gen + 1, userSincePush := true }

def step (state : State) : Event → Option State
  | .push deg => state.beginPush deg
  | .pushStep => state.stepPush
  | .workStep accepted => state.stepWork accepted
  | .store writer request => state.beginStore writer request
  | .storeStep writer accepted => state.stepStore writer accepted
  | .setRangeRestore enabled => some { state with rangeRestore := enabled }

/-- The device as it is set up: the queried range in the cache and nothing under way. -/
def start (path : RangePath) (range : ℕ) (rangeRestore : Bool) : State where
  path := path
  range := range
  rangeRestore := rangeRestore
  tmPushSeen := false
  tmRestoreDeg := 0
  tmRestoreGen := 0
  pending := false
  push := .idle
  work := .idle
  store := fun _ => .idle
  lastSet := none
  userSet := none
  userSincePush := false

def WorkQuiet (state : State) : Prop := state.pending = false ∧ state.work = .idle

def StoresQuiet (state : State) : Prop := ∀ writer, state.store writer = .idle

end State

def restoreSystem : System State Event where
  initial state := ∃ path range rangeRestore, state = State.start path range rangeRestore
  step := State.step

end TrueForce.Range
