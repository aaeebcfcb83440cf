import TrueForce.Foundation.Transition
import TrueForce.Stream.Device

/-!
# Interleavings of the stream's parties

The stream thread, any number of producers, clears and pauses, and one lifecycle
call at a time act on the device in critical sections.  A party that lets go of
its lock between two sections has a phase, and every other party may run there:
a push between its error check and its copy, a clear between the ring and the
window, a tick before and after its drain, a teardown pair between its two
packets, and a stop before its join.

Two stops at once would join one thread twice, which is undefined, so the
lifecycle calls take turns.  The init sequence runs under the device lock and is
one step.
-/

namespace TrueForce.Stream

open TrueForce.Transition

inductive ThreadPhase where
  | absent
  | polling
  | draining (paused armedIdle : Bool)
  | emitting (paused armedIdle : Bool) (newSamples : List UInt16)
  /-- Between the packets of a pair, which a pause has requested or not. -/
  | arming (requested : Bool)
  | exited
  deriving DecidableEq, Repr

inductive CallPhase where
  | free
  | stopCaptured
  | stopRefusing
  | stopArming
  | closeArming
  deriving DecidableEq, Repr

structure State where
  device : Device
  thread : ThreadPhase
  call : CallPhase
  /-- Pushes past their error check. -/
  pushing : List (List Int16)
  /-- Clears past their ring section. -/
  clearing : ℕ
  /-- Pauses that wait for their teardown request. -/
  pausing : ℕ
  wire : List Packet

inductive Event where
  | sessionEnsure (opening : Device.Opening)
  | streamStart (spawned : Bool)
  | push (samples : List Int16)
  | pushCopy (index : ℕ)
  | clear
  | clearWindow
  | pause
  | pauseEnd
  | resume
  | tick (result : WriteResult)
  | tickDrain (expiries : ℕ)
  | tickEmit (result : WriteResult)
  | tickArm (result : WriteResult)
  | threadFail (rc : ℤ)
  | streamStop
  | stopRefuse
  | stopJoin (result : WriteResult)
  | stopArm (result : WriteResult)
  | sessionClose (result : WriteResult)
  | closeArm (result : WriteResult)
  deriving DecidableEq, Repr

namespace State

def sessionEnsure (state : State) (opening : Device.Opening) : State :=
  let (device, packets) := state.device.sessionEnsure opening
  { state with device, wire := state.wire ++ packets }

def streamStart (state : State) (spawned : Bool) : State :=
  if state.device.streamRunning then state
  else if spawned then
    { state with
      device := { state.device.streamReset with streamRunning := true }
      thread := .polling }
  else { state with device := state.device.streamReset }

/-- `logitf_stream_push_s16` up to and including its error check. -/
def push (state : State) (samples : List Int16) : State :=
  if samples = [] ∨ state.device.streamError ≠ 0 then state
  else { state with pushing := state.pushing ++ [samples] }

def pushCopy (state : State) (index : ℕ) (samples : List Int16) : State :=
  { state with
    pushing := state.pushing.eraseIdx index
    device := if state.device.accepting then state.device.pushCopy samples else state.device }

def clear (state : State) : State :=
  { state with device := state.device.clearRing, clearing := state.clearing + 1 }

def clearWindow (state : State) : State :=
  { state with device := state.device.recentre, clearing := state.clearing - 1 }

def pause (state : State) : State :=
  let device := state.device
  if device.tfPaused && (!device.tfInitialized || device.tfArmedIdle) then state
  else if device.tfInitialized then
    { state with
      device := { device with tfPaused := true, tfTeardownPending := true }
      pausing := state.pausing + 1 }
  else { state with device := { device with tfPaused := true } }

def pauseEnd (state : State) : State :=
  { state with
    device := { state.device with tfTeardownPending := false }
    pausing := state.pausing - 1 }

def tickReturn (state : State) (rc : ℤ) : State :=
  if rc < 0 ∧ streamErrorIsFatal rc then
    { state with device := state.device.streamRecordError rc, thread := .exited }
  else { state with thread := .polling }

def pairReturn (state : State) (requested : Bool) (rc : ℤ) : State :=
  let state :=
    if requested then { state with device := { state.device with tfTeardownPending := false } }
    else state
  state.tickReturn rc

/-- The tick up to the snapshot of its flags, or the teardown a pause has requested. -/
def tick (state : State) (result : WriteResult) : State :=
  if state.device.tfTeardownPending then
    let (device, packets, progress) := state.device.stopClear result
    let state := { state with device, wire := state.wire ++ packets }
    match progress with
    | .armPending => { state with thread := .arming true }
    | .returned rc => state.pairReturn true rc
  else
    { state with thread := .draining state.device.tfPaused state.device.tfArmedIdle }

def tickDrain (state : State) (paused armedIdle : Bool) (expiries : ℕ) : State :=
  let (newSamples, device) := state.device.tickDrain expiries
  { state with device, thread := .emitting paused armedIdle newSamples }

def tickEmit (state : State) (paused armedIdle : Bool) (newSamples : List UInt16)
    (result : WriteResult) : State :=
  let (device, packets, progress) := state.device.tickEmit paused armedIdle newSamples result
  let state := { state with device, wire := state.wire ++ packets }
  match progress with
  | .armPending => { state with thread := .arming false }
  | .returned rc => state.tickReturn rc

def tickArm (state : State) (requested : Bool) (result : WriteResult) : State :=
  let (device, packets, rc) := state.device.stopArm result
  { state with device, wire := state.wire ++ packets }.pairReturn requested rc

def stopReturn (state : State) : State :=
  { state with
    device := { state.device with streamRunning := false, shuttingDown := false }
    call := .free }

/-- `logitf_stream_stop` from its join to the sleep of the pair. -/
def stopJoin (state : State) (result : WriteResult) : State :=
  let state := { state with thread := .absent }
  if state.device.tfInitialized && !state.device.tfArmedIdle then
    let (device, packets, progress) := state.device.stopClear result
    let state := { state with device, wire := state.wire ++ packets }
    match progress with
    | .armPending => { state with call := .stopArming }
    | .returned _ => state.stopReturn
  else state.stopReturn

def stopArm (state : State) (result : WriteResult) : State :=
  let (device, packets, _) := state.device.stopArm result
  { state with device, wire := state.wire ++ packets }.stopReturn

def closeReturn (state : State) : State :=
  { state with
    device := { state.device with
      hidrawOpen := false
      tfInitialized := false
      tfArmedIdle := false }
    call := .free }

/-- `logitf_session_close` up to the sleep of its pair. -/
def sessionClose (state : State) (result : WriteResult) : State :=
  let device := state.device
  if device.hidrawOpen && device.tfInitialized && !device.tfArmedIdle then
    let (device, packets, progress) := device.stopClear result
    let state := { state with device, wire := state.wire ++ packets }
    match progress with
    | .armPending => { state with call := .closeArming }
    | .returned _ => state.closeReturn
  else state.closeReturn

def closeArm (state : State) (result : WriteResult) : State :=
  let (device, packets, _) := state.device.stopArm result
  { state with device, wire := state.wire ++ packets }.closeReturn

def step (state : State) : Event → Option State
  | .sessionEnsure opening => some (state.sessionEnsure opening)
  | .streamStart spawned => some (state.streamStart spawned)
  | .push samples =>
      -- `count` is a C `int`.
      if samples.length < 2 ^ 31 then some (state.push samples) else none
  | .pushCopy index => (state.pushing[index]?).map fun samples => state.pushCopy index samples
  | .clear => some state.clear
  | .clearWindow => if state.clearing = 0 then none else some state.clearWindow
  | .pause => some state.pause
  | .pauseEnd => if state.pausing = 0 then none else some state.pauseEnd
  | .resume => some { state with device := { state.device with tfPaused := false } }
  | .tick result => if state.thread = .polling then some (state.tick result) else none
  | .tickDrain expiries =>
      match state.thread with
      | .draining paused armedIdle => some (state.tickDrain paused armedIdle expiries)
      | _ => none
  | .tickEmit result =>
      match state.thread with
      | .emitting paused armedIdle newSamples =>
          some (state.tickEmit paused armedIdle newSamples result)
      | _ => none
  | .tickArm result =>
      match state.thread with
      | .arming requested => some (state.tickArm requested result)
      | _ => none
  | .threadFail rc =>
      if state.thread = .polling then
        some { state with device := state.device.streamRecordError rc, thread := .exited }
      else none
  | .streamStop =>
      if state.call = .free then
        if state.device.streamRunning then some { state with call := .stopCaptured }
        else some state
      else none
  | .stopRefuse =>
      if state.call = .stopCaptured then
        some { state with
          device := { state.device with shuttingDown := true }
          call := .stopRefusing }
      else none
  | .stopJoin result =>
      -- The thread answers the stop event from its poll, or has left on its own.
      if state.call = .stopRefusing ∧ (state.thread = .polling ∨ state.thread = .exited) then
        some (state.stopJoin result)
      else none
  | .stopArm result => if state.call = .stopArming then some (state.stopArm result) else none
  | .sessionClose result => if state.call = .free then some (state.sessionClose result) else none
  | .closeArm result => if state.call = .closeArming then some (state.closeArm result) else none

def discovered : State where
  device := Device.discovered
  thread := .absent
  call := .free
  pushing := []
  clearing := 0
  pausing := 0
  wire := []

/-- What one event does, under the guard it waits for. -/
inductive Stepped (state : State) : Event → State → Prop where
  | sessionEnsure (opening : Device.Opening) :
      state.Stepped (.sessionEnsure opening) (state.sessionEnsure opening)
  | streamStart (spawned : Bool) :
      state.Stepped (.streamStart spawned) (state.streamStart spawned)
  | push {samples : List Int16} (isInt : samples.length < 2 ^ 31) :
      state.Stepped (.push samples) (state.push samples)
  | pushCopy {index : ℕ} {samples : List Int16} (found : state.pushing[index]? = some samples) :
      state.Stepped (.pushCopy index) (state.pushCopy index samples)
  | clear : state.Stepped .clear state.clear
  | clearWindow (cleared : state.clearing ≠ 0) : state.Stepped .clearWindow state.clearWindow
  | pause : state.Stepped .pause state.pause
  | pauseEnd (requested : state.pausing ≠ 0) : state.Stepped .pauseEnd state.pauseEnd
  | resume :
      state.Stepped .resume { state with device := { state.device with tfPaused := false } }
  | tick (polling : state.thread = .polling) (result : WriteResult) :
      state.Stepped (.tick result) (state.tick result)
  | tickDrain {paused armedIdle : Bool} (draining : state.thread = .draining paused armedIdle)
      (expiries : ℕ) :
      state.Stepped (.tickDrain expiries) (state.tickDrain paused armedIdle expiries)
  | tickEmit {paused armedIdle : Bool} {newSamples : List UInt16}
      (emitting : state.thread = .emitting paused armedIdle newSamples) (result : WriteResult) :
      state.Stepped (.tickEmit result) (state.tickEmit paused armedIdle newSamples result)
  | tickArm {requested : Bool} (arming : state.thread = .arming requested)
      (result : WriteResult) :
      state.Stepped (.tickArm result) (state.tickArm requested result)
  | threadFail (polling : state.thread = .polling) (rc : ℤ) :
      state.Stepped (.threadFail rc)
        { state with device := state.device.streamRecordError rc, thread := .exited }
  | streamStop (free : state.call = .free) (running : state.device.streamRunning = true) :
      state.Stepped .streamStop { state with call := .stopCaptured }
  | streamStopIdle (free : state.call = .free) (idle : ¬state.device.streamRunning = true) :
      state.Stepped .streamStop state
  | stopRefuse (captured : state.call = .stopCaptured) :
      state.Stepped .stopRefuse
        { state with
          device := { state.device with shuttingDown := true }
          call := .stopRefusing }
  | stopJoin (refusing : state.call = .stopRefusing)
      (answers : state.thread = .polling ∨ state.thread = .exited) (result : WriteResult) :
      state.Stepped (.stopJoin result) (state.stopJoin result)
  | stopArm (arming : state.call = .stopArming) (result : WriteResult) :
      state.Stepped (.stopArm result) (state.stopArm result)
  | sessionClose (free : state.call = .free) (result : WriteResult) :
      state.Stepped (.sessionClose result) (state.sessionClose result)
  | closeArm (arming : state.call = .closeArming) (result : WriteResult) :
      state.Stepped (.closeArm result) (state.closeArm result)

theorem step_cases {state next : State} {event : Event}
    (stepped : state.step event = some next) :
    state.Stepped event next := by
  cases event with
  | sessionEnsure opening =>
      cases stepped
      exact .sessionEnsure opening
  | streamStart spawned =>
      cases stepped
      exact .streamStart spawned
  | push samples =>
      simp only [step, Option.ite_none_right_eq_some, Option.some.injEq] at stepped
      rcases stepped with ⟨isInt, rfl⟩
      exact .push isInt
  | pushCopy index =>
      simp only [step, Option.map_eq_some_iff] at stepped
      rcases stepped with ⟨samples, found, rfl⟩
      exact .pushCopy found
  | clear =>
      cases stepped
      exact .clear
  | clearWindow =>
      simp only [step, Option.ite_none_left_eq_some, Option.some.injEq] at stepped
      rcases stepped with ⟨cleared, rfl⟩
      exact .clearWindow cleared
  | pause =>
      cases stepped
      exact .pause
  | pauseEnd =>
      simp only [step, Option.ite_none_left_eq_some, Option.some.injEq] at stepped
      rcases stepped with ⟨requested, rfl⟩
      exact .pauseEnd requested
  | resume =>
      cases stepped
      exact .resume
  | tick result =>
      simp only [step, Option.ite_none_right_eq_some, Option.some.injEq] at stepped
      rcases stepped with ⟨polling, rfl⟩
      exact .tick polling result
  | tickDrain expiries =>
      simp only [step] at stepped
      split at stepped
      · rename_i draining
        cases stepped
        exact .tickDrain draining expiries
      · cases stepped
  | tickEmit result =>
      simp only [step] at stepped
      split at stepped
      · rename_i emitting
        cases stepped
        exact .tickEmit emitting result
      · cases stepped
  | tickArm result =>
      simp only [step] at stepped
      split at stepped
      · rename_i arming
        cases stepped
        exact .tickArm arming result
      · cases stepped
  | threadFail rc =>
      simp only [step, Option.ite_none_right_eq_some, Option.some.injEq] at stepped
      rcases stepped with ⟨polling, rfl⟩
      exact .threadFail polling rc
  | streamStop =>
      simp only [step, Option.ite_none_right_eq_some] at stepped
      rcases stepped with ⟨free, stepped⟩
      split at stepped
      · rename_i running
        cases stepped
        exact .streamStop free running
      · rename_i idle
        cases stepped
        exact .streamStopIdle free idle
  | stopRefuse =>
      simp only [step, Option.ite_none_right_eq_some, Option.some.injEq] at stepped
      rcases stepped with ⟨captured, rfl⟩
      exact .stopRefuse captured
  | stopJoin result =>
      simp only [step, Option.ite_none_right_eq_some, Option.some.injEq] at stepped
      rcases stepped with ⟨⟨refusing, answers⟩, rfl⟩
      exact .stopJoin refusing answers result
  | stopArm result =>
      simp only [step, Option.ite_none_right_eq_some, Option.some.injEq] at stepped
      rcases stepped with ⟨arming, rfl⟩
      exact .stopArm arming result
  | sessionClose result =>
      simp only [step, Option.ite_none_right_eq_some, Option.some.injEq] at stepped
      rcases stepped with ⟨free, rfl⟩
      exact .sessionClose free result
  | closeArm result =>
      simp only [step, Option.ite_none_right_eq_some, Option.some.injEq] at stepped
      rcases stepped with ⟨arming, rfl⟩
      exact .closeArm arming result

end State

def stream : System State Event where
  initial state := state = State.discovered
  step := State.step

/-- A property of the device that no section breaks. -/
structure DeviceInvariant (holds : Device → Prop) : Prop where
  flags : ∀ (device : Device) (hidrawOpen tfInitialized tfPaused tfArmedIdle tfTeardownPending
    streamRunning shuttingDown : Bool), holds device →
    holds { device with
      hidrawOpen, tfInitialized, tfPaused, tfArmedIdle, tfTeardownPending, streamRunning,
      shuttingDown }
  sessionEnsure : ∀ (device : Device) opening, holds device →
    holds (device.sessionEnsure opening).1
  streamReset : ∀ device : Device, holds device → holds device.streamReset
  pushCopy : ∀ (device : Device) samples, holds device → holds (device.pushCopy samples)
  clearRing : ∀ device : Device, holds device → holds device.clearRing
  recentre : ∀ device : Device, holds device → holds device.recentre
  tickDrain : ∀ (device : Device) expiries, holds device → holds (device.tickDrain expiries).2
  tickEmit : ∀ (device : Device) paused armedIdle newSamples result, holds device →
    holds (device.tickEmit paused armedIdle newSamples result).1
  stopClear : ∀ (device : Device) result, holds device → holds (device.stopClear result).1
  stopArm : ∀ (device : Device) result, holds device → holds (device.stopArm result).1
  streamRecordError : ∀ (device : Device) rc, holds device →
    holds (device.streamRecordError rc)

namespace DeviceInvariant

variable {holds : Device → Prop} (invariant : DeviceInvariant holds)

include invariant

theorem tickReturn {state : State} (kept : holds state.device) (rc : ℤ) :
    holds (state.tickReturn rc).device := by
  simp only [State.tickReturn]
  split
  · exact invariant.streamRecordError _ rc kept
  · exact kept

theorem pairReturn {state : State} (kept : holds state.device) (requested : Bool) (rc : ℤ) :
    holds (state.pairReturn requested rc).device := by
  simp only [State.pairReturn]
  apply invariant.tickReturn
  split
  · exact invariant.flags _ _ _ _ _ false _ _ kept
  · exact kept

theorem stopReturn {state : State} (kept : holds state.device) :
    holds state.stopReturn.device :=
  invariant.flags _ _ _ _ _ _ false false kept

theorem closeReturn {state : State} (kept : holds state.device) :
    holds state.closeReturn.device :=
  invariant.flags _ false false _ false _ _ _ kept

theorem step {state next : State} {event : Event} (kept : holds state.device)
    (stepped : state.step event = some next) :
    holds next.device := by
  cases State.step_cases stepped with
  | sessionEnsure opening => exact invariant.sessionEnsure _ opening kept
  | streamStart spawned =>
      simp only [State.streamStart]
      repeat' split
      · exact kept
      · exact invariant.flags _ _ _ _ _ _ true _ (invariant.streamReset _ kept)
      · exact invariant.streamReset _ kept
  | push =>
      simp only [State.push]
      split <;> exact kept
  | pushCopy =>
      simp only [State.pushCopy]
      split
      · exact invariant.pushCopy _ _ kept
      · exact kept
  | clear => exact invariant.clearRing _ kept
  | clearWindow => exact invariant.recentre _ kept
  | pause =>
      simp only [State.pause]
      repeat' split
      · exact kept
      · exact invariant.flags _ _ _ true _ true _ _ kept
      · exact invariant.flags _ _ _ true _ _ _ _ kept
  | pauseEnd => exact invariant.flags _ _ _ _ _ false _ _ kept
  | resume => exact invariant.flags _ _ _ false _ _ _ _ kept
  | tick _ result =>
      have written := invariant.stopClear _ result kept
      simp only [State.tick]
      repeat' split
      · exact written
      · exact invariant.pairReturn written true _
      · exact kept
  | tickDrain _ expiries => exact invariant.tickDrain _ expiries kept
  | @tickEmit paused armedIdle newSamples _ result =>
      have written := invariant.tickEmit _ paused armedIdle newSamples result kept
      simp only [State.tickEmit]
      split
      · exact written
      · exact invariant.tickReturn written _
  | tickArm _ result =>
      simp only [State.tickArm]
      apply invariant.pairReturn
      exact invariant.stopArm _ result kept
  | threadFail _ rc => exact invariant.streamRecordError _ rc kept
  | streamStop => exact kept
  | streamStopIdle => exact kept
  | stopRefuse => exact invariant.flags _ _ _ _ _ _ _ true kept
  | stopJoin _ _ result =>
      have written := invariant.stopClear _ result kept
      simp only [State.stopJoin]
      repeat' split
      · exact written
      · exact invariant.stopReturn written
      · exact invariant.stopReturn kept
  | stopArm _ result => exact invariant.stopReturn (invariant.stopArm _ result kept)
  | sessionClose _ result =>
      have written := invariant.stopClear _ result kept
      simp only [State.sessionClose]
      repeat' split
      · exact written
      · exact invariant.closeReturn written
      · exact invariant.closeReturn kept
  | closeArm _ result => exact invariant.closeReturn (invariant.stopArm _ result kept)

theorem reachable {state : State} (initial : holds Device.discovered)
    (reachable : stream.Reachable state) :
    holds state.device := by
  apply System.ReachableUnder.invariant reachable
  · intro start discovered
    cases discovered
    exact initial
  · intro current event next kept _ stepped
    exact invariant.step kept stepped

end DeviceInvariant

namespace Device

@[simp]
theorem sessionEnsure_streamRunning (device : Device) (opening : Opening) :
    (device.sessionEnsure opening).1.streamRunning = device.streamRunning := by
  simp only [sessionEnsure]
  repeat' split
  all_goals rfl

@[simp]
theorem pushCopy_streamRunning (device : Device) (samples : List Int16) :
    (device.pushCopy samples).streamRunning = device.streamRunning := by
  simp only [pushCopy, shedBacklog, noteDropped]
  repeat' split
  all_goals rfl

@[simp]
theorem stopClear_streamRunning (device : Device) (result : WriteResult) :
    (device.stopClear result).1.streamRunning = device.streamRunning := by
  simp only [stopClear]
  repeat' split
  all_goals rfl

@[simp]
theorem stopArm_streamRunning (device : Device) (result : WriteResult) :
    (device.stopArm result).1.streamRunning = device.streamRunning := by
  simp only [stopArm]
  split <;> rfl

@[simp]
theorem advance_streamRunning (device : Device) (newSamples : List UInt16) :
    (device.advance newSamples).streamRunning = device.streamRunning := by
  simp only [advance]
  repeat' split
  all_goals rfl

@[simp]
theorem tickEmit_streamRunning (device : Device) (paused armedIdle : Bool)
    (newSamples : List UInt16) (result : WriteResult) :
    (device.tickEmit paused armedIdle newSamples result).1.streamRunning =
      device.streamRunning := by
  simp only [tickEmit, emitIdle, emitPacket, nextSeq]
  repeat' split
  all_goals simp

@[simp]
theorem streamRecordError_streamRunning (device : Device) (rc : ℤ) :
    (device.streamRecordError rc).streamRunning = device.streamRunning := by
  simp only [streamRecordError]
  split <;> rfl

end Device

def CallPhase.isStopping : CallPhase → Bool
  | .stopCaptured | .stopRefusing | .stopArming => true
  | _ => false

/-- `stream_running` covers the thread and every stop until its return. -/
structure Lifecycle (state : State) : Prop where
  spawned : state.thread ≠ .absent → state.device.streamRunning = true
  stopping : state.call.isStopping = true → state.device.streamRunning = true
  joined : state.call = .stopArming → state.thread = .absent

namespace Lifecycle

variable {state next : State}

theorem of_running (running : next.device.streamRunning = true)
    (joined : next.call = .stopArming → next.thread = .absent) :
    Lifecycle next :=
  ⟨fun _ => running, fun _ => running, joined⟩

theorem of_same (lifecycle : Lifecycle state)
    (running : next.device.streamRunning = state.device.streamRunning)
    (thread : next.thread = state.thread) (call : next.call = state.call) :
    Lifecycle next := by
  refine ⟨?_, ?_, ?_⟩
  · rw [thread, running]
    exact lifecycle.spawned
  · rw [call, running]
    exact lifecycle.stopping
  · rw [call, thread]
    exact lifecycle.joined

/-- A section of a thread that is there. -/
theorem of_thread (lifecycle : Lifecycle state) (present : state.thread ≠ .absent)
    (running : next.device.streamRunning = state.device.streamRunning)
    (call : next.call = state.call) :
    Lifecycle next := by
  apply of_running
  · rw [running]
    exact lifecycle.spawned present
  · intro arming
    rw [call] at arming
    exact absurd (lifecycle.joined arming) present

theorem tickReturn (lifecycle : Lifecycle state) (present : state.thread ≠ .absent) (rc : ℤ) :
    Lifecycle (state.tickReturn rc) := by
  simp only [State.tickReturn]
  split
  · exact lifecycle.of_thread present (Device.streamRecordError_streamRunning _ _) rfl
  · exact lifecycle.of_thread present rfl rfl

theorem pairReturn (lifecycle : Lifecycle state) (present : state.thread ≠ .absent)
    (requested : Bool) (rc : ℤ) :
    Lifecycle (state.pairReturn requested rc) := by
  simp only [State.pairReturn]
  apply Lifecycle.tickReturn
  · split
    · exact lifecycle.of_same rfl rfl rfl
    · exact lifecycle
  · split <;> exact present

theorem step {event : Event} (lifecycle : Lifecycle state)
    (stepped : state.step event = some next) :
    Lifecycle next := by
  cases State.step_cases stepped with
  | sessionEnsure opening =>
      exact lifecycle.of_same (Device.sessionEnsure_streamRunning _ _) rfl rfl
  | streamStart spawned =>
      simp only [State.streamStart]
      split
      · exact lifecycle
      · rename_i notRunning
        split
        · refine of_running rfl ?_
          intro arming
          have stopping : state.call.isStopping = true := by
            rw [arming]
            rfl
          exact absurd (lifecycle.stopping stopping) notRunning
        · exact lifecycle.of_same rfl rfl rfl
  | push =>
      simp only [State.push]
      split
      · exact lifecycle
      · exact lifecycle.of_same rfl rfl rfl
  | pushCopy =>
      simp only [State.pushCopy]
      refine lifecycle.of_same ?_ rfl rfl
      split
      · rw [Device.pushCopy_streamRunning]
      · rfl
  | pause =>
      simp only [State.pause]
      repeat' split
      · exact lifecycle
      · exact lifecycle.of_same rfl rfl rfl
      · exact lifecycle.of_same rfl rfl rfl
  | clear | clearWindow | pauseEnd | resume => exact lifecycle.of_same rfl rfl rfl
  | tick polling result =>
      have present : state.thread ≠ .absent := by simp [polling]
      simp only [State.tick]
      split
      · split
        · exact lifecycle.of_thread present (Device.stopClear_streamRunning _ _) rfl
        · apply Lifecycle.pairReturn
          · exact lifecycle.of_thread present (Device.stopClear_streamRunning _ _) rfl
          · exact present
      · exact lifecycle.of_thread present rfl rfl
  | tickDrain draining expiries => exact lifecycle.of_thread (by simp [draining]) rfl rfl
  | tickEmit emitting result =>
      have present : state.thread ≠ .absent := by simp [emitting]
      simp only [State.tickEmit]
      split
      · exact lifecycle.of_thread present (Device.tickEmit_streamRunning ..) rfl
      · apply Lifecycle.tickReturn
        · exact lifecycle.of_thread present (Device.tickEmit_streamRunning ..) rfl
        · exact present
  | tickArm arming result =>
      have present : state.thread ≠ .absent := by simp [arming]
      simp only [State.tickArm]
      apply Lifecycle.pairReturn
      · exact lifecycle.of_thread present (Device.stopArm_streamRunning _ _) rfl
      · exact present
  | threadFail polling rc =>
      exact lifecycle.of_thread (by simp [polling]) (Device.streamRecordError_streamRunning _ _) rfl
  | streamStop _ running => exact of_running running nofun
  | streamStopIdle => exact lifecycle
  | stopRefuse captured => exact of_running (lifecycle.stopping (by rw [captured]; rfl)) nofun
  | stopJoin refusing _ result =>
      have running := lifecycle.stopping (by rw [refusing]; rfl)
      simp only [State.stopJoin]
      repeat' split
      · exact of_running ((Device.stopClear_streamRunning _ _).trans running) fun _ => rfl
      · exact ⟨fun present => absurd rfl present, nofun, nofun⟩
      · exact ⟨fun present => absurd rfl present, nofun, nofun⟩
  | stopArm arming result =>
      exact ⟨fun present => absurd (lifecycle.joined arming) present, nofun, nofun⟩
  | sessionClose _ result =>
      simp only [State.sessionClose]
      repeat' split
      · exact ⟨fun present =>
          (Device.stopClear_streamRunning _ _).trans (lifecycle.spawned present), nofun, nofun⟩
      · exact ⟨fun present =>
          (Device.stopClear_streamRunning _ _).trans (lifecycle.spawned present), nofun, nofun⟩
      · exact ⟨lifecycle.spawned, nofun, nofun⟩
  | closeArm _ result =>
      exact ⟨fun present =>
        (Device.stopArm_streamRunning _ _).trans (lifecycle.spawned present), nofun, nofun⟩

theorem discovered : Lifecycle State.discovered :=
  ⟨fun present => absurd rfl present, nofun, nofun⟩

/-- Without a running stream there is no thread. -/
theorem absent (lifecycle : Lifecycle state) (stopped : state.device.streamRunning = false) :
    state.thread = .absent := by
  by_contra present
  rw [lifecycle.spawned present] at stopped
  cases stopped

end Lifecycle

end TrueForce.Stream
