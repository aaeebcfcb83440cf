import TrueForce.Stream.Pairing

/-!
# Pauses

A pause sets `tf_paused` and, when a session is up, waits for the stream thread
to send the teardown pair.  Ticks read the flag once, at their start, so a tick
under way when the flag is set still sends what it drained.  A pause that waits
for the pair returns behind that tick; one that finds the pair already sent, or
whose wait times out, may return before it.  The flag itself is also written by
the session start that a push brings about.

A watch observes the runs of the stream: whether a pause has been asked for since
the last resume, whether one has returned, and the sample packets heard since.
-/

namespace TrueForce.Stream

open TrueForce.Transition

/-- The tick under way has read `tf_paused` as false. -/
def ThreadPhase.sounding : ThreadPhase → Bool
  | .draining paused _ | .emitting paused _ _ => !paused
  | _ => false

/-- The branches of `logiTrueForcePause` that return without waiting for the thread. -/
def State.pauseReturns (state : State) : Bool :=
  !state.device.tfInitialized || (state.device.tfPaused && state.device.tfArmedIdle)

structure Watch where
  /-- A pause has set the flag since the last resume. -/
  asked : Bool
  /-- Such a pause has returned. -/
  silenced : Bool
  /-- The sample packets sent while silenced. -/
  heard : List Packet

def Watch.start : Watch where
  asked := false
  silenced := false
  heard := []

def Watch.listen (watch : Watch) (before after : State) : Watch :=
  if watch.silenced then
    { watch with
      heard := watch.heard ++ (after.wire.drop before.wire.length).filter Packet.isSample }
  else watch

def Watch.record (watch : Watch) (before after : State) (event : Event) : Watch :=
  let watch := watch.listen before after
  match event with
  | .pause => { watch with asked := true, silenced := watch.silenced || before.pauseReturns }
  | .pauseEnd => { watch with silenced := watch.silenced || watch.asked }
  | .resume => { watch with asked := false, silenced := false }
  | _ => watch

def watched : System (State × Watch) Event where
  initial view := view = (State.discovered, Watch.start)
  step view event :=
    (view.1.step event).map fun next => (next, view.2.record view.1 next event)

/-- The step starts a session, which clears `tf_paused`. -/
def State.opensSession (state : State) (event : Event) : Bool :=
  event = .sessionEnsure .opened && !(state.device.tfInitialized && state.device.hidrawOpen)

/--
No session starts while the flag is set, and no pause returns while a tick that
read the flag as false is under way.
-/
def State.PauseSettles (state : State) (event : Event) : Prop :=
  (state.opensSession event = true → state.device.tfPaused = false) ∧
    (event = .pause → state.pauseReturns = true → state.thread.sounding = false) ∧
    (event = .pauseEnd → state.thread.sounding = false)

instance (state : State) (event : Event) : Decidable (state.PauseSettles event) := by
  simp only [State.PauseSettles]
  infer_instance

namespace Device

@[simp]
theorem streamRecordError_tfPaused (device : Device) (rc : ℤ) :
    (device.streamRecordError rc).tfPaused = device.tfPaused := by
  simp only [streamRecordError]
  split <;> rfl

@[simp]
theorem stopClear_tfPaused (device : Device) (result : WriteResult) :
    (device.stopClear result).1.tfPaused = device.tfPaused := by
  simp only [stopClear]
  repeat' split
  all_goals rfl

@[simp]
theorem stopArm_tfPaused (device : Device) (result : WriteResult) :
    (device.stopArm result).1.tfPaused = device.tfPaused := by
  simp only [stopArm]
  split <;> rfl

@[simp]
theorem advance_tfPaused (device : Device) (newSamples : List UInt16) :
    (device.advance newSamples).tfPaused = device.tfPaused := by
  simp only [advance]
  repeat' split
  all_goals rfl

@[simp]
theorem tickEmit_tfPaused (device : Device) (paused armedIdle : Bool) (newSamples : List UInt16)
    (result : WriteResult) :
    (device.tickEmit paused armedIdle newSamples result).1.tfPaused = device.tfPaused := by
  simp only [tickEmit, emitIdle, emitPacket, nextSeq]
  repeat' split
  all_goals simp

@[simp]
theorem pushCopy_tfPaused (device : Device) (samples : List Int16) :
    (device.pushCopy samples).tfPaused = device.tfPaused := by
  rw [pushCopy_eq, shedBacklog]
  split <;> simp [noteDropped, copied]

theorem mem_write {device : Device} {packet written : Packet} {result : WriteResult}
    (member : written ∈ (device.write packet result).1) :
    written = packet := by
  simp only [write] at member
  repeat' split at member
  all_goals simp_all

theorem stopClear_notSample {device : Device} {result : WriteResult} {packet : Packet}
    (member : packet ∈ (device.stopClear result).2.1) :
    packet.isSample = false := by
  simp only [stopClear] at member
  split at member
  · cases member
  · split at member
    · cases member
    · rw [mem_write member]
      rfl

theorem stopArm_notSample {device : Device} {result : WriteResult} {packet : Packet}
    (member : packet ∈ (device.stopArm result).2.1) :
    packet.isSample = false := by
  simp only [stopArm] at member
  split at member <;>
  · rw [mem_write member]
    rfl

theorem sessionEnsure_notSample {device : Device} {opening : Opening} {packet : Packet}
    (member : packet ∈ (device.sessionEnsure opening).2) :
    packet.isSample = false := by
  have initOnly : packet ∈ initPackets → packet.isSample = false := by
    intro member
    rcases Orderly.mem_initPackets member with ⟨seq, rfl⟩
    rfl
  simp only [sessionEnsure] at member
  repeat' split at member
  · cases member
  · cases member
  · exact initOnly (List.mem_of_mem_take member)
  · exact initOnly member

theorem tickEmit_paused (device : Device) (armedIdle : Bool) (newSamples : List UInt16)
    (result : WriteResult) :
    device.tickEmit true armedIdle newSamples result =
      (device.advance newSamples, [], .returned 0) := rfl

end Device

namespace State

theorem tickReturn_pause (state : State) (rc : ℤ) :
    (state.tickReturn rc).device.tfPaused = state.device.tfPaused ∧
      (state.tickReturn rc).thread.sounding = false ∧
      (state.tickReturn rc).wire = state.wire := by
  simp only [tickReturn]
  split <;> simp [ThreadPhase.sounding]

theorem pairReturn_pause (state : State) (requested : Bool) (rc : ℤ) :
    (state.pairReturn requested rc).device.tfPaused = state.device.tfPaused ∧
      (state.pairReturn requested rc).thread.sounding = false ∧
      (state.pairReturn requested rc).wire = state.wire := by
  cases requested with
  | false => exact state.tickReturn_pause rc
  | true =>
      exact tickReturn_pause
        { state with device := { state.device with tfTeardownPending := false } } rc

theorem pause_tfPaused (state : State) : state.pause.device.tfPaused = true := by
  simp only [pause]
  repeat' split
  all_goals simp_all

theorem pause_thread (state : State) : state.pause.thread = state.thread := by
  simp only [pause]
  repeat' split
  all_goals rfl

theorem pause_wire (state : State) : state.pause.wire = state.wire := by
  simp only [pause]
  repeat' split
  all_goals rfl

/-- What one section does to the flag, to the tick under way and to the wire. -/
structure PauseStep (state : State) (event : Event) (next : State) : Prop where
  paused : next.device.tfPaused = state.device.tfPaused ∨
    (event = .pause ∧ next.device.tfPaused = true) ∨ event = .resume ∨
    state.opensSession event = true
  sounding : next.thread.sounding = true →
    state.thread.sounding = true ∨ state.device.tfPaused = false
  wire : ∃ packets, next.wire = state.wire ++ packets ∧
    (state.thread.sounding = false → ∀ packet ∈ packets, packet.isSample = false)

theorem PauseStep.control {state next : State} {event : Event} {packets : List Packet}
    (paused : next.device.tfPaused = state.device.tfPaused)
    (thread : next.thread = state.thread ∨ next.thread.sounding = false)
    (wire : next.wire = state.wire ++ packets)
    (control : ∀ packet ∈ packets, packet.isSample = false) :
    state.PauseStep event next where
  paused := .inl paused
  sounding := by
    intro sounding
    rcases thread with same | quiet
    · rw [same] at sounding
      exact .inl sounding
    · rw [quiet] at sounding
      cases sounding
  wire := ⟨packets, wire, fun _ => control⟩

theorem PauseStep.silent {state next : State} {event : Event}
    (paused : next.device.tfPaused = state.device.tfPaused)
    (thread : next.thread = state.thread ∨ next.thread.sounding = false)
    (wire : next.wire = state.wire) :
    state.PauseStep event next := by
  have unchanged : next.wire = state.wire ++ [] := by rw [wire, List.append_nil]
  exact .control paused thread unchanged (by simp)

theorem tick_pauseStep (state : State) (result : WriteResult) :
    state.PauseStep (.tick result) (state.tick result) := by
  have control : ∀ packet ∈ (state.device.stopClear result).2.1, packet.isSample = false :=
    fun packet => Device.stopClear_notSample
  simp only [tick]
  split
  · split
    · exact .control (Device.stopClear_tfPaused _ _) (.inr rfl) rfl control
    · rename_i rc returned
      rcases pairReturn_pause
        { state with
          device := (state.device.stopClear result).1
          wire := state.wire ++ (state.device.stopClear result).2.1 } true rc with
        ⟨paused, quiet, wire⟩
      exact .control (paused.trans (Device.stopClear_tfPaused _ _)) (.inr quiet) wire control
  · refine ⟨.inl rfl, ?_, [], by simp, by simp⟩
    intro sounding
    simp only [ThreadPhase.sounding, Bool.not_eq_true'] at sounding
    exact .inr sounding

theorem tickEmit_pauseStep {state : State} {paused armedIdle : Bool} {newSamples : List UInt16}
    (emitting : state.thread = .emitting paused armedIdle newSamples) (result : WriteResult) :
    state.PauseStep (.tickEmit result)
      (state.tickEmit paused armedIdle newSamples result) := by
  have quietly : state.thread.sounding = false →
      ∀ packet ∈ (state.device.tickEmit paused armedIdle newSamples result).2.1,
        packet.isSample = false := by
    intro quiet packet member
    rw [emitting] at quiet
    simp only [ThreadPhase.sounding, Bool.not_eq_false'] at quiet
    rw [quiet, Device.tickEmit_paused] at member
    cases member
  simp only [tickEmit]
  split
  · refine ⟨.inl (Device.tickEmit_tfPaused ..), ?_, _, rfl, quietly⟩
    simp [ThreadPhase.sounding]
  · rename_i rc returned
    rcases tickReturn_pause
      { state with
        device := (state.device.tickEmit paused armedIdle newSamples result).1
        wire := state.wire ++ (state.device.tickEmit paused armedIdle newSamples result).2.1 }
      rc with ⟨same, quiet, wire⟩
    refine ⟨.inl (same.trans (Device.tickEmit_tfPaused ..)), ?_, _, wire, quietly⟩
    intro sounding
    rw [quiet] at sounding
    cases sounding

theorem stopJoin_pauseStep (state : State) (result : WriteResult) :
    state.PauseStep (.stopJoin result) (state.stopJoin result) := by
  have control : ∀ packet ∈ (state.device.stopClear result).2.1, packet.isSample = false :=
    fun packet => Device.stopClear_notSample
  simp only [stopJoin]
  repeat' split
  · exact .control (Device.stopClear_tfPaused _ _) (.inr rfl) rfl control
  · exact .control (Device.stopClear_tfPaused _ _) (.inr rfl) rfl control
  · exact .silent rfl (.inr rfl) rfl

theorem sessionClose_pauseStep (state : State) (result : WriteResult) :
    state.PauseStep (.sessionClose result) (state.sessionClose result) := by
  have control : ∀ packet ∈ (state.device.stopClear result).2.1, packet.isSample = false :=
    fun packet => Device.stopClear_notSample
  simp only [sessionClose]
  repeat' split
  · exact .control (Device.stopClear_tfPaused _ _) (.inl rfl) rfl control
  · exact .control (Device.stopClear_tfPaused _ _) (.inl rfl) rfl control
  · exact .silent rfl (.inl rfl) rfl

theorem sessionEnsure_pauseStep (state : State) (opening : Device.Opening) :
    state.PauseStep (.sessionEnsure opening) (state.sessionEnsure opening) := by
  have control : ∀ packet ∈ (state.device.sessionEnsure opening).2, packet.isSample = false :=
    fun packet => Device.sessionEnsure_notSample
  refine ⟨?_, fun sounding => .inl sounding, _, rfl, fun _ => control⟩
  by_cases opens : state.opensSession (.sessionEnsure opening) = true
  · exact .inr (.inr (.inr opens))
  · left
    simp only [opensSession] at opens
    simp only [State.sessionEnsure, Device.sessionEnsure]
    cases opening <;> repeat' split
    all_goals simp_all

theorem pauseStep {state next : State} {event : Event}
    (stepped : state.step event = some next) :
    state.PauseStep event next := by
  cases step_cases stepped with
  | sessionEnsure opening => exact state.sessionEnsure_pauseStep opening
  | streamStart spawned =>
      simp only [streamStart]
      repeat' split
      · exact .silent rfl (.inl rfl) rfl
      · exact .silent rfl (.inr rfl) rfl
      · exact .silent rfl (.inl rfl) rfl
  | push =>
      simp only [push]
      split <;> exact .silent rfl (.inl rfl) rfl
  | pushCopy =>
      simp only [pushCopy]
      split
      · refine .silent ?_ (.inl rfl) rfl
        simp only [Device.pushCopy_tfPaused]
      · exact .silent rfl (.inl rfl) rfl
  | pause =>
      refine ⟨.inr (.inl ⟨rfl, state.pause_tfPaused⟩), ?_, [], by simp [pause_wire], by simp⟩
      intro sounding
      rw [pause_thread] at sounding
      exact .inl sounding
  | resume =>
      exact ⟨.inr (.inr (.inl rfl)), fun sounding => .inl sounding, [], by simp, by simp⟩
  | tick _ result => exact state.tick_pauseStep result
  | tickDrain draining expiries =>
      refine ⟨.inl rfl, ?_, [], by simp [tickDrain], by simp⟩
      intro sounding
      rw [draining]
      exact .inl sounding
  | tickEmit emitting result => exact tickEmit_pauseStep emitting result
  | @tickArm requested _ result =>
      rcases pairReturn_pause
        { state with
          device := (state.device.stopArm result).1
          wire := state.wire ++ (state.device.stopArm result).2.1 } requested
        (state.device.stopArm result).2.2 with ⟨paused, quiet, wire⟩
      exact .control (paused.trans (Device.stopArm_tfPaused _ _)) (.inr quiet) wire
        fun packet => Device.stopArm_notSample
  | threadFail _ rc => exact .silent (Device.streamRecordError_tfPaused _ _) (.inr rfl) rfl
  | clear | clearWindow | pauseEnd | streamStop | streamStopIdle | stopRefuse =>
      exact .silent rfl (.inl rfl) rfl
  | stopJoin _ _ result => exact state.stopJoin_pauseStep result
  | sessionClose _ result => exact state.sessionClose_pauseStep result
  | stopArm _ result | closeArm _ result =>
      exact .control (Device.stopArm_tfPaused _ _) (.inl rfl) rfl
        fun packet => Device.stopArm_notSample

end State

structure Hushed (state : State) (watch : Watch) : Prop where
  asked : watch.asked = true → state.device.tfPaused = true
  silenced : watch.silenced = true → watch.asked = true ∧ state.thread.sounding = false
  heard : watch.heard = []

theorem Hushed.listen {state next : State} {watch : Watch} {event : Event}
    (hushed : Hushed state watch) (stepped : state.PauseStep event next) :
    watch.listen state next = watch := by
  simp only [Watch.listen]
  split
  · rename_i silenced
    rcases stepped.wire with ⟨packets, wire, quiet⟩
    have none : packets.filter Packet.isSample = [] := by
      rw [List.filter_eq_nil_iff]
      intro packet member
      rw [quiet (hushed.silenced silenced).2 packet member]
      simp
    rw [wire, List.drop_left, none, List.append_nil]
  · rfl

theorem Hushed.step {state next : State} {watch : Watch} {event : Event}
    (hushed : Hushed state watch) (settles : state.PauseSettles event)
    (stepped : state.step event = some next) :
    Hushed next (watch.record state next event) := by
  have step := State.pauseStep stepped
  rcases settles with ⟨opening, returning, ending⟩
  have stillAsked : event ≠ .resume → watch.asked = true → next.device.tfPaused = true := by
    intro notResume asked
    have paused := hushed.asked asked
    rcases step.paused with same | ⟨_, set⟩ | resumed | opens
    · rw [same]
      exact paused
    · exact set
    · exact absurd resumed notResume
    · rw [opening opens] at paused
      cases paused
  have stillQuiet : state.device.tfPaused = true → state.thread.sounding = false →
      next.thread.sounding = false := by
    intro paused quiet
    by_contra sounding
    rw [Bool.not_eq_false] at sounding
    rcases step.sounding sounding with before | unpaused
    · rw [before] at quiet
      cases quiet
    · rw [unpaused] at paused
      cases paused
  have stillSilenced : watch.silenced = true → watch.asked = true ∧ next.thread.sounding = false := by
    intro silenced
    rcases hushed.silenced silenced with ⟨asked, quiet⟩
    exact ⟨asked, stillQuiet (hushed.asked asked) quiet⟩
  have listened := hushed.listen step
  cases event with
  | pause =>
      simp only [Watch.record, listened]
      cases stepped
      refine ⟨fun _ => state.pause_tfPaused, ?_, hushed.heard⟩
      intro silenced
      rcases Bool.or_eq_true_iff.mp silenced with before | returns
      · exact ⟨rfl, (stillSilenced before).2⟩
      · have quiet := returning rfl returns
        by_contra sounding
        simp only [true_and, Bool.not_eq_false] at sounding
        rw [State.pause_thread, quiet] at sounding
        cases sounding
  | pauseEnd =>
      simp only [Watch.record, listened]
      refine ⟨stillAsked (by simp), ?_, hushed.heard⟩
      intro silenced
      rcases Bool.or_eq_true_iff.mp silenced with before | asked
      · exact stillSilenced before
      · exact ⟨asked, stillQuiet (hushed.asked asked) (ending rfl)⟩
  | resume =>
      simp only [Watch.record, listened]
      exact ⟨nofun, nofun, hushed.heard⟩
  | _ =>
      simp only [Watch.record, listened]
      exact ⟨stillAsked (by simp), stillSilenced, hushed.heard⟩

theorem hushed_of_reachable {view : State × Watch}
    (reachable : watched.ReachableUnder (fun view => view.1.PauseSettles) view) :
    Hushed view.1 view.2 := by
  apply System.ReachableUnder.invariant reachable
  · intro start initial
    cases initial
    exact ⟨nofun, nofun, rfl⟩
  · intro current event next hushed settles stepped
    simp only [watched, Option.map_eq_some_iff] at stepped
    rcases stepped with ⟨state, stepped, rfl⟩
    exact hushed.step settles stepped

/--
In every interleaving in which no session starts while `tf_paused` is set and no
pause returns while a tick that read the flag as false is under way, no sample
packet is sent between the return of a pause and the next resume.
-/
theorem pause_holds_until_resume {state : State} {watch : Watch}
    (reachable : watched.ReachableUnder (fun view => view.1.PauseSettles) (state, watch)) :
    watch.heard = [] :=
  (hushed_of_reachable reachable).heard

/-- Pushes and ticks under a pause that has returned. -/
theorem pause_holds_under_pushes :
    ∃ state watch,
      watched.ReachableUnder (fun view => view.1.PauseSettles) (state, watch) ∧
        watch.silenced = true ∧ state.device.pending.length = 1 ∧ watch.heard = [] := by
  have executed := System.ReachableUnder.of_check watched (fun view => view.1.PauseSettles)
    (State.discovered, Watch.start)
    [.sessionEnsure .opened, .streamStart true, .pause, .tick .accepted, .tickArm .accepted,
      .pauseEnd, .push [1000], .pushCopy 0, .tick .accepted, .tickDrain 1, .tickEmit .accepted,
      .sessionEnsure .opened, .push [2000], .pushCopy 0]
    (fun view => view.2.silenced = true ∧ view.1.device.pending.length = 1) rfl
    (by decide) (by decide)
  rcases executed with ⟨⟨state, watch⟩, reachable, seen⟩
  simp only [decide_eq_true_eq] at seen
  exact ⟨state, watch, reachable, seen.1, seen.2, pause_holds_until_resume reachable⟩

/--
A pause before the session is undone by the session that the next push starts;
and of two pauses one returns at once, the pair being out already, while a tick
is about to leave standby.
-/
theorem pause_lost :
    (∃ view, watched.Reachable view ∧ view.2.heard = [.stream 69 0x83e8
        (List.replicate 12 0x8000 ++ [0x83e8]) 1]) ∧
      ∃ view, watched.Reachable view ∧ view.2.heard = [.stream 71 0x83e8
        (List.replicate 12 0x8000 ++ [0x83e8]) 1] := by
  constructor
  · have executed := System.ReachableUnder.of_check watched System.anyStep
      (State.discovered, Watch.start)
      [.pause, .sessionEnsure .opened, .streamStart true, .push [1000], .pushCopy 0,
        .tick .accepted, .tickDrain 1, .tickEmit .accepted]
      (fun view => view.2.heard = [.stream 69 0x83e8 (List.replicate 12 0x8000 ++ [0x83e8]) 1])
      rfl (by decide +kernel) (System.runMeets_anyStep _ _)
    simp only [decide_eq_true_eq] at executed
    exact executed
  · have executed := System.ReachableUnder.of_check watched System.anyStep
      (State.discovered, Watch.start)
      [.sessionEnsure .opened, .streamStart true, .pause, .tick .accepted, .tickArm .accepted,
        .pauseEnd, .resume, .push [1000], .pushCopy 0, .tick .accepted, .tickDrain 1, .pause,
        .pause, .tickEmit .accepted]
      (fun view => view.2.heard = [.stream 71 0x83e8 (List.replicate 12 0x8000 ++ [0x83e8]) 1])
      rfl (by decide +kernel) (System.runMeets_anyStep _ _)
    simp only [decide_eq_true_eq] at executed
    exact executed

end TrueForce.Stream
