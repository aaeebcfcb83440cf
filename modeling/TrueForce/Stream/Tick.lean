import TrueForce.Stream.RingLaw

/-!
# Whole ticks

`logitf_stream_tick_n` from its start to its end, undisturbed and with the wheel
taking the writes, and what a sequence of such ticks leaves on the device and on
the wire.  Every such sequence is a run of the stream, so that what holds of the
ticks holds of its sections.
-/

namespace TrueForce.Stream

open TrueForce.Foundation TrueForce.Transition

namespace Device

def stopPair (device : Device) : Device × List Packet :=
  match device.stopClear .accepted with
  | (device, packets, .armPending) =>
      let (device, arm, _) := device.stopArm .accepted
      (device, packets ++ arm)
  | (device, packets, .returned _) => (device, packets)

/-- `logitf_stream_tick_n` from its start to its end, when the wheel takes the writes. -/
def tickN (device : Device) (expiries : ℕ) : Device × List Packet :=
  if device.tfTeardownPending then
    let (device, packets) := device.stopPair
    ({ device with tfTeardownPending := false }, packets)
  else
    let (newSamples, drained) := device.tickDrain expiries
    match drained.tickEmit device.tfPaused device.tfArmedIdle newSamples .accepted with
    | (device, packets, .armPending) =>
        let (device, arm, _) := device.stopArm .accepted
        (device, packets ++ arm)
    | (device, packets, .returned _) => (device, packets)

def afterTicks (device : Device) (expiries : ℕ → ℕ) : ℕ → Device
  | 0 => device
  | count + 1 => ((device.afterTicks expiries count).tickN (expiries count)).1

def emitted (device : Device) (expiries : ℕ → ℕ) (count : ℕ) : List Packet :=
  ((device.afterTicks expiries count).tickN (expiries count)).2

@[simp]
theorem advance_hidrawOpen (device : Device) (newSamples : List UInt16) :
    (device.advance newSamples).hidrawOpen = device.hidrawOpen := by
  simp only [advance]
  repeat' split
  all_goals rfl

/-- With the node open and the write taken, a tick ends well and leaves the node open. -/
theorem tickEmit_accepted (device : Device) (paused armedIdle : Bool) (newSamples : List UInt16)
    (isOpen : device.hidrawOpen = true) :
    let sent := device.tickEmit paused armedIdle newSamples .accepted
    sent.1.hidrawOpen = true ∧ (sent.2.2 = .armPending ∨ sent.2.2 = .returned 0) := by
  have stillOpen : (device.advance newSamples).hidrawOpen = true := by simp [isOpen]
  simp only [tickEmit, emitIdle, emitPacket, stopClear, write, nextSeq, stillOpen, WriteResult.rc]
  split_ifs <;> simp_all

theorem afterTicks_succ (device : Device) (expiries : ℕ → ℕ) (count : ℕ) :
    device.afterTicks expiries (count + 1) =
      (device.tickN (expiries 0)).1.afterTicks (fun index => expiries (index + 1)) count := by
  induction count with
  | zero => rfl
  | succ count ih => rw [afterTicks, ih, afterTicks]

theorem emitted_succ (device : Device) (expiries : ℕ → ℕ) (count : ℕ) :
    device.emitted expiries (count + 1) =
      (device.tickN (expiries 0)).1.emitted (fun index => expiries (index + 1)) count := by
  rw [emitted, afterTicks_succ, emitted]

theorem afterTicks_add (device : Device) (expiries : ℕ → ℕ) (first second : ℕ) :
    device.afterTicks expiries (first + second) =
      (device.afterTicks expiries first).afterTicks
        (fun index => expiries (first + index)) second := by
  induction second with
  | zero => rfl
  | succ second ih => rw [← Nat.add_assoc, afterTicks, ih, afterTicks]

theorem emitted_add (device : Device) (expiries : ℕ → ℕ) (first second : ℕ) :
    device.emitted expiries (first + second) =
      (device.afterTicks expiries first).emitted
        (fun index => expiries (first + index)) second := by
  rw [emitted, afterTicks_add, emitted]

/-- The ranges of the counters and of the backlog. -/
structure Counted (device : Device) : Prop where
  bounded : device.ring.occupancy ≤ logitfTfMaxPending
  idle : device.tfIdleTicks < logitfTfIdleGraceTicks
  starved : device.tfStarvedTicks ≤ logitfTfStarveHoldTicks + 1

theorem grace_pos : 0 < logitfTfIdleGraceTicks := by decide

theorem advance_counters (device : Device) (newSamples : List UInt16)
    (starved : device.tfStarvedTicks ≤ logitfTfStarveHoldTicks + 1) :
    (device.advance newSamples).tfIdleTicks = device.tfIdleTicks ∧
      (device.advance newSamples).tfStarvedTicks ≤ logitfTfStarveHoldTicks + 1 := by
  simp only [advance]
  split_ifs <;> constructor <;> first | rfl | (simp only; omega)

theorem stopClear_counters (device : Device) (result : WriteResult) :
    (device.stopClear result).1.tfIdleTicks = device.tfIdleTicks ∧
      (device.stopClear result).1.tfStarvedTicks = device.tfStarvedTicks := by
  simp only [stopClear, nextSeq]
  split_ifs <;> exact ⟨rfl, rfl⟩

theorem emitIdle_counters (device : Device) (armedIdle : Bool) (result : WriteResult)
    (idle : device.tfIdleTicks < logitfTfIdleGraceTicks) :
    (device.emitIdle armedIdle result).1.tfIdleTicks < logitfTfIdleGraceTicks ∧
      (device.emitIdle armedIdle result).1.tfStarvedTicks = device.tfStarvedTicks := by
  have grace : logitfTfIdleGraceTicks = 500 := rfl
  simp only [emitIdle, emitPacket, nextSeq]
  split_ifs
  · exact ⟨idle, rfl⟩
  · rcases stopClear_counters { device with tfIdleTicks := 0 } result with ⟨cleared, kept⟩
    refine ⟨?_, kept⟩
    rw [cleared]
    exact grace_pos
  · refine ⟨?_, rfl⟩
    simp only
    omega
  · exact ⟨grace_pos, rfl⟩

theorem Counted.tickEmit {device : Device} (counted : device.Counted) (paused armedIdle : Bool)
    (newSamples : List UInt16) (result : WriteResult) :
    (device.tickEmit paused armedIdle newSamples result).1.Counted := by
  rcases counted with ⟨bounded, idle, starved⟩
  rcases advance_counters device newSamples starved with ⟨idleKept, advanced⟩
  have stillIdle : (device.advance newSamples).tfIdleTicks < logitfTfIdleGraceTicks := by
    rw [idleKept]
    exact idle
  rcases emitIdle_counters _ armedIdle result stillIdle with ⟨emittedIdle, emittedStarved⟩
  refine ⟨by simpa using bounded, ?_, ?_⟩
  · simp only [Device.tickEmit]
    split_ifs
    · exact stillIdle
    · exact emittedIdle
    · exact grace_pos
  · simp only [Device.tickEmit]
    split_ifs
    · exact advanced
    · rw [emittedStarved]
      exact advanced
    · exact advanced

theorem Counted.pushCopy {device : Device} (counted : device.Counted) (samples : List Int16) :
    (device.pushCopy samples).Counted := by
  rcases counted with ⟨bounded, idle, starved⟩
  rcases device.pushCopy_spec samples bounded with ⟨_, _, _, left⟩
  have same : (device.pushCopy samples).tfIdleTicks = device.tfIdleTicks ∧
      (device.pushCopy samples).tfStarvedTicks = device.tfStarvedTicks := by
    rw [pushCopy_eq, shedBacklog]
    split <;> simp only [noteDropped, copied, and_self]
  exact ⟨left, by rw [same.1]; exact idle, by rw [same.2]; exact starved⟩

theorem Counted.tickDrain {device : Device} (counted : device.Counted) (expiries : ℕ) :
    (device.tickDrain expiries).2.Counted := by
  rcases counted with ⟨bounded, idle, starved⟩
  refine ⟨?_, idle, starved⟩
  rw [← length_pending, (device.tickDrain_spec expiries).2, List.length_drop, length_pending]
  omega

theorem counted_invariant : DeviceInvariant Counted where
  flags _ _ _ _ _ _ _ _ counted := ⟨counted.bounded, counted.idle, counted.starved⟩
  sessionEnsure device opening counted := by
    simp only [sessionEnsure]
    split
    · exact counted
    · split
      · exact counted
      · exact ⟨counted.bounded, counted.idle, counted.starved⟩
      · exact ⟨counted.bounded, grace_pos, counted.starved⟩
  streamReset _ counted := ⟨counted.bounded, grace_pos, Nat.zero_le _⟩
  pushCopy _ samples counted := counted.pushCopy samples
  clearRing device counted := by
    refine ⟨?_, counted.idle, counted.starved⟩
    rw [← length_pending, pending_clearRing]
    decide
  recentre _ counted := ⟨counted.bounded, counted.idle, counted.starved⟩
  tickDrain _ expiries counted := counted.tickDrain expiries
  tickEmit _ paused armedIdle newSamples result counted :=
    counted.tickEmit paused armedIdle newSamples result
  stopClear device result counted := by
    rcases device.stopClear_counters result with ⟨idle, starved⟩
    exact ⟨by simpa using counted.bounded, by rw [idle]; exact counted.idle,
      by rw [starved]; exact counted.starved⟩
  stopArm device result counted := by
    simp only [stopArm]
    split <;> exact ⟨counted.bounded, counted.idle, counted.starved⟩
  streamRecordError device rc counted := by
    simp only [streamRecordError]
    split
    · exact ⟨counted.bounded, counted.idle, counted.starved⟩
    · exact counted

theorem counted_of_reachable {state : State} (reachable : stream.Reachable state) :
    state.device.Counted :=
  counted_invariant.reachable ⟨by decide, by decide, by decide⟩ reachable

structure Unrequested (device : Device) : Prop where
  counted : device.Counted
  noRequest : device.tfTeardownPending = false
  isOpen : device.hidrawOpen = true

theorem emitIdle_noRequest (device : Device) (armedIdle : Bool) (result : WriteResult) :
    (device.emitIdle armedIdle result).1.tfTeardownPending = device.tfTeardownPending := by
  simp only [emitIdle, emitPacket, stopClear, nextSeq]
  split_ifs <;> rfl

theorem tickEmit_noRequest (device : Device) (paused armedIdle : Bool)
    (newSamples : List UInt16) (result : WriteResult) :
    (device.tickEmit paused armedIdle newSamples result).1.tfTeardownPending =
      device.tfTeardownPending := by
  have advanced : (device.advance newSamples).tfTeardownPending = device.tfTeardownPending := by
    simp only [advance]
    split_ifs <;> rfl
  simp only [tickEmit]
  split_ifs
  · exact advanced
  · rw [emitIdle_noRequest]
    exact advanced
  · exact advanced

theorem Unrequested.tickDrain {device : Device} (ready : device.Unrequested) (expiries : ℕ) :
    (device.tickDrain expiries).2.Unrequested :=
  ⟨ready.counted.tickDrain expiries, ready.noRequest, ready.isOpen⟩

theorem Unrequested.tickEmit {device : Device} (ready : device.Unrequested)
    (paused armedIdle : Bool) (newSamples : List UInt16) :
    (device.tickEmit paused armedIdle newSamples .accepted).1.Unrequested where
  counted := ready.counted.tickEmit paused armedIdle newSamples .accepted
  noRequest := (device.tickEmit_noRequest ..).trans ready.noRequest
  isOpen := (device.tickEmit_accepted paused armedIdle newSamples ready.isOpen).1

theorem Unrequested.stopArm {device : Device} (ready : device.Unrequested)
    (result : WriteResult) :
    (device.stopArm result).1.Unrequested := by
  refine ⟨counted_invariant.stopArm device result ready.counted, ?_, ?_⟩
  · simp only [Device.stopArm]
    split <;> exact ready.noRequest
  · simp only [Device.stopArm]
    split <;> exact ready.isOpen

/-- A tick drains its budget, whatever it sends. -/
theorem tickN_drains {device : Device} (ready : device.Unrequested) (expiries : ℕ) :
    (device.tickN expiries).1.Unrequested ∧
      (device.tickN expiries).1.pending = device.pending.drop (sampleBudget expiries) := by
  rw [← (device.tickDrain_spec expiries).2]
  have drained := ready.tickDrain expiries
  simp only [tickN, ready.noRequest]
  generalize device.tickDrain expiries = result at drained ⊢
  rcases result with ⟨newSamples, rest⟩
  have sent := drained.tickEmit device.tfPaused device.tfArmedIdle newSamples
  have ring := rest.tickEmit_ring device.tfPaused device.tfArmedIdle newSamples .accepted
  simp only [Bool.false_eq_true, ↓reduceIte]
  generalize rest.tickEmit device.tfPaused device.tfArmedIdle newSamples .accepted = result
    at sent ring ⊢
  rcases result with ⟨after, packets, progress⟩
  simp only at sent ring
  cases progress with
  | armPending =>
      refine ⟨sent.stopArm .accepted, ?_⟩
      simp only [pending, stopArm_ring, ring]
  | returned rc =>
      refine ⟨sent, ?_⟩
      simp only [pending, ring]

/-- A tick that finds a request serves it and leaves the ring for the next one. -/
theorem tickN_serves {device : Device} (counted : device.Counted)
    (isOpen : device.hidrawOpen = true) (requested : device.tfTeardownPending = true)
    (expiries : ℕ) :
    (device.tickN expiries).1.Unrequested := by
  by_cases armed : device.tfArmedIdle
  · simp [tickN, stopPair, stopClear, requested, armed]
    exact ⟨⟨counted.bounded, counted.idle, counted.starved⟩, rfl, isOpen⟩
  · simp [tickN, stopPair, stopClear, stopArm, write, nextSeq, WriteResult.rc, requested, armed,
      isOpen]
    exact ⟨⟨counted.bounded, counted.idle, counted.starved⟩, rfl, rfl⟩

end Device

def Event.ofTick : Event → Bool
  | .tick _ | .tickDrain _ | .tickEmit _ | .tickArm _ => true
  | _ => false

def State.afterTick (state : State) (expiries : ℕ) : State :=
  { state with
    device := (state.device.tickN expiries).1
    wire := state.wire ++ (state.device.tickN expiries).2 }

/-- The sections of a tick run one after the other are the whole tick. -/
theorem run_tick (state : State) (expiries : ℕ) (polling : state.thread = .polling)
    (isOpen : state.device.hidrawOpen = true) :
    ∃ events, (∀ event ∈ events, event.ofTick = true) ∧
      stream.run state events = some (state.afterTick expiries) := by
  by_cases requested : state.device.tfTeardownPending
  · by_cases armed : state.device.tfArmedIdle
    · refine ⟨[.tick .accepted], by decide, ?_⟩
      simp [System.run, stream, State.step, State.tick, State.afterTick, Device.tickN,
        Device.stopPair, Device.stopClear, State.pairReturn, State.tickReturn, requested, armed,
        polling]
    · refine ⟨[.tick .accepted, .tickArm .accepted], by decide, ?_⟩
      simp [System.run, stream, State.step, State.tick, State.tickArm, State.afterTick,
        Device.tickN, Device.stopPair, Device.stopClear, Device.stopArm, Device.write,
        Device.nextSeq, State.pairReturn, State.tickReturn, WriteResult.rc, requested, armed,
        polling, isOpen]
  · have begun : state.tick .accepted = { state with
        thread := .draining state.device.tfPaused state.device.tfArmedIdle } := by
      simp [State.tick, requested]
    rcases drained : state.device.tickDrain expiries with ⟨newSamples, device⟩
    have opened : device.hidrawOpen = true := by
      have same : (state.device.tickDrain expiries).2.hidrawOpen = state.device.hidrawOpen := rfl
      rw [drained, isOpen] at same
      exact same
    have outcome := device.tickEmit_accepted state.device.tfPaused state.device.tfArmedIdle
      newSamples opened
    rcases emitted : device.tickEmit state.device.tfPaused state.device.tfArmedIdle newSamples
      .accepted with ⟨after, packets, progress⟩
    simp only [emitted] at outcome
    rcases outcome with ⟨stillOpen, rfl | rfl⟩
    · refine ⟨[.tick .accepted, .tickDrain expiries, .tickEmit .accepted, .tickArm .accepted],
        by simp [Event.ofTick], ?_⟩
      simp [System.run, stream, begun, State.step, State.tickDrain, State.tickEmit, State.tickArm,
        State.afterTick, State.pairReturn, State.tickReturn, Device.tickN, Device.stopArm,
        Device.write, WriteResult.rc, drained, emitted, requested, stillOpen, polling]
    · refine ⟨[.tick .accepted, .tickDrain expiries, .tickEmit .accepted],
        by simp [Event.ofTick], ?_⟩
      simp [System.run, stream, begun, State.step, State.tickDrain, State.tickEmit,
        State.afterTick, State.tickReturn, Device.tickN, drained, emitted, requested, polling]

def State.afterTicks (state : State) (expiries : ℕ → ℕ) (count : ℕ) : State :=
  { state with
    device := state.device.afterTicks expiries count
    wire := state.wire ++ (List.range count).flatMap (state.device.emitted expiries) }

@[simp]
theorem State.afterTicks_device (state : State) (expiries : ℕ → ℕ) (count : ℕ) :
    (state.afterTicks expiries count).device = state.device.afterTicks expiries count := rfl

@[simp]
theorem State.afterTicks_thread (state : State) (expiries : ℕ → ℕ) (count : ℕ) :
    (state.afterTicks expiries count).thread = state.thread := rfl

theorem tickN_isOpen {device : Device} (counted : device.Counted)
    (isOpen : device.hidrawOpen = true) (expiries : ℕ) :
    (device.tickN expiries).1.hidrawOpen = true ∧ (device.tickN expiries).1.Counted := by
  by_cases requested : device.tfTeardownPending
  · have next := Device.tickN_serves counted isOpen requested expiries
    exact ⟨next.isOpen, next.counted⟩
  · have ready : device.Unrequested := ⟨counted, by simpa using requested, isOpen⟩
    have next := (Device.tickN_drains ready expiries).1
    exact ⟨next.isOpen, next.counted⟩

/-- The ticks of the law are runs of the stream. -/
theorem run_ticks (state : State) (counted : state.device.Counted)
    (polling : state.thread = .polling) (isOpen : state.device.hidrawOpen = true)
    (expiries : ℕ → ℕ) (count : ℕ) :
    ∃ events, (∀ event ∈ events, event.ofTick = true) ∧
      stream.run state events = some (state.afterTicks expiries count) := by
  suffices run : (state.device.afterTicks expiries count).hidrawOpen = true ∧
      (state.device.afterTicks expiries count).Counted ∧
      ∃ events, (∀ event ∈ events, event.ofTick = true) ∧
        stream.run state events = some (state.afterTicks expiries count) from run.2.2
  induction count with
  | zero =>
      refine ⟨isOpen, counted, [], nofun, ?_⟩
      simp [System.run, State.afterTicks, Device.afterTicks]
  | succ count ih =>
      rcases ih with ⟨stillOpen, stillCounted, events, ticks, executed⟩
      rcases run_tick (state.afterTicks expiries count) (expiries count) polling stillOpen with
        ⟨more, moreTicks, last⟩
      rcases tickN_isOpen stillCounted stillOpen (expiries count) with ⟨nextOpen, nextCounted⟩
      refine ⟨nextOpen, nextCounted, events ++ more, ?_, ?_⟩
      · intro event member
        rcases List.mem_append.mp member with early | late
        · exact ticks event early
        · exact moreTicks event late
      · rw [System.run_append, executed, Option.bind_some, last]
        simp [State.afterTick, State.afterTicks, Device.afterTicks, Device.emitted,
          List.range_succ]

end TrueForce.Stream
