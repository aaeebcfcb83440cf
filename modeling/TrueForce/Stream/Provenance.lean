import TrueForce.Stream.Pausing

/-!
# Where the samples on the wire come from

A stream start centres the window and the force but leaves the ring alone, so
what a producer pushed before a stop waits there for the next stream.  Clearing
a stream empties the ring; neither a stop nor a close does.

A trace follows every sample with the number of the stream it was pushed in:
through the ring, the block of the tick under way, the window and the force, into
the packets.  It copies what the sections do on tagged samples, and the values of
the tagged samples are those of the device in every run.
-/

namespace TrueForce.Stream

open TrueForce.Foundation TrueForce.Transition

/-- A sample and the stream it was pushed in; centre filling has none. -/
abbrev Tagged := UInt16 × Option ℕ

def Tagged.filling : Tagged := (centre, none)

/-- A sample packet of a stream, with its window and force as they were traced. -/
structure Carried where
  stream : ℕ
  packet : Packet
  window : List Tagged
  current : Tagged

/-- The tagged samples in the packet; an idle packet carries the force alone. -/
def Carried.samples (carried : Carried) : List Tagged :=
  match carried.packet with
  | .idle _ _ => [carried.current]
  | _ => carried.current :: carried.window

structure Trace where
  /-- The number of streams started so far. -/
  stream : ℕ
  pending : List Tagged
  block : List Tagged
  window : List Tagged
  current : Tagged
  carried : List Carried

namespace Trace

def start : Trace where
  stream := 0
  pending := []
  block := []
  window := List.replicate logitfTfWindow (0, none)
  current := (0, none)
  carried := []

def recentre (trace : Trace) : Trace :=
  { trace with
    window := List.replicate logitfTfWindow Tagged.filling
    current := Tagged.filling }

/-- `Device.advance` on tagged samples; a decaying force keeps its tag. -/
def advance (trace : Trace) (starvedTicks : ℕ) : Trace :=
  if trace.block ≠ [] then
    let window := trace.window.drop trace.block.length ++ trace.block
    { trace with window, current := window.getLast?.getD Tagged.filling }
  else if starvedTicks < logitfTfStarveHoldTicks then trace
  else
    { trace with
      window := trace.window.drop logitfTfNew ++ List.replicate logitfTfNew Tagged.filling
      current := (Device.decayTowardsCentre trace.current.1, trace.current.2) }

def carry (trace : Trace) (packets : List Packet) : Trace :=
  { trace with
    carried := trace.carried ++ (packets.filter Packet.isSample).map fun packet =>
      { stream := trace.stream, packet, window := trace.window, current := trace.current } }

def record (trace : Trace) (before after : State) : Event → Trace
  | .streamStart spawned =>
      if before.device.streamRunning then trace
      else { trace.recentre with stream := if spawned then trace.stream + 1 else trace.stream }
  | .pushCopy index =>
      if before.device.accepting then
        let samples := (before.pushing[index]?).getD []
        let pending := trace.pending ++
          samples.map fun sample => (logitfS16ToWire sample, some trace.stream)
        -- The copy sheds from the front what it does not leave in the ring.
        { trace with pending := pending.drop (pending.length - after.device.pending.length) }
      else trace
  | .clear => { trace with pending := [] }
  | .clearWindow => trace.recentre
  | .tickDrain expiries =>
      { trace with
        block := trace.pending.take (Device.sampleBudget expiries)
        pending := trace.pending.drop (Device.sampleBudget expiries) }
  | .tickEmit _ =>
      (trace.advance before.device.tfStarvedTicks).carry (after.wire.drop before.wire.length)
  | _ => trace

end Trace

def traced : System (State × Trace) Event where
  initial view := view = (State.discovered, Trace.start)
  step view event :=
    (view.1.step event).map fun next => (next, view.2.record view.1 next event)

/-- Every stream that starts finds the ring empty. -/
def State.StartsEmpty (state : State) : Event → Prop
  | .streamStart true => state.device.streamRunning = false → state.device.ring.occupancy = 0
  | _ => True

instance (state : State) (event : Event) : Decidable (state.StartsEmpty event) := by
  simp only [State.StartsEmpty]
  split <;> infer_instance

def Tagged.Own (stream : ℕ) (sample : Tagged) : Prop :=
  sample = filling ∨ sample.2 = some stream

/-- The traced values are those of the packet, and none is from another stream. -/
structure Carried.Own (carried : Carried) : Prop where
  values : (∃ seq, carried.packet = .idle seq carried.current.1) ∨
    ∃ seq newCount, carried.packet =
      .stream seq carried.current.1 (carried.window.map Prod.fst) newCount
  own : ∀ sample ∈ carried.samples, sample.Own carried.stream

structure Traced (state : State) (trace : Trace) : Prop where
  bounded : state.device.ring.occupancy ≤ logitfTfMaxPending
  pending : trace.pending.map Prod.fst = state.device.pending
  pendingOwn : ∀ sample ∈ trace.pending, sample.2 = some trace.stream
  block : ∀ paused armedIdle newSamples, state.thread = .emitting paused armedIdle newSamples →
    trace.block.map Prod.fst = newSamples ∧ ∀ sample ∈ trace.block, sample.2 = some trace.stream
  window : trace.window.map Prod.fst = state.device.tfWindow
  current : trace.current.1 = state.device.tfLastCurrent
  own : state.thread ≠ .absent → trace.current.Own trace.stream ∧
    ∀ sample ∈ trace.window, sample.Own trace.stream
  carried : trace.carried.map Carried.packet = state.wire.filter Packet.isSample
  carriedOwn : ∀ carried ∈ trace.carried, carried.Own

namespace Device

def SameSound (device next : Device) : Prop :=
  next.ring = device.ring ∧ next.tfWindow = device.tfWindow ∧
    next.tfLastCurrent = device.tfLastCurrent

theorem stopClear_sound (device : Device) (result : WriteResult) :
    device.SameSound (device.stopClear result).1 := by
  simp only [stopClear]
  repeat' split
  all_goals exact ⟨rfl, rfl, rfl⟩

theorem stopArm_sound (device : Device) (result : WriteResult) :
    device.SameSound (device.stopArm result).1 := by
  simp only [stopArm]
  split <;> exact ⟨rfl, rfl, rfl⟩

theorem sessionEnsure_sound (device : Device) (opening : Opening) :
    device.SameSound (device.sessionEnsure opening).1 := by
  simp only [sessionEnsure]
  repeat' split
  all_goals exact ⟨rfl, rfl, rfl⟩

theorem streamRecordError_sound (device : Device) (rc : ℤ) :
    device.SameSound (device.streamRecordError rc) := by
  simp only [streamRecordError]
  split <;> exact ⟨rfl, rfl, rfl⟩

theorem emitIdle_sound (device : Device) (armedIdle : Bool) (result : WriteResult) :
    device.SameSound (device.emitIdle armedIdle result).1 := by
  simp only [emitIdle]
  repeat' split
  · exact ⟨rfl, rfl, rfl⟩
  · exact stopClear_sound { device with tfIdleTicks := 0 } result
  · exact ⟨rfl, rfl, rfl⟩
  · exact ⟨rfl, rfl, rfl⟩

/-- All that a tick does to the window and the force it does before it writes. -/
theorem tickEmit_sound (device : Device) (paused armedIdle : Bool) (newSamples : List UInt16)
    (result : WriteResult) :
    (device.advance newSamples).SameSound
      (device.tickEmit paused armedIdle newSamples result).1 := by
  simp only [tickEmit]
  repeat' split
  · exact ⟨rfl, rfl, rfl⟩
  · exact (device.advance newSamples).emitIdle_sound armedIdle result
  · exact ⟨rfl, rfl, rfl⟩

/-- A sample packet carries the window and the force that the tick has brought up to date. -/
theorem tickEmit_packet {device : Device} {paused armedIdle : Bool} {newSamples : List UInt16}
    {result : WriteResult} {packet : Packet}
    (member : packet ∈ (device.tickEmit paused armedIdle newSamples result).2.1)
    (isSample : packet.isSample = true) :
    (∃ seq, packet = .idle seq (device.advance newSamples).tfLastCurrent) ∨
      ∃ seq newCount, packet = .stream seq (device.advance newSamples).tfLastCurrent
        (device.advance newSamples).tfWindow newCount := by
  simp only [tickEmit] at member
  split at member
  · cases member
  · split at member
    · simp only [emitIdle] at member
      repeat' split at member
      · cases member
      · rw [stopClear_notSample member] at isSample
        cases isSample
      · exact .inl ⟨_, mem_write member⟩
      · exact .inl ⟨_, mem_write member⟩
    · exact .inr ⟨_, _, mem_write member⟩

end Device

/-- No sample moves, none is sent, and the thread does not get to its emission. -/
structure State.Unheard (state next : State) : Prop where
  sound : state.device.SameSound next.device
  wire : next.wire.filter Packet.isSample = state.wire.filter Packet.isSample
  thread : next.thread = state.thread ∨
    ∀ paused armedIdle newSamples, next.thread ≠ .emitting paused armedIdle newSamples
  present : next.thread ≠ .absent → state.thread ≠ .absent

namespace State.Unheard

variable {state between next : State}

theorem of_silent (sound : state.device.SameSound next.device) (wire : next.wire = state.wire)
    (thread : next.thread = state.thread) :
    state.Unheard next :=
  ⟨sound, by rw [wire], .inl thread, by rw [thread]; exact id⟩

theorem of_control {packets : List Packet} (sound : state.device.SameSound next.device)
    (wire : next.wire = state.wire ++ packets)
    (control : ∀ packet ∈ packets, packet.isSample = false)
    (thread : next.thread = state.thread ∨
      ∀ paused armedIdle newSamples, next.thread ≠ .emitting paused armedIdle newSamples)
    (present : next.thread ≠ .absent → state.thread ≠ .absent) :
    state.Unheard next := by
  refine ⟨sound, ?_, thread, present⟩
  have none : packets.filter Packet.isSample = [] := by
    rw [List.filter_eq_nil_iff]
    intro packet member
    simp [control packet member]
  rw [wire, List.filter_append, none, List.append_nil]

end State.Unheard

namespace State

theorem tickReturn_sound (state : State) (rc : ℤ) :
    state.device.SameSound (state.tickReturn rc).device := by
  simp only [tickReturn]
  split
  · exact state.device.streamRecordError_sound rc
  · exact ⟨rfl, rfl, rfl⟩

theorem pairReturn_sound (state : State) (requested : Bool) (rc : ℤ) :
    state.device.SameSound (state.pairReturn requested rc).device := by
  simp only [pairReturn]
  cases requested with
  | false => exact state.tickReturn_sound rc
  | true =>
      exact tickReturn_sound
        { state with device := { state.device with tfTeardownPending := false } } rc

theorem Settled.notEmitting {state next : State} (settled : state.Settled next)
    (paused armedIdle : Bool) (newSamples : List UInt16) :
    next.thread ≠ .emitting paused armedIdle newSamples := by
  rcases settled.thread with rest | rest <;> simp [rest]

theorem tick_unheard {state : State} (polling : state.thread = .polling) (result : WriteResult) :
    state.Unheard (state.tick result) := by
  have present : state.thread ≠ .absent := by simp [polling]
  have sound := state.device.stopClear_sound result
  have control : ∀ packet ∈ (state.device.stopClear result).2.1, packet.isSample = false :=
    fun packet => Device.stopClear_notSample
  simp only [tick]
  split
  · split
    · exact .of_control sound rfl control (.inr (by simp)) fun _ => present
    · rename_i rc _
      have same := pairReturn_sound
        { state with
          device := (state.device.stopClear result).1
          wire := state.wire ++ (state.device.stopClear result).2.1 } true rc
      have settled := pairReturn_settled
        { state with
          device := (state.device.stopClear result).1
          wire := state.wire ++ (state.device.stopClear result).2.1 } true rc
      refine .of_control ?_ settled.wire control (.inr settled.notEmitting) fun _ => present
      exact ⟨same.1.trans sound.1, same.2.1.trans sound.2.1, same.2.2.trans sound.2.2⟩
  · exact ⟨⟨rfl, rfl, rfl⟩, rfl, .inr (by simp), fun _ => present⟩

theorem tickArm_unheard {state : State} {requested : Bool}
    (arming : state.thread = .arming requested) (result : WriteResult) :
    state.Unheard (state.tickArm requested result) := by
  have present : state.thread ≠ .absent := by simp [arming]
  have sound := state.device.stopArm_sound result
  have same := pairReturn_sound
    { state with
      device := (state.device.stopArm result).1
      wire := state.wire ++ (state.device.stopArm result).2.1 } requested
    (state.device.stopArm result).2.2
  have settled := pairReturn_settled
    { state with
      device := (state.device.stopArm result).1
      wire := state.wire ++ (state.device.stopArm result).2.1 } requested
    (state.device.stopArm result).2.2
  refine .of_control ?_ settled.wire (fun packet => Device.stopArm_notSample)
    (.inr settled.notEmitting) fun _ => present
  exact ⟨same.1.trans sound.1, same.2.1.trans sound.2.1, same.2.2.trans sound.2.2⟩

end State

/-- The sections that move samples, or set the window anew. -/
def Event.movesSamples : Event → Bool
  | .streamStart _ | .pushCopy _ | .clear | .clearWindow | .tickDrain _ | .tickEmit _ => true
  | _ => false

theorem State.unheard {state next : State} {event : Event} (still : event.movesSamples = false)
    (stepped : state.step event = some next) :
    state.Unheard next := by
  cases step_cases stepped with
  | streamStart | pushCopy | clear | clearWindow | tickDrain | tickEmit => cases still
  | sessionEnsure opening =>
      have sound := state.device.sessionEnsure_sound opening
      exact .of_control sound rfl (fun packet => Device.sessionEnsure_notSample) (.inl rfl) id
  | push =>
      simp only [push]
      split <;> exact .of_silent ⟨rfl, rfl, rfl⟩ rfl rfl
  | pause =>
      simp only [pause]
      repeat' split
      all_goals exact .of_silent ⟨rfl, rfl, rfl⟩ rfl rfl
  | resume | pauseEnd | streamStop | streamStopIdle | stopRefuse =>
      exact .of_silent ⟨rfl, rfl, rfl⟩ rfl rfl
  | tick polling result => exact tick_unheard polling result
  | tickArm arming result => exact tickArm_unheard arming result
  | threadFail polling rc =>
      exact ⟨state.device.streamRecordError_sound rc, rfl, .inr (by simp), by simp [polling]⟩
  | stopJoin _ _ result =>
      have sound := state.device.stopClear_sound result
      have control : ∀ packet ∈ (state.device.stopClear result).2.1, packet.isSample = false :=
        fun packet => Device.stopClear_notSample
      simp only [stopJoin]
      repeat' split
      · exact .of_control sound rfl control (.inr (by simp)) (by simp)
      · exact .of_control sound rfl control (.inr (by simp [stopReturn])) (by simp [stopReturn])
      · exact ⟨⟨rfl, rfl, rfl⟩, rfl, .inr (by simp [stopReturn]), by simp [stopReturn]⟩
  | sessionClose _ result =>
      have sound := state.device.stopClear_sound result
      have control : ∀ packet ∈ (state.device.stopClear result).2.1, packet.isSample = false :=
        fun packet => Device.stopClear_notSample
      simp only [sessionClose]
      repeat' split
      · exact .of_control sound rfl control (.inl rfl) id
      · exact .of_control sound rfl control (.inl rfl) id
      · exact .of_silent ⟨rfl, rfl, rfl⟩ rfl rfl
  | stopArm _ result | closeArm _ result =>
      exact .of_control (state.device.stopArm_sound result) rfl
        (fun packet => Device.stopArm_notSample) (.inl rfl) id

theorem Traced.unheard {state next : State} {trace : Trace} (traced : Traced state trace)
    (unheard : state.Unheard next) :
    Traced next trace := by
  rcases unheard.sound with ⟨ring, window, current⟩
  refine ⟨?_, ?_, traced.pendingOwn, ?_, ?_, ?_, ?_, ?_, traced.carriedOwn⟩
  · rw [ring]
    exact traced.bounded
  · rw [Device.pending, ring]
    exact traced.pending
  · intro paused armedIdle newSamples emitting
    rcases unheard.thread with same | other
    · rw [same] at emitting
      exact traced.block paused armedIdle newSamples emitting
    · exact absurd emitting (other paused armedIdle newSamples)
  · rw [window]
    exact traced.window
  · rw [current]
    exact traced.current
  · exact fun present => traced.own (unheard.present present)
  · rw [unheard.wire]
    exact traced.carried

theorem Tagged.map_replicate_filling (count : ℕ) :
    (List.replicate count Tagged.filling).map Prod.fst = List.replicate count centre := by
  rw [List.map_replicate]
  rfl

theorem Traced.recentre {state next : State} {trace : Trace} (traced : Traced state trace)
    (ring : next.device.ring = state.device.ring)
    (window : next.device.tfWindow = List.replicate logitfTfWindow centre)
    (current : next.device.tfLastCurrent = centre) (thread : next.thread = state.thread)
    (wire : next.wire = state.wire) :
    Traced next trace.recentre := by
  refine ⟨?_, ?_, traced.pendingOwn, ?_, ?_, current.symm, ?_, ?_, traced.carriedOwn⟩
  · rw [ring]
    exact traced.bounded
  · rw [Device.pending, ring]
    exact traced.pending
  · rw [thread]
    exact traced.block
  · rw [window]
    exact Tagged.map_replicate_filling logitfTfWindow
  · intro _
    refine ⟨.inl rfl, ?_⟩
    intro sample member
    exact .inl (List.eq_of_mem_replicate member)
  · rw [wire]
    exact traced.carried

theorem Traced.streamStart {state : State} {trace : Trace} (traced : Traced state trace)
    (lifecycle : Lifecycle state) {spawned : Bool}
    (startsEmpty : state.StartsEmpty (.streamStart spawned)) :
    Traced (state.streamStart spawned)
      (trace.record state (state.streamStart spawned) (.streamStart spawned)) := by
  simp only [State.streamStart, Trace.record]
  split
  · exact traced
  · rename_i notRunning
    rw [Bool.not_eq_true] at notRunning
    have absent := lifecycle.absent notRunning
    cases spawned with
    | false =>
        exact traced.recentre rfl rfl rfl rfl rfl
    | true =>
        have recentred : Traced { state with device := state.device.streamReset } trace.recentre :=
          traced.recentre rfl rfl rfl rfl rfl
        have empty : trace.pending = [] := by
          rw [← List.length_eq_zero_iff, ← List.length_map (f := Prod.fst), traced.pending,
            Device.length_pending]
          exact startsEmpty notRunning
        refine ⟨recentred.bounded, recentred.pending, ?_, ?_, recentred.window, recentred.current,
          ?_, recentred.carried, recentred.carriedOwn⟩
        · intro sample member
          simp [Trace.recentre, empty] at member
        · simp
        · intro _
          refine ⟨.inl rfl, ?_⟩
          intro sample member
          exact .inl (List.eq_of_mem_replicate member)

theorem Device.pushCopy_window (device : Device) (samples : List Int16) :
    (device.pushCopy samples).tfWindow = device.tfWindow ∧
      (device.pushCopy samples).tfLastCurrent = device.tfLastCurrent := by
  rw [pushCopy_eq, shedBacklog]
  split <;> simp [noteDropped, copied]

/-- A tagged list stands for what its values leave after shedding from the front. -/
theorem Tagged.map_drop_of_append {tagged : List Tagged} {skipped left : List UInt16}
    (values : tagged.map Prod.fst = skipped ++ left) :
    (tagged.drop (tagged.length - left.length)).map Prod.fst = left := by
  have lengths := congrArg List.length values
  rw [List.length_map, List.length_append] at lengths
  have shed : tagged.length - left.length = skipped.length := by omega
  rw [shed, List.map_drop, values, List.drop_left]

theorem Traced.of_pending {state next : State} {trace : Trace} (traced : Traced state trace)
    {pending : List Tagged} (bounded : next.device.ring.occupancy ≤ logitfTfMaxPending)
    (values : pending.map Prod.fst = next.device.pending)
    (own : ∀ sample ∈ pending, sample.2 = some trace.stream)
    (window : next.device.tfWindow = state.device.tfWindow)
    (current : next.device.tfLastCurrent = state.device.tfLastCurrent)
    (thread : next.thread = state.thread) (wire : next.wire = state.wire) :
    Traced next { trace with pending } := by
  refine ⟨bounded, values, own, ?_, ?_, ?_, ?_, ?_, traced.carriedOwn⟩
  · rw [thread]
    exact traced.block
  · rw [window]
    exact traced.window
  · rw [current]
    exact traced.current
  · rw [thread]
    exact traced.own
  · rw [wire]
    exact traced.carried

theorem Traced.pushCopy {state : State} {trace : Trace} {index : ℕ} {samples : List Int16}
    (traced : Traced state trace) (found : state.pushing[index]? = some samples) :
    Traced (state.pushCopy index samples)
      (trace.record state (state.pushCopy index samples) (.pushCopy index)) := by
  by_cases accepting : state.device.accepting
  · rcases state.device.pushCopy_spec samples traced.bounded with ⟨skipped, moved, _, left⟩
    rcases state.device.pushCopy_window samples with ⟨window, current⟩
    have values : (trace.pending ++
        samples.map fun sample => (logitfS16ToWire sample, some trace.stream)).map Prod.fst =
        skipped ++ (state.device.pushCopy samples).pending := by
      rw [← moved, List.map_append, traced.pending, List.map_map]
      rfl
    have copied : (state.pushCopy index samples).device = state.device.pushCopy samples := by
      simp only [State.pushCopy, accepting, ↓reduceIte]
    simp only [Trace.record, accepting, ↓reduceIte, found, Option.getD_some]
    apply traced.of_pending
    · rw [copied]
      exact left
    · rw [copied]
      exact Tagged.map_drop_of_append values
    · intro sample member
      rcases List.mem_append.mp (List.mem_of_mem_drop member) with old | new
      · exact traced.pendingOwn sample old
      · rcases List.mem_map.mp new with ⟨source, _, rfl⟩
        rfl
    · rw [copied]
      exact window
    · rw [copied]
      exact current
    · rfl
    · rfl
  · simp only [State.pushCopy, Trace.record, accepting, Bool.false_eq_true, ↓reduceIte]
    exact traced.unheard (.of_silent ⟨rfl, rfl, rfl⟩ rfl rfl)

theorem Traced.clear {state : State} {trace : Trace} (traced : Traced state trace) :
    Traced state.clear { trace with pending := [] } := by
  have emptied := state.device.pending_clearRing
  refine traced.of_pending ?_ emptied.symm (by simp) rfl rfl rfl rfl
  have none : state.device.clearRing.ring.occupancy = 0 := by
    rw [← Device.length_pending, emptied, List.length_nil]
  simp only [State.clear, none]
  omega

theorem Traced.tickDrain {state : State} {trace : Trace} (traced : Traced state trace)
    {paused armedIdle : Bool} (draining : state.thread = .draining paused armedIdle)
    (expiries : ℕ) :
    Traced (state.tickDrain paused armedIdle expiries)
      { trace with
        block := trace.pending.take (Device.sampleBudget expiries)
        pending := trace.pending.drop (Device.sampleBudget expiries) } := by
  rcases state.device.tickDrain_spec expiries with ⟨taken, left⟩
  have fewer : (state.device.tickDrain expiries).2.ring.occupancy ≤
      state.device.ring.occupancy := by
    rw [← Device.length_pending, left, List.length_drop, Device.length_pending]
    omega
  refine ⟨fewer.trans traced.bounded, ?_, ?_, ?_, traced.window, traced.current, ?_,
    traced.carried, traced.carriedOwn⟩
  · rw [List.map_drop, traced.pending]
    exact left.symm
  · intro sample member
    exact traced.pendingOwn sample (List.mem_of_mem_drop member)
  · intro otherPaused otherIdle newSamples emitting
    simp only [State.tickDrain, ThreadPhase.emitting.injEq] at emitting
    rcases emitting with ⟨_, _, rfl⟩
    refine ⟨?_, ?_⟩
    · rw [List.map_take, traced.pending, taken]
    · intro sample member
      exact traced.pendingOwn sample (List.mem_of_mem_take member)
  · intro _
    exact traced.own (by simp [draining])

theorem Trace.advance_values {trace : Trace} {device : Device} {newSamples : List UInt16}
    (block : trace.block.map Prod.fst = newSamples)
    (window : trace.window.map Prod.fst = device.tfWindow)
    (current : trace.current.1 = device.tfLastCurrent) :
    (trace.advance device.tfStarvedTicks).window.map Prod.fst =
        (device.advance newSamples).tfWindow ∧
      (trace.advance device.tfStarvedTicks).current.1 =
        (device.advance newSamples).tfLastCurrent := by
  have sameLength : trace.block.length = newSamples.length := by
    rw [← block, List.length_map]
  by_cases empty : trace.block = []
  · have noSamples : newSamples = [] := by rw [← block, empty, List.map_nil]
    subst noSamples
    have counted : (if device.tfStarvedTicks ≤ logitfTfStarveHoldTicks then
        device.tfStarvedTicks + 1 else device.tfStarvedTicks) ≤ logitfTfStarveHoldTicks ↔
        device.tfStarvedTicks < logitfTfStarveHoldTicks := by
      split <;> omega
    simp only [Trace.advance, Device.advance, empty, ne_eq, not_true_eq_false, ↓reduceIte,
      counted]
    split
    · exact ⟨window, current⟩
    · rw [List.map_append, List.map_drop, window, Tagged.map_replicate_filling, current]
      exact ⟨rfl, rfl⟩
  · have someSamples : newSamples ≠ [] := by
      rw [← block]
      simpa using empty
    have moved : (trace.window.drop trace.block.length ++ trace.block).map Prod.fst =
        device.tfWindow.drop newSamples.length ++ newSamples := by
      rw [List.map_append, List.map_drop, window, block, sameLength]
    simp only [Trace.advance, Device.advance, empty, someSamples, ne_eq, not_false_eq_true,
      ↓reduceIte]
    refine ⟨moved, ?_⟩
    rw [← moved, List.getLast?_map]
    cases (trace.window.drop trace.block.length ++ trace.block).getLast? <;> rfl

theorem Device.decayTowardsCentre_centre : Device.decayTowardsCentre centre = centre := by
  decide

theorem Tagged.Own.decay {stream : ℕ} {sample : Tagged} (own : sample.Own stream) :
    Tagged.Own stream (Device.decayTowardsCentre sample.1, sample.2) := by
  rcases own with rfl | tag
  · left
    simp only [Tagged.filling, Device.decayTowardsCentre_centre]
  · exact .inr tag

theorem Trace.advance_own {trace : Trace} (starvedTicks : ℕ)
    (block : ∀ sample ∈ trace.block, sample.2 = some trace.stream)
    (current : trace.current.Own trace.stream)
    (window : ∀ sample ∈ trace.window, sample.Own trace.stream) :
    (trace.advance starvedTicks).current.Own trace.stream ∧
      ∀ sample ∈ (trace.advance starvedTicks).window, sample.Own trace.stream := by
  simp only [Trace.advance]
  split
  · have own : ∀ sample ∈ trace.window.drop trace.block.length ++ trace.block,
        sample.Own trace.stream := by
      intro sample member
      rcases List.mem_append.mp member with old | new
      · exact window sample (List.mem_of_mem_drop old)
      · exact .inr (block sample new)
    refine ⟨?_, own⟩
    cases last : (trace.window.drop trace.block.length ++ trace.block).getLast? with
    | none => exact .inl rfl
    | some sample => exact own sample (List.mem_of_getLast? last)
  · split
    · exact ⟨current, window⟩
    · refine ⟨current.decay, ?_⟩
      intro sample member
      rcases List.mem_append.mp member with old | new
      · exact window sample (List.mem_of_mem_drop old)
      · exact .inl (List.eq_of_mem_replicate new)

@[simp]
theorem Trace.advance_stream (trace : Trace) (starvedTicks : ℕ) :
    (trace.advance starvedTicks).stream = trace.stream := by
  simp only [Trace.advance]
  repeat' split
  all_goals rfl

@[simp]
theorem Trace.advance_carried (trace : Trace) (starvedTicks : ℕ) :
    (trace.advance starvedTicks).carried = trace.carried := by
  simp only [Trace.advance]
  repeat' split
  all_goals rfl

@[simp]
theorem Trace.advance_pending (trace : Trace) (starvedTicks : ℕ) :
    (trace.advance starvedTicks).pending = trace.pending := by
  simp only [Trace.advance]
  repeat' split
  all_goals rfl

theorem Carried.mem_samples {carried : Carried} {sample : Tagged}
    (member : sample ∈ carried.samples) :
    sample = carried.current ∨ sample ∈ carried.window := by
  simp only [Carried.samples] at member
  split at member
  · exact .inl (List.mem_singleton.mp member)
  · exact List.mem_cons.mp member

/-- What the machine adds to a tick's emission touches neither samples nor the wire. -/
theorem State.tickEmit_settles (state : State) (paused armedIdle : Bool)
    (newSamples : List UInt16) (result : WriteResult) :
    (state.device.advance newSamples).SameSound
        (state.tickEmit paused armedIdle newSamples result).device ∧
      (state.tickEmit paused armedIdle newSamples result).wire =
        state.wire ++ (state.device.tickEmit paused armedIdle newSamples result).2.1 ∧
      ∀ otherPaused otherIdle otherSamples,
        (state.tickEmit paused armedIdle newSamples result).thread ≠
          .emitting otherPaused otherIdle otherSamples := by
  have sound := state.device.tickEmit_sound paused armedIdle newSamples result
  simp only [State.tickEmit]
  split
  · exact ⟨sound, rfl, by simp⟩
  · rename_i rc _
    have same := tickReturn_sound
      { state with
        device := (state.device.tickEmit paused armedIdle newSamples result).1
        wire := state.wire ++ (state.device.tickEmit paused armedIdle newSamples result).2.1 } rc
    have settled := tickReturn_settled
      { state with
        device := (state.device.tickEmit paused armedIdle newSamples result).1
        wire := state.wire ++ (state.device.tickEmit paused armedIdle newSamples result).2.1 } rc
    refine ⟨?_, settled.wire, settled.notEmitting⟩
    exact ⟨same.1.trans sound.1, same.2.1.trans sound.2.1, same.2.2.trans sound.2.2⟩

theorem Traced.tickEmit {state : State} {trace : Trace} (traced : Traced state trace)
    {paused armedIdle : Bool} {newSamples : List UInt16}
    (emitting : state.thread = .emitting paused armedIdle newSamples) (result : WriteResult) :
    Traced (state.tickEmit paused armedIdle newSamples result)
      (trace.record state (state.tickEmit paused armedIdle newSamples result)
        (.tickEmit result)) := by
  have present : state.thread ≠ .absent := by simp [emitting]
  rcases traced.block _ _ _ emitting with ⟨block, blockOwn⟩
  rcases traced.own present with ⟨currentOwn, windowOwn⟩
  rcases Trace.advance_values block traced.window traced.current with ⟨window, current⟩
  rcases trace.advance_own state.device.tfStarvedTicks blockOwn currentOwn windowOwn with
    ⟨advancedCurrent, advancedWindow⟩
  rcases state.tickEmit_settles paused armedIdle newSamples result with
    ⟨⟨ring, sameWindow, sameCurrent⟩, wire, notEmitting⟩
  have ring := ring.trans (Device.advance_ring state.device newSamples)
  simp only [Trace.record, Trace.carry, wire, List.drop_left]
  refine ⟨?_, ?_, ?_, ?_, ?_, ?_, ?_, ?_, ?_⟩
  · rw [ring]
    exact traced.bounded
  · rw [Trace.advance_pending, Device.pending, ring]
    exact traced.pending
  · simp only [Trace.advance_pending, Trace.advance_stream]
    exact traced.pendingOwn
  · intro otherPaused otherIdle otherSamples again
    exact absurd again (notEmitting _ _ _)
  · rw [sameWindow]
    exact window
  · rw [sameCurrent]
    exact current
  · intro _
    simp only [Trace.advance_stream]
    exact ⟨advancedCurrent, advancedWindow⟩
  · rw [wire, List.filter_append, List.map_append, Trace.advance_carried, traced.carried,
      List.map_map]
    simp [Function.comp_def]
  · intro carried member
    rw [Trace.advance_carried, Trace.advance_stream] at member
    rcases List.mem_append.mp member with old | new
    · exact traced.carriedOwn carried old
    · rcases List.mem_map.mp new with ⟨packet, sent, rfl⟩
      rcases List.mem_filter.mp sent with ⟨sent, isSample⟩
      refine ⟨?_, ?_⟩
      · simp only [window, current]
        exact Device.tickEmit_packet sent isSample
      · intro sample member
        rcases Carried.mem_samples member with rfl | inWindow
        · exact advancedCurrent
        · exact advancedWindow sample inWindow

theorem Traced.step {state next : State} {trace : Trace} {event : Event}
    (traced : Traced state trace) (lifecycle : Lifecycle state)
    (startsEmpty : state.StartsEmpty event) (stepped : state.step event = some next) :
    Traced next (trace.record state next event) := by
  cases State.step_cases stepped with
  | streamStart spawned => exact traced.streamStart lifecycle startsEmpty
  | pushCopy found => exact traced.pushCopy found
  | clear => exact traced.clear
  | clearWindow => exact traced.recentre rfl rfl rfl rfl rfl
  | tickDrain draining expiries => exact traced.tickDrain draining expiries
  | tickEmit emitting result => exact traced.tickEmit emitting result
  | _ => exact traced.unheard (State.unheard rfl stepped)

theorem traced_of_reachable {view : State × Trace}
    (reachable : traced.ReachableUnder (fun view => view.1.StartsEmpty) view) :
    Lifecycle view.1 ∧ Traced view.1 view.2 := by
  apply System.ReachableUnder.invariant reachable
  · intro start initial
    cases initial
    refine ⟨.discovered, by decide, rfl, by simp [Trace.start], ?_, rfl, rfl, ?_, rfl,
      by simp [Trace.start]⟩
    · simp [State.discovered]
    · simp [State.discovered]
  · intro current event next held startsEmpty stepped
    rcases held with ⟨lifecycle, held⟩
    simp only [traced, Option.map_eq_some_iff] at stepped
    rcases stepped with ⟨state, stepped, rfl⟩
    exact ⟨lifecycle.step stepped, held.step lifecycle startsEmpty stepped⟩

/--
In every interleaving in which every stream that starts finds the ring empty, the
traced packets are the sample packets on the wire, and each carries only centre
and samples pushed in its own stream.
-/
theorem streams_carry_their_own_samples {state : State} {trace : Trace}
    (reachable : traced.ReachableUnder (fun view => view.1.StartsEmpty) (state, trace)) :
    trace.carried.map Carried.packet = state.wire.filter Packet.isSample ∧
      ∀ carried ∈ trace.carried, carried.Own := by
  rcases traced_of_reachable reachable with ⟨_, held⟩
  exact ⟨held.carried, held.carriedOwn⟩

/-- Two streams with a sample each, the second one started on an empty ring. -/
theorem two_streams_carry_their_own_samples :
    ∃ state trace, traced.ReachableUnder (fun view => view.1.StartsEmpty) (state, trace) ∧
      trace.carried.map Carried.stream = [1, 2] ∧
      trace.carried.map (fun carried => carried.current) = [(0x83e8, some 1), (0x87d0, some 2)] ∧
      ∀ carried ∈ trace.carried, carried.Own := by
  have executed := System.ReachableUnder.of_check traced (fun view => view.1.StartsEmpty)
    (State.discovered, Trace.start)
    [.sessionEnsure .opened, .streamStart true, .push [1000], .pushCopy 0, .tick .accepted,
      .tickDrain 1, .tickEmit .accepted, .streamStop, .stopRefuse, .stopJoin .accepted,
      .stopArm .accepted, .sessionClose .accepted, .sessionEnsure .opened, .streamStart true,
      .push [2000], .pushCopy 0, .tick .accepted, .tickDrain 1, .tickEmit .accepted]
    (fun view => view.2.carried.map Carried.stream = [1, 2] ∧
      view.2.carried.map (fun carried => carried.current) =
        [(0x83e8, some 1), (0x87d0, some 2)]) rfl
    (by decide +kernel) (by decide +kernel)
  rcases executed with ⟨⟨state, trace⟩, reachable, seen⟩
  simp only [decide_eq_true_eq] at seen
  exact ⟨state, trace, reachable, seen.1, seen.2, (streams_carry_their_own_samples reachable).2⟩

/-- A sample pushed just before a close is the force of the next session's first packet. -/
theorem sample_leaks_into_next_session :
    ∃ state trace, traced.Reachable (state, trace) ∧
      trace.carried.map (fun carried => (carried.stream, carried.current)) =
        [(2, (0x83e8, some 1))] ∧
      ¬ ∀ carried ∈ trace.carried, carried.Own := by
  have executed := System.ReachableUnder.of_check traced System.anyStep
    (State.discovered, Trace.start)
    [.sessionEnsure .opened, .streamStart true, .push [1000], .pushCopy 0, .streamStop,
      .stopRefuse, .stopJoin .accepted, .stopArm .accepted, .sessionClose .accepted,
      .sessionEnsure .opened, .streamStart true, .tick .accepted, .tickDrain 1,
      .tickEmit .accepted]
    (fun view => view.2.carried.map (fun carried => (carried.stream, carried.current)) =
      [(2, (0x83e8, some 1))]) rfl
    (by decide +kernel) (System.runMeets_anyStep _ _)
  rcases executed with ⟨⟨state, trace⟩, reachable, seen⟩
  simp only [decide_eq_true_eq] at seen
  refine ⟨state, trace, reachable, seen, ?_⟩
  intro own
  rcases List.map_eq_singleton_iff.mp seen with ⟨carried, only, first⟩
  simp only [Prod.mk.injEq] at first
  have inCarried : carried ∈ trace.carried := by
    rw [only]
    exact List.mem_singleton_self carried
  have inPacket : carried.current ∈ carried.samples := by
    simp only [Carried.samples]
    split <;> exact List.mem_cons_self
  rcases (own carried inCarried).own carried.current inPacket with filling | tag
  · rw [first.2] at filling
    cases filling
  · rw [first.1, first.2] at tag
    cases tag

end TrueForce.Stream
