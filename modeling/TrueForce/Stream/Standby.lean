import TrueForce.Stream.RingLaw

/-!
# Standby

Once the teardown pair is out, nothing reaches the wire until a producer's
non-silent sample is copied into the ring or the session is opened or closed:
not by the ticks, nor by pauses, clears or a stream stopped and started again.
-/

namespace TrueForce.Stream

open TrueForce.Foundation TrueForce.Transition

/-- The pair is out, and neither the ring nor the tick in progress has anything to play. -/
structure Standby (state : State) : Prop where
  armed : state.device.tfArmedIdle = true
  bounded : state.device.ring.occupancy ≤ logitfTfMaxPending
  silent : ∀ sample ∈ state.device.pending, sample = centre
  draining : ∀ paused armedIdle, state.thread = .draining paused armedIdle → armedIdle = true
  emitting : ∀ paused armedIdle newSamples, state.thread = .emitting paused armedIdle newSamples →
    armedIdle = true ∧ ∀ sample ∈ newSamples, sample = centre
  notArming : ∀ requested, state.thread ≠ .arming requested

/-- The step copies no audible sample and neither opens nor closes the session. -/
def Quiet (state : State) : Event → Prop
  | .pushCopy index =>
      ∀ samples, state.pushing[index]? = some samples → ∀ sample ∈ samples, sample = 0
  | .sessionEnsure _ =>
      state.device.tfInitialized = true ∧ state.device.hidrawOpen = true
  | .sessionClose _ | .closeArm _ | .stopArm _ => False
  | _ => True

theorem wire_zero : logitfS16ToWire 0 = centre := by decide

theorem blockIsSilent_of_forall {samples : List UInt16}
    (silent : ∀ sample ∈ samples, sample = centre) :
    Device.blockIsSilent samples = true := by
  simp only [Device.blockIsSilent, List.all_eq_true, beq_iff_eq]
  exact silent

/-- A silent block in standby moves the window on and writes nothing. -/
theorem tickEmit_standby {device : Device} {paused : Bool} {newSamples : List UInt16}
    (silent : ∀ sample ∈ newSamples, sample = centre) (result : WriteResult) :
    device.tickEmit paused true newSamples result =
      (device.advance newSamples, [], .returned 0) := by
  have block := blockIsSilent_of_forall silent
  cases paused <;> simp [Device.tickEmit, Device.emitIdle, block]

theorem stopClear_standby {device : Device} (armed : device.tfArmedIdle = true)
    (result : WriteResult) :
    device.stopClear result = (device, [], .returned 0) := by
  simp [Device.stopClear, armed]

theorem silent_pushCopy {device : Device} {samples : List Int16}
    (bounded : device.ring.occupancy ≤ logitfTfMaxPending)
    (silent : ∀ sample ∈ device.pending, sample = centre)
    (zeros : ∀ sample ∈ samples, sample = 0) :
    ∀ sample ∈ (device.pushCopy samples).pending, sample = centre := by
  rcases device.pushCopy_spec samples bounded with ⟨skipped, moved, _⟩
  intro sample member
  have pushed : sample ∈ device.pending ++ samples.map logitfS16ToWire := by
    rw [moved]
    exact List.mem_append_right skipped member
  rcases List.mem_append.mp pushed with old | new
  · exact silent sample old
  · rcases List.mem_map.mp new with ⟨source, inPush, rfl⟩
    rw [zeros source inPush, wire_zero]

def ThreadPhase.Resting (thread : ThreadPhase) : Prop :=
  thread = .absent ∨ thread = .polling ∨ thread = .exited

theorem Standby.of_resting {state : State} (armed : state.device.tfArmedIdle = true)
    (bounded : state.device.ring.occupancy ≤ logitfTfMaxPending)
    (silent : ∀ sample ∈ state.device.pending, sample = centre)
    (resting : state.thread.Resting) :
    Standby state := by
  refine ⟨armed, bounded, silent, ?_, ?_, ?_⟩
  all_goals rcases resting with rest | rest | rest <;> simp [rest]

theorem Standby.of_same {state next : State} (standby : Standby state)
    (armed : next.device.tfArmedIdle = state.device.tfArmedIdle)
    (ring : next.device.ring = state.device.ring)
    (thread : next.thread = state.thread ∨ next.thread.Resting) :
    Standby next := by
  have pending : next.device.pending = state.device.pending := by
    rw [Device.pending, ring, Device.pending]
  rcases thread with same | resting
  · refine ⟨armed.trans standby.armed, ?_, ?_, ?_, ?_, ?_⟩
    · rw [ring]
      exact standby.bounded
    · rw [pending]
      exact standby.silent
    · rw [same]
      exact standby.draining
    · rw [same]
      exact standby.emitting
    · rw [same]
      exact standby.notArming
  · apply Standby.of_resting (armed.trans standby.armed) _ _ resting
    · rw [ring]
      exact standby.bounded
    · rw [pending]
      exact standby.silent

theorem Standby.pushCopy {state : State} (standby : Standby state) (index : ℕ)
    {samples : List Int16} (zeros : ∀ sample ∈ samples, sample = 0) :
    Standby (state.pushCopy index samples) ∧
      (state.pushCopy index samples).wire = state.wire := by
  simp only [State.pushCopy]
  split_ifs
  · have armed : (state.device.pushCopy samples).tfArmedIdle = state.device.tfArmedIdle := by
      rw [Device.pushCopy_eq, Device.shedBacklog]
      split <;> simp only [Device.noteDropped, Device.copied]
    rcases state.device.pushCopy_spec samples standby.bounded with ⟨_, _, _, left⟩
    have silent := silent_pushCopy standby.bounded standby.silent zeros
    refine ⟨?_, trivial⟩
    refine ⟨?_, ?_, ?_, standby.draining, standby.emitting, standby.notArming⟩
    · exact armed.trans standby.armed
    · exact left
    · simp only
      exact silent
  · exact ⟨standby.of_same rfl rfl (.inl rfl), trivial⟩

theorem Standby.tick {state : State} (standby : Standby state) (result : WriteResult) :
    Standby (state.tick result) ∧ (state.tick result).wire = state.wire := by
  have armed := standby.armed
  simp only [State.tick, stopClear_standby armed, State.pairReturn, State.tickReturn,
    List.append_nil]
  split_ifs
  · simp_all
  · exact ⟨standby.of_same rfl rfl (.inr (.inr (.inl rfl))), rfl⟩
  · refine ⟨⟨armed, standby.bounded, standby.silent, ?_, by simp, by simp⟩, rfl⟩
    intro paused armedIdle same
    cases same
    exact armed

theorem Standby.tickDrain {state : State} (standby : Standby state) {paused armedIdle : Bool}
    (draining : state.thread = .draining paused armedIdle) (expiries : ℕ) :
    Standby (state.tickDrain paused armedIdle expiries) ∧
      (state.tickDrain paused armedIdle expiries).wire = state.wire := by
  have snapshot := standby.draining paused armedIdle draining
  rcases state.device.tickDrain_spec expiries with ⟨taken, left⟩
  refine ⟨⟨standby.armed, ?_, ?_, by simp [State.tickDrain], ?_, by simp [State.tickDrain]⟩, rfl⟩
  · simp only [State.tickDrain]
    rw [← Device.length_pending, left, List.length_drop, Device.length_pending]
    have bounded := standby.bounded
    omega
  · simp only [State.tickDrain]
    rw [left]
    intro sample member
    exact standby.silent sample (List.mem_of_mem_drop member)
  · intro _ _ newSamples same
    simp only [State.tickDrain, ThreadPhase.emitting.injEq] at same
    rcases same with ⟨_, rfl, rfl⟩
    refine ⟨snapshot, ?_⟩
    rw [taken]
    intro sample member
    exact standby.silent sample (List.mem_of_mem_take member)

theorem Standby.tickEmit {state : State} (standby : Standby state) {paused armedIdle : Bool}
    {newSamples : List UInt16} (emitting : state.thread = .emitting paused armedIdle newSamples)
    (result : WriteResult) :
    Standby (state.tickEmit paused armedIdle newSamples result) ∧
      (state.tickEmit paused armedIdle newSamples result).wire = state.wire := by
  rcases standby.emitting paused armedIdle newSamples emitting with ⟨rfl, silent⟩
  have armed : (state.device.advance newSamples).tfArmedIdle = state.device.tfArmedIdle := by
    simp only [Device.advance]
    split_ifs <;> rfl
  simp only [State.tickEmit, tickEmit_standby silent result, State.tickReturn, List.append_nil]
  split_ifs
  · simp_all
  · exact ⟨standby.of_same armed (Device.advance_ring _ _) (.inr (.inr (.inl rfl))), rfl⟩

/-- A quiet step leaves standby as it is and the wire silent. -/
theorem Standby.step {state next : State} {event : Event} (standby : Standby state)
    (quiet : Quiet state event) (stepped : state.step event = some next) :
    Standby next ∧ next.wire = state.wire := by
  cases State.step_cases stepped with
  | sessionEnsure opening =>
      simp only [State.sessionEnsure, Device.sessionEnsure, quiet.1, quiet.2, Bool.and_self,
        ↓reduceIte, List.append_nil, and_true]
      exact standby
  | streamStart spawned =>
      simp only [State.streamStart]
      split_ifs
      · exact ⟨standby, rfl⟩
      · exact ⟨standby.of_same rfl rfl (.inr (.inr (.inl rfl))), rfl⟩
      · exact ⟨standby.of_same rfl rfl (.inl rfl), rfl⟩
  | push =>
      simp only [State.push]
      split_ifs
      · exact ⟨standby, rfl⟩
      · exact ⟨standby.of_same rfl rfl (.inl rfl), rfl⟩
  | @pushCopy index samples found => exact standby.pushCopy index (quiet samples found)
  | clear =>
      have empty := state.device.pending_clearRing
      refine ⟨⟨standby.armed, ?_, ?_, standby.draining, standby.emitting, standby.notArming⟩, rfl⟩
      · simp only [State.clear]
        rw [← Device.length_pending, empty]
        decide
      · simp [State.clear, empty]
  | pause =>
      simp only [State.pause]
      split_ifs
      · exact ⟨standby, rfl⟩
      · exact ⟨standby.of_same rfl rfl (.inl rfl), rfl⟩
      · exact ⟨standby.of_same rfl rfl (.inl rfl), rfl⟩
  | clearWindow | pauseEnd | resume | streamStop | stopRefuse =>
      exact ⟨standby.of_same rfl rfl (.inl rfl), rfl⟩
  | streamStopIdle => exact ⟨standby, rfl⟩
  | tick _ result => exact standby.tick result
  | tickDrain draining expiries => exact standby.tickDrain draining expiries
  | tickEmit emitting result => exact standby.tickEmit emitting result
  | @tickArm requested arming result => exact absurd arming (standby.notArming requested)
  | threadFail _ rc =>
      have armed : (state.device.streamRecordError rc).tfArmedIdle =
          state.device.tfArmedIdle := by
        simp only [Device.streamRecordError]
        split_ifs <;> rfl
      exact ⟨standby.of_same armed (Device.streamRecordError_ring _ rc) (.inr (.inr (.inr rfl))),
        rfl⟩
  | stopJoin _ _ result =>
      have armed := standby.armed
      simp only [State.stopJoin, armed, Bool.not_true, Bool.and_false, Bool.false_eq_true,
        ↓reduceIte, State.stopReturn]
      exact ⟨standby.of_same armed.symm rfl (.inr (.inl rfl)), trivial⟩
  | stopArm | sessionClose | closeArm => exact quiet.elim

theorem Standby.run {state next : State} {events : List Event} (standby : Standby state)
    (executed : stream.run state events = some next)
    (meets : stream.RunMeets Quiet state events) :
    next.wire = state.wire := by
  induction events generalizing state with
  | nil =>
      cases executed
      rfl
  | cons event events ih =>
      simp only [System.run, Option.bind_eq_some_iff] at executed
      rcases executed with ⟨middle, stepped, rest⟩
      simp only [System.RunMeets, stepped] at meets
      rcases standby.step meets.1 stepped with ⟨still, silent⟩
      rw [ih still rest meets.2, silent]

end TrueForce.Stream
