import TrueForce.Stream.Machine

/-!
# The sample ring loses nothing silently

The ring is held to `LOGITF_TF_MAX_PENDING` samples by advancing the consumer
index past the oldest ones, while ticks advance the same index and both indices
wrap.  A ledger observes the runs of the stream: what producers copied in, what
the ticks drained, by how much the device's own drop counter grew and what the
clears removed.

The invariant is that the pushed samples are the settled ones, each drained,
dropped or cleared, followed by the contents of the ring.  Every section either
leaves the ring alone or moves samples from the front of the contents to the
settled ones.
-/

namespace TrueForce.Stream

open TrueForce.Foundation TrueForce.Transition

namespace Device

def pending (device : Device) : List UInt16 := device.ring.contents logitfTfRing

theorem length_pending (device : Device) : device.pending.length = device.ring.occupancy :=
  RingBuffer.length_contents logitfTfRing device.ring

theorem pending_writeAll (device : Device) (samples : List UInt16)
    (bounded : device.ring.occupancy ≤ logitfTfMaxPending)
    (fits : samples.length ≤ logitfTfMaxPending) :
    (device.ring.writeAll logitfTfRing samples).contents logitfTfRing =
      device.pending ++ samples := by
  have cap : logitfTfMaxPending = 512 := rfl
  apply RingBuffer.contents_writeAll
  · decide
  · decide
  · simp only [logitfTfRing]
    omega

theorem shedBacklog_spec (device : Device)
    (room : device.ring.occupancy < logitfTfRing) :
    ∃ skipped : List UInt16,
      device.pending = skipped ++ device.shedBacklog.pending ∧
        device.shedBacklog.ringDropped = device.ringDropped + UInt64.ofNat skipped.length ∧
        device.shedBacklog.ring.occupancy = min device.ring.occupancy logitfTfMaxPending := by
  have occupied : device.ringOccupied = device.ring.occupancy := Nat.mod_eq_of_lt room
  by_cases full : device.ring.occupancy > logitfTfMaxPending
  · have shed : device.shedBacklog =
        { device with
          ring := device.ring.discard (device.ring.occupancy - logitfTfMaxPending)
          }.noteDropped (device.ring.occupancy - logitfTfMaxPending) := by
      simp only [shedBacklog, occupied, full, ↓reduceIte]
    have enough : device.ring.occupancy - logitfTfMaxPending ≤ device.ring.occupancy := by omega
    refine ⟨device.pending.take (device.ring.occupancy - logitfTfMaxPending), ?_, ?_, ?_⟩
    · have left := RingBuffer.contents_discard (by decide : logitfTfRing ∣ 2 ^ 32)
        device.ring enough
      rw [shed]
      simp only [pending, noteDropped, left, List.take_append_drop]
    · rw [shed]
      simp only [noteDropped, List.length_take, length_pending, Nat.min_eq_left enough]
    · rw [shed]
      simp only [noteDropped, RingBuffer.occupancy_discard device.ring enough]
      omega
  · refine ⟨[], ?_, ?_, ?_⟩ <;> simp only [shedBacklog, occupied, full, ↓reduceIte]
    · rfl
    · simp
    · omega

def kept (samples : List Int16) : List UInt16 :=
  (samples.drop (samples.length - logitfTfMaxPending)).map logitfS16ToWire

def copied (device : Device) (samples : List Int16) : Device :=
  { device with
    ring := device.ring.writeAll logitfTfRing (kept samples)
    ringDropped :=
      device.ringDropped + UInt64.ofNat (samples.length - logitfTfMaxPending) }

theorem pushCopy_eq (device : Device) (samples : List Int16) :
    device.pushCopy samples = (device.copied samples).shedBacklog := by
  by_cases oversized : samples.length > logitfTfMaxPending
  · simp only [pushCopy, copied, kept, noteDropped, oversized, ↓reduceIte]
  · have none : samples.length - logitfTfMaxPending = 0 := by omega
    have noDrop : UInt64.ofNat 0 = 0 := rfl
    simp only [pushCopy, copied, kept, oversized, ↓reduceIte, none, noDrop, UInt64.add_zero]

theorem length_kept (samples : List Int16) :
    (kept samples).length = min samples.length logitfTfMaxPending := by
  simp only [kept, List.length_map, List.length_drop]
  omega

theorem pending_copied (device : Device) (samples : List Int16)
    (bounded : device.ring.occupancy ≤ logitfTfMaxPending) :
    (device.copied samples).pending = device.pending ++ kept samples := by
  have fits : (kept samples).length ≤ logitfTfMaxPending := by
    rw [length_kept]
    exact Nat.min_le_right _ _
  have written := pending_writeAll device (kept samples) bounded fits
  simpa only [pending, copied] using written

/-- A push appends its samples and sheds from the front, counting what it sheds. -/
theorem pushCopy_spec (device : Device) (samples : List Int16)
    (bounded : device.ring.occupancy ≤ logitfTfMaxPending) :
    ∃ skipped : List UInt16,
      device.pending ++ samples.map logitfS16ToWire = skipped ++ (device.pushCopy samples).pending ∧
        (device.pushCopy samples).ringDropped =
          device.ringDropped + UInt64.ofNat skipped.length ∧
        (device.pushCopy samples).ring.occupancy ≤ logitfTfMaxPending := by
  have cap : logitfTfMaxPending = 512 := rfl
  have capacity : logitfTfRing = 4096 := rfl
  have size := length_kept samples
  have copiedPending := pending_copied device samples bounded
  have occupancy : (device.copied samples).ring.occupancy =
      device.ring.occupancy + (kept samples).length := by
    rw [← length_pending, copiedPending, List.length_append, length_pending]
  rcases shedBacklog_spec (device.copied samples) (by omega) with ⟨shed, split, dropped, left⟩
  rw [pushCopy_eq]
  rw [copiedPending] at split
  have whole : samples.map logitfS16ToWire =
      (samples.take (samples.length - logitfTfMaxPending)).map logitfS16ToWire ++
        kept samples := by
    rw [kept, ← List.map_append, List.take_append_drop]
  by_cases oversized : samples.length > logitfTfMaxPending
  · -- The kept tail fills the bound on its own, so everything that was pending goes.
    have lengths := congrArg List.length split
    rw [List.length_append, List.length_append, length_pending, length_pending] at lengths
    have sizes : device.pending.length = shed.length := by
      rw [length_pending]
      omega
    rcases List.append_inj split sizes with ⟨all, rest⟩
    refine ⟨device.pending ++
      (samples.take (samples.length - logitfTfMaxPending)).map logitfS16ToWire, ?_, ?_, ?_⟩
    · rw [whole, ← rest, List.append_assoc]
    · rw [dropped, copied, List.length_append, List.length_map, List.length_take,
        Nat.min_eq_left (by omega), sizes, UInt64.add_assoc, ← UInt64.ofNat_add, Nat.add_comm]
    · omega
  · have none : samples.length - logitfTfMaxPending = 0 := by omega
    refine ⟨shed, ?_, ?_, ?_⟩
    · rw [← split, whole, none, List.take_zero, List.map_nil, List.nil_append]
    · have noDrop : UInt64.ofNat 0 = 0 := rfl
      rw [dropped, copied, none, noDrop, UInt64.add_zero]
    · omega

/-- A drain takes the oldest pending samples. -/
theorem tickDrain_spec (device : Device) (expiries : ℕ) :
    (device.tickDrain expiries).1 = device.pending.take (sampleBudget expiries) ∧
      (device.tickDrain expiries).2.pending = device.pending.drop (sampleBudget expiries) :=
  RingBuffer.drain_spec (by decide) (sampleBudget expiries) device.ring

theorem pending_clearRing (device : Device) : device.clearRing.pending = [] :=
  RingBuffer.contents_clear device.ring

@[simp]
theorem streamReset_ring (device : Device) : device.streamReset.ring = device.ring := rfl

@[simp]
theorem streamRecordError_ring (device : Device) (rc : ℤ) :
    (device.streamRecordError rc).ring = device.ring := by
  simp only [streamRecordError]
  split <;> rfl

@[simp]
theorem stopClear_ring (device : Device) (result : WriteResult) :
    (device.stopClear result).1.ring = device.ring := by
  simp only [stopClear]
  repeat' split
  all_goals rfl

@[simp]
theorem stopArm_ring (device : Device) (result : WriteResult) :
    (device.stopArm result).1.ring = device.ring := by
  simp only [stopArm]
  split <;> rfl

@[simp]
theorem advance_ring (device : Device) (newSamples : List UInt16) :
    (device.advance newSamples).ring = device.ring := by
  simp only [advance]
  repeat' split
  all_goals rfl

@[simp]
theorem emitIdle_ring (device : Device) (armedIdle : Bool) (result : WriteResult) :
    (device.emitIdle armedIdle result).1.ring = device.ring := by
  simp only [emitIdle]
  repeat' split
  · rfl
  · exact stopClear_ring _ result
  · rfl
  · rfl

@[simp]
theorem tickEmit_ring (device : Device) (paused armedIdle : Bool) (newSamples : List UInt16)
    (result : WriteResult) :
    (device.tickEmit paused armedIdle newSamples result).1.ring = device.ring := by
  simp only [tickEmit]
  repeat' split
  · exact advance_ring device newSamples
  · rw [emitIdle_ring, advance_ring]
  · exact advance_ring device newSamples

@[simp]
theorem sessionEnsure_ring (device : Device) (opening : Opening) :
    (device.sessionEnsure opening).1.ring = device.ring := by
  simp only [sessionEnsure]
  repeat' split
  all_goals rfl

end Device

def State.SameRing (state next : State) : Prop :=
  next.device.ring = state.device.ring ∧ next.pushing = state.pushing

theorem State.SameRing.tickReturn {start state : State} (same : start.SameRing state) (rc : ℤ) :
    start.SameRing (state.tickReturn rc) := by
  simp only [State.tickReturn]
  split
  · simpa [State.SameRing] using same
  · exact same

theorem State.SameRing.pairReturn {start state : State} (same : start.SameRing state)
    (requested : Bool) (rc : ℤ) :
    start.SameRing (state.pairReturn requested rc) := by
  simp only [State.pairReturn]
  apply State.SameRing.tickReturn
  split <;> exact same

theorem State.tick_sameRing (state : State) (result : WriteResult) :
    state.SameRing (state.tick result) := by
  simp only [State.tick]
  split
  · split
    · simp [State.SameRing]
    · apply State.SameRing.pairReturn
      simp [State.SameRing]
  · simp [State.SameRing]

theorem State.tickEmit_sameRing (state : State) (paused armedIdle : Bool)
    (newSamples : List UInt16) (result : WriteResult) :
    state.SameRing (state.tickEmit paused armedIdle newSamples result) := by
  simp only [State.tickEmit]
  split
  · simp [State.SameRing]
  · apply State.SameRing.tickReturn
    simp [State.SameRing]

theorem State.tickArm_sameRing (state : State) (requested : Bool) (result : WriteResult) :
    state.SameRing (state.tickArm requested result) := by
  simp only [State.tickArm]
  apply State.SameRing.pairReturn
  simp [State.SameRing]

theorem State.stopJoin_sameRing (state : State) (result : WriteResult) :
    state.SameRing (state.stopJoin result) := by
  simp only [State.stopJoin]
  repeat' split
  all_goals simp [State.SameRing, State.stopReturn]

theorem State.sessionClose_sameRing (state : State) (result : WriteResult) :
    state.SameRing (state.sessionClose result) := by
  simp only [State.sessionClose]
  repeat' split
  all_goals simp [State.SameRing, State.closeReturn]

def Event.usesRing : Event → Bool
  | .pushCopy _ | .tickDrain _ | .clear => true
  | _ => false

/-- What one section does to the ring. -/
inductive State.RingStep (state : State) : Event → State → Prop where
  | copy {index : ℕ} {samples : List Int16} (found : state.pushing[index]? = some samples) :
      state.RingStep (.pushCopy index) (state.pushCopy index samples)
  | drain (paused armedIdle : Bool) (expiries : ℕ) :
      state.RingStep (.tickDrain expiries) (state.tickDrain paused armedIdle expiries)
  | clear : state.RingStep .clear state.clear
  | push {samples : List Int16} (isInt : samples.length < 2 ^ 31) :
      state.RingStep (.push samples) (state.push samples)
  | other {event : Event} {next : State} (noCopy : ∀ index, event ≠ .pushCopy index)
      (noDrain : ∀ expiries, event ≠ .tickDrain expiries) (noClear : event ≠ .clear)
      (same : state.SameRing next) :
      state.RingStep event next

theorem State.RingStep.untouched {state next : State} {event : Event}
    (untouched : event.usesRing = false) (same : state.SameRing next) :
    state.RingStep event next := by
  apply State.RingStep.other _ _ _ same
  · rintro index rfl
    cases untouched
  · rintro expiries rfl
    cases untouched
  · rintro rfl
    cases untouched

theorem State.ringStep {state next : State} {event : Event}
    (stepped : state.step event = some next) :
    state.RingStep event next := by
  cases State.step_cases stepped with
  | pushCopy found => exact .copy found
  | tickDrain _ expiries => exact .drain _ _ expiries
  | clear => exact .clear
  | push isInt => exact .push isInt
  | tick _ result => exact .untouched rfl (state.tick_sameRing result)
  | tickEmit _ result => exact .untouched rfl (state.tickEmit_sameRing ..)
  | tickArm _ result => exact .untouched rfl (state.tickArm_sameRing ..)
  | stopJoin _ _ result => exact .untouched rfl (state.stopJoin_sameRing result)
  | sessionClose _ result => exact .untouched rfl (state.sessionClose_sameRing result)
  | streamStart spawned =>
      refine .untouched rfl ?_
      simp only [State.streamStart]
      repeat' split
      all_goals simp [State.SameRing]
  | pause =>
      refine .untouched rfl ?_
      simp only [State.pause]
      repeat' split
      all_goals simp [State.SameRing]
  | sessionEnsure opening => exact .untouched rfl ⟨Device.sessionEnsure_ring _ _, rfl⟩
  | threadFail _ rc => exact .untouched rfl ⟨Device.streamRecordError_ring _ rc, rfl⟩
  | stopArm _ result | closeArm _ result =>
      exact .untouched rfl ⟨Device.stopArm_ring _ result, rfl⟩
  | clearWindow | pauseEnd | resume | streamStop | streamStopIdle | stopRefuse =>
      exact .untouched rfl ⟨rfl, rfl⟩

/-- What an observer of the sections has seen so far. -/
structure Ledger where
  /-- The samples copied from accepted pushes, in their wire encoding. -/
  pushed : List UInt16
  drained : List UInt16
  /-- By how much the device's drop counter has grown in total. -/
  dropped : ℕ
  cleared : ℕ
  /-- The pushed samples since the last clear. -/
  sinceClear : List UInt16

def Ledger.empty : Ledger where
  pushed := []
  drained := []
  dropped := 0
  cleared := 0
  sinceClear := []

/-- What the observer notes when a section takes `before` to `after`. -/
def Ledger.record (ledger : Ledger) (before after : State) : Event → Ledger
  | .pushCopy index =>
      if before.device.accepting then
        let copied := ((before.pushing[index]?).getD []).map logitfS16ToWire
        { ledger with
          pushed := ledger.pushed ++ copied
          sinceClear := ledger.sinceClear ++ copied
          dropped := ledger.dropped +
            (after.device.ringDropped - before.device.ringDropped).toNat }
      else ledger
  | .tickDrain _ =>
      match after.thread with
      | .emitting _ _ newSamples => { ledger with drained := ledger.drained ++ newSamples }
      | _ => ledger
  | .clear =>
      { ledger with
        cleared := ledger.cleared + before.device.ring.occupancy
        sinceClear := [] }
  | _ => ledger

def observed : System (State × Ledger) Event where
  initial view := view = (State.discovered, Ledger.empty)
  step view event :=
    (view.1.step event).map fun next => (next, view.2.record view.1 next event)

inductive Fate where
  | drained
  | dropped
  | cleared
  deriving DecidableEq, Repr

/-- The settled samples and their fates explain the ledger and the ring. -/
structure Settles (settled : List (UInt16 × Fate)) (device : Device) (ledger : Ledger) :
    Prop where
  pushed : ledger.pushed = settled.map Prod.fst ++ device.pending
  drained : ledger.drained = (settled.filter (·.2 = .drained)).map Prod.fst
  dropped : ledger.dropped = settled.countP (·.2 = .dropped)
  cleared : ledger.cleared = settled.countP (·.2 = .cleared)
  /-- Since the last clear, samples have only been drained or dropped. -/
  sinceClear : ∃ passed, passed <:+ settled ∧ (∀ entry ∈ passed, entry.2 ≠ .cleared) ∧
    ledger.sinceClear = passed.map Prod.fst ++ device.pending

/-- The invariant that every section keeps. -/
structure Balanced (state : State) (ledger : Ledger) : Prop where
  bounded : state.device.ring.occupancy ≤ logitfTfMaxPending
  isInt : ∀ samples ∈ state.pushing, samples.length < 2 ^ 31
  settles : ∃ settled, Settles settled state.device ledger

def Fate.mark (fate : Fate) (samples : List UInt16) : List (UInt16 × Fate) :=
  samples.map fun sample => (sample, fate)

@[simp]
theorem Fate.map_fst_mark (fate : Fate) (samples : List UInt16) :
    (fate.mark samples).map Prod.fst = samples := by
  simp [Fate.mark, Function.comp_def]

@[simp]
theorem Fate.countP_mark (fate other : Fate) (samples : List UInt16) :
    (fate.mark samples).countP (·.2 = other) = if fate = other then samples.length else 0 := by
  by_cases same : fate = other <;> simp [Fate.mark, List.countP_map, Function.comp_def, same]

@[simp]
theorem Fate.filter_mark (fate other : Fate) (samples : List UInt16) :
    (fate.mark samples).filter (·.2 = other) = if fate = other then fate.mark samples else [] := by
  by_cases same : fate = other <;> simp [Fate.mark, same]

/-- Passed samples stay a suffix of the settled ones when a drain or a drop adds to both. -/
theorem Fate.extend_passed {passed settled : List (UInt16 × Fate)} (fate : Fate)
    (samples : List UInt16) (notCleared : fate ≠ .cleared) (suffix : passed <:+ settled)
    (kept : ∀ entry ∈ passed, entry.2 ≠ .cleared) :
    passed ++ fate.mark samples <:+ settled ++ fate.mark samples ∧
      ∀ entry ∈ passed ++ fate.mark samples, entry.2 ≠ .cleared := by
  constructor
  · rcases suffix with ⟨older, split⟩
    exact ⟨older, by rw [← split, List.append_assoc]⟩
  · intro entry member
    rcases List.mem_append.mp member with old | new
    · exact kept entry old
    · rcases List.mem_map.mp new with ⟨sample, _, rfl⟩
      exact notCleared

namespace Settles

variable {settled : List (UInt16 × Fate)} {device next : Device} {ledger : Ledger}

theorem push (settles : Settles settled device ledger) {fresh skipped : List UInt16}
    (moved : device.pending ++ fresh = skipped ++ next.pending) :
    Settles (settled ++ Fate.dropped.mark skipped) next
      { ledger with
        pushed := ledger.pushed ++ fresh
        sinceClear := ledger.sinceClear ++ fresh
        dropped := ledger.dropped + skipped.length } where
  pushed := by
    rw [settles.pushed, List.append_assoc, moved, List.map_append, Fate.map_fst_mark,
      List.append_assoc]
  drained := by simp [settles.drained]
  dropped := by simp [settles.dropped]
  cleared := by simp [settles.cleared]
  sinceClear := by
    rcases settles.sinceClear with ⟨passed, suffix, kept, since⟩
    rcases Fate.dropped.extend_passed skipped (by decide) suffix kept with ⟨suffix, kept⟩
    refine ⟨_, suffix, kept, ?_⟩
    rw [since, List.append_assoc, moved, List.map_append, Fate.map_fst_mark, List.append_assoc]

theorem drain (settles : Settles settled device ledger) {taken : List UInt16}
    (moved : device.pending = taken ++ next.pending) :
    Settles (settled ++ Fate.drained.mark taken) next
      { ledger with drained := ledger.drained ++ taken } where
  pushed := by
    rw [settles.pushed, moved, List.map_append, Fate.map_fst_mark, List.append_assoc]
  drained := by simp [settles.drained]
  dropped := by simp [settles.dropped]
  cleared := by simp [settles.cleared]
  sinceClear := by
    rcases settles.sinceClear with ⟨passed, suffix, kept, since⟩
    rcases Fate.drained.extend_passed taken (by decide) suffix kept with ⟨suffix, kept⟩
    refine ⟨_, suffix, kept, ?_⟩
    rw [since, moved, List.map_append, Fate.map_fst_mark, List.append_assoc]

theorem clear (settles : Settles settled device ledger) (emptied : next.pending = []) :
    Settles (settled ++ Fate.cleared.mark device.pending) next
      { ledger with
        cleared := ledger.cleared + device.ring.occupancy
        sinceClear := [] } where
  pushed := by
    rw [settles.pushed, emptied, List.map_append, Fate.map_fst_mark, List.append_nil]
  drained := by simp [settles.drained]
  dropped := by simp [settles.dropped]
  cleared := by simp [settles.cleared, Device.length_pending]
  sinceClear := ⟨[], List.nil_suffix, nofun, by simp [emptied]⟩

/-- The counts that the fates add up to. -/
theorem length_settled (settled : List (UInt16 × Fate)) :
    settled.length = (settled.filter (·.2 = .drained)).length +
      settled.countP (·.2 = .dropped) + settled.countP (·.2 = .cleared) := by
  induction settled with
  | nil => rfl
  | cons entry settled ih =>
      rcases entry with ⟨sample, fate⟩
      cases fate <;> simp_all <;> omega

theorem total (settles : Settles settled device ledger) :
    ledger.pushed.length =
      ledger.drained.length + ledger.dropped + ledger.cleared + device.ring.occupancy := by
  rw [settles.pushed, settles.drained, settles.dropped, settles.cleared, List.length_append,
    List.length_map, List.length_map, length_settled, Device.length_pending]

theorem drained_sublist (settles : Settles settled device ledger) :
    ledger.drained.Sublist ledger.pushed := by
  rw [settles.pushed, settles.drained]
  exact ((List.filter_sublist (l := settled)).map Prod.fst).trans
    (List.sublist_append_left _ _)

end Settles

/-- The growth of the wrapping drop counter tells how many samples one push has shed. -/
theorem counter_growth (counter : UInt64) {count : ℕ} (small : count < 2 ^ 64) :
    (counter + UInt64.ofNat count - counter).toNat = count := by
  have range := counter.toNat_lt
  simp only [UInt64.toNat_sub, UInt64.toNat_add, UInt64.toNat_ofNat']
  omega

theorem skipped_lt {device next : Device} {samples : List Int16} {skipped : List UInt16}
    (small : samples.length < 2 ^ 31) (bounded : device.ring.occupancy ≤ logitfTfMaxPending)
    (moved : device.pending ++ samples.map logitfS16ToWire = skipped ++ next.pending) :
    skipped.length < 2 ^ 64 := by
  have cap : logitfTfMaxPending = 512 := rfl
  have lengths := congrArg List.length moved
  rw [List.length_append, List.length_append, List.length_map, Device.length_pending] at lengths
  omega

theorem Ledger.record_other (ledger : Ledger) (before after : State) {event : Event}
    (noCopy : ∀ index, event ≠ .pushCopy index)
    (noDrain : ∀ expiries, event ≠ .tickDrain expiries) (noClear : event ≠ .clear) :
    ledger.record before after event = ledger := by
  cases event with
  | pushCopy index => exact absurd rfl (noCopy index)
  | tickDrain expiries => exact absurd rfl (noDrain expiries)
  | clear => exact absurd rfl noClear
  | _ => rfl

theorem Balanced.copy {state : State} {ledger : Ledger} {index : ℕ} {samples : List Int16}
    (balanced : Balanced state ledger) (found : state.pushing[index]? = some samples) :
    Balanced (state.pushCopy index samples)
      (ledger.record state (state.pushCopy index samples) (.pushCopy index)) := by
  rcases balanced with ⟨bounded, isInt, settled, settles⟩
  have stillInt : ∀ other ∈ state.pushing.eraseIdx index, other.length < 2 ^ 31 := by
    intro other member
    exact isInt other (List.mem_of_mem_eraseIdx member)
  by_cases accepting : state.device.accepting
  · rcases state.device.pushCopy_spec samples bounded with ⟨skipped, moved, dropped, left⟩
    have small : samples.length < 2 ^ 31 := isInt samples (List.mem_of_getElem? found)
    have shed := skipped_lt small bounded moved
    have recorded := settles.push moved
    simp only [State.pushCopy, Ledger.record, accepting, ↓reduceIte, found, Option.getD_some,
      dropped, counter_growth _ shed]
    refine ⟨left, stillInt, settled ++ Fate.dropped.mark skipped, ?_⟩
    simp only
    exact recorded
  · simp only [State.pushCopy, Ledger.record, accepting]
    exact ⟨bounded, stillInt, settled, settles⟩

theorem Balanced.step {state next : State} {ledger : Ledger} {event : Event}
    (balanced : Balanced state ledger) (stepped : state.step event = some next) :
    Balanced next (ledger.record state next event) := by
  cases State.ringStep stepped with
  | copy found => exact balanced.copy found
  | drain paused armedIdle expiries =>
      rcases balanced with ⟨bounded, isInt, settled, settles⟩
      rcases state.device.tickDrain_spec expiries with ⟨taken, left⟩
      have moved : state.device.pending =
          (state.device.tickDrain expiries).1 ++ (state.device.tickDrain expiries).2.pending := by
        rw [taken, left, List.take_append_drop]
      have fewer : (state.device.tickDrain expiries).2.ring.occupancy ≤
          state.device.ring.occupancy := by
        rw [← Device.length_pending, left, List.length_drop, Device.length_pending]
        omega
      exact ⟨fewer.trans bounded, isInt, _, settles.drain moved⟩
  | clear =>
      rcases balanced with ⟨bounded, isInt, settled, settles⟩
      have emptied := state.device.pending_clearRing
      refine ⟨?_, isInt, _, settles.clear emptied⟩
      have none : state.device.clearRing.ring.occupancy = 0 := by
        rw [← Device.length_pending, emptied, List.length_nil]
      simp only [State.clear, none]
      omega
  | @push samples small =>
      rcases balanced with ⟨bounded, isInt, settled, settles⟩
      simp only [State.push, Ledger.record]
      split
      · exact ⟨bounded, isInt, settled, settles⟩
      · refine ⟨bounded, ?_, settled, settles⟩
        intro other member
        rcases List.mem_append.mp member with old | new
        · exact isInt other old
        · rw [List.mem_singleton.mp new]
          exact small
  | other noCopy noDrain noClear same =>
      rcases balanced with ⟨bounded, isInt, settled, settles⟩
      rcases same with ⟨ring, pushing⟩
      have pending : next.device.pending = state.device.pending := by
        rw [Device.pending, ring, Device.pending]
      rw [Ledger.record_other ledger state next noCopy noDrain noClear]
      refine ⟨?_, ?_, settled, ?_⟩
      · simpa only [ring] using bounded
      · simpa only [pushing] using isInt
      · exact {
          pushed := by rw [pending, settles.pushed]
          drained := settles.drained
          dropped := settles.dropped
          cleared := settles.cleared
          sinceClear := by simpa only [pending] using settles.sinceClear }

theorem balanced_of_reachable {view : State × Ledger} (reachable : observed.Reachable view) :
    Balanced view.1 view.2 := by
  apply System.ReachableUnder.invariant reachable
  · intro start initial
    cases initial
    refine ⟨by decide, nofun, [], ?_⟩
    exact ⟨rfl, rfl, rfl, rfl, [], List.nil_suffix, nofun, rfl⟩
  · intro current event next balanced _ stepped
    simp only [observed, Option.map_eq_some_iff] at stepped
    rcases stepped with ⟨state, stepped, rfl⟩
    exact balanced.step stepped

/--
In every interleaving of pushes, ticks, clears and session calls the backlog
stays inside the bound, so the ring is never lapped; the ring holds the newest of
the samples pushed since the last clear, the older ones having been drained or
dropped; the drained samples are pushed samples in push order; every sample is
accounted for; and what a push sheds is older than everything it leaves pending.
-/
theorem ring_accounts_for_every_sample {state : State} {ledger : Ledger}
    (reachable : observed.Reachable (state, ledger)) :
    (state.device.ring.occupancy ≤ logitfTfMaxPending ∧ logitfTfMaxPending < logitfTfRing) ∧
      (∃ settled, Settles settled state.device ledger) ∧
      ledger.drained.Sublist ledger.pushed ∧
      ledger.pushed.length =
        ledger.drained.length + ledger.dropped + ledger.cleared + state.device.pending.length ∧
      ∀ index samples next, state.pushing[index]? = some samples → state.device.accepting →
        state.step (.pushCopy index) = some next →
        ∃ skipped, state.device.pending ++ samples.map logitfS16ToWire =
            skipped ++ next.device.pending ∧
          (ledger.record state next (.pushCopy index)).dropped =
            ledger.dropped + skipped.length := by
  rcases balanced_of_reachable reachable with ⟨bounded, isInt, settled, settles⟩
  refine ⟨⟨bounded, by decide⟩, ⟨settled, settles⟩, settles.drained_sublist, ?_, ?_⟩
  · rw [Device.length_pending]
    exact settles.total
  · intro index samples next found accepting stepped
    rcases state.device.pushCopy_spec samples bounded with ⟨skipped, moved, dropped, _⟩
    have small : samples.length < 2 ^ 31 := isInt samples (List.mem_of_getElem? found)
    have shed := skipped_lt small bounded moved
    simp only [State.step, found, Option.map_some, Option.some.injEq] at stepped
    subst stepped
    refine ⟨skipped, ?_, ?_⟩
    · simpa only [State.pushCopy, accepting, ↓reduceIte] using moved
    · simp only [State.pushCopy, Ledger.record, accepting, ↓reduceIte, dropped,
        counter_growth _ shed]

/-- A push of six samples, one tick, a second push and a clear. -/
theorem ring_accounts_after_clear :
    ∃ state ledger, observed.Reachable (state, ledger) ∧ ledger.drained.length = 4 ∧
      ledger.cleared = 5 ∧
      ledger.pushed.length =
        ledger.drained.length + ledger.dropped + ledger.cleared +
          state.device.pending.length := by
  have executed := System.ReachableUnder.of_check observed System.anyStep
    (State.discovered, Ledger.empty)
    [.sessionEnsure .opened, .streamStart true, .push [1, 2, 3, 4, 5, 6], .pushCopy 0,
      .tick .accepted, .tickDrain 1, .tickEmit .accepted, .push [7, 8, 9], .pushCopy 0, .clear]
    (fun view => view.2.drained.length = 4 ∧ view.2.cleared = 5) rfl
    (by decide) (System.runMeets_anyStep _ _)
  rcases executed with ⟨⟨state, ledger⟩, reachable, seen⟩
  simp only [decide_eq_true_eq] at seen
  exact ⟨state, ledger, reachable, seen.1, seen.2,
    (ring_accounts_for_every_sample reachable).2.2.2.1⟩

end TrueForce.Stream
