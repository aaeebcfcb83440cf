import TrueForce.Stream.Standby
import TrueForce.Stream.Tick

/-!
# Starvation: hold, decay, tear down

When producers stop, the ticks drain what is left in the ring, then hold the
force for `LOGITF_TF_STARVE_HOLD_TICKS`, step it to the centre and, after the
idle grace period, send the teardown pair and fall silent.

The law is about ticks that run to their end undisturbed while the wheel takes
the writes.  The force under starvation depends on the starvation count and the
force alone, so it has a closed form: the decay iterated over the ticks past the
hold.  The packets follow from it by induction on the ticks to the centre, and
then on the idle ticks that are left.
-/

namespace TrueForce.Stream

open TrueForce.Foundation TrueForce.Transition

namespace Device

def offset (current : UInt16) : ℤ := (current.toNat : ℤ) - 0x8000

theorem offset_eq_zero_iff (current : UInt16) : offset current = 0 ↔ current = centre := by
  rw [← UInt16.toNat_inj, offset]
  have : centre.toNat = 0x8000 := rfl
  omega

theorem offset_range (current : UInt16) : -0x8000 ≤ offset current ∧ offset current < 0x8000 := by
  have range := current.toNat_lt
  simp only [offset]
  omega

theorem offset_ofInt {distance : ℤ} (low : -0x8000 ≤ distance) (high : distance < 0x8000) :
    offset (UInt16.ofInt (0x8000 + distance)) = distance := by
  simp only [offset, UInt16.ofInt, UInt16.toNat_ofNat']
  omega

/-- One step of the decay takes `LOGITF_TF_STARVE_DECAY_STEP` off the distance, and no more than
is left. -/
theorem offset_decay (current : UInt16) :
    (offset (decayTowardsCentre current)).natAbs =
        (offset current).natAbs - logitfTfStarveDecayStep ∧
      (0 ≤ offset current → 0 ≤ offset (decayTowardsCentre current)) ∧
      (offset current ≤ 0 → offset (decayTowardsCentre current) ≤ 0) := by
  have range := offset_range current
  have step : logitfTfStarveDecayStep = 820 := rfl
  have same : (current.toNat : ℤ) - 0x8000 = offset current := rfl
  simp only [decayTowardsCentre, same]
  rw [offset_ofInt]
  · split_ifs <;> omega
  · split_ifs <;> omega
  · split_ifs <;> omega

theorem natAbs_offset_iterate (count : ℕ) (current : UInt16) :
    (offset (decayTowardsCentre^[count] current)).natAbs =
      (offset current).natAbs - count * logitfTfStarveDecayStep := by
  induction count with
  | zero => simp
  | succ count ih =>
      rw [Function.iterate_succ_apply', (offset_decay _).1, ih, Nat.sub_sub, Nat.succ_mul]

/-- A full-scale force is back at the centre after `LOGITF_TF_STARVE_DECAY_TICKS` steps. -/
theorem iterate_decay_eq_centre {count : ℕ} (enough : logitfTfStarveDecayTicks ≤ count)
    (current : UInt16) :
    decayTowardsCentre^[count] current = centre := by
  rw [← offset_eq_zero_iff, ← Int.natAbs_eq_zero, natAbs_offset_iterate]
  have range := offset_range current
  have step : logitfTfStarveDecayStep = 820 := rfl
  have ticks : logitfTfStarveDecayTicks = 40 := rfl
  rw [step]
  omega

/-- Nothing is pending and the next tick may write. -/
structure Starved (device : Device) : Prop where
  counted : device.Counted
  empty : device.pending = []
  noRequest : device.tfTeardownPending = false
  isOpen : device.hidrawOpen = true

theorem tickDrain_starved {device : Device} (starved : device.Starved) (expiries : ℕ) :
    device.tickDrain expiries = ([], device) := by
  have empty := (RingBuffer.contents_eq_nil_iff logitfTfRing device.ring).mp starved.empty
  simp only [tickDrain, RingBuffer.drain_of_empty _ _ _ empty]

/-- The starvation branch touches the starvation count, the window and the force only. -/
theorem advance_nil (device : Device) :
    ∃ window, device.advance [] = { device with
      tfStarvedTicks := (device.advance []).tfStarvedTicks
      tfWindow := window
      tfLastCurrent := (device.advance []).tfLastCurrent } := by
  simp only [advance]
  split_ifs <;> exact ⟨_, rfl⟩

theorem advance_nil_starved {device : Device}
    (starved : device.tfStarvedTicks ≤ logitfTfStarveHoldTicks + 1) :
    (device.advance []).tfStarvedTicks =
      min (device.tfStarvedTicks + 1) (logitfTfStarveHoldTicks + 1) := by
  simp only [advance, ne_eq, not_true_eq_false, ↓reduceIte]
  split_ifs <;> (simp only; omega)

theorem advance_nil_current {device : Device}
    (starved : device.tfStarvedTicks ≤ logitfTfStarveHoldTicks + 1) :
    (device.advance []).tfLastCurrent =
      if device.tfStarvedTicks < logitfTfStarveHoldTicks then device.tfLastCurrent
      else decayTowardsCentre device.tfLastCurrent := by
  simp only [advance, ne_eq, not_true_eq_false, ↓reduceIte]
  split_ifs <;> first | rfl | omega

/-- The state a starved device is in after a tick that neither sends a pair nor gates. -/
theorem Starved.advance {device : Device} (starved : device.Starved) :
    (device.advance []).Starved := by
  rcases device.advance_nil with ⟨window, same⟩
  rcases device.advance_counters [] starved.counted.starved with ⟨idle, count⟩
  have ring := device.advance_ring []
  refine ⟨⟨?_, ?_, count⟩, ?_, ?_, ?_⟩
  · rw [ring]
    exact starved.counted.bounded
  · rw [idle]
    exact starved.counted.idle
  · rw [pending, ring]
    exact starved.empty
  · rw [same]
    exact starved.noRequest
  · rw [same]
    exact starved.isOpen

/-- A paused device, or one in standby, moves its force on in silence. -/
theorem tickN_quiet {device : Device} (starved : device.Starved)
    (quiet : device.tfPaused = true ∨ device.tfArmedIdle = true) (expiries : ℕ) :
    device.tickN expiries = (device.advance [], []) := by
  have noRequest := starved.noRequest
  simp only [tickN, noRequest, tickDrain_starved starved, tickEmit]
  rcases quiet with paused | armed
  · simp [paused]
  · by_cases paused : device.tfPaused <;> simp [paused, armed, emitIdle]

theorem tickN_gate {device : Device} (starved : device.Starved)
    (running : device.tfPaused = false) (unarmed : device.tfArmedIdle = false)
    (atCentre : (device.advance []).tfLastCurrent = centre)
    (due : device.tfIdleTicks + 1 = logitfTfIdleGraceTicks) (expiries : ℕ) :
    device.tickN expiries =
      ({ device.advance [] with
          tfIdleTicks := 0
          tfSeq := device.tfSeq + 1 + 1
          tfArmedIdle := true },
        [.ctrl 0x04 device.tfSeq, .ctrl 0x03 (device.tfSeq + 1)]) := by
  rcases device.advance_nil with ⟨window, same⟩
  have isOpen := starved.isOpen
  rw [same] at atCentre
  simp only [tickN, starved.noRequest, tickDrain_starved starved, tickEmit]
  rw [same]
  simp only at atCentre
  simp [running, unarmed, emitIdle, atCentre, due, stopClear, stopArm, write, nextSeq, isOpen,
    WriteResult.rc]

/-- Short of the gate, a tick sends the keepalive with the force as it now stands. -/
theorem tickN_idle {device : Device} (starved : device.Starved)
    (running : device.tfPaused = false) (unarmed : device.tfArmedIdle = false)
    (notDue : ¬((device.advance []).tfLastCurrent = centre ∧
      device.tfIdleTicks + 1 = logitfTfIdleGraceTicks)) (expiries : ℕ) :
    device.tickN expiries =
      ({ device.advance [] with
          tfIdleTicks :=
            if (device.advance []).tfLastCurrent = centre then device.tfIdleTicks + 1 else 0
          tfSeq := device.tfSeq + 1 },
        [.idle device.tfSeq (device.advance []).tfLastCurrent]) := by
  rcases device.advance_nil with ⟨window, same⟩
  have isOpen := starved.isOpen
  have idle := starved.counted.idle
  simp only [tickN, starved.noRequest, tickDrain_starved starved, tickEmit]
  rw [same] at notDue ⊢
  by_cases atCentre : (device.advance []).tfLastCurrent = centre
  · have early : ¬device.tfIdleTicks + 1 ≥ logitfTfIdleGraceTicks := by
      intro late
      exact notDue ⟨atCentre, by omega⟩
    simp [running, unarmed, emitIdle, emitPacket, atCentre, early, write, nextSeq, isOpen]
  · simp [running, unarmed, emitIdle, emitPacket, atCentre, write, nextSeq, isOpen]

/-- What a starved tick does to the force and its count does not depend on what it sends. -/
theorem tickN_force {device : Device} (starved : device.Starved) (expiries : ℕ) :
    (device.tickN expiries).1.tfLastCurrent = (device.advance []).tfLastCurrent ∧
      (device.tickN expiries).1.tfStarvedTicks = (device.advance []).tfStarvedTicks ∧
      (device.tickN expiries).1.tfPaused = device.tfPaused ∧
      (device.tickN expiries).1.Starved := by
  have advanced := starved.advance
  rcases device.advance_nil with ⟨window, same⟩
  have paused : (device.advance []).tfPaused = device.tfPaused := by rw [same]
  by_cases quiet : device.tfPaused = true ∨ device.tfArmedIdle = true
  · rw [tickN_quiet starved quiet]
    exact ⟨rfl, rfl, paused, advanced⟩
  · simp only [not_or, Bool.not_eq_true] at quiet
    by_cases due : (device.advance []).tfLastCurrent = centre ∧
        device.tfIdleTicks + 1 = logitfTfIdleGraceTicks
    · rw [tickN_gate starved quiet.1 quiet.2 due.1 due.2]
      exact ⟨rfl, rfl, paused, ⟨advanced.counted.bounded, grace_pos, advanced.counted.starved⟩,
        advanced.empty, advanced.noRequest, advanced.isOpen⟩
    · rw [tickN_idle starved quiet.1 quiet.2 due]
      refine ⟨rfl, rfl, paused, ⟨advanced.counted.bounded, ?_, advanced.counted.starved⟩,
        advanced.empty, advanced.noRequest, advanced.isOpen⟩
      have idle := starved.counted.idle
      have grace := grace_pos
      simp only
      split_ifs with atCentre
      · have early : device.tfIdleTicks + 1 ≠ logitfTfIdleGraceTicks := by
          intro late
          exact due ⟨atCentre, late⟩
        omega
      · exact grace

theorem afterTicks_starved {device : Device} (starved : device.Starved) (expiries : ℕ → ℕ)
    (count : ℕ) :
    (device.afterTicks expiries count).Starved := by
  induction count with
  | zero => exact starved
  | succ count ih => exact (tickN_force ih (expiries count)).2.2.2

def holdLeft (device : Device) : ℕ := logitfTfStarveHoldTicks - device.tfStarvedTicks

/-- The force in closed form: the decay, iterated over the ticks past the hold. -/
theorem afterTicks_force {device : Device} (starved : device.Starved) (expiries : ℕ → ℕ)
    (count : ℕ) :
    (device.afterTicks expiries count).tfStarvedTicks =
        min (device.tfStarvedTicks + count) (logitfTfStarveHoldTicks + 1) ∧
      (device.afterTicks expiries count).tfLastCurrent =
        decayTowardsCentre^[count - device.holdLeft] device.tfLastCurrent := by
  have start := starved.counted.starved
  induction count with
  | zero =>
      refine ⟨?_, by simp [afterTicks]⟩
      simp only [afterTicks]
      omega
  | succ count ih =>
      rcases ih with ⟨countSoFar, forceSoFar⟩
      have before := afterTicks_starved starved expiries count
      rcases tickN_force before (expiries count) with ⟨force, counted, _⟩
      have bound := before.counted.starved
      constructor
      · rw [afterTicks, counted, advance_nil_starved bound, countSoFar]
        omega
      · rw [afterTicks, force, advance_nil_current bound, countSoFar, forceSoFar]
        simp only [holdLeft]
        split_ifs with holding
        · have held : count + 1 - (logitfTfStarveHoldTicks - device.tfStarvedTicks) =
              count - (logitfTfStarveHoldTicks - device.tfStarvedTicks) := by omega
          rw [held]
        · have past : count + 1 - (logitfTfStarveHoldTicks - device.tfStarvedTicks) =
              count - (logitfTfStarveHoldTicks - device.tfStarvedTicks) + 1 := by omega
          rw [past, Function.iterate_succ_apply']

theorem quiet_afterTicks {device : Device} (starved : device.Starved)
    (quiet : device.tfPaused = true ∨ device.tfArmedIdle = true) (expiries : ℕ → ℕ)
    (count : ℕ) :
    (device.afterTicks expiries count).tfPaused = true ∨
      (device.afterTicks expiries count).tfArmedIdle = true := by
  induction count with
  | zero => exact quiet
  | succ count ih =>
      rcases (device.afterTicks expiries count).advance_nil with ⟨window, same⟩
      rw [afterTicks, tickN_quiet (afterTicks_starved starved expiries count) ih, same]
      exact ih

/-- Paused or in standby, no tick writes anything. -/
theorem quiet_emitted {device : Device} (starved : device.Starved)
    (quiet : device.tfPaused = true ∨ device.tfArmedIdle = true) (expiries : ℕ → ℕ)
    (count : ℕ) :
    device.emitted expiries count = [] := by
  rw [emitted, tickN_quiet (afterTicks_starved starved expiries count)
    (quiet_afterTicks starved quiet expiries count)]

/-- Keepalives with consecutive sequence bytes, then one teardown pair at tick `last`. -/
structure TearsDown (device : Device) (expiries : ℕ → ℕ) (last : ℕ) : Prop where
  keepalives : ∀ count < last, device.emitted expiries count =
    [.idle (device.tfSeq + UInt8.ofNat count)
      (device.afterTicks expiries (count + 1)).tfLastCurrent]
  pair : device.emitted expiries last =
    [.ctrl 0x04 (device.tfSeq + UInt8.ofNat last),
      .ctrl 0x03 (device.tfSeq + UInt8.ofNat last + 1)]
  standby : (device.afterTicks expiries (last + 1)).tfArmedIdle = true

theorem TearsDown.gate {device : Device} (starved : device.Starved)
    (running : device.tfPaused = false) (unarmed : device.tfArmedIdle = false)
    (atCentre : (device.advance []).tfLastCurrent = centre)
    (due : device.tfIdleTicks + 1 = logitfTfIdleGraceTicks) (expiries : ℕ → ℕ) :
    device.TearsDown expiries 0 := by
  have sent := tickN_gate starved running unarmed atCentre due (expiries 0)
  have noOffset : UInt8.ofNat 0 = 0 := rfl
  refine ⟨nofun, ?_, ?_⟩
  · rw [emitted, afterTicks, sent, noOffset, UInt8.add_zero]
  · rw [afterTicks, afterTicks, sent]

theorem TearsDown.idle {device : Device} (starved : device.Starved)
    (running : device.tfPaused = false) (unarmed : device.tfArmedIdle = false)
    (notDue : ¬((device.advance []).tfLastCurrent = centre ∧
      device.tfIdleTicks + 1 = logitfTfIdleGraceTicks)) {expiries : ℕ → ℕ} {last : ℕ}
    (rest : (device.tickN (expiries 0)).1.TearsDown (fun index => expiries (index + 1)) last) :
    device.TearsDown expiries (last + 1) := by
  have sent := tickN_idle starved running unarmed notDue (expiries 0)
  have seq : (device.tickN (expiries 0)).1.tfSeq = device.tfSeq + 1 := by rw [sent]
  have shift (count : ℕ) : device.tfSeq + UInt8.ofNat (count + 1) =
      (device.tickN (expiries 0)).1.tfSeq + UInt8.ofNat count := by
    have one : UInt8.ofNat 1 = 1 := rfl
    rw [seq, Nat.add_comm, UInt8.ofNat_add, one, UInt8.add_assoc]
  refine ⟨?_, ?_, ?_⟩
  · intro count below
    cases count with
    | zero =>
        have noOffset : UInt8.ofNat 0 = 0 := rfl
        rw [emitted, afterTicks, afterTicks, afterTicks, sent, noOffset, UInt8.add_zero]
    | succ count =>
        rw [emitted_succ, afterTicks_succ, shift]
        exact rest.keepalives count (by omega)
  · rw [emitted_succ, shift]
    exact rest.pair
  · rw [afterTicks_succ]
    exact rest.standby

theorem decay_centre : decayTowardsCentre centre = centre := by decide

theorem advance_centre {device : Device} (starved : device.Starved)
    (atCentre : device.tfLastCurrent = centre) :
    (device.advance []).tfLastCurrent = centre := by
  rw [advance_nil_current starved.counted.starved, atCentre, decay_centre, ite_self]

theorem unarmed_after_idle {device : Device} (starved : device.Starved)
    (running : device.tfPaused = false) (unarmed : device.tfArmedIdle = false)
    (notDue : ¬((device.advance []).tfLastCurrent = centre ∧
      device.tfIdleTicks + 1 = logitfTfIdleGraceTicks)) (expiries : ℕ) :
    (device.tickN expiries).1.tfArmedIdle = false := by
  rcases device.advance_nil with ⟨window, same⟩
  rw [tickN_idle starved running unarmed notDue, same]
  exact unarmed

/-- At the centre, the pair goes out as soon as the grace period is over. -/
theorem tearsDown_of_centre {device : Device} (starved : device.Starved)
    (running : device.tfPaused = false) (unarmed : device.tfArmedIdle = false)
    (atCentre : device.tfLastCurrent = centre) (expiries : ℕ → ℕ) {left : ℕ}
    (grace : device.tfIdleTicks + 1 + left = logitfTfIdleGraceTicks) :
    device.TearsDown expiries left := by
  induction left generalizing device expiries with
  | zero =>
      exact .gate starved running unarmed (advance_centre starved atCentre) grace expiries
  | succ left ih =>
      have stays := advance_centre starved atCentre
      have notDue : ¬((device.advance []).tfLastCurrent = centre ∧
          device.tfIdleTicks + 1 = logitfTfIdleGraceTicks) := by omega
      rcases tickN_force starved (expiries 0) with ⟨force, _, paused, next⟩
      have idle : (device.tickN (expiries 0)).1.tfIdleTicks = device.tfIdleTicks + 1 := by
        rw [tickN_idle starved running unarmed notDue, stays]
        simp only [↓reduceIte]
      apply TearsDown.idle starved running unarmed notDue
      apply ih next (paused.trans running)
        (unarmed_after_idle starved running unarmed notDue (expiries 0)) (force.trans stays)
      omega

/-- The pair goes out within the grace period from the tick that reaches the centre. -/
theorem tearsDown {device : Device} (starved : device.Starved)
    (running : device.tfPaused = false) (unarmed : device.tfArmedIdle = false)
    (expiries : ℕ → ℕ) {centred : ℕ}
    (atCentre : (device.afterTicks expiries centred).tfLastCurrent = centre) :
    ∃ last < centred + logitfTfIdleGraceTicks, device.TearsDown expiries last := by
  induction centred generalizing device expiries with
  | zero =>
      have early := starved.counted.idle
      refine ⟨logitfTfIdleGraceTicks - (device.tfIdleTicks + 1), by omega, ?_⟩
      exact tearsDown_of_centre starved running unarmed atCentre expiries (by omega)
  | succ centred ih =>
      by_cases due : (device.advance []).tfLastCurrent = centre ∧
          device.tfIdleTicks + 1 = logitfTfIdleGraceTicks
      · refine ⟨0, ?_, .gate starved running unarmed due.1 due.2 expiries⟩
        have grace := grace_pos
        omega
      · rcases tickN_force starved (expiries 0) with ⟨_, _, paused, next⟩
        have stillUnarmed := unarmed_after_idle starved running unarmed due (expiries 0)
        rw [afterTicks_succ] at atCentre
        rcases ih next (paused.trans running) stillUnarmed _ atCentre with ⟨last, soon, down⟩
        exact ⟨last + 1, by omega, .idle starved running unarmed due down⟩

theorem new_le_sampleBudget (expiries : ℕ) : logitfTfNew ≤ sampleBudget expiries := by
  simp only [sampleBudget]
  split
  · split
    · decide
    · exact Nat.le_mul_of_pos_left logitfTfNew (by omega)
  · exact le_rfl

theorem starved_within {device : Device} (ready : device.Unrequested) (expiries : ℕ → ℕ)
    {count : ℕ} (few : device.pending.length ≤ count * logitfTfNew) :
    ∃ drained ≤ count, (device.afterTicks expiries drained).Starved := by
  induction count generalizing device expiries with
  | zero =>
      have empty : device.pending = [] := List.length_eq_zero_iff.mp (by omega)
      exact ⟨0, le_rfl, ready.counted, empty, ready.noRequest, ready.isOpen⟩
  | succ count ih =>
      rcases tickN_drains ready (expiries 0) with ⟨next, left⟩
      have budget := new_le_sampleBudget (expiries 0)
      have fewer : (device.tickN (expiries 0)).1.pending.length ≤ count * logitfTfNew := by
        rw [left, List.length_drop]
        rw [Nat.succ_mul] at few
        omega
      rcases ih next (fun index => expiries (index + 1)) fewer with ⟨drained, soon, starved⟩
      refine ⟨drained + 1, by omega, ?_⟩
      rw [afterTicks_succ]
      exact starved

/-- The ticks it takes to drain a full backlog, and one for a pause that waits. -/
def drainTicks : ℕ := logitfTfMaxPending / logitfTfNew + 1

theorem starved_eventually {device : Device} (counted : device.Counted)
    (isOpen : device.hidrawOpen = true) (expiries : ℕ → ℕ) :
    ∃ drained ≤ drainTicks, (device.afterTicks expiries drained).Starved := by
  have full : logitfTfMaxPending = logitfTfMaxPending / logitfTfNew * logitfTfNew := rfl
  by_cases requested : device.tfTeardownPending
  · have next := tickN_serves counted isOpen requested (expiries 0)
    have few := next.counted.bounded
    rw [← length_pending, full] at few
    rcases starved_within next (fun index => expiries (index + 1)) few with
      ⟨drained, soon, starved⟩
    refine ⟨drained + 1, Nat.succ_le_succ soon, ?_⟩
    rw [afterTicks_succ]
    exact starved
  · have few := counted.bounded
    rw [← length_pending, full] at few
    rcases starved_within ⟨counted, by simpa using requested, isOpen⟩ expiries few with
      ⟨drained, soon, starved⟩
    exact ⟨drained, Nat.le_succ_of_le soon, starved⟩

end Device

theorem Standby.of_ticks {state : State} {expiries : ℕ → ℕ} {count : ℕ}
    (polling : state.thread = .polling)
    (starved : (state.device.afterTicks expiries count).Starved)
    (armed : (state.device.afterTicks expiries count).tfArmedIdle = true) :
    Standby (state.afterTicks expiries count) := by
  apply Standby.of_resting
  · rw [State.afterTicks_device]
    exact armed
  · rw [State.afterTicks_device]
    exact starved.counted.bounded
  · rw [State.afterTicks_device, starved.empty]
    nofun
  · rw [State.afterTicks_thread]
    exact .inr (.inl polling)

/--
How a starved session winds down: the force is held, then moves to the centre
without overshooting, and keepalives go out until the teardown pair ends them.
-/
structure WindsDown (device : Device) (expiries : ℕ → ℕ) (hold centred last : ℕ) : Prop where
  hold_le : hold ≤ logitfTfStarveHoldTicks
  held : ∀ count ≤ hold,
    (device.afterTicks expiries count).tfLastCurrent = device.tfLastCurrent
  approaches : ∀ count ≥ hold,
    (Device.offset (device.afterTicks expiries (count + 1)).tfLastCurrent).natAbs =
      (Device.offset (device.afterTicks expiries count).tfLastCurrent).natAbs -
        logitfTfStarveDecayStep
  keepsSign : ∀ count,
    (0 ≤ Device.offset device.tfLastCurrent →
        0 ≤ Device.offset (device.afterTicks expiries count).tfLastCurrent) ∧
      (Device.offset device.tfLastCurrent ≤ 0 →
        Device.offset (device.afterTicks expiries count).tfLastCurrent ≤ 0)
  centred_le : centred ≤ hold + logitfTfStarveDecayTicks
  atCentre : ∀ count ≥ centred, (device.afterTicks expiries count).tfLastCurrent = centre
  last_lt : last < centred + logitfTfIdleGraceTicks
  keepalives : ∀ count < last, device.emitted expiries count =
    [.idle (device.tfSeq + UInt8.ofNat count)
      (device.afterTicks expiries (count + 1)).tfLastCurrent]
  pair : device.emitted expiries last =
    [.ctrl 0x04 (device.tfSeq + UInt8.ofNat last),
      .ctrl 0x03 (device.tfSeq + UInt8.ofNat last + 1)]
  silence : ∀ count > last, device.emitted expiries count = []

theorem iterate_keeps_sign (count : ℕ) (current : UInt16) :
    (0 ≤ Device.offset current →
        0 ≤ Device.offset (Device.decayTowardsCentre^[count] current)) ∧
      (Device.offset current ≤ 0 →
        Device.offset (Device.decayTowardsCentre^[count] current) ≤ 0) := by
  induction count with
  | zero => exact ⟨fun sign => sign, fun sign => sign⟩
  | succ count ih =>
      rw [Function.iterate_succ_apply']
      rcases Device.offset_decay (Device.decayTowardsCentre^[count] current) with ⟨_, above, below⟩
      exact ⟨fun sign => above (ih.1 sign), fun sign => below (ih.2 sign)⟩

theorem windsDown {device : Device} (starved : device.Starved)
    (running : device.tfPaused = false) (unarmed : device.tfArmedIdle = false)
    (expiries : ℕ → ℕ) :
    ∃ hold centred last, WindsDown device expiries hold centred last ∧
      (device.afterTicks expiries (last + 1)).tfArmedIdle = true := by
  have force (count : ℕ) := (Device.afterTicks_force starved expiries count).2
  have centredAt (count : ℕ) (late : device.holdLeft + logitfTfStarveDecayTicks ≤ count) :
      (device.afterTicks expiries count).tfLastCurrent = centre := by
    rw [force]
    exact Device.iterate_decay_eq_centre (by omega) _
  rcases Device.tearsDown starved running unarmed expiries (centredAt _ le_rfl) with
    ⟨last, soon, down⟩
  refine ⟨device.holdLeft, device.holdLeft + logitfTfStarveDecayTicks, last, ?_, down.standby⟩
  exact {
    hold_le := Nat.sub_le _ _
    held := by
      intro count early
      rw [force, Nat.sub_eq_zero_of_le early, Function.iterate_zero_apply]
    approaches := by
      intro count late
      rw [force, force, Nat.succ_sub late, Function.iterate_succ_apply',
        (Device.offset_decay _).1]
    keepsSign := by
      intro count
      rw [force]
      exact iterate_keeps_sign _ _
    centred_le := le_rfl
    atCentre := centredAt
    last_lt := soon
    keepalives := down.keepalives
    pair := down.pair
    silence := by
      intro count late
      rcases Nat.exists_eq_add_of_le late with ⟨extra, rfl⟩
      have after := Device.afterTicks_starved starved expiries (last + 1)
      rw [Device.emitted_add]
      exact Device.quiet_emitted after (.inr down.standby) _ extra }

/--
From every reachable state between two ticks the thread can run tick after tick.
Once the ring has drained, a session that is neither paused nor in standby winds
down, and after the pair the wire stays silent in every continuation that copies
no audible sample and leaves the session open.  A session that is paused or in
standby by then stays silent.
-/
theorem starved_stream_winds_down {state : State} (reachable : stream.Reachable state)
    (polling : state.thread = .polling) (isOpen : state.device.hidrawOpen = true)
    (expiries : ℕ → ℕ) :
    (∀ count, ∃ events, (∀ event ∈ events, event.ofTick = true) ∧
        stream.run state events = some (state.afterTicks expiries count)) ∧
      ∃ drained ≤ Device.drainTicks,
        let start := state.afterTicks expiries drained
        let later := fun count => expiries (drained + count)
        start.device.pending = [] ∧
          (start.device.tfPaused = true ∨ start.device.tfArmedIdle = true →
            ∀ count, start.device.emitted later count = []) ∧
          (start.device.tfPaused = false → start.device.tfArmedIdle = false →
            ∃ hold centred last, WindsDown start.device later hold centred last ∧
              ∀ events next,
                stream.run (start.afterTicks later (last + 1)) events = some next →
                stream.RunMeets Quiet (start.afterTicks later (last + 1)) events →
                next.wire = (start.afterTicks later (last + 1)).wire) := by
  have counted := Device.counted_of_reachable reachable
  refine ⟨run_ticks state counted polling isOpen expiries, ?_⟩
  rcases Device.starved_eventually counted isOpen expiries with ⟨drained, soon, starved⟩
  refine ⟨drained, soon, starved.empty, ?_, ?_⟩
  · intro quiet count
    exact Device.quiet_emitted starved quiet _ count
  · intro running unarmed
    rcases windsDown starved running unarmed (fun count => expiries (drained + count)) with
      ⟨hold, centred, last, winds, armed⟩
    have after := Device.afterTicks_starved starved (fun count => expiries (drained + count))
      (last + 1)
    refine ⟨hold, centred, last, winds, ?_⟩
    intro events next executed quiet
    have standby := @Standby.of_ticks (state.afterTicks expiries drained) _ _ polling after armed
    exact standby.run executed quiet

theorem starved_stream_winds_down_after_sample :
    ∃ state, stream.Reachable state ∧ state.device.tfLastCurrent = 0xc000 ∧
      ∃ drained ≤ Device.drainTicks,
        (state.afterTicks (fun _ => 1) drained).device.pending = [] := by
  have executed := System.ReachableUnder.of_check stream System.anyStep State.discovered
    [.sessionEnsure .opened, .streamStart true, .push [0x4000], .pushCopy 0, .tick .accepted,
      .tickDrain 1, .tickEmit .accepted]
    (fun state => state.thread = .polling ∧ state.device.hidrawOpen ∧
      state.device.tfLastCurrent = 0xc000)
    rfl (by decide) (System.runMeets_anyStep _ _)
  rcases executed with ⟨state, reachable, seen⟩
  simp only [decide_eq_true_eq] at seen
  rcases seen with ⟨polling, isOpen, current⟩
  rcases starved_stream_winds_down reachable polling isOpen (fun _ => 1) with
    ⟨_, drained, soon, empty, _⟩
  exact ⟨state, reachable, current, drained, soon, empty⟩

/--
A pause whose teardown has been served, followed by a resume, leaves the session
in standby: the pair is out already and starvation never sends another one.
-/
theorem starved_stream_sends_no_pair :
    ¬∀ state, stream.Reachable state → state.thread = .polling →
      state.device.hidrawOpen = true → ∀ expiries,
        ∃ hold centred last, WindsDown state.device expiries hold centred last := by
  intro law
  have executed := System.ReachableUnder.of_check stream System.anyStep State.discovered
    [.sessionEnsure .opened, .streamStart true, .pause, .tick .accepted, .tickArm .accepted,
      .pauseEnd, .resume]
    (fun state => state.thread = .polling ∧ state.device.hidrawOpen = true ∧
      state.device.tfArmedIdle = true ∧ state.device.tfTeardownPending = false ∧
      state.device.pending = [])
    rfl (by decide) (System.runMeets_anyStep _ _)
  rcases executed with ⟨state, reachable, seen⟩
  simp only [decide_eq_true_eq] at seen
  rcases seen with ⟨polling, isOpen, armed, noRequest, empty⟩
  have starved : state.device.Starved :=
    ⟨Device.counted_of_reachable reachable, empty, noRequest, isOpen⟩
  rcases law state reachable polling isOpen (fun _ => 1) with ⟨hold, centred, last, winds⟩
  have silent := Device.quiet_emitted starved (.inr armed) (fun _ => 1) last
  rw [winds.pair] at silent
  cases silent

end TrueForce.Stream
