import TrueForce.Ffb.WakeUp

/-!
# Going idle with no force on the motor

The callback samples the effects, reads the autocenter value, sends, and only
then decides, in a section of its own, whether the timer goes on.  The wheel
holds the last force it was handed, so the decision to stop is safe when the
tick that takes it has delivered a zero.  Two things can go wrong in between:
the autocenter value read by the tick is cleared before the decision, so that
the spring force it sent is the last one; or the zero packet itself is dropped,
which nothing retries.  The guard excludes the two, and the invariant follows
the delivered force from the sampling to the decision, through the idle gate
that keeps ticks silent.
-/

namespace TrueForce.Ffb

open TrueForce.Transition

/-- `next` differs from `carrier` by at most one force-carrying packet, and not in the idle gate. -/
structure Carries (carrier next : Carrier) (sent : Bool) (force : ℤ) : Prop where
  delivered : next.delivered = if sent then forceToOffsetBinary force else carrier.delivered
  kfIdleTicks : next.kfIdleTicks = carrier.kfIdleTicks
  kfGated : next.kfGated = carrier.kfGated

namespace Carries

variable {carrier middle next : Carrier} {sent : Bool} {force : ℤ}

theorem refl (carrier : Carrier) (force : ℤ) : Carries carrier carrier false force :=
  ⟨rfl, rfl, rfl⟩

theorem after (first : Carries carrier middle false force)
    (second : Carries middle next sent force) :
    Carries carrier next sent force where
  delivered := by simpa [first.delivered] using second.delivered
  kfIdleTicks := second.kfIdleTicks.trans first.kfIdleTicks
  kfGated := second.kfGated.trans first.kfGated

theorem before (first : Carries carrier middle sent force)
    (second : Carries middle next false force) : Carries carrier next sent force where
  delivered := by simpa [first.delivered] using second.delivered
  kfIdleTicks := second.kfIdleTicks.trans first.kfIdleTicks
  kfGated := second.kfGated.trans first.kfGated

end Carries

namespace Carrier

variable (carrier : Carrier) (env : SendEnv) (force : ℤ)

theorem queue_carries (attempt : Attempt) (limit : ℕ) (packet : Packet) :
    Carries carrier (carrier.queue attempt limit packet).1 false force := by
  simp only [Carrier.queue]
  split <;> exact ⟨rfl, rfl, rfl⟩

theorem tfQueueCtrl_carries (attempt : Attempt) (command : TfCommand) :
    Carries carrier (carrier.tfQueueCtrl attempt command).1 false force := by
  have queued := carrier.queue_carries force attempt (maxPendingWork - 2)
    (.control command carrier.tfSeq)
  simp only [Carrier.tfQueueCtrl, Carrier.tfQueueRaw]
  split
  case h_1 next outcome => rw [outcome] at queued; exact ⟨queued.1, queued.2, queued.3⟩
  case h_2 next outcome => rw [outcome] at queued; exact queued

theorem tfQueueStream_carries (foreign : Bool) (attempt : Attempt)
    (quartet : Option (List ℕ)) :
    Carries carrier (carrier.tfQueueStream foreign attempt force quartet).1
      (carrier.tfQueueStream foreign attempt force quartet).2 force := by
  simp only [Carrier.tfQueueStream, Carrier.tfQueueRaw]
  split
  · exact ⟨rfl, rfl, rfl⟩
  · have queued := carrier.queue_carries force attempt (maxPendingWork - 2)
      (.stream carrier.tfSeq (forceToOffsetBinary force) (carrier.nextWindow quartet))
    split
    case h_1 next outcome => rw [outcome] at queued; exact ⟨rfl, queued.2, queued.3⟩
    case h_2 next outcome => rw [outcome] at queued; exact queued

theorem sendStopHalf_carries : Carries carrier (carrier.sendStopHalf env) false force := by
  simp only [Carrier.sendStopHalf]
  split
  · exact .refl carrier force
  · have queued := carrier.tfQueueCtrl_carries force env.stop .stop
    exact ⟨queued.1, queued.2, queued.3⟩

theorem sendStopPair_carries : Carries carrier (carrier.sendStopPair env).1 false force := by
  have stopped := carrier.sendStopHalf_carries env force
  simp only [Carrier.sendStopPair]
  split
  · have started := stopped.after
      ((carrier.sendStopHalf env).tfQueueCtrl_carries force env.start .start)
    split
    · exact ⟨started.1, started.2, started.3⟩
    · split <;> exact ⟨started.1, started.2, started.3⟩
  · split
    · exact ⟨stopped.1, stopped.2, stopped.3⟩
    · split <;> exact ⟨stopped.1, stopped.2, stopped.3⟩

theorem sendRecentre_carries :
    Carries carrier (carrier.sendRecentre env force).1 (carrier.sendRecentre env force).2
      force := by
  simp only [Carrier.sendRecentre]
  split
  · exact .refl carrier force
  · have queued := Carrier.tfQueueStream_carries
      { carrier with tfWindow := List.replicate tfWindowSlots centre } force env.foreignStream
      env.stream none
    exact ⟨queued.1, queued.2, queued.3⟩

theorem tfWindDown_carries :
    Carries carrier (carrier.tfWindDown env force).1 (carrier.tfWindDown env force).2 force := by
  simp only [Carrier.tfWindDown]
  split
  · have recentred := carrier.sendRecentre_carries env force
    have stopped := recentred.before
      ((carrier.sendRecentre env force).1.sendStopPair_carries env force)
    exact ⟨stopped.1, stopped.2, stopped.3⟩
  · exact .refl carrier force

theorem tfOpen_carries : Carries carrier (carrier.tfOpen env).1 false force := by
  simp only [Carrier.tfOpen]
  split
  · exact .refl carrier force
  · have started := carrier.tfQueueCtrl_carries force env.start .start
    split
    case h_1 next outcome => rw [outcome] at started; exact ⟨started.1, started.2, started.3⟩
    case h_2 next outcome => rw [outcome] at started; exact started

/-- The return value of `hidpp_dd_tf_tick` says exactly whether its packet carried the force. -/
theorem tfTick_carries (tunables : Tunables) (anyTexture : Bool) (samples : List ℤ) :
    Carries carrier (carrier.tfTick tunables env anyTexture samples force).1
      (carrier.tfTick tunables env anyTexture samples force).2 force := by
  simp only [Carrier.tfTick]
  split
  · have opened := carrier.tfOpen_carries env force
    split
    case h_1 middle outcome =>
      rw [outcome] at opened
      exact opened.after (middle.tfQueueStream_carries force _ _ _)
    case h_2 middle outcome => rw [outcome] at opened; exact opened
  · exact carrier.tfWindDown_carries env force

@[simp]
theorem idleGate_delivered (idle : Bool) :
    (carrier.idleGate env idle).delivered = carrier.delivered := by
  have pair := carrier.sendStopPair_carries env 0
  simp only [Carrier.idleGate]
  split
  · split
    · rfl
    · split
      · rfl
      · exact pair.delivered
  · rfl

/-- Outside an idle tick the gate is open and its grace starts over. -/
theorem idleGate_open : (carrier.idleGate env false).kfIdleTicks = 0 ∧
    (carrier.idleGate env false).kfGated = false :=
  ⟨rfl, rfl⟩

theorem idleGate_gated {idle : Bool} (gated : (carrier.idleGate env idle).kfGated = true) :
    idle = true ∧ (carrier.kfGated = true ∨ kfIdleGraceTicks ≤ carrier.kfIdleTicks) := by
  simp only [Carrier.idleGate] at gated
  split at gated
  case isTrue isIdle =>
    refine ⟨isIdle, ?_⟩
    split at gated
    · exact Or.inl gated
    case isFalse past => exact Or.inr (by omega)
  case isFalse => contradiction

theorem sendForce_gate (tunables : Tunables) :
    (carrier.sendForce tunables env force).kfIdleTicks = carrier.kfIdleTicks ∧
      (carrier.sendForce tunables env force).kfGated = carrier.kfGated := by
  have queued := carrier.queue_carries force env.force maxPendingWork
    (.force (forceToOffsetBinary
      (if tunables.g920 then scaleU16 force tunables.strength else force)))
  simp only [Carrier.sendForce]
  split
  · exact ⟨rfl, rfl⟩
  · split
    case h_1 next outcome => rw [outcome] at queued; exact ⟨queued.2, queued.3⟩
    case h_2 next outcome => rw [outcome] at queued; exact ⟨queued.2, queued.3⟩

/-- A zero force packet that is not dropped delivers the centre, and a dropped one leaves it. -/
theorem sendForce_zero (tunables : Tunables)
    (settles : carrier.delivered ≠ centre → ¬carrier.DropsForce env) :
    (carrier.sendForce tunables env 0).delivered = centre := by
  have cur : forceToOffsetBinary (if tunables.g920 then scaleU16 0 tunables.strength else 0) =
      centre := by simp
  simp only [Carrier.sendForce]
  rw [cur]
  split
  · rfl
  case isFalse ownStream =>
    split
    · rfl
    case h_2 next outcome =>
      have dropped : carrier.DropsForce env := by
        refine ⟨by simpa using ownStream, ?_⟩
        simp only [Carrier.queue] at outcome
        split at outcome
        · simp at outcome
        case isFalse refused =>
          by_cases full : maxPendingWork ≤ carrier.pendingWork - env.force.completed
          · exact Or.inl full
          · exact Or.inr (by simpa [show _ < _ from Nat.lt_of_not_le full] using refused)
      have queued := carrier.queue_carries 0 env.force maxPendingWork (.force centre)
      rw [outcome] at queued
      have kept : next.delivered = carrier.delivered := queued.delivered
      rw [kept]
      by_contra latched
      exact settles latched dropped

end Carrier

namespace State

/-- The zero packet of a tick with nothing playing is dropped while a force is latched on the
wheel. -/
def LosesRelease (state : State) (tick : Tick) (env : SendEnv) : Prop :=
  state.live = true ∧ tick.force = 0 ∧ tick.anyPlaying = false ∧
    state.carrier.delivered ≠ centre ∧ (state.beforeForce tick env).2 = false ∧
    (state.beforeForce tick env).1.kfGated = false ∧
    (state.beforeForce tick env).1.DropsForce env

/-- The timer stops after a tick that sent a spring force, its autocenter cleared since. -/
def StopsUnderSpring (state : State) (tick : Tick) : Prop :=
  state.keepsTimer tick = false ∧ tick.autocenter ≠ 0 ∧ tick.force ≠ 0

/-- The step neither loses a release nor stops the timer under a spring force. -/
def DeliversRelease (state : State) : Event → Prop
  | .send env =>
      match state.callback with
      | .summed tick => ¬state.LosesRelease tick env
      | _ => True
  | .rearm =>
      match state.callback with
      | .sent tick => ¬state.StopsUnderSpring tick
      | _ => True
  | _ => True

instance (state : State) (event : Event) : Decidable (state.DeliversRelease event) := by
  simp only [DeliversRelease, LosesRelease, StopsUnderSpring, Carrier.DropsForce]
  split
  · split <;> infer_instance
  · split <;> infer_instance
  · infer_instance

/-- What a tick that found nothing playing carries, section by section. -/
def QuietTick (state : State) : Prop :=
  match state.callback with
  | .sampled sample => sample.anyPlaying = false → sample.force = 0 ∧ sample.anyTexture = false
  | .summed tick => tick.anyPlaying = false →
      tick.anyTexture = false ∧ (tick.autocenter = 0 → tick.force = 0)
  | .sent tick => tick.anyPlaying = false →
      (tick.autocenter = 0 → tick.force = 0) ∧
        (tick.force = 0 → state.carrier.delivered = centre)
  | _ => True

/-- While the device runs: no force is latched with the timer off, nor behind a closed or closing
idle gate, nor after a tick that found nothing to do. -/
structure Released (state : State) : Prop where
  disarmed : state.timerArmed = false → state.carrier.delivered = centre
  idling : 0 < state.carrier.kfIdleTicks → state.carrier.delivered = centre
  gated : state.carrier.kfGated = true → state.carrier.delivered = centre
  tick : state.QuietTick

end State

variable {kernel : Kernel} {state next : State}

theorem idleTick_quiet {tick : Tick} (idle : state.idleTick tick = true) :
    tick.force = 0 ∧ tick.anyPlaying = false := by
  simp only [State.idleTick, Bool.and_eq_true, beq_iff_eq, Bool.not_eq_true'] at idle
  exact ⟨idle.2.1.1.1, idle.2.1.1.2⟩

/-- The carrier behind a tick's stream and idle gate: the force is delivered exactly if a stream
packet took it, and a gate that is closed or closing has seen idle ticks only. -/
theorem beforeForce_spec (state : State) (tick : Tick) (env : SendEnv) :
    (state.beforeForce tick env).1.delivered =
        (if (state.beforeForce tick env).2 then forceToOffsetBinary tick.force
          else state.carrier.delivered) ∧
      ((state.beforeForce tick env).1.kfGated = true →
        state.carrier.kfGated = true ∨ kfIdleGraceTicks ≤ state.carrier.kfIdleTicks) ∧
      ((state.beforeForce tick env).1.kfGated = true ∨
          0 < (state.beforeForce tick env).1.kfIdleTicks →
        tick.force = 0 ∧ tick.anyPlaying = false) := by
  have quiet (carrier : Carrier) (closing : (carrier.idleGate env (state.idleTick tick)).kfGated =
      true ∨ 0 < (carrier.idleGate env (state.idleTick tick)).kfIdleTicks) :
      tick.force = 0 ∧ tick.anyPlaying = false := by
    cases idle : state.idleTick tick with
    | true => exact idleTick_quiet idle
    | false => simp [idle, carrier.idleGate_open env] at closing
  simp only [State.beforeForce]
  split
  case isTrue =>
    have carried := state.carrier.tfTick_carries env tick.force state.tunables tick.anyTexture
      tick.samples
    refine ⟨by simpa using carried.delivered, fun gated => ?_, quiet _⟩
    simpa [carried.kfGated, carried.kfIdleTicks] using (Carrier.idleGate_gated _ env gated).2
  case isFalse =>
    exact ⟨by simp, fun gated => (Carrier.idleGate_gated _ env gated).2, quiet _⟩

/-- A zero tick with nothing playing leaves no force on the wheel, whichever carrier it takes. -/
theorem sendTick_zero {tick : Tick} {env : SendEnv} (live : state.live = true)
    (released : state.Released) (summed : state.callback = .summed tick)
    (delivers : state.DeliversRelease (.send env)) (zero : tick.force = 0)
    (quiet : tick.anyPlaying = false) :
    (state.sendTick tick env).carrier.delivered = centre := by
  rcases beforeForce_spec state tick env with ⟨delivered, gate, _⟩
  simp only [State.DeliversRelease, summed] at delivers
  simp only [State.sendTick, live, ↓reduceIte]
  cases sent : (state.beforeForce tick env).2 with
  | true => simpa [sent, zero] using delivered
  | false =>
      simp only [sent, Bool.false_eq_true, ↓reduceIte] at delivered
      cases gated : (state.beforeForce tick env).1.kfGated with
      | true =>
          simp only [Bool.or_true, ↓reduceIte]
          rw [delivered]
          rcases gate gated with already | grace
          · exact released.gated already
          · exact released.idling (by simp only [kfIdleGraceTicks] at grace; omega)
      | false =>
          simp only [Bool.or_self, Bool.false_eq_true, ↓reduceIte, zero]
          refine Carrier.sendForce_zero _ env state.tunables ?_
          rw [delivered]
          exact fun latched drops => delivers ⟨live, zero, quiet, latched, sent, gated, drops⟩

theorem sendTick_gate {tick : Tick} {env : SendEnv} (live : state.live = true)
    (closing : 0 < (state.sendTick tick env).carrier.kfIdleTicks ∨
      (state.sendTick tick env).carrier.kfGated = true) :
    tick.force = 0 ∧ tick.anyPlaying = false := by
  apply (beforeForce_spec state tick env).2.2
  simp only [State.sendTick, live, ↓reduceIte] at closing
  split at closing
  · exact closing.symm
  · rcases Carrier.sendForce_gate (state.beforeForce tick env).1 env tick.force state.tunables with
      ⟨sameTicks, sameGate⟩
    rw [sameTicks, sameGate] at closing
    exact closing.symm

theorem sampleSlot_silent (context : SampleContext) (slot : EffectSlot)
    (quiet : (context.sampleSlot slot).2.playing = false) :
    (context.sampleSlot slot).2.force = 0 ∧ (context.sampleSlot slot).2.texture = false := by
  have contributes (played : EffectSlot) (elapsedMs : ℕ) :
      (context.contribution played elapsedMs).playing = true := by
    simp only [SampleContext.contribution]
    split <;> rfl
  simp only [SampleContext.sampleSlot] at quiet ⊢
  split
  · exact ⟨rfl, rfl⟩
  · split
    · exact ⟨rfl, rfl⟩
    · split
      · split
        case isTrue inactive undelayed expired again =>
          simp [inactive, undelayed, expired, again, contributes] at quiet
        case isFalse => exact ⟨rfl, rfl⟩
      case isFalse inactive undelayed unexpired =>
        rw [if_neg inactive, if_neg undelayed, if_neg unexpired] at quiet
        simp [contributes] at quiet

/-- A scan that finds nothing playing sums to zero and streams nothing. -/
theorem sampleEffects_silent (context : SampleContext) (effects : Effects)
    (quiet : (context.sampleEffects effects).2.1.anyPlaying = false) :
    (context.sampleEffects effects).2.1.force = 0 ∧
      (context.sampleEffects effects).2.1.anyTexture = false := by
  simp only [SampleContext.sampleEffects, List.any_eq_false, List.mem_map, List.mem_finRange,
    true_and, forall_exists_index, forall_apply_eq_imp_iff, Bool.not_eq_true] at quiet ⊢
  refine ⟨List.sum_eq_zero ?_, fun i => (sampleSlot_silent context _ (quiet i)).2⟩
  simp only [List.map_map, List.mem_map, List.mem_finRange, true_and, Function.comp_apply,
    forall_exists_index, forall_apply_eq_imp_iff]
  exact fun i => (sampleSlot_silent context _ (quiet i)).1

theorem sum_zero {sample : Sampled} (silent : sample.force = 0)
    (noSpring : (state.sum sample).autocenter = 0) : (state.sum sample).force = 0 := by
  change state.autocenter = 0 at noSpring
  simp [State.sum, silent, autocenterForce, noSpring]

/-- Steps outside the callback do not touch the carrier's force, the gate or the tick, and disarm
nothing. -/
theorem State.Released.of_frame (released : state.Released)
    (armed : next.timerArmed = false → state.timerArmed = false)
    (sameDelivered : next.carrier.delivered = state.carrier.delivered)
    (sameTicks : next.carrier.kfIdleTicks = state.carrier.kfIdleTicks)
    (sameGate : next.carrier.kfGated = state.carrier.kfGated)
    (sameCallback : next.callback = state.callback) : next.Released where
  disarmed := fun disarmed => sameDelivered.trans (released.disarmed (armed disarmed))
  idling := fun idling => sameDelivered.trans (released.idling (sameTicks ▸ idling))
  gated := fun gated => sameDelivered.trans (released.gated (sameGate ▸ gated))
  tick := by
    have tick := released.tick
    simp only [State.QuietTick] at tick ⊢
    rw [sameCallback, sameDelivered]
    exact tick

theorem State.Released.of_section (released : state.Released)
    (sameArmed : next.timerArmed = state.timerArmed)
    (sameCarrier : next.carrier = state.carrier) (tick : next.QuietTick) : next.Released where
  disarmed := by simpa [sameArmed, sameCarrier] using released.disarmed
  idling := by simpa [sameCarrier] using released.idling
  gated := by simpa [sameCarrier] using released.gated
  tick := tick

theorem sendTick_released {tick : Tick} {env : SendEnv} (live : state.live = true)
    (owned : state.TimerOwned) (released : state.Released)
    (summed : state.callback = .summed tick)
    (delivers : state.DeliversRelease (.send env)) :
    (state.sendTick tick env).Released where
  disarmed := by
    intro disarmed
    have armed : state.timerArmed = true := by
      simpa [summed, Callback.holdsTimer] using owned.armed
    change state.timerArmed = false at disarmed
    simp [armed] at disarmed
  idling := fun idling =>
    have quiet := sendTick_gate live (Or.inl idling)
    sendTick_zero live released summed delivers quiet.1 quiet.2
  gated := fun gated =>
    have quiet := sendTick_gate live (Or.inr gated)
    sendTick_zero live released summed delivers quiet.1 quiet.2
  tick := by
    have tickQuiet := released.tick
    simp only [State.QuietTick, summed] at tickQuiet
    intro quiet
    exact ⟨(tickQuiet quiet).2, fun zero => sendTick_zero live released summed delivers zero quiet⟩

/-- The decision to stop finds the force of its own tick delivered. -/
theorem disarm_released {tick : Tick} (live : state.live = true) (released : state.Released)
    (sent : state.callback = .sent tick) (drops : state.keepsTimer tick = false)
    (delivers : state.DeliversRelease .rearm) :
    { state with timerArmed := false, callback := .returning false }.Released := by
  have quiet : tick.anyPlaying = false := by
    simp only [State.keepsTimer, live, Bool.and_true, Bool.or_eq_false_iff] at drops
    exact drops.1.1.1
  have tickQuiet := released.tick
  simp only [State.QuietTick, sent] at tickQuiet
  simp only [State.DeliversRelease, sent] at delivers
  have zero : tick.force = 0 := by
    by_cases noSpring : tick.autocenter = 0
    · exact (tickQuiet quiet).1 noSpring
    · by_contra force
      exact delivers ⟨drops, noSpring, force⟩
  exact ⟨fun _ => (tickQuiet quiet).2 zero, released.idling, released.gated, trivial⟩

theorem callback_released {event : Event} (running : state.stopping = false)
    (owned : state.TimerOwned) (released : state.Released)
    (delivers : state.DeliversRelease event) (stepped : CallbackStep kernel state event next) :
    next.Released := by
  have live (holding : state.callback.holdsTimer = true) : state.live = true := by
    have initialized := owned.initialized (by simpa [holding] using owned.armed)
    simp [State.live, initialized, running]
  cases stepped with
  | leave leaving => simp [owned.leaving leaving] at running
  | sample now sampling =>
      refine released.of_section rfl rfl ?_
      exact sampleEffects_silent _ _
  | readAutocenter sample sampled =>
      refine released.of_section rfl rfl ?_
      have silent := released.tick
      simp only [State.QuietTick, sampled] at silent
      intro quiet
      exact ⟨(silent quiet).2, sum_zero (silent quiet).1⟩
  | send tick env summed =>
      exact sendTick_released (live (by simp [summed, Callback.holdsTimer])) owned released summed
        delivers
  | disarm tick sent drops =>
      exact disarm_released (live (by simp [sent, Callback.holdsTimer])) released sent drops
        delivers
  | fire | check | refuse | keep | finish => exact released.of_section rfl rfl trivial

theorem step_released {event : Event} (running : state.stopping = false)
    (owned : state.TimerOwned) (released : state.Released)
    (delivers : state.DeliversRelease event) (stepped : state.step kernel event = some next) :
    next.Released := by
  cases step_timerStep stepped with
  | same same =>
      exact released.of_frame (by simp [same.timerArmed]) same.delivered same.kfIdleTicks
        same.kfGated same.callback
  | initDone eq | stop eq =>
      subst eq
      exact released.of_frame id rfl rfl rfl rfl
  | kick operations eq =>
      subst eq
      simp only [State.timerKick]
      split
      · exact released.of_frame (by simp) rfl rfl rfl rfl
      · exact released.of_frame id rfl rfl rfl rfl
  | callback stepped => exact callback_released running owned released delivers stepped

theorem step_stopping {event : Event} (stepped : state.step kernel event = some next)
    (running : next.stopping = false) : state.stopping = false := by
  cases step_timerStep stepped with
  | same same => exact same.stopping.symm.trans running
  | initDone eq => subst eq; exact running
  | stop eq => subst eq; simp at running
  | kick operations eq =>
      subst eq
      simp only [State.timerKick] at running
      split at running <;> exact running
  | callback stepped => cases stepped <;> exact running

theorem start_released (tunables : Tunables) : (State.start tunables).Released where
  disarmed := fun _ => rfl
  idling := fun _ => rfl
  gated := fun _ => rfl
  tick := trivial

namespace State

/-- At rest on a running device, the last force that reached the wheel is centre. -/
def StopSafe (state : State) : Prop :=
  state.timerArmed = false → state.callback = .idle → state.initialized = true →
    state.stopping = false → state.carrier.delivered = centre

end State

/-- The engine's invariant behind the stop. -/
structure State.ReleaseInvariant (state : State) : Prop where
  owned : state.TimerOwned
  released : state.stopping = false → state.Released

theorem reachable_releaseInvariant
    (reachable : (engine kernel).ReachableUnder State.DeliversRelease state) :
    state.ReleaseInvariant := by
  apply reachable.invariant
  · rintro start ⟨tunables, rfl⟩
    exact ⟨start_timerOwned tunables, fun _ => start_released tunables⟩
  · intro current event next invariant delivers stepped
    refine ⟨step_timerOwned invariant.owned stepped, fun running => ?_⟩
    have wasRunning := step_stopping stepped running
    exact step_released wasRunning invariant.owned (invariant.released wasRunning) delivers stepped

/-- In every run in which each release is delivered, the engine never goes idle leaving a force
latched on the motor. -/
theorem stop_leaves_no_force
    (reachable : (engine kernel).ReachableUnder State.DeliversRelease state) : state.StopSafe := by
  intro disarmed _ _ running
  exact ((reachable_releaseInvariant reachable).released running).disarmed disarmed

def SendEnv.clear : SendEnv :=
  ⟨false, false, ⟨0, true⟩, ⟨0, true⟩, ⟨0, true⟩, ⟨0, true⟩⟩

def tickEvents : List Event := [.fire, .check, .sample 0, .readAutocenter, .send .clear]

/-- A spring force is sent, the autocenter is cleared, and the next tick delivers the zero before
the timer stops. -/
theorem stop_leaves_no_force_after_spring : ∃ state : State, state.StopSafe ∧
    state.timerArmed = false ∧ state.carrier.queued = [.force centre, .force 47768] := by
  have reached := System.ReachableUnder.of_check (engine quarterKernel) State.DeliversRelease
    (State.start defaultTunables)
    ([Event.initDone, .report 0 0, .autocenterStore 30000, .resume 0] ++ tickEvents ++
      [Event.rearm, .finish, .autocenterStore 0] ++ tickEvents ++ [Event.rearm, .finish])
    (fun state => !state.timerArmed && state.carrier.queued == [.force centre, .force 47768])
    ⟨defaultTunables, rfl⟩ (by decide) (by decide)
  rcases reached with ⟨state, reachable, checked⟩
  simp only [Bool.and_eq_true, Bool.not_eq_true', beq_iff_eq] at checked
  exact ⟨state, stop_leaves_no_force reachable, checked⟩

/-- The autocenter is cleared between the tick's read and its decision: the timer stops with the
spring force as the last one delivered. -/
theorem stop_leaves_force : ∃ state, (engine quarterKernel).Reachable state ∧ ¬state.StopSafe := by
  have reached : ((engine quarterKernel).run (State.start defaultTunables)
      ([Event.initDone, .report 0 0, .autocenterStore 30000, .resume 0] ++ tickEvents ++
        [Event.autocenterStore 0, .rearm, .finish])).any (fun state =>
      !state.timerArmed && decide (state.callback = .idle) && state.initialized &&
        !state.stopping && state.carrier.delivered == 47768) = true := by decide
  rcases (Option.any_eq_true _ _).mp reached with ⟨state, executed, checked⟩
  refine ⟨state, System.Reachable.of_run _ _ ⟨defaultTunables, rfl⟩ executed, fun safe => ?_⟩
  simp only [Bool.and_eq_true, Bool.not_eq_true', decide_eq_true_eq, beq_iff_eq] at checked
  rcases checked with ⟨⟨⟨⟨disarmed, idle⟩, initialized⟩, running⟩, latched⟩
  have released := safe disarmed idle initialized running
  simp [latched, centre] at released

end TrueForce.Ffb
