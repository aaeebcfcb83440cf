import TrueForce.Ffb.Engine

/-!
# The timer and the effects that need it

Two facts about every interleaving.  The hrtimer is never armed twice: the flag
`timer_armed` says exactly that the timer is queued or that a callback is under
way that has not given it up.  And nothing that needs the timer waits without it:
as long as the device is live, an active effect or a nonzero autocenter finds
the timer armed or a kick in flight.  The second fact is a matter of every
section but one: `initialized` turns on in the deferred init work, which does
not kick, so whatever was started before it and has had its kick refused stays
asleep.  The guard asks of that step that nothing is owed.
-/

namespace TrueForce.Ffb

open TrueForce.Transition

def Callback.holdsTimer : Callback → Bool
  | .idle | .returning false => false
  | .entered | .leaving | .sampling | .sampled _ | .summed _ | .sent _ | .returning true => true

namespace State

def needsTimer (state : State) : Bool := state.effects.anyPlaying || state.autocenter != 0

/-- `timer_armed` is the timer's true state, and the timer belongs to at most one of the queue and
the callback. -/
structure TimerOwned (state : State) : Prop where
  armed : state.timerArmed = (state.queued || state.callback.holdsTimer)
  exclusive : state.queued = true → state.callback.holdsTimer = false
  initialized : state.timerArmed = true → state.initialized = true
  leaving : state.callback = .leaving → state.stopping = true

/-- The timer, its callback and what the wheel was handed are as before. -/
structure SameTimer (state next : State) : Prop where
  timerArmed : next.timerArmed = state.timerArmed
  queued : next.queued = state.queued
  callback : next.callback = state.callback
  initialized : next.initialized = state.initialized
  stopping : next.stopping = state.stopping
  delivered : next.carrier.delivered = state.carrier.delivered
  kfIdleTicks : next.carrier.kfIdleTicks = state.carrier.kfIdleTicks
  kfGated : next.carrier.kfGated = state.carrier.kfGated
  packets : next.carrier.queued = state.carrier.queued

end State

theorem State.SameTimer.timerOwned {state next : State} (same : state.SameTimer next)
    (owned : state.TimerOwned) : next.TimerOwned where
  armed := by simpa [same.timerArmed, same.queued, same.callback] using owned.armed
  exclusive := by simpa [same.queued, same.callback] using owned.exclusive
  initialized := by simpa [same.timerArmed, same.initialized] using owned.initialized
  leaving := by simpa [same.callback, same.stopping] using owned.leaving

variable {kernel : Kernel} {state next : State}

theorem upload_sameTimer (effectId : ℤ) (effect : FfEffect) (old : Bool) :
    state.SameTimer (state.upload kernel effectId effect old) := by
  simp only [State.upload]
  split
  · exact ⟨rfl, rfl, rfl, rfl, rfl, rfl, rfl, rfl, rfl⟩
  · split <;> exact ⟨rfl, rfl, rfl, rfl, rfl, rfl, rfl, rfl, rfl⟩

theorem erase_sameTimer (effectId : ℤ) : state.SameTimer (state.erase kernel effectId) := by
  simp only [State.erase]
  split <;> exact ⟨rfl, rfl, rfl, rfl, rfl, rfl, rfl, rfl, rfl⟩

theorem playback_sameTimer (effectId value : ℤ) (now : UInt64) :
    state.SameTimer (state.playback kernel effectId value now) := by
  simp only [State.playback]
  split
  · exact ⟨rfl, rfl, rfl, rfl, rfl, rfl, rfl, rfl, rfl⟩
  · split <;> exact ⟨rfl, rfl, rfl, rfl, rfl, rfl, rfl, rfl, rfl⟩

theorem setAutocenter_sameTimer (magnitude : UInt16) :
    state.SameTimer (state.setAutocenter magnitude) := by
  simp only [State.setAutocenter]
  split <;> exact ⟨rfl, rfl, rfl, rfl, rfl, rfl, rfl, rfl, rfl⟩

theorem autocenterStore_sameTimer (value : ℤ) :
    state.SameTimer (state.autocenterStore value) := by
  simp only [State.autocenterStore]
  split
  · exact ⟨rfl, rfl, rfl, rfl, rfl, rfl, rfl, rfl, rfl⟩
  · split <;> exact ⟨rfl, rfl, rfl, rfl, rfl, rfl, rfl, rfl, rfl⟩

theorem tfInitWork_sameTimer (outcome : TfInitOutcome) :
    state.SameTimer (state.tfInitWork outcome) := by
  cases outcome <;> exact ⟨rfl, rfl, rfl, rfl, rfl, rfl, rfl, rfl, rfl⟩

/-- What a step can do to the timer: nothing, bring the device up or down, kick, or take the
callback on. -/
inductive TimerStep (kernel : Kernel) (state : State) (event : Event) (next : State) : Prop where
  | same : state.SameTimer next → TimerStep kernel state event next
  | initDone : next = { state with initialized := true } → TimerStep kernel state event next
  | stop : next = { state with stopping := true } → TimerStep kernel state event next
  | kick (operations : List Operation) :
      next = { state.timerKick with operations := operations } →
      TimerStep kernel state event next
  | callback : CallbackStep kernel state event next → TimerStep kernel state event next

theorem step_timerStep {event : Event} (stepped : state.step kernel event = some next) :
    TimerStep kernel state event next := by
  cases event with
  | upload effectId effect old => cases stepped; exact .same (upload_sameTimer effectId effect old)
  | erase effectId => cases stepped; exact .same (erase_sameTimer effectId)
  | playback effectId value now =>
      cases stepped
      exact .same (playback_sameTimer effectId value now)
  | setAutocenter magnitude => cases stepped; exact .same (setAutocenter_sameTimer magnitude)
  | autocenterStore value => cases stepped; exact .same (autocenterStore_sameTimer value)
  | tfInitDone outcome =>
      simp only [State.step] at stepped
      split at stepped <;> cases stepped
      exact .same (tfInitWork_sameTimer outcome)
  | tune | report | workDone =>
      cases stepped
      exact .same ⟨rfl, rfl, rfl, rfl, rfl, rfl, rfl, rfl, rfl⟩
  | initDone =>
      simp only [State.step] at stepped
      split at stepped <;> cases stepped
      exact .initDone rfl
  | stop => cases stepped; exact .stop rfl
  | resume index =>
      simp only [State.step, State.resume] at stepped
      split at stepped
      · contradiction
      · cases stepped
        exact .kick _ rfl
      · split at stepped <;> cases stepped <;>
          exact .same ⟨rfl, rfl, rfl, rfl, rfl, rfl, rfl, rfl, rfl⟩
  | fire | check | leave | sample | readAutocenter | send | rearm | finish =>
      simp only [State.step] at stepped
      exact .callback (stepCallback_cases stepped)

theorem timerKick_timerOwned (owned : state.TimerOwned) : state.timerKick.TimerOwned := by
  simp only [State.timerKick]
  split
  case isFalse => exact owned
  case isTrue starts =>
    simp only [State.kickStarts, State.live, Bool.and_eq_true, Bool.not_eq_true'] at starts
    rcases starts with ⟨unarmed, initialized, _⟩
    have released : state.queued = false ∧ state.callback.holdsTimer = false := by
      simpa [unarmed] using owned.armed
    exact ⟨by simp, fun _ => released.2, fun _ => initialized, owned.leaving⟩

/-- A callback that moves on to another section keeps holding the timer. -/
theorem State.TimerOwned.advance (owned : state.TimerOwned)
    (holding : state.callback.holdsTimer = true) (holdsOn : next.callback.holdsTimer = true)
    (sameArmed : next.timerArmed = state.timerArmed) (sameQueued : next.queued = state.queued)
    (sameInitialized : next.initialized = state.initialized)
    (leaving : next.callback = .leaving → next.stopping = true) : next.TimerOwned where
  armed := by simpa [holding, holdsOn, sameArmed] using owned.armed
  exclusive := by
    intro queued
    have released := owned.exclusive (by simpa [sameQueued] using queued)
    simp [holding] at released
  initialized := by simpa [sameArmed, sameInitialized] using owned.initialized
  leaving := leaving

/-- A callback that gives the timer up finds it not queued. -/
theorem State.TimerOwned.release (owned : state.TimerOwned)
    (holding : state.callback.holdsTimer = true) :
    { state with timerArmed := false, callback := .returning false }.TimerOwned := by
  have unqueued : state.queued = false := by
    by_contra queued
    simpa [holding] using owned.exclusive (by simpa using queued)
  exact ⟨by simp [unqueued, Callback.holdsTimer], by simp [Callback.holdsTimer], by simp, by simp⟩

theorem callback_timerOwned {event : Event} (owned : state.TimerOwned)
    (stepped : CallbackStep kernel state event next) : next.TimerOwned := by
  cases stepped with
  | fire queued idle =>
      exact ⟨by simpa [queued, idle, Callback.holdsTimer] using owned.armed, by simp,
        owned.initialized, by simp⟩
  | check entered live =>
      exact owned.advance (by simp [entered, Callback.holdsTimer]) rfl rfl rfl rfl (by simp)
  | refuse entered dead =>
      -- an armed timer has an initialised device, so only teardown sends the callback away
      have initialized : state.initialized = true := by
        apply owned.initialized
        simpa [entered, Callback.holdsTimer] using owned.armed
      refine owned.advance (by simp [entered, Callback.holdsTimer]) rfl rfl rfl rfl ?_
      intro _
      simpa [State.live, initialized] using dead
  | leave leaving => exact owned.release (by simp [leaving, Callback.holdsTimer])
  | sample now sampling =>
      exact owned.advance (by simp [sampling, Callback.holdsTimer]) rfl rfl rfl rfl
        (by simp [State.sampleSection])
  | readAutocenter sample sampled =>
      exact owned.advance (by simp [sampled, Callback.holdsTimer]) rfl rfl rfl rfl (by simp)
  | send tick env summed =>
      exact owned.advance (by simp [summed, Callback.holdsTimer]) rfl rfl rfl rfl
        (by simp [State.sendTick])
  | keep tick sent _ =>
      exact owned.advance (by simp [sent, Callback.holdsTimer]) rfl rfl rfl rfl (by simp)
  | disarm tick sent _ => exact owned.release (by simp [sent, Callback.holdsTimer])
  | finish restart returning =>
      refine ⟨?_, by simp [Callback.holdsTimer], owned.initialized, by simp⟩
      cases restart <;> simpa [returning, Callback.holdsTimer] using owned.armed

theorem step_timerOwned {event : Event} (owned : state.TimerOwned)
    (stepped : state.step kernel event = some next) : next.TimerOwned := by
  cases step_timerStep stepped with
  | same same => exact same.timerOwned owned
  | initDone eq =>
      subst eq
      exact ⟨owned.armed, owned.exclusive, fun _ => rfl, owned.leaving⟩
  | stop eq =>
      subst eq
      exact ⟨owned.armed, owned.exclusive, owned.initialized, fun _ => rfl⟩
  | kick operations eq =>
      subst eq
      have kicked := timerKick_timerOwned owned
      exact ⟨kicked.armed, kicked.exclusive, kicked.initialized, kicked.leaving⟩
  | callback stepped => exact callback_timerOwned owned stepped

theorem start_timerOwned (tunables : Tunables) : (State.start tunables).TimerOwned := by
  constructor <;> simp [State.start, Callback.holdsTimer]

namespace State

/-- What needs the timer has it, or has a kick in flight. -/
def Awake (state : State) : Prop :=
  state.live = true → state.needsTimer = true →
    state.timerArmed = true ∨ .kick ∈ state.operations

def PlayingUploaded (state : State) : Prop :=
  ∀ i, (state.effects i).playing = true → (state.effects i).uploaded = true

/-- When the deferred init completes, what needs the timer already has a kick in flight. -/
def WakesAtInit (state : State) : Event → Prop
  | .initDone => state.needsTimer = true → .kick ∈ state.operations
  | _ => True

end State

theorem anyPlaying_iff (effects : Effects) :
    effects.anyPlaying = true ↔ ∃ i, (effects i).active = true := by
  simp [Effects.anyPlaying]

theorem needsTimer_iff :
    state.needsTimer = true ↔ (∃ i, (state.effects i).active = true) ∨ state.autocenter ≠ 0 := by
  simp [State.needsTimer, anyPlaying_iff]

/-- A step that starts nothing new, keeps the timer armed and keeps the kicks in flight. -/
theorem State.Awake.of_frame (awake : state.Awake)
    (live : next.live = true → state.live = true)
    (active : ∀ i, (next.effects i).active = true → (state.effects i).active = true)
    (autocenter : next.autocenter = state.autocenter ∨ next.autocenter = 0)
    (timerArmed : state.timerArmed = true → next.timerArmed = true)
    (operations : .kick ∈ state.operations → .kick ∈ next.operations) : next.Awake := by
  intro nextLive nextNeeds
  have needs : state.needsTimer = true := by
    rw [needsTimer_iff] at nextNeeds ⊢
    rcases nextNeeds with ⟨i, isActive⟩ | centring
    · exact Or.inl ⟨i, active i isActive⟩
    · rcases autocenter with same | zero
      · exact Or.inr (same ▸ centring)
      · exact absurd zero centring
  exact (awake (live nextLive) needs).imp timerArmed operations

theorem State.Awake.of_kick (kick : .kick ∈ state.operations) : state.Awake :=
  fun _ _ => Or.inr kick

/-- Uploading over a playing effect leaves it playing; nothing else starts. -/
theorem upload_awake (awake : state.Awake) (uploaded : state.PlayingUploaded) (effectId : ℤ)
    (effect : FfEffect) (old : Bool) : (state.upload kernel effectId effect old).Awake := by
  simp only [State.upload]
  split
  · exact awake
  case h_2 i _ =>
    split
    · exact .of_kick (by simp [State.defer])
    · refine awake.of_frame id ?_ (Or.inl rfl) id id
      intro j active
      by_cases same : j = i
      · subst j
        simp only [State.setSlot, Function.update_self, EffectSlot.active,
          Bool.and_eq_true] at active
        simp [EffectSlot.active, active.2.2, uploaded i active.2.2]
      · simpa [State.setSlot, Function.update_of_ne same] using active

theorem erase_awake (awake : state.Awake) (effectId : ℤ) : (state.erase kernel effectId).Awake := by
  simp only [State.erase]
  split
  · exact awake
  case h_2 i _ =>
    refine awake.of_frame id ?_ (Or.inl rfl) id id
    intro j active
    by_cases same : j = i
    · subst j
      simp [State.recompute, State.setSlot, EffectSlot.active] at active
    · simpa [State.recompute, State.setSlot, Function.update_of_ne same] using active

/-- A playback that leaves anything playing has a kick in flight; one that does not leaves at most
the autocenter, which has its timer already. -/
theorem playback_awake (awake : state.Awake) (effectId value : ℤ) (now : UInt64) :
    (state.playback kernel effectId value now).Awake := by
  simp only [State.playback]
  split
  · exact awake
  case h_2 i _ =>
    split
    · cases playing : ((state.setSlot i (state.playedSlot kernel (state.effects i) value
          now)).recompute kernel).anyEffectPlaying with
      | true => exact .of_kick (by simp [State.defer])
      | false =>
          refine awake.of_frame id ?_ (Or.inl rfl) id (fun kick => List.mem_append_left _ kick)
          intro j active
          have none := (anyPlaying_iff _).mpr ⟨j, active⟩
          simp [State.recompute, State.defer] at playing none
          simp [playing] at none
    · exact awake

theorem setAutocenter_awake (awake : state.Awake) (magnitude : UInt16) :
    (state.setAutocenter magnitude).Awake := by
  simp only [State.setAutocenter]
  split
  case isTrue zero => exact awake.of_frame id (fun _ => id) (Or.inr zero) id id
  case isFalse => exact .of_kick (by simp [State.defer])

theorem autocenterStore_awake (awake : state.Awake) (value : ℤ) :
    (state.autocenterStore value).Awake := by
  simp only [State.autocenterStore]
  split
  · exact awake
  · split
    case isTrue zero =>
      exact awake.of_frame id (fun _ => id) (Or.inr (by simp [zero, CInt.clamp])) id id
    case isFalse => exact .of_kick (by simp [State.defer])

/-- After a kick on a live device the timer is armed, whoever armed it. -/
theorem timerKick_armed (live : state.timerKick.live = true) :
    state.timerKick.timerArmed = true := by
  simp only [State.timerKick] at live ⊢
  split
  case isTrue => rfl
  case isFalse refused =>
    rw [if_neg refused] at live
    simpa [State.kickStarts, live] using refused

theorem resume_awake {index : ℕ} (awake : state.Awake)
    (stepped : state.resume index = some next) : next.Awake := by
  simp only [State.resume] at stepped
  split at stepped
  · contradiction
  · cases stepped
    intro live _
    left
    exact timerKick_armed live
  case h_3 unforced =>
    split at stepped <;> cases stepped
    · refine awake.of_frame id (fun _ => id) (Or.inl rfl) id ?_
      intro kick
      rcases List.mem_iff_getElem?.mp kick with ⟨position, found⟩
      refine List.mem_eraseIdx_iff_getElem?.mpr ⟨position, ?_, found⟩
      rintro rfl
      simp [found] at unforced
    · refine .of_kick ?_
      have inRange : index < state.operations.length := (List.getElem?_eq_some_iff.mp unforced).1
      exact List.mem_set inRange _

/-- The sampling loop stops effects and starts none. -/
theorem sampleSlot_slot (context : SampleContext) (slot : EffectSlot) :
    (context.sampleSlot slot).1.uploaded = slot.uploaded ∧
      ((context.sampleSlot slot).1.playing = true → slot.playing = true) := by
  simp only [SampleContext.sampleSlot]
  split
  · exact ⟨rfl, id⟩
  · split
    · exact ⟨rfl, id⟩
    · split
      · split
        · exact ⟨rfl, id⟩
        · exact ⟨rfl, by simp⟩
      · exact ⟨rfl, id⟩

theorem sampleSection_active (now : UInt64) (i : Fin maxEffects)
    (active : ((state.sampleSection kernel now).effects i).active = true) :
    (state.effects i).active = true := by
  simp only [EffectSlot.active, Bool.and_eq_true] at active ⊢
  rcases sampleSlot_slot ⟨kernel, state.tunables, state.tfReady, state.motion.refresh.observe, now⟩
    (state.effects i) with ⟨uploaded, playing⟩
  exact ⟨uploaded ▸ active.1, playing active.2⟩

/-- The callback gives the timer up only when its fresh scan finds nothing that needs it. -/
theorem callback_awake {event : Event} (awake : state.Awake) (owned : state.TimerOwned)
    (stepped : CallbackStep kernel state event next) : next.Awake := by
  cases stepped with
  | leave leaving =>
      intro live
      simp [State.live, owned.leaving leaving] at live
  | sample now sampling =>
      exact awake.of_frame id (sampleSection_active now) (Or.inl rfl) id id
  | disarm tick sent drops =>
      intro live needs
      change state.live = true at live
      simp only [State.keepsTimer, live, Bool.and_true, Bool.or_eq_false_iff] at drops
      rcases drops with ⟨⟨⟨_, noneActive⟩, _⟩, noAutocenter⟩
      change (state.effects.anyPlaying || state.autocenter != 0) = true at needs
      simp [noneActive, noAutocenter] at needs
  | fire | check | refuse | readAutocenter | send | keep | finish =>
      exact awake.of_frame id (fun _ => id) (Or.inl rfl) id id

theorem step_awake {event : Event} (awake : state.Awake) (owned : state.TimerOwned)
    (uploaded : state.PlayingUploaded) (wakes : state.WakesAtInit event)
    (stepped : state.step kernel event = some next) : next.Awake := by
  cases event with
  | upload effectId effect old =>
      cases stepped
      exact upload_awake awake uploaded effectId effect old
  | erase effectId => cases stepped; exact erase_awake awake effectId
  | playback effectId value now => cases stepped; exact playback_awake awake effectId value now
  | setAutocenter magnitude => cases stepped; exact setAutocenter_awake awake magnitude
  | autocenterStore value => cases stepped; exact autocenterStore_awake awake value
  | tfInitDone outcome =>
      simp only [State.step] at stepped
      split at stepped <;> cases stepped
      cases outcome <;> exact awake.of_frame id (fun _ => id) (Or.inl rfl) id id
  | tune | report | workDone =>
      cases stepped
      exact awake.of_frame id (fun _ => id) (Or.inl rfl) id id
  | initDone =>
      simp only [State.step] at stepped
      split at stepped <;> cases stepped
      exact fun _ needs => Or.inr (wakes needs)
  | stop =>
      cases stepped
      intro live
      simp [State.live] at live
  | resume index => exact resume_awake awake stepped
  | fire | check | leave | sample | readAutocenter | send | rearm | finish =>
      simp only [State.step] at stepped
      exact callback_awake awake owned (stepCallback_cases stepped)

theorem setSlot_playingUploaded (uploaded : state.PlayingUploaded) (i : Fin maxEffects)
    (slot : EffectSlot) (slotUploaded : slot.playing = true → slot.uploaded = true) :
    (state.setSlot i slot).PlayingUploaded := by
  intro j playing
  by_cases same : j = i
  · subst j
    simpa [State.setSlot] using slotUploaded (by simpa [State.setSlot] using playing)
  · simp only [State.setSlot, Function.update_of_ne same] at playing ⊢
    exact uploaded j playing

theorem upload_playingUploaded (uploaded : state.PlayingUploaded) (effectId : ℤ)
    (effect : FfEffect) (old : Bool) :
    (state.upload kernel effectId effect old).PlayingUploaded := by
  simp only [State.upload]
  split
  · exact uploaded
  case h_2 i _ =>
    have stored := setSlot_playingUploaded uploaded i
      { state.effects i with
        effect := effect, uploaded := true, playing := old && (state.effects i).playing }
      (fun _ => rfl)
    split <;> exact stored

theorem playback_playingUploaded (uploaded : state.PlayingUploaded) (effectId value : ℤ)
    (now : UInt64) : (state.playback kernel effectId value now).PlayingUploaded := by
  simp only [State.playback]
  split
  · exact uploaded
  case h_2 i _ =>
    split
    case isTrue slotUploaded =>
      refine setSlot_playingUploaded uploaded i _ fun _ => ?_
      simp only [State.playedSlot]
      split <;> exact slotUploaded
    case isFalse => exact uploaded

theorem callback_playingUploaded {event : Event} (uploaded : state.PlayingUploaded)
    (stepped : CallbackStep kernel state event next) : next.PlayingUploaded := by
  cases stepped with
  | sample now sampling =>
      intro i playing
      rcases sampleSlot_slot ⟨kernel, state.tunables, state.tfReady, state.motion.refresh.observe,
        now⟩ (state.effects i) with ⟨same, stillPlaying⟩
      exact same.trans (uploaded i (stillPlaying playing))
  | fire | check | refuse | leave | readAutocenter | send | keep | disarm | finish => exact uploaded

theorem step_playingUploaded {event : Event} (uploaded : state.PlayingUploaded)
    (stepped : state.step kernel event = some next) : next.PlayingUploaded := by
  cases event with
  | upload effectId effect old =>
      cases stepped
      exact upload_playingUploaded uploaded effectId effect old
  | erase effectId =>
      cases stepped
      simp only [State.erase]
      split
      · exact uploaded
      case h_2 i _ => exact setSlot_playingUploaded uploaded i _ (by simp)
  | playback effectId value now =>
      cases stepped
      exact playback_playingUploaded uploaded effectId value now
  | setAutocenter magnitude =>
      cases stepped
      simp only [State.setAutocenter]
      split <;> exact uploaded
  | autocenterStore value =>
      cases stepped
      simp only [State.autocenterStore]
      split
      · exact uploaded
      · split <;> exact uploaded
  | tfInitDone outcome =>
      simp only [State.step] at stepped
      split at stepped <;> cases stepped
      cases outcome <;> exact uploaded
  | initDone =>
      simp only [State.step] at stepped
      split at stepped <;> cases stepped
      exact uploaded
  | tune | report | workDone | stop => cases stepped; exact uploaded
  | resume index =>
      simp only [State.step, State.resume] at stepped
      split at stepped
      · contradiction
      · cases stepped
        simp only [State.timerKick]
        split <;> exact uploaded
      · split at stepped <;> cases stepped <;> exact uploaded
  | fire | check | leave | sample | readAutocenter | send | rearm | finish =>
      simp only [State.step] at stepped
      exact callback_playingUploaded uploaded (stepCallback_cases stepped)

/-- The engine's invariant behind the wake-up. -/
structure State.WakeInvariant (state : State) : Prop where
  owned : state.TimerOwned
  awake : state.Awake
  uploaded : state.PlayingUploaded

theorem start_wakeInvariant (tunables : Tunables) : (State.start tunables).WakeInvariant :=
  ⟨start_timerOwned tunables, by simp [State.Awake, State.live, State.start],
    by simp [State.PlayingUploaded, State.start, EffectSlot.zero]⟩

theorem reachable_wakeInvariant
    (reachable : (engine kernel).ReachableUnder State.WakesAtInit state) :
    state.WakeInvariant := by
  apply reachable.invariant
  · rintro start ⟨tunables, rfl⟩
    exact start_wakeInvariant tunables
  · intro current event next invariant wakes stepped
    exact ⟨step_timerOwned invariant.owned stepped,
      step_awake invariant.awake invariant.owned invariant.uploaded wakes stepped,
      step_playingUploaded invariant.uploaded stepped⟩

namespace State

/-- No operation and no callback is between its critical sections. -/
def Quiet (state : State) : Prop := state.operations = [] ∧ state.callback = .idle

/-- No wake-up is lost: at rest, what needs the timer has it. -/
def NoLostWakeUp (state : State) : Prop :=
  state.initialized = true → state.stopping = false → state.Quiet →
    (∃ i, (state.effects i).active = true) ∨ state.autocenter ≠ 0 → state.timerArmed = true

/-- The timer is never armed twice: a kick that starts it finds it neither queued nor held by a
callback, and a callback that restarts it finds it neither queued nor open to a kick. -/
def SingleArm (state : State) : Prop :=
  (state.kickStarts = true → state.queued = false ∧ state.callback.holdsTimer = false) ∧
    (state.callback = .returning true → state.queued = false ∧ state.kickStarts = false)

end State

theorem State.TimerOwned.singleArm (owned : state.TimerOwned) : state.SingleArm := by
  constructor
  · intro starts
    simp only [State.kickStarts, Bool.and_eq_true, Bool.not_eq_true'] at starts
    simpa [starts.1] using owned.armed
  · intro returning
    have armed : state.timerArmed = true := by
      simpa [returning, Callback.holdsTimer] using owned.armed
    refine ⟨?_, by simp [State.kickStarts, armed]⟩
    by_contra queued
    simpa [returning, Callback.holdsTimer] using owned.exclusive (by simpa using queued)

/-- In every run whose deferred init completes with nothing owed, no wake-up is lost and the timer
is never armed twice. -/
theorem wakeUp_never_lost (reachable : (engine kernel).ReachableUnder State.WakesAtInit state) :
    state.NoLostWakeUp ∧ state.SingleArm := by
  have invariant := reachable_wakeInvariant reachable
  refine ⟨?_, invariant.owned.singleArm⟩
  intro initialized running quiet needs
  have live : state.live = true := by simp [State.live, initialized, running]
  rcases invariant.awake live (needsTimer_iff.mpr needs) with armed | kick
  · exact armed
  · simp [quiet.1] at kick

/-- Autocenter set on an initialised device and its kick run. -/
theorem wakeUp_never_lost_autocenter : ∃ state : State, state.timerArmed = true ∧
    state.autocenter = 1000 ∧ state.NoLostWakeUp ∧ state.SingleArm := by
  have reached : ∃ state, (engine quarterKernel).run (State.start defaultTunables)
      [.initDone, .setAutocenter 1000, .resume 0] = some state ∧
      state.timerArmed = true ∧ state.autocenter = 1000 := ⟨_, rfl, rfl, rfl⟩
  rcases reached with ⟨state, executed, armed, autocenter⟩
  have reachable : (engine quarterKernel).ReachableUnder State.WakesAtInit state :=
    System.ReachableUnder.run (.of_initial ⟨defaultTunables, rfl⟩) executed
      ⟨by simp [State.WakesAtInit, State.needsTimer, State.start, Effects.anyPlaying,
        EffectSlot.active, EffectSlot.zero], trivial, trivial, trivial⟩
  exact ⟨state, armed, autocenter, wakeUp_never_lost reachable⟩

/-- Autocenter set before the deferred init completes: its kick is refused, and nothing kicks
again. -/
theorem wakeUp_lost : ∃ state, (engine quarterKernel).Reachable state ∧ ¬state.NoLostWakeUp := by
  refine ⟨_, System.Reachable.of_run (State.start defaultTunables)
    [.autocenterStore 30000, .resume 0, .initDone] ⟨_, rfl⟩ rfl, ?_⟩
  intro noLoss
  have armed := noLoss rfl rfl ⟨rfl, rfl⟩ (Or.inr (by decide))
  exact absurd armed (by decide)

end TrueForce.Ffb
