import TrueForce.Classic.Ownership
import TrueForce.Classic.Timer
import TrueForce.Foundation.Clock

/-!
# The times of an effect

The engine reads its times from one clock of milliseconds, which never runs back.
Whatever is uploaded, started and stopped, an effect that plays at a tick has begun,
has not come to its end, and its direction is a sine.
-/

namespace TrueForce.Classic

open TrueForce.CInt TrueForce.Ffb Transition

/-- What is known of the kernel's `fixp_sin32`, a sine of degrees scaled to `0x7fffffff`. -/
structure KernelSine (fixpSin32 : ℤ → ℤ) : Prop where
  bounded : ∀ degrees, -0x7fffffff ≤ fixpSin32 degrees ∧ fixpSin32 degrees ≤ 0x7fffffff
  positive : ∀ degrees, 0 ≤ degrees → degrees ≤ 180 → 0 ≤ fixpSin32 degrees
  repeats : ∀ degrees, fixpSin32 (degrees % 360) = fixpSin32 degrees

variable {fixpSin32 : ℤ → ℤ} {state : EffectState} {now : UInt64} {clock : ℕ}

theorem fixpSin16_bounded (sine : KernelSine fixpSin32) (degrees : ℤ) :
    -0x7fff ≤ fixpSin16 fixpSin32 degrees ∧ fixpSin16 fixpSin32 degrees ≤ 0x7fff := by
  simp only [fixpSin16]
  split
  · have low := sine.positive (degrees % 360 - 180) (by omega) (by omega)
    have high := (sine.bounded (degrees % 360 - 180)).2
    omega
  · have low := sine.positive (degrees % 360) (by omega) (by omega)
    have high := (sine.bounded degrees).2
    rw [sine.repeats] at low
    omega

/-- No clock of milliseconds gets as far. -/
def horizon : ℕ := 2 ^ 62

def timeOf : TimerEvent → Option ℕ
  | .upload _ _ now => some now.toNat
  | .play _ _ now => some now.toNat
  | .sample instant => some instant.now.toNat
  | .setGain _ | .setMasterGain _ | .configure .. | .fire | .look _ | .scale | .send | .decide
  | .leave => none

/-- The engine beside its clock. -/
def timedSystem (fixpSin32 : ℤ → ℤ) : System (Engine × ℕ) TimerEvent :=
  (timerSystem fixpSin32).clocked timeOf horizon

theorem timeAfterEq_iff {a b : UInt64} (left : a.toNat < 2 ^ 63) (right : b.toNat < 2 ^ 63) :
    timeAfterEq a b = true ↔ b.toNat ≤ a.toNat := by
  simp only [timeAfterEq, decide_eq_true_eq, UInt64.toNat_sub]
  omega

theorem toNat_add_short {time : UInt64} {span : UInt16} (early : time.toNat < 2 ^ 63) :
    (time + span.toUInt64).toNat = time.toNat + span.toNat := by
  have short := span.toNat_lt
  simp only [UInt64.toNat_add, UInt16.toNat_toUInt64]
  omega

/-- The times of an effect, seen from a clock. -/
structure Timed (clock : ℕ) (state : EffectState) : Prop where
  accepted : lacksPeriod state.effect.kind = false
  on : state.flags.allset = true → state.flags.started = true
  start : state.startAt.toNat ≤ clock
  update : state.flags.updating = true → state.updatedAt.toNat ≤ clock
  play : state.flags.allset = true → state.playAt.toNat ≤ clock + 0xffff
  stop : state.stopAt.toNat ≤ clock + 0x1fffe
  begun : state.flags.playing = true → state.flags.allset = true ∧ state.playAt.toNat ≤ clock
  lasts : state.flags.allset = true → state.flags.updating = false →
    state.effect.replayLength ≠ 0 →
      state.stopAt.toNat ≤ state.playAt.toNat + state.effect.replayLength.toNat
  gain : -0x7fff ≤ state.directionGain ∧ state.directionGain ≤ 0x7fff

theorem Timed.later {after : ℕ} (timed : Timed clock state) (forward : clock ≤ after) :
    Timed after state := by
  refine ⟨timed.accepted, timed.on, ?_, ?_, ?_, ?_, ?_, timed.lasts, timed.gain⟩
  · exact timed.start.trans forward
  · intro updating
    exact (timed.update updating).trans forward
  · intro allset
    have play := timed.play allset
    omega
  · have stop := timed.stop
    omega
  · intro playing
    have begun := timed.begun playing
    exact ⟨begun.1, begun.2.trans forward⟩

theorem timed_zero : Timed clock {} := by
  refine ⟨rfl, ?_, Nat.zero_le _, ?_, ?_, Nat.zero_le _, ?_, ?_, by decide⟩
  all_goals exact fun off => Bool.noConfusion off

section Tick

variable (timed : Timed now.toNat state) (early : now.toNat < horizon)

include timed early

theorem timed_renew : Timed now.toNat (state.renew now) := by
  simp only [EffectState.renew]
  split
  · rename_i ends
    simp only [EffectState.ends, Bool.and_eq_true, decide_eq_true_eq] at ends
    have stop := timed.stop
    simp only [horizon] at early
    have passed := (timeAfterEq_iff (by omega) (by omega)).mp ends.2
    split
    · refine ⟨timed.accepted, ?_, timed.start, ?_, ?_, stop, ?_, ?_, timed.gain⟩
      all_goals exact fun off => Bool.noConfusion off
    · refine ⟨timed.accepted, ?_, passed, ?_, ?_, stop, ?_, ?_, timed.gain⟩
      all_goals exact fun off => Bool.noConfusion off
  · exact timed

theorem timed_setAll (sine : KernelSine fixpSin32) (on : state.flags.started = true) :
    Timed now.toNat (state.setAll fixpSin32) ∧ (state.setAll fixpSin32).flags.allset = true := by
  simp only [EffectState.setAll]
  split
  · rename_i allset
    exact ⟨timed, allset⟩
  · rename_i unset
    rw [Bool.not_eq_true] at unset
    simp only [horizon] at early
    have start := timed.start
    have delay := state.effect.replayDelay.toNat_lt
    have length := state.effect.replayLength.toNat_lt
    have play := @toNat_add_short state.startAt state.effect.replayDelay (by omega)
    have stop := @toNat_add_short (state.startAt + state.effect.replayDelay.toUInt64)
      state.effect.replayLength (by omega)
    have before := timed.stop
    refine ⟨⟨timed.accepted, fun _ => on, start, ?_, ?_, ?_, ?_, ?_, fixpSin16_bounded sine _⟩, rfl⟩
    · intro updating
      simp only at updating ⊢
      rw [if_pos updating]
      exact timed.update updating
    · intro _
      simp only
      omega
    · simp only [EffectState.stopFrom]
      split
      · exact before
      · omega
    · intro playing
      cases unset.symm.trans (timed.begun playing).1
    · intro _ _ finite
      simp only [EffectState.stopFrom]
      rw [if_neg finite]
      omega

theorem timed_takeUpdate (sine : KernelSine fixpSin32) (allset : state.flags.allset = true) :
    Timed now.toNat (state.takeUpdate fixpSin32) ∧
      (state.takeUpdate fixpSin32).flags.updating = false ∧
      (state.takeUpdate fixpSin32).flags.allset = true ∧
      ((state.takeUpdate fixpSin32).flags.playing = true →
        state.takeUpdate fixpSin32 = state) := by
  simp only [EffectState.takeUpdate]
  split
  · rename_i updating
    simp only [horizon] at early
    have update := timed.update updating
    have delay := state.effect.replayDelay.toNat_lt
    have length := state.effect.replayLength.toNat_lt
    have play := @toNat_add_short state.updatedAt state.effect.replayDelay (by omega)
    have stop := @toNat_add_short state.updatedAt state.effect.replayLength (by omega)
    have before := timed.stop
    refine ⟨⟨timed.accepted, timed.on, timed.start, ?_, ?_, ?_, ?_, ?_, fixpSin16_bounded sine _⟩,
      rfl, allset, ?_⟩
    · exact fun off => Bool.noConfusion off
    · intro _
      simp only
      omega
    · simp only [EffectState.stopFrom]
      split
      · exact before
      · omega
    · exact fun off => Bool.noConfusion off
    · intro _ _ finite
      simp only [EffectState.stopFrom]
      rw [if_neg finite]
      omega
    · exact fun off => Bool.noConfusion off
  · rename_i unchanged
    exact ⟨timed, Bool.eq_false_iff.mpr unchanged, allset, fun _ => rfl⟩

end Tick

/-- An effect that plays at a tick, as the tick has left it. -/
structure Plays (now : UInt64) (state : EffectState) : Prop where
  accepted : lacksPeriod state.effect.kind = false
  time : state.timePlaying = now - state.playAt
  early : state.timePlaying.toNat < horizon
  inTime : state.effect.replayLength ≠ 0 →
    state.timePlaying.toNat < state.effect.replayLength.toNat
  slope : state.slope = state.rampSlope
  gain : -0x7fff ≤ state.directionGain ∧ state.directionGain ≤ 0x7fff

/-- What a tick makes of an effect that is started. -/
def EffectState.ticked (fixpSin32 : ℤ → ℤ) (state : EffectState) (now : UInt64) : EffectState :=
  if (state.renew now).flags.started then (state.renew now).updateState fixpSin32 now
  else state.renew now

theorem timed_begin (timed : Timed now.toNat state) (early : now.toNat < horizon)
    (allset : state.flags.allset = true) (taken : state.flags.updating = false)
    (passed : state.flags.playing = true → state.effect.replayLength ≠ 0 →
      now.toNat < state.stopAt.toNat) :
    Timed now.toNat (state.begin now) ∧
      ((state.begin now).flags.playing = true → state.playAt.toNat ≤ now.toNat ∧
        (state.effect.replayLength ≠ 0 →
          now.toNat < state.playAt.toNat + state.effect.replayLength.toNat)) := by
  have play := timed.play allset
  have stop := timed.stop
  have lasts := timed.lasts allset taken
  simp only [horizon] at early
  simp only [EffectState.begin]
  split
  · rename_i comes
    simp only [Bool.and_eq_true, Bool.or_eq_true, decide_eq_true_eq, Bool.not_eq_true',
      Bool.eq_false_iff, ne_eq, timeAfterEq_iff (show now.toNat < 2 ^ 63 by omega)
      (show state.playAt.toNat < 2 ^ 63 by omega), timeAfterEq_iff (show now.toNat < 2 ^ 63 by omega)
      (show state.stopAt.toNat < 2 ^ 63 by omega)] at comes
    refine ⟨⟨timed.accepted, timed.on, timed.start, timed.update, timed.play, stop, ?_,
      timed.lasts, timed.gain⟩, ?_⟩
    · exact fun _ => ⟨allset, comes.1.2⟩
    · intro _
      refine ⟨comes.1.2, ?_⟩
      intro finite
      have ends := lasts finite
      have before := comes.2.resolve_left finite
      omega
  · refine ⟨timed, ?_⟩
    intro playing
    refine ⟨(timed.begun playing).2, ?_⟩
    intro finite
    have ends := lasts finite
    have before := passed playing finite
    omega

theorem begin_fields (state : EffectState) (now : UInt64) :
    (state.begin now).playAt = state.playAt ∧ (state.begin now).effect = state.effect ∧
      (state.begin now).slope = state.slope ∧
      (state.begin now).directionGain = state.directionGain := by
  simp only [EffectState.begin]
  split
  · exact ⟨rfl, rfl, rfl, rfl⟩
  · exact ⟨rfl, rfl, rfl, rfl⟩

theorem elapse_of_playing (playing : (state.elapse now).flags.playing = true) :
    (state.elapse now).timePlaying = now - state.playAt ∧
      (state.elapse now).playAt = state.playAt ∧ (state.elapse now).effect = state.effect ∧
      (state.elapse now).slope = state.slope ∧
      (state.elapse now).directionGain = state.directionGain ∧ state.flags.playing = true := by
  simp only [EffectState.elapse] at playing ⊢
  split
  · rename_i on
    exact ⟨rfl, rfl, rfl, rfl, rfl, on⟩
  · rename_i off
    rw [if_neg off] at playing
    exact absurd playing off

theorem timed_elapse (timed : Timed clock state) : Timed clock (state.elapse now) := by
  simp only [EffectState.elapse]
  split
  · exact ⟨timed.accepted, timed.on, timed.start, timed.update, timed.play, timed.stop,
      timed.begun, timed.lasts, timed.gain⟩
  · exact timed

/-- An effect whose end has come is not left as it was. -/
theorem renew_of_allset (timed : Timed now.toNat state) (early : now.toNat < horizon)
    (allset : (state.renew now).flags.allset = true) :
    state.renew now = state ∧
      (state.effect.replayLength ≠ 0 → now.toNat < state.stopAt.toNat) := by
  have stop := timed.stop
  simp only [horizon] at early
  by_cases ends : state.ends now = true
  · simp only [EffectState.renew, ends, if_true] at allset
    split at allset
    · cases allset
    · cases allset
  · simp only [EffectState.renew, if_neg ends, true_and] at allset ⊢
    intro finite
    simp only [EffectState.ends, allset, ne_eq, finite, not_false_eq_true, decide_true,
      Bool.true_and] at ends
    rw [timeAfterEq_iff (by omega) (by omega)] at ends
    omega

theorem setAll_of_playing (timed : Timed clock state) (fixpSin32 : ℤ → ℤ)
    (playing : (state.setAll fixpSin32).flags.playing = true) :
    state.setAll fixpSin32 = state := by
  simp only [EffectState.setAll] at playing ⊢
  split
  · rfl
  · rename_i unset
    rw [if_neg unset] at playing
    exact absurd (timed.begun playing).1 unset

theorem rampSlope_congr {other : EffectState} (same : other.effect = state.effect) :
    other.rampSlope = state.rampSlope := by
  simp only [EffectState.rampSlope, same]

theorem timed_updateState (sine : KernelSine fixpSin32) (timed : Timed now.toNat state)
    (early : now.toNat < horizon) (on : state.flags.started = true)
    (passed : state.flags.allset = true → state.effect.replayLength ≠ 0 →
      now.toNat < state.stopAt.toNat) :
    Timed now.toNat (state.updateState fixpSin32 now) ∧
      ((state.updateState fixpSin32 now).flags.playing = true →
        Plays now (state.updateState fixpSin32 now)) := by
  have first := timed_setAll timed early sine on
  have second := timed_takeUpdate first.1 early sine first.2
  have kept := setAll_of_playing timed fixpSin32
  simp only [EffectState.updateState]
  generalize taken : (state.setAll fixpSin32).takeUpdate fixpSin32 = middle at second ⊢
  rcases second with ⟨held, settled, allset, untouched⟩
  have sloped : Timed now.toNat { middle with slope := middle.rampSlope } :=
    ⟨held.accepted, held.on, held.start, held.update, held.play, held.stop, held.begun,
      held.lasts, held.gain⟩
  have begun := timed_begin sloped early allset settled (by
    intro playing finite
    have same := untouched playing
    rw [same] at playing
    have unchanged := same.trans (kept playing)
    rw [unchanged] at finite allset
    change now.toNat < middle.stopAt.toNat
    rw [unchanged]
    exact passed allset finite)
  refine ⟨timed_elapse begun.1, ?_⟩
  intro playing
  have inside := begun.2 (elapse_of_playing playing).2.2.2.2.2
  rcases elapse_of_playing playing with ⟨time, play, effect, slope, gain, -⟩
  rcases begin_fields { middle with slope := middle.rampSlope } now with
    ⟨same1, same2, same3, same4⟩
  rw [same1] at time play
  rw [same2] at effect
  rw [same3] at slope
  rw [same4] at gain
  have since : middle.playAt.toNat ≤ now.toNat := inside.1
  have past : (now - middle.playAt).toNat = now.toNat - middle.playAt.toNat :=
    UInt64.toNat_sub_of_le _ _ (UInt64.le_iff_toNat_le.mpr since)
  refine ⟨?_, ?_, ?_, ?_, ?_, ?_⟩
  · rw [effect]
    exact held.accepted
  · rw [time, play]
  · rw [time]
    change (now - middle.playAt).toNat < horizon
    omega
  · rw [time, effect]
    change middle.effect.replayLength ≠ 0 →
      (now - middle.playAt).toNat < middle.effect.replayLength.toNat
    intro finite
    have ends := inside.2 finite
    change now.toNat < middle.playAt.toNat + middle.effect.replayLength.toNat at ends
    omega
  · rw [slope, rampSlope_congr effect]
    rfl
  · rw [gain]
    exact held.gain

theorem timed_ticked (sine : KernelSine fixpSin32) (timed : Timed now.toNat state)
    (early : now.toNat < horizon) :
    Timed now.toNat (state.ticked fixpSin32 now) ∧
      ((state.ticked fixpSin32 now).flags.started = true →
        (state.ticked fixpSin32 now).flags.playing = true →
          Plays now (state.ticked fixpSin32 now)) := by
  have renewed := timed_renew timed early
  simp only [EffectState.ticked]
  split
  · rename_i on
    have updated := timed_updateState sine renewed early on (by
      intro allset finite
      have same := renew_of_allset timed early allset
      rw [same.1] at finite ⊢
      exact same.2 finite)
    exact ⟨updated.1, fun _ => updated.2⟩
  · rename_i off
    exact ⟨renewed, fun on => absurd on off⟩

theorem states_sampleEffect (instant : Instant) (sampling : Sampling) (id : Fin 16) :
    (sampleEffect fixpSin32 instant sampling id).entry.states = sampling.entry.states ∨
      (sampleEffect fixpSin32 instant sampling id).entry.states =
        Function.update sampling.entry.states id
          ((sampling.entry.states id).ticked fixpSin32 instant.now) := by
  simp only [sampleEffect, EffectState.ticked]
  split
  · exact .inl rfl
  · split
    · exact .inl rfl
    · right
      split
      · rfl
      · rfl

/-- The times of all effects. -/
def AllTimed (engine : Engine) (clock : ℕ) : Prop := ∀ id, Timed clock (engine.entry.states id)

theorem timed_update {states : Fin 16 → EffectState} {id : Fin 16}
    (before : ∀ id, Timed clock (states id)) (timed : Timed clock state) :
    ∀ other, Timed clock (Function.update states id state other) := by
  intro other
  rw [Function.update_apply]
  split
  · exact timed
  · exact before other

theorem timed_sample (sine : KernelSine fixpSin32) {instant : Instant} {entry : Entry}
    (before : ∀ id, Timed instant.now.toNat (entry.states id))
    (early : instant.now.toNat < horizon) :
    ∀ id, Timed instant.now.toNat ((sample fixpSin32 instant entry).entry.states id) := by
  have fold : ∀ (ids : List (Fin 16)) (sampling : Sampling),
      (∀ id, Timed instant.now.toNat (sampling.entry.states id)) →
        ∀ id, Timed instant.now.toNat
          ((ids.foldl (sampleEffect fixpSin32 instant) sampling).entry.states id) := by
    intro ids
    induction ids with
    | nil => exact fun _ held => held
    | cons first ids ih =>
        intro sampling held
        apply ih
        rcases @states_sampleEffect fixpSin32 instant sampling first with
          same | same
        · rw [same]
          exact held
        · rw [same]
          exact timed_update held (timed_ticked sine (held first) early).1
  exact fold _ _ before

theorem timed_upload {entry next : Entry} {id : Fin 16} {effect : FfEffect}
    (before : ∀ id, Timed now.toNat (entry.states id))
    (uploaded : entry.uploadEffect id effect now = some next) :
    ∀ other, Timed now.toNat (next.states other) := by
  have held := before id
  simp only [Entry.uploadEffect] at uploaded
  split at uploaded
  · cases uploaded
  · rename_i accepted
    rw [Bool.not_eq_true] at accepted
    split at uploaded
    · cases uploaded
    · split at uploaded
      · cases uploaded
        apply timed_update before
        refine ⟨accepted, held.on, held.start, fun _ => Nat.le_refl _, held.play, held.stop,
          held.begun, ?_, held.gain⟩
        exact fun _ off => Bool.noConfusion off
      · rename_i off
        cases uploaded
        apply timed_update before
        refine ⟨accepted, held.on, held.start, held.update, held.play, held.stop,
          held.begun, ?_, held.gain⟩
        exact fun allset => absurd (held.on allset) off

theorem timed_stop (timed : Timed clock state) : Timed clock state.stopEffect := by
  refine ⟨timed.accepted, ?_, timed.start, ?_, ?_, timed.stop, ?_, ?_, timed.gain⟩
  all_goals exact fun off => Bool.noConfusion off

theorem timed_start (timed : Timed now.toNat state) (value : ℤ) :
    Timed now.toNat (state.start value now) :=
  ⟨timed.accepted, fun _ => rfl, Nat.le_refl _, timed.update, timed.play, timed.stop, timed.begun,
    timed.lasts, timed.gain⟩

theorem timed_slot (timed : Timed clock state) (slot : Fin 4) : Timed clock { state with slot } :=
  ⟨timed.accepted, timed.on, timed.start, timed.update, timed.play, timed.stop, timed.begun,
    timed.lasts, timed.gain⟩

theorem timed_play {entry : Entry} {id : Fin 16} {value : ℤ}
    (before : ∀ id, Timed now.toNat (entry.states id)) :
    ∀ other, Timed now.toNat ((entry.playEffect id value now).states other) := by
  have held := before id
  simp only [Entry.playEffect]
  split
  · split
    · rw [states_setState_self, setState_setState]
      exact timed_update before (timed_start (timed_stop held) value)
    · rcases takeSlot_cases { entry with effectsUsed := entry.effectsUsed + 1 } id with
        same | ⟨i, effectType, _, _, _, same⟩
      · rw [same]
        exact timed_update before (timed_start held value)
      · rw [same, setEffectType_setState, states_setState_self, setState_setState]
        exact timed_update before (timed_start (timed_slot held i) value)
  · split
    · split
      · exact timed_update before (timed_stop held)
      · exact timed_update before (timed_slot (timed_stop held) 0)
    · exact before

theorem allTimed_step (sine : KernelSine fixpSin32) {engine next : Engine} {later : ℕ}
    {event : TimerEvent} (held : AllTimed engine clock)
    (moved : (timedSystem fixpSin32).step (engine, clock) event = some (next, later)) :
    AllTimed next later := by
  rcases System.clocked_step_iff.mp moved with ⟨stepped, timely⟩
  clear moved
  cases event with
  | upload id effect now =>
      rcases timely with ⟨forward, _, rfl⟩
      simp only [timerSystem, timerStep, Option.map_eq_some_iff] at stepped
      rcases stepped with ⟨entry, uploaded, rfl⟩
      exact timed_upload (fun id => (held id).later forward) uploaded
  | play id value now =>
      rcases timely with ⟨forward, _, rfl⟩
      cases stepped
      exact timed_play fun id => (held id).later forward
  | sample instant =>
      rcases timely with ⟨forward, early, rfl⟩
      simp only [timerSystem, timerStep] at stepped
      split at stepped
      · cases stepped
        exact timed_sample sine (fun id => (held id).later forward) early
      · cases stepped
  | setGain gain | setMasterGain gain | configure mode msecs =>
      cases timely
      cases stepped
      exact held
  | fire | decide | leave =>
      cases timely
      simp only [timerSystem, timerStep] at stepped
      split at stepped
      · cases stepped
        exact held
      · cases stepped
  | look busy =>
      cases timely
      simp only [timerSystem, timerStep] at stepped
      split at stepped
      · cases stepped
        simp only [Engine.look]
        split
        · exact held
        · exact held
      · cases stepped
  | scale =>
      cases timely
      simp only [timerSystem, timerStep] at stepped
      split at stepped
      · cases stepped
        exact held
      · cases stepped
        exact held
      · cases stepped
  | send =>
      cases timely
      simp only [timerSystem, timerStep] at stepped
      split at stepped
      · cases stepped
        intro id
        rw [pushSlot_states]
        exact held id
      · cases stepped
        exact held
      · cases stepped

theorem allTimed_reachable (sine : KernelSine fixpSin32) {engine : Engine}
    (reachable : (timedSystem fixpSin32).Reachable (engine, clock)) :
    AllTimed engine clock ∧ clock < horizon := by
  apply System.clocked_invariant reachable
  · rintro start first ⟨levels, rfl⟩ _ id
    exact timed_zero
  · intro current first event next last before _ stepped
    exact allTimed_step sine before stepped

/-- An effect that plays at a tick of a run has begun and has not ended. -/
theorem plays_of_reachable (sine : KernelSine fixpSin32) {engine : Engine}
    (reachable : (timedSystem fixpSin32).Reachable (engine, clock))
    (forward : clock ≤ now.toNat) (early : now.toNat < horizon) (id : Fin 16)
    (on : ((engine.entry.states id).ticked fixpSin32 now).flags.started = true)
    (playing : ((engine.entry.states id).ticked fixpSin32 now).flags.playing = true) :
    Plays now ((engine.entry.states id).ticked fixpSin32 now) := by
  have timed := ((allTimed_reachable sine reachable).1 id).later forward
  exact (timed_ticked sine timed early).2 on playing

end TrueForce.Classic
