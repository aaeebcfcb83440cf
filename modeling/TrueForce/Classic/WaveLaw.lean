import TrueForce.Classic.IdleSafety
import TrueForce.Classic.Wave

/-!
# The law of the waveforms

Where a periodic effect without an envelope keeps to its magnitude about its offset,
turns with a period of 360 degrees and mirrors with its magnitude; and when its phase
outlasts an upload.
-/

namespace TrueForce.Classic

open TrueForce.CInt TrueForce.Ffb Transition

variable {fixpSin32 : ℤ → ℤ} {state : EffectState} {magnitude phase : ℤ} {now : UInt64}
  {clock : ℕ}

/-- The waveform keeps to the magnitude. -/
def StaysWithin (waveform : Waveform) (magnitude phase : ℤ) : Prop :=
  match waveform with
  | .sine | .square | .other => True
  | .triangle => 0 ≤ magnitude ∧ phase * magnitude * 2 / 360 ≤ 2 * magnitude
  | .sawUp | .sawDown =>
      phase = 0 ∨ 0 ≤ magnitude ∧ phase * magnitude * 2 / 360 ≤ 2 * magnitude

/-- The waveform is the same a whole turn earlier. -/
def Repeats (waveform : Waveform) (magnitude phase : ℤ) : Prop :=
  match waveform with
  | .sine | .other => True
  | .square => magnitude = 0 ∨ phase < 360 ∨ 540 ≤ phase
  | .triangle => magnitude = 0 ∨ phase < 360 ∨
      0 < magnitude ∧ (phase - 360) * magnitude * 2 / 360 = 0
  | .sawUp | .sawDown => magnitude = 0 ∨ phase < 360

/-- The waveform is the mirror of the one with the opposite magnitude. -/
def Mirrors (waveform : Waveform) (magnitude phase : ℤ) : Prop :=
  match waveform with
  | .sine | .square | .other => True
  | .triangle => magnitude = 0
  | .sawUp | .sawDown => magnitude = 0 ∨ phase = 0

namespace EffectState

section Deviation

variable (short : Short magnitude) (begun : 0 ≤ phase) (turns : phase < 720)

include short begun turns

theorem sawOf_cases :
    (0 ≤ magnitude ∧ sawOf phase magnitude = phase * magnitude * 2 / 360 ∧
        0 ≤ phase * magnitude) ∨
      (magnitude < 0 ∧ phase = 0 ∧ sawOf phase magnitude = 0) ∨
      (magnitude < 0 ∧ 0 < phase ∧ 11700000 ≤ sawOf phase magnitude) := by
  simp only [Short] at short
  by_cases positive : 0 ≤ magnitude
  · left
    have low : 0 ≤ phase * magnitude := Int.mul_nonneg begun positive
    have high : phase * magnitude ≤ 720 * 0x7fff :=
      Int.mul_le_mul (by omega) short.2 positive (by decide)
    simp only [sawOf]
    omega
  · right
    by_cases still : phase = 0
    · left
      refine ⟨by omega, still, ?_⟩
      rw [still, sawOf, Int.zero_mul]
      rfl
    · right
      have low : phase * (-magnitude) ≤ 720 * 0x8000 :=
        Int.mul_le_mul (by omega) (by omega) (by omega) (by decide)
      have high : 0 < phase * (-magnitude) := Int.mul_pos (by omega) (by omega)
      rw [Int.mul_neg] at low high
      simp only [sawOf]
      omega

theorem deviation_within (sine : KernelSine fixpSin32) (waveform : Waveform) :
    (deviation fixpSin32 waveform magnitude phase).natAbs ≤ magnitude.natAbs ↔
      StaysWithin waveform magnitude phase := by
  have saws := sawOf_cases short begun turns
  cases waveform with
  | sine => simp only [deviation, StaysWithin, (sine_bounds sine phase magnitude).2]
  | square =>
      simp only [deviation, StaysWithin, iff_true]
      split
      · omega
      · omega
  | triangle =>
      simp only [deviation, StaysWithin]
      omega
  | sawUp =>
      simp only [deviation, StaysWithin]
      have still : phase = 0 → phase * magnitude = 0 := by
        rintro rfl
        exact Int.zero_mul _
      omega
  | sawDown =>
      simp only [deviation, StaysWithin]
      have still : phase = 0 → phase * magnitude = 0 := by
        rintro rfl
        exact Int.zero_mul _
      omega
  | other => simp only [deviation, StaysWithin, Int.natAbs_zero, Nat.zero_le]

/-- A whole turn more adds twice the magnitude to a saw, but for the start of a negative one. -/
theorem sawOf_turn (more : 360 ≤ phase) :
    (sawOf phase magnitude = sawOf (phase - 360) magnitude + 2 * magnitude ∧
        (magnitude < 0 → 360 < phase)) ∨
      (magnitude < 0 ∧ phase = 360) := by
  have earlier := @sawOf_cases magnitude (phase - 360) short (by omega) (by omega)
  have now := sawOf_cases short begun turns
  have product : phase * magnitude = (phase - 360) * magnitude + 360 * magnitude := by ring
  simp only [Short] at short
  by_cases positive : 0 ≤ magnitude
  · left
    omega
  · by_cases start : phase = 360
    · right
      omega
    · left
      have low : (phase - 360) * (-magnitude) ≤ 360 * 0x8000 :=
        Int.mul_le_mul (by omega) (by omega) (by omega) (by decide)
      have high : 0 < (phase - 360) * (-magnitude) := Int.mul_pos (by omega) (by omega)
      rw [Int.mul_neg] at low high
      simp only [sawOf]
      omega

theorem deviation_repeats (sine : KernelSine fixpSin32) (waveform : Waveform) :
    deviation fixpSin32 waveform magnitude (phase % 360) =
        deviation fixpSin32 waveform magnitude phase ↔
      Repeats waveform magnitude phase := by
  by_cases first : phase < 360
  · rw [Int.emod_eq_of_lt begun first]
    cases waveform with
    | sine | other => simp only [Repeats]
    | square | triangle | sawUp | sawDown =>
        simp only [Repeats, first, true_or, or_true]
  · have earlier := @sawOf_cases magnitude (phase - 360) short (by omega) (by omega)
    have now := sawOf_cases short begun turns
    have turn := sawOf_turn short begun turns (by omega)
    have reduced : phase % 360 = phase - 360 := by omega
    cases waveform with
    | sine =>
        simp only [deviation, Repeats, fixpSin16, Int.emod_emod, sine.repeats]
    | square =>
        simp only [deviation, Repeats, reduced]
        have late : ¬phase < 180 := by omega
        rw [if_neg late]
        split
        · omega
        · omega
    | triangle =>
        simp only [deviation, Repeats, reduced]
        omega
    | sawUp =>
        simp only [deviation, Repeats, reduced]
        omega
    | sawDown =>
        simp only [deviation, Repeats, reduced]
        omega
    | other => simp only [deviation, Repeats]

theorem deviation_mirrors (opposite : Short (-magnitude)) (waveform : Waveform) :
    (deviation fixpSin32 waveform magnitude phase +
        deviation fixpSin32 waveform (-magnitude) phase).natAbs ≤ 1 ↔
      Mirrors waveform magnitude phase := by
  have saws := sawOf_cases short begun turns
  have mirrored := sawOf_cases opposite begun turns
  rw [Int.mul_neg] at mirrored
  have still : phase = 0 → phase * magnitude = 0 := by
    rintro rfl
    exact Int.zero_mul _
  cases waveform with
  | sine =>
      simp only [deviation, Mirrors, Int.mul_neg, Int.neg_tdiv, Int.add_right_neg, Int.natAbs_zero,
        Nat.zero_le]
  | square =>
      simp only [deviation, Mirrors, Int.mul_neg, Int.add_right_neg, Int.natAbs_zero, Nat.zero_le]
  | triangle =>
      simp only [deviation, Mirrors]
      omega
  | sawUp =>
      simp only [deviation, Mirrors]
      omega
  | sawDown =>
      simp only [deviation, Mirrors]
      omega
  | other => simp only [deviation, Mirrors, Int.add_zero, Int.natAbs_zero, Nat.zero_le]

end Deviation

/-- An elapsed time in whole degrees of a turn. -/
def degrees (elapsed : UInt64) (period : UInt16) : ℕ :=
  elapsed.toNat % period.toNat * 360 / period.toNat

theorem degrees_lt {period : UInt16} (accepted : period ≠ 0) (elapsed : UInt64) :
    degrees elapsed period < 360 := by
  have positive : 0 < period.toNat := by
    rw [ne_eq, ← UInt16.toNat_inj] at accepted
    exact Nat.pos_of_ne_zero accepted
  have rest := Nat.mod_lt elapsed.toNat positive
  rw [degrees, Nat.div_lt_iff_lt_mul positive]
  omega

theorem phase_elapse {waveform : Waveform} {period phase : UInt16} {magnitude offset : Int16}
    {envelope : Envelope}
    (kind : state.effect.kind = .periodic waveform period magnitude offset phase envelope)
    (accepted : period ≠ 0) (playing : (state.elapse now).flags.playing = true) :
    (state.elapse now).phase.toNat =
      degrees (now - state.updatedAt) period + state.phaseAdj.toNat % 360 := by
  have turned := degrees_lt accepted (now - state.updatedAt)
  have on := (elapse_of_playing playing).2.2.2.2.2
  have positive : 0 < period.toNat := by
    rw [ne_eq, ← UInt16.toNat_inj] at accepted
    exact Nat.pos_of_ne_zero accepted
  have rest := Nat.mod_lt (now - state.updatedAt).toNat positive
  have small := period.toNat_lt
  simp only [elapse, on, if_true, kind, UInt32.toNat_add, UInt32.toNat_mod, UInt64.toNat_toUInt32,
    UInt64.toNat_div, UInt64.toNat_mul, UInt64.toNat_mod, UInt16.toNat_toUInt64,
    UInt32.toNat_ofNat, UInt64.toNat_ofNat, Nat.reducePow, Nat.reduceMod]
  simp only [degrees] at turned ⊢
  have whole : (now - state.updatedAt).toNat % period.toNat * 360 % 18446744073709551616 =
      (now - state.updatedAt).toNat % period.toNat * 360 := by omega
  rw [whole]
  generalize (now - state.updatedAt).toNat % period.toNat * 360 / period.toNat = angle at turned ⊢
  omega

theorem begin_phase (state : EffectState) (now : UInt64) :
    (state.begin now).updatedAt = state.updatedAt ∧
      (state.begin now).phaseAdj = state.phaseAdj := by
  simp only [begin]
  split
  · exact ⟨rfl, rfl⟩
  · exact ⟨rfl, rfl⟩

theorem elapse_phase (state : EffectState) (now : UInt64) :
    (state.elapse now).updatedAt = state.updatedAt ∧
      (state.elapse now).phaseAdj = state.phaseAdj ∧
      (state.elapse now).flags = state.flags := by
  simp only [elapse]
  split
  · exact ⟨rfl, rfl, rfl⟩
  · exact ⟨rfl, rfl, rfl⟩

theorem begin_updating (state : EffectState) (now : UInt64) :
    (state.begin now).flags.updating = state.flags.updating := by
  simp only [begin]
  split
  · rfl
  · rfl

/-- A tick leaves no update to be taken, and a phase that goes with its own fields. -/
theorem phase_of_playing {waveform : Waveform} {period phase : UInt16}
    {magnitude offset : Int16} {envelope : Envelope}
    (kind : state.effect.kind = .periodic waveform period magnitude offset phase envelope)
    (accepted : period ≠ 0)
    (playing : (state.updateState fixpSin32 now).flags.playing = true) :
    (state.updateState fixpSin32 now).flags.updating = false ∧
      (state.updateState fixpSin32 now).phase.toNat =
        degrees (now - (state.updateState fixpSin32 now).updatedAt) period +
          (state.updateState fixpSin32 now).phaseAdj.toNat % 360 := by
  have effect := (takeUpdate_keeps fixpSin32 (state.setAll fixpSin32)).2.1
  have settled : ((state.setAll fixpSin32).takeUpdate fixpSin32).flags.updating = false := by
    simp only [takeUpdate]
    split
    · rfl
    · rename_i off
      exact Bool.eq_false_iff.mpr off
  simp only [updateState] at playing ⊢
  rw [(setAll_keeps fixpSin32 state).2.1] at effect
  generalize (state.setAll fixpSin32).takeUpdate fixpSin32 = middle at effect settled playing ⊢
  have kept := (begin_keeps { middle with slope := middle.rampSlope } now).2.1
  have kind' := (congrArg FfEffect.kind (kept.trans effect)).trans kind
  have fields := elapse_phase (({ middle with slope := middle.rampSlope } : EffectState).begin now)
    now
  refine ⟨?_, ?_⟩
  · rw [fields.2.2, begin_updating]
    exact settled
  · rw [phase_elapse kind' accepted playing, fields.1, fields.2.1]

/-- What the phase is counted from. -/
def basePhase (state : EffectState) : UInt32 :=
  if state.flags.updating then state.phase else state.phaseAdj

theorem phase_updateState {waveform : Waveform} {period phase : UInt16}
    {magnitude offset : Int16} {envelope : Envelope}
    (kind : state.effect.kind = .periodic waveform period magnitude offset phase envelope)
    (accepted : period ≠ 0) (allset : state.flags.allset = true)
    (playing : (state.updateState fixpSin32 now).flags.playing = true) :
    (state.updateState fixpSin32 now).phase.toNat =
      degrees (now - state.updatedAt) period + state.basePhase.toNat % 360 := by
  have set : state.setAll fixpSin32 = state := if_pos allset
  simp only [updateState, set] at playing ⊢
  have taken : (state.takeUpdate fixpSin32).updatedAt = state.updatedAt ∧
      (state.takeUpdate fixpSin32).phaseAdj = state.basePhase := by
    simp only [takeUpdate, basePhase]
    split
    · simp only [kind, and_self]
    · exact ⟨rfl, rfl⟩
  have effect := (takeUpdate_keeps fixpSin32 state).2.1
  generalize state.takeUpdate fixpSin32 = middle at taken effect playing ⊢
  have fields := begin_phase { middle with slope := middle.rampSlope } now
  have kept := (begin_keeps { middle with slope := middle.rampSlope } now).2.1
  have kind' := (congrArg FfEffect.kind (kept.trans effect)).trans kind
  rw [phase_elapse kind' accepted playing, fields.1, fields.2]
  change degrees (now - middle.updatedAt) period + middle.phaseAdj.toNat % 360 = _
  rw [taken.1, taken.2]

/-- What `dd_lg4ff_upload_effect` makes of an effect that is started, when it is the same. -/
def reupload (state : EffectState) (time : UInt64) : EffectState :=
  { state with flags := { state.flags with updating := true }, updatedAt := time }

theorem setAll_updatedAt {fresh : EffectState} (unset : fresh.flags.allset = false)
    (taken : fresh.flags.updating = false) (time : UInt64) :
    ({ fresh with updatedAt := time } : EffectState).setAll fixpSin32 = fresh.setAll fixpSin32 := by
  simp only [setAll, unset, taken, Bool.false_eq_true, if_false]
  rfl

/-- Where a tick begins the effect anew, an upload before it makes no difference. -/
theorem ticked_reupload_of_ends (ends : state.ends now = true)
    (again : (state.renew now).flags.started = true) (time : UInt64) :
    (state.reupload time).ticked fixpSin32 now = state.ticked fixpSin32 now := by
  have ends' : (state.reupload time).ends now = true := ends
  have more : state.count - 1 ≠ 0 := by
    intro last
    simp only [renew, ends, if_true, last] at again
    cases again
  have renewed : (state.reupload time).renew now = { state.renew now with updatedAt := time } := by
    simp only [renew, ends, ends', if_true]
    change (if state.count - 1 = 0 then _ else _) = _
    rw [if_neg more, if_neg more]
    rfl
  have unset : (state.renew now).flags.allset = false ∧
      (state.renew now).flags.updating = false := by
    simp only [renew, ends, if_true, if_neg more]
    exact ⟨rfl, rfl⟩
  simp only [ticked, renewed, again, if_true, updateState]
  rw [setAll_updatedAt unset.1 unset.2]

theorem renew_of_lasts (lasts : state.ends now = false) : state.renew now = state := by
  simp only [renew, lasts, Bool.false_eq_true, if_false]

/-- The phase after an upload of the same effect, and without it. -/
theorem phase_reupload {waveform : Waveform} {period phase : UInt16} {magnitude offset : Int16}
    {envelope : Envelope}
    (kind : state.effect.kind = .periodic waveform period magnitude offset phase envelope)
    (accepted : period ≠ 0) (on : state.flags.started = true) (allset : state.flags.allset = true)
    {time : UInt64} (kept : (state.ticked fixpSin32 now).flags.playing = true)
    (going : (state.ticked fixpSin32 now).flags.started = true)
    (again : ((state.reupload time).ticked fixpSin32 now).flags.playing = true) :
    ((state.reupload time).ticked fixpSin32 now).phase.toNat % 360 =
        (state.ticked fixpSin32 now).phase.toNat % 360 ↔
      state.ends now = true ∨ (degrees (now - time) period + state.phase.toNat) % 360 =
        (degrees (now - state.updatedAt) period + state.basePhase.toNat) % 360 := by
  by_cases ends : state.ends now = true
  · have started : (state.renew now).flags.started = true := by
      by_contra off
      simp only [ticked, if_neg off] at going
      exact off going
    rw [ticked_reupload_of_ends ends started]
    simp only [ends, true_or]
  · have lasts : state.ends now = false := Bool.eq_false_iff.mpr ends
    have lasts' : (state.reupload time).ends now = false := lasts
    have on' : (state.reupload time).flags.started = true := on
    simp only [ticked, renew_of_lasts lasts, renew_of_lasts lasts', on, on', if_true]
      at kept again ⊢
    have first := phase_updateState kind accepted allset kept
    have second := @phase_updateState fixpSin32 (state.reupload time) now waveform period phase
      magnitude offset envelope kind accepted allset again
    change _ = degrees (now - time) period + state.phase.toNat % 360 at second
    rw [first, second, lasts]
    simp only [Bool.false_eq_true, false_or]
    omega

/-- The last of several uploads between two ticks is the one that counts. -/
theorem reupload_foldl (times : List UInt64) (last : UInt64) :
    (times.foldl reupload state).reupload last = state.reupload last := by
  induction times generalizing state with
  | nil => rfl
  | cons time times ih =>
      rw [List.foldl_cons, ih]
      rfl

/-- What `dd_lg4ff_calculate_periodic` computes before the direction gain. -/
def periodicLevel (fixpSin32 : ℤ → ℤ) (state : EffectState) (waveform : Waveform)
    (magnitude offset : Int16) (envelope : Envelope) : Option ℤ := do
  let magnitude ← state.shape envelope magnitude.toInt
  state.wave fixpSin32 waveform magnitude offset.toInt

/-- Without an envelope a periodic effect is its waveform about its offset. -/
theorem periodicLevel_plain (sine : KernelSine fixpSin32) (plays : Plays now state)
    {envelope : Envelope} (flat : envelope.attackLength = 0 ∧ envelope.fadeLength = 0)
    (waveform : Waveform) (magnitude offset : Int16) (phase : UInt32) :
    ({ state with phase } : EffectState).periodicLevel fixpSin32 waveform magnitude offset envelope =
      some (offset.toInt + deviation fixpSin32 waveform magnitude.toInt phase.toNat) := by
  have attacked : envelope.attackLength.toNat ≤ state.timePlaying.toNat := by
    rw [flat.1]
    exact Nat.zero_le _
  have inTime : state.effect.replayLength ≠ 0 →
      state.timePlaying.toNat < state.effect.replayLength.toNat := plays.inTime
  have held : ({ state with phase } : EffectState).fadeSpan envelope = 0 := by
    simp only [fadeSpan, flat.2]
    split
    · rfl
    · rename_i finite
      have ends := inTime finite
      have zero : (0 : UInt16).toNat = 0 := rfl
      omega
  have short := short_toInt magnitude
  have plain := @shape_hold { state with phase } envelope magnitude.toInt inTime attacked held
  simp only [periodicLevel, plain]
  simp only [Short] at short
  exact wave_eq sine waveform (by omega) (short_toInt offset)

/-- What the level at a tick keeps to, of an effect without an envelope. -/
structure LevelLaw (fixpSin32 : ℤ → ℤ) (state : EffectState) (waveform : Waveform)
    (magnitude offset : Int16) (envelope : Envelope) : Prop where
  within : ∃ level, state.periodicLevel fixpSin32 waveform magnitude offset envelope = some level ∧
    ((level - offset.toInt).natAbs ≤ magnitude.toInt.natAbs ↔
      StaysWithin waveform magnitude.toInt state.phase.toNat)
  repeats : ({ state with phase := state.phase % 360 } : EffectState).periodicLevel fixpSin32
        waveform magnitude offset envelope =
      state.periodicLevel fixpSin32 waveform magnitude offset envelope ↔
    Repeats waveform magnitude.toInt state.phase.toNat
  mirrors : ∀ opposite : Int16, opposite.toInt = -magnitude.toInt → ∃ level mirrored,
    state.periodicLevel fixpSin32 waveform magnitude offset envelope = some level ∧
      state.periodicLevel fixpSin32 waveform opposite offset envelope = some mirrored ∧
      (((level - offset.toInt) + (mirrored - offset.toInt)).natAbs ≤ 1 ↔
        Mirrors waveform magnitude.toInt state.phase.toNat)

theorem levelLaw (sine : KernelSine fixpSin32) (plays : Plays now state)
    {envelope : Envelope} (flat : envelope.attackLength = 0 ∧ envelope.fadeLength = 0)
    (turns : state.phase.toNat < 720) (waveform : Waveform) (magnitude offset : Int16) :
    LevelLaw fixpSin32 state waveform magnitude offset envelope := by
  have short := short_toInt magnitude
  have plain := fun magnitude => periodicLevel_plain sine plays flat waveform magnitude offset
    state.phase
  have begun : (0 : ℤ) ≤ state.phase.toNat := Int.natCast_nonneg _
  have inside : (state.phase.toNat : ℤ) < 720 := by omega
  refine ⟨?_, ?_, ?_⟩
  · refine ⟨_, plain magnitude, ?_⟩
    rw [add_sub_cancel_left]
    exact deviation_within short begun inside sine waveform
  · rw [periodicLevel_plain sine plays flat]
    have turned : ((state.phase % 360).toNat : ℤ) = (state.phase.toNat : ℤ) % 360 := rfl
    have same := plain magnitude
    change state.periodicLevel fixpSin32 waveform magnitude offset envelope = _ at same
    rw [same, turned, Option.some.injEq, Int.add_right_inj]
    exact deviation_repeats short begun inside sine waveform
  · intro opposite negated
    refine ⟨_, _, plain magnitude, plain opposite, ?_⟩
    have other := short_toInt opposite
    rw [negated] at other ⊢
    rw [add_sub_cancel_left, add_sub_cancel_left]
    exact deviation_mirrors short begun inside other waveform

/-- An effect that plays has the phase of its last tick. -/
theorem phase_ticked {waveform : Waveform} {period phase : UInt16} {magnitude offset : Int16}
    {envelope : Envelope}
    (kind : state.effect.kind = .periodic waveform period magnitude offset phase envelope)
    (accepted : period ≠ 0) (on : (state.ticked fixpSin32 now).flags.started = true)
    (playing : (state.ticked fixpSin32 now).flags.playing = true) :
    (state.ticked fixpSin32 now).flags.updating = false ∧
      (state.ticked fixpSin32 now).phase.toNat =
        degrees (now - (state.ticked fixpSin32 now).updatedAt) period +
          (state.ticked fixpSin32 now).phaseAdj.toNat % 360 := by
  have renewed := (state.renew_keeps now).2
  simp only [ticked] at on playing ⊢
  by_cases goesOn : (state.renew now).flags.started = true
  · rw [if_pos goesOn] at playing ⊢
    exact phase_of_playing ((congrArg FfEffect.kind renewed).trans kind) accepted playing
  · rw [if_neg goesOn] at on
    exact absurd on goesOn

end EffectState

open EffectState

theorem effect_ticked (fixpSin32 : ℤ → ℤ) (state : EffectState) (now : UInt64) :
    (state.ticked fixpSin32 now).effect = state.effect := by
  simp only [EffectState.ticked]
  split
  · rw [(updateState_keeps fixpSin32 _ now).2.1, (renew_keeps state now).2]
  · rw [(renew_keeps state now).2]

/-- At every tick of every run that a periodic effect plays at: what its level keeps to without an
envelope, and when uploads of the same effect before the next tick leave its phase there. -/
theorem wave_law (sine : KernelSine fixpSin32) {engine : Engine}
    (reachable : (timedSystem fixpSin32).Reachable (engine, clock)) (forward : clock ≤ now.toNat)
    (early : now.toNat < horizon) (id : Fin 16) {waveform : Waveform} {period phase : UInt16}
    {magnitude offset : Int16} {envelope : Envelope}
    (kind : (engine.entry.states id).effect.kind =
      .periodic waveform period magnitude offset phase envelope)
    (on : ((engine.entry.states id).ticked fixpSin32 now).flags.started = true)
    (playing : ((engine.entry.states id).ticked fixpSin32 now).flags.playing = true) :
    (envelope.attackLength = 0 ∧ envelope.fadeLength = 0 →
      LevelLaw fixpSin32 ((engine.entry.states id).ticked fixpSin32 now) waveform magnitude offset
        envelope) ∧
    ∀ (played : EffectState) (uploads : List UInt64) (last next : UInt64),
      played = (engine.entry.states id).ticked fixpSin32 now →
      (played.ticked fixpSin32 next).flags.started = true →
      (played.ticked fixpSin32 next).flags.playing = true →
      (((uploads.foldl reupload played).reupload last).ticked fixpSin32 next).flags.playing = true →
        ((((uploads.foldl reupload played).reupload last).ticked fixpSin32 next).phase.toNat % 360 =
            (played.ticked fixpSin32 next).phase.toNat % 360 ↔
          played.ends next = true ∨
            (degrees (next - last) period + degrees (now - played.updatedAt) period) % 360 =
              degrees (next - played.updatedAt) period) := by
  have plays := plays_of_reachable sine reachable forward early id on playing
  have effect := effect_ticked fixpSin32 (engine.entry.states id) now
  have accepted : period ≠ 0 := by
    have lacks := plays.accepted
    rw [effect, kind] at lacks
    simp only [lacksPeriod, decide_eq_false_iff_not] at lacks
    exact lacks
  have phased := phase_ticked kind accepted on playing
  have turned := degrees_lt accepted (now - ((engine.entry.states id).ticked fixpSin32 now).updatedAt)
  refine ⟨?_, ?_⟩
  · intro flat
    exact levelLaw sine plays flat (by omega) waveform magnitude offset
  · rintro played uploads last next rfl going kept again
    have timed := ((allTimed_reachable sine reachable).1 id).later forward
    have begun := ((timed_ticked sine timed early).1.begun playing).1
    rw [reupload_foldl] at again ⊢
    have total := degrees_lt accepted
      (next - ((engine.entry.states id).ticked fixpSin32 now).updatedAt)
    rw [phase_reupload ((congrArg FfEffect.kind effect).trans kind) accepted on begun kept going
      again]
    simp only [basePhase, phased.1, Bool.false_eq_true, if_false]
    rw [phased.2]
    apply or_congr_right
    omega

def wobble (waveform : Waveform) (magnitude : Int16) (phase : UInt16) : FfEffect where
  kind := .periodic waveform 100 magnitude 0 phase ⟨0, 0, 0, 0⟩
  direction := 0x4000
  replayLength := 0
  replayDelay := 0

/-- The effect is uploaded and started at the time 0, and a callback is about to sample. -/
def startOf (effect : FfEffect) : List TimerEvent :=
  [.upload 0 effect 0, .play 0 1 0, .fire, .look false]

theorem kernelSine_rightAngle : KernelSine sinOfRightAngle := by
  refine ⟨?_, ?_, fun _ => rfl⟩
  · intro _
    simp only [sinOfRightAngle]
    decide
  · intro _ _ _
    simp only [sinOfRightAngle]
    decide

theorem wave_law_square :
    ∃ engine : Engine, (timedSystem sinOfRightAngle).Reachable (engine, 0) ∧
      LevelLaw sinOfRightAngle ((engine.entry.states 0).ticked sinOfRightAngle 10) .square 0x4000 0
        ⟨0, 0, 0, 0⟩ := by
  rcases System.ReachableUnder.of_check (timedSystem sinOfRightAngle) System.anyStep
    (.initial {}, 0) (startOf (wobble .square 0x4000 0))
    (fun pair => pair.2 = 0 ∧
      (pair.1.entry.states 0).effect.kind = (wobble .square 0x4000 0).kind ∧
      ((pair.1.entry.states 0).ticked sinOfRightAngle 10).flags.started = true ∧
      ((pair.1.entry.states 0).ticked sinOfRightAngle 10).flags.playing = true)
    ⟨⟨{}, rfl⟩, by decide⟩ (by decide) (System.runMeets_anyStep _ _) with
    ⟨⟨engine, clock⟩, reachable, checked⟩
  simp only [decide_eq_true_eq] at checked
  rcases checked with ⟨rfl, kind, on, playing⟩
  exact ⟨engine, reachable, (wave_law kernelSine_rightAngle reachable (by decide) (by decide) 0 kind
    on playing).1 ⟨rfl, rfl⟩⟩

/-- A saw with a negative magnitude runs away as soon as its phase leaves 0. -/
theorem negative_saw_runs_away :
    ∃ engine : Engine, (timedSystem sinOfRightAngle).Reachable (engine, 0) ∧
      ((engine.entry.states 0).ticked sinOfRightAngle 10).flags.playing = true ∧
      (engine.entry.states 0).effect = wobble .sawUp (-0x4000) 0 ∧
      ((engine.entry.states 0).ticked sinOfRightAngle 10).periodicLevel sinOfRightAngle .sawUp
        (-0x4000) 0 ⟨0, 0, 0, 0⟩ = some 11943571 := by
  rcases System.ReachableUnder.of_check (timedSystem sinOfRightAngle) System.anyStep
    (.initial {}, 0) (startOf (wobble .sawUp (-0x4000) 0))
    (fun pair => pair.2 = 0 ∧
      ((pair.1.entry.states 0).ticked sinOfRightAngle 10).flags.playing = true ∧
      (pair.1.entry.states 0).effect = wobble .sawUp (-0x4000) 0 ∧
      ((pair.1.entry.states 0).ticked sinOfRightAngle 10).periodicLevel sinOfRightAngle .sawUp
        (-0x4000) 0 ⟨0, 0, 0, 0⟩ = some 11943571)
    ⟨⟨{}, rfl⟩, by decide⟩ (by decide) (System.runMeets_anyStep _ _) with
    ⟨⟨engine, clock⟩, reachable, checked⟩
  simp only [decide_eq_true_eq] at checked
  rcases checked with ⟨rfl, checked⟩
  exact ⟨engine, reachable, checked⟩

end TrueForce.Classic
