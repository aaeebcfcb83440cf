import TrueForce.Classic.WaveLaw

/-!
# The law of the classic envelope

What the envelope of the classic engine keeps to at a tick, and the conditions under
which its three formulas for the attack and the fade, the slope of a ramp and the
products of a periodic effect come out right.
-/

namespace TrueForce.Classic

open TrueForce.CInt TrueForce.Ffb TrueForce.Interpolation Transition

variable {fixpSin32 : ℤ → ℤ} {state : EffectState} {now : UInt64} {clock : ℕ}
  {envelope : Envelope} {level startLevel endLevel : ℤ}

namespace EffectState

/-- The largest values that the levels of an effect and of its envelope's windows have. -/
def reach (envelope : Envelope) (startLevel endLevel : ℤ) : List ℕ :=
  [startLevel.natAbs, endLevel.natAbs] ++
    (if envelope.attackLength = 0 then [] else [envelope.attackLevel.toNat]) ++
    if envelope.fadeLength = 0 then [] else [envelope.fadeLevel.toNat]

/-- A level does not have the sign opposite to the effect's. -/
def Agrees (startLevel endLevel level : ℤ) : Prop :=
  (0 ≤ startLevel ∧ 0 ≤ endLevel → 0 ≤ level) ∧ (startLevel < 0 ∧ endLevel < 0 → level ≤ 0)

/-- The effect at another time. -/
def playedFor (state : EffectState) (time : UInt64) : EffectState := { state with timePlaying := time }

/-- What the levels that an envelope shapes keep to, up to the time of a tick. -/
structure Shapes (state : EffectState) (envelope : Envelope) (startLevel endLevel : ℤ)
    (shaped : EffectState → Option ℤ) : Prop where
  value : ∃ level, shaped state = some level ∧ Agrees startLevel endLevel level ∧
    ∃ bound ∈ reach envelope startLevel endLevel, level.natAbs ≤ bound
  attack : state.timePlaying.toNat < envelope.attackLength.toNat →
    shaped (state.playedFor 0) = some (attackFrom envelope startLevel) ∧
      ∀ first ≤ state.timePlaying, ∃ before level, shaped (state.playedFor first) = some before ∧
        shaped state = some level ∧
          Towards (attackFrom envelope startLevel) startLevel before level
  fade : envelope.attackLength.toNat ≤ state.timePlaying.toNat → 0 < state.fadeSpan envelope →
    ∀ first ≤ state.timePlaying, envelope.attackLength.toNat ≤ first.toNat →
      state.effect.replayLength.toNat ≤ first.toNat + envelope.fadeLength.toNat →
        ∃ before level, shaped (state.playedFor first) = some before ∧ shaped state = some level ∧
          Towards endLevel (fadeTo envelope endLevel) before level
  hold : startLevel = endLevel → envelope.attackLength.toNat ≤ state.timePlaying.toNat →
    state.fadeSpan envelope = 0 → shaped state = some startLevel

/-- The envelope comes out right for a constant level. -/
def LevelFits (state : EffectState) (envelope : Envelope) (level : ℤ) : Prop :=
  if state.timePlaying.toNat < envelope.attackLength.toNat then
    state.timePlaying = 0 ∨ AttackHolds envelope level
  else FadeHolds state envelope level

theorem agrees_of_towards {start stop value first : ℤ} (way : Towards start stop first value)
    (sign : (0 ≤ level ∧ 0 ≤ start ∧ 0 ≤ stop) ∨ (level < 0 ∧ start ≤ 0 ∧ stop ≤ 0)) :
    Agrees level level value := by
  have between := way.of_le
  simp only [Agrees]
  omega

theorem bound_of_towards {start stop value first : ℤ} {bounds : List ℕ}
    (way : Towards start stop first value) (begins : start.natAbs ∈ bounds) (ends : stop.natAbs ∈ bounds) :
    ∃ bound ∈ bounds, value.natAbs ≤ bound := by
  have between := way.of_le
  by_cases closer : value.natAbs ≤ start.natAbs
  · exact ⟨_, begins, closer⟩
  · refine ⟨_, ends, ?_⟩
    omega

theorem mem_reach_attack (wide : envelope.attackLength ≠ 0) :
    (attackFrom envelope level).natAbs ∈ reach envelope startLevel endLevel := by
  have size : (attackFrom envelope level).natAbs = envelope.attackLevel.toNat := by
    have cases := attackFrom_cases envelope level
    omega
  rw [size]
  simp only [reach, if_neg wide, List.mem_append, List.mem_singleton, true_or, or_true]

theorem mem_reach_fade (wide : envelope.fadeLength ≠ 0) :
    (fadeTo envelope level).natAbs ∈ reach envelope startLevel endLevel := by
  have size : (fadeTo envelope level).natAbs = envelope.fadeLevel.toNat := by
    have cases := fadeTo_cases envelope level
    omega
  rw [size]
  simp only [reach, if_neg wide, List.mem_append, List.mem_singleton, or_true]

theorem mem_reach_start : startLevel.natAbs ∈ reach envelope startLevel endLevel := by
  simp only [reach, List.cons_append, List.mem_cons, true_or]

theorem mem_reach_end : endLevel.natAbs ∈ reach envelope startLevel endLevel := by
  simp only [reach, List.cons_append, List.mem_cons, true_or, or_true]

theorem toNat_ne_zero {span : UInt16} (positive : 0 < span.toNat) : span ≠ 0 := by
  rintro rfl
  exact Nat.lt_irrefl 0 positive

/-- After the attack the level is on its way to the fade level, or has not set out. -/
theorem shape_after (short : Short level) (holds : FadeHolds state envelope level)
    (inTime : state.effect.replayLength ≠ 0 →
      state.timePlaying.toNat < state.effect.replayLength.toNat)
    (attacked : envelope.attackLength.toNat ≤ state.timePlaying.toNat) :
    state.shape envelope level = some (lerp level (fadeTo envelope level)
      (state.fadeSpan envelope) envelope.fadeLength.toNat) := by
  by_cases fades : 0 < state.fadeSpan envelope
  · exact shape_fade short holds inTime attacked fades
  · have none : state.fadeSpan envelope = 0 := by omega
    rw [none, lerp_zero]
    exact shape_hold inTime attacked none

theorem fadeSpan_mono {first : UInt64} (before : first ≤ state.timePlaying) :
    (state.playedFor first).fadeSpan envelope ≤ state.fadeSpan envelope := by
  rw [UInt64.le_iff_toNat_le] at before
  by_cases endless : state.effect.replayLength = 0
  · simp only [fadeSpan, playedFor, endless, if_true, Nat.le_refl]
  · simp only [fadeSpan, playedFor, endless, if_false]
    omega

/-- The product of the fade fits the sooner, the earlier it is. -/
theorem fadeHolds_mono {first : UInt64} (before : first ≤ state.timePlaying)
    (holds : FadeHolds state envelope level) :
    FadeHolds (state.playedFor first) envelope level := by
  have less : ((state.playedFor first).fadeSpan envelope : ℤ) ≤ state.fadeSpan envelope :=
    Int.ofNat_le.mpr (fadeSpan_mono before)
  simp only [FadeHolds] at holds ⊢
  rcases Int.le_total 0 (level - fadeTo envelope level) with rising | falling
  · have low := Int.mul_nonneg rising
      (Int.natCast_nonneg ((state.playedFor first).fadeSpan envelope))
    have high := Int.mul_le_mul_of_nonneg_left less rising
    omega
  · have low := Int.mul_le_mul_of_nonpos_left falling less
    have high := Int.mul_nonpos_of_nonpos_of_nonneg falling
      (Int.natCast_nonneg ((state.playedFor first).fadeSpan envelope))
    omega

theorem shapes_constant (inTime : state.effect.replayLength ≠ 0 →
      state.timePlaying.toNat < state.effect.replayLength.toNat)
    (short : Short level) (fits : LevelFits state envelope level) :
    Shapes state envelope level level fun state => state.shape envelope level := by
  have early : ∀ first ≤ state.timePlaying, (state.playedFor first).effect.replayLength ≠ 0 →
      (state.playedFor first).timePlaying.toNat <
        (state.playedFor first).effect.replayLength.toNat := by
    intro first before finite
    exact Nat.lt_of_le_of_lt (UInt64.le_iff_toNat_le.mp before) (inTime finite)
  have start := attackFrom_cases envelope level
  have stop := fadeTo_cases envelope level
  by_cases attacks : state.timePlaying.toNat < envelope.attackLength.toNat
  · rw [LevelFits, if_pos attacks] at fits
    have wide := Nat.zero_lt_of_lt attacks
    have value : ∀ first ≤ state.timePlaying, (state.playedFor first).shape envelope level =
        some (lerpFloor (attackFrom envelope level) level first.toNat
          envelope.attackLength.toNat) := by
      intro first before
      rw [UInt64.le_iff_toNat_le] at before
      apply @shape_attack (state.playedFor first) envelope level short
      · rcases fits with still | holds
        · left
          rw [still] at before
          exact Nat.le_zero.mp before
        · exact .inr holds
      · exact Nat.lt_of_le_of_lt before attacks
    have now := value state.timePlaying (UInt64.le_refl _)
    change state.shape envelope level = _ at now
    have way := fun first (before : first ≤ state.timePlaying) =>
      @lerpFloor_towards (attackFrom envelope level) level first.toNat state.timePlaying.toNat
        envelope.attackLength.toNat wide (UInt64.le_iff_toNat_le.mp before) (Nat.le_of_lt attacks)
    refine ⟨⟨_, now, ?_, ?_⟩, ?_, ?_, ?_⟩
    · exact agrees_of_towards (way _ (UInt64.le_refl _)) (by omega)
    · exact bound_of_towards (way _ (UInt64.le_refl _)) (mem_reach_attack (toNat_ne_zero wide))
        mem_reach_start
    · intro _
      have zero := value 0 (UInt64.le_iff_toNat_le.mpr (Nat.zero_le _))
      have none : (0 : UInt64).toNat = 0 := rfl
      rw [none, lerpFloor_zero] at zero
      refine ⟨zero, ?_⟩
      intro first before
      exact ⟨_, _, value first before, now, way first before⟩
    · intro attacked
      omega
    · intro _ attacked
      omega
  · rw [LevelFits, if_neg attacks] at fits
    rw [Nat.not_lt] at attacks
    have window := (@fadeTime_fadeSpan state envelope inTime).2
    have now := shape_after short fits inTime attacks
    have way := fun first (before : first ≤ state.timePlaying)
        (fades : 0 < state.fadeSpan envelope) =>
      @lerp_towards level (fadeTo envelope level) ((state.playedFor first).fadeSpan envelope)
        (state.fadeSpan envelope) envelope.fadeLength.toNat
        (Nat.zero_lt_of_lt (window fades).2) (fadeSpan_mono before) (Nat.le_of_lt (window fades).2)
    refine ⟨⟨_, now, ?_, ?_⟩, ?_, ?_, ?_⟩
    · by_cases fades : 0 < state.fadeSpan envelope
      · exact agrees_of_towards (way _ (UInt64.le_refl _) fades) (by omega)
      · have none : state.fadeSpan envelope = 0 := by omega
        rw [none, lerp_zero]
        simp only [Agrees]
        omega
    · by_cases fades : 0 < state.fadeSpan envelope
      · exact bound_of_towards (way _ (UInt64.le_refl _) fades) mem_reach_start
          (mem_reach_fade (toNat_ne_zero (Nat.zero_lt_of_lt (window fades).2)))
      · have none : state.fadeSpan envelope = 0 := by omega
        rw [none, lerp_zero]
        exact ⟨_, mem_reach_start, Nat.le_refl _⟩
    · intro attacking
      omega
    · intro _ fades first before attacked _
      exact ⟨_, _, shape_after short (fadeHolds_mono before fits) (early first before) attacked,
        now, way first before fades⟩
    · intro _ attacked none
      exact shape_hold inTime attacked none

theorem Shapes.bounded {shaped : EffectState → Option ℤ}
    (shapes : Shapes state envelope startLevel endLevel shaped) (short : Short startLevel)
    (short' : Short endLevel) :
    ∃ level, shaped state = some level ∧ level.natAbs ≤ 0xffff := by
  have attack := envelope.attackLevel.toNat_lt
  have fade := envelope.fadeLevel.toNat_lt
  rcases shapes.value with ⟨level, shaped, _, bound, member, within⟩
  refine ⟨level, shaped, within.trans ?_⟩
  simp only [Short] at short short'
  simp only [reach, List.mem_append, List.mem_cons, List.not_mem_nil, or_false] at member
  rcases member with ((rfl | rfl) | windows) | windows
  · omega
  · omega
  · split at windows
    · cases windows
    · rw [List.mem_singleton] at windows
      omega
  · split at windows
    · cases windows
    · rw [List.mem_singleton] at windows
      omega

theorem applyGain_of_fits (gain : state.directionGain.natAbs * level.natAbs < 0x80000000) :
    (state.applyGain level).isSome = true := by
  have product : (state.directionGain * level).natAbs < 0x80000000 := by
    rw [Int.natAbs_mul]
    exact gain
  have quotient : ((state.directionGain * level).tdiv 0x7fff).natAbs < 0x80000000 := by
    rw [Int.natAbs_tdiv]
    exact Nat.lt_of_le_of_lt (Nat.div_le_self _ _) product
  simp only [applyGain]
  rw [int_of_fits (by omega) (by omega), Option.bind_eq_bind, Option.bind_some,
    divInt_of_fits (by decide) (by omega) (by omega)]
  rfl

theorem applyGain_of_shaped
    (gain : -0x7fff ≤ state.directionGain ∧ state.directionGain ≤ 0x7fff)
    (shaped : level.natAbs ≤ 0xffff) : (state.applyGain level).isSome = true := by
  apply applyGain_of_fits
  have product : state.directionGain.natAbs * level.natAbs ≤ 0x7fff * 0xffff :=
    Nat.mul_le_mul (by omega) shaped
  omega

/-- What `dd_lg4ff_calculate_ramp` computes before the direction gain. -/
def rampLevel (state : EffectState) (startLevel endLevel : Int16) (envelope : Envelope) :
    Option ℤ :=
  let attackLength := envelope.attackLength.toUInt64
  if state.timePlaying < attackLength then do
    let level := startLevel.toInt
    let attack := sign level * envelope.attackLevel.toNat
    let d ← int (level - attack)
    let product ← int (d * toInt (attackLength - state.timePlaying))
    let share ← divInt product envelope.attackLength.toNat
    int (attack + share)
  else if state.effect.replayLength ≠ 0 ∧
      UInt64.ofInt (state.effect.replayLength.toNat - envelope.fadeLength.toNat) ≤
        state.timePlaying then do
    let level := endLevel.toInt
    let d ← int (sign level * envelope.fadeLevel.toNat - level)
    let product ← int (d * state.fadeTime envelope)
    let share ← divInt product envelope.fadeLength.toNat
    int (level - share)
  else do
    let slope ← state.slope
    let product ← int (toInt (state.timePlaying - attackLength) * slope)
    int (startLevel.toInt + product / 2 ^ 16)

theorem calculateRamp_eq (startLevel endLevel : Int16) (envelope : Envelope) :
    state.calculateRamp startLevel endLevel envelope =
      (state.rampLevel startLevel endLevel envelope).bind state.applyGain := by
  simp only [calculateRamp, rampLevel]
  split
  · simp only [Option.bind_eq_bind, Option.bind_assoc]
  · split
    · simp only [Option.bind_eq_bind, Option.bind_assoc]
    · simp only [Option.bind_eq_bind, Option.bind_assoc]

/-- The slope of a ramp is one that C can compute. -/
def SlopeFits (state : EffectState) (startLevel endLevel : ℤ) (envelope : Envelope) : Prop :=
  state.effect.replayLength = 0 ∨
    -0x8000 ≤ endLevel - startLevel ∧ endLevel - startLevel < 0x8000 ∧
      envelope.attackLength.toNat + envelope.fadeLength.toNat ≠ state.effect.replayLength.toNat ∧
      ¬(endLevel - startLevel = -0x8000 ∧
        envelope.attackLength.toNat + envelope.fadeLength.toNat =
          state.effect.replayLength.toNat + 1)

/-- The envelope comes out right for a ramp: the level attacks from where it is, and the fade is
too short to be seen. -/
def RampFits (state : EffectState) (startLevel endLevel : ℤ) (envelope : Envelope) : Prop :=
  SlopeFits state startLevel endLevel envelope ∧
    if state.timePlaying.toNat < envelope.attackLength.toNat then
      attackFrom envelope startLevel = startLevel
    else state.effect.replayLength ≠ 0 →
      envelope.fadeLength.toNat ≤ state.effect.replayLength.toNat ∧
        (state.effect.replayLength.toNat ≤
            state.timePlaying.toNat + envelope.fadeLength.toNat →
          (fadeTo envelope endLevel - endLevel).natAbs * state.fadeSpan envelope <
            envelope.fadeLength.toNat)

/-- The rise is divided, unless the least `int` is by -1. -/
theorem divInt_rise {rise span : ℤ} (low : -0x80000000 ≤ rise) (high : rise < 0x80000000)
    (nonzero : span ≠ 0) (edge : ¬(rise = -0x80000000 ∧ span = -1)) :
    divInt rise span = some (rise.tdiv span) := by
  have size : (rise.tdiv span).natAbs = rise.natAbs / span.natAbs := Int.natAbs_tdiv rise span
  apply divInt_of_fits nonzero
  all_goals
    by_cases unit : span.natAbs = 1
    · rcases Int.natAbs_eq span with positive | negative
      · have one : span = 1 := by omega
        rw [one, Int.tdiv_one]
        omega
      · have one : span = -1 := by omega
        rw [one, Int.tdiv_neg, Int.tdiv_one]
        omega
    · have half : rise.natAbs / span.natAbs ≤ rise.natAbs / 2 :=
        Nat.div_le_div_left (by omega) (by decide)
      omega

theorem rampSlope_of_fits {startLevel endLevel : Int16}
    (kind : state.effect.kind = .ramp startLevel endLevel envelope)
    (fits : SlopeFits state startLevel.toInt endLevel.toInt envelope) :
    state.rampSlope = some (if state.effect.replayLength = 0 then 0 else
      ((endLevel.toInt - startLevel.toInt) * 2 ^ 16).tdiv (state.effect.replayLength.toNat -
        envelope.attackLength.toNat - envelope.fadeLength.toNat)) := by
  simp only [rampSlope, kind]
  by_cases endless : state.effect.replayLength = 0
  · simp only [endless, if_true]
  · simp only [endless, if_false]
    rcases fits with zero | ⟨low, high, apart, edge⟩
    · exact absurd zero endless
    · rw [int_of_fits (by omega) (by omega), Option.bind_eq_bind, Option.bind_some]
      exact divInt_rise (by omega) (by omega) (by omega) (by omega)

/-- The line never leaves the rise. -/
theorem line_bounds {rise span time : ℤ} (begun : 0 ≤ time) (inside : time < span) :
    (0 ≤ rise → 0 ≤ time * rise.tdiv span ∧ time * rise.tdiv span ≤ rise) ∧
      (rise ≤ 0 → rise ≤ time * rise.tdiv span ∧ time * rise.tdiv span ≤ 0) := by
  have climbs : ∀ {rise : ℤ}, 0 ≤ rise →
      0 ≤ time * rise.tdiv span ∧ time * rise.tdiv span ≤ rise := by
    intro rise rising
    have slope : 0 ≤ rise.tdiv span := Int.tdiv_nonneg rising (by omega)
    have less : time * rise.tdiv span ≤ span * rise.tdiv span :=
      Int.mul_le_mul_of_nonneg_right (Int.le_of_lt inside) slope
    have whole : span * rise.tdiv span ≤ rise := by
      rw [Int.tdiv_eq_ediv_of_nonneg rising]
      exact Int.mul_ediv_self_le (by omega)
    exact ⟨Int.mul_nonneg begun slope, less.trans whole⟩
  refine ⟨climbs, ?_⟩
  intro falling
  have mirrored := climbs (Int.neg_nonneg_of_nonpos falling)
  rw [Int.neg_tdiv, Int.mul_neg] at mirrored
  omega

theorem ramp_fades_iff (fits : envelope.fadeLength.toNat ≤ state.effect.replayLength.toNat) :
    UInt64.ofInt (state.effect.replayLength.toNat - envelope.fadeLength.toNat) ≤
        state.timePlaying ↔
      state.effect.replayLength.toNat ≤
        state.timePlaying.toNat + envelope.fadeLength.toNat := by
  have length := state.effect.replayLength.toNat_lt
  have word := toNat_ofInt64 (state.effect.replayLength.toNat - envelope.fadeLength.toNat)
  rw [UInt64.le_iff_toNat_le]
  omega

section Ramp

variable {startLevel endLevel : Int16}

/-- An attack that begins at the level itself has nowhere to go. -/
theorem rampLevel_attack (attacks : state.timePlaying.toNat < envelope.attackLength.toNat)
    (same : attackFrom envelope startLevel.toInt = startLevel.toInt) :
    state.rampLevel startLevel endLevel envelope = some startLevel.toInt := by
  have inside : state.timePlaying < envelope.attackLength.toUInt64 := by
    rw [UInt64.lt_iff_toNat_lt, UInt16.toNat_toUInt64]
    exact attacks
  have short := short_toInt startLevel
  simp only [Short] at short
  simp only [attackFrom] at same
  simp only [rampLevel, if_pos inside, same, Int.sub_self]
  rw [int_of_fits (by decide) (by decide), Option.bind_eq_bind, Option.bind_some, Int.zero_mul,
    int_of_fits (by decide) (by decide), Option.bind_some,
    divInt_of_fits (by omega) (by rw [Int.zero_tdiv]; decide) (by rw [Int.zero_tdiv]; decide),
    Option.bind_some, Int.zero_tdiv, Int.add_zero]
  exact int_of_fits (by omega) (by omega)

theorem rampLevel_fade (attacked : envelope.attackLength.toNat ≤ state.timePlaying.toNat)
    (finite : state.effect.replayLength ≠ 0)
    (inTime : state.timePlaying.toNat < state.effect.replayLength.toNat)
    (fits : envelope.fadeLength.toNat ≤ state.effect.replayLength.toNat)
    (fades : state.effect.replayLength.toNat ≤
      state.timePlaying.toNat + envelope.fadeLength.toNat)
    (unseen : (fadeTo envelope endLevel.toInt - endLevel.toInt).natAbs *
      state.fadeSpan envelope < envelope.fadeLength.toNat) :
    state.rampLevel startLevel endLevel envelope = some endLevel.toInt := by
  have outside : ¬state.timePlaying < envelope.attackLength.toUInt64 := by
    rw [UInt64.lt_iff_toNat_lt, UInt16.toNat_toUInt64]
    omega
  have window : state.effect.replayLength ≠ 0 ∧
      UInt64.ofInt (state.effect.replayLength.toNat - envelope.fadeLength.toNat) ≤
        state.timePlaying := ⟨finite, (ramp_fades_iff fits).mpr fades⟩
  have time : state.fadeTime envelope = state.fadeSpan envelope := by
    have early := @fadeTime_eq state envelope inTime
    simp only [fadeSpan, finite, if_false]
    omega
  have short := short_toInt endLevel
  have stop := fadeTo_cases envelope endLevel.toInt
  have level := envelope.fadeLevel.toNat_lt
  have length := envelope.fadeLength.toNat_lt
  simp only [Short] at short
  have size : ((fadeTo envelope endLevel.toInt - endLevel.toInt) *
      state.fadeSpan envelope).natAbs < envelope.fadeLength.toNat := by
    rw [Int.natAbs_mul]
    exact unseen
  have none : ((fadeTo envelope endLevel.toInt - endLevel.toInt) *
      state.fadeSpan envelope).tdiv envelope.fadeLength.toNat = 0 := by
    rw [← Int.natAbs_eq_zero, Int.natAbs_tdiv]
    exact Nat.div_eq_of_lt size
  simp only [rampLevel, if_neg outside, if_pos window, time]
  simp only [fadeTo] at none size stop
  rw [int_of_fits (by omega) (by omega), Option.bind_eq_bind, Option.bind_some,
    int_of_fits (by omega) (by omega), Option.bind_some,
    divInt_of_fits (by omega) (by omega) (by omega), Option.bind_some, none, Int.sub_zero]
  exact int_of_fits (by omega) (by omega)

/-- Between its attack and its fade a ramp stays between its levels, and one without an end where
it began. -/
theorem rampLevel_line (attacked : envelope.attackLength.toNat ≤ state.timePlaying.toNat)
    (kind : state.effect.kind = .ramp startLevel endLevel envelope)
    (sloped : state.slope = state.rampSlope)
    (fits : SlopeFits state startLevel.toInt endLevel.toInt envelope)
    (lasts : state.effect.replayLength ≠ 0 →
      state.timePlaying.toNat + envelope.fadeLength.toNat < state.effect.replayLength.toNat) :
    ∃ level, state.rampLevel startLevel endLevel envelope = some level ∧
      Towards startLevel.toInt endLevel.toInt level level := by
  have outside : ¬state.timePlaying < envelope.attackLength.toUInt64 := by
    rw [UInt64.lt_iff_toNat_lt, UInt16.toNat_toUInt64]
    omega
  have short := short_toInt startLevel
  have short' := short_toInt endLevel
  simp only [Short] at short short'
  rw [rampSlope_of_fits kind fits] at sloped
  by_cases endless : state.effect.replayLength = 0
  · refine ⟨startLevel.toInt, ?_, ?_⟩
    · simp only [rampLevel, if_neg outside, endless, ne_eq, not_true_eq_false, false_and, if_false,
        sloped, if_true]
      rw [Option.bind_eq_bind, Option.bind_some, Int.mul_zero, int_of_fits (by decide) (by decide),
        Option.bind_some, Int.zero_ediv, Int.add_zero]
      exact int_of_fits (by omega) (by omega)
    · simp only [Towards]
      omega
  · have ends := lasts endless
    have small := state.effect.replayLength.toNat_lt
    have unfaded : ¬(state.effect.replayLength ≠ 0 ∧
        UInt64.ofInt (state.effect.replayLength.toNat - envelope.fadeLength.toNat) ≤
          state.timePlaying) := by
      rw [ramp_fades_iff (by omega)]
      omega
    have time : toInt (state.timePlaying - envelope.attackLength.toUInt64) =
        state.timePlaying.toNat - envelope.attackLength.toNat := by
      simp only [toInt, s32, UInt64.toNat_sub, UInt16.toNat_toUInt64]
      omega
    have line := @line_bounds ((endLevel.toInt - startLevel.toInt) * 2 ^ 16)
      (state.effect.replayLength.toNat - envelope.attackLength.toNat -
        envelope.fadeLength.toNat)
      (state.timePlaying.toNat - envelope.attackLength.toNat) (by omega) (by omega)
    rcases fits with zero | ⟨low, high, _, _⟩
    · exact absurd zero endless
    · simp only [rampLevel, if_neg outside, if_neg unfaded, sloped, endless, if_false, time,
        Option.bind_eq_bind, Option.bind_some]
      generalize ((state.timePlaying.toNat : ℤ) - envelope.attackLength.toNat) *
        ((endLevel.toInt - startLevel.toInt) * 2 ^ 16).tdiv (state.effect.replayLength.toNat -
          envelope.attackLength.toNat - envelope.fadeLength.toNat) = covered at line ⊢
      refine ⟨startLevel.toInt + covered / 2 ^ 16, ?_, ?_⟩
      · rw [int_of_fits (by omega) (by omega), Option.bind_some]
        exact int_of_fits (by omega) (by omega)
      · simp only [Towards]
        omega

theorem shapes_ramp (inTime : state.effect.replayLength ≠ 0 →
      state.timePlaying.toNat < state.effect.replayLength.toNat)
    (kind : state.effect.kind = .ramp startLevel endLevel envelope)
    (sloped : state.slope = state.rampSlope)
    (fits : RampFits state startLevel.toInt endLevel.toInt envelope) :
    Shapes state envelope startLevel.toInt endLevel.toInt fun state =>
      state.rampLevel startLevel endLevel envelope := by
  rcases fits with ⟨slope, fits⟩
  by_cases attacks : state.timePlaying.toNat < envelope.attackLength.toNat
  · rw [if_pos attacks] at fits
    have value : ∀ first ≤ state.timePlaying,
        (state.playedFor first).rampLevel startLevel endLevel envelope =
          some startLevel.toInt := by
      intro first before
      apply @rampLevel_attack (state.playedFor first) envelope startLevel endLevel _ fits
      exact Nat.lt_of_le_of_lt (UInt64.le_iff_toNat_le.mp before) attacks
    have now := value state.timePlaying (UInt64.le_refl _)
    change state.rampLevel startLevel endLevel envelope = _ at now
    have zero := value 0 (UInt64.le_iff_toNat_le.mpr (Nat.zero_le _))
    refine ⟨⟨_, now, ?_, _, mem_reach_start, Nat.le_refl _⟩, ?_, ?_, ?_⟩
    · simp only [Agrees]
      omega
    · intro _
      rw [fits]
      refine ⟨zero, ?_⟩
      intro first before
      refine ⟨_, _, value first before, now, ?_⟩
      simp only [Towards]
      omega
    · intro attacked
      omega
    · intro _ attacked
      omega
  · rw [if_neg attacks] at fits
    rw [Nat.not_lt] at attacks
    have value : ∀ first ≤ state.timePlaying, envelope.attackLength.toNat ≤ first.toNat →
        state.effect.replayLength ≠ 0 →
        state.effect.replayLength.toNat ≤ first.toNat + envelope.fadeLength.toNat →
          (state.playedFor first).rampLevel startLevel endLevel envelope =
            some endLevel.toInt := by
      intro first before attacked finite fades
      have short := fits finite
      have order := UInt64.le_iff_toNat_le.mp before
      have unseen := short.2 (by omega)
      have less := Nat.mul_le_mul_left (fadeTo envelope endLevel.toInt - endLevel.toInt).natAbs
        (@fadeSpan_mono state envelope first before)
      exact @rampLevel_fade (state.playedFor first) envelope startLevel endLevel attacked finite
        (Nat.lt_of_le_of_lt order (inTime finite)) short.1 fades (Nat.lt_of_le_of_lt less unseen)
    by_cases fades : state.effect.replayLength ≠ 0 ∧ state.effect.replayLength.toNat ≤
        state.timePlaying.toNat + envelope.fadeLength.toNat
    · have now := value state.timePlaying (UInt64.le_refl _) attacks fades.1 fades.2
      change state.rampLevel startLevel endLevel envelope = _ at now
      refine ⟨⟨_, now, ?_, _, mem_reach_end, Nat.le_refl _⟩, ?_, ?_, ?_⟩
      · simp only [Agrees]
        omega
      · intro attacking
        omega
      · intro _ _ first before attacked window
        refine ⟨_, _, value first before attacked fades.1 window, now, ?_⟩
        simp only [Towards]
        omega
      · intro same _ _
        rw [same]
        exact now
    · have lasts : state.effect.replayLength ≠ 0 →
          state.timePlaying.toNat + envelope.fadeLength.toNat <
            state.effect.replayLength.toNat := by
        intro finite
        by_contra late
        exact fades ⟨finite, Nat.not_lt.mp late⟩
      rcases rampLevel_line attacks kind sloped slope lasts with ⟨level, now, way⟩
      have between := way.of_le
      refine ⟨⟨level, now, ?_, bound_of_towards way mem_reach_start mem_reach_end⟩, ?_, ?_, ?_⟩
      · simp only [Agrees]
        omega
      · intro attacking
        omega
      · intro _ fading
        simp only [fadeSpan] at fading
        split at fading
        · cases fading
        · rename_i finite
          have before := lasts finite
          omega
      · intro same _ _
        have still : level = startLevel.toInt := by omega
        change state.rampLevel startLevel endLevel envelope = _
        rw [now, still]

end Ramp

/-- The largest magnitude that an envelope can make of one. -/
def peak (envelope : Envelope) (magnitude : ℤ) : ℕ :=
  max magnitude.natAbs
    (max (if envelope.attackLength = 0 then 0 else envelope.attackLevel.toNat)
      (if envelope.fadeLength = 0 then 0 else envelope.fadeLevel.toNat))

/-- How many times the magnitude a waveform can be away from its offset at a phase. -/
def waveReach (waveform : Waveform) (phase : ℕ) : ℕ :=
  match waveform with
  | .sine | .square | .other => 1
  | .triangle => if phase < 360 then 1 else 5
  | .sawUp | .sawDown => if phase < 360 then 1 else 3

/-- The waveform multiplies its magnitude as an unsigned number. -/
def isUnsigned : Waveform → Bool
  | .triangle | .sawUp | .sawDown => true
  | .sine | .square | .other => false

/-- The products of a periodic effect fit. -/
def WaveFits (state : EffectState) (waveform : Waveform) (magnitude offset : ℤ)
    (envelope : Envelope) : Prop :=
  (isUnsigned waveform = true → 0 ≤ magnitude) ∧
    state.directionGain.natAbs *
      (offset.natAbs + waveReach waveform state.phase.toNat * peak envelope magnitude) < 0x80000000

theorem le_peak {bound : ℕ} (member : bound ∈ reach envelope level level) :
    bound ≤ peak envelope level := by
  simp only [reach, List.mem_append, List.mem_cons, List.not_mem_nil, or_false, or_self] at member
  simp only [peak]
  rcases member with (rfl | windows) | windows
  · omega
  · split at windows
    · cases windows
    · rename_i wide
      rw [List.mem_singleton] at windows
      rw [if_neg wide]
      omega
  · split at windows
    · cases windows
    · rename_i wide
      rw [List.mem_singleton] at windows
      rw [if_neg wide]
      omega

theorem deviation_le (sine : KernelSine fixpSin32) (waveform : Waveform) {magnitude : ℤ}
    {phase : ℕ} (turns : phase < 720) (size : magnitude.natAbs ≤ 0xffff)
    (positive : isUnsigned waveform = true → 0 ≤ magnitude) :
    (deviation fixpSin32 waveform magnitude phase).natAbs ≤
      waveReach waveform phase * magnitude.natAbs := by
  have product : 0 ≤ magnitude → 0 ≤ (phase : ℤ) * magnitude ∧
      (phase : ℤ) * magnitude ≤ 720 * magnitude ∧
      (phase < 360 → (phase : ℤ) * magnitude ≤ 360 * magnitude) := by
    intro low
    refine ⟨Int.mul_nonneg (Int.natCast_nonneg _) low, ?_, ?_⟩
    · exact Int.mul_le_mul_of_nonneg_right (by omega) low
    · intro first
      exact Int.mul_le_mul_of_nonneg_right (by omega) low
  cases waveform with
  | sine =>
      simp only [deviation, waveReach, Nat.one_mul]
      exact (sine_bounds sine phase magnitude).2
  | square =>
      simp only [deviation, waveReach]
      split
      · omega
      · omega
  | triangle =>
      have bounds := product (positive rfl)
      have low := positive rfl
      simp only [deviation, waveReach, sawOf]
      split
      · omega
      · omega
  | sawUp =>
      have bounds := product (positive rfl)
      have low := positive rfl
      simp only [deviation, waveReach, sawOf]
      split
      · omega
      · omega
  | sawDown =>
      have bounds := product (positive rfl)
      have low := positive rfl
      simp only [deviation, waveReach, sawOf]
      split
      · omega
      · omega
  | other => simp only [deviation, Int.natAbs_zero, Nat.zero_le]

theorem calculatePeriodic_isSome (sine : KernelSine fixpSin32) {waveform : Waveform}
    {magnitude offset : Int16} (turns : state.phase.toNat < 720)
    (shapes : Shapes state envelope magnitude.toInt magnitude.toInt fun state =>
      state.shape envelope magnitude.toInt)
    (fits : WaveFits state waveform magnitude.toInt offset.toInt envelope) :
    (state.calculatePeriodic fixpSin32 waveform magnitude offset envelope).isSome = true := by
  rcases shapes.bounded (short_toInt magnitude) (short_toInt magnitude) with
    ⟨shaped, same, size⟩
  rcases shapes.value with ⟨level, value, agrees, bound, member, within⟩
  rw [same, Option.some.injEq] at value
  subst value
  have positive : isUnsigned waveform = true → 0 ≤ shaped := by
    intro unsigned
    have low := fits.1 unsigned
    exact agrees.1 ⟨low, low⟩
  have away := deviation_le sine waveform turns size positive
  have top := Nat.mul_le_mul_left (waveReach waveform state.phase.toNat)
    (within.trans (le_peak member))
  have far : (offset.toInt + deviation fixpSin32 waveform shaped state.phase.toNat).natAbs ≤
      offset.toInt.natAbs +
        waveReach waveform state.phase.toNat * peak envelope magnitude.toInt := by
    omega
  have whole : state.wave fixpSin32 waveform shaped offset.toInt = _ :=
    wave_eq sine waveform (by omega) (short_toInt offset)
  simp only [calculatePeriodic, same, Option.bind_eq_bind, Option.bind_some, whole]
  exact applyGain_of_fits (Nat.lt_of_le_of_lt (Nat.mul_le_mul_left _ far) fits.2)

/-- At a tick the formulas that `dd_lg4ff_calculate_*` takes come out right. -/
def EnvelopeFits (state : EffectState) : Prop :=
  match state.effect.kind with
  | .constant level envelope => LevelFits state envelope level.toInt
  | .ramp startLevel endLevel envelope =>
      RampFits state startLevel.toInt endLevel.toInt envelope
  | .periodic waveform _ magnitude offset _ envelope =>
      LevelFits state envelope magnitude.toInt ∧
        WaveFits state waveform magnitude.toInt offset.toInt envelope
  | _ => True

/-- Nothing is undefined at a tick, a wave's division by its period included, and the level that
the envelope shapes keeps to it. -/
def EnvelopeKept (fixpSin32 : ℤ → ℤ) (state : EffectState) : Prop :=
  match state.effect.kind with
  | .constant level envelope =>
      (state.calculateConstant level envelope).isSome = true ∧
        Shapes state envelope level.toInt level.toInt fun state =>
          state.shape envelope level.toInt
  | .ramp startLevel endLevel envelope =>
      state.slope.isSome = true ∧
        (state.calculateRamp startLevel endLevel envelope).isSome = true ∧
        Shapes state envelope startLevel.toInt endLevel.toInt fun state =>
          state.rampLevel startLevel endLevel envelope
  | .periodic waveform period magnitude offset _ envelope =>
      period ≠ 0 ∧
        (state.calculatePeriodic fixpSin32 waveform magnitude offset envelope).isSome = true ∧
        Shapes state envelope magnitude.toInt magnitude.toInt fun state =>
          state.shape envelope magnitude.toInt
  | _ => True

theorem envelopeKept (sine : KernelSine fixpSin32) (plays : Plays now state)
    (turns : ∀ waveform period magnitude offset phase envelope,
      state.effect.kind = .periodic waveform period magnitude offset phase envelope →
        period ≠ 0 ∧ state.phase.toNat < 720)
    (fits : EnvelopeFits state) : EnvelopeKept fixpSin32 state := by
  simp only [EnvelopeFits, EnvelopeKept] at fits ⊢
  cases kind : state.effect.kind with
  | constant level envelope =>
      simp only [kind] at fits ⊢
      have shapes := shapes_constant plays.inTime (short_toInt level) fits
      refine ⟨?_, shapes⟩
      rcases shapes.bounded (short_toInt level) (short_toInt level) with ⟨shaped, same, size⟩
      simp only [calculateConstant, same, Option.bind_eq_bind, Option.bind_some]
      exact applyGain_of_shaped plays.gain size
  | ramp startLevel endLevel envelope =>
      simp only [kind] at fits ⊢
      have shapes := shapes_ramp plays.inTime kind plays.slope fits
      refine ⟨?_, ?_, shapes⟩
      · rw [plays.slope, rampSlope_of_fits kind fits.1]
        rfl
      · rcases shapes.bounded (short_toInt startLevel) (short_toInt endLevel) with
          ⟨shaped, same, size⟩
        rw [calculateRamp_eq, same, Option.bind_some]
        exact applyGain_of_shaped plays.gain size
  | periodic waveform period magnitude offset phase envelope =>
      simp only [kind] at fits ⊢
      have shapes := shapes_constant plays.inTime (short_toInt magnitude) fits.1
      have turning := turns _ _ _ _ _ _ kind
      exact ⟨turning.1, calculatePeriodic_isSome sine turning.2 shapes fits.2, shapes⟩
  | spring | friction | damper | inertia | rumble | other => trivial

end EffectState

open EffectState

/-- At every tick of every run at which an effect plays and its formulas come out right, nothing
is undefined and the envelope is kept to. -/
theorem shaping_law (sine : KernelSine fixpSin32) {engine : Engine}
    (reachable : (timedSystem fixpSin32).Reachable (engine, clock)) (forward : clock ≤ now.toNat)
    (early : now.toNat < horizon) (id : Fin 16)
    (on : ((engine.entry.states id).ticked fixpSin32 now).flags.started = true)
    (playing : ((engine.entry.states id).ticked fixpSin32 now).flags.playing = true)
    (fits : EnvelopeFits ((engine.entry.states id).ticked fixpSin32 now)) :
    EnvelopeKept fixpSin32 ((engine.entry.states id).ticked fixpSin32 now) := by
  have plays := plays_of_reachable sine reachable forward early id on playing
  apply envelopeKept sine plays
  · intro waveform period magnitude offset phase envelope kind
    have accepted : period ≠ 0 := by
      have lacks := plays.accepted
      rw [kind] at lacks
      simp only [lacksPeriod, decide_eq_false_iff_not] at lacks
      exact lacks
    rw [effect_ticked] at kind
    have phased := (phase_ticked kind accepted on playing).2
    have turned := degrees_lt accepted
      (now - ((engine.entry.states id).ticked fixpSin32 now).updatedAt)
    exact ⟨accepted, by omega⟩
  · exact fits

def surge (attackLength : UInt16) : FfEffect where
  kind := .constant 0x4000 ⟨attackLength, 0x7fff, 0, 0⟩
  direction := 0x4000
  replayLength := 0
  replayDelay := 0

theorem shaping_law_surge :
    ∃ engine : Engine, (timedSystem sinOfRightAngle).Reachable (engine, 0) ∧
      EnvelopeKept sinOfRightAngle ((engine.entry.states 0).ticked sinOfRightAngle 1) := by
  rcases System.ReachableUnder.of_check (timedSystem sinOfRightAngle) System.anyStep
    (.initial {}, 0) (startOf (surge 4))
    (fun pair => pair.2 = 0 ∧
      ((pair.1.entry.states 0).ticked sinOfRightAngle 1).effect.kind = (surge 4).kind ∧
      ((pair.1.entry.states 0).ticked sinOfRightAngle 1).timePlaying = 1 ∧
      ((pair.1.entry.states 0).ticked sinOfRightAngle 1).flags.started = true ∧
      ((pair.1.entry.states 0).ticked sinOfRightAngle 1).flags.playing = true)
    ⟨⟨{}, rfl⟩, by decide⟩ (by decide) (System.runMeets_anyStep _ _) with
    ⟨⟨engine, clock⟩, reachable, checked⟩
  simp only [decide_eq_true_eq] at checked
  rcases checked with ⟨rfl, kind, time, on, playing⟩
  have fits : EnvelopeFits ((engine.entry.states 0).ticked sinOfRightAngle 1) := by
    simp only [EnvelopeFits, kind, surge, LevelFits, time]
    exact .inr (.inr ⟨2, rfl⟩)
  exact ⟨engine, reachable, shaping_law kernelSine_rightAngle reachable (by decide) (by decide) 0
    on playing fits⟩

/-- One millisecond into an attack of three from above, the level is far beyond both. -/
theorem surge_overshoots :
    ∃ engine : Engine, (timedSystem sinOfRightAngle).Reachable (engine, 0) ∧
      ((engine.entry.states 0).ticked sinOfRightAngle 1).flags.playing = true ∧
      (engine.entry.states 0).effect = surge 3 ∧
      ((engine.entry.states 0).ticked sinOfRightAngle 1).shape ⟨3, 0x7fff, 0, 0⟩ 0x4000 =
        some 1431683071 := by
  rcases System.ReachableUnder.of_check (timedSystem sinOfRightAngle) System.anyStep
    (.initial {}, 0) (startOf (surge 3))
    (fun pair => pair.2 = 0 ∧
      ((pair.1.entry.states 0).ticked sinOfRightAngle 1).flags.playing = true ∧
      (pair.1.entry.states 0).effect = surge 3 ∧
      ((pair.1.entry.states 0).ticked sinOfRightAngle 1).shape ⟨3, 0x7fff, 0, 0⟩ 0x4000 =
        some 1431683071)
    ⟨⟨{}, rfl⟩, by decide⟩ (by decide) (System.runMeets_anyStep _ _) with
    ⟨⟨engine, clock⟩, reachable, checked⟩
  simp only [decide_eq_true_eq] at checked
  rcases checked with ⟨rfl, checked⟩
  exact ⟨engine, reachable, checked⟩

end TrueForce.Classic
