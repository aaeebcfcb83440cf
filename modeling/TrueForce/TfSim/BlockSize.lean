import TrueForce.TfSim.HapticReals
import Mathlib.Algebra.Order.Floor.Semifield
import Mathlib.Tactic.Ring

/-!
# The mix and the size of its blocks

A block of samples is the same as two in a row when the second finds nothing to update: the
edges have passed, the smoother of the duck moves by powers, and the limiter's dwell adds up.
-/

namespace TrueForce.TfSim.Haptics

open TrueForce.Sampled SampleArith

section Rendering

variable {α : Type} [SampleArith α]

theorem renderSource_add {State : Type} (source : Source State α) (state : State)
    (first second : ℕ) (gain : α) :
    renderSource source state (first + second) gain =
      ((renderSource source (renderSource source state first gain).1 second gain).1,
        (renderSource source state first gain).2 ++
          (renderSource source (renderSource source state first gain).1 second gain).2) := by
  simp only [renderSource, source.after_add, source.samples_add, List.map_append]

/-- Two blocks of an effect in a row. -/
def Effect.renderTwo (effect : Effect α) (first second : ℕ) (gain : α) : Effect α × List α :=
  (((effect.render first gain).1.render second gain).1,
    (effect.render first gain).2 ++ ((effect.render first gain).1.render second gain).2)

theorem Burst.render_add (burst : Burst α) (first second : ℕ) (gain : α) :
    burst.render (first + second) gain =
      (((burst.render first gain).1.render second gain).1,
        (burst.render first gain).2 ++ ((burst.render first gain).1.render second gain).2) := by
  simp only [render]
  cases le gain (lit 0) with
  | true => simp only [if_true, List.replicate_append_replicate, Nat.sub_add_eq]
  | false =>
      simp only [Bool.false_eq_true, if_false]
      exact renderSource_add source burst first second gain

theorem Effect.render_add (effect : Effect α) (first second : ℕ) (gain : α) :
    effect.render (first + second) gain = effect.renderTwo first second gain := by
  cases effect with
  | engine effect =>
      simp only [renderTwo, render, rewrap, EnginePulse.render]
      rw [renderSource_add]
  | revLimiter effect =>
      simp only [renderTwo, render, rewrap, RevLimiter.render]
      rw [renderSource_add]
  | pitLimiter effect =>
      simp only [renderTwo, render, rewrap, PitLimiter.render]
      rw [renderSource_add]
  | gearShift effect =>
      simp only [renderTwo, render, rewrap]
      rw [Burst.render_add]
  | abs effect =>
      simp only [renderTwo, render, rewrap, AbsClick.render]
      rw [renderSource_add]
  | tractionLoss effect =>
      simp only [renderTwo, render, rewrap, TractionLoss.render]
      rw [renderSource_add]
  | roadBumps effect =>
      simp only [renderTwo, render, rewrap, RoadBumps.render]
      rw [renderSource_add]
  | airborne effect => simp only [renderTwo, render, List.replicate_append_replicate]
  | collision effect =>
      simp only [renderTwo, render, rewrap]
      rw [Burst.render_add]
  | drs effect =>
      simp only [renderTwo, render, rewrap]
      rw [Burst.render_add]

end Rendering

/-- A step that leaves `keep` of the distance to the target. -/
noncomputable def approach (keep x y : ℝ) : ℝ :=
  if |(x - y) * keep| < 1 / 1000000 then x else x - (x - y) * keep

theorem approach_of_near {keep x y : ℝ} (near : |(x - y) * keep| < 1 / 1000000) :
    approach keep x y = x := if_pos near

theorem approach_of_far {keep x y : ℝ} (far : ¬|(x - y) * keep| < 1 / 1000000) :
    approach keep x y = x - (x - y) * keep := if_neg far

theorem approach_of_reached (keep x : ℝ) : approach keep x x = x :=
  approach_of_near (by simp)

theorem approach_approach {first second : ℝ} (low : 0 ≤ second) (high : second ≤ 1) (x y : ℝ) :
    approach second x (approach first x y) = approach (first * second) x y := by
  by_cases near : |(x - y) * first| < 1 / 1000000
  · have nearer : |(x - y) * (first * second)| < 1 / 1000000 := by
      rw [← mul_assoc, abs_mul, abs_of_nonneg low]
      exact (mul_le_of_le_one_right (abs_nonneg _) high).trans_lt near
    rw [approach_of_near near, approach_of_reached, approach_of_near nearer]
  · have left : x - (x - (x - y) * first) = (x - y) * first := by ring
    rw [approach_of_far near]
    simp only [approach, left, mul_assoc]

/-- What is left of the distance to the target of the duck after a sample. -/
noncomputable def duckKeep : ℝ := 1 - 1 / 240

theorem smoothingFor_duck : smoothingFor (lit 60 : ℝ) = 1 / 240 := by
  simp only [smoothingFor, lit_real, sampleRateHz]
  push_cast
  rw [clamp_real zero_le_one]
  norm_num

/-- The duration of a block in milliseconds. -/
noncomputable def blockMs (count : ℕ) : ℝ := lit count * lit 1000 / sampleRateHz

theorem blockMs_eq (count : ℕ) : blockMs count = count / 4 := by
  simp only [blockMs, lit_real, sampleRateHz]
  push_cast
  ring

theorem smoothingForBlock_duck {count : ℕ} (some : 0 < count) :
    smoothingForBlock (lit 60 : ℝ) (blockMs count) = 1 - duckKeep ^ count := by
  have least : (1 : ℝ) ≤ count := by exact_mod_cast some
  have samples : max (blockMs count * sampleRateHz / lit 1000) (lit 1) = (count : ℝ) := by
    simp only [blockMs_eq, lit_real, sampleRateHz]
    push_cast
    rw [max_eq_left]
    · ring
    · linarith
  have low : 0 ≤ duckKeep ^ count := pow_nonneg (by norm_num [duckKeep]) count
  have high : duckKeep ^ count ≤ 1 := pow_le_one₀ (by norm_num [duckKeep]) (by norm_num [duckKeep])
  have unfolded : smoothingForBlock (lit 60 : ℝ) (blockMs count) =
      clamp (lit 1 - powf (lit 1 - smoothingFor (lit 60))
        (max (blockMs count * sampleRateHz / lit 1000) (lit 1))) (lit 0) (lit 1) := rfl
  have keep : (lit 1 - 1 / 240 : ℝ) = duckKeep := by simp [duckKeep]
  rw [unfolded, samples, smoothingFor_duck, keep, powf_real, Real.rpow_natCast]
  simp only [lit_real, Rat.cast_zero, Rat.cast_one]
  rw [clamp_real zero_le_one, min_eq_left (by linarith), max_eq_right (by linarith)]

theorem step_duck {count : ℕ} (some : 0 < count) (pole : OnePole ℝ) (x : ℝ) :
    (pole.step x (smoothingForBlock (lit 60) (blockMs count))).y =
      approach (duckKeep ^ count) x pole.y := by
  have moved : pole.y + (x - pole.y) * (1 - duckKeep ^ count) =
      x - (x - pole.y) * duckKeep ^ count := by ring
  have left : x - (x - (x - pole.y) * duckKeep ^ count) = (x - pole.y) * duckKeep ^ count := by ring
  have snap : (smoothSnap : ℝ) = 1 / 1000000 := by
    simp only [smoothSnap, lit_real]
    norm_num
  rw [smoothingForBlock_duck some]
  simp only [OnePole.step, abs_real, lt_real, snap, decide_eq_true_eq, moved, left, approach]

namespace RevLimiter

/-- The dwell in milliseconds after a block, with the redline settled. -/
noncomputable def dwellAfter (tel : Telemetry ℝ) (dwell count : ℕ) : ℕ :=
  if atLimit tel then min (dwell + count / samplesPerMs) (2 ^ 32 - 1) else 0

structure Counted (limiter : RevLimiter ℝ) : Prop where
  engaged : limiter.engaged = decide (dwellMs ≤ limiter.dwell)
  bounded : limiter.dwell ≤ 2 ^ 32 - 1

theorem settled_of_same {limiter : RevLimiter ℝ} {tel : Telemetry ℝ}
    (same : limiter.lastMaxRpm = tel.maxRpm) (high : atLimit tel = true) :
    limiter.settled tel = true := by
  simp only [atLimit, lt_real, le_real, lit_real, Bool.and_eq_true, decide_eq_true_eq,
    Rat.cast_zero] at high
  simp only [settled, same, sub_self, abs_real, abs_zero, le_real, lit_real, decide_eq_true_eq]
  have positive := high.1
  push_cast
  positivity

theorem blockDwell_eq (count : ℕ) :
    blockDwell (blockMs count) = min (count / samplesPerMs) (2 ^ 32 - 1) := by
  have low : (0 : ℝ) ≤ (count : ℝ) / (4 : ℕ) := by positivity
  have cast : blockMs count = (count : ℝ) / (4 : ℕ) := by
    rw [blockMs_eq]
    norm_num
  simp only [blockDwell, cast, lit_real, Rat.cast_zero, floor_real]
  rw [max_eq_left low, Nat.floor_div_eq_div]
  rfl

theorem update_eq (limiter : RevLimiter ℝ) {tel : Telemetry ℝ}
    (same : limiter.lastMaxRpm = tel.maxRpm) (count : ℕ) :
    limiter.update tel (blockMs count) =
      { limiter with
        dwell := dwellAfter tel limiter.dwell count
        engaged := decide (dwellMs ≤ dwellAfter tel limiter.dwell count) } := by
  have dwell : (if atLimit tel && limiter.settled tel then
        min (limiter.dwell + blockDwell (blockMs count)) (2 ^ 32 - 1) else 0) =
      dwellAfter tel limiter.dwell count := by
    simp only [dwellAfter, blockDwell_eq]
    cases high : atLimit tel with
    | true =>
        rw [settled_of_same same high]
        simp only [Bool.and_self, if_true]
        omega
    | false => simp
  simp only [update, dwell]
  rw [← same]

/-- Dwells that end at a bound add up below it. -/
theorem min_add_min (dwell first second bound : ℕ) :
    min (min (dwell + first) bound + second) bound = min (dwell + (first + second)) bound := by
  omega

theorem dwellAfter_dwellAfter (tel : Telemetry ℝ) (dwell : ℕ) {first second : ℕ}
    (whole : samplesPerMs ∣ first) :
    dwellAfter tel (dwellAfter tel dwell first) second = dwellAfter tel dwell (first + second) := by
  simp only [dwellAfter]
  cases atLimit tel with
  | true =>
      simp only [if_true]
      rw [Nat.add_div_of_dvd_right whole]
      exact min_add_min _ _ _ _
  | false => rfl

/-- When the flag ends a block as it began, it is that all the time. -/
theorem engaged_of_ends {limiter : RevLimiter ℝ} {tel : Telemetry ℝ} {first second : ℕ}
    (counted : limiter.Counted) (whole : samplesPerMs ∣ first)
    (ends : decide (dwellMs ≤ dwellAfter tel limiter.dwell (first + second)) = limiter.engaged) :
    decide (dwellMs ≤ dwellAfter tel limiter.dwell first) =
      decide (dwellMs ≤ dwellAfter tel limiter.dwell (first + second)) := by
  have bounded := counted.bounded
  rw [counted.engaged, decide_eq_decide] at ends
  rw [decide_eq_decide]
  rw [← dwellAfter_dwellAfter tel limiter.dwell whole] at ends ⊢
  simp only [dwellAfter] at ends ⊢
  cases high : atLimit tel with
  | true =>
      simp only [high, if_true, dwellMs] at ends ⊢
      generalize first / samplesPerMs = earlier at ends ⊢
      generalize second / samplesPerMs = later at ends ⊢
      omega
  | false => rfl

theorem update_render_update {limiter : RevLimiter ℝ} {tel : Telemetry ℝ} {first second : ℕ}
    (gain : ℝ) (same : limiter.lastMaxRpm = tel.maxRpm) (counted : limiter.Counted)
    (whole : samplesPerMs ∣ first)
    (ends : decide (dwellMs ≤ dwellAfter tel limiter.dwell (first + second)) = limiter.engaged) :
    ((limiter.update tel (blockMs first)).render first gain).1.update tel (blockMs second) =
      ((limiter.update tel (blockMs (first + second))).render first gain).1 ∧
    ((limiter.update tel (blockMs first)).render first gain).2 =
      ((limiter.update tel (blockMs (first + second))).render first gain).2 := by
  have flag := engaged_of_ends counted whole ends
  rw [update_eq limiter same first, update_eq limiter same (first + second), flag]
  refine ⟨?_, rfl⟩
  have next := update_eq (render { limiter with
    dwell := dwellAfter tel limiter.dwell first
    engaged := decide (dwellMs ≤ dwellAfter tel limiter.dwell (first + second)) } first gain).1
    same second
  refine next.trans ?_
  simp only [render, dwellAfter_dwellAfter tel limiter.dwell whole]

end RevLimiter

theorem Airborne.update_update (airborne : Airborne ℝ) (tel : Telemetry ℝ) {first second : ℕ}
    (some : 0 < first) (more : 0 < second) :
    (airborne.update tel (blockMs first)).update tel (blockMs second) =
      airborne.update tel (blockMs (first + second)) := by
  have low : 0 ≤ duckKeep ^ second := pow_nonneg (by norm_num [duckKeep]) second
  have high : duckKeep ^ second ≤ 1 :=
    pow_le_one₀ (by norm_num [duckKeep]) (by norm_num [duckKeep])
  have duck : approach (duckKeep ^ second) (target tel.airborne airborne.depth)
      (approach (duckKeep ^ first) (target tel.airborne airborne.depth) airborne.duck.y) =
      approach (duckKeep ^ first * duckKeep ^ second) (target tel.airborne airborne.depth)
        airborne.duck.y := approach_approach low high _ _
  rw [← pow_add, ← step_duck some, ← step_duck more, ← step_duck (Nat.add_pos_left some second)]
    at duck
  simp only [update]
  congr 1
  exact OnePole.ext duck

namespace Effect

/-- The flag of the rev limiter. -/
def engaged : Effect ℝ → Option Bool
  | .revLimiter limiter => some limiter.engaged
  | _ => none

/-- The flag after some more samples. -/
noncomputable def engagedAfter (tel : Telemetry ℝ) (count : ℕ) : Effect ℝ → Option Bool
  | .revLimiter limiter =>
      some (decide (RevLimiter.dwellMs ≤ RevLimiter.dwellAfter tel limiter.dwell count))
  | _ => none

/-- The redline has been the same before. -/
def Settled (tel : Telemetry ℝ) : Effect ℝ → Prop
  | .revLimiter limiter => limiter.lastMaxRpm = tel.maxRpm ∧ limiter.Counted
  | _ => True

/-- The redline is settled, and the flag of the limiter will be what it is. -/
structure Steady (tel : Telemetry ℝ) (count : ℕ) (effect : Effect ℝ) : Prop where
  settled : effect.Settled tel
  ends : effect.engagedAfter tel count = effect.engaged

variable {tel : Telemetry ℝ} {first second : ℕ}

/-- The update of a second block adds to that of the first what one update would have done. -/
theorem update_render_update (effect : Effect ℝ) (gain : ℝ) (some : 0 < first) (more : 0 < second)
    (whole : samplesPerMs ∣ first) (steady : effect.Steady tel (first + second)) :
    (((effect.update tel (blockMs first)).render first gain).1.update tel (blockMs second) =
      ((effect.update tel (blockMs (first + second))).render first gain).1) ∧
    ((effect.update tel (blockMs first)).render first gain).2 =
      ((effect.update tel (blockMs (first + second))).render first gain).2 := by
  cases effect with
  | engine effect => exact ⟨rfl, rfl⟩
  | pitLimiter effect => exact ⟨rfl, rfl⟩
  | abs effect => exact ⟨rfl, rfl⟩
  | tractionLoss effect => exact ⟨rfl, rfl⟩
  | roadBumps effect => exact ⟨rfl, rfl⟩
  | revLimiter limiter =>
      rcases steady with ⟨⟨same, counted⟩, ends⟩
      rcases RevLimiter.update_render_update gain same counted whole (Option.some.inj ends) with
        ⟨next, added⟩
      exact ⟨congrArg Effect.revLimiter next, added⟩
  | airborne effect => exact ⟨congrArg Effect.airborne (effect.update_update tel some more), rfl⟩
  | gearShift effect =>
      refine ⟨?_, rfl⟩
      have missed : GearShift.strike (Option.some tel.gear) tel = none := if_neg (not_not.mpr rfl)
      simp only [update, render, rewrap, GearShift.update, missed, Burst.struck]
  | collision effect =>
      refine ⟨?_, rfl⟩
      have missed : Collision.strike (Collision.impact tel) tel = none := by
        simp [Collision.strike]
      simp only [update, render, rewrap, Collision.update, missed, Burst.struck]
  | drs effect =>
      refine ⟨?_, rfl⟩
      have missed : Drs.strike (Option.some tel.drsActive) tel = none := if_neg (not_not.mpr rfl)
      simp only [update, render, rewrap, Drs.update, missed, Burst.struck]

@[simp]
theorem id_update (effect : Effect ℝ) (ms : ℝ) : (effect.update tel ms).id = effect.id := by
  cases effect <;> rfl

@[simp]
theorem id_render (effect : Effect ℝ) (count : ℕ) (gain : ℝ) :
    (effect.render count gain).1.id = effect.id := by
  cases effect <;> rfl

@[simp]
theorem continuous_update (effect : Effect ℝ) (ms : ℝ) :
    (effect.update tel ms).continuous = effect.continuous := by
  cases effect <;> rfl

@[simp]
theorem continuous_render (effect : Effect ℝ) (count : ℕ) (gain : ℝ) :
    (effect.render count gain).1.continuous = effect.continuous := by
  cases effect <;> rfl

theorem length_renderSource {State : Type} (source : Source State ℝ) (state : State) (count : ℕ)
    (gain : ℝ) : (renderSource source state count gain).2.length = count := by
  simp [renderSource]

theorem length_burst (burst : Burst ℝ) (count : ℕ) (gain : ℝ) :
    (burst.render count gain).2.length = count := by
  simp only [Burst.render]
  split
  · exact List.length_replicate
  · exact length_renderSource _ _ _ _

theorem length_render (effect : Effect ℝ) (count : ℕ) (gain : ℝ) :
    (effect.render count gain).2.length = count := by
  cases effect with
  | engine effect => exact length_renderSource _ _ _ _
  | revLimiter effect => exact length_renderSource _ _ _ _
  | pitLimiter effect => exact length_renderSource _ _ _ _
  | gearShift effect => exact length_burst _ _ _
  | abs effect => exact length_renderSource _ _ _ _
  | tractionLoss effect => exact length_renderSource _ _ _ _
  | roadBumps effect => exact length_renderSource _ _ _ _
  | airborne effect => exact List.length_replicate
  | collision effect => exact length_burst _ _ _
  | drs effect => exact length_burst _ _ _

/-- One block of an effect in a mixer. -/
noncomputable def block (gains : EffectGains) (tel : Telemetry ℝ) (count : ℕ)
    (effect : Effect ℝ) : Effect ℝ × List ℝ :=
  (effect.update tel (blockMs count)).render count (gains.scale effect.id)

variable {gains : EffectGains}

theorem block_add {effect : Effect ℝ} (some : 0 < first) (more : 0 < second)
    (whole : samplesPerMs ∣ first) (steady : effect.Steady tel (first + second)) :
    effect.block gains tel (first + second) =
      (((effect.block gains tel first).1.block gains tel second).1,
        (effect.block gains tel first).2 ++
          ((effect.block gains tel first).1.block gains tel second).2) := by
  rcases effect.update_render_update (gains.scale effect.id) some more whole steady with
    ⟨next, added⟩
  simp only [block, id_render, id_update]
  rw [next, added, render_add]
  rfl

theorem settled_block {effect : Effect ℝ} (settled : effect.Settled tel) (count : ℕ) :
    (effect.block gains tel count).1.Settled tel ∧
      (effect.block gains tel count).1.engaged = effect.engagedAfter tel count := by
  cases effect with
  | revLimiter limiter =>
      rcases settled with ⟨same, counted⟩
      have bounded : RevLimiter.dwellAfter tel limiter.dwell count ≤ 2 ^ 32 - 1 := by
        simp only [RevLimiter.dwellAfter]
        split
        · exact Nat.min_le_right _ _
        · exact Nat.zero_le _
      simp only [block, update, RevLimiter.update_eq limiter same count]
      exact ⟨⟨same, rfl, bounded⟩, rfl⟩
  | _ => exact ⟨trivial, rfl⟩

theorem engagedAfter_block {effect : Effect ℝ} (settled : effect.Settled tel)
    (whole : samplesPerMs ∣ first) :
    (effect.block gains tel first).1.engagedAfter tel second =
      effect.engagedAfter tel (first + second) := by
  cases effect with
  | revLimiter limiter =>
      rcases settled with ⟨same, -⟩
      simp only [block, update, RevLimiter.update_eq limiter same first]
      simp only [engagedAfter, ← RevLimiter.dwellAfter_dwellAfter tel limiter.dwell whole]
      rfl
  | _ => rfl

/-- Short of the limit the flag is down. -/
theorem engaged_below (below : RevLimiter.atLimit tel = false) (effect : Effect ℝ) (count : ℕ) :
    (effect.block gains tel count).1.engaged = effect.engaged.map fun _ => false := by
  cases effect with
  | revLimiter limiter =>
      simp [block, update, render, rewrap, engaged, RevLimiter.update, RevLimiter.render,
        RevLimiter.dwellMs, below]
  | _ => rfl

theorem Steady.block {effect : Effect ℝ} (steady : effect.Steady tel (first + second))
    (whole : samplesPerMs ∣ first) : (effect.block gains tel first).1.Steady tel second := by
  rcases settled_block steady.settled first with ⟨settled, flag⟩
  refine ⟨settled, ?_⟩
  rw [engagedAfter_block steady.settled whole, flag]
  cases effect with
  | revLimiter limiter =>
      have same := RevLimiter.engaged_of_ends steady.settled.2 whole (Option.some.inj steady.ends)
      exact congrArg some same.symm
  | _ => rfl

def DuckRests (tel : Telemetry ℝ) : Effect ℝ → Prop
  | .airborne layer => layer.duck.y = Airborne.target tel.airborne layer.depth
  | _ => True

theorem duck_update {effect : Effect ℝ} (rests : effect.DuckRests tel) {count : ℕ}
    (some : 0 < count) : (effect.update tel (blockMs count)).duck = effect.duck := by
  cases effect with
  | airborne layer =>
      have stays : layer.duck.y = Airborne.target tel.airborne layer.depth := rests
      refine (step_duck some layer.duck (Airborne.target tel.airborne layer.depth)).trans ?_
      rw [stays, approach_of_reached]
      exact stays.symm
  | _ => rfl

theorem duckRests_block {effect : Effect ℝ} (rests : effect.DuckRests tel) {count : ℕ}
    (some : 0 < count) :
    (effect.block gains tel count).1.DuckRests tel ∧
      (effect.block gains tel count).1.duck = effect.duck := by
  have duck := duck_update rests some
  cases effect with
  | airborne layer =>
      refine ⟨?_, duck⟩
      exact Eq.trans duck rests
  | _ => exact ⟨trivial, rfl⟩

end Effect

end TrueForce.TfSim.Haptics
