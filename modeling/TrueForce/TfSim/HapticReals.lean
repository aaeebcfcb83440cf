import TrueForce.TfSim.HapticLevel
import Mathlib.Analysis.SpecialFunctions.Trigonometric.Basic
import Mathlib.Analysis.SpecialFunctions.Pow.Real

/-!
# The haptic effects on the real numbers

Sample arithmetic is exact here, with sine, exponential and powers those of the reals.
-/

namespace TrueForce.TfSim.Haptics

open TrueForce.Sampled SampleArith

/-- `fract` keeps the sign of its argument. -/
noncomputable def signedFract (value : ℝ) : ℝ :=
  if 0 ≤ value then Int.fract value else -Int.fract (-value)

noncomputable instance : SampleArith ℝ where
  lit value := (value : ℝ)
  le left right := decide (left ≤ right)
  lt left right := decide (left < right)
  abs value := |value|
  sin := Real.sin
  exp := Real.exp
  sqrt := Real.sqrt
  fract := signedFract
  powf base exponent := base ^ exponent
  pi := Real.pi
  floor value := ⌊value⌋₊

@[simp] theorem lit_real (value : ℚ) : (lit value : ℝ) = (value : ℝ) := rfl

@[simp] theorem le_real (left right : ℝ) : le left right = decide (left ≤ right) := rfl

@[simp] theorem lt_real (left right : ℝ) : lt left right = decide (left < right) := rfl

@[simp] theorem abs_real (value : ℝ) : SampleArith.abs value = |value| := rfl

@[simp] theorem exp_real (value : ℝ) : SampleArith.exp value = Real.exp value := rfl

@[simp] theorem powf_real (base exponent : ℝ) : powf base exponent = base ^ exponent := rfl

@[simp] theorem floor_real (value : ℝ) : floor value = ⌊value⌋₊ := rfl

theorem clamp_real {low high : ℝ} (ordered : low ≤ high) (value : ℝ) :
    clamp value low high = max low (min value high) := by
  simp only [clamp, lt_real, decide_eq_true_eq]
  split
  · next below => rw [min_eq_left (below.le.trans ordered), max_eq_left below.le]
  · next above =>
      rw [not_lt] at above
      split
      · next beyond => rw [min_eq_right beyond.le, max_eq_right ordered]
      · next under => rw [min_eq_left (not_lt.mp under), max_eq_right above]

theorem clamp_unit (value : ℝ) : 0 ≤ clamp value (0 : ℝ) 1 ∧ clamp value (0 : ℝ) 1 ≤ 1 := by
  rw [clamp_real zero_le_one]
  exact ⟨le_max_left _ _, max_le zero_le_one (min_le_right _ _)⟩

/-- A burst that decays. -/
def Lively (peak decay : ℝ) : Prop := 0 < peak ∧ 0 < decay ∧ decay < 1

theorem fire_decay (peak freqHz decayMs lenMs : ℝ) :
    0 < (Burst.fire peak freqHz decayMs lenMs).decay ∧
      (Burst.fire peak freqHz decayMs lenMs).decay < 1 := by
  simp only [Burst.fire, exp_real]
  refine ⟨Real.exp_pos _, Real.exp_lt_one_iff.mpr ?_⟩
  simp only [sampleRateHz, lit_real]
  have slow : (1 : ℝ) ≤ max decayMs 1 := le_max_right _ _
  apply div_neg_of_neg_of_pos
  · norm_num
  · push_cast
    positivity

theorem GearShift.peak_pos {lastGear : Option Int8} {tel : Telemetry ℝ} {hit : Strike ℝ}
    (struck : GearShift.strike lastGear tel = some hit) : 0 < hit.peak := by
  cases lastGear with
  | none => cases struck
  | some prev =>
      simp only [GearShift.strike, Option.ite_none_right_eq_some, Option.some.injEq] at struck
      rcases struck with ⟨-, rfl⟩
      simp only [lit_real]
      split <;> norm_num

theorem Drs.peak_pos {last : Option Bool} {tel : Telemetry ℝ} {hit : Strike ℝ}
    (struck : Drs.strike last tel = some hit) : 0 < hit.peak := by
  cases last with
  | none => cases struck
  | some prev =>
      simp only [Drs.strike, Option.ite_none_right_eq_some, Option.some.injEq] at struck
      rcases struck with ⟨-, rfl⟩
      simp only [lit_real]
      split <;> norm_num

theorem Collision.peak_pos {lastG : ℝ} {tel : Telemetry ℝ} {hit : Strike ℝ}
    (struck : Collision.strike lastG tel = some hit) : 0 < hit.peak := by
  simp only [Collision.strike, Option.ite_none_right_eq_some, Option.some.injEq] at struck
  rcases struck with ⟨-, rfl⟩
  simp only [lit_real, Rat.cast_zero, Rat.cast_one]
  have scaled := (clamp_unit ((Collision.impact tel - Collision.minG) /
    (Collision.fullG - Collision.minG))).1
  push_cast
  linarith

theorem strikes_lively : Effect.StrikesLively Lively := by
  intro effect tel hit member
  refine ⟨?_, fire_decay _ _ _ _⟩
  cases effect with
  | gearShift effect => exact GearShift.peak_pos member
  | collision effect => exact Collision.peak_pos member
  | drs effect => exact Drs.peak_pos member
  | _ => cases member

/-- The amplitude tells how many samples were heard. -/
theorem Burst.Twins.heard_eq {heard heard' : ℕ} {burst burst' : Burst ℝ}
    (twins : Twins Lively heard heard' burst burst') (same : burst = burst') :
    heard = heard' := by
  rcases twins.struck with ⟨peak, struck, struck', ⟨loud, above, below⟩ | ⟨rfl, rfl, -⟩⟩
  · have amp := struck.amp
    rw [same, struck'.amp, ← same, mul_right_iterate_apply, mul_right_iterate_apply] at amp
    have powers := mul_left_cancel₀ loud.ne' amp
    exact (pow_right_injective₀ above below.ne powers).symm
  · rfl

theorem Effect.Matched.heard_eq {heard heard' : ℕ} {effect effect' : Effect ℝ}
    (matched : Matched Lively heard heard' effect effect') (same : effect = effect') :
    heard = heard' := by
  cases matched with
  | gearShift twins =>
      cases same
      exact twins.heard_eq rfl
  | collision twins =>
      cases same
      exact twins.heard_eq rfl
  | drs twins =>
      cases same
      exact twins.heard_eq rfl
  | steady burstless agree => exact agree

theorem renderSource_real {State : Type} (source : Source State ℝ) (state : State) (count : ℕ)
    (gain : ℝ) :
    (renderSource source state count gain).2 =
      ((renderSource source state count 1).2).map (· * gain) := by
  simp [renderSource]

theorem Burst.render_real (burst : Burst ℝ) (count : ℕ) {gain : ℝ} (low : 0 ≤ gain) :
    (burst.render count gain).2 = ((burst.render count 1).2).map (· * gain) := by
  have unit : le (1 : ℝ) (lit 0) = false := by simp
  have heard : burst.render count 1 = renderSource source burst count 1 := by
    simp only [render, unit, Bool.false_eq_true, if_false]
  rw [heard, ← renderSource_real]
  rcases low.eq_or_lt with rfl | positive
  · have silent : le (0 : ℝ) (lit 0) = true := by simp
    have zeros : (renderSource source burst count 0).2 = List.replicate count 0 :=
      List.eq_replicate_iff.mpr ⟨by simp [renderSource], by simp [renderSource]⟩
    rw [zeros]
    simp only [render, silent, if_true]
    simp
  · have loud : le gain (lit 0) = false := by simpa using positive
    simp only [render, loud, Bool.false_eq_true, if_false]

theorem Effect.render_real (effect : Effect ℝ) (count : ℕ) {gain : ℝ} (low : 0 ≤ gain) :
    (effect.render count gain).2 = ((effect.render count 1).2).map (· * gain) := by
  cases effect with
  | engine effect => exact renderSource_real _ _ _ _
  | revLimiter effect => exact renderSource_real _ _ _ _
  | pitLimiter effect => exact renderSource_real _ _ _ _
  | gearShift effect => exact effect.burst.render_real count low
  | abs effect => exact renderSource_real _ _ _ _
  | tractionLoss effect => exact renderSource_real _ _ _ _
  | roadBumps effect => exact renderSource_real _ _ _ _
  | airborne effect => simp [render]
  | collision effect => exact effect.burst.render_real count low
  | drs effect => exact effect.burst.render_real count low

/-- Two runs of an effect leave it in the same state exactly when they heard equally much of
the burst under way; then they go on alike, and beside full gains the samples are scaled. -/
theorem effect_level_law (effect : Effect ℝ) (turns : Effect.Turns ℝ) :
    (effect.Fresh → (effect.afterCalls turns.left = effect.afterCalls turns.right ↔
      effect.heard 0 turns.left = effect.heard 0 turns.right)) ∧
    (effect.Fresh → effect.heard 0 turns.left = effect.heard 0 turns.right →
      (∀ rest, (effect.afterCalls turns.left).added rest =
        (effect.afterCalls turns.right).added rest) ∧
      ((∀ turn ∈ turns, turn.2.2 = 1) → ∀ call gain, 0 ≤ gain →
        ((effect.afterCalls turns.left).call call gain).2 =
          (((effect.afterCalls turns.right).call call 1).2).map (· * gain))) ∧
    ∀ (α : Type) [SampleArith α] (effect : Effect α) (turns : Effect.Turns α), effect.Fresh →
      effect.heard 0 turns.left = effect.heard 0 turns.right →
      effect.afterCalls turns.left = effect.afterCalls turns.right := by
  refine ⟨?_, ?_, ?_⟩
  · intro fresh
    constructor
    · have start : Effect.Matched Lively 0 0 effect effect := Effect.matched_of_fresh fresh
      exact (start.afterCalls strikes_lively turns).heard_eq
    · exact Effect.afterCalls_eq fresh turns
  · intro fresh heard
    have same := Effect.afterCalls_eq fresh turns heard
    rw [same]
    refine ⟨fun _ => rfl, ?_⟩
    intro _ call gain low
    exact Effect.render_real _ _ low
  · intro α _ effect turns fresh heard
    exact Effect.afterCalls_eq fresh turns heard

noncomputable def inGear (gear : Int8) : Telemetry ℝ where
  rpm := 0
  maxRpm := 0
  throttle := 0
  brake := 0
  wheelSlip := 0
  speed := 0
  surfaceRoughness := 0
  impactG := 0
  gear
  pitLimiter := false
  absActive := false
  tractionControl := false
  airborne := false
  drsActive := false

/-- One sample in the first gear, and one in the second, which only one of the runs hears. -/
noncomputable def mutedShift : Effect.Turns ℝ :=
  [({ tel := inGear 1, blockMs := 1 / 4, count := 1 }, 1, 1),
    ({ tel := inGear 2, blockMs := 1 / 4, count := 1 }, 0, 1)]

/-- The second gear strikes a burst of 480 samples. -/
theorem remaining_shift (burst : Burst ℝ) :
    (GearShift.update { lastGear := some 1, burst } (inGear 2)).burst.remaining = 480 := by
  have length : ⌊(120 : ℝ) * 4000 / 1000⌋₊ = 480 := by
    rw [show (120 : ℝ) * 4000 / 1000 = (480 : ℕ) by norm_num]
    exact Nat.floor_natCast 480
  have struck : GearShift.strike (some 1) (inGear 2) =
      some { peak := lit (9 / 10), freqHz := lit 55, decayMs := lit 35, lenMs := lit 120 } := rfl
  simp only [GearShift.update, struck, Burst.struck, Burst.fire, floor_real, sampleRateHz,
    lit_real]
  push_cast
  rw [length]
  rfl

theorem heardAfter_shift (burst : Burst ℝ) (heard : ℕ) (gain : ℝ) :
    (Effect.gearShift { lastGear := some 1, burst }).heardAfter heard
      { tel := inGear 2, blockMs := 1 / 4, count := 1 } gain = if gain ≤ 0 then 0 else 1 := by
  have left : ((Effect.gearShift { lastGear := some 1, burst }).update (inGear 2)
      (1 / 4)).remaining = 480 := remaining_shift burst
  have struck : (Effect.gearShift { lastGear := some 1, burst }).strike (inGear 2) =
      some { peak := lit (9 / 10), freqHz := lit 55, decayMs := lit 35, lenMs := lit 120 } := rfl
  simp only [Effect.heardAfter, left, struck, Option.isSome_some, if_true]
  simp

theorem muted_shift_differs :
    (Effect.gearShift (GearShift.new : GearShift ℝ)).Fresh ∧
    (Effect.gearShift (GearShift.new : GearShift ℝ)).afterCalls mutedShift.left ≠
      (Effect.gearShift (GearShift.new : GearShift ℝ)).afterCalls mutedShift.right := by
  have fresh : (Effect.gearShift (GearShift.new : GearShift ℝ)).Fresh :=
    ⟨0, 0, fun _ => 0, by simp [Mixer.new]⟩
  refine ⟨fresh, ?_⟩
  intro same
  have start : Effect.Matched Lively 0 0 _ _ := Effect.matched_of_fresh fresh
  have heard := (start.afterCalls strikes_lively mutedShift).heard_eq same
  change Effect.heardAfter (.gearShift { lastGear := some 1, burst := _ }) _ _ 0 =
    Effect.heardAfter (.gearShift { lastGear := some 1, burst := _ }) _ _ 1 at heard
  rw [heardAfter_shift, heardAfter_shift] at heard
  simp at heard

end TrueForce.TfSim.Haptics
