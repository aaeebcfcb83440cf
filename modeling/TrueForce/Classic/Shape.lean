import TrueForce.Classic.Playing
import TrueForce.Foundation.Lerp
import Mathlib.Data.Int.ModEq

/-!
# What the envelope makes of a level

`shape` in closed form at a tick of an effect that plays.  In the attack the `int`
difference is multiplied by an `unsigned long`: a level below the attack level comes
out right only when the length of the attack divides `2 ^ 64`.
-/

namespace TrueForce.Classic

open TrueForce.CInt TrueForce.Ffb TrueForce.Interpolation

variable {state : EffectState} {now : UInt64} {envelope : Envelope} {level : ℤ}

/-- The levels that an envelope shapes. -/
def Short (level : ℤ) : Prop := -0x8000 ≤ level ∧ level ≤ 0x7fff

theorem short_toInt (level : Int16) : Short level.toInt := by
  have low := level.le_toInt
  have high := level.toInt_lt
  simp only [Short]
  omega

theorem int_of_fits {value : ℤ} (low : -0x80000000 ≤ value) (high : value < 0x80000000) :
    int value = some value :=
  if_pos ⟨low, high⟩

theorem divInt_of_fits {value divisor : ℤ} (nonzero : divisor ≠ 0)
    (low : -0x80000000 ≤ value.tdiv divisor) (high : value.tdiv divisor < 0x80000000) :
    divInt value divisor = some (value.tdiv divisor) := by
  simp only [divInt, if_neg nonzero]
  exact int_of_fits low high

namespace EffectState

/-- The attack level, with the sign of the level. -/
def attackFrom (envelope : Envelope) (level : ℤ) : ℤ := sign level * envelope.attackLevel.toNat

def fadeTo (envelope : Envelope) (level : ℤ) : ℤ := sign level * envelope.fadeLevel.toNat

theorem sign_cases (level : ℤ) :
    (level < 0 ∧ sign level = -1) ∨ (0 ≤ level ∧ sign level = 1) := by
  simp only [sign]
  split
  · rename_i negative
    exact .inl ⟨negative, rfl⟩
  · rename_i positive
    exact .inr ⟨Int.not_lt.mp positive, rfl⟩

theorem attackFrom_cases (envelope : Envelope) (level : ℤ) :
    (level < 0 ∧ attackFrom envelope level = -envelope.attackLevel.toNat) ∨
      (0 ≤ level ∧ attackFrom envelope level = envelope.attackLevel.toNat) := by
  simp only [attackFrom]
  rcases sign_cases level with ⟨negative, same⟩ | ⟨positive, same⟩
  · left
    refine ⟨negative, ?_⟩
    rw [same]
    omega
  · right
    refine ⟨positive, ?_⟩
    rw [same]
    omega

theorem fadeTo_cases (envelope : Envelope) (level : ℤ) :
    (level < 0 ∧ fadeTo envelope level = -envelope.fadeLevel.toNat) ∨
      (0 ≤ level ∧ fadeTo envelope level = envelope.fadeLevel.toNat) := by
  simp only [fadeTo]
  rcases sign_cases level with ⟨negative, same⟩ | ⟨positive, same⟩
  · left
    refine ⟨negative, ?_⟩
    rw [same]
    omega
  · right
    refine ⟨positive, ?_⟩
    rw [same]
    omega

theorem fadeTime_eq (inTime : state.timePlaying.toNat < state.effect.replayLength.toNat) :
    state.fadeTime envelope = state.timePlaying.toNat - state.effect.replayLength.toNat +
      envelope.fadeLength.toNat := by
  have length := state.effect.replayLength.toNat_lt
  have fade := envelope.fadeLength.toNat_lt
  simp only [fadeTime, toInt, s32, UInt64.toNat_add, UInt64.toNat_sub, UInt16.toNat_toUInt64]
  omega

/-- The attack comes out right: the level is at least the attack level, or the difference is
divided by a power of two. -/
def AttackHolds (envelope : Envelope) (level : ℤ) : Prop :=
  attackFrom envelope level ≤ level ∨ ∃ exponent, envelope.attackLength.toNat = 2 ^ exponent

theorem toNat_ofInt64 (value : ℤ) : ((UInt64.ofInt value).toNat : ℤ) = value % 2 ^ 64 := by
  simp only [UInt64.ofInt, UInt64.toNat_ofNat']
  omega

/-- Only the lower half of a sum is left. -/
theorem toInt_add (a b : UInt64) : toInt (a + b) = s32 (a.toNat + b.toNat) := by
  simp only [toInt, s32, UInt64.toNat_add]
  omega

theorem toNat_product (difference : ℤ) (time : UInt64) :
    ((UInt64.ofInt difference * time).toNat : ℤ) = difference * time.toNat % 2 ^ 64 := by
  rw [UInt64.toNat_mul, Int.natCast_emod, Nat.cast_mul, toNat_ofInt64, Nat.cast_pow]
  exact Int.ModEq.mul_right _ (Int.mod_modEq _ _)

theorem ediv_emod_pow (value : ℤ) {exponent : ℕ} (small : exponent ≤ 32) :
    value % 2 ^ 64 / 2 ^ exponent % 2 ^ 32 = value / 2 ^ exponent % 2 ^ 32 := by
  have positive : (0 : ℤ) < 2 ^ exponent := Int.pow_pos (by decide)
  have wide : (2 : ℤ) ^ 64 = 2 ^ exponent * (2 ^ 32 * 2 ^ (32 - exponent)) := by
    rw [← pow_add, ← pow_add]
    congr 1
    omega
  have split : value = value % 2 ^ 64 + 2 ^ exponent * (2 ^ 32 * (2 ^ (32 - exponent) *
      (value / 2 ^ 64))) := by
    have whole := Int.emod_add_mul_ediv value (2 ^ 64)
    calc value = value % 2 ^ 64 + 2 ^ 64 * (value / 2 ^ 64) := whole.symm
      _ = value % 2 ^ 64 + 2 ^ exponent * (2 ^ 32 * 2 ^ (32 - exponent)) * (value / 2 ^ 64) := by
        rw [← wide]
      _ = _ := by ring
  have divided : value / 2 ^ exponent = value % 2 ^ 64 / 2 ^ exponent +
      2 ^ 32 * (2 ^ (32 - exponent) * (value / 2 ^ 64)) := by
    conv => lhs; rw [split]
    exact Int.add_mul_ediv_left _ _ (by omega)
  rw [divided, Int.add_mul_emod_self_left]

/-- The share of the difference, up to multiples of `2 ^ 32`. -/
theorem attack_share (short : Short level)
    (holds : state.timePlaying.toNat = 0 ∨ AttackHolds envelope level)
    (attacks : state.timePlaying.toNat < envelope.attackLength.toNat) :
    ((UInt64.ofInt (level - attackFrom envelope level) * state.timePlaying /
        envelope.attackLength.toUInt64).toNat : ℤ) % 2 ^ 32 =
      (level - attackFrom envelope level) * state.timePlaying.toNat /
        envelope.attackLength.toNat % 2 ^ 32 := by
  have narrow := envelope.attackLength.toNat_lt
  have bounds := envelope.attackLevel.toNat_lt
  have start := attackFrom_cases envelope level
  simp only [Short] at short
  rw [UInt64.toNat_div, UInt16.toNat_toUInt64, Int.natCast_ediv, toNat_product]
  rcases holds with still | rising | ⟨exponent, power⟩
  · rw [still, Nat.cast_zero, Int.mul_zero]
    rfl
  · have low : 0 ≤ (level - attackFrom envelope level) * (state.timePlaying.toNat : ℤ) :=
      Int.mul_nonneg (by omega) (by omega)
    have high : (level - attackFrom envelope level) * (state.timePlaying.toNat : ℤ) ≤
        0x20000 * 0x10000 := Int.mul_le_mul (by omega) (by omega) (by omega) (by decide)
    rw [Int.emod_eq_of_lt low (by omega)]
  · have small : exponent ≤ 32 := by
      by_contra large
      have grows : 2 ^ 32 ≤ 2 ^ exponent := Nat.pow_le_pow_right (by decide) (by omega)
      omega
    rw [power, Nat.cast_pow]
    exact ediv_emod_pow _ small

theorem shape_attack (short : Short level)
    (holds : state.timePlaying.toNat = 0 ∨ AttackHolds envelope level)
    (attacks : state.timePlaying.toNat < envelope.attackLength.toNat) :
    state.shape envelope level = some (lerpFloor (attackFrom envelope level) level
      state.timePlaying.toNat envelope.attackLength.toNat) := by
  have share := attack_share short holds attacks
  have start := attackFrom_cases envelope level
  have bounds := envelope.attackLevel.toNat_lt
  have way : Towards (attackFrom envelope level) level _ _ := lerpFloor_towards
    (Nat.zero_lt_of_lt attacks) (Nat.le_refl state.timePlaying.toNat) (Nat.le_of_lt attacks)
  have between := way.of_le
  have inside : state.timePlaying < envelope.attackLength.toUInt64 := by
    rw [UInt64.lt_iff_toNat_lt, UInt16.toNat_toUInt64]
    exact attacks
  simp only [Short] at short
  simp only [shape, if_pos inside]
  change (int (level - attackFrom envelope level)).bind _ = _
  rw [int_of_fits (by omega) (by omega)]
  simp only [Option.bind_some, Option.some.injEq, toInt_add]
  have first := toNat_ofInt64 (attackFrom envelope level)
  simp only [attackFrom] at first
  simp only [lerpFloor] at between ⊢
  simp only [s32, attackFrom] at share between start ⊢
  omega

/-- The time into the fade, where there is one. -/
def fadeSpan (state : EffectState) (envelope : Envelope) : ℕ :=
  if state.effect.replayLength = 0 then 0
  else state.timePlaying.toNat + envelope.fadeLength.toNat - state.effect.replayLength.toNat

/-- The product of the fade fits an `int`. -/
def FadeHolds (state : EffectState) (envelope : Envelope) (level : ℤ) : Prop :=
  -0x80000000 ≤ (level - fadeTo envelope level) * state.fadeSpan envelope ∧
    (level - fadeTo envelope level) * state.fadeSpan envelope < 0x80000000

theorem fadeTime_fadeSpan (inTime : state.effect.replayLength ≠ 0 →
      state.timePlaying.toNat < state.effect.replayLength.toNat) :
    (state.effect.replayLength ≠ 0 ∧ 0 < state.fadeTime envelope ↔
        0 < state.fadeSpan envelope) ∧
      (0 < state.fadeSpan envelope → state.fadeTime envelope = state.fadeSpan envelope ∧
        state.fadeSpan envelope < envelope.fadeLength.toNat) := by
  simp only [fadeSpan]
  by_cases finite : state.effect.replayLength = 0
  · simp only [finite, ne_eq, not_true_eq_false, false_and, if_true, Nat.lt_irrefl, false_implies,
      and_self]
  · have early := inTime finite
    have time := @fadeTime_eq state envelope early
    simp only [finite, ne_eq, not_false_eq_true, true_and, if_false, time]
    omega

theorem shape_fade (short : Short level) (holds : FadeHolds state envelope level)
    (inTime : state.effect.replayLength ≠ 0 →
      state.timePlaying.toNat < state.effect.replayLength.toNat)
    (attacked : envelope.attackLength.toNat ≤ state.timePlaying.toNat)
    (fades : 0 < state.fadeSpan envelope) :
    state.shape envelope level = some (lerp level (fadeTo envelope level)
      (state.fadeSpan envelope) envelope.fadeLength.toNat) := by
  have outside : ¬state.timePlaying < envelope.attackLength.toUInt64 := by
    rw [UInt64.lt_iff_toNat_lt, UInt16.toNat_toUInt64]
    omega
  have window := @fadeTime_fadeSpan state envelope inTime
  have span := window.2 fades
  have stop := fadeTo_cases envelope level
  have bounds := envelope.fadeLevel.toNat_lt
  have wide : 0 < envelope.fadeLength.toNat := by omega
  have between := @lerp_between level (fadeTo envelope level) (state.fadeSpan envelope)
    envelope.fadeLength.toNat wide (Nat.le_of_lt span.2)
  simp only [Short] at short
  simp only [FadeHolds] at holds
  simp only [shape, if_neg outside, if_pos (window.1.mpr fades)]
  rw [lerp_eq_sub] at between ⊢
  simp only [fadeTo] at holds between stop ⊢
  rw [int_of_fits (by omega) (by omega)]
  change (int (_ * _)).bind _ = _
  rw [span.1, int_of_fits holds.1 holds.2]
  change (divInt _ _).bind _ = _
  rw [divInt_of_fits (by omega) (by omega) (by omega)]
  exact int_of_fits (by omega) (by omega)

theorem shape_hold (inTime : state.effect.replayLength ≠ 0 →
      state.timePlaying.toNat < state.effect.replayLength.toNat)
    (attacked : envelope.attackLength.toNat ≤ state.timePlaying.toNat)
    (holds : state.fadeSpan envelope = 0) : state.shape envelope level = some level := by
  have outside : ¬state.timePlaying < envelope.attackLength.toUInt64 := by
    rw [UInt64.lt_iff_toNat_lt, UInt16.toNat_toUInt64]
    omega
  have unfaded : ¬(state.effect.replayLength ≠ 0 ∧ 0 < state.fadeTime envelope) := by
    rw [(@fadeTime_fadeSpan state envelope inTime).1]
    omega
  simp only [shape, if_neg outside, if_neg unfaded]

end EffectState

end TrueForce.Classic
