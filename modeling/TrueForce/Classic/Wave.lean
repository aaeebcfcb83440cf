import TrueForce.Classic.Shape

/-!
# The waveforms of the classic engine

The difference of a periodic effect from its offset, in closed form.  The two angles
of which the phase is the sum are reduced, but the sum is not; and the phase is
unsigned, so that a triangle and the saws multiply a negative magnitude as an
unsigned one.
-/

namespace TrueForce.Classic

open TrueForce.CInt TrueForce.Ffb

variable {fixpSin32 : ℤ → ℤ} {state : EffectState} {magnitude offset phase : ℤ}

namespace EffectState

/-- `saw` as an integer. -/
def sawOf (phase magnitude : ℤ) : ℤ := phase * magnitude * 2 % 2 ^ 32 / 360

theorem saw_eq (state : EffectState) (magnitude : ℤ) :
    ((state.saw magnitude).toNat : ℤ) = sawOf state.phase.toNat magnitude := by
  have word : ((UInt32.ofInt magnitude).toNat : ℤ) = magnitude % 2 ^ 32 := by
    simp only [UInt32.ofInt, UInt32.toNat_ofNat']
    omega
  simp only [saw, sawOf, UInt32.toNat_div, UInt32.toNat_mul, UInt32.toNat_ofNat]
  rw [Int.natCast_ediv, Int.natCast_emod, Nat.cast_mul, Int.natCast_emod, Nat.cast_mul, word]
  have product : ((state.phase.toNat : ℤ) * (magnitude % 2 ^ 32) % ((2 ^ 32 : ℕ) : ℤ) *
      ((2 % 2 ^ 32 : ℕ) : ℤ)) % ((2 ^ 32 : ℕ) : ℤ) =
        state.phase.toNat * magnitude * 2 % 2 ^ 32 := by
    apply Int.ModEq.mul_right
    exact (Int.mod_modEq _ _).trans (Int.ModEq.mul_left _ (Int.mod_modEq _ _))
  rw [product]
  rfl

theorem sawOf_bounds (phase magnitude : ℤ) :
    0 ≤ sawOf phase magnitude ∧ sawOf phase magnitude ≤ 11930464 := by
  simp only [sawOf]
  omega

/-- What a waveform adds to the offset. -/
def deviation (fixpSin32 : ℤ → ℤ) (waveform : Waveform) (magnitude phase : ℤ) : ℤ :=
  match waveform with
  | .sine => (fixpSin16 fixpSin32 phase * magnitude).tdiv 0x7fff
  | .square => (if phase < 180 then 1 else -1) * magnitude
  | .triangle => (sawOf phase magnitude - magnitude).natAbs * 2 - magnitude
  | .sawUp => sawOf phase magnitude - magnitude
  | .sawDown => magnitude - sawOf phase magnitude
  | .other => 0

theorem sine_bounds (sine : KernelSine fixpSin32) (phase magnitude : ℤ) :
    (fixpSin16 fixpSin32 phase * magnitude).natAbs ≤ 0x7fff * magnitude.natAbs ∧
      ((fixpSin16 fixpSin32 phase * magnitude).tdiv 0x7fff).natAbs ≤ magnitude.natAbs := by
  have bounded := fixpSin16_bounded sine phase
  have product : (fixpSin16 fixpSin32 phase * magnitude).natAbs ≤ 0x7fff * magnitude.natAbs := by
    rw [Int.natAbs_mul]
    exact Nat.mul_le_mul_right _ (by omega)
  refine ⟨product, ?_⟩
  rw [Int.natAbs_tdiv]
  exact Nat.div_le_of_le_mul product

/-- No waveform leaves the `int`s. -/
theorem wave_eq (sine : KernelSine fixpSin32) (waveform : Waveform)
    (shaped : magnitude.natAbs ≤ 0x10000 - 1) (short : Short offset) :
    state.wave fixpSin32 waveform magnitude offset =
      some (offset + deviation fixpSin32 waveform magnitude state.phase.toNat) := by
  have saws := saw_eq state magnitude
  have bounds := sawOf_bounds state.phase.toNat magnitude
  have word : ((UInt32.ofInt magnitude).toNat : ℤ) = magnitude % 2 ^ 32 := by
    simp only [UInt32.ofInt, UInt32.toNat_ofNat']
    omega
  have middle : ((UInt32.ofInt offset).toNat : ℤ) = offset % 2 ^ 32 := by
    simp only [UInt32.ofInt, UInt32.toNat_ofNat']
    omega
  simp only [Short] at short
  cases waveform with
  | sine =>
      have sizes := sine_bounds sine state.phase.toNat magnitude
      simp only [wave, deviation]
      rw [int_of_fits (by omega) (by omega), Option.bind_eq_bind, Option.bind_some,
        divInt_of_fits (by decide) (by omega) (by omega), Option.bind_some]
      exact int_of_fits (by omega) (by omega)
  | square =>
      have sign : (state.phase < 180) = ((state.phase.toNat : ℤ) < 180) := by
        rw [UInt32.lt_iff_toNat_lt, ← Int.ofNat_lt]
        rfl
      simp only [wave, deviation, sign]
      split
      · exact int_of_fits (by omega) (by omega)
      · exact int_of_fits (by omega) (by omega)
  | triangle =>
      have distance : s32 (state.saw magnitude - .ofInt magnitude).toNat =
          sawOf state.phase.toNat magnitude - magnitude := by
        simp only [s32, UInt32.toNat_sub]
        omega
      simp only [wave, deviation, distance]
      rw [int_of_fits (by omega) (by omega), Option.bind_eq_bind, Option.bind_some,
        int_of_fits (by omega) (by omega), Option.bind_some, int_of_fits (by omega) (by omega),
        Option.bind_some]
      exact int_of_fits (by omega) (by omega)
  | sawUp =>
      simp only [wave, deviation, Option.some.injEq, s32, UInt32.toNat_add, UInt32.toNat_sub]
      omega
  | sawDown =>
      simp only [wave, deviation, Option.some.injEq, s32, UInt32.toNat_add, UInt32.toNat_sub]
      omega
  | other => simp only [wave, deviation, Int.add_zero]

end EffectState

end TrueForce.Classic
