import TrueForce.Ffb.EffectMath
import TrueForce.Foundation.CheckedInt
import TrueForce.Foundation.Lerp
import Mathlib.Algebra.Order.Group.Unbundled.Int
import Mathlib.Tactic.Linarith

/-!
# The law of the envelope

`hidpp_dd_apply_envelope` in the arithmetic of its types, where it turns out to lose
nothing, and the shape that it gives a magnitude: from the attack level to the
magnitude, on to the fade level at the end of a finite effect, and nothing else.
-/

namespace TrueForce.Ffb

open TrueForce.CInt TrueForce.CInt.CType TrueForce.Interpolation

namespace Checked

/-- What a ramp has covered of a difference: an `s64` product over an `s32` span. -/
def share (difference : ℤ) (time span : ℕ) : Option ℤ := do
  let time ← fit .s32 time
  let span ← fit .s32 span
  let product ← fit .s64 (difference * time)
  let covered ← quotient .s64 product span
  fit .s32 covered

def scaled (env : Envelope) (absMag : ℤ) (elapsedMs lengthMs : ℕ) : Option ℤ := do
  let attackLevel : ℤ := env.attackLevel.toNat
  let fadeLevel : ℤ := env.fadeLevel.toNat
  let attackLength := env.attackLength.toNat
  let fadeLength := env.fadeLength.toNat
  if attackLength ≠ 0 ∧ elapsedMs < attackLength then
    let difference ← fit .s32 (absMag - attackLevel)
    let covered ← share difference elapsedMs attackLength
    fit .s32 (attackLevel + covered)
  else if lengthMs ≠ 0 ∧ fadeLength ≠ 0 ∧ fadeLength ≤ lengthMs then
    let fadeStart ← fit .u32 ((lengthMs : ℤ) - fadeLength)
    if fadeStart < elapsedMs then
      let time ← fit .u32 ((elapsedMs : ℤ) - fadeStart)
      let difference ← fit .s32 (absMag - fadeLevel)
      let covered ← share difference (min time.toNat fadeLength) fadeLength
      fit .s32 (absMag - covered)
    else some absMag
  else some absMag

/-- `hidpp_dd_apply_envelope` -/
def applyEnvelope (env : Envelope) (magnitude : ℤ) (elapsedMs lengthMs : ℕ) : Option ℤ :=
  if env.attackLength = 0 ∧ env.fadeLength = 0 then some magnitude
  else if magnitude < 0 then do
    let absMag ← fit .s32 (-magnitude)
    let level ← scaled env absMag elapsedMs lengthMs
    fit .s32 (-level)
  else scaled env magnitude elapsedMs lengthMs

variable {difference absMag : ℤ} {time span : ℕ}

theorem share_eq (small : -0x10000 ≤ difference ∧ difference ≤ 0x10000) (wide : 0 < span)
    (narrow : span < 0x10000) (inside : time ≤ span) :
    share difference time span = some ((difference * time).tdiv span) := by
  have between := @lerp_between 0 difference time span wide inside
  simp only [lerp, Int.sub_zero, Int.zero_add] at between
  have product : -0x100000000 ≤ difference * time ∧ difference * time ≤ 0x100000000 := by
    constructor <;> nlinarith
  simp only [share, quotient, bind, Option.bind_eq_some_iff, fit_eq_some_iff, CType.Holds,
    CType.low, CType.high]
  refine ⟨time, ⟨by omega, rfl⟩, span, ⟨by omega, rfl⟩, _, ⟨by omega, rfl⟩, _, ?_, by omega, rfl⟩
  rw [if_neg (by omega)]
  exact fit_of_holds (holds_s64 (by omega))

theorem scaled_eq {env : Envelope} {elapsedMs lengthMs : ℕ} (mag : 0 ≤ absMag ∧ absMag ≤ 0x8000)
    (elapsed : elapsedMs < 0x100000000) (length : lengthMs < 0x100000000) :
    scaled env absMag elapsedMs lengthMs = some (envelopeLevel env absMag elapsedMs lengthMs) := by
  have attackLevel := env.attackLevel.toNat_lt
  have fadeLevel := env.fadeLevel.toNat_lt
  have attackLength := env.attackLength.toNat_lt
  have fadeLength := env.fadeLength.toNat_lt
  simp only [scaled, envelopeLevel]
  split
  · rename_i attack
    have between := @lerp_between env.attackLevel.toNat absMag elapsedMs env.attackLength.toNat
      (by omega) (by omega)
    simp only [lerp] at between
    rw [fit_bind (holds_s32 (by omega)), share_eq (by omega) (by omega) attackLength (by omega)]
    exact fit_of_holds (holds_s32 (by omega))
  · split
    · rename_i finite
      rw [fit_bind (holds_u32 (by omega))]
      split
      · rename_i fading
        have inside : min (elapsedMs - (lengthMs - env.fadeLength.toNat)) env.fadeLength.toNat ≤
            env.fadeLength.toNat := Nat.min_le_right _ _
        have between := @lerp_between absMag env.fadeLevel.toNat _ env.fadeLength.toNat
          (by omega) inside
        rw [lerp_eq_sub] at between
        have window : lengthMs ≠ 0 ∧ env.fadeLength.toNat ≠ 0 ∧ env.fadeLength.toNat ≤ lengthMs ∧
            lengthMs - env.fadeLength.toNat < elapsedMs := by omega
        have time : ((elapsedMs : ℤ) - ((lengthMs : ℤ) - env.fadeLength.toNat)).toNat =
            elapsedMs - (lengthMs - env.fadeLength.toNat) := by omega
        rw [if_pos window, fit_bind (holds_u32 (by omega)), fit_bind (holds_s32 (by omega)), time,
          share_eq (by omega) (by omega) fadeLength inside]
        exact fit_of_holds (holds_s32 (by omega))
      · rename_i holding
        rw [if_neg (by omega)]
    · rename_i infinite
      rw [if_neg (by omega)]

end Checked

variable {env : Envelope} {absMag : ℤ} {elapsedMs lengthMs : ℕ}

/-- The attack window. -/
def Envelope.Attacks (env : Envelope) (elapsedMs : ℕ) : Prop := elapsedMs < env.attackLength.toNat

/-- The fade window of an effect of that length; the attack comes first where they overlap. -/
def Envelope.Fades (env : Envelope) (lengthMs elapsedMs : ℕ) : Prop :=
  ¬env.Attacks elapsedMs ∧ lengthMs ≠ 0 ∧ 0 < env.fadeLength.toNat ∧
    env.fadeLength.toNat ≤ lengthMs ∧ lengthMs - env.fadeLength.toNat < elapsedMs

/-- The magnitude and the levels of the windows that the envelope has. -/
def Envelope.levels (env : Envelope) (absMag : ℤ) : List ℤ :=
  absMag :: ((if env.attackLength = 0 then [] else [(env.attackLevel.toNat : ℤ)]) ++
    if env.fadeLength = 0 then [] else [(env.fadeLevel.toNat : ℤ)])

theorem envelopeLevel_attack (attacks : env.Attacks elapsedMs) :
    envelopeLevel env absMag elapsedMs lengthMs =
      lerp env.attackLevel.toNat absMag elapsedMs env.attackLength.toNat := by
  simp only [Envelope.Attacks] at attacks
  exact if_pos ⟨by omega, attacks⟩

theorem envelopeLevel_fade (fades : env.Fades lengthMs elapsedMs) :
    envelopeLevel env absMag elapsedMs lengthMs =
      lerp absMag env.fadeLevel.toNat
        (min (elapsedMs - (lengthMs - env.fadeLength.toNat)) env.fadeLength.toNat)
        env.fadeLength.toNat := by
  simp only [Envelope.Fades, Envelope.Attacks] at fades
  rw [lerp_eq_sub]
  exact (if_neg (by omega)).trans (if_pos (by omega))

theorem envelopeLevel_hold (held : ¬env.Attacks elapsedMs)
    (unfaded : ¬env.Fades lengthMs elapsedMs) :
    envelopeLevel env absMag elapsedMs lengthMs = absMag := by
  simp only [Envelope.Fades, Envelope.Attacks] at held unfaded
  exact (if_neg (by omega)).trans (if_neg (by omega))

theorem envelopeLevel_attack_start (attacks : env.Attacks 0) :
    envelopeLevel env absMag 0 lengthMs = env.attackLevel.toNat := by
  rw [envelopeLevel_attack attacks, lerp_zero]

theorem envelopeLevel_attack_towards {first later : ℕ} (ordered : first ≤ later)
    (attacks : env.Attacks later) :
    Towards env.attackLevel.toNat absMag (envelopeLevel env absMag first lengthMs)
      (envelopeLevel env absMag later lengthMs) := by
  have length : later < env.attackLength.toNat := attacks
  have begins : env.Attacks first := Nat.lt_of_le_of_lt ordered length
  rw [envelopeLevel_attack begins, envelopeLevel_attack attacks]
  exact lerp_towards (by omega) ordered (by omega)

theorem envelopeLevel_fade_towards {first later : ℕ} (ordered : first ≤ later)
    (fades : env.Fades lengthMs first) :
    Towards absMag env.fadeLevel.toNat (envelopeLevel env absMag first lengthMs)
      (envelopeLevel env absMag later lengthMs) := by
  have goesOn : env.Fades lengthMs later := by
    simp only [Envelope.Fades, Envelope.Attacks] at fades ⊢
    omega
  rw [envelopeLevel_fade fades, envelopeLevel_fade goesOn]
  exact lerp_towards fades.2.2.1 (by omega) (Nat.min_le_right _ _)

theorem envelopeLevel_fade_end (past : lengthMs ≤ elapsedMs)
    (fades : env.Fades lengthMs elapsedMs) :
    envelopeLevel env absMag elapsedMs lengthMs = env.fadeLevel.toNat := by
  have last : min (elapsedMs - (lengthMs - env.fadeLength.toNat)) env.fadeLength.toNat =
      env.fadeLength.toNat := by
    simp only [Envelope.Fades] at fades
    omega
  rw [envelopeLevel_fade fades, last, lerp_span fades.2.2.1]

theorem Envelope.attackLevel_mem_levels (attacks : env.Attacks elapsedMs) :
    (env.attackLevel.toNat : ℤ) ∈ env.levels absMag := by
  have present : env.attackLength ≠ 0 := by
    rintro none
    simp only [Envelope.Attacks, none, UInt16.toNat_zero, Nat.not_lt_zero] at attacks
  simp only [Envelope.levels, present, if_false, List.mem_cons, List.mem_append, List.cons_append,
    true_or, or_true]

theorem Envelope.fadeLevel_mem_levels (fades : env.Fades lengthMs elapsedMs) :
    (env.fadeLevel.toNat : ℤ) ∈ env.levels absMag := by
  have present : env.fadeLength ≠ 0 := by
    rintro none
    simp only [Envelope.Fades, none, UInt16.toNat_zero, Nat.lt_irrefl, false_and, and_false]
      at fades
  simp only [Envelope.levels, present, if_false, List.mem_cons, List.mem_append, true_or, or_true]

theorem Envelope.range_of_mem_levels {level : ℤ} (mem : level ∈ env.levels absMag) :
    level = absMag ∨ 0 ≤ level ∧ level < 0x10000 := by
  have attackLevel := env.attackLevel.toNat_lt
  have fadeLevel := env.fadeLevel.toNat_lt
  simp only [Envelope.levels, List.mem_cons, List.mem_append] at mem
  rcases mem with same | mem | mem
  · exact .inl same
  · split at mem
    · cases mem
    · rw [List.mem_singleton] at mem
      omega
  · split at mem
    · cases mem
    · rw [List.mem_singleton] at mem
      omega

/-- No level is left at either end of the way between two of them. -/
theorem Envelope.levels_bound {start stop : ℤ} {time span : ℕ} (first : start ∈ env.levels absMag)
    (second : stop ∈ env.levels absMag) (wide : 0 < span) (inside : time ≤ span) :
    (∃ low ∈ env.levels absMag, low ≤ lerp start stop time span) ∧
      ∃ high ∈ env.levels absMag, lerp start stop time span ≤ high := by
  rcases @lerp_between start stop time span wide inside with ⟨above, below⟩
  constructor
  · rcases min_choice start stop with least | least
    · exact ⟨start, first, (le_of_eq least.symm).trans above⟩
    · exact ⟨stop, second, (le_of_eq least.symm).trans above⟩
  · rcases max_choice start stop with greatest | greatest
    · exact ⟨start, first, below.trans (le_of_eq greatest)⟩
    · exact ⟨stop, second, below.trans (le_of_eq greatest)⟩

theorem envelopeLevel_bound :
    (∃ low ∈ env.levels absMag, low ≤ envelopeLevel env absMag elapsedMs lengthMs) ∧
      ∃ high ∈ env.levels absMag, envelopeLevel env absMag elapsedMs lengthMs ≤ high := by
  have own : absMag ∈ env.levels absMag := List.mem_cons_self
  by_cases attacks : env.Attacks elapsedMs
  · rw [envelopeLevel_attack attacks]
    have length : elapsedMs < env.attackLength.toNat := attacks
    exact Envelope.levels_bound (Envelope.attackLevel_mem_levels attacks) own (by omega) (by omega)
  · by_cases fades : env.Fades lengthMs elapsedMs
    · rw [envelopeLevel_fade fades]
      exact Envelope.levels_bound own (Envelope.fadeLevel_mem_levels fades) fades.2.2.1
        (Nat.min_le_right _ _)
    · rw [envelopeLevel_hold attacks fades]
      exact ⟨⟨absMag, own, le_refl _⟩, absMag, own, le_refl _⟩

theorem envelopeLevel_nonneg (mag : 0 ≤ absMag) :
    0 ≤ envelopeLevel env absMag elapsedMs lengthMs := by
  rcases (@envelopeLevel_bound env absMag elapsedMs lengthMs).1 with ⟨low, mem, below⟩
  have level := Envelope.range_of_mem_levels mem
  omega

theorem applyEnvelope_eq (magnitude : ℤ) :
    applyEnvelope env magnitude elapsedMs lengthMs =
      if magnitude < 0 then -envelopeLevel env |magnitude| elapsedMs lengthMs
      else envelopeLevel env |magnitude| elapsedMs lengthMs := by
  simp only [applyEnvelope]
  split
  · rename_i flat
    have held : ¬env.Attacks elapsedMs := by
      simp only [Envelope.Attacks, flat.1, UInt16.toNat_zero, Nat.not_lt_zero, not_false_iff]
    have unfaded : ¬env.Fades lengthMs elapsedMs := by
      simp only [Envelope.Fades, flat.2, UInt16.toNat_zero, Nat.lt_irrefl, false_and, and_false,
        not_false_iff]
    rw [envelopeLevel_hold held unfaded]
    split
    · rename_i negative
      rw [abs_of_neg negative, Int.neg_neg]
    · rename_i positive
      rw [abs_of_nonneg (Int.not_lt.mp positive)]
  · split
    · rename_i negative
      rw [abs_of_neg negative]
    · rename_i positive
      rw [abs_of_nonneg (Int.not_lt.mp positive)]

theorem abs_applyEnvelope (magnitude : ℤ) :
    |applyEnvelope env magnitude elapsedMs lengthMs| =
      envelopeLevel env |magnitude| elapsedMs lengthMs := by
  have level := @envelopeLevel_nonneg env |magnitude| elapsedMs lengthMs (abs_nonneg _)
  rw [applyEnvelope_eq]
  split
  · rw [abs_neg, abs_of_nonneg level]
  · rw [abs_of_nonneg level]

theorem applyEnvelope_sign (magnitude : ℤ) :
    0 ≤ magnitude * applyEnvelope env magnitude elapsedMs lengthMs := by
  have level := @envelopeLevel_nonneg env |magnitude| elapsedMs lengthMs (abs_nonneg _)
  rw [applyEnvelope_eq]
  split
  · rename_i negative
    exact mul_nonneg_of_nonpos_of_nonpos (by omega) (by omega)
  · rename_i positive
    exact mul_nonneg (Int.not_lt.mp positive) level

/-- Where the level is the magnitude's own, the envelope does nothing. -/
theorem applyEnvelope_eq_self {magnitude : ℤ}
    (same : envelopeLevel env |magnitude| elapsedMs lengthMs = |magnitude|) :
    applyEnvelope env magnitude elapsedMs lengthMs = magnitude := by
  rw [applyEnvelope_eq, same]
  split
  · rename_i negative
    rw [abs_of_neg negative, Int.neg_neg]
  · rename_i positive
    exact abs_of_nonneg (Int.not_lt.mp positive)

theorem Checked.applyEnvelope_eq {magnitude : ℤ} (range : -0x8000 ≤ magnitude ∧ magnitude ≤ 0x8000)
    (elapsed : elapsedMs < 0x100000000) (length : lengthMs < 0x100000000) :
    Checked.applyEnvelope env magnitude elapsedMs lengthMs =
      some (Ffb.applyEnvelope env magnitude elapsedMs lengthMs) := by
  simp only [Checked.applyEnvelope, Ffb.applyEnvelope]
  split
  · rfl
  · split
    · rename_i negative
      have level := @envelopeLevel_nonneg env (-magnitude) elapsedMs lengthMs (by omega)
      rcases (@envelopeLevel_bound env (-magnitude) elapsedMs lengthMs).2 with ⟨high, mem, below⟩
      have small := Envelope.range_of_mem_levels mem
      rw [fit_bind (holds_s32 (by omega)), Checked.scaled_eq (by omega) elapsed length]
      exact fit_of_holds (holds_s32 (by omega))
    · exact Checked.scaled_eq (by omega) elapsed length

/-- The envelope is computed without loss, keeps the sign, stays within its levels, goes from the
attack level to the magnitude in the one window and from there to the fade level in the other, and
holds the magnitude outside of both. -/
theorem envelope_law (env : Envelope) (magnitude : Int16) (lengthMs : UInt32) :
    let shaped (elapsedMs : UInt32) :=
      applyEnvelope env magnitude.toInt elapsedMs.toNat lengthMs.toNat
    (∀ elapsedMs : UInt32, Checked.applyEnvelope env magnitude.toInt elapsedMs.toNat
      lengthMs.toNat = some (shaped elapsedMs) ∧
        0 ≤ magnitude.toInt * shaped elapsedMs ∧
        (∃ low ∈ env.levels |magnitude.toInt|, low ≤ |shaped elapsedMs|) ∧
        (∃ high ∈ env.levels |magnitude.toInt|, |shaped elapsedMs| ≤ high) ∧
        (¬env.Attacks elapsedMs.toNat → ¬env.Fades lengthMs.toNat elapsedMs.toNat →
          |shaped elapsedMs| = |magnitude.toInt|)) ∧
    (env.Attacks 0 → |shaped 0| = env.attackLevel.toNat) ∧
    (∀ first later, first ≤ later → env.Attacks later.toNat →
      Towards env.attackLevel.toNat |magnitude.toInt| |shaped first| |shaped later|) ∧
    (∀ first later, first ≤ later → env.Fades lengthMs.toNat first.toNat →
      Towards |magnitude.toInt| env.fadeLevel.toNat |shaped first| |shaped later|) ∧
    ∀ elapsedMs, lengthMs ≤ elapsedMs → env.Fades lengthMs.toNat elapsedMs.toNat →
      |shaped elapsedMs| = env.fadeLevel.toNat := by
  intro shaped
  have range := And.intro magnitude.le_toInt magnitude.toInt_lt
  simp only [shaped, abs_applyEnvelope]
  refine ⟨?_, ?_, ?_, ?_, ?_⟩
  · intro elapsedMs
    refine ⟨Checked.applyEnvelope_eq (by omega) elapsedMs.toNat_lt lengthMs.toNat_lt,
      applyEnvelope_sign _, envelopeLevel_bound.1, envelopeLevel_bound.2, envelopeLevel_hold⟩
  · intro attacks
    rw [UInt32.toNat_zero, envelopeLevel_attack_start attacks]
  · intro first later ordered attacks
    exact envelopeLevel_attack_towards ordered attacks
  · intro first later ordered fades
    exact envelopeLevel_fade_towards ordered fades
  · intro elapsedMs past fades
    exact envelopeLevel_fade_end past fades

end TrueForce.Ffb
