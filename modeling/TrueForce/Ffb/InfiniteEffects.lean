import TrueForce.Ffb.Engine
import TrueForce.Ffb.EnvelopeLaw

/-!
# Effects without an end

The timer lets an effect whose `replay.length` is 0 or 0xFFFF play on for ever.  The
envelope and the ramp know only the first of the two: to them 0xFFFF is a length like
any other, so such an effect fades, and a ramp climbs, towards its 65535th millisecond.
-/

namespace TrueForce.Ffb

open TrueForce.Interpolation

namespace FfEffect

variable {kernel : Kernel} {tunables : Tunables} {effect : FfEffect} {elapsedMs : ℕ}

/-- The lengths that the timer takes for no timeout. -/
def Endless (effect : FfEffect) : Prop := effect.replayLength = 0 ∨ effect.replayLength = 0xFFFF

/-- The envelope of a constant, ramp or periodic effect. -/
def envelope (effect : FfEffect) : Option Envelope :=
  match effect.kind with
  | .constant _ envelope | .ramp _ _ envelope | .periodic _ _ _ _ _ envelope => some envelope
  | _ => none

/-- The magnitude that the envelope is applied to. -/
def magnitude (kernel : Kernel) (tunables : Tunables) (effect : FfEffect) (elapsedMs : ℕ) : ℤ :=
  match effect.kind with
  | .constant level _ =>
      let projected := projectConstant kernel effect.direction level
      if tunables.ffbConstantSign then -projected else projected
  | .ramp startLevel endLevel _ =>
      rampLevel startLevel endLevel elapsedMs effect.replayLength.toNat
  | .periodic _ _ magnitude _ _ _ => magnitude.toInt
  | _ => 0

/-- The magnitude that the envelope yields. -/
def shaped (kernel : Kernel) (tunables : Tunables) (effect : FfEffect) (envelope : Envelope)
    (elapsedMs : ℕ) : ℤ :=
  applyEnvelope envelope (effect.magnitude kernel tunables elapsedMs) elapsedMs
    effect.replayLength.toNat

/-- Past the attack the envelope yields one full magnitude at every time. -/
def NeverFades (kernel : Kernel) (tunables : Tunables) (effect : FfEffect) (envelope : Envelope) :
    Prop :=
  ∃ full, ∀ elapsedMs : UInt32, envelope.attackLength.toNat ≤ elapsedMs.toNat →
    effect.magnitude kernel tunables elapsedMs.toNat = full ∧
      effect.shaped kernel tunables envelope elapsedMs.toNat = full

/-- The level that a ramp ends at, and any other effect has throughout. -/
def lastMagnitude (kernel : Kernel) (tunables : Tunables) (effect : FfEffect) : ℤ :=
  match effect.kind with
  | .ramp _ endLevel _ => endLevel.toInt
  | _ => effect.magnitude kernel tunables 0

/-- The 65535 milliseconds make no difference to the effect: there is no fade, or one to the
magnitude itself, and a ramp is level or has its climb within the attack. -/
def IgnoresLength (kernel : Kernel) (tunables : Tunables) (effect : FfEffect)
    (envelope : Envelope) : Prop :=
  (envelope.fadeLength = 0 ∨ envelope.fadeLevel.toNat = |effect.lastMagnitude kernel tunables|) ∧
    match effect.kind with
    | .ramp startLevel endLevel _ => startLevel = endLevel ∨ envelope.attackLength = 0xFFFF
    | _ => True

theorem rampLevel_eq (startLevel endLevel : Int16) {duration : ℕ} (bounded : duration ≠ 0) :
    rampLevel startLevel endLevel elapsedMs duration =
      lerp startLevel.toInt endLevel.toInt (min elapsedMs duration) duration :=
  if_neg bounded

theorem magnitude_of_zero (none : effect.replayLength = 0) :
    effect.magnitude kernel tunables elapsedMs = effect.magnitude kernel tunables 0 := by
  simp only [magnitude, none]
  split <;> rfl

/-- At the end of the 65535 milliseconds a ramp has arrived. -/
theorem magnitude_last (max : effect.replayLength = 0xFFFF) :
    effect.magnitude kernel tunables 0xFFFF = effect.lastMagnitude kernel tunables := by
  cases kind : effect.kind with
  | ramp startLevel endLevel envelope =>
      simp only [lastMagnitude, magnitude, kind, max]
      rw [rampLevel_eq startLevel endLevel (by decide)]
      exact lerp_span (by decide)
  | _ => simp only [lastMagnitude, magnitude, kind]

theorem magnitude_of_ignores {envelope : Envelope} (max : effect.replayLength = 0xFFFF)
    (ignores : effect.IgnoresLength kernel tunables envelope)
    (past : envelope.attackLength.toNat ≤ elapsedMs) :
    effect.magnitude kernel tunables elapsedMs = effect.lastMagnitude kernel tunables := by
  have climb := ignores.2
  cases kind : effect.kind with
  | ramp startLevel endLevel shape =>
      rw [kind] at climb
      simp only [lastMagnitude, magnitude, kind, max]
      rw [rampLevel_eq startLevel endLevel (by decide)]
      rcases climb with level | whole
      · rw [level]
        exact lerp_self
      · have arrived : min elapsedMs (0xFFFF : UInt16).toNat = (0xFFFF : UInt16).toNat := by
          rw [whole] at past
          exact Nat.min_eq_right past
        rw [arrived]
        exact lerp_span (by decide)
  | _ => simp only [lastMagnitude, magnitude, kind]

theorem shaped_of_zero {envelope : Envelope} (none : effect.replayLength = 0)
    (past : envelope.attackLength.toNat ≤ elapsedMs) :
    effect.shaped kernel tunables envelope elapsedMs =
      effect.magnitude kernel tunables elapsedMs := by
  apply applyEnvelope_eq_self
  apply envelopeLevel_hold
  · simp only [Envelope.Attacks]
    omega
  · simp only [Envelope.Fades, none, UInt16.toNat_zero, ne_eq, not_true_eq_false, false_and,
      and_false, not_false_iff]

theorem shaped_of_ignores {envelope : Envelope} (max : effect.replayLength = 0xFFFF)
    (ignores : effect.IgnoresLength kernel tunables envelope)
    (past : envelope.attackLength.toNat ≤ elapsedMs) :
    effect.shaped kernel tunables envelope elapsedMs = effect.lastMagnitude kernel tunables := by
  have held : ¬envelope.Attacks elapsedMs := by
    simp only [Envelope.Attacks]
    omega
  rw [shaped, magnitude_of_ignores max ignores past]
  apply applyEnvelope_eq_self
  by_cases fades : envelope.Fades effect.replayLength.toNat elapsedMs
  · rcases ignores.1 with unfaded | same
    · simp only [Envelope.Fades, unfaded, UInt16.toNat_zero, Nat.lt_irrefl, false_and,
        and_false] at fades
    · rw [envelopeLevel_fade fades, same]
      exact lerp_self
  · exact envelopeLevel_hold held fades

theorem ignores_of_neverFades {envelope : Envelope} (own : effect.envelope = some envelope)
    (max : effect.replayLength = 0xFFFF)
    (never : effect.NeverFades kernel tunables envelope) :
    effect.IgnoresLength kernel tunables envelope := by
  rcases never with ⟨full, never⟩
  have attack := envelope.attackLength.toNat_lt
  rcases never 0xFFFF (Nat.le_of_lt_succ attack) with ⟨last, faded⟩
  change effect.magnitude kernel tunables 0xFFFF = full at last
  change effect.shaped kernel tunables envelope 0xFFFF = full at faded
  refine ⟨?_, ?_⟩
  · rw [or_iff_not_imp_left]
    intro fade
    have wide : 0 < envelope.fadeLength.toNat := by
      rw [Nat.pos_iff_ne_zero]
      intro none
      exact fade (UInt16.toNat_inj.mp none)
    have fades : envelope.Fades effect.replayLength.toNat 0xFFFF := by
      have narrow := envelope.fadeLength.toNat_lt
      have length : effect.replayLength.toNat = 0xFFFF := by rw [max]; rfl
      simp only [Envelope.Fades, Envelope.Attacks, length]
      omega
    have level := congrArg abs faded
    rw [shaped, abs_applyEnvelope, envelopeLevel_fade fades, max] at level
    have whole : min (0xFFFF - ((0xFFFF : UInt16).toNat - envelope.fadeLength.toNat))
        envelope.fadeLength.toNat = envelope.fadeLength.toNat := by
      have narrow := envelope.fadeLength.toNat_lt
      change min (0xFFFF - (0xFFFF - envelope.fadeLength.toNat)) _ = _
      omega
    rw [whole, lerp_span wide] at level
    rw [← magnitude_last max, last]
    exact level
  · have begins := (never envelope.attackLength.toUInt32 (by rw [UInt16.toNat_toUInt32])).1
    rw [UInt16.toNat_toUInt32] at begins
    split
    · rename_i startLevel endLevel ramp kind
      have mine : ramp = envelope := by
        simp only [FfEffect.envelope, kind, Option.some.injEq] at own
        exact own
      have stays : effect.magnitude kernel tunables envelope.attackLength.toNat =
          effect.magnitude kernel tunables 0xFFFF := begins.trans last.symm
      rw [magnitude_last max] at stays
      simp only [magnitude, lastMagnitude, kind, max] at stays
      rw [rampLevel_eq _ _ (by decide)] at stays
      have inside : min envelope.attackLength.toNat (0xFFFF : UInt16).toNat ≤
          (0xFFFF : UInt16).toNat := Nat.min_le_right _ _
      rcases (lerp_eq_stop_iff (by decide) inside).mp stays with level | whole
      · exact .inl (Int16.toInt_inj.mp level)
      · right
        apply UInt16.toNat_inj.mp
        have narrow : envelope.attackLength.toNat ≤ (0xFFFF : UInt16).toNat :=
          Nat.le_of_lt_succ attack
        rw [Nat.min_eq_left narrow] at whole
        exact whole
    · trivial

/-- An endless effect keeps its magnitude exactly if its length is 0, or the 65535 milliseconds
make no difference to it. -/
theorem endless_never_fades_iff (kernel : Kernel) (tunables : Tunables) {effect : FfEffect}
    {envelope : Envelope} (own : effect.envelope = some envelope) (endless : effect.Endless) :
    effect.NeverFades kernel tunables envelope ↔
      effect.replayLength = 0 ∨ effect.IgnoresLength kernel tunables envelope := by
  constructor
  · intro never
    rcases endless with none | max
    · exact .inl none
    · exact .inr (ignores_of_neverFades own max never)
  · intro condition
    by_cases none : effect.replayLength = 0
    · refine ⟨effect.magnitude kernel tunables 0, ?_⟩
      intro elapsedMs past
      rw [shaped_of_zero none past, magnitude_of_zero none]
      exact ⟨rfl, rfl⟩
    · have max := endless.resolve_left none
      have ignores := condition.resolve_left none
      refine ⟨effect.lastMagnitude kernel tunables, ?_⟩
      intro elapsedMs past
      exact ⟨magnitude_of_ignores max ignores past, shaped_of_ignores max ignores past⟩

def fadeToNothing : Envelope where
  attackLength := 0
  attackLevel := 0
  fadeLength := 1000
  fadeLevel := 0

/-- A vibration that fades to nothing in its last second. -/
def vibration (replayLength : UInt16) : FfEffect where
  kind := .periodic .sine 100 0x4000 0 0 fadeToNothing
  direction := 0x4000
  replayLength := replayLength
  replayDelay := 0

theorem endless_never_fades_vibration :
    (vibration 0).NeverFades quarterKernel defaultTunables fadeToNothing :=
  (endless_never_fades_iff quarterKernel defaultTunables rfl (.inl rfl)).mpr (.inl rfl)

/-- After 65.5 seconds the endless vibration is gone. -/
theorem endless_vibration_fades :
    (vibration 0xFFFF).Endless ∧ (vibration 0xFFFF).envelope = some fadeToNothing ∧
      ¬(vibration 0xFFFF).NeverFades quarterKernel defaultTunables fadeToNothing := by
  refine ⟨.inr rfl, rfl, ?_⟩
  rintro ⟨full, never⟩
  have begins := (never 0 (by decide)).2
  have ends := (never 0xFFFF (by decide)).2
  have differ : (vibration 0xFFFF).shaped quarterKernel defaultTunables fadeToNothing 0 ≠
      (vibration 0xFFFF).shaped quarterKernel defaultTunables fadeToNothing 0xFFFF := by decide
  exact differ (begins.trans ends.symm)

end FfEffect

end TrueForce.Ffb
