import TrueForce.Ffb.AccelFilter
import TrueForce.Ffb.ConditionLaw
import TrueForce.Ffb.Engine

/-!
# The range of the motion arithmetic

The timer's refresh of velocity and acceleration in the arithmetic of its types.  The
time between two positions is an `s64` that `div_s64` takes for an `s32` divisor, so after
2.1 seconds without a change the velocity is anything; a very short time makes a velocity
that the filter cannot scale.  Everything else stays in range and keeps the sign of the
last change.
-/

namespace TrueForce.Ffb

open TrueForce.CInt TrueForce.Transition TrueForce.Interpolation

namespace Motion

/-- The change of the position, the short way round. -/
def delta (motion : Motion) : ℤ := s16 ((motion.pos.toNat : ℤ) - motion.posPrev.toNat)

def elapsed (motion : Motion) : ℤ := motion.posTs - motion.posPrevTs

def moved (motion : Motion) : Bool := motion.primed && motion.pos != motion.posPrev

end Motion

namespace Checked

/-- `div_s64`, whose divisor is an `s32` -/
def divS64 (dividend divisor : ℤ) : Option ℤ := do
  let narrowed ← fit .s32 divisor
  quotient .s64 dividend narrowed

/-- Half of the time, with the sign of the change. -/
def rounding (delta dt : ℤ) : Option ℤ :=
  if 0 ≤ delta then quotient .s64 dt 2
  else do
    let turned ← fit .s64 (-dt)
    quotient .s64 turned 2

def perMillisecond (delta dt : ℤ) : Option ℤ := do
  let scaled ← fit .s64 (delta * 1000000)
  let half ← rounding delta dt
  let rounded ← fit .s64 (scaled + half)
  let vel ← divS64 rounded dt
  fit .s32 vel

def perTick (delta : ℤ) (holdTicks : ℕ) : Option ℤ := do
  let ticks ← fit .s32 (holdTicks + 1 : ℕ)
  quotient .s32 delta ticks

def velocity (motion : Motion) : Option ℤ := do
  let dt ← fit .s64 motion.elapsed
  let derived ←
    (if 0 < dt then perMillisecond motion.delta dt else perTick motion.delta motion.holdTicks)
  some (if derived = 0 then (if 0 < motion.delta then 1 else -1) else derived)

def refreshVelocity (motion : Motion) : Option Motion :=
  if motion.primed = false then
    some { motion with
      posPrev := motion.pos, posPrevTs := motion.posTs, holdTicks := 0, vel := 0, velSlowQ8 := 0
      primed := true }
  else if motion.pos = motion.posPrev then
    let holdTicks := if motion.holdTicks < 0xFFFF then motion.holdTicks + 1 else motion.holdTicks
    some { motion with
      holdTicks := holdTicks
      vel := if velHoldTicks ≤ holdTicks then 0 else motion.vel }
  else do
    let vel ← velocity motion
    some { motion with
      vel := vel, posPrev := motion.pos, posPrevTs := motion.posTs, holdTicks := 0 }

def refresh (motion : Motion) : Option Motion := do
  let moved ← refreshVelocity motion
  let (velSlowQ8, accel) ← accelFilter moved.velSlowQ8 moved.vel ffTickMs accelTauMs
  some { moved with velSlowQ8 := velSlowQ8, accel := accel }

end Checked

namespace Motion

variable {motion : Motion} {delta dt vel : ℤ}

/-- Counts per millisecond, rounded to the nearest, without the sign. -/
def speed (delta dt : ℤ) : ℤ := (|delta| * 1000000 + dt / 2) / dt

/-- A size with the sign of the change. -/
def signed (delta size : ℤ) : ℤ := if 0 ≤ delta then size else -size

theorem delta_range : -0x8000 ≤ motion.delta ∧ motion.delta ≤ 0x7fff := by
  simp only [delta, s16]
  omega

theorem delta_eq_zero_iff : motion.delta = 0 ↔ motion.pos = motion.posPrev := by
  have pos := motion.pos.toNat_lt
  have posPrev := motion.posPrev.toNat_lt
  rw [← UInt16.toNat_inj]
  simp only [delta, s16]
  omega

theorem speed_nonneg (positive : 0 < dt) : 0 ≤ speed delta dt := by
  have size := abs_nonneg delta
  exact Int.ediv_nonneg (by omega) (by omega)

/-- What is added to the scaled change to round it. -/
def half (delta dt : ℤ) : ℤ := if 0 ≤ delta then dt.tdiv 2 else (-dt).tdiv 2

theorem half_eq (positive : 0 < dt) : half delta dt = if 0 ≤ delta then dt / 2 else -(dt / 2) := by
  have whole : dt.tdiv 2 = dt / 2 := Int.tdiv_eq_ediv_of_nonneg (by omega)
  rw [half, Int.neg_tdiv, whole]

/-- The rounded quotient is the speed with the sign of the change. -/
theorem rounded_eq (positive : 0 < dt) :
    (delta * 1000000 + half delta dt).tdiv dt = signed delta (speed delta dt) := by
  rw [half_eq positive, signed]
  split
  · rename_i rising
    rw [Int.tdiv_eq_ediv_of_nonneg (by omega), speed, abs_of_nonneg rising]
  · rename_i falling
    have size : |delta| = -delta := abs_of_neg (by omega)
    have turned : delta * 1000000 + -(dt / 2) = -(|delta| * 1000000 + dt / 2) := by omega
    rw [turned, Int.neg_tdiv, Int.tdiv_eq_ediv_of_nonneg (by omega), speed]

theorem rounding_eq (positive : 0 < dt) (holds : CType.s64.Holds dt) :
    Checked.rounding delta dt = some (half delta dt) := by
  have turned : CType.s64.Holds (-dt) := by
    simp only [CType.Holds, CType.low, CType.high] at holds ⊢
    omega
  simp only [Checked.rounding, half]
  split
  · exact quotient_of_pos (by decide) holds
  · exact (fit_bind turned).trans (quotient_of_pos (by decide) turned)

theorem perMillisecond_eq_some_iff (range : -0x8000 ≤ delta ∧ delta ≤ 0x7fff) (positive : 0 < dt)
    (holds : CType.s64.Holds dt) :
    Checked.perMillisecond delta dt = some vel ↔
      dt ≤ 0x7fffffff ∧ CType.s32.Holds vel ∧ vel = signed delta (speed delta dt) := by
  have part := @half_eq delta dt positive
  have sum : CType.s64.Holds (delta * 1000000 + half delta dt) := by
    simp only [CType.Holds, CType.low, CType.high] at holds ⊢
    split at part <;> omega
  rw [Checked.perMillisecond, fit_bind (CType.holds_s64 (by omega)),
    bind_of_eq (rounding_eq positive holds), fit_bind sum, ← rounded_eq positive]
  simp only [Checked.divS64, bind, Option.bind_eq_some_iff, fit_eq_some_iff, quotient_eq_some_iff]
  constructor
  · rintro ⟨_, ⟨_, ⟨narrow, rfl⟩, _, _, rfl⟩, fits, rfl⟩
    exact ⟨narrow.2, fits, rfl⟩
  · rintro ⟨narrow, fits, rfl⟩
    refine ⟨_, ⟨dt, ⟨CType.holds_s32 (by omega), rfl⟩, by omega, ?_, rfl⟩, fits, rfl⟩
    simp only [CType.Holds, CType.low, CType.high] at fits ⊢
    omega

/-- The last step of the velocity: what rounds to nothing keeps its direction. -/
theorem directed_eq {delta size : ℤ} (moved : delta ≠ 0) (nonneg : 0 ≤ size) :
    (if signed delta size = 0 then (if 0 < delta then 1 else -1) else signed delta size) =
      signed delta (max 1 size) := by
  simp only [signed]
  split <;> split <;> omega

theorem checkedVelocity_eq_some_iff (positive : 0 < motion.elapsed) (moved : motion.delta ≠ 0)
    (holds : CType.s64.Holds motion.elapsed) :
    Checked.velocity motion = some vel ↔
      motion.elapsed ≤ 0x7fffffff ∧
        CType.s32.Holds (signed motion.delta (speed motion.delta motion.elapsed)) ∧
          vel = signed motion.delta (max 1 (speed motion.delta motion.elapsed)) := by
  have directed := directed_eq moved (@speed_nonneg motion.delta _ positive)
  rw [Checked.velocity, fit_bind holds, if_pos positive]
  simp only [bind, Option.bind_eq_some_iff,
    perMillisecond_eq_some_iff delta_range positive holds, Option.some.injEq]
  constructor
  · rintro ⟨_, ⟨narrow, fits, rfl⟩, rfl⟩
    exact ⟨narrow, fits, directed⟩
  · rintro ⟨narrow, fits, rfl⟩
    exact ⟨_, ⟨narrow, fits, rfl⟩, directed⟩

theorem velocity_eq (positive : 0 < motion.elapsed) (moved : motion.delta ≠ 0)
    (narrow : motion.elapsed ≤ 0x7fffffff)
    (fits : CType.s32.Holds (signed motion.delta (speed motion.delta motion.elapsed))) :
    motion.velocity = signed motion.delta (max 1 (speed motion.delta motion.elapsed)) := by
  have divisor : s32 motion.elapsed = motion.elapsed :=
    s32_of_holds (CType.holds_s32 (by omega))
  have quotient : s32 ((motion.delta * 1000000 + half motion.delta motion.elapsed).tdiv
      (s32 motion.elapsed)) = signed motion.delta (speed motion.delta motion.elapsed) := by
    rw [divisor, rounded_eq positive, s32_of_holds fits]
  have unfolded : motion.velocity =
      let derived := if 0 < motion.elapsed
        then s32 ((motion.delta * 1000000 + half motion.delta motion.elapsed).tdiv
          (s32 motion.elapsed))
        else motion.delta.tdiv (motion.holdTicks + 1)
      if derived = 0 then (if 0 < motion.delta then 1 else -1) else derived := rfl
  rw [unfolded, if_pos positive, quotient]
  exact directed_eq moved (speed_nonneg positive)

theorem mul_signed_pos {delta size : ℤ} (moved : delta ≠ 0) (positive : 0 < size) :
    0 < delta * signed delta size := by
  rw [signed]
  split
  · exact mul_pos (by omega) positive
  · exact mul_pos_of_neg_of_neg (by omega) (by omega)

/-- What every tick leaves in range for the next. -/
structure Sound (motion : Motion) : Prop where
  tracker : CType.s32.Holds motion.velSlowQ8
  scaled : CType.s32.Holds (motion.vel * 256)
  apart : CType.s32.Holds (AccelFilter.gap motion.velSlowQ8 motion.vel)
  started : 0 ≤ motion.posPrevTs
  ordered : motion.posPrevTs ≤ motion.posTs
  stamped : motion.posTs ≤ 0x7fffffffffffffff
  later : motion.moved = true → motion.posPrevTs < motion.posTs

/-- The greatest speed that the tracker leaves room for in the direction of the change. -/
def headroom (motion : Motion) : ℤ :=
  if 0 ≤ motion.delta then (0x7fffffff + min motion.velSlowQ8 0) / 256
  else (0x80000000 - max motion.velSlowQ8 0) / 256

/-- The change came within 2.1 seconds and is not too fast; and a velocity is not dropped while the
tracker is at the least `s32`. -/
def InRange (motion : Motion) : Prop :=
  (motion.moved = true → motion.elapsed ≤ 0x7fffffff ∧ 0 < motion.headroom ∧
    |motion.delta| * 1000000 + motion.elapsed / 2 < (motion.headroom + 1) * motion.elapsed) ∧
  (motion.moved = false → motion.primed = true → velHoldTicks ≤ motion.holdTicks + 1 →
    motion.velSlowQ8 ≠ -0x80000000)

instance (motion : Motion) : Decidable motion.InRange := inferInstanceAs (Decidable (_ ∧ _))

theorem moved_eq_true_iff :
    motion.moved = true ↔ motion.primed = true ∧ motion.pos ≠ motion.posPrev := by
  simp only [moved, Bool.and_eq_true, bne_iff_ne]

theorem delta_ne_zero (moved : motion.moved = true) : motion.delta ≠ 0 :=
  fun zero => (moved_eq_true_iff.mp moved).2 (delta_eq_zero_iff.mp zero)

/-- The speed fits into the headroom exactly if the filter can take the velocity. -/
theorem headroom_iff (tracker : CType.s32.Holds motion.velSlowQ8) {size : ℤ} (positive : 0 < size) :
    size ≤ motion.headroom ↔ CType.s32.Holds (signed motion.delta size * 256) ∧
      CType.s32.Holds (AccelFilter.gap motion.velSlowQ8 (signed motion.delta size)) := by
  simp only [headroom, signed, AccelFilter.gap, CType.Holds, CType.low, CType.high] at tracker ⊢
  split <;> omega

theorem speed_le_iff {delta dt room : ℤ} (positive : 0 < dt) :
    max 1 (speed delta dt) ≤ room ↔
      0 < room ∧ |delta| * 1000000 + dt / 2 < (room + 1) * dt := by
  rw [Int.max_le, speed, ← Int.ediv_lt_iff_lt_mul positive, Int.lt_add_one_iff]
  exact Iff.rfl

theorem Sound.elapsed_holds (sound : motion.Sound) : CType.s64.Holds motion.elapsed := by
  have started := sound.started
  have ordered := sound.ordered
  have stamped := sound.stamped
  simp only [elapsed, CType.Holds, CType.low, CType.high]
  omega

theorem Sound.elapsed_pos (sound : motion.Sound) (moved : motion.moved = true) :
    0 < motion.elapsed := by
  have later := sound.later moved
  simp only [elapsed]
  omega

theorem checkedRefreshVelocity_of_still (still : motion.moved = false) :
    Checked.refreshVelocity motion = some motion.refreshVelocity := by
  simp only [Checked.refreshVelocity, refreshVelocity]
  split
  · rfl
  · rename_i primed
    split
    · rfl
    · rename_i changed
      rw [Bool.not_eq_false] at primed
      rw [← Bool.not_eq_true] at still
      exact absurd (moved_eq_true_iff.mpr ⟨primed, changed⟩) still

theorem refreshVelocity_primed (motion : Motion) : motion.refreshVelocity.primed = true := by
  rw [refreshVelocity]
  split
  · rfl
  · rename_i primed
    rw [Bool.not_eq_false] at primed
    split <;> exact primed

/-- The counter stops far above the limit. -/
theorem held_iff {ticks : ℕ} :
    (velHoldTicks ≤ if ticks < 0xFFFF then ticks + 1 else ticks) ↔ velHoldTicks ≤ ticks + 1 := by
  simp only [velHoldTicks]
  split <;> omega

theorem refreshVelocity_of_held (primed : motion.primed = true) (still : motion.moved = false) :
    motion.refreshVelocity = { motion with
      holdTicks := if motion.holdTicks < 0xFFFF then motion.holdTicks + 1 else motion.holdTicks
      vel := if velHoldTicks ≤ motion.holdTicks + 1 then 0 else motion.vel } := by
  have held : motion.pos = motion.posPrev := by
    by_contra changed
    rw [moved_eq_true_iff.mpr ⟨primed, changed⟩] at still
    cases still
  rw [refreshVelocity, if_neg (by rw [primed]; decide), if_pos held]
  simp only [held_iff]

theorem refreshVelocity_of_moved (moved : motion.moved = true) :
    motion.refreshVelocity = { motion with
      vel := motion.velocity, posPrev := motion.pos, posPrevTs := motion.posTs
      holdTicks := 0 } := by
  rcases moved_eq_true_iff.mp moved with ⟨primed, changed⟩
  rw [refreshVelocity, if_neg (by rw [primed]; decide), if_neg changed]

theorem checkedRefreshVelocity_of_moved {found : Motion} (sound : motion.Sound)
    (moved : motion.moved = true) :
    Checked.refreshVelocity motion = some found ↔
      motion.elapsed ≤ 0x7fffffff ∧
        CType.s32.Holds (signed motion.delta (speed motion.delta motion.elapsed)) ∧
          found = motion.refreshVelocity := by
  have positive := sound.elapsed_pos moved
  have nonzero := delta_ne_zero moved
  rw [refreshVelocity_of_moved moved]
  rcases moved_eq_true_iff.mp moved with ⟨primed, changed⟩
  rw [Checked.refreshVelocity, if_neg (by rw [primed]; decide), if_neg changed]
  simp only [bind, Option.bind_eq_some_iff, Option.some.injEq,
    checkedVelocity_eq_some_iff positive nonzero sound.elapsed_holds]
  constructor
  · rintro ⟨_, ⟨narrow, fits, rfl⟩, rfl⟩
    rw [velocity_eq positive nonzero narrow fits]
    exact ⟨narrow, fits, rfl⟩
  · rintro ⟨narrow, fits, rfl⟩
    rw [velocity_eq positive nonzero narrow fits]
    exact ⟨_, ⟨narrow, fits, rfl⟩, rfl⟩

/-- What the filter is given is in range. -/
def FilterTakes (motion : Motion) : Prop :=
  CType.s32.Holds (motion.vel * 256) ∧
    CType.s32.Holds (AccelFilter.gap motion.velSlowQ8 motion.vel)

theorem filterTakes_of_moved (sound : motion.Sound) (moved : motion.moved = true)
    (narrow : motion.elapsed ≤ 0x7fffffff)
    (fits : CType.s32.Holds (signed motion.delta (speed motion.delta motion.elapsed))) :
    motion.refreshVelocity.FilterTakes ↔
      max 1 (speed motion.delta motion.elapsed) ≤ motion.headroom := by
  rw [headroom_iff sound.tracker (by omega), refreshVelocity_of_moved moved, FilterTakes,
    velocity_eq (sound.elapsed_pos moved) (delta_ne_zero moved) narrow fits]

theorem fits_of_headroom (sound : motion.Sound) (moved : motion.moved = true)
    (room : max 1 (speed motion.delta motion.elapsed) ≤ motion.headroom) :
    CType.s32.Holds (signed motion.delta (speed motion.delta motion.elapsed)) := by
  have nonneg := @speed_nonneg motion.delta _ (sound.elapsed_pos moved)
  have scaled := ((headroom_iff sound.tracker (by omega)).mp room).1
  simp only [signed, CType.Holds, CType.low, CType.high] at scaled ⊢
  by_cases rising : 0 ≤ motion.delta
  · rw [if_pos rising] at scaled ⊢
    omega
  · rw [if_neg rising] at scaled ⊢
    omega

theorem filterTakes_of_still (sound : motion.Sound) (still : motion.moved = false) :
    motion.refreshVelocity.FilterTakes ↔
      (motion.primed = true → velHoldTicks ≤ motion.holdTicks + 1 →
        motion.velSlowQ8 ≠ -0x80000000) := by
  cases primed : motion.primed with
  | false =>
      rw [refreshVelocity, if_pos primed]
      apply iff_of_true
      · exact ⟨(by decide : CType.s32.Holds (0 * 256)),
          (by decide : CType.s32.Holds (AccelFilter.gap 0 0))⟩
      · intro contradicted
        cases contradicted
  | true =>
      have tracker := sound.tracker
      rw [refreshVelocity_of_held primed still]
      simp only [FilterTakes]
      by_cases drop : velHoldTicks ≤ motion.holdTicks + 1
      · simp only [drop, if_true, true_implies, AccelFilter.gap, CType.Holds, CType.low,
          CType.high] at tracker ⊢
        omega
      · simp only [if_neg drop]
        apply iff_of_true
        · exact ⟨sound.scaled, sound.apart⟩
        · intro _ contradicted
          exact absurd contradicted drop

theorem checkedRefreshVelocity_eq {found : Motion} (sound : motion.Sound)
    (refreshed : Checked.refreshVelocity motion = some found) :
    found = motion.refreshVelocity := by
  cases moved : motion.moved with
  | true => exact ((checkedRefreshVelocity_of_moved sound moved).mp refreshed).2.2
  | false =>
      rw [checkedRefreshVelocity_of_still moved, Option.some.injEq] at refreshed
      exact refreshed.symm

theorem refreshVelocity_tracker (sound : motion.Sound) :
    CType.s32.Holds motion.refreshVelocity.velSlowQ8 := by
  rw [refreshVelocity]
  split
  · exact (by decide : CType.s32.Holds 0)
  · split <;> exact sound.tracker

theorem checkedRefresh_isSome_iff (sound : motion.Sound) :
    (Checked.refresh motion).isSome ↔
      (Checked.refreshVelocity motion).isSome ∧ motion.refreshVelocity.FilterTakes := by
  have filter := @AccelFilter.checked_isSome_iff _ motion.refreshVelocity.vel
    (refreshVelocity_tracker sound)
  cases refreshed : Checked.refreshVelocity motion with
  | none => simp only [Checked.refresh, refreshed, bind, Option.bind_none, Option.isSome_none,
      Bool.false_eq_true, false_and]
  | some found =>
      have same := checkedRefreshVelocity_eq sound refreshed
      subst same
      rw [FilterTakes, ← filter, Checked.refresh, bind_of_eq refreshed]
      cases Checked.accelFilter motion.refreshVelocity.velSlowQ8 motion.refreshVelocity.vel
        ffTickMs accelTauMs with
      | none => simp only [bind, Option.bind_none, Option.isSome_none, Bool.false_eq_true, and_false]
      | some out => simp only [bind, Option.bind_some, Option.isSome_some, and_self]

/-- The arithmetic of a refresh stays in range exactly if the change is not too slow to come and
not too fast. -/
theorem refresh_isSome_iff (sound : motion.Sound) :
    (Checked.refresh motion).isSome ↔ motion.InRange := by
  rw [checkedRefresh_isSome_iff sound]
  cases moved : motion.moved with
  | true =>
      rw [InRange]
      simp only [moved, Option.isSome_iff_exists, checkedRefreshVelocity_of_moved sound moved,
        true_implies, Bool.true_eq_false, false_implies, and_true]
      rw [← speed_le_iff (sound.elapsed_pos moved)]
      constructor
      · rintro ⟨⟨_, narrow, fits, _⟩, takes⟩
        exact ⟨narrow, (filterTakes_of_moved sound moved narrow fits).mp takes⟩
      · rintro ⟨narrow, room⟩
        have fits := fits_of_headroom sound moved room
        exact ⟨⟨_, narrow, fits, rfl⟩, (filterTakes_of_moved sound moved narrow fits).mpr room⟩
  | false =>
      rw [checkedRefreshVelocity_of_still moved, filterTakes_of_still sound moved, InRange]
      simp only [moved, Option.isSome_some, Bool.false_eq_true, false_implies, true_implies,
        true_and]

theorem checkedRefresh_eq {next : Motion} (sound : motion.Sound)
    (computed : Checked.refresh motion = some next) : next = motion.refresh := by
  simp only [Checked.refresh, bind, Option.bind_eq_some_iff, Option.some.injEq] at computed
  rcases computed with ⟨found, refreshed, ⟨slow, accel⟩, filtered, same⟩
  have moved := checkedRefreshVelocity_eq sound refreshed
  subst moved
  rw [← same, refresh, AccelFilter.accelFilter_of_checked filtered]

theorem refresh_eq :
    motion.refresh =
      { motion.refreshVelocity with
        velSlowQ8 := (accelFilter motion.refreshVelocity.velSlowQ8 motion.refreshVelocity.vel
          ffTickMs accelTauMs).1
        accel := (accelFilter motion.refreshVelocity.velSlowQ8 motion.refreshVelocity.vel
          ffTickMs accelTauMs).2 } := rfl

/-- The timer has taken over the position. -/
theorem refreshVelocity_settled (ordered : motion.posPrevTs ≤ motion.posTs) :
    motion.refreshVelocity.pos = motion.refreshVelocity.posPrev ∧
      motion.refreshVelocity.posTs = motion.posTs ∧
        motion.posPrevTs ≤ motion.refreshVelocity.posPrevTs ∧
          motion.refreshVelocity.posPrevTs ≤ motion.posTs := by
  rw [refreshVelocity]
  split
  · exact ⟨rfl, rfl, ordered, le_refl _⟩
  · split
    · rename_i same
      exact ⟨same, rfl, le_refl _, ordered⟩
    · exact ⟨rfl, rfl, ordered, le_refl _⟩

theorem refresh_sound (sound : motion.Sound) (takes : motion.refreshVelocity.FilterTakes) :
    motion.refresh.Sound ∧ CType.s32.Holds (motion.refresh.accel * 16) := by
  have computed := AccelFilter.checked_of_holds (refreshVelocity_tracker sound) takes.1 takes.2
  rcases AccelFilter.eq_of_checked computed with ⟨_, _, holds, _, _⟩
  have left := AccelFilter.rest_holds takes.2
  have settled := refreshVelocity_settled sound.ordered
  have started := sound.started
  rw [refresh_eq, AccelFilter.accelFilter_of_checked computed]
  refine ⟨⟨holds, takes.1, ?_, ?_, ?_, ?_, ?_⟩, ?_⟩
  · rw [AccelFilter.gap, Int.sub_sub_self]
    exact left
  · exact started.trans settled.2.2.1
  · rw [settled.2.1]
    exact settled.2.2.2
  · rw [settled.2.1]
    exact sound.stamped
  · intro moved
    exact absurd settled.1 (moved_eq_true_iff.mp moved).2
  · have share : |(AccelFilter.rest motion.refreshVelocity.velSlowQ8
        motion.refreshVelocity.vel).tdiv 50| ≤ 42949673 := by
      simp only [CType.Holds, CType.low, CType.high] at left
      rw [abs_tdiv_le_iff (by decide), abs_lt]
      omega
    rw [abs_le] at share
    change CType.s32.Holds ((AccelFilter.rest motion.refreshVelocity.velSlowQ8
      motion.refreshVelocity.vel).tdiv 50 * 16)
    exact CType.holds_s32 (by omega)

end Motion

/-- The motion, and the last change of position that the timer saw. -/
structure Tracked where
  motion : Motion
  change : ℤ

inductive MotionEvent where
  | report (pos : UInt16) (timestamp : ℤ)
  | tick

namespace Tracked

def afterTick (tracked : Tracked) : Tracked where
  motion := tracked.motion.refresh
  change := if tracked.motion.moved then tracked.motion.delta else tracked.change

def step (tracked : Tracked) : MotionEvent → Option Tracked
  | .report pos timestamp =>
      if tracked.motion.posTs < timestamp ∧ timestamp ≤ 0x7fffffffffffffff then
        some { tracked with motion := tracked.motion.report pos timestamp }
      else none
  | .tick => some tracked.afterTick

/-- The velocity goes the way of the last change, or is none for want of one. -/
def Follows (tracked : Tracked) : Prop :=
  0 < tracked.change * tracked.motion.vel ∨
    tracked.motion.vel = 0 ∧ (tracked.change = 0 ∨ velHoldTicks ≤ tracked.motion.holdTicks)

instance (tracked : Tracked) : Decidable tracked.Follows := inferInstanceAs (Decidable (_ ∨ _))

/-- A damper or a friction around rest does not push the way the wheel turns. -/
def Resisted (tracked : Tracked) : Prop :=
  ∀ (kernel : Kernel) (tunables : Tunables) (effect : FfEffect) (c : Condition)
    (elapsedMs subQms : ℕ), effect.kind = .damper c ∨ effect.kind = .friction c →
    c.center = 0 → 0 ≤ c.rightCoeff.toInt → 0 ≤ c.leftCoeff.toInt →
    tracked.change *
      effectTick kernel tunables effect elapsedMs subQms tracked.motion.observe ≤ 0

/-- The tick computes everything in range, and in the right direction. -/
def TickInRange (tracked : Tracked) : MotionEvent → Prop
  | .report _ _ => True
  | .tick =>
      Checked.refresh tracked.motion = some tracked.afterTick.motion ∧
        CType.s32.Holds (tracked.afterTick.motion.vel * 256) ∧
        CType.s32.Holds (tracked.afterTick.motion.accel * 16) ∧
        tracked.afterTick.Follows ∧ tracked.afterTick.Resisted

def TickCondition (tracked : Tracked) : MotionEvent → Prop
  | .report _ _ => True
  | .tick => tracked.motion.InRange

end Tracked

namespace Tracked

variable {tracked : Tracked}

theorem resisting {c : Condition} {change metric : ℤ} {level : ℕ} (centred : c.center = 0)
    (right : 0 ≤ c.rightCoeff.toInt) (left : 0 ≤ c.leftCoeff.toInt)
    (rising : 0 < change → 0 ≤ metric) (falling : change < 0 → metric ≤ 0) :
    change * (conditionForce c metric * level).tdiv 100 ≤ 0 := by
  have nonneg : 0 ≤ c.halfDb := Int.natCast_nonneg _
  have center : c.center.toInt = 0 := by rw [centred]; rfl
  rcases Int.lt_trichotomy change 0 with back | still | forth
  · have force := conditionForce_left_nonneg left (show metric ≤ c.center.toInt + c.halfDb by
      have side := falling back
      omega)
    exact mul_nonpos_of_nonpos_of_nonneg (Int.le_of_lt back)
      (Int.tdiv_nonneg (mul_nonneg force (Int.natCast_nonneg _)) (by decide))
  · rw [still, Int.zero_mul]
  · have force := conditionForce_right_nonpos right (show c.center.toInt - c.halfDb ≤ metric by
      have side := rising forth
      omega)
    have scaled : conditionForce c metric * level ≤ 0 :=
      mul_nonpos_of_nonpos_of_nonneg force (Int.natCast_nonneg _)
    have share := @tdiv_between (conditionForce c metric * level) 100 (by decide)
    exact mul_nonpos_of_nonneg_of_nonpos (Int.le_of_lt forth) (by omega)

theorem velMetric_sign {vel : ℤ} (scaled : CType.s32.Holds (vel * 256)) :
    (0 ≤ vel → 0 ≤ velMetric vel) ∧ (vel ≤ 0 → velMetric vel ≤ 0) := by
  rw [velMetric, s32_of_holds scaled]
  simp only [clampS16, clamp]
  omega

theorem frictionMetric_sign {vel : ℤ} :
    (0 ≤ vel → 0 ≤ frictionMetric vel) ∧ (vel ≤ 0 → frictionMetric vel ≤ 0) := by
  simp only [frictionMetric, frictionRampCounts]
  omega

/-- What the effects are shown does not go against the last change either. -/
theorem observed_sign (follows : tracked.Follows) :
    (0 < tracked.change → 0 ≤ tracked.motion.observe.vel) ∧
      (tracked.change < 0 → tracked.motion.observe.vel ≤ 0) := by
  have sign : (0 < tracked.change → 0 ≤ tracked.motion.vel) ∧
      (tracked.change < 0 → tracked.motion.vel ≤ 0) := by
    rcases follows with along | ⟨still, _⟩
    · rcases mul_pos_iff.mp along with ⟨change, vel⟩ | ⟨change, vel⟩ <;> omega
    · omega
  rw [Motion.observe]
  split
  · exact sign
  · exact ⟨fun _ => le_refl _, fun _ => le_refl _⟩

theorem resisted_of_follows (follows : tracked.Follows)
    (scaled : CType.s32.Holds (tracked.motion.vel * 256)) : tracked.Resisted := by
  have sign := observed_sign follows
  have shown : CType.s32.Holds (tracked.motion.observe.vel * 256) := by
    rw [Motion.observe]
    split
    · exact scaled
    · decide
  intro kernel tunables effect c elapsedMs subQms kind centred right left
  rcases kind with damper | friction
  · simp only [effectTick, damper]
    have metric := velMetric_sign shown
    exact resisting centred right left (fun forth => metric.1 (sign.1 forth))
      (fun back => metric.2 (sign.2 back))
  · simp only [effectTick, friction]
    split
    · rw [Int.mul_zero]
    · exact resisting centred right left (fun forth => frictionMetric_sign.1 (sign.1 forth))
        (fun back => frictionMetric_sign.2 (sign.2 back))

structure Invariant (tracked : Tracked) : Prop where
  sound : tracked.motion.Sound
  follows : tracked.Follows
  fresh : tracked.motion.primed = false → tracked.change = 0

theorem afterTick_follows (invariant : tracked.Invariant)
    (inRange : tracked.motion.InRange) : tracked.afterTick.Follows := by
  cases moved : tracked.motion.moved with
  | true =>
      have positive := invariant.sound.elapsed_pos moved
      rcases inRange.1 moved with ⟨narrow, room⟩
      rw [← Motion.speed_le_iff positive] at room
      have fits := Motion.fits_of_headroom invariant.sound moved room
      have velocity := Motion.velocity_eq positive (Motion.delta_ne_zero moved) narrow fits
      left
      rw [afterTick, moved, if_pos rfl, Motion.refresh_eq, Motion.refreshVelocity_of_moved moved]
      change 0 < tracked.motion.delta * tracked.motion.velocity
      rw [velocity]
      exact Motion.mul_signed_pos (Motion.delta_ne_zero moved) (by omega)
  | false =>
      rw [Follows, afterTick, moved, if_neg Bool.false_ne_true, Motion.refresh_eq]
      cases primed : tracked.motion.primed with
      | false =>
          rw [Motion.refreshVelocity, if_pos primed]
          exact .inr ⟨rfl, .inl (invariant.fresh primed)⟩
      | true =>
          rw [Motion.refreshVelocity_of_held primed moved]
          by_cases drop : velHoldTicks ≤ tracked.motion.holdTicks + 1
          · rw [if_pos drop]
            exact .inr ⟨rfl, .inr (Motion.held_iff.mpr drop)⟩
          · rw [if_neg drop]
            rcases invariant.follows with along | ⟨still, unchanged | held⟩
            · exact .inl along
            · exact .inr ⟨still, .inl unchanged⟩
            · exact absurd (Nat.le_succ_of_le held) drop

theorem tick_in_range_iff (invariant : tracked.Invariant) (event : MotionEvent) :
    tracked.TickInRange event ↔ tracked.TickCondition event := by
  cases event with
  | report pos timestamp => exact Iff.rfl
  | tick =>
      rw [TickCondition, ← Motion.refresh_isSome_iff invariant.sound]
      constructor
      · intro keeps
        rw [keeps.1]
        rfl
      · intro some
        have inRange := (Motion.refresh_isSome_iff invariant.sound).mp some
        have takes := ((Motion.checkedRefresh_isSome_iff invariant.sound).mp some).2
        rcases Option.isSome_iff_exists.mp some with ⟨next, computed⟩
        have same := Motion.checkedRefresh_eq invariant.sound computed
        subst same
        have after := Motion.refresh_sound invariant.sound takes
        have follows := afterTick_follows invariant inRange
        exact ⟨computed, after.1.scaled, after.2, follows,
          resisted_of_follows follows after.1.scaled⟩

theorem invariant_step {event : MotionEvent} {next : Tracked} (invariant : tracked.Invariant)
    (keeps : tracked.TickInRange event) (stepped : tracked.step event = some next) :
    next.Invariant := by
  cases event with
  | report pos timestamp =>
      simp only [step, Option.ite_none_right_eq_some, Option.some.injEq] at stepped
      rcases stepped with ⟨⟨later, stamped⟩, rfl⟩
      have ordered := invariant.sound.ordered
      refine ⟨⟨invariant.sound.tracker, invariant.sound.scaled, invariant.sound.apart,
        invariant.sound.started, ?_, stamped, ?_⟩, invariant.follows, invariant.fresh⟩
      · exact ordered.trans (Int.le_of_lt later)
      · intro _
        exact Int.lt_of_le_of_lt ordered later
  | tick =>
      cases stepped
      have some := Option.isSome_iff_exists.mpr ⟨_, keeps.1⟩
      have takes := ((Motion.checkedRefresh_isSome_iff invariant.sound).mp some).2
      refine ⟨(Motion.refresh_sound invariant.sound takes).1, keeps.2.2.2.1, ?_⟩
      intro unprimed
      have primed := tracked.motion.refreshVelocity_primed
      exact absurd (unprimed.symm.trans primed) Bool.false_ne_true

end Tracked

def motionRuns : System Tracked MotionEvent where
  initial tracked := tracked = ⟨.zero, 0⟩
  step := Tracked.step

theorem Tracked.invariant_zero : Tracked.Invariant ⟨.zero, 0⟩ where
  sound := by
    refine ⟨by decide, by decide, by decide, by decide, by decide, by decide, ?_⟩
    intro moved
    cases moved
  follows := .inr ⟨rfl, .inl rfl⟩
  fresh _ := rfl

/-- In a run of reports and ticks every tick stays in range and keeps the direction exactly if every
tick meets the condition. -/
theorem motion_in_range_iff (events : List MotionEvent) :
    motionRuns.RunMeets Tracked.TickInRange ⟨.zero, 0⟩ events ↔
      motionRuns.RunMeets Tracked.TickCondition ⟨.zero, 0⟩ events := by
  apply @System.runMeets_congr _ _ _ _ _ Tracked.Invariant
  · intro tracked event invariant
    exact Tracked.tick_in_range_iff invariant event
  · intro tracked event next invariant keeps stepped
    exact Tracked.invariant_step invariant keeps stepped
  · exact Tracked.invariant_zero

/-- The wheel rests for three seconds and is then turned by one count. -/
def turnedAfterRest : List MotionEvent :=
  [.report 100 1000000, .tick, .report 101 3001000000, .tick]

def fullDamper : Condition where
  rightSaturation := 0xFFFF
  leftSaturation := 0xFFFF
  rightCoeff := 0x7fff
  leftCoeff := 0x7fff
  deadband := 0
  center := 0

/-- The velocity is read as going back, and the damper pushes the wheel on. -/
theorem turned_after_rest_pushed :
    (motionRuns.run ⟨.zero, 0⟩ turnedAfterRest).map (fun tracked =>
      (tracked.change, tracked.motion.vel, effectTick quarterKernel defaultTunables
        ⟨.damper fullDamper, 0, 0, 0⟩ 0 0 tracked.motion.observe)) = some (1, -1, 256) ∧
      ¬motionRuns.RunMeets Tracked.TickInRange ⟨.zero, 0⟩ turnedAfterRest := by
  refine ⟨by decide, ?_⟩
  intro keeps
  have follows := keeps.2.2.2.1.2.2.2.1
  revert follows
  decide

end TrueForce.Ffb
