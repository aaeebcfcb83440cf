import TrueForce.Ffb.Motion
import TrueForce.Foundation.CheckedInt
import TrueForce.Foundation.Lerp
import TrueForce.Foundation.Pursuit
import Mathlib.Algebra.Order.Ring.Abs

/-!
# The law of the acceleration filter

`hidpp_dd_accel_filter` at the engine's cadence, in the arithmetic of its types.  The
tracker pursues the scaled velocity by a fifty-first of the gap in every tick, and the
acceleration is a fiftieth of the gap that is left.
-/

namespace TrueForce.Ffb

open TrueForce.CInt TrueForce.Interpolation TrueForce.Pursuit

namespace Checked

/-- The tracker's next value: a snap onto the velocity, or a step towards it. -/
def track (velSlowQ8 velQ8 diff span : ℤ) (dtMs : ℕ) : Option ℤ := do
  let least ← fit .s32 (-span)
  if least < diff ∧ diff < span then some velQ8
  else do
    let time ← fit .s32 dtMs
    let product ← fit .s32 (diff * time)
    let share ← quotient .s32 product span
    fit .s32 (velSlowQ8 + share)

/-- `hidpp_dd_accel_filter` -/
def accelFilter (velSlowQ8 vel : ℤ) (dtMs tauMs : ℕ) : Option (ℤ × ℤ) := do
  let velQ8 ← fit .s32 (vel * 256)
  let diff ← fit .s32 (velQ8 - velSlowQ8)
  let total ← fit .u32 (tauMs + dtMs : ℕ)
  let span ← fit .s32 total
  let slow ← track velSlowQ8 velQ8 diff span dtMs
  let lag ← fit .s32 (velQ8 - slow)
  let tau ← fit .s32 tauMs
  let accel ← quotient .s32 lag tau
  some (slow, accel)

end Checked

namespace AccelFilter

variable {velSlowQ8 vel slow accel : ℤ}

def filterSpan : ℤ := 51

/-- How far the tracker is behind the scaled velocity. -/
def gap (velSlowQ8 vel : ℤ) : ℤ := vel * 256 - velSlowQ8

/-- The gap that a tick leaves. -/
def rest (velSlowQ8 vel : ℤ) : ℤ := narrow filterSpan (gap velSlowQ8 vel)

theorem filterSpan_pos : 0 < filterSpan := by decide

theorem rest_between : Towards velSlowQ8 (vel * 256) velSlowQ8 (vel * 256 - rest velSlowQ8 vel) := by
  simp only [Towards, rest, gap]
  rcases Int.le_total velSlowQ8 (vel * 256) with ahead | behind
  · have step := narrow_nonneg filterSpan_pos (Int.sub_nonneg_of_le ahead)
    omega
  · have step := narrow_nonneg filterSpan_pos (Int.sub_nonneg_of_le behind)
    have turned := @narrow_neg filterSpan (velSlowQ8 - vel * 256)
    rw [Int.neg_sub] at turned
    omega

/-- What the filter leaves is smaller than what it found. -/
theorem rest_holds (apart : CType.s32.Holds (gap velSlowQ8 vel)) :
    CType.s32.Holds (rest velSlowQ8 vel) := by
  have between := @rest_between velSlowQ8 vel
  simp only [Towards, gap, CType.Holds, CType.low, CType.high] at between apart ⊢
  omega

theorem eq_of_tracked (scaled : CType.s32.Holds (vel * 256))
    (tracked : Checked.track velSlowQ8 (vel * 256) (gap velSlowQ8 vel) filterSpan ffTickMs =
      some slow) : CType.s32.Holds slow ∧ slow = vel * 256 - rest velSlowQ8 vel := by
  simp only [Checked.track, bind, Option.bind_eq_some_iff, fit_eq_some_iff] at tracked
  rcases tracked with ⟨_, ⟨_, rfl⟩, tracked⟩
  simp only [rest, narrow]
  split at tracked
  · rename_i small
    rw [Option.some.injEq] at tracked
    subst tracked
    rw [if_pos small, Int.sub_zero]
    exact ⟨scaled, rfl⟩
  · rename_i wide
    simp only [Option.bind_eq_some_iff, fit_eq_some_iff, quotient_eq_some_iff] at tracked
    rcases tracked with ⟨_, ⟨_, rfl⟩, _, ⟨_, rfl⟩, _, ⟨_, _, rfl⟩, holds, rfl⟩
    have whole : gap velSlowQ8 vel * (ffTickMs : ℤ) = gap velSlowQ8 vel := Int.mul_one _
    refine ⟨holds, ?_⟩
    rw [if_neg wide, whole, gap]
    omega

theorem tracked_of_holds (tracker : CType.s32.Holds velSlowQ8)
    (scaled : CType.s32.Holds (vel * 256))
    (apart : CType.s32.Holds (gap velSlowQ8 vel)) :
    Checked.track velSlowQ8 (vel * 256) (gap velSlowQ8 vel) filterSpan ffTickMs =
      some (vel * 256 - rest velSlowQ8 vel) := by
  have between := @rest_between velSlowQ8 vel
  simp only [Checked.track, rest, narrow] at between ⊢
  rw [fit_bind (by decide)]
  split
  · exact congrArg some (Int.sub_zero _).symm
  · rename_i wide
    have whole : gap velSlowQ8 vel * (ffTickMs : ℤ) = gap velSlowQ8 vel := Int.mul_one _
    rw [fit_bind (by decide), whole, fit_bind apart]
    rw [if_neg wide] at between
    rw [quotient_of_pos filterSpan_pos apart]
    simp only [Towards, gap, CType.Holds, CType.low, CType.high] at between tracker scaled ⊢
    exact (fit_of_holds (CType.holds_s32 (by omega))).trans (congrArg some (by omega))

theorem eq_of_checked
    (computed : Checked.accelFilter velSlowQ8 vel ffTickMs accelTauMs = some (slow, accel)) :
    CType.s32.Holds (vel * 256) ∧ CType.s32.Holds (gap velSlowQ8 vel) ∧ CType.s32.Holds slow ∧
      slow = vel * 256 - rest velSlowQ8 vel ∧ accel = (rest velSlowQ8 vel).tdiv 50 := by
  simp only [Checked.accelFilter, bind, Option.bind_eq_some_iff, fit_eq_some_iff,
    quotient_eq_some_iff, Option.some.injEq, Prod.mk.injEq] at computed
  rcases computed with ⟨_, ⟨scaled, rfl⟩, _, ⟨apart, rfl⟩, _, ⟨_, rfl⟩, _, ⟨_, rfl⟩, _, tracked,
    _, ⟨_, rfl⟩, _, ⟨_, rfl⟩, _, ⟨_, _, rfl⟩, rfl, rfl⟩
  rcases eq_of_tracked scaled tracked with ⟨holds, left⟩
  refine ⟨scaled, apart, holds, left, ?_⟩
  rw [left, Int.sub_sub_self]
  rfl

theorem checked_of_holds (tracker : CType.s32.Holds velSlowQ8)
    (scaled : CType.s32.Holds (vel * 256))
    (apart : CType.s32.Holds (gap velSlowQ8 vel)) :
    Checked.accelFilter velSlowQ8 vel ffTickMs accelTauMs =
      some (vel * 256 - rest velSlowQ8 vel, (rest velSlowQ8 vel).tdiv 50) := by
  have left := rest_holds apart
  have tracked := tracked_of_holds tracker scaled apart
  have total : (accelTauMs + ffTickMs : ℕ) = filterSpan := rfl
  simp only [gap] at apart tracked
  rw [Checked.accelFilter, fit_bind scaled, fit_bind apart, fit_bind (by decide),
    fit_bind (by decide), total, bind_of_eq tracked, Int.sub_sub_self, fit_bind left,
    fit_bind (by decide), bind_of_eq (quotient_of_pos (by decide) left)]
  rfl

theorem checked_isSome_iff (tracker : CType.s32.Holds velSlowQ8) :
    (Checked.accelFilter velSlowQ8 vel ffTickMs accelTauMs).isSome ↔
      CType.s32.Holds (vel * 256) ∧ CType.s32.Holds (gap velSlowQ8 vel) := by
  constructor
  · intro some
    rcases Option.isSome_iff_exists.mp some with ⟨_, computed⟩
    exact ⟨(eq_of_checked computed).1, (eq_of_checked computed).2.1⟩
  · rintro ⟨scaled, apart⟩
    rw [checked_of_holds tracker scaled apart]
    rfl

theorem accelFilter_of_checked
    (computed : Checked.accelFilter velSlowQ8 vel ffTickMs accelTauMs = some (slow, accel)) :
    accelFilter velSlowQ8 vel ffTickMs accelTauMs = (slow, accel) := by
  rcases eq_of_checked computed with ⟨scaled, apart, holds, left, share⟩
  have lag : CType.s32.Holds (vel * 256 - slow) := by
    rw [left, Int.sub_sub_self]
    exact rest_holds apart
  have same : s32 (vel * 256 - velSlowQ8) = gap velSlowQ8 vel := s32_of_holds apart
  have whole : s32 (gap velSlowQ8 vel * ffTickMs) = gap velSlowQ8 vel :=
    (congrArg s32 (Int.mul_one _)).trans (s32_of_holds apart)
  have total : (accelTauMs + ffTickMs : ℤ) = filterSpan := rfl
  have next : (if -filterSpan < gap velSlowQ8 vel ∧ gap velSlowQ8 vel < filterSpan then vel * 256
      else s32 (velSlowQ8 + (gap velSlowQ8 vel).tdiv filterSpan)) = slow := by
    simp only [rest, narrow] at left
    split at left
    · rename_i small
      rw [if_pos small, left, Int.sub_zero]
    · rename_i wide
      have step : velSlowQ8 + (gap velSlowQ8 vel).tdiv filterSpan = slow := by
        rw [left, gap]
        omega
      rw [if_neg wide, step, s32_of_holds holds]
  simp only [Ffb.accelFilter]
  rw [s32_of_holds scaled, same, total, whole, next, s32_of_holds lag, share, left,
    Int.sub_sub_self]
  rfl

/-- The tracker before a tick of a run; nothing from where the arithmetic leaves its types. -/
def tracker (start : ℤ) (vel : ℕ → ℤ) : ℕ → Option ℤ
  | 0 => some start
  | tick + 1 => do
      let before ← tracker start vel tick
      let (slow, _) ← Checked.accelFilter before (vel tick) ffTickMs accelTauMs
      some slow

/-- The tracker and the acceleration that a tick of a run yields. -/
def filtered (start : ℤ) (vel : ℕ → ℤ) (tick : ℕ) : Option (ℤ × ℤ) := do
  let before ← tracker start vel tick
  Checked.accelFilter before (vel tick) ffTickMs accelTauMs

variable {start held growth : ℤ} {velocity : ℕ → ℤ} {tick : ℕ}

theorem tracker_succ :
    tracker start velocity (tick + 1) = (filtered start velocity tick).map Prod.fst := by
  simp only [filtered, tracker, bind]
  cases tracker start velocity tick with
  | none => rfl
  | some before =>
      simp only [Option.bind_some]
      cases Checked.accelFilter before (velocity tick) ffTickMs accelTauMs <;> rfl

theorem filtered_eq_some_iff :
    filtered start velocity tick = some (slow, accel) ↔ ∃ before,
      tracker start velocity tick = some before ∧
        Checked.accelFilter before (velocity tick) ffTickMs accelTauMs = some (slow, accel) :=
  Option.bind_eq_some_iff

theorem tracker_holds (begins : CType.s32.Holds start) {before : ℤ}
    (reached : tracker start velocity tick = some before) : CType.s32.Holds before := by
  cases tick with
  | zero =>
      cases reached
      exact begins
  | succ tick =>
      rw [tracker_succ, Option.map_eq_some_iff] at reached
      rcases reached with ⟨⟨slow, accel⟩, out, rfl⟩
      rcases filtered_eq_some_iff.mp out with ⟨earlier, _, computed⟩
      exact (eq_of_checked computed).2.2.1

/-- A tick that is reached returns exactly when the scaled velocity and the gap are in range. -/
theorem filtered_isSome_iff (begins : CType.s32.Holds start) {before : ℤ}
    (reached : tracker start velocity tick = some before) :
    (filtered start velocity tick).isSome ↔
      CType.s32.Holds (velocity tick * 256) ∧ CType.s32.Holds (gap before (velocity tick)) := by
  rw [filtered, bind_of_eq reached]
  exact checked_isSome_iff (tracker_holds begins reached)

/-- With the velocity held, the gap narrows tick by tick. -/
theorem filtered_of_held (begins : (filtered start (fun _ => held) 0).isSome) (tick : ℕ) :
    filtered start (fun _ => held) tick =
      some (held * 256 - (narrow filterSpan)^[tick + 1] (gap start held),
        ((narrow filterSpan)^[tick + 1] (gap start held)).tdiv 50) := by
  rcases Option.isSome_iff_exists.mp begins with ⟨⟨slow, accel⟩, first⟩
  have opened : Checked.accelFilter start held ffTickMs accelTauMs = some (slow, accel) := first
  rcases eq_of_checked opened with ⟨scaled, apart, holds, left, share⟩
  induction tick with
  | zero =>
      rw [first, left, share]
      rfl
  | succ tick ih =>
      have before : tracker start (fun _ => held) (tick + 1) =
          some (held * 256 - (narrow filterSpan)^[tick + 1] (gap start held)) := by
        rw [tracker_succ, ih]
        rfl
      have behind : gap (held * 256 - (narrow filterSpan)^[tick + 1] (gap start held)) held =
          (narrow filterSpan)^[tick + 1] (gap start held) := by
        rw [gap, Int.sub_sub_self]
      have size := @iterate_narrow_between filterSpan (gap start held) filterSpan_pos (tick + 1)
      have less := @iterate_narrow_between filterSpan (rest start held) filterSpan_pos tick
      rw [rest, ← Function.iterate_succ_apply, ← rest, Nat.succ_eq_add_one] at less
      simp only [CType.Holds, CType.low, CType.high] at scaled apart holds
      have computed := @checked_of_holds
        (held * 256 - (narrow filterSpan)^[tick + 1] (gap start held)) held
        (CType.holds_s32 (by omega)) scaled (by rw [behind]; exact CType.holds_s32 (by omega))
      have next : narrow filterSpan ((narrow filterSpan)^[tick + 1] (gap start held)) =
          (narrow filterSpan)^[tick + 1 + 1] (gap start held) :=
        (Function.iterate_succ_apply' _ _ _).symm
      rw [filtered, bind_of_eq before, computed, rest, behind, next]

/-- The shares of a narrowing gap all have its sign. -/
theorem mul_share_nonneg (apart : ℤ) (first later : ℕ) :
    0 ≤ ((narrow filterSpan)^[first] apart).tdiv 50 *
      ((narrow filterSpan)^[later] apart).tdiv 50 := by
  rcases Int.le_total 0 apart with ahead | behind
  · have side (tick : ℕ) : 0 ≤ ((narrow filterSpan)^[tick] apart).tdiv 50 :=
      Int.tdiv_nonneg (iterate_narrow_nonneg filterSpan_pos ahead tick) (by decide)
    exact mul_nonneg (side first) (side later)
  · have side (tick : ℕ) : ((narrow filterSpan)^[tick] apart).tdiv 50 ≤ 0 := by
      have size := @iterate_narrow_between filterSpan apart filterSpan_pos tick
      have share := @tdiv_between ((narrow filterSpan)^[tick] apart) 50 (by decide)
      omega
    exact mul_nonneg_of_nonpos_of_nonpos (side first) (side later)

theorem accel_of_held (begins : (filtered start (fun _ => held) 0).isSome) {first later : ℕ}
    {firstOut laterOut : ℤ × ℤ} (ordered : first ≤ later)
    (firstRun : filtered start (fun _ => held) first = some firstOut)
    (laterRun : filtered start (fun _ => held) later = some laterOut) :
    |laterOut.2| ≤ |firstOut.2| ∧ 0 ≤ firstOut.2 * laterOut.2 := by
  rw [filtered_of_held begins] at firstRun laterRun
  cases firstRun
  cases laterRun
  refine ⟨?_, mul_share_nonneg _ _ _⟩
  apply abs_tdiv_le_abs_tdiv (by decide)
  exact abs_iterate_narrow_le filterSpan_pos (Nat.succ_le_succ ordered)

theorem settled_of_held (begins : (filtered start (fun _ => held) 0).isSome)
    (enough : (gap start held).natAbs ≤ tick) :
    filtered start (fun _ => held) tick = some (held * 256, 0) := by
  rw [filtered_of_held begins, iterate_narrow_eq_zero filterSpan_pos (by omega), Int.sub_zero]
  rfl

theorem rest_neg : rest (-velSlowQ8) (-vel) = -rest velSlowQ8 vel := by
  have turned : gap (-velSlowQ8) (-vel) = -gap velSlowQ8 vel := by
    simp only [gap]
    omega
  rw [rest, turned, narrow_neg, rest]

theorem checked_neg {mirrored : ℤ × ℤ}
    (out : Checked.accelFilter velSlowQ8 vel ffTickMs accelTauMs = some (slow, accel))
    (turned : Checked.accelFilter (-velSlowQ8) (-vel) ffTickMs accelTauMs = some mirrored) :
    mirrored = (-slow, -accel) := by
  rcases mirrored with ⟨mirroredSlow, mirroredAccel⟩
  rcases eq_of_checked out with ⟨_, _, _, left, share⟩
  rcases eq_of_checked turned with ⟨_, _, _, mirroredLeft, mirroredShare⟩
  rw [mirroredLeft, mirroredShare, left, share, rest_neg, Int.neg_tdiv, Prod.mk.injEq]
  refine ⟨?_, rfl⟩
  omega

theorem filtered_neg {mirrored : ℤ × ℤ}
    (out : filtered start velocity tick = some (slow, accel))
    (turned : filtered (-start) (fun tick => -velocity tick) tick = some mirrored) :
    mirrored = (-slow, -accel) := by
  rcases filtered_eq_some_iff.mp out with ⟨before, reached, computed⟩
  rcases filtered_eq_some_iff.mp turned with ⟨mirroredBefore, mirroredReached, mirroredComputed⟩
  have opposite : mirroredBefore = -before := by
    clear out turned computed mirroredComputed
    induction tick generalizing before mirroredBefore with
    | zero =>
        cases reached
        cases mirroredReached
        rfl
    | succ tick ih =>
        rw [tracker_succ, Option.map_eq_some_iff] at reached mirroredReached
        rcases reached with ⟨⟨_, _⟩, out, rfl⟩
        rcases mirroredReached with ⟨⟨_, _⟩, turned, rfl⟩
        rcases filtered_eq_some_iff.mp out with ⟨earlier, reached, computed⟩
        rcases filtered_eq_some_iff.mp turned with
          ⟨mirroredEarlier, mirroredReached, mirroredComputed⟩
        rw [ih earlier reached mirroredEarlier mirroredReached] at mirroredComputed
        exact congrArg Prod.fst (checked_neg computed mirroredComputed)
  rw [opposite] at mirroredComputed
  exact checked_neg computed mirroredComputed

/-- Behind a velocity that grows evenly the gap stays within a bound of its own. -/
theorem abs_gap_le_of_growth {before : ℤ}
    (reached : tracker 0 (fun tick => growth * tick) tick = some before) :
    |gap before (growth * tick)| ≤ filterSpan * (256 * |growth|) + (filterSpan - 2) := by
  induction tick generalizing before with
  | zero =>
      cases reached
      have room := abs_nonneg growth
      have still : gap 0 (growth * (0 : ℕ)) = 0 := by
        simp only [gap, Nat.cast_zero, Int.mul_zero, Int.zero_mul, Int.sub_zero]
      rw [still, abs_zero, filterSpan]
      omega
  | succ tick ih =>
      rw [tracker_succ, Option.map_eq_some_iff] at reached
      rcases reached with ⟨⟨_, _⟩, out, rfl⟩
      rcases filtered_eq_some_iff.mp out with ⟨earlier, reached, computed⟩
      rcases eq_of_checked computed with ⟨_, _, _, left, _⟩
      have room := abs_nonneg growth
      have kept := abs_narrow_le_of_drift (by decide) (by omega) (ih reached)
      have drift : gap (growth * tick * 256 - rest earlier (growth * tick))
          (growth * (tick + 1 : ℕ)) =
            256 * growth + narrow filterSpan (gap earlier (growth * tick)) := by
        simp only [gap, rest]
        push_cast
        ring
      rw [left, drift]
      apply (abs_add_le _ _).trans
      rw [abs_mul]
      have whole : |(256 : ℤ)| = 256 := rfl
      simp only [filterSpan, whole] at kept ⊢
      omega

theorem abs_accel_le_of_growth
    (out : filtered 0 (fun tick => growth * tick) tick = some (slow, accel)) :
    |accel| ≤ 256 * |growth| := by
  rcases filtered_eq_some_iff.mp out with ⟨before, reached, computed⟩
  rcases eq_of_checked computed with ⟨_, _, _, _, share⟩
  have room := abs_nonneg growth
  have kept := abs_narrow_le_of_drift (by decide) (by omega) (abs_gap_le_of_growth reached)
  rw [share, abs_tdiv_le_iff (by decide), rest]
  simp only [filterSpan] at kept ⊢
  omega

/-- A tick of the engine's filter stays in the types exactly while the scaled velocity and its gap
to the tracker do.  In every run that does, the tracker never passes the scaled velocity;
under a held velocity the acceleration keeps its sign, never grows and ends at zero with the
tracker on the velocity; the mirrored run has the mirrored results; and from rest an even growth
of the velocity never reads as more than itself. -/
theorem accel_filter_law (start : ℤ) (velocity : ℕ → ℤ) :
    (CType.s32.Holds start → ∀ tick before, tracker start velocity tick = some before →
      ((filtered start velocity tick).isSome ↔
        CType.s32.Holds (velocity tick * 256) ∧ CType.s32.Holds (gap before (velocity tick)))) ∧
    (∀ tick before slow accel, tracker start velocity tick = some before →
      filtered start velocity tick = some (slow, accel) →
      accelFilter before (velocity tick) ffTickMs accelTauMs = (slow, accel) ∧
        tracker start velocity (tick + 1) = some slow ∧
        Towards before (velocity tick * 256) before slow) ∧
    (∀ held, (filtered start (fun _ => held) 0).isSome →
      (∀ first later firstOut laterOut, first ≤ later →
        filtered start (fun _ => held) first = some firstOut →
        filtered start (fun _ => held) later = some laterOut →
        |laterOut.2| ≤ |firstOut.2| ∧ 0 ≤ firstOut.2 * laterOut.2) ∧
      ∃ settled, ∀ tick, settled ≤ tick →
        filtered start (fun _ => held) tick = some (held * 256, 0)) ∧
    (∀ tick slow accel mirrored, filtered start velocity tick = some (slow, accel) →
      filtered (-start) (fun tick => -velocity tick) tick = some mirrored →
      mirrored = (-slow, -accel)) ∧
    ∀ growth tick slow accel, filtered 0 (fun tick => growth * tick) tick = some (slow, accel) →
      |accel| ≤ 256 * |growth| := by
  refine ⟨?_, ?_, ?_, ?_, ?_⟩
  · intro begins tick before reached
    exact filtered_isSome_iff begins reached
  · intro tick before slow accel reached out
    rcases filtered_eq_some_iff.mp out with ⟨_, same, computed⟩
    cases reached.symm.trans same
    refine ⟨accelFilter_of_checked computed, ?_, ?_⟩
    · rw [tracker_succ, out]
      rfl
    · rw [(eq_of_checked computed).2.2.2.1]
      exact rest_between
  · intro held begins
    refine ⟨?_, (gap start held).natAbs, ?_⟩
    · intro first later firstOut laterOut ordered firstRun laterRun
      exact accel_of_held begins ordered firstRun laterRun
    · intro tick enough
      exact settled_of_held begins enough
  · intro tick slow accel mirrored out turned
    exact filtered_neg out turned
  · intro growth tick slow accel out
    exact abs_accel_le_of_growth out

/-- A wheel that is turned at once to a velocity of 100 and held there, and one that speeds up by 3
in every tick. -/
theorem accel_filter_law_turned :
    (filtered 0 (fun _ => 100) 0).isSome ∧
      (∃ settled, ∀ tick, settled ≤ tick → filtered 0 (fun _ => 100) tick = some (25600, 0)) ∧
      ∃ slow accel, filtered 0 (fun tick => 3 * tick) 9 = some (slow, accel) ∧ |accel| ≤ 768 := by
  have begins : (filtered 0 (fun _ => 100) 0).isSome := by decide
  have held := (accel_filter_law 0 fun _ => 100).2.2.1 100 begins
  have sped : filtered 0 (fun tick => 3 * tick) 9 = some (640, 125) := by decide
  exact ⟨begins, held.2, 640, 125, sped,
    (accel_filter_law 0 fun _ => 0).2.2.2.2 3 9 640 125 sped⟩

end AccelFilter

end TrueForce.Ffb
