import TrueForce.Settings.Kind
import Mathlib.Tactic.Ring

/-!
# Response curves

The wheel holds one response curve per axis, either its built-in one or 64
uploaded points.  The uploader accepts a list of `in:out` pairs and resamples
it to 64 evenly spaced inputs.  Two generators produce such lists: the
sensitivity slider, a symmetric cubic Bezier, and the deadzone, which holds the
output at either end.  Neither ever produces a list that the uploader rejects.
-/

namespace TrueForce.Profile

/-- The points an axis has loaded; none when it runs its built-in curve. -/
abbrev Curve := List (ℕ × ℕ)

def curvePoints : ℕ := 64

def fullScale : ℕ := 0xFFFF

inductive Errno where
  | eperm
  | einval
  | erange
  | eopnotsupp
  deriving DecidableEq

/-- The uploader's loop over the pairs, with the number read and the last of them.  The test of
the first pair against `0:0` stands here where the source makes it behind the loop. -/
def pairsAccepted : ℕ → Option (ℕ × ℕ) → List (ℕ × ℕ) → Bool
  | npts, last, [] => 2 ≤ npts && last == some (fullScale, fullScale)
  | npts, last, pair :: pairs =>
      if curvePoints ≤ npts ∨ fullScale < pair.1 ∨ fullScale < pair.2 then false
      else
        match last with
        | none => pair == (0, 0) && pairsAccepted (npts + 1) (some pair) pairs
        | some previous =>
            if pair.1 ≤ previous.1 ∨ pair.2 < previous.2 then false
            else pairsAccepted (npts + 1) (some pair) pairs

/-- The segment search, on the points from the current segment on: it stops at the last segment
or at the first that ends at or behind the input. -/
def seekSegment (input : ℕ) : List (ℕ × ℕ) → List (ℕ × ℕ)
  | first :: second :: third :: rest =>
      if second.1 < input then seekSegment input (second :: third :: rest)
      else first :: second :: third :: rest
  | points => points

def interpolate (input : ℕ) : List (ℕ × ℕ) → ℕ
  | first :: second :: _ =>
      first.2 + (second.2 - first.2) * (input - first.1) / (second.1 - first.1)
  | _ => 0

/-- The evenly spaced inputs the wheel stores outputs for. -/
def inputs : List ℕ :=
  (List.range curvePoints).map fun i => i * fullScale / (curvePoints - 1)

/-- The outputs at increasing inputs; the segment search carries on where it stopped. -/
def resample : List (ℕ × ℕ) → List ℕ → Curve
  | _, [] => []
  | points, input :: rest =>
      let segment := seekSegment input points
      (input, interpolate input segment) :: resample segment rest

def responseCurveUpload (pairs : List (ℕ × ℕ)) : Except Errno Curve :=
  if pairsAccepted 0 none pairs then .ok (resample pairs inputs) else .error .einval

/-- The sample at `t = i / 63`, rounded to nearest. -/
def sensitivitySample (sensitivity i : ℕ) : ℕ × ℕ :=
  let px := (100 - sensitivity) * 65535 / 100
  let py := sensitivity * 65535 / 100
  let w1 := 3 * i * (63 - i) * (63 - i)
  let w2 := 3 * i * i * (63 - i)
  let w3 := i * i * i
  ((w1 * px + w2 * py + w3 * 65535 + 125023) / 250047,
    (w1 * py + w2 * px + w3 * 65535 + 125023) / 250047)

/-- The samples from the given ones on; one that does not move the input is dropped. -/
def samplesFrom (sensitivity prevIn : ℕ) : List ℕ → List (ℕ × ℕ)
  | [] => []
  | i :: rest =>
      let sample := sensitivitySample sensitivity i
      if 0 < i ∧ sample.1 ≤ prevIn then samplesFrom sensitivity prevIn rest
      else sample :: samplesFrom sensitivity sample.1 rest

def buildSensitivityCurve (sensitivity : ℕ) : List (ℕ × ℕ) :=
  samplesFrom sensitivity 0 (List.range 64)

/-- What a sensitivity store leaves on its axis: 50 reverts to the built-in curve. -/
def sensitivityCurve (sensitivity : ℕ) : Except Errno Curve :=
  if sensitivity = 50 then .ok [] else responseCurveUpload (buildSensitivityCurve sensitivity)

def deadzonePoints (lower upper : ℕ) : List (ℕ × ℕ) :=
  [(0, 0)] ++ (if 0 < lower then [(lower * 65535 / 100, 0)] else []) ++
    (if 0 < upper then [((100 - upper) * 65535 / 100, 65535)] else []) ++ [(65535, 65535)]

/-- What a deadzone store leaves on its axis: an empty deadzone reverts to the built-in curve. -/
def deadzoneCurve (lower upper : ℕ) : Except Errno Curve :=
  if lower = 0 ∧ upper = 0 then .ok [] else responseCurveUpload (deadzonePoints lower upper)

section Bezier

/-- The weights of the control points in a coordinate of the curve. -/
def earlyWeight (i : ℕ) : ℕ := 3 * i * (63 - i) * (63 - i)

def lateWeight (i : ℕ) : ℕ := 3 * i * i * (63 - i)

def lastWeight (i : ℕ) : ℕ := i * i * i

def bezier (first second i : ℕ) : ℕ :=
  (earlyWeight i * first + lateWeight i * second + lastWeight i * 65535 + 125023) / 250047

theorem weights_le_succ : ∀ i < 63,
    earlyWeight i + lastWeight i ≤ earlyWeight (i + 1) + lastWeight (i + 1) ∧
      lateWeight i + lastWeight i ≤ lateWeight (i + 1) + lastWeight (i + 1) ∧
      lastWeight i ≤ lastWeight (i + 1) := by
  decide

theorem weights_le : ∀ i < 63,
    earlyWeight i + lastWeight i ≤ 249860 ∧ lateWeight i + lastWeight i ≤ 249860 ∧
      lastWeight i ≤ 249860 := by
  decide

/-- The control points of a slider do not add up to more than the last point. -/
theorem weighted_eq {first second : ℕ} (bound : first + second ≤ 65535) (i : ℕ) :
    earlyWeight i * first + lateWeight i * second + lastWeight i * 65535 =
      (earlyWeight i + lastWeight i) * first + (lateWeight i + lastWeight i) * second +
        lastWeight i * (65535 - first - second) := by
  obtain ⟨rest, same⟩ := Nat.exists_eq_add_of_le bound
  have remaining : 65535 - first - second = rest := by omega
  rw [remaining, same]
  ring

theorem bezier_le_succ {first second i : ℕ} (bound : first + second ≤ 65535) (inside : i < 63) :
    bezier first second i ≤ bezier first second (i + 1) := by
  obtain ⟨early, late, last⟩ := weights_le_succ i inside
  rw [bezier, bezier, weighted_eq bound, weighted_eq bound]
  apply Nat.div_le_div_right
  gcongr

theorem bezier_lt {first second i : ℕ} (bound : first + second ≤ 65535) (inside : i < 63) :
    bezier first second i < 65535 := by
  obtain ⟨early, late, last⟩ := weights_le i inside
  rw [bezier, weighted_eq bound, Nat.div_lt_iff_lt_mul (by omega)]
  have one := Nat.mul_le_mul_right first early
  have two := Nat.mul_le_mul_right second late
  have three := Nat.mul_le_mul_right (65535 - first - second) last
  omega

theorem sensitivitySample_eq (sensitivity i : ℕ) :
    sensitivitySample sensitivity i =
      (bezier ((100 - sensitivity) * 65535 / 100) (sensitivity * 65535 / 100) i,
        bezier (sensitivity * 65535 / 100) ((100 - sensitivity) * 65535 / 100) i) := rfl

variable {sensitivity : ℕ} (bound : sensitivity ≤ 100)

include bound

theorem sensitivitySample_le_succ {i : ℕ} (inside : i < 63) :
    (sensitivitySample sensitivity i).1 ≤ (sensitivitySample sensitivity (i + 1)).1 ∧
      (sensitivitySample sensitivity i).2 ≤ (sensitivitySample sensitivity (i + 1)).2 := by
  rw [sensitivitySample_eq, sensitivitySample_eq]
  exact ⟨bezier_le_succ (by omega) inside, bezier_le_succ (by omega) inside⟩

theorem sensitivitySample_lt {i : ℕ} (inside : i < 63) :
    (sensitivitySample sensitivity i).1 < 65535 ∧ (sensitivitySample sensitivity i).2 < 65535 := by
  rw [sensitivitySample_eq]
  exact ⟨bezier_lt (by omega) inside, bezier_lt (by omega) inside⟩

omit bound in
theorem sensitivitySample_last : sensitivitySample sensitivity 63 = (65535, 65535) := by
  rw [sensitivitySample_eq, Prod.mk.injEq]
  constructor <;> simp [bezier, earlyWeight, lateWeight, lastWeight]

omit bound in
theorem sensitivitySample_zero : sensitivitySample sensitivity 0 = (0, 0) := by
  rw [sensitivitySample_eq, Prod.mk.injEq]
  constructor <;> simp [bezier, earlyWeight, lateWeight, lastWeight]

omit bound in
theorem pairsAccepted_cons {npts : ℕ} {previous pair : ℕ × ℕ} {pairs : List (ℕ × ℕ)}
    (room : npts < 64) (small : pair.1 ≤ 65535 ∧ pair.2 ≤ 65535) (moves : previous.1 < pair.1)
    (keeps : previous.2 ≤ pair.2) :
    pairsAccepted npts (some previous) (pair :: pairs) =
      pairsAccepted (npts + 1) (some pair) pairs := by
  have fits : ¬ (curvePoints ≤ npts ∨ fullScale < pair.1 ∨ fullScale < pair.2) := by
    simp only [curvePoints, fullScale]
    omega
  rw [pairsAccepted, if_neg fits]
  exact if_neg (by omega)

/-- The samples behind one that was accepted are accepted. -/
theorem samplesFrom_accepted {count i npts : ℕ} {previous : ℕ × ℕ} (ends : i + count = 63)
    (later : 0 < i) (room : npts + count < 64) (least : previous.1 < 65535)
    (below : previous.2 ≤ (sensitivitySample sensitivity i).2) (started : 0 < npts) :
    pairsAccepted npts (some previous)
      (samplesFrom sensitivity previous.1 (List.range' i (count + 1))) = true := by
  induction count generalizing i npts previous with
  | zero =>
      obtain rfl : i = 63 := ends
      rw [sensitivitySample_last] at below
      rw [Nat.add_zero] at room
      rw [List.range'_one, samplesFrom, sensitivitySample_last, if_neg (by omega), samplesFrom,
        pairsAccepted_cons room (by omega) least below, pairsAccepted]
      simp only [Bool.and_eq_true, decide_eq_true_eq]
      exact ⟨by omega, rfl⟩
  | succ count ih =>
      have rises := sensitivitySample_le_succ bound (by omega : i < 63)
      rw [List.range'_succ, samplesFrom]
      by_cases still : (sensitivitySample sensitivity i).1 ≤ previous.1
      · rw [if_pos ⟨later, still⟩]
        exact ih (by omega) (by omega) (by omega) least (by omega) started
      · have small := sensitivitySample_lt bound (by omega : i < 63)
        rw [if_neg fun both => still both.2, pairsAccepted_cons (by omega) (by omega) (by omega)
          below]
        exact ih (by omega) (by omega) (by omega) small.1 rises.2 (by omega)

end Bezier

theorem buildSensitivityCurve_accepted :
    ∀ sensitivity ≤ 100, pairsAccepted 0 none (buildSensitivityCurve sensitivity) = true := by
  intro sensitivity bound
  have rises := sensitivitySample_le_succ bound (by omega : 0 < 63)
  rw [sensitivitySample_zero] at rises
  have indices : List.range 64 = 0 :: List.range' 1 (62 + 1) := rfl
  have first (pairs : List (ℕ × ℕ)) :
      pairsAccepted 0 none ((0, 0) :: pairs) = pairsAccepted 1 (some (0, 0)) pairs := rfl
  rw [buildSensitivityCurve, indices, samplesFrom, sensitivitySample_zero, if_neg (by omega), first]
  exact @samplesFrom_accepted sensitivity bound 62 1 1 (0, 0) rfl Nat.one_pos (by omega) (by omega)
    rises.2 Nat.one_pos

theorem deadzonePoints_accepted {lower upper : ℕ} (bound : lower + upper ≤ 99) :
    pairsAccepted 0 none (deadzonePoints lower upper) = true := by
  have low : lower * 65535 / 100 < (100 - upper) * 65535 / 100 := by omega
  have high : (100 - upper) * 65535 / 100 ≤ 65535 := by omega
  rcases Nat.eq_zero_or_pos lower with rfl | lowerPos <;>
    rcases Nat.eq_zero_or_pos upper with rfl | upperPos
  · rfl
  · have inside : 0 < (100 - upper) * 65535 / 100 ∧ (100 - upper) * 65535 / 100 < 65535 := by omega
    simp [deadzonePoints, pairsAccepted, upperPos, curvePoints, fullScale]
    omega
  · have inside : 0 < lower * 65535 / 100 ∧ lower * 65535 / 100 < 65535 := by omega
    simp [deadzonePoints, pairsAccepted, lowerPos, curvePoints, fullScale]
    omega
  · have inside : 0 < lower * 65535 / 100 ∧ (100 - upper) * 65535 / 100 < 65535 := by omega
    simp [deadzonePoints, pairsAccepted, lowerPos, upperPos, curvePoints, fullScale]
    omega

theorem sensitivityCurve_ok {sensitivity : ℕ} (bound : sensitivity ≤ 100) :
    ∃ curve, sensitivityCurve sensitivity = .ok curve := by
  by_cases linear : sensitivity = 50
  · exact ⟨[], by simp [sensitivityCurve, linear]⟩
  · refine ⟨resample (buildSensitivityCurve sensitivity) inputs, ?_⟩
    rw [sensitivityCurve, if_neg linear, responseCurveUpload,
      if_pos (buildSensitivityCurve_accepted sensitivity bound)]

theorem deadzoneCurve_ok {lower upper : ℕ} (bound : lower + upper ≤ 99) :
    ∃ curve, deadzoneCurve lower upper = .ok curve := by
  by_cases none : lower = 0 ∧ upper = 0
  · exact ⟨[], by simp [deadzoneCurve, none]⟩
  · refine ⟨resample (deadzonePoints lower upper) inputs, ?_⟩
    rw [deadzoneCurve, if_neg none, responseCurveUpload, if_pos (deadzonePoints_accepted bound)]

end TrueForce.Profile
