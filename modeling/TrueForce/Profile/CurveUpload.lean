import Mathlib.Data.List.Infix
import TrueForce.Profile.Deadzones

/-!
# The upload of a response curve

An accepted list is resampled to the 64 outputs that the wheel stores, and sent as an
open command, chunks of at most three points, and a commit; an upload that stops in
between is reverted.  Arithmetic has no result where `u32` would wrap or a divisor is
zero.
-/

namespace TrueForce.Profile.CurveUpload

open TrueForce.PointList TrueForce.Polyline
open TrueForce.Profile.CurveEditor (interp interp_eq pairsAccepted_iff)

def u32 (value : ℕ) : Option ℕ := if value < 2 ^ 32 then some value else none

def subtract (first second : ℕ) : Option ℕ := if second ≤ first then some (first - second) else none

def divide (dividend divisor : ℕ) : Option ℕ :=
  if divisor = 0 then none else some (dividend / divisor)

/-- The input of a stored point. -/
def storedInput (i : ℕ) : Option ℕ := do
  let scaled ← u32 (i * fullScale)
  divide scaled (curvePoints - 1)

/-- The output on the current segment, which is the first of the points. -/
def storedOutput (input : ℕ) : List Point → Option ℕ
  | first :: second :: _ => do
      let rise ← subtract second.2 first.2
      let offset ← subtract input first.1
      let product ← u32 (rise * offset)
      let width ← subtract second.1 first.1
      let slope ← divide product width
      let output ← u32 (first.2 + slope)
      some (output % 2 ^ 16)
  | _ => none

def outputsFrom : List Point → List ℕ → Option (List ℕ)
  | _, [] => some []
  | points, i :: rest => do
      let input ← storedInput i
      let segment := seekSegment input points
      let output ← storedOutput input segment
      let outputs ← outputsFrom segment rest
      some (output :: outputs)

/-- The 64 outputs of a list of pairs. -/
def outputs (pairs : List Point) : Option (List ℕ) := outputsFrom pairs (List.range curvePoints)

structure Report where
  function : ℕ
  params : List UInt8
  deriving DecidableEq

/-- A report with what its send returned: nothing, a HID++ error or a failure. -/
structure Sent where
  report : Report
  ret : ℤ
  deriving DecidableEq

structure Wheel where
  axis : UInt8
  /-- What the sends return, in their order. -/
  reply : ℕ → ℤ
  /-- Whether teardown has begun, by the number of reports sent before. -/
  stopping : ℕ → Bool

def enodev : ℤ := -19

def einval : ℤ := -22

def hidppErrno (ret : ℤ) : ℤ := if 0 < ret then -5 else ret

def be16 (value : ℕ) : List UInt8 := [UInt8.ofNat (value / 256), UInt8.ofNat value]

def openReport (wheel : Wheel) : Report := ⟨0x30, [wheel.axis]⟩

def pointsReport (outputs : List ℕ) (sent n : ℕ) : Report where
  function := 0x40
  params := UInt8.ofNat n :: (List.range n).flatMap fun i =>
    be16 ((sent + i) * fullScale / (curvePoints - 1)) ++ be16 (outputs.getD (sent + i) 0)

def commitReport : Report := ⟨0x50, []⟩

def revertReport (wheel : Wheel) : Report := ⟨0x60, [wheel.axis]⟩

namespace Wheel

def send (wheel : Wheel) (log : List Sent) (report : Report) : List Sent × ℤ :=
  (log ++ [⟨report, wheel.reply log.length⟩], hidppErrno (wheel.reply log.length))

/-- The chunks from the given point on. -/
def sendPoints (wheel : Wheel) (outputs : List ℕ) (sent : ℕ) (log : List Sent) : List Sent × ℤ :=
  if sent < curvePoints then
    if wheel.stopping log.length then (log, enodev)
    else
      let n := min (curvePoints - sent) 3
      let (log, ret) := wheel.send log (pointsReport outputs sent n)
      if ret ≠ 0 then (log, ret) else wheel.sendPoints outputs (sent + n) log
  else (log, 0)
termination_by curvePoints - sent

def revert (wheel : Wheel) (log : List Sent) : List Sent := (wheel.send log (revertReport wheel)).1

def sendCurve (wheel : Wheel) (outputs : List ℕ) : List Sent × ℤ :=
  let (log, ret) := wheel.send [] (openReport wheel)
  if ret ≠ 0 then (log, ret)
  else
    let (log, ret) := wheel.sendPoints outputs 0 log
    if ret ≠ 0 then (wheel.revert log, ret)
    else
      let (log, ret) := wheel.send log commitReport
      if ret ≠ 0 then (wheel.revert log, ret) else (log, 0)

/-- What is sent for a list of pairs. -/
def upload (wheel : Wheel) (pairs : List Point) : Option (List Sent × ℤ) :=
  if pairsAccepted 0 none pairs then (outputs pairs).map wheel.sendCurve else some ([], einval)

end Wheel

theorem u32_of_lt {value : ℕ} (small : value < 2 ^ 32) : u32 value = some value := if_pos small

theorem subtract_of_le {first second : ℕ} (ordered : second ≤ first) :
    subtract first second = some (first - second) := if_pos ordered

theorem divide_of_pos {dividend divisor : ℕ} (positive : 0 < divisor) :
    divide dividend divisor = some (dividend / divisor) := if_neg positive.ne'

/-- The evenly spaced input of a stored point. -/
def evenInput (i : ℕ) : ℕ := i * fullScale / (curvePoints - 1)

theorem evenInput_mono {i j : ℕ} (ordered : i ≤ j) : evenInput i ≤ evenInput j := by
  apply Nat.div_le_div_right
  exact Nat.mul_le_mul_right _ ordered

theorem evenInput_le {i : ℕ} (inside : i < curvePoints) : evenInput i ≤ fullScale := by
  simp only [evenInput, curvePoints, fullScale] at inside ⊢
  omega

theorem inputs_eq : inputs = (List.range curvePoints).map evenInput := rfl

theorem storedInput_eq {i : ℕ} (inside : i < curvePoints) : storedInput i = some (evenInput i) := by
  have small : i * fullScale < 2 ^ 32 := by
    simp only [curvePoints, fullScale] at inside ⊢
    omega
  rw [storedInput, u32_of_lt small]
  exact divide_of_pos (show 0 < curvePoints - 1 by decide)

/-- The search ends on the segment that the input is on, and leaves the rest of the line. -/
theorem seekSegment_spec {input : ℕ} {first second last : Point} {rest : List Point}
    (rising : Rising (first :: second :: rest))
    (ends : (first :: second :: rest).getLast? = some last)
    (above : first.1 ≤ input) (below : input ≤ last.1) :
    ∃ start stop others, seekSegment input (first :: second :: rest) = start :: stop :: others ∧
      Rising (start :: stop :: others) ∧ (start :: stop :: others).getLast? = some last ∧
      start.1 ≤ input ∧ input ≤ stop.1 ∧
      ∀ later, input ≤ later →
        polyline (first :: second :: rest) later = polyline (start :: stop :: others) later := by
  induction rest generalizing first second with
  | nil =>
      simp only [List.getLast?_cons_cons, List.getLast?_singleton, Option.some.injEq] at ends
      subst ends
      exact ⟨first, second, [], rfl, rising, rfl, above, below, fun _ _ => rfl⟩
  | cons third rest ih =>
      by_cases passed : second.1 < input
      · rw [List.getLast?_cons_cons] at ends
        rcases ih rising.of_cons ends passed.le with
          ⟨start, stop, others, found, segmentRising, segmentEnds, low, high, same⟩
        refine ⟨start, stop, others, ?_, segmentRising, segmentEnds, low, high, ?_⟩
        · rw [seekSegment, if_pos passed]
          exact found
        · intro later after
          rw [polyline_behind (passed.trans_le after)]
          exact same later after
      · refine ⟨first, second, third :: rest, ?_, rising, ends, above, Nat.not_lt.mp passed,
          fun _ _ => rfl⟩
        rw [seekSegment, if_neg passed]

theorem storedOutput_eq {input : ℕ} {first second : Point} (rest : List Point)
    (step : Step first second) (above : first.1 ≤ input) (below : input ≤ second.1)
    (full : second.1 ≤ fullScale ∧ second.2 ≤ fullScale) :
    storedOutput input (first :: second :: rest) = some (along first second input) := by
  have size : fullScale = 65535 := rfl
  have widths : first.1 < second.1 ∧ first.2 ≤ second.2 := step
  have small : (second.2 - first.2) * (input - first.1) < 2 ^ 32 := by
    calc (second.2 - first.2) * (input - first.1) ≤ fullScale * fullScale :=
          Nat.mul_le_mul (by omega) (by omega)
      _ < 2 ^ 32 := by decide
  have value : along first second input ≤ second.2 := along_le step below
  rw [along, Nat.mul_comm] at value ⊢
  simp only [storedOutput, subtract_of_le widths.2, subtract_of_le above,
    subtract_of_le widths.1.le, u32_of_lt small, divide_of_pos (Nat.sub_pos_of_lt widths.1),
    Option.bind_eq_bind, Option.bind_some]
  rw [u32_of_lt (by omega), Option.bind_some, Nat.mod_eq_of_lt (by omega)]

theorem interpolate_eq (input : ℕ) (first second : Point) (rest : List Point) :
    interpolate input (first :: second :: rest) = along first second input := by
  rw [interpolate, along, Nat.mul_comm]

/-- Both the outputs and the stored points follow the line. -/
theorem outputsFrom_eq {first second last : Point} {rest : List Point} {indices : List ℕ}
    (rising : Rising (first :: second :: rest))
    (ends : (first :: second :: rest).getLast? = some last) (full : last = (fullScale, fullScale))
    (ordered : indices.Pairwise (· ≤ ·)) (inside : ∀ i ∈ indices, i < curvePoints)
    (above : ∀ i ∈ indices, first.1 ≤ evenInput i) :
    outputsFrom (first :: second :: rest) indices =
        some (indices.map fun i => polyline (first :: second :: rest) (evenInput i)) ∧
      resample (first :: second :: rest) (indices.map evenInput) =
        indices.map fun i => (evenInput i, polyline (first :: second :: rest) (evenInput i)) := by
  induction indices generalizing first second rest with
  | nil => exact ⟨rfl, rfl⟩
  | cons i indices ih =>
      have below : evenInput i ≤ last.1 := by
        rw [full]
        exact evenInput_le (inside i List.mem_cons_self)
      rcases seekSegment_spec rising ends (above i List.mem_cons_self) below with
        ⟨start, stop, others, found, segmentRising, segmentEnds, low, high, same⟩
      have bound := segmentRising.le_last segmentEnds (List.mem_cons_of_mem _ List.mem_cons_self)
      have later : ∀ j ∈ indices, i ≤ j := fun j => List.rel_of_pairwise_cons ordered
      rcases ih segmentRising segmentEnds ordered.of_cons
        (fun j member => inside j (List.mem_cons_of_mem i member))
        (fun j member => low.trans (evenInput_mono (later j member))) with ⟨values, points⟩
      have here : polyline (first :: second :: rest) (evenInput i) =
          along start stop (evenInput i) := by
        rw [same _ (le_refl _), polyline_here high]
      have behind : ∀ j ∈ indices, polyline (first :: second :: rest) (evenInput j) =
          polyline (start :: stop :: others) (evenInput j) := by
        intro j member
        exact same _ (evenInput_mono (later j member))
      rw [full] at bound
      constructor
      · rw [outputsFrom, storedInput_eq (inside i List.mem_cons_self), Option.bind_eq_bind,
          Option.bind_some]
        simp only [found, storedOutput_eq _ segmentRising.rel low high bound, values,
          Option.bind_eq_bind, Option.bind_some, List.map_cons, here]
        rw [List.map_congr_left behind]
      · rw [List.map_cons, resample, found, interpolate_eq, points, List.map_cons, here]
        congr 1
        apply List.map_congr_left
        intro j member
        rw [behind j member]

/-- The outputs that are uploaded for a list of pairs. -/
structure Resampled (pairs : List Point) (outputs : List ℕ) : Prop where
  length : outputs.length = curvePoints
  rising : outputs.Pairwise (· ≤ ·)
  first : outputs.head? = some 0
  last : outputs.getLast? = some fullScale
  /-- The preview reads each of them at its input. -/
  preview : ∀ i (inside : i < outputs.length),
    interp pairs (i * fullScale / (curvePoints - 1)) = .ok outputs[i]

/-- The points that the wheel stores. -/
def storedPoints (outputs : List ℕ) : List Point :=
  (List.range curvePoints).map fun i => (evenInput i, outputs.getD i 0)

theorem outputs_resampled {pairs : List Point} (accepted : pairsAccepted 0 none pairs = true) :
    ∃ values, outputs pairs = some values ∧ Resampled pairs values ∧
      storedPoints values = resample pairs inputs := by
  rcases pairsAccepted_iff.mp accepted with ⟨-, rising, first, last⟩
  have start := polyline_at rising (List.mem_of_head? first)
  have stop := polyline_at rising (List.mem_of_getLast? last)
  rcases pairs with _ | ⟨corner, _ | ⟨second, rest⟩⟩
  · cases first
  · cases first
    cases last
  · simp only [List.head?_cons, Option.some.injEq] at first
    subst first
    rcases outputsFrom_eq rising last rfl (@List.pairwise_le_range curvePoints)
      (fun i member => List.mem_range.mp member) (fun _ _ => Nat.zero_le _) with ⟨values, points⟩
    refine ⟨_, values, ⟨?_, ?_, ?_, ?_, ?_⟩, ?_⟩
    · rw [List.length_map, List.length_range]
    · apply List.pairwise_map.mpr
      apply List.pairwise_le_range.imp
      intro i j ordered
      exact polyline_mono rising (evenInput_mono ordered)
    · rw [List.head?_map, List.head?_range, if_neg (by decide), Option.map_some,
        show evenInput 0 = 0 by decide, start]
    · rw [List.getLast?_map, List.getLast?_range, if_neg (by decide), Option.map_some,
        show evenInput (curvePoints - 1) = fullScale by decide, stop]
    · intro i inside
      rw [interp_eq rising rfl last, List.getElem_map, List.getElem_range]
      rfl
    · rw [inputs_eq, points]
      apply List.map_congr_left
      intro i member
      have inside := List.mem_range.mp member
      rw [List.getD_eq_getElem?_getD, List.getElem?_map, List.getElem?_range inside,
        Option.map_some, Option.getD_some]

def readPoints : List UInt8 → List Point
  | high :: low :: outHigh :: outLow :: rest =>
      (high.toNat * 256 + low.toNat, outHigh.toNat * 256 + outLow.toNat) :: readPoints rest
  | _ => []

/-- The points in a chunk. -/
def Report.points (report : Report) : List Point :=
  if report.function = 0x40 then readPoints report.params.tail else []

def carried (log : List Sent) : List Point := log.flatMap fun entry => entry.report.points

def Report.chunked (report : Report) : Prop :=
  report.points.length ≤ 3 ∧ report.params.head? = some (UInt8.ofNat report.points.length)

/-- What a log of sends says of the upload of some points. -/
structure UploadLaw (points : List Point) (log : List Sent) : Prop where
  carries : carried log <+: points
  chunked : ∀ entry ∈ log, entry.report.function = 0x40 → entry.report.chunked
  /-- A commit follows all points, each sent without an error. -/
  commits : ∀ before entry after, log = before ++ entry :: after →
    entry.report.function = 0x50 → carried before = points ∧ ∀ earlier ∈ before, earlier.ret = 0
  /-- An upload that was opened and not committed is reverted. -/
  reverts : (∃ entry ∈ log, entry.report.function = 0x60) ↔
    (∃ entry ∈ log, entry.report.function = 0x30 ∧ entry.ret = 0) ∧
      ¬∃ entry ∈ log, entry.report.function = 0x50 ∧ entry.ret = 0

/-- No send fails and no teardown begins. -/
def Wheel.Untroubled (wheel : Wheel) : Prop :=
  ∀ count, wheel.reply count = 0 ∧ wheel.stopping count = false

/-- All points are sent and committed, and the upload returns 0. -/
structure Succeeds (points : List Point) (upload : List Sent × ℤ) : Prop where
  ret : upload.2 = 0
  carries : carried upload.1 = points
  committed : ∃ entry ∈ upload.1, entry.report.function = 0x50 ∧ entry.ret = 0

theorem hidppErrno_eq_zero_iff {ret : ℤ} : hidppErrno ret = 0 ↔ ret = 0 := by
  rw [hidppErrno]
  split_ifs with positive
  · exact ⟨fun failed => absurd failed (by decide), fun zero => absurd zero positive.ne'⟩
  · exact Iff.rfl

theorem readPoints_be16 {points : List Point}
    (full : ∀ point ∈ points, point.1 ≤ fullScale ∧ point.2 ≤ fullScale) :
    readPoints (points.flatMap fun point => be16 point.1 ++ be16 point.2) = points := by
  induction points with
  | nil => rfl
  | cons point points ih =>
      have bound := full point List.mem_cons_self
      have rest := ih fun other member => full other (List.mem_cons_of_mem point member)
      simp only [fullScale] at bound
      simp only [List.flatMap_cons, be16, List.cons_append, List.nil_append] at rest ⊢
      rw [readPoints, rest]
      congr 1
      apply Prod.ext
      · simp only [UInt8.toNat_ofNat']
        omega
      · simp only [UInt8.toNat_ofNat']
        omega

theorem take_drop_storedPoints (outputs : List ℕ) {sent n : ℕ} (inside : sent + n ≤ curvePoints) :
    ((storedPoints outputs).drop sent).take n =
      (List.range n).map fun i => (evenInput (sent + i), outputs.getD (sent + i) 0) := by
  apply List.ext_getElem
  · simp [storedPoints]
    omega
  · intro i _ _
    simp [storedPoints]

theorem pointsReport_points {outputs : List ℕ} {sent n : ℕ} (inside : sent + n ≤ curvePoints)
    (full : ∀ output ∈ outputs, output ≤ fullScale) :
    (pointsReport outputs sent n).points = ((storedPoints outputs).drop sent).take n := by
  rw [take_drop_storedPoints outputs inside]
  simp only [Report.points, pointsReport, ↓reduceIte, List.tail_cons]
  have bytes : ((List.range n).flatMap fun i =>
      be16 ((sent + i) * fullScale / (curvePoints - 1)) ++ be16 (outputs.getD (sent + i) 0)) =
      ((List.range n).map fun i => (evenInput (sent + i), outputs.getD (sent + i) 0)).flatMap
        fun point => be16 point.1 ++ be16 point.2 := by
    rw [List.flatMap_map]
    rfl
  rw [bytes]
  apply readPoints_be16
  intro point member
  rcases List.mem_map.mp member with ⟨i, below, rfl⟩
  have small := List.mem_range.mp below
  refine ⟨evenInput_le (by omega), ?_⟩
  simp only [List.getD_eq_getElem?_getD]
  cases found : outputs[sent + i]? with
  | none => exact Nat.zero_le _
  | some output => exact full output (List.mem_of_getElem? found)

theorem length_pointsReport {outputs : List ℕ} {sent n : ℕ} (inside : sent + n ≤ curvePoints)
    (full : ∀ output ∈ outputs, output ≤ fullScale) :
    (pointsReport outputs sent n).points.length = n := by
  rw [pointsReport_points inside full, take_drop_storedPoints outputs inside, List.length_map,
    List.length_range]

/-- Chunks of some points, in front of others. -/
structure Chunks (points : List Point) (new : List Sent) : Prop where
  kind : ∀ entry ∈ new, entry.report.function = 0x40
  chunked : ∀ entry ∈ new, entry.report.chunked
  carries : carried new <+: points

theorem Chunks.nil (points : List Point) : Chunks points [] :=
  ⟨by simp, by simp, List.nil_prefix⟩

theorem carried_cons (entry : Sent) (new : List Sent) :
    carried (entry :: new) = entry.report.points ++ carried new := List.flatMap_cons

/-- One chunk of at most three points. -/
theorem Chunks.cons {outputs : List ℕ} {sent n : ℕ} {ret : ℤ} {new : List Sent}
    (full : ∀ output ∈ outputs, output ≤ fullScale) (inside : sent + n ≤ curvePoints)
    (few : n ≤ 3) (chunks : Chunks ((storedPoints outputs).drop (sent + n)) new) :
    Chunks ((storedPoints outputs).drop sent) (⟨pointsReport outputs sent n, ret⟩ :: new) := by
  have count := length_pointsReport inside full
  refine ⟨?_, ?_, ?_⟩
  · rintro _ (_ | ⟨_, member⟩)
    · rfl
    · exact chunks.kind _ member
  · rintro _ (_ | ⟨_, member⟩)
    · refine ⟨by rw [count]; exact few, ?_⟩
      rw [count]
      rfl
    · exact chunks.chunked _ member
  · rw [carried_cons, pointsReport_points inside full]
    have rest := (List.prefix_append_right_inj (((storedPoints outputs).drop sent).take n)).mpr
      chunks.carries
    rwa [← List.drop_drop, List.take_append_drop] at rest

theorem sendPoints_spec (wheel : Wheel) {outputs : List ℕ}
    (full : ∀ output ∈ outputs, output ≤ fullScale) {sent : ℕ} (inside : sent ≤ curvePoints)
    (log : List Sent) :
    ∃ new, (wheel.sendPoints outputs sent log).1 = log ++ new ∧
      Chunks ((storedPoints outputs).drop sent) new ∧
      ((wheel.sendPoints outputs sent log).2 = 0 →
        carried new = (storedPoints outputs).drop sent ∧ ∀ entry ∈ new, entry.ret = 0) := by
  fun_induction Wheel.sendPoints wheel outputs sent log with
  | case1 sent log below stopping =>
      refine ⟨[], (List.append_nil log).symm, Chunks.nil _, ?_⟩
      rintro ⟨⟩
  | case2 sent log below running n log' ret sends failed =>
      cases sends
      have within : sent + n ≤ curvePoints := by omega
      refine ⟨[_], rfl, Chunks.cons full within (by omega) (Chunks.nil _), ?_⟩
      intro zero
      exact absurd zero failed
  | case3 sent log below running n log' ret sends good ih =>
      cases sends
      have within : sent + n ≤ curvePoints := by omega
      rcases ih within with ⟨new, logged, chunks, whole⟩
      refine ⟨⟨pointsReport outputs sent n, wheel.reply log.length⟩ :: new, ?_,
        Chunks.cons full within (by omega) chunks, ?_⟩
      · rw [logged, List.append_assoc]
        rfl
      · intro zero
        rcases whole zero with ⟨rest, answered⟩
        refine ⟨?_, ?_⟩
        · rw [carried_cons, pointsReport_points within full, rest, ← List.drop_drop,
            List.take_append_drop]
        · rintro _ (_ | ⟨_, member⟩)
          · exact hidppErrno_eq_zero_iff.mp (not_not.mp good)
          · exact answered _ member
  | case4 sent log whole =>
      refine ⟨[], (List.append_nil log).symm, Chunks.nil _, ?_⟩
      intro _
      refine ⟨?_, by simp⟩
      rw [List.drop_of_length_le]
      · rfl
      · rw [storedPoints, List.length_map, List.length_range]
        exact Nat.not_lt.mp whole

theorem sendPoints_untroubled {wheel : Wheel} (untroubled : wheel.Untroubled) (outputs : List ℕ)
    (sent : ℕ) (log : List Sent) : (wheel.sendPoints outputs sent log).2 = 0 := by
  fun_induction Wheel.sendPoints wheel outputs sent log with
  | case1 sent log below stopping =>
      rw [(untroubled log.length).2] at stopping
      cases stopping
  | case2 sent log below running n log' ret sends failed =>
      cases sends
      exact absurd (hidppErrno_eq_zero_iff.mpr (untroubled log.length).1) failed
  | case3 sent log below running n log' ret sends good ih => exact ih
  | case4 sent log whole => rfl

theorem carried_of_kind {log : List Sent} (kind : ∀ entry ∈ log, entry.report.function ≠ 0x40) :
    carried log = [] := by
  apply List.flatMap_eq_nil_iff.mpr
  intro entry member
  rw [Report.points, if_neg (kind entry member)]

/-- How an exchange ends: a commit comes first, and a revert stands for an upload that was opened
and not committed. -/
structure Ends (opened : ℤ) (whole : Prop) (tail : List Sent) : Prop where
  kind : ∀ entry ∈ tail, entry.report.function = 0x50 ∨ entry.report.function = 0x60
  commits : ∀ entry ∈ tail, entry.report.function = 0x50 → opened = 0 ∧ whole
  once : ∀ entry ∈ tail.tail, entry.report.function ≠ 0x50
  reverts : (∃ entry ∈ tail, entry.report.function = 0x60) ↔
    opened = 0 ∧ ¬∃ entry ∈ tail, entry.report.function = 0x50 ∧ entry.ret = 0

section

variable {opened : ℤ} {whole : Prop} {front tail : List Sent}

theorem Ends.carried_tail (ends : Ends opened whole tail) : carried tail = [] := by
  apply carried_of_kind
  intro entry member
  rcases ends.kind entry member with kind | kind
  · rw [kind]
    decide
  · rw [kind]
    decide

/-- Behind a front that neither commits nor reverts, both happen in the tail. -/
theorem mem_tail_of_kind
    (opening : ∀ entry ∈ front, entry.report.function ≠ 0x50 ∧ entry.report.function ≠ 0x60)
    {entry : Sent} (member : entry ∈ front ++ tail)
    (kind : entry.report.function = 0x50 ∨ entry.report.function = 0x60) : entry ∈ tail := by
  rcases List.mem_append.mp member with before | after
  · rcases kind with kind | kind
    · exact absurd kind (opening entry before).1
    · exact absurd kind (opening entry before).2
  · exact after

/-- A commit comes right behind the front. -/
theorem Ends.before_commit (ends : Ends opened whole tail)
    (opening : ∀ entry ∈ front, entry.report.function ≠ 0x50 ∧ entry.report.function ≠ 0x60)
    {before after : List Sent} {entry : Sent} (split : front ++ tail = before ++ entry :: after)
    (kind : entry.report.function = 0x50) : before = front ∧ entry ∈ tail := by
  rcases List.append_eq_append_iff.mp split with ⟨between, same, rest⟩ | ⟨between, same, rest⟩
  · cases between with
    | nil =>
        rw [List.append_nil] at same
        exact ⟨same, by rw [rest]; simp⟩
    | cons first others =>
        have later : entry ∈ tail.tail := by rw [rest]; simp
        exact absurd kind (ends.once entry later)
  · cases between with
    | nil =>
        rw [List.append_nil] at same
        rw [List.nil_append] at rest
        exact ⟨same.symm, by rw [← rest]; exact List.mem_cons_self⟩
    | cons first others =>
        cases rest
        have inside : entry ∈ front := by
          rw [same]
          simp
        exact absurd kind (opening entry inside).1

theorem Ends.reverts_iff (ends : Ends opened whole tail)
    (opening : ∀ entry ∈ front, entry.report.function ≠ 0x50 ∧ entry.report.function ≠ 0x60) :
    (∃ entry ∈ front ++ tail, entry.report.function = 0x60) ↔
      opened = 0 ∧ ¬∃ entry ∈ front ++ tail, entry.report.function = 0x50 ∧ entry.ret = 0 := by
  have commits : (∃ entry ∈ front ++ tail, entry.report.function = 0x50 ∧ entry.ret = 0) ↔
      ∃ entry ∈ tail, entry.report.function = 0x50 ∧ entry.ret = 0 := by
    constructor
    · rintro ⟨entry, member, kind, ret⟩
      exact ⟨entry, mem_tail_of_kind opening member (Or.inl kind), kind, ret⟩
    · rintro ⟨entry, member, committed⟩
      exact ⟨entry, List.mem_append_right front member, committed⟩
  rw [commits, ← ends.reverts]
  constructor
  · rintro ⟨entry, member, kind⟩
    exact ⟨entry, mem_tail_of_kind opening member (Or.inr kind), kind⟩
  · rintro ⟨entry, member, kind⟩
    exact ⟨entry, List.mem_append_right front member, kind⟩

end

section

variable {wheel : Wheel} {points : List Point} {new tail : List Sent} {opened : ℤ}

theorem Chunks.opening (chunks : Chunks points new) :
    ∀ entry ∈ (⟨openReport wheel, opened⟩ :: new : List Sent),
      entry.report.function ≠ 0x50 ∧ entry.report.function ≠ 0x60 := by
  rintro _ (_ | ⟨_, member⟩)
  · exact ⟨show 0x30 ≠ 0x50 by decide, show 0x30 ≠ 0x60 by decide⟩
  · rw [chunks.kind _ member]
    exact ⟨by decide, by decide⟩

theorem Chunks.opened_iff {whole : Prop} (chunks : Chunks points new)
    (ends : Ends opened whole tail) :
    (∃ entry ∈ (⟨openReport wheel, opened⟩ :: new ++ tail : List Sent),
      entry.report.function = 0x30 ∧ entry.ret = 0) ↔ opened = 0 := by
  constructor
  · rintro ⟨entry, (_ | ⟨_, member⟩), kind, ret⟩
    · exact ret
    · rcases List.mem_append.mp member with member | member
      · rw [chunks.kind _ member] at kind
        cases kind
      · rcases ends.kind entry member with other | other
        · rw [other] at kind
          cases kind
        · rw [other] at kind
          cases kind
  · intro opens
    exact ⟨⟨openReport wheel, opened⟩, List.mem_cons_self, rfl, opens⟩

theorem Chunks.uploadLaw (chunks : Chunks points new)
    (ends : Ends opened (carried new = points ∧ ∀ entry ∈ new, entry.ret = 0) tail) :
    UploadLaw points (⟨openReport wheel, opened⟩ :: new ++ tail) := by
  have front : carried (⟨openReport wheel, opened⟩ :: new) = carried new := carried_cons _ _
  refine ⟨?_, ?_, ?_, ?_⟩
  · rw [carried, List.flatMap_append]
    change carried _ ++ carried tail <+: points
    rw [front, ends.carried_tail, List.append_nil]
    exact chunks.carries
  · intro entry member kind
    rcases List.mem_append.mp member with (_ | ⟨_, member⟩) | member
    · cases kind
    · exact chunks.chunked entry member
    · rcases ends.kind entry member with other | other
      · rw [other] at kind
        cases kind
      · rw [other] at kind
        cases kind
  · intro before entry after split kind
    rcases ends.before_commit chunks.opening split kind with ⟨rfl, last⟩
    rcases ends.commits entry last kind with ⟨opens, sent, answered⟩
    refine ⟨front.trans sent, ?_⟩
    rintro _ (_ | ⟨_, member⟩)
    · exact opens
    · exact answered _ member
  · rw [chunks.opened_iff ends]
    exact ends.reverts_iff chunks.opening

end

theorem Ends.refused {opened : ℤ} {whole : Prop} (failed : opened ≠ 0) : Ends opened whole [] where
  kind := by simp
  commits := by simp
  once := by simp
  reverts := by simp [failed]

theorem Ends.reverted {opened ret : ℤ} {whole : Prop} {wheel : Wheel} (opens : opened = 0) :
    Ends opened whole [⟨revertReport wheel, ret⟩] where
  kind := by simp [revertReport]
  commits := by simp [revertReport]
  once := by simp
  reverts := by simp [revertReport, opens]

theorem Ends.uncommitted {opened ret revertRet : ℤ} {whole : Prop} {wheel : Wheel}
    (opens : opened = 0) (sent : whole) (failed : ret ≠ 0) :
    Ends opened whole [⟨commitReport, ret⟩, ⟨revertReport wheel, revertRet⟩] where
  kind := by simp [revertReport, commitReport]
  commits := by simp [revertReport, commitReport, opens, sent]
  once := by simp [revertReport]
  reverts := by simp [revertReport, commitReport, opens, failed]

theorem Ends.committed {opened ret : ℤ} {whole : Prop} (opens : opened = 0) (sent : whole)
    (answered : ret = 0) : Ends opened whole [⟨commitReport, ret⟩] where
  kind := by simp [commitReport]
  commits := by simp [commitReport, opens, sent]
  once := by simp
  reverts := by simp [commitReport, answered]

theorem sendCurve_law (wheel : Wheel) {outputs : List ℕ}
    (full : ∀ output ∈ outputs, output ≤ fullScale) :
    UploadLaw (storedPoints outputs) (wheel.sendCurve outputs).1 := by
  rcases sendPoints_spec wheel full (Nat.zero_le curvePoints)
    [⟨openReport wheel, wheel.reply 0⟩] with ⟨new, logged, chunks, whole⟩
  rw [List.drop_zero] at chunks whole
  simp only [Wheel.sendCurve, Wheel.send, List.nil_append, List.length_nil, ne_eq,
    hidppErrno_eq_zero_iff, ite_not]
  by_cases opens : wheel.reply 0 = 0
  · by_cases sent : (wheel.sendPoints outputs 0 [⟨openReport wheel, wheel.reply 0⟩]).2 = 0
    · have everything := whole sent
      rw [if_pos opens, if_pos sent, logged]
      split_ifs with committed
      · exact chunks.uploadLaw (Ends.committed opens everything committed)
      · rw [Wheel.revert, Wheel.send, List.append_assoc]
        exact chunks.uploadLaw (Ends.uncommitted opens everything committed)
    · rw [if_pos opens, if_neg sent, logged, Wheel.revert, Wheel.send]
      exact chunks.uploadLaw (Ends.reverted opens)
  · rw [if_neg opens]
    exact (Chunks.nil _).uploadLaw (Ends.refused opens)

theorem sendCurve_succeeds {wheel : Wheel} (untroubled : wheel.Untroubled) {outputs : List ℕ}
    (full : ∀ output ∈ outputs, output ≤ fullScale) :
    Succeeds (storedPoints outputs) (wheel.sendCurve outputs) := by
  rcases sendPoints_spec wheel full (Nat.zero_le curvePoints)
    [⟨openReport wheel, wheel.reply 0⟩] with ⟨new, logged, chunks, whole⟩
  have sent := sendPoints_untroubled untroubled outputs 0 [⟨openReport wheel, wheel.reply 0⟩]
  have everything := (whole sent).1
  rw [List.drop_zero] at everything
  simp only [Wheel.sendCurve, Wheel.send, List.nil_append, List.length_nil, ne_eq,
    hidppErrno_eq_zero_iff, ite_not, if_pos (untroubled _).1, if_pos sent, logged]
  refine ⟨rfl, ?_, _, List.mem_append_right _ (List.mem_singleton_self _), rfl, (untroubled _).1⟩
  simp only [carried, List.flatMap_append] at everything ⊢
  rw [everything]
  exact List.append_nil _

/-- An accepted list is resampled without an overflow or a division by zero to what the preview
reads, and whatever the wheel answers, its points are sent in order, committed only as a whole and
reverted if they are not committed; and where no send fails they are all committed. -/
theorem accepted_list_is_uploaded {pairs : List Point}
    (accepted : pairsAccepted 0 none pairs = true) :
    ∃ values, outputs pairs = some values ∧ Resampled pairs values ∧
      ∀ wheel : Wheel, wheel.upload pairs = some (wheel.sendCurve values) ∧
        UploadLaw (resample pairs inputs) (wheel.sendCurve values).1 ∧
        (wheel.Untroubled → Succeeds (resample pairs inputs) (wheel.sendCurve values)) := by
  rcases outputs_resampled accepted with ⟨values, found, resampled, stored⟩
  have full : ∀ output ∈ values, output ≤ fullScale := by
    intro output member
    rcases List.getLast?_eq_some_iff.mp resampled.last with ⟨front, shape⟩
    have rising := resampled.rising
    rw [shape] at member rising
    rcases List.mem_append.mp member with before | here
    · exact (List.pairwise_append.mp rising).2.2 output before fullScale (by simp)
    · exact (List.mem_singleton.mp here).le
  refine ⟨values, found, resampled, ?_⟩
  intro wheel
  rw [← stored]
  refine ⟨?_, sendCurve_law wheel full, fun untroubled => sendCurve_succeeds untroubled full⟩
  rw [Wheel.upload, if_pos accepted, found, Option.map_some]

/-- A straight line, to a wheel that answers. -/
theorem line_is_uploaded :
    ∃ values, outputs [(0, 0), (fullScale, fullScale)] = some values ∧
      Resampled [(0, 0), (fullScale, fullScale)] values ∧
      Succeeds (resample [(0, 0), (fullScale, fullScale)] inputs)
        ((Wheel.mk 0 (fun _ => 0) fun _ => false).sendCurve values) := by
  rcases @accepted_list_is_uploaded [(0, 0), (fullScale, fullScale)] (by decide) with
    ⟨values, found, resampled, uploaded⟩
  exact ⟨values, found, resampled, (uploaded ⟨0, fun _ => 0, fun _ => false⟩).2.2
    fun _ => ⟨rfl, rfl⟩⟩

end TrueForce.Profile.CurveUpload
