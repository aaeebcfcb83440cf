import Mathlib.Algebra.Group.Int.Defs
import Mathlib.Algebra.Group.Nat.Defs
import Mathlib.Data.List.TakeWhile
import TrueForce.Foundation.CInt
import TrueForce.Foundation.PointList
import TrueForce.Profile.ResponseCurve

/-!
# The curve editor

The control points and deadzones that a user edits, and the point list they are
composed into.  The editor keeps its control points rising and pinned at both ends,
so what it composes is always a curve that starts and ends where the uploader wants
it.  Nothing counts the points, though: whether the uploader takes the curve depends
on how many distinct inputs are left once the deadzones have squeezed them together.

Arithmetic is checked: an operation that leaves its type is a fault.
-/

namespace TrueForce.Profile.CurveEditor

open TrueForce.PointList

inductive Fault where
  | overflow
  /-- An index past the points. -/
  | index
  /-- A clamp to an empty range. -/
  | clamp
  deriving DecidableEq, Repr

abbrev Point := ℕ × ℕ

structure Curve where
  pts : List Point
  lowerDz : ℕ
  upperDz : ℕ
  deriving DecidableEq, Repr

def add32 (first second : ℕ) : Except Fault ℕ :=
  if first + second < 2 ^ 32 then .ok (first + second) else .error .overflow

def mul32 (first second : ℕ) : Except Fault ℕ :=
  if first * second < 2 ^ 32 then .ok (first * second) else .error .overflow

def sub (first second : ℕ) : Except Fault ℕ :=
  if second ≤ first then .ok (first - second) else .error .overflow

/-- The cast `as u16`. -/
def asU16 (value : ℕ) : ℕ := value % 2 ^ 16

def fromValue : Settings.Value → Curve
  | .curve points =>
      if 2 ≤ points.length then { pts := points, lowerDz := 0, upperDz := 0 }
      else { pts := [(0, 0), (fullScale, fullScale)], lowerDz := 0, upperDz := 0 }
  | _ => { pts := [(0, 0), (fullScale, fullScale)], lowerDz := 0, upperDz := 0 }

/-- The search over neighbouring points. -/
def interpWindows (x : ℕ) : List Point → Except Fault ℕ
  | first :: second :: rest =>
      if x ≤ second.1 then
        if second.1 = first.1 then .ok second.2
        else do
          let offset ← sub x first.1
          let rise ← sub second.2 first.2
          let product ← mul32 offset rise
          let width ← sub second.1 first.1
          let output ← add32 first.2 (product / width)
          .ok (asU16 output)
      else interpWindows x (second :: rest)
  | [last] => .ok last.2
  | [] => .ok x

def interp (curve : List Point) (x : ℕ) : Except Fault ℕ :=
  match curve with
  | [] => .ok x
  | first :: _ => if x ≤ first.1 then .ok first.2 else interpWindows x curve

def pushPt (out : List Point) (point : Point) : List Point :=
  match out.getLast? with
  | some last =>
      if point.1 ≤ last.1 then
        if last.2 < point.2 then out.dropLast ++ [(last.1, point.2)] else out
      else out ++ [point]
  | none => out ++ [point]

/-- The endpoints that the uploader demands. -/
def pinEnds (out : List Point) : List Point :=
  let out := if out.head?.map Prod.fst = some 0 then out else (0, 0) :: out
  let out :=
    if out.getLast?.map Prod.fst = some fullScale then out
    else pushPt out (fullScale, fullScale)
  let out := out.modify 0 fun point => (point.1, 0)
  out.modify (out.length - 1) fun point => (point.1, fullScale)

namespace Curve

def setLowerDeadzone (curve : Curve) (value : UInt8) : Curve :=
  { curve with lowerDz := min value.toNat (99 - curve.upperDz) }

def setUpperDeadzone (curve : Curve) (value : UInt8) : Curve :=
  { curve with upperDz := min value.toNat (99 - curve.lowerDz) }

/-- The binary search finds where the input stands or belongs. -/
def addPoint (curve : Curve) (input : UInt16) : Except Fault Curve :=
  if input.toNat ∈ curve.pts.map Prod.fst then .ok curve
  else do
    let output ← interp curve.pts input.toNat
    let (before, after) := curve.pts.span (·.1 < input.toNat)
    .ok { curve with pts := before ++ (input.toNat, output) :: after }

def removePoint (curve : Curve) (index : ℕ) : Except Fault Curve := do
  let last ← sub curve.pts.length 1
  if index = 0 ∨ index = last ∨ curve.pts.length ≤ 2 then .ok curve
  else if curve.pts.length ≤ index then .error .index
  else .ok { curve with pts := curve.pts.eraseIdx index }

def movePoint (curve : Curve) (index : ℕ) (input output : UInt16) : Except Fault Curve := do
  let last ← sub curve.pts.length 1
  if index = 0 ∨ index = last then .ok curve
  else
    match curve.pts[index - 1]?, curve.pts[index]?, curve.pts[index + 1]? with
    | some before, some point, some after =>
        let inLo : ℤ := before.1 + 1
        let inHi : ℤ := after.1 - 1
        let newIn :=
          if inLo ≤ inHi then ((CInt.clamp input.toNat inLo inHi) % 2 ^ 16).toNat else point.1
        if after.2 < before.2 then .error .clamp
        else
          let newOut := min (max output.toNat before.2) after.2
          .ok { curve with pts := curve.pts.set index (newIn, newOut) }
    | _, _, _ => .error .index

/-- The control points in the live band between the deadzones. -/
def pushBand (lo span : ℕ) : List Point → List Point → Except Fault (List Point)
  | out, [] => .ok out
  | out, point :: points => do
      let product ← mul32 point.1 span
      let mapped ← add32 lo (product / fullScale)
      pushBand lo span (pushPt out (asU16 mapped, point.2)) points

def compose (curve : Curve) : Except Fault (List Point) := do
  let low ← mul32 curve.lowerDz fullScale
  let live ← sub 100 curve.upperDz
  let high ← mul32 live fullScale
  let lo := asU16 (low / 100)
  let hi := asU16 (high / 100)
  let start := if 0 < curve.lowerDz then pushPt [] (0, 0) else []
  let out ← pushBand lo (hi - lo) start curve.pts
  .ok (pinEnds (if 0 < curve.upperDz then pushPt out (fullScale, fullScale) else out))

end Curve

inductive Edit where
  | addPoint (input : UInt16)
  | removePoint (index : ℕ)
  | movePoint (index : ℕ) (input output : UInt16)
  | setLowerDeadzone (value : UInt8)
  | setUpperDeadzone (value : UInt8)
  deriving DecidableEq, Repr

def Curve.edit (curve : Curve) : Edit → Except Fault Curve
  | .addPoint input => curve.addPoint input
  | .removePoint index => curve.removePoint index
  | .movePoint index input output => curve.movePoint index input output
  | .setLowerDeadzone value => .ok (curve.setLowerDeadzone value)
  | .setUpperDeadzone value => .ok (curve.setUpperDeadzone value)

def Curve.run : Curve → List Edit → Except Fault Curve
  | curve, [] => .ok curve
  | curve, edit :: edits => do
      let next ← curve.edit edit
      next.run edits

theorem pairsAccepted_some_iff {npts : ℕ} {previous : Point} {pairs : List Point}
    (room : npts ≤ curvePoints) :
    pairsAccepted npts (some previous) pairs = true ↔
      npts + pairs.length ≤ curvePoints ∧ 2 ≤ npts + pairs.length ∧ Rising (previous :: pairs) ∧
        (previous :: pairs).getLast? = some (fullScale, fullScale) := by
  induction pairs generalizing npts previous with
  | nil =>
      simp only [pairsAccepted, Rising, List.isChain_singleton]
      simp [room]
  | cons pair pairs ih =>
      simp only [pairsAccepted]
      split_ifs with refused step
      · simp only [List.length_cons, false_iff, not_and]
        intro within _ rising last
        have bound := rising.le_last last (List.mem_cons_of_mem previous List.mem_cons_self)
        omega
      · simp only [false_iff, not_and]
        intro _ _ rising
        have above := (List.isChain_cons_cons.mp rising).1
        have strictly : previous.1 < pair.1 ∧ previous.2 ≤ pair.2 := above
        omega
      · have above : Step previous pair := by
          simp only [not_or, not_le, not_lt] at step
          exact step
        rw [ih (by omega), List.length_cons, Rising, Rising, List.isChain_cons_cons,
          List.getLast?_cons_cons]
        simp only [above, true_and]
        constructor
        · rintro ⟨within, enough, rest⟩
          exact ⟨by omega, by omega, rest⟩
        · rintro ⟨within, enough, rest⟩
          exact ⟨by omega, by omega, rest⟩

theorem pairsAccepted_iff {pairs : List Point} :
    pairsAccepted 0 none pairs = true ↔
      pairs.length ≤ curvePoints ∧ Rising pairs ∧ pairs.head? = some (0, 0) ∧
        pairs.getLast? = some (fullScale, fullScale) := by
  cases pairs with
  | nil => simp [pairsAccepted]
  | cons pair pairs =>
      have inside : ¬(curvePoints ≤ 0 ∨ fullScale < 0 ∨ fullScale < 0) := by decide
      simp only [pairsAccepted, List.head?_cons, Option.some.injEq, List.length_cons]
      by_cases first : pair = (0, 0)
      · subst first
        rw [if_neg inside]
        simp only [beq_self_eq_true, Bool.true_and, Nat.zero_add, true_and]
        rw [pairsAccepted_some_iff (by decide)]
        constructor
        · rintro ⟨within, _, rising, last⟩
          exact ⟨by omega, rising, last⟩
        · rintro ⟨within, rising, last⟩
          refine ⟨by omega, ?_, rising, last⟩
          rcases pairs with _ | ⟨second, rest⟩
          · cases last
          · simp only [List.length_cons]
            omega
      · have different : (pair == (0, 0)) = false := by simp [first]
        simp [first, different]

/-- The control points rise from corner to corner, and the deadzones leave a band between them. -/
structure Drawable (curve : Curve) : Prop where
  rising : Rising curve.pts
  first : curve.pts.head? = some (0, 0)
  last : curve.pts.getLast? = some (fullScale, fullScale)
  band : curve.lowerDz + curve.upperDz ≤ 99

theorem ok_bind {Result Next : Type} (value : Result) (next : Result → Except Fault Next) :
    (Except.ok value >>= next) = next value := rfl

theorem sub_of_le {first second : ℕ} (ordered : second ≤ first) :
    sub first second = .ok (first - second) := if_pos ordered

theorem add32_of_lt {first second : ℕ} (small : first + second < 2 ^ 32) :
    add32 first second = .ok (first + second) := if_pos small

theorem mul32_of_le {first second : ℕ} (firstSmall : first ≤ fullScale)
    (secondSmall : second ≤ fullScale) : mul32 first second = .ok (first * second) := by
  apply if_pos
  calc first * second ≤ fullScale * fullScale := Nat.mul_le_mul firstSmall secondSmall
    _ < 2 ^ 32 := by decide

theorem asU16_of_le {value : ℕ} (small : value ≤ fullScale) : asU16 value = value :=
  Nat.mod_eq_of_lt (Nat.lt_succ_of_le small)

namespace Drawable

variable {curve next : Curve}

theorem linear : Drawable { pts := [(0, 0), (fullScale, fullScale)], lowerDz := 0, upperDz := 0 } where
  rising := List.isChain_pair.mpr ⟨by decide, by decide⟩
  first := rfl
  last := rfl
  band := by decide

theorem of_accepted {points : List Point} (accepted : pairsAccepted 0 none points = true) :
    Drawable { pts := points, lowerDz := 0, upperDz := 0 } := by
  rcases pairsAccepted_iff.mp accepted with ⟨_, rising, first, last⟩
  exact ⟨rising, first, last, Nat.zero_le 99⟩

/-- Both corners are points of their own. -/
theorem length (drawable : Drawable curve) : 2 ≤ curve.pts.length := by
  have first := drawable.first
  have last := drawable.last
  match points : curve.pts with
  | [] => simp [points] at first
  | [point] =>
      simp only [points, List.head?_cons, Option.some.injEq] at first
      simp only [points, List.getLast?_singleton, Option.some.injEq] at last
      rw [first] at last
      cases last
  | _ :: _ :: _ => simp

theorem bound (drawable : Drawable curve) {point : Point} (member : point ∈ curve.pts) :
    point.1 ≤ fullScale ∧ point.2 ≤ fullScale :=
  drawable.rising.le_last drawable.last member

theorem setLowerDeadzone (drawable : Drawable curve) (value : UInt8) :
    Drawable (curve.setLowerDeadzone value) := by
  refine ⟨drawable.rising, drawable.first, drawable.last, ?_⟩
  have band := drawable.band
  simp only [Curve.setLowerDeadzone]
  omega

theorem setUpperDeadzone (drawable : Drawable curve) (value : UInt8) :
    Drawable (curve.setUpperDeadzone value) := by
  refine ⟨drawable.rising, drawable.first, drawable.last, ?_⟩
  have band := drawable.band
  simp only [Curve.setUpperDeadzone]
  omega

end Drawable

theorem slope_le {offset width rise : ℕ} (inside : offset ≤ width) :
    offset * rise / width ≤ rise := by
  apply Nat.div_le_of_le_mul
  exact Nat.mul_le_mul_right rise inside

/-- Inside a window the output lies between the outputs of its two points. -/
theorem interpWindows_window {x : ℕ} {first second : Point} (rest : List Point)
    (step : first.1 < second.1 ∧ first.2 ≤ second.2) (above : first.1 < x) (here : x ≤ second.1)
    (full : second.1 ≤ fullScale ∧ second.2 ≤ fullScale) :
    ∃ output, interpWindows x (first :: second :: rest) = .ok output ∧
      first.2 ≤ output ∧ output ≤ second.2 := by
  have size : fullScale = 65535 := rfl
  have slope : (x - first.1) * (second.2 - first.2) / (second.1 - first.1) ≤
      second.2 - first.2 := slope_le (by omega)
  have small : first.2 + (x - first.1) * (second.2 - first.2) / (second.1 - first.1) ≤
      fullScale := by
    omega
  refine ⟨first.2 + (x - first.1) * (second.2 - first.2) / (second.1 - first.1), ?_, ?_, ?_⟩
  · simp only [interpWindows, here, ↓reduceIte, step.1.ne', sub_of_le above.le,
      sub_of_le step.2, sub_of_le step.1.le,
      @mul32_of_le (x - first.1) (second.2 - first.2) (by omega) (by omega),
      bind, Except.bind]
    rw [add32_of_lt (by omega)]
    simp only [asU16_of_le small]
  · exact Nat.le_add_right _ _
  · omega

/-- A point between two others, at the output that the search finds there. -/
theorem interpWindows_rising {x : ℕ} {first last : Point} {rest : List Point}
    (rising : Rising (first :: rest)) (above : first.1 < x)
    (free : x ∉ (first :: rest).map Prod.fst)
    (ends : (first :: rest).getLast? = some last) (below : x ≤ last.1)
    (full : last.1 ≤ fullScale ∧ last.2 ≤ fullScale) :
    ∃ output, interpWindows x (first :: rest) = .ok output ∧
      Rising ((first :: rest).takeWhile (·.1 < x) ++
        (x, output) :: (first :: rest).dropWhile (·.1 < x)) := by
  induction rest generalizing first with
  | nil =>
      simp only [List.getLast?_singleton, Option.some.injEq] at ends
      rw [ends] at above
      omega
  | cons second rest ih =>
      have step : first.1 < second.1 ∧ first.2 ≤ second.2 := rising.rel
      have bound := rising.le_last ends (List.mem_cons_of_mem first List.mem_cons_self)
      have apart : x ≠ second.1 := by
        rintro rfl
        exact free (by simp)
      by_cases here : x ≤ second.1
      · rcases interpWindows_window rest step above here (by omega) with
          ⟨output, found, low, high⟩
        refine ⟨output, found, ?_⟩
        have behind : ¬second.1 < x := by omega
        simp only [List.takeWhile, List.dropWhile, above, behind, decide_true, decide_false,
          List.cons_append, List.nil_append]
        apply @Rising.between _ _ _ _ [] _ _ _ _ rising
        · exact ⟨above, low⟩
        · exact ⟨Nat.lt_of_le_of_ne here apart, high⟩
      · have ahead : second.1 < x := Nat.not_le.mp here
        rcases ih rising.of_cons ahead (fun member => free (List.mem_cons_of_mem _ member)) ends with
          ⟨output, found, inserted⟩
        refine ⟨output, ?_, ?_⟩
        · simp only [interpWindows, here, ↓reduceIte]
          exact found
        · rw [List.takeWhile_cons_of_pos (by simpa using above),
            List.dropWhile_cons_of_pos (by simpa using above), List.cons_append]
          apply List.isChain_cons.mpr
          refine ⟨?_, inserted⟩
          intro point begins
          rw [List.takeWhile_cons_of_pos (by simpa using ahead)] at begins
          cases begins
          exact step

/-- An edit faults only on an index past the points. -/
def Safe : Except Fault Curve → Prop
  | .ok curve => Drawable curve
  | .error fault => fault = .index

namespace Drawable

variable {curve : Curve}

theorem addPoint (drawable : Drawable curve) (input : UInt16) : Safe (curve.addPoint input) := by
  simp only [Curve.addPoint]
  split
  · exact drawable
  · rename_i free
    have first := drawable.first
    have last := drawable.last
    have small : input.toNat ≤ fullScale := Nat.le_of_lt_succ input.toNat_lt
    cases points : curve.pts with
    | nil => simp [points] at first
    | cons corner rest =>
        simp only [points, List.head?_cons, Option.some.injEq] at first
        subst first
        rw [points] at free last
        have positive : 0 < input.toNat := by
          apply Nat.pos_of_ne_zero
          intro zero
          exact free (by simp [zero])
        have rising := drawable.rising
        rw [points] at rising
        rcases interpWindows_rising rising positive free last small ⟨le_refl _, le_refl _⟩ with
          ⟨output, found, inserted⟩
        have searched : interp ((0, 0) :: rest) input.toNat = .ok output := by
          rw [interp, if_neg (Nat.not_le.mpr positive), found]
        simp only [searched, bind, Except.bind, List.span_eq_takeWhile_dropWhile]
        refine ⟨inserted, ?_, ?_, drawable.band⟩
        · rw [List.takeWhile_cons_of_pos (by simpa using positive)]
          rfl
        · rw [List.getLast?_append_of_ne_nil _ (by simp)]
          cases after : ((0, 0) :: rest).dropWhile (·.1 < input.toNat) with
          | nil =>
              have member := List.mem_of_getLast? last
              rw [← List.takeWhile_append_dropWhile (p := (·.1 < input.toNat))
                (l := (0, 0) :: rest), after, List.append_nil] at member
              have every := List.mem_takeWhile_imp member
              simp only [decide_eq_true_eq] at every
              omega
          | cons next others =>
              rw [← List.takeWhile_append_dropWhile (p := (·.1 < input.toNat))
                (l := (0, 0) :: rest), after, List.getLast?_append_of_ne_nil _ (by simp)] at last
              rw [List.getLast?_cons_cons, last]

/-- An interior point that is replaced, or dropped, leaves both corners. -/
theorem of_interior {front back between : List Point} {before point after : Point}
    (drawable : Drawable curve) (split : curve.pts = front ++ before :: point :: after :: back)
    (rising : Rising (front ++ before :: (between ++ after :: back))) :
    Drawable { curve with pts := front ++ before :: (between ++ after :: back) } := by
  refine ⟨rising, ?_, ?_, drawable.band⟩
  · rw [← drawable.first, split]
    cases front <;> rfl
  · rw [← drawable.last, split]
    simp [List.getLast?_append, List.getLast?_cons]

theorem removePoint (drawable : Drawable curve) (index : ℕ) : Safe (curve.removePoint index) := by
  have enough := drawable.length
  simp only [Curve.removePoint, sub_of_le (show 1 ≤ curve.pts.length by omega), bind, Except.bind]
  split_ifs with pinned outside
  · exact drawable
  · rfl
  · simp only [not_or, not_le] at pinned outside
    rcases exists_interior curve.pts pinned.1 (by omega) with
      ⟨front, before, point, after, back, split, rfl⟩
    have erased : curve.pts.eraseIdx (front.length + 1) =
        front ++ before :: ([] ++ after :: back) := by
      simp [split, List.eraseIdx_append_of_length_le]
    simp only [erased]
    apply drawable.of_interior split
    rw [← erased]
    exact drawable.rising.sublist (List.eraseIdx_sublist _ _)

theorem movePoint (drawable : Drawable curve) (index : ℕ) (input output : UInt16) :
    Safe (curve.movePoint index input output) := by
  have enough := drawable.length
  simp only [Curve.movePoint, sub_of_le (show 1 ≤ curve.pts.length by omega), bind, Except.bind]
  split_ifs with pinned
  · exact drawable
  · simp only [not_or] at pinned
    by_cases below : index + 1 < curve.pts.length
    · rcases exists_interior curve.pts pinned.1 below with
        ⟨front, before, point, after, back, split, rfl⟩
      have rising := drawable.rising
      rw [split] at rising
      have pairs := (List.isChain_append.mp rising).2.1
      have low : before.1 < point.1 ∧ before.2 ≤ point.2 := pairs.rel
      have high : point.1 < after.1 ∧ point.2 ≤ after.2 := pairs.of_cons.rel
      have member : after ∈ curve.pts := by simp [split]
      have bound := drawable.bound member
      have size : fullScale = 65535 := rfl
      have atBefore : curve.pts[front.length + 1 - 1]? = some before := by simp [split]
      have atPoint : curve.pts[front.length + 1]? = some point := by simp [split]
      have atAfter : curve.pts[front.length + 1 + 1]? = some after := by
        rw [split, List.getElem?_append_right (by omega)]
        simp [Nat.add_assoc]
      have moved (new : Point) : curve.pts.set (front.length + 1) new =
          front ++ before :: ([new] ++ after :: back) := by
        simp [split]
      have ordered : ¬after.2 < before.2 := by omega
      have room : (before.1 : ℤ) + 1 ≤ after.1 - 1 := by omega
      simp only [atBefore, atPoint, atAfter, ordered, ↓reduceIte, room, moved]
      apply drawable.of_interior split
      apply rising.replace
      · refine ⟨?_, ?_⟩
        · simp only [CInt.clamp]
          omega
        · simp only
          omega
      · refine ⟨?_, ?_⟩
        · simp only [CInt.clamp]
          omega
        · simp only
          omega
    · have none : curve.pts[index + 1]? = none := List.getElem?_eq_none (by omega)
      rw [none]
      cases curve.pts[index - 1]? <;> cases curve.pts[index]? <;> rfl

theorem edit (drawable : Drawable curve) (edit : Edit) : Safe (curve.edit edit) := by
  cases edit with
  | addPoint input => exact drawable.addPoint input
  | removePoint index => exact drawable.removePoint index
  | movePoint index input output => exact drawable.movePoint index input output
  | setLowerDeadzone value => exact drawable.setLowerDeadzone value
  | setUpperDeadzone value => exact drawable.setUpperDeadzone value

theorem run (drawable : Drawable curve) (edits : List Edit) : Safe (curve.run edits) := by
  induction edits generalizing curve with
  | nil => exact drawable
  | cons first edits ih =>
      have safe := drawable.edit first
      simp only [Curve.run, bind, Except.bind]
      cases edited : curve.edit first with
      | error fault =>
          rw [edited] at safe
          exact safe
      | ok next =>
          rw [edited] at safe
          exact ih safe

end Drawable

namespace Curve

def bandLow (curve : Curve) : ℕ := curve.lowerDz * fullScale / 100

def bandHigh (curve : Curve) : ℕ := (100 - curve.upperDz) * fullScale / 100

/-- An input in the live band between the deadzones. -/
def bandInput (curve : Curve) (input : ℕ) : ℕ :=
  curve.bandLow + input * (curve.bandHigh - curve.bandLow) / fullScale

def bandPoint (curve : Curve) (point : Point) : Point := (curve.bandInput point.1, point.2)

theorem bandPoint_eq (curve : Curve) (point : Point) :
    curve.bandPoint point = (curve.bandInput point.1, point.2) := rfl

theorem bandInput_mono (curve : Curve) {first second : ℕ} (ordered : first ≤ second) :
    curve.bandInput first ≤ curve.bandInput second := by
  rw [bandInput, bandInput]
  exact Nat.add_le_add_left (Nat.div_le_div_right (Nat.mul_le_mul_right _ ordered)) _

/-- The distinct inputs of a composed curve. -/
def composedInputs (curve : Curve) : Finset ℕ :=
  (if 0 < curve.lowerDz then {0} else ∅) ∪
    (curve.pts.map fun point => curve.bandInput point.1).toFinset ∪
    (if 0 < curve.upperDz then {fullScale} else ∅)

/-- All that a curve pushes, one after another. -/
def pushed (curve : Curve) : List Point :=
  (if 0 < curve.lowerDz then [(0, 0)] else []) ++
    curve.pts.map curve.bandPoint ++
    (if 0 < curve.upperDz then [(fullScale, fullScale)] else [])

end Curve

/-- Neither the inputs nor the outputs fall. -/
def Weakly (points : List Point) : Prop :=
  points.IsChain fun first second => first.1 ≤ second.1 ∧ first.2 ≤ second.2

/-- Pushing a point that does not fall behind the last one. -/
theorem pushPt_rising {out : List Point} {point : Point} (rising : Rising out)
    (above : ∀ last, out.getLast? = some last → last.1 ≤ point.1 ∧ last.2 ≤ point.2) :
    Rising (pushPt out point) ∧ (pushPt out point).getLast? = some point ∧
      ((pushPt out point).map Prod.fst).toFinset = (out.map Prod.fst).toFinset ∪ {point.1} ∧
      (pushPt out point).head?.map Prod.fst = ((out.head?.map Prod.fst).or (some point.1)) := by
  rcases List.eq_nil_or_concat' out with rfl | ⟨front, last, rfl⟩
  · simp [pushPt, Rising]
  · have step := above last (by simp)
    simp only [pushPt, List.getLast?_concat]
    by_cases folds : point.1 ≤ last.1
    · have same : last.1 = point.1 := Nat.le_antisymm step.1 folds
      have raised : front ++ [point] = front ++ [(last.1, point.2)] := by rw [same]
      have result : (if last.2 < point.2 then (front ++ [last]).dropLast ++ [(last.1, point.2)]
          else front ++ [last]) = front ++ [point] := by
        split_ifs with higher
        · rw [List.dropLast_concat, raised]
        · rw [raised, Nat.le_antisymm (Nat.not_lt.mp higher) step.2]
      rw [if_pos folds, result]
      refine ⟨?_, by simp, ?_, ?_⟩
      · rw [raised]
        exact rising.raise_last step.2
      · simp [same]
      · cases front <;> simp [same]
    · rw [if_neg folds]
      refine ⟨?_, by simp, by simp, by cases front <;> simp⟩
      apply rising.concat
      intro other ends
      rw [List.getLast?_concat] at ends
      cases ends
      exact ⟨Nat.not_le.mp folds, step.2⟩

theorem foldl_pushPt_rising {out points : List Point} (rising : Rising out)
    (weakly : Weakly points)
    (above : ∀ last point, out.getLast? = some last → points.head? = some point →
      last.1 ≤ point.1 ∧ last.2 ≤ point.2) :
    Rising (points.foldl pushPt out) ∧
      (points.foldl pushPt out).getLast? = points.getLast?.or out.getLast? ∧
      ((points.foldl pushPt out).map Prod.fst).toFinset =
        (out.map Prod.fst).toFinset ∪ (points.map Prod.fst).toFinset ∧
      (points.foldl pushPt out).head?.map Prod.fst =
        (out.head?.map Prod.fst).or (points.head?.map Prod.fst) := by
  induction points generalizing out with
  | nil => simp [rising]
  | cons point points ih =>
      rcases pushPt_rising rising fun last ends => above last point ends rfl with
        ⟨pushedRising, pushedLast, pushedInputs, pushedHead⟩
      have next := ih pushedRising weakly.of_cons (by
        intro last second ends begins
        rw [pushedLast] at ends
        cases ends
        cases points with
        | nil => cases begins
        | cons second rest =>
            cases begins
            exact weakly.rel)
      rw [pushedLast, pushedInputs, pushedHead] at next
      rcases next with ⟨nextRising, nextLast, nextInputs, nextHead⟩
      refine ⟨nextRising, ?_, ?_, ?_⟩
      · rw [List.foldl_cons, nextLast]
        cases points <;> simp [List.getLast?_cons]
      · rw [List.foldl_cons, nextInputs]
        simp
      · rw [List.foldl_cons, nextHead]
        cases out.head? <;> simp

theorem foldl_const_pushPt (positive : Prop) [Decidable positive] (out : List Point)
    (point : Point) :
    (if positive then pushPt out point else out) =
      (if positive then [point] else []).foldl pushPt out := by
  split <;> rfl

theorem modify_last_eq_self {points : List Point} {last : Point} {change : Point → Point}
    (ends : points.getLast? = some last) (fixed : change last = last) :
    points.modify (points.length - 1) change = points := by
  apply List.ext_getElem?
  intro index
  rw [List.getElem?_modify]
  split_ifs with here
  · subst here
    rw [← List.getLast?_eq_getElem?, ends, Option.map_eq_map, Option.map_some, fixed]
  · simp

/-- Between corners that are there already, only the first output is ever changed. -/
theorem pinEnds_eq {output : ℕ} {rest : List Point}
    (last : ((0, output) :: rest).getLast? = some (fullScale, fullScale)) :
    pinEnds ((0, output) :: rest) = (0, 0) :: rest ∧
      ((0, 0) :: rest).getLast? = some (fullScale, fullScale) := by
  have lastKept : ((0, 0) :: rest).getLast? = some (fullScale, fullScale) := by
    cases rest with
    | nil => cases last
    | cons second others =>
        rw [List.getLast?_cons_cons] at last ⊢
        exact last
  refine ⟨?_, lastKept⟩
  simp only [pinEnds, List.head?_cons, Option.map_some, ↓reduceIte, last, List.modify_zero_cons]
  exact modify_last_eq_self lastKept rfl

/-- What pinning leaves of rising points. -/
theorem pinEnds_rising {out : List Point} (rising : Rising out)
    (first : out.head?.map Prod.fst = some 0)
    (last : out.getLast? = some (fullScale, fullScale)) :
    Rising (pinEnds out) ∧ (pinEnds out).head? = some (0, 0) ∧
      (pinEnds out).getLast? = some (fullScale, fullScale) ∧
      (pinEnds out).map Prod.fst = out.map Prod.fst ∧
      ∀ point : Point, 0 < point.1 → (point ∈ pinEnds out ↔ point ∈ out) := by
  rcases out with _ | ⟨⟨input, output⟩, rest⟩
  · cases last
  · simp only [List.head?_cons, Option.map_some, Option.some.injEq] at first
    subst first
    rcases pinEnds_eq last with ⟨pinned, lastKept⟩
    rw [pinned]
    refine ⟨rising.lower_head (Nat.zero_le output), rfl, lastKept, rfl, ?_⟩
    intro point positive
    have apart : ∀ other : ℕ, point ≠ (0, other) := by
      rintro other rfl
      exact absurd positive (lt_irrefl 0)
    simp only [List.mem_cons, apart, false_or]

namespace Drawable

variable {curve : Curve}

theorem band_le (drawable : Drawable curve) :
    curve.bandLow ≤ curve.bandHigh ∧ curve.bandHigh ≤ fullScale := by
  have band := drawable.band
  simp only [Curve.bandLow, Curve.bandHigh, fullScale]
  omega

theorem bandInput_le (drawable : Drawable curve) {input : ℕ} (small : input ≤ fullScale) :
    curve.bandInput input ≤ curve.bandHigh := by
  have ordered := drawable.band_le.1
  have inside : input * (curve.bandHigh - curve.bandLow) / fullScale ≤
      curve.bandHigh - curve.bandLow := slope_le small
  simp only [Curve.bandInput]
  omega

theorem pushBand_eq (drawable : Drawable curve) {points : List Point} (out : List Point)
    (small : ∀ point ∈ points, point.1 ≤ fullScale) :
    Curve.pushBand curve.bandLow (curve.bandHigh - curve.bandLow) out points =
      .ok ((points.map curve.bandPoint).foldl pushPt out) := by
  have size : fullScale = 65535 := rfl
  have ends := drawable.band_le
  induction points generalizing out with
  | nil => rfl
  | cons point points ih =>
      have pointSmall := small point (by simp)
      have mapped := drawable.bandInput_le pointSmall
      have mappedEq : curve.bandLow + point.1 * (curve.bandHigh - curve.bandLow) / fullScale =
          curve.bandInput point.1 := by
        rw [Curve.bandInput]
      rw [Curve.pushBand, mul32_of_le pointSmall (by omega), ok_bind, add32_of_lt (by omega),
        ok_bind, mappedEq, asU16_of_le (by omega), List.map_cons, List.foldl_cons,
        Curve.bandPoint_eq]
      exact ih _ fun other member => small other (List.mem_cons_of_mem _ member)

theorem pushed_weakly (drawable : Drawable curve) : Weakly curve.pushed := by
  have ends := drawable.band_le
  have middle : Weakly (curve.pts.map curve.bandPoint) := by
    apply (List.isChain_map _).mpr
    apply drawable.rising.imp
    intro first second step
    rw [Curve.bandPoint_eq, Curve.bandPoint_eq]
    exact ⟨curve.bandInput_mono step.1.le, step.2⟩
  have front : Weakly ((if 0 < curve.lowerDz then [(0, 0)] else []) ++
      curve.pts.map curve.bandPoint) := by
    split
    · apply List.isChain_cons.mpr
      exact ⟨fun _ _ => ⟨Nat.zero_le _, Nat.zero_le _⟩, middle⟩
    · exact middle
  rw [Curve.pushed]
  by_cases saturated : 0 < curve.upperDz
  · rw [if_pos saturated]
    apply List.isChain_append.mpr
    refine ⟨front, List.isChain_singleton _, ?_⟩
    intro last behind point begins
    cases begins
    have member := List.mem_of_getLast? behind
    rcases List.mem_append.mp member with member | member
    · split at member
      · rw [List.mem_singleton.mp member]
        exact ⟨Nat.zero_le _, Nat.zero_le _⟩
      · cases member
    · rcases List.mem_map.mp member with ⟨control, present, rfl⟩
      have bound := drawable.bound present
      have mapped := drawable.bandInput_le bound.1
      rw [Curve.bandPoint_eq]
      exact ⟨mapped.trans ends.2, bound.2⟩
  · rw [if_neg saturated, List.append_nil]
    exact front

theorem pushed_head (drawable : Drawable curve) : curve.pushed.head?.map Prod.fst = some 0 := by
  have first := drawable.first
  rw [Curve.pushed]
  split
  · rfl
  · rename_i none
    have low : curve.bandLow = 0 := by
      simp [Curve.bandLow, Nat.eq_zero_of_not_pos none]
    cases points : curve.pts with
    | nil => simp [points] at first
    | cons corner rest =>
        simp only [points, List.head?_cons, Option.some.injEq] at first
        subst first
        simp [Curve.bandPoint, Curve.bandInput, low]

theorem pushed_last (drawable : Drawable curve) :
    curve.pushed.getLast? = some (fullScale, fullScale) := by
  have last := drawable.last
  have ends := drawable.band_le
  rw [Curve.pushed]
  by_cases saturated : 0 < curve.upperDz
  · rw [if_pos saturated, List.getLast?_concat]
  · have high : curve.bandHigh = fullScale := by
      rw [Curve.bandHigh, Nat.eq_zero_of_not_pos saturated]
      rfl
    have mapped : curve.bandInput fullScale = fullScale := by
      rw [Curve.bandInput, Nat.mul_div_cancel_left _ (by decide)]
      omega
    rw [if_neg saturated, List.append_nil, List.getLast?_append, List.getLast?_map, last]
    simp [Curve.bandPoint, mapped]

/-- No step of the composition leaves its type. -/
theorem compose_pushed (drawable : Drawable curve) :
    curve.compose = .ok (pinEnds (curve.pushed.foldl pushPt [])) := by
  have size : fullScale = 65535 := rfl
  have band := drawable.band
  have ends := drawable.band_le
  have lowEq : asU16 (curve.lowerDz * fullScale / 100) = curve.bandLow := by
    rw [← Curve.bandLow.eq_1, asU16_of_le (ends.1.trans ends.2)]
  have highEq : asU16 ((100 - curve.upperDz) * fullScale / 100) = curve.bandHigh := by
    rw [← Curve.bandHigh.eq_1, asU16_of_le ends.2]
  have pushes : Curve.pushBand curve.bandLow (curve.bandHigh - curve.bandLow)
      (if 0 < curve.lowerDz then pushPt [] (0, 0) else []) curve.pts =
      .ok (((if 0 < curve.lowerDz then [(0, 0)] else []) ++
        curve.pts.map curve.bandPoint).foldl pushPt []) := by
    rw [drawable.pushBand_eq _ fun point member => (drawable.bound member).1, List.foldl_append,
      foldl_const_pushPt]
  have whole : (if 0 < curve.upperDz then
      pushPt (((if 0 < curve.lowerDz then [(0, 0)] else []) ++
        curve.pts.map curve.bandPoint).foldl pushPt [])
        (fullScale, fullScale)
      else ((if 0 < curve.lowerDz then [(0, 0)] else []) ++
        curve.pts.map curve.bandPoint).foldl pushPt []) =
      curve.pushed.foldl pushPt [] := by
    rw [foldl_const_pushPt, ← List.foldl_append, Curve.pushed]
  have live : 100 - curve.upperDz ≤ fullScale := by omega
  rw [Curve.compose, mul32_of_le (show curve.lowerDz ≤ fullScale by omega) (le_refl _), ok_bind,
    sub_of_le (show curve.upperDz ≤ 100 by omega), ok_bind, mul32_of_le live (le_refl _), ok_bind,
    lowEq, highEq]
  dsimp only
  rw [pushes, ok_bind, whole]

theorem foldl_pushed (drawable : Drawable curve) :
    Rising (curve.pushed.foldl pushPt []) ∧
      (curve.pushed.foldl pushPt []).head?.map Prod.fst = some 0 ∧
      (curve.pushed.foldl pushPt []).getLast? = some (fullScale, fullScale) ∧
      ((curve.pushed.foldl pushPt []).map Prod.fst).toFinset =
        (curve.pushed.map Prod.fst).toFinset := by
  rcases foldl_pushPt_rising List.isChain_nil drawable.pushed_weakly (by simp) with
    ⟨rising, last, inputs, head⟩
  rw [drawable.pushed_last] at last
  rw [drawable.pushed_head] at head
  rw [List.map_nil, List.toFinset_nil, Finset.empty_union] at inputs
  exact ⟨rising, head, last, inputs⟩

theorem compose_eq (drawable : Drawable curve) :
    ∃ points, curve.compose = .ok points ∧ Rising points ∧ points.head? = some (0, 0) ∧
      points.getLast? = some (fullScale, fullScale) ∧
      (points.map Prod.fst).toFinset = curve.composedInputs := by
  rcases drawable.foldl_pushed with ⟨rising, head, last, inputs⟩
  rcases pinEnds_rising rising head last with
    ⟨pinnedRising, pinnedHead, pinnedLast, pinnedInputs, -⟩
  refine ⟨_, drawable.compose_pushed, pinnedRising, pinnedHead, pinnedLast, ?_⟩
  rw [pinnedInputs, inputs, Curve.pushed, Curve.composedInputs]
  simp only [List.map_append, List.toFinset_append, List.map_map]
  split_ifs <;> rfl

end Drawable

/-- A value that the uploader would take, or none. -/
def Seeds (value : Settings.Value) : Prop :=
  ∀ points, value = .curve points → points = [] ∨ pairsAccepted 0 none points = true

theorem fromValue_drawable {value : Settings.Value} (seeds : Seeds value) :
    Drawable (fromValue value) := by
  cases value with
  | curve points =>
      simp only [fromValue]
      split_ifs with enough
      · rcases seeds points rfl with rfl | accepted
        · simp at enough
        · exact Drawable.of_accepted accepted
      · exact Drawable.linear
  | _ => exact Drawable.linear

/-- Whatever the edits, nothing overflows, and the uploader takes the composed curve exactly where
it has at most 64 distinct inputs. -/
theorem composed_accepted_iff {value : Settings.Value} (seeds : Seeds value)
    (edits : List Edit) :
    (fromValue value).run edits = .error .index ∨
      ∃ curve points, (fromValue value).run edits = .ok curve ∧ curve.compose = .ok points ∧
        (pairsAccepted 0 none points = true ↔ curve.composedInputs.card ≤ curvePoints) := by
  have safe := (fromValue_drawable seeds).run edits
  cases edited : (fromValue value).run edits with
  | error fault =>
      rw [edited] at safe
      left
      exact congrArg _ safe
  | ok curve =>
      rw [edited] at safe
      rcases Drawable.compose_eq safe with ⟨points, composed, rising, head, last, inputs⟩
      right
      refine ⟨curve, points, rfl, composed, ?_⟩
      rw [pairsAccepted_iff, rising.length_eq_card, inputs]
      simp only [rising, head, last, and_self, and_true]

/-- A curve of three points, bent and squeezed by both deadzones. -/
theorem composed_accepted_iff_bent :
    ∃ curve points, (fromValue (.curve [(0, 0), (30000, 20000), (65535, 65535)])).run
        [.addPoint 40000, .movePoint 2 40000 60000, .removePoint 1, .setLowerDeadzone 10,
          .setUpperDeadzone 99] = .ok curve ∧ curve.compose = .ok points ∧
      (pairsAccepted 0 none points = true ↔ curve.composedInputs.card ≤ curvePoints) := by
  have seeds : Seeds (.curve [(0, 0), (30000, 20000), (65535, 65535)]) := by
    intro points same
    cases same
    right
    decide
  apply (composed_accepted_iff seeds _).resolve_left
  intro faulted
  have ran : ((fromValue (.curve [(0, 0), (30000, 20000), (65535, 65535)])).run
      [.addPoint 40000, .movePoint 2 40000 60000, .removePoint 1, .setLowerDeadzone 10,
        .setUpperDeadzone 99]).isOk = true := by
    decide
  rw [faulted] at ran
  cases ran

/-- Sixty-three points are added to a straight line: the editor composes 65 points. -/
theorem composed_not_accepted : ∃ edits curve points,
    (fromValue (.curve [])).run edits = .ok curve ∧ curve.compose = .ok points ∧
      pairsAccepted 0 none points = false := by
  have refused : ∃ edits, (((fromValue (.curve [])).run edits).bind Curve.compose).toOption.any
      (fun points => !pairsAccepted 0 none points) = true :=
    ⟨(List.range 63).map fun place => .addPoint (UInt16.ofNat (1000 * (place + 1))),
      by decide +kernel⟩
  rcases refused with ⟨edits, refused⟩
  cases ran : (fromValue (.curve [])).run edits with
  | error fault => simp [ran, Except.bind, Except.toOption] at refused
  | ok curve =>
      cases composed : curve.compose with
      | error fault => simp [ran, composed, Except.bind, Except.toOption] at refused
      | ok points =>
          refine ⟨edits, curve, points, ran, composed, ?_⟩
          simpa [ran, composed, Except.bind, Except.toOption] using refused

end TrueForce.Profile.CurveEditor
