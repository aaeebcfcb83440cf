import Mathlib.Data.Finset.Max
import TrueForce.Foundation.Polyline
import TrueForce.Profile.CurveEditor

/-!
# The deadzones of a composed curve

Reading a composed curve back is following the line through its points.  The line is
flat in the upper deadzone, and it runs through the control points between the
deadzones.  In the lower deadzone it is flat as long as no control point is squeezed
onto the deadzone's edge with an output of its own.
-/

namespace TrueForce.Profile.CurveEditor

open TrueForce.PointList TrueForce.Polyline

theorem interpWindows_eq {x : ℕ} {first : Point} {rest : List Point}
    (rising : Rising (first :: rest)) (above : first.1 ≤ x)
    (full : ∀ point ∈ first :: rest, point.1 ≤ fullScale ∧ point.2 ≤ fullScale) :
    interpWindows x (first :: rest) = .ok (polyline (first :: rest) x) := by
  induction rest generalizing first with
  | nil => rfl
  | cons second rest ih =>
      have step : first.1 < second.1 ∧ first.2 ≤ second.2 := rising.rel
      by_cases here : x ≤ second.1
      · have bound := full second (by simp)
        have size : fullScale = 65535 := rfl
        have high : along first second x ≤ second.2 := along_le step here
        rw [polyline_here here]
        simp only [interpWindows, here, ↓reduceIte, step.1.ne', sub_of_le above,
          sub_of_le step.2, sub_of_le step.1.le,
          @mul32_of_le (x - first.1) (second.2 - first.2) (by omega) (by omega), bind, Except.bind]
        rw [along] at high ⊢
        rw [add32_of_lt (by omega)]
        simp only [asU16_of_le (high.trans bound.2)]
      · have behind : second.1 < x := Nat.not_le.mp here
        rw [polyline_behind behind]
        simp only [interpWindows, here, ↓reduceIte]
        apply ih rising.of_cons behind.le
        intro point member
        exact full point (List.mem_cons_of_mem first member)

theorem interp_eq {points : List Point} (rising : Rising points)
    (first : points.head? = some (0, 0))
    (last : points.getLast? = some (fullScale, fullScale)) (x : ℕ) :
    interp points x = .ok (polyline points x) := by
  cases points with
  | nil => cases first
  | cons corner rest =>
      simp only [List.head?_cons, Option.some.injEq] at first
      subst first
      by_cases zero : x = 0
      · subst zero
        have start := polyline_at rising (List.mem_cons_self : (0, 0) ∈ (0, 0) :: rest)
        rw [interp, if_pos (le_refl _)]
        exact congrArg Except.ok start.symm
      · have positive : ¬x ≤ 0 := by omega
        rw [interp, if_neg positive]
        apply interpWindows_eq rising (Nat.zero_le x)
        intro point member
        exact rising.le_last last member

theorem mem_pushPt {out : List Point} {new point : Point} (rising : Rising out)
    (above : ∀ last, out.getLast? = some last → last.1 ≤ new.1 ∧ last.2 ≤ new.2) :
    point ∈ pushPt out new ↔ point = new ∨ point ∈ out ∧ point.1 < new.1 := by
  rcases List.eq_nil_or_concat' out with rfl | ⟨front, last, rfl⟩
  · simp [pushPt]
  · have step := above last (by simp)
    have before : ∀ other ∈ front, other.1 < last.1 := by
      intro other member
      have every := List.isChain_iff_pairwise.mp rising
      have below : Step other last := (List.pairwise_append.mp every).2.2 other member last (by simp)
      exact below.1
    simp only [pushPt, List.getLast?_concat, List.mem_append, List.mem_singleton]
    by_cases folds : new.1 ≤ last.1
    · have same : last.1 = new.1 := Nat.le_antisymm step.1 folds
      have result : (if last.2 < new.2 then (front ++ [last]).dropLast ++ [(last.1, new.2)]
          else front ++ [last]) = front ++ [new] := by
        split_ifs with higher
        · rw [List.dropLast_concat, same]
        · have level : last.2 = new.2 := Nat.le_antisymm step.2 (Nat.not_lt.mp higher)
          rw [Prod.ext same level]
      rw [if_pos folds, result, List.mem_append, List.mem_singleton]
      constructor
      · rintro (member | rfl)
        · exact Or.inr ⟨Or.inl member, same ▸ before point member⟩
        · exact Or.inl rfl
      · rintro (rfl | ⟨member | rfl, below⟩)
        · exact Or.inr rfl
        · exact Or.inl member
        · omega
    · rw [if_neg folds, List.mem_append, List.mem_append, List.mem_singleton, List.mem_singleton]
      constructor
      · rintro ((member | rfl) | rfl)
        · exact Or.inr ⟨Or.inl member, (before point member).trans (Nat.not_le.mp folds)⟩
        · exact Or.inr ⟨Or.inr rfl, Nat.not_le.mp folds⟩
        · exact Or.inl rfl
      · rintro (rfl | ⟨member, _⟩)
        · exact Or.inr rfl
        · exact Or.inl member

theorem Weakly.le_last {points : List Point} {last other : Point}
    (weakly : Weakly (points ++ [last])) (member : other ∈ points) :
    other.1 ≤ last.1 ∧ other.2 ≤ last.2 := by
  have trans : IsTrans Point fun first second => first.1 ≤ second.1 ∧ first.2 ≤ second.2 :=
    ⟨fun _ _ _ low high => ⟨low.1.trans high.1, low.2.trans high.2⟩⟩
  have pairs := List.isChain_iff_pairwise.mp weakly
  exact (List.pairwise_append.mp pairs).2.2 other member last (by simp)

/-- Of the points pushed to one input the highest is kept. -/
theorem mem_foldl_pushPt {points : List Point} (weakly : Weakly points) {point : Point} :
    point ∈ points.foldl pushPt [] ↔
      point ∈ points ∧ ∀ other ∈ points, other.1 = point.1 → other.2 ≤ point.2 := by
  induction points using List.reverseRecOn generalizing point with
  | nil => simp
  | append_singleton points new ih =>
      have front : Weakly points := (List.isChain_append.mp weakly).1
      have pairs : ∀ other ∈ points, other.1 ≤ new.1 ∧ other.2 ≤ new.2 := by
        intro other member
        exact weakly.le_last member
      rcases foldl_pushPt_rising List.isChain_nil front (by simp) with ⟨rising, last, -, -⟩
      have pushed := @mem_pushPt _ new point rising (by
        intro other ends
        rw [last, List.getLast?_nil, Option.or_none] at ends
        exact pairs other (List.mem_of_getLast? ends))
      rw [List.foldl_append, List.foldl_cons, List.foldl_nil, pushed, ih front]
      simp only [List.mem_append, List.mem_singleton]
      constructor
      · rintro (rfl | ⟨⟨member, highest⟩, below⟩)
        · refine ⟨Or.inr rfl, ?_⟩
          rintro other (member | rfl) _
          · exact (pairs other member).2
          · exact le_refl _
        · refine ⟨Or.inl member, ?_⟩
          rintro other (present | rfl) same
          · exact highest other present same
          · omega
      · rintro ⟨member, highest⟩
        by_cases below : point.1 < new.1
        · right
          refine ⟨⟨?_, fun other present => highest other (Or.inl present)⟩, below⟩
          rcases member with member | rfl
          · exact member
          · exact absurd below (lt_irrefl _)
        · left
          rcases member with member | rfl
          · have bound := pairs point member
            have level := highest new (Or.inr rfl) (by omega)
            exact Prod.ext (by omega) (by omega)
          · rfl

theorem exists_highest {points : List Point} {point : Point} (member : point ∈ points) :
    ∃ top ∈ points, top.1 = point.1 ∧ ∀ other ∈ points, other.1 = point.1 → other.2 ≤ top.2 := by
  have present : point ∈ (points.filter (·.1 = point.1)).toFinset := by simp [member]
  rcases Finset.exists_max_image _ Prod.snd ⟨point, present⟩ with ⟨top, found, highest⟩
  simp only [List.mem_toFinset, List.mem_filter, decide_eq_true_eq] at found highest
  refine ⟨top, found.1, found.2, ?_⟩
  intro other otherMember same
  exact highest other ⟨otherMember, same⟩

/-- What a composed curve reads, input by input. -/
structure DeadzonesHold (curve : Curve) (points : List Point) : Prop where
  dead : ∀ input, 100 * input ≤ curve.lowerDz * fullScale → interp points input = .ok 0
  saturated : ∀ input ≤ fullScale, (100 - curve.upperDz) * fullScale ≤ 100 * input →
    interp points input = .ok fullScale
  /-- Between the deadzones, the highest of the control points that the remap takes to an
  input. -/
  live : ∀ input, curve.lowerDz * fullScale < 100 * input →
    100 * input < (100 - curve.upperDz) * fullScale →
    ∀ point ∈ curve.pts, curve.bandInput point.1 = input →
      (∀ other ∈ curve.pts, curve.bandInput other.1 = input → other.2 ≤ point.2) →
      interp points input = .ok point.2

/-- No control point is squeezed onto the edge of the lower deadzone with an output of its own. -/
def Curve.EdgeFlat (curve : Curve) : Prop :=
  0 < curve.lowerDz → ∀ point ∈ curve.pts, curve.bandInput point.1 = curve.bandLow → point.2 = 0

namespace Drawable

variable {curve : Curve}

theorem mem_pushed_iff {point : Point} :
    point ∈ curve.pushed ↔
      (0 < curve.lowerDz ∧ point = (0, 0)) ∨ (∃ control ∈ curve.pts, curve.bandPoint control = point) ∨
        (0 < curve.upperDz ∧ point = (fullScale, fullScale)) := by
  rw [Curve.pushed]
  split_ifs with low high high <;> simp [low, high]

/-- What is composed has the highest point pushed to each input. -/
theorem compose_spec (drawable : Drawable curve) :
    ∃ points, curve.compose = .ok points ∧ Rising points ∧ points.head? = some (0, 0) ∧
      points.getLast? = some (fullScale, fullScale) ∧
      ∀ point : Point, 0 < point.1 → (point ∈ points ↔
        point ∈ curve.pushed ∧ ∀ other ∈ curve.pushed, other.1 = point.1 → other.2 ≤ point.2) := by
  rcases drawable.foldl_pushed with ⟨rising, head, last, -⟩
  rcases pinEnds_rising rising head last with ⟨pinnedRising, pinnedHead, pinnedLast, -, kept⟩
  refine ⟨_, drawable.compose_pushed, pinnedRising, pinnedHead, pinnedLast, ?_⟩
  intro point positive
  rw [kept point positive]
  exact mem_foldl_pushPt drawable.pushed_weakly

theorem bandLow_lt (drawable : Drawable curve) : curve.bandLow < curve.bandHigh := by
  have band := drawable.band
  simp only [Curve.bandLow, Curve.bandHigh, fullScale]
  omega

theorem pushed_first (drawable : Drawable curve) : (curve.bandLow, 0) ∈ curve.pushed := by
  apply mem_pushed_iff.mpr
  right
  left
  refine ⟨(0, 0), List.mem_of_head? drawable.first, ?_⟩
  simp [Curve.bandPoint, Curve.bandInput]

theorem pushed_full (drawable : Drawable curve) : (curve.bandHigh, fullScale) ∈ curve.pushed := by
  have ordered := drawable.bandLow_lt
  apply mem_pushed_iff.mpr
  right
  left
  refine ⟨(fullScale, fullScale), List.mem_of_getLast? drawable.last, ?_⟩
  rw [Curve.bandPoint, Curve.bandInput, Nat.mul_div_cancel_left _ (by decide),
    Nat.add_sub_cancel' ordered.le]

theorem pushed_bound (drawable : Drawable curve) {point : Point} (member : point ∈ curve.pushed) :
    point.2 ≤ fullScale := by
  rcases mem_pushed_iff.mp member with ⟨-, rfl⟩ | ⟨control, present, rfl⟩ | ⟨-, rfl⟩
  · exact Nat.zero_le _
  · rw [Curve.bandPoint_eq]
    exact (drawable.bound present).2
  · exact le_refl _

/-- The highest of the control points that the remap takes to an input is kept. -/
theorem control_composed {points : List Point}
    (kept : ∀ point : Point, 0 < point.1 → (point ∈ points ↔
      point ∈ curve.pushed ∧ ∀ other ∈ curve.pushed, other.1 = point.1 → other.2 ≤ point.2))
    {control : Point} (present : control ∈ curve.pts) (positive : 0 < curve.bandInput control.1)
    (below : curve.bandInput control.1 < fullScale)
    (highest : ∀ other ∈ curve.pts, curve.bandInput other.1 = curve.bandInput control.1 →
      other.2 ≤ control.2) :
    (curve.bandInput control.1, control.2) ∈ points := by
  apply (kept _ positive).mpr
  refine ⟨mem_pushed_iff.mpr (Or.inr (Or.inl ⟨control, present, curve.bandPoint_eq control⟩)), ?_⟩
  intro other member same
  rcases mem_pushed_iff.mp member with ⟨-, rfl⟩ | ⟨second, also, rfl⟩ | ⟨-, rfl⟩
  · exact Nat.zero_le _
  · rw [Curve.bandPoint_eq] at same ⊢
    exact highest second also same
  · have contradictory : fullScale = curve.bandInput control.1 := same
    omega

theorem saturated (drawable : Drawable curve) {points : List Point} (rising : Rising points)
    (last : points.getLast? = some (fullScale, fullScale))
    (kept : ∀ point : Point, 0 < point.1 → (point ∈ points ↔
      point ∈ curve.pushed ∧ ∀ other ∈ curve.pushed, other.1 = point.1 → other.2 ≤ point.2))
    {input : ℕ} (small : input ≤ fullScale) (above : curve.bandHigh ≤ input) :
    polyline points input = fullScale := by
  have positive : 0 < curve.bandHigh := Nat.zero_lt_of_lt drawable.bandLow_lt
  have edge : (curve.bandHigh, fullScale) ∈ points := by
    apply (kept _ positive).mpr
    refine ⟨drawable.pushed_full, ?_⟩
    intro other member _
    exact drawable.pushed_bound member
  have between := polyline_between rising edge (List.mem_of_getLast? last) above small
  exact Nat.le_antisymm between.2 between.1

/-- The line is flat up to the edge of the lower deadzone, where that edge is. -/
theorem dead (drawable : Drawable curve) {points : List Point} (rising : Rising points)
    (first : points.head? = some (0, 0))
    (kept : ∀ point : Point, 0 < point.1 → (point ∈ points ↔
      point ∈ curve.pushed ∧ ∀ other ∈ curve.pushed, other.1 = point.1 → other.2 ≤ point.2))
    (flat : curve.EdgeFlat) {input : ℕ} (inside : input ≤ curve.bandLow) :
    polyline points input = 0 := by
  have start : (0, 0) ∈ points := List.mem_of_head? first
  by_cases zero : curve.bandLow = 0
  · have here : input = 0 := by omega
    subst here
    exact polyline_at rising start
  · have lower : 0 < curve.lowerDz := by
      apply Nat.pos_of_ne_zero
      intro none
      exact zero (by simp [Curve.bandLow, none])
    have edge : (curve.bandLow, 0) ∈ points := by
      apply (kept _ (Nat.pos_of_ne_zero zero)).mpr
      refine ⟨drawable.pushed_first, ?_⟩
      intro other member same
      rcases mem_pushed_iff.mp member with ⟨-, rfl⟩ | ⟨control, present, rfl⟩ | ⟨-, rfl⟩
      · exact le_refl _
      · rw [Curve.bandPoint_eq] at same ⊢
        exact (flat lower control present same).le
      · have ordered := drawable.bandLow_lt
        have ends := drawable.band_le.2
        have contradictory : fullScale = curve.bandLow := same
        omega
    have between := polyline_between rising start edge (Nat.zero_le _) inside
    exact Nat.eq_zero_of_le_zero between.2

/-- A composed curve keeps its deadzones exactly where nothing is squeezed onto the lower edge. -/
theorem deadzonesHold_iff (drawable : Drawable curve) :
    ∃ points, curve.compose = .ok points ∧ (DeadzonesHold curve points ↔ curve.EdgeFlat) := by
  rcases drawable.compose_spec with ⟨points, composed, rising, first, last, kept⟩
  have size : fullScale = 65535 := rfl
  have ordered := drawable.bandLow_lt
  have ends := drawable.band_le.2
  refine ⟨points, composed, ?_, ?_⟩
  · intro holds lower control present squeezed
    have low : 0 < curve.bandLow := by
      simp only [Curve.bandLow, size]
      omega
    have squeezedPoint : (curve.bandLow, control.2) ∈ curve.pushed := by
      apply mem_pushed_iff.mpr
      refine Or.inr (Or.inl ⟨control, present, ?_⟩)
      rw [Curve.bandPoint_eq, squeezed]
    rcases exists_highest squeezedPoint with ⟨top, found, input, highest⟩
    change top.1 = curve.bandLow at input
    have member : top ∈ points := by
      apply (kept top (by omega)).mpr
      refine ⟨found, ?_⟩
      intro other otherMember level
      exact highest other otherMember (level.trans input)
    have read := holds.dead curve.bandLow (by simp only [Curve.bandLow]; omega)
    rw [interp_eq rising first last, ← input, polyline_at rising member] at read
    have bound : control.2 ≤ top.2 := highest (curve.bandLow, control.2) squeezedPoint rfl
    have zero : top.2 = 0 := Except.ok.inj read
    rw [zero] at bound
    exact Nat.eq_zero_of_le_zero bound
  · intro flat
    refine ⟨?_, ?_, ?_⟩
    · intro input inside
      rw [interp_eq rising first last, drawable.dead rising first kept flat]
      simp only [Curve.bandLow]
      omega
    · intro input small above
      rw [interp_eq rising first last, drawable.saturated rising last kept small]
      simp only [Curve.bandHigh]
      omega
    · rintro _ above below control present rfl highest
      have positive : 0 < curve.bandInput control.1 := by omega
      have inside : curve.bandInput control.1 < fullScale := by
        rw [size] at below ⊢
        omega
      rw [interp_eq rising first last,
        polyline_at rising (control_composed kept present positive inside highest)]

end Drawable

/-- Whatever the edits, the composed curve keeps the deadzones exactly where no control point with
an output of its own is squeezed onto the edge of the lower one. -/
theorem deadzones_hold_iff {value : Settings.Value} (seeds : Seeds value) (edits : List Edit) :
    (fromValue value).run edits = .error .index ∨
      ∃ curve points, (fromValue value).run edits = .ok curve ∧ curve.compose = .ok points ∧
        (DeadzonesHold curve points ↔ curve.EdgeFlat) := by
  have safe := (fromValue_drawable seeds).run edits
  cases edited : (fromValue value).run edits with
  | error fault =>
      rw [edited] at safe
      left
      exact congrArg _ safe
  | ok curve =>
      rw [edited] at safe
      rcases Drawable.deadzonesHold_iff safe with ⟨points, composed, exactly⟩
      right
      exact ⟨curve, points, rfl, composed, exactly⟩

/-- A straight line with both deadzones. -/
theorem deadzones_hold_iff_linear :
    ∃ curve points, (fromValue (.curve [])).run [.setLowerDeadzone 20, .setUpperDeadzone 20] =
        .ok curve ∧ curve.compose = .ok points ∧
      (DeadzonesHold curve points ↔ curve.EdgeFlat) := by
  have seeds : Seeds (.curve []) := by
    intro points same
    cases same
    exact Or.inl rfl
  apply (deadzones_hold_iff seeds _).resolve_left
  intro faulted
  have ran : ((fromValue (.curve [])).run [.setLowerDeadzone 20, .setUpperDeadzone 20]).isOk =
      true := by
    decide
  rw [faulted] at ran
  cases ran

/-- A control point at the first input is squeezed onto the deadzone's edge. -/
theorem deadzone_ramps : ∃ edits curve points,
    (fromValue (.curve [])).run edits = .ok curve ∧ curve.compose = .ok points ∧
      ¬DeadzonesHold curve points := by
  refine ⟨[.addPoint 1, .movePoint 1 1 30000, .setLowerDeadzone 1],
    ⟨[(0, 0), (1, 30000), (65535, 65535)], 1, 0⟩, [(0, 0), (655, 30000), (65535, 65535)],
    by decide, by decide, ?_⟩
  intro holds
  have read := holds.dead 655 (by decide)
  have ramped : interp [(0, 0), (655, 30000), (65535, 65535)] 655 = .ok 30000 := by decide
  rw [ramped] at read
  cases read

end TrueForce.Profile.CurveEditor
