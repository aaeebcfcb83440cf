import Mathlib.Algebra.Order.Group.Nat
import TrueForce.Foundation.PointList

/-!
# Polylines in whole numbers

The line through the points of a list, with quotients rounded down.  Rounding
keeps what the points of a rising list promise: the line runs through its points
and never falls.
-/

namespace TrueForce.Polyline

open TrueForce.PointList

abbrev Point := ℕ × ℕ

/-- The line from one point to the next. -/
def along (first second : Point) (input : ℕ) : ℕ :=
  first.2 + (input - first.1) * (second.2 - first.2) / (second.1 - first.1)

/-- The line through all points; it is flat before the first and behind the last one. -/
def polyline : List Point → ℕ → ℕ
  | first :: second :: rest, input =>
      if input ≤ second.1 then along first second input else polyline (second :: rest) input
  | [last], _ => last.2
  | [], input => input

variable {first second point : Point} {points rest : List Point} {input later : ℕ}

theorem along_first : along first second first.1 = first.2 := by
  simp only [along, Nat.sub_self, Nat.zero_mul, Nat.zero_div, Nat.add_zero]

theorem along_second (step : Step first second) : along first second second.1 = second.2 := by
  have wide : 0 < second.1 - first.1 := Nat.sub_pos_of_lt step.1
  rw [along, Nat.mul_div_cancel_left _ wide]
  exact Nat.add_sub_cancel' step.2

theorem along_mono (ordered : input ≤ later) :
    along first second input ≤ along first second later := by
  apply Nat.add_le_add_left
  apply Nat.div_le_div_right
  apply Nat.mul_le_mul_right
  exact Nat.sub_le_sub_right ordered _

theorem le_along : first.2 ≤ along first second input := Nat.le_add_right _ _

theorem along_le (step : Step first second) (inside : input ≤ second.1) :
    along first second input ≤ second.2 := by
  rw [← along_second step]
  exact along_mono inside

theorem polyline_here (inside : input ≤ second.1) :
    polyline (first :: second :: rest) input = along first second input := if_pos inside

theorem polyline_behind (behind : second.1 < input) :
    polyline (first :: second :: rest) input = polyline (second :: rest) input :=
  if_neg (Nat.not_le.mpr behind)

theorem le_polyline (rising : Rising (first :: rest)) : first.2 ≤ polyline (first :: rest) input := by
  induction rest generalizing first with
  | nil => exact le_refl _
  | cons second rest ih =>
      by_cases inside : input ≤ second.1
      · rw [polyline_here inside]
        exact le_along
      · rw [polyline_behind (Nat.not_le.mp inside)]
        have above : first.2 ≤ second.2 := rising.rel.2
        exact above.trans (ih rising.of_cons)

theorem polyline_mono (rising : Rising points) (ordered : input ≤ later) :
    polyline points input ≤ polyline points later := by
  induction points with
  | nil => exact ordered
  | cons first rest ih =>
      cases rest with
      | nil => exact le_refl _
      | cons second rest =>
          have step : Step first second := rising.rel
          by_cases inside : later ≤ second.1
          · rw [polyline_here inside, polyline_here (ordered.trans inside)]
            exact along_mono ordered
          · rw [polyline_behind (Nat.not_le.mp inside)]
            by_cases before : input ≤ second.1
            · rw [polyline_here before]
              exact (along_le step before).trans (le_polyline rising.of_cons)
            · rw [polyline_behind (Nat.not_le.mp before)]
              exact ih rising.of_cons

/-- The line runs through its points. -/
theorem polyline_at (rising : Rising points) (member : point ∈ points) :
    polyline points point.1 = point.2 := by
  induction points with
  | nil => cases member
  | cons first rest ih =>
      cases rest with
      | nil =>
          rw [List.mem_singleton.mp member]
          rfl
      | cons second rest =>
          have step : Step first second := rising.rel
          rcases List.mem_cons.mp member with rfl | behind
          · rw [polyline_here step.1.le]
            exact along_first
          · rcases List.mem_cons.mp behind with rfl | further
            · rw [polyline_here (le_refl _)]
              exact along_second step
            · have pairs := List.isChain_iff_pairwise.mp rising.of_cons
              have past : Step second point := List.rel_of_pairwise_cons pairs further
              rw [polyline_behind past.1]
              exact ih rising.of_cons behind

/-- Between two of its points the line stays between their outputs. -/
theorem polyline_between (rising : Rising points) {low high : Point} (lowMember : low ∈ points)
    (highMember : high ∈ points) (above : low.1 ≤ input) (below : input ≤ high.1) :
    low.2 ≤ polyline points input ∧ polyline points input ≤ high.2 := by
  constructor
  · rw [← polyline_at rising lowMember]
    exact polyline_mono rising above
  · rw [← polyline_at rising highMember]
    exact polyline_mono rising below

end TrueForce.Polyline
