import Mathlib.Data.Finset.Card
import Mathlib.Data.List.Chain

/-!
# Rising point lists

Lists of points whose inputs increase strictly and whose outputs never fall, over
any two orders: what may be put between two points, dropped or raised.
-/

namespace TrueForce.PointList

variable {Input Output : Type*}

def Step [LT Input] [LE Output] (first second : Input × Output) : Prop :=
  first.1 < second.1 ∧ first.2 ≤ second.2

def Rising [LT Input] [LE Output] (points : List (Input × Output)) : Prop :=
  points.IsChain Step

/-- What stands before and behind a place inside a list. -/
theorem exists_interior (points : List (Input × Output)) {index : ℕ} (inside : index ≠ 0)
    (below : index + 1 < points.length) :
    ∃ front before point after back, points = front ++ before :: point :: after :: back ∧
      index = front.length + 1 := by
  refine ⟨points.take (index - 1), points[index - 1], points[index], points[index + 1],
    points.drop (index + 2), ?_, ?_⟩
  · have middle : points.drop (index - 1 + 1) = points[index] :: points.drop (index + 1) := by
      rw [Nat.sub_add_cancel (Nat.pos_of_ne_zero inside), List.drop_eq_getElem_cons (by omega)]
    rw [← List.drop_eq_getElem_cons below, ← middle, ← List.drop_eq_getElem_cons (by omega),
      List.take_append_drop]
  · rw [List.length_take]
    omega

section Preorder

variable [Preorder Input] [Preorder Output] {points front back : List (Input × Output)}
  {before point after other : Input × Output}

instance : Trans (@Step Input Output _ _) Step Step where
  trans first second := ⟨first.1.trans second.1, first.2.trans second.2⟩

theorem Rising.sublist (rising : Rising points) (part : front.Sublist points) : Rising front :=
  List.isChain_iff_pairwise.mpr ((List.isChain_iff_pairwise.mp rising).sublist part)

theorem Rising.between (rising : Rising (front ++ before :: after :: back))
    (above : Step before point) (below : Step point after) :
    Rising (front ++ before :: point :: after :: back) := by
  rw [Rising, List.isChain_append_cons_cons] at rising ⊢
  rcases rising with ⟨low, _, high⟩
  refine ⟨low, above, ?_⟩
  exact List.isChain_cons_cons.mpr ⟨below, high⟩

theorem Rising.replace (rising : Rising (front ++ before :: other :: after :: back))
    (above : Step before point) (below : Step point after) :
    Rising (front ++ before :: point :: after :: back) := by
  apply Rising.between _ above below
  apply rising.sublist
  apply List.Sublist.append_left
  exact ((List.Sublist.refl _).cons other).cons_cons before

theorem Rising.concat (rising : Rising points)
    (above : ∀ last, points.getLast? = some last → Step last point) :
    Rising (points ++ [point]) := by
  apply List.isChain_append.mpr
  refine ⟨rising, List.isChain_singleton _, ?_⟩
  intro last ends first begins
  cases begins
  exact above last ends

theorem Rising.raise_last {input : Input} {output higher : Output}
    (rising : Rising (points ++ [(input, output)])) (raised : output ≤ higher) :
    Rising (points ++ [(input, higher)]) := by
  rcases List.isChain_append.mp rising with ⟨low, _, step⟩
  apply Rising.concat low
  intro last ends
  have below := step last ends (input, output) rfl
  exact ⟨below.1, below.2.trans raised⟩

theorem Rising.lower_head {input : Input} {output lower : Output}
    (rising : Rising ((input, output) :: points)) (lowered : lower ≤ output) :
    Rising ((input, lower) :: points) := by
  rcases List.isChain_cons.mp rising with ⟨step, rest⟩
  apply List.isChain_cons.mpr
  refine ⟨?_, rest⟩
  intro second begins
  have above := step second begins
  exact ⟨above.1, lowered.trans above.2⟩

theorem Rising.le_last {last : Input × Output} (rising : Rising points)
    (ends : points.getLast? = some last) (member : point ∈ points) :
    point.1 ≤ last.1 ∧ point.2 ≤ last.2 := by
  rcases List.getLast?_eq_some_iff.mp ends with ⟨front, rfl⟩
  rcases List.mem_append.mp member with member | member
  · have pairs := List.isChain_iff_pairwise.mp rising
    have step := (List.pairwise_append.mp pairs).2.2 point member last (by simp)
    exact ⟨step.1.le, step.2⟩
  · rw [List.mem_singleton.mp member]
    exact ⟨le_refl _, le_refl _⟩

/-- A rising list has as many points as inputs. -/
theorem Rising.length_eq_card [DecidableEq Input] (rising : Rising points) :
    points.length = (points.map Prod.fst).toFinset.card := by
  have distinct : (points.map Prod.fst).Nodup := by
    apply List.pairwise_map.mpr
    apply (List.isChain_iff_pairwise.mp rising).imp
    intro first second step
    exact step.1.ne
  rw [List.toFinset_card_of_nodup distinct, List.length_map]

end Preorder

end TrueForce.PointList
