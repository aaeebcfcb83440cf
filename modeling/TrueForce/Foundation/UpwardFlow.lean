import Mathlib.Algebra.BigOperators.Group.Finset.Piecewise
import Mathlib.Algebra.Order.BigOperators.Group.Finset
import Mathlib.Data.Nat.Notation
import Mathlib.Tactic.Common

/-!
# Traffic that only goes upward

Numbered nodes pass on what they get, at most once to each higher node.  What
one item started anywhere then comes to is bounded by a power of two, however
the nodes are connected.
-/

namespace TrueForce.UpwardFlow

universe u

variable {α : Type u} {load : ℕ → ℕ}

/-- Counting by a key counts everything. -/
theorem countP_le_sum (counted : α → Bool) (key : α → ℕ) (bound : ℕ) {items : List α}
    (below : ∀ item ∈ items, counted item = true → key item < bound) :
    items.countP counted ≤
      ∑ index ∈ Finset.range bound, items.countP fun item => counted item && key item = index := by
  induction items with
  | nil => exact Nat.zero_le _
  | cons item items ih =>
      have rest := ih fun other occurs => below other (List.mem_cons_of_mem item occurs)
      simp only [List.countP_cons, Finset.sum_add_distrib]
      apply Nat.add_le_add rest
      split
      · rename_i holds
        simp only [holds, Bool.true_and, decide_eq_true_eq, Finset.sum_ite_eq, Finset.mem_range,
          below item List.mem_cons_self holds, if_true, Nat.le_refl]
      · exact Nat.zero_le _

theorem one_add_sum_two_pow (count : ℕ) :
    1 + ∑ index ∈ Finset.range count, 2 ^ index = 2 ^ count := by
  induction count with
  | zero => rfl
  | succ count ih =>
      rw [Finset.sum_range_succ, ← Nat.add_assoc, ih, Nat.pow_succ]
      omega

/-- Each node gets at most what it starts with and what the nodes below it got. -/
theorem load_le (fed : ∀ node, load node ≤ 1 + ∑ source ∈ Finset.range node, load source)
    (node : ℕ) : load node ≤ 2 ^ node := by
  induction node using Nat.strong_induction_on with
  | _ node ih =>
      calc load node ≤ 1 + ∑ source ∈ Finset.range node, load source := fed node
        _ ≤ 1 + ∑ source ∈ Finset.range node, 2 ^ source := by
            apply Nat.add_le_add_left
            apply Finset.sum_le_sum
            intro source below
            exact ih source (Finset.mem_range.mp below)
        _ = 2 ^ node := one_add_sum_two_pow node

theorem sum_load_lt (fed : ∀ node, load node ≤ 1 + ∑ source ∈ Finset.range node, load source)
    (bound : ℕ) : ∑ node ∈ Finset.range bound, load node < 2 ^ bound := by
  have total : ∑ node ∈ Finset.range bound, load node ≤ ∑ node ∈ Finset.range bound, 2 ^ node :=
    Finset.sum_le_sum fun node _ => load_le fed node
  have closed := one_add_sum_two_pow bound
  omega

end TrueForce.UpwardFlow
