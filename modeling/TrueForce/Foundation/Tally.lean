import Mathlib.Data.List.Basic
import Mathlib.Data.List.FinRange
import Mathlib.Logic.Function.Basic
import Mathlib.Tactic.Common

/-!
# Counting the marked entries of a table

A table over the indices below a bound is changed at one index at a time; the
number of its marked entries changes by what that one entry says.
-/

namespace TrueForce

universe u

variable {α : Type u} {count : ℕ}

def tally (marked : α → Bool) (table : Fin count → α) : ℕ :=
  (List.finRange count).countP fun index => marked (table index)

theorem countP_update {marked : α → Bool} {table : Fin count → α} {index : Fin count} {value : α}
    {indices : List (Fin count)} (nodup : indices.Nodup) :
    (indices.countP fun other => marked (Function.update table index value other)) +
        (if index ∈ indices ∧ marked (table index) then 1 else 0) =
      (indices.countP fun other => marked (table other)) +
        if index ∈ indices ∧ marked value then 1 else 0 := by
  induction indices with
  | nil => rfl
  | cons first indices ih =>
      rw [List.nodup_cons] at nodup
      have rest := ih nodup.2
      simp only [List.countP_cons]
      by_cases same : first = index
      · subst same
        simp only [nodup.1, false_and, if_false, Nat.add_zero] at rest
        simp only [Function.update_self, List.mem_cons_self, true_and, rest]
        omega
      · have occurs : index ∈ first :: indices ↔ index ∈ indices := by
          simp only [List.mem_cons, or_iff_right_iff_imp]
          intro equal
          exact absurd equal.symm same
        simp only [Function.update_of_ne same, occurs]
        omega

theorem tally_update (marked : α → Bool) (table : Fin count → α) (index : Fin count) (value : α) :
    tally marked (Function.update table index value) +
        (if marked (table index) then 1 else 0) =
      tally marked table + if marked value then 1 else 0 := by
  have update := @countP_update α count marked table index value _ (List.nodup_finRange count)
  simp only [List.mem_finRange, true_and] at update
  exact update

theorem tally_eq_zero {marked : α → Bool} {table : Fin count → α} :
    tally marked table = 0 ↔ ∀ index, marked (table index) = false := by
  simp only [tally, List.countP_eq_zero, List.mem_finRange, true_implies, Bool.not_eq_true]

end TrueForce
