import Mathlib.Data.List.Infix
import Mathlib.Data.List.TakeWhile

/-!
# Runs in a list of answers

An observer that changes its mind after a number of equal answers in a row: it is settled on a
value while the last such run was one of that value.
-/

namespace TrueForce.Hysteresis

variable {limit : ℕ} {value other : Bool} {answers before after : List Bool}

/-- How many of a value the list ends with. -/
def trailing (value : Bool) (answers : List Bool) : ℕ :=
  (answers.reverse.takeWhile (· == value)).length

/-- Some `limit` of a value in a row, and no `limit` of the other value in a row since. -/
def Settled (limit : ℕ) (value : Bool) (answers : List Bool) : Prop :=
  ∃ before after, answers = before ++ List.replicate limit value ++ after ∧
    ¬List.replicate limit (!value) <:+: after

theorem trailing_append (value last : Bool) (answers : List Bool) :
    trailing value (answers ++ [last]) = if last = value then trailing value answers + 1 else 0 := by
  rw [trailing, trailing, List.reverse_append, List.reverse_singleton, List.singleton_append,
    List.takeWhile_cons]
  by_cases same : last = value
  · rw [if_pos (beq_iff_eq.mpr same), if_pos same]
    rfl
  · rw [if_neg (fun equal => same (beq_iff_eq.mp equal)), if_neg same]
    rfl

theorem replicate_prefix_iff : List.replicate limit value <+: answers ↔
    limit ≤ (answers.takeWhile (· == value)).length := by
  induction answers generalizing limit with
  | nil =>
      rw [List.prefix_nil, List.replicate_eq_nil_iff]
      simp
  | cons first answers ih =>
      cases limit with
      | zero => simp
      | succ limit =>
          rw [List.replicate_succ, List.cons_prefix_cons, ih, List.takeWhile_cons]
          by_cases same : first = value
          · simp [same]
          · simp [same, Ne.symm same]

theorem replicate_suffix_iff : List.replicate limit value <:+ answers ↔
    limit ≤ trailing value answers := by
  rw [← List.reverse_prefix, List.reverse_replicate, replicate_prefix_iff, trailing]

/-- Only what follows a value can be a run of the other. -/
theorem trailing_of_block (positive : 0 < limit) (apart : value ≠ other) :
    trailing other (before ++ List.replicate limit value ++ after) = trailing other after := by
  induction after using List.reverseRecOn with
  | nil =>
      rcases Nat.exists_eq_add_of_le' positive with ⟨rest, rfl⟩
      rw [List.append_nil, List.replicate_succ', ← List.append_assoc, trailing_append,
        if_neg apart]
      rfl
  | append_singleton after last ih =>
      rw [← List.append_assoc, trailing_append, trailing_append, ih]

theorem not_ne_self (value : Bool) : value ≠ !value := by
  cases value <;> exact Bool.noConfusion

theorem Settled.of_trailing (positive : 0 < limit) (run : limit ≤ trailing value answers) :
    Settled limit value answers := by
  rcases replicate_suffix_iff.mpr run with ⟨before, rfl⟩
  refine ⟨before, [], (List.append_nil _).symm, ?_⟩
  intro inside
  rw [List.infix_nil, List.replicate_eq_nil_iff] at inside
  omega

theorem Settled.trailing_lt (positive : 0 < limit) (settled : Settled limit value answers) :
    trailing (!value) answers < limit := by
  rcases settled with ⟨before, after, rfl, free⟩
  rw [trailing_of_block positive (not_ne_self value)]
  apply Nat.lt_of_not_le
  intro run
  exact free (replicate_suffix_iff.mpr run).isInfix

theorem infix_append_iff (last : Bool) : List.replicate limit value <:+: answers ++ [last] ↔
    limit ≤ trailing value (answers ++ [last]) ∨ List.replicate limit value <:+: answers := by
  rw [List.infix_concat_iff, replicate_suffix_iff]

theorem settled_append (positive : 0 < limit) (last : Bool) :
    Settled limit value (answers ++ [last]) ↔
      if last = value then Settled limit value answers ∨ limit ≤ trailing value (answers ++ [last])
      else Settled limit value answers ∧ trailing (!value) (answers ++ [last]) < limit := by
  constructor
  · intro settled
    have short := settled.trailing_lt positive
    rcases settled with ⟨before, after, whole, free⟩
    rcases List.eq_nil_or_concat' after with rfl | ⟨after, final, rfl⟩
    · rw [List.append_nil] at whole
      have run : limit ≤ trailing value (answers ++ [last]) :=
        replicate_suffix_iff.mp (whole ▸ List.suffix_append _ _)
      by_cases same : last = value
      · rw [if_pos same]
        exact .inr run
      · rw [trailing_append, if_neg same] at run
        omega
    · rw [← List.append_assoc] at whole
      rcases List.append_inj' whole rfl with ⟨rfl, finals⟩
      cases finals
      have kept : Settled limit value (before ++ List.replicate limit value ++ after) :=
        ⟨before, after, rfl, fun inside => free (inside.trans (List.infix_append' [] _ _))⟩
      split
      · exact .inl kept
      · exact ⟨kept, short⟩
  · intro kept
    by_cases same : last = value
    · rw [if_pos same] at kept
      rcases kept with ⟨before, after, rfl, free⟩ | run
      · refine ⟨before, after ++ [last], by rw [List.append_assoc _ after], ?_⟩
        rw [infix_append_iff, trailing_append, if_neg]
        · rintro (run | inside)
          · omega
          · exact free inside
        · rw [same]
          exact not_ne_self value
      · exact .of_trailing positive run
    · rw [if_neg same] at kept
      rcases kept with ⟨⟨before, after, rfl, free⟩, short⟩
      refine ⟨before, after ++ [last], by rw [List.append_assoc _ after], ?_⟩
      rw [infix_append_iff]
      rintro (run | inside)
      · rw [List.append_assoc _ after, trailing_of_block positive (not_ne_self value)] at short
        omega
      · exact free inside

end TrueForce.Hysteresis
