import TrueForce.Foundation.KeyedTable

/-!
# Assignments in sections

Lines open the section of a key, assign data to a name in the section they stand in,
or do neither.  What counts of a name under a key is the last assignment, in whichever
of the sections of that key it stands.
-/

namespace TrueForce.Sections

variable {κ ν δ : Type*}

inductive Line (κ ν δ : Type*) where
  | header (key : κ)
  | assign (name : ν) (data : δ)
  | other
  deriving DecidableEq, Repr

structure Assignment (κ ν δ : Type*) where
  key : κ
  name : ν
  data : δ
  deriving DecidableEq, Repr

/-- The assignments of lines in the section of a key, or before the first section. -/
def assignments : Option κ → List (Line κ ν δ) → List (Assignment κ ν δ)
  | _, [] => []
  | _, .header key :: lines => assignments (some key) lines
  | none, .assign _ _ :: lines => assignments none lines
  | some key, .assign name data :: lines =>
      { key, name, data } :: assignments (some key) lines
  | key, .other :: lines => assignments key lines

theorem exists_assignments_append (key : Option κ) (lines : List (Line κ ν δ)) :
    ∃ last, ∀ more, assignments key (lines ++ more) =
      assignments key lines ++ assignments last more := by
  induction lines generalizing key with
  | nil => exact ⟨key, fun _ => rfl⟩
  | cons line lines ih =>
      cases line with
      | header opened =>
          obtain ⟨last, parts⟩ := ih (some opened)
          exact ⟨last, fun more => by simp only [List.cons_append, assignments, parts]⟩
      | assign name data =>
          cases key with
          | none =>
              obtain ⟨last, parts⟩ := ih none
              exact ⟨last, fun more => by simp only [List.cons_append, assignments, parts]⟩
          | some key =>
              obtain ⟨last, parts⟩ := ih (some key)
              exact ⟨last, fun more => by simp only [List.cons_append, assignments, parts]⟩
      | other =>
          obtain ⟨last, parts⟩ := ih key
          exact ⟨last, fun more => by simp only [List.cons_append, assignments, parts]⟩

/-- A section at the end leaves the assignments before it as they are. -/
theorem assignments_append_header (lines : List (Line κ ν δ)) (key : κ)
    (more : List (Line κ ν δ)) :
    assignments none (lines ++ .header key :: more) =
      assignments none lines ++ assignments (some key) more := by
  obtain ⟨last, parts⟩ := exists_assignments_append none lines
  rw [parts, assignments]

section Places

variable {ι : Type*} [DecidableEq ι] (place : κ → ν → ι)

/-- What the last assignment in a place says. -/
def value (wanted : ι) (list : List (Assignment κ ν δ)) : Option δ :=
  KeyedTable.last (fun assignment => place assignment.key assignment.name)
    (fun assignment => some assignment.data) wanted list

/-- The assignments in other places. -/
def elsewhere (wanted : ι) (list : List (Assignment κ ν δ)) : List (Assignment κ ν δ) :=
  list.filter fun assignment => place assignment.key assignment.name ≠ wanted

variable {place} {wanted : ι} {assignment : Assignment κ ν δ}

theorem value_concat_of_same (list : List (Assignment κ ν δ))
    (same : place assignment.key assignment.name = wanted) :
    value place wanted (list ++ [assignment]) = some assignment.data := by
  rw [value, KeyedTable.last_concat, KeyedTable.readEntry, if_pos same, Option.some_or]

theorem elsewhere_concat_of_same (list : List (Assignment κ ν δ))
    (same : place assignment.key assignment.name = wanted) :
    elsewhere place wanted (list ++ [assignment]) = elsewhere place wanted list := by
  rw [elsewhere, List.filter_append, List.filter_cons_of_neg (by simpa using same),
    List.filter_nil, List.append_nil, elsewhere]

theorem elsewhere_concat_of_other (list : List (Assignment κ ν δ))
    (other : place assignment.key assignment.name ≠ wanted) :
    elsewhere place wanted (list ++ [assignment]) ≠ elsewhere place wanted list := by
  rw [elsewhere, List.filter_append, List.filter_cons_of_pos (by simpa using other), elsewhere]
  exact fun same => absurd (List.append_right_eq_self.mp same) (List.cons_ne_nil _ _)

end Places

end TrueForce.Sections
