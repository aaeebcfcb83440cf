import Mathlib.Data.List.Basic

/-!
# Writing one entry of a list

The first item with a key is replaced, later ones with the key are dropped, and
where there is none the new item goes to the end.
-/

namespace TrueForce.Rewriting

variable {α β : Type*}

def rewrite (isKey : α → Bool) (written : α) (replaced : Bool) : List α → List α
  | [] => if replaced then [] else [written]
  | item :: rest =>
      if isKey item then
        if replaced then rewrite isKey written true rest
        else written :: rewrite isKey written true rest
      else item :: rewrite isKey written replaced rest

variable {isKey : α → Bool} {written : α}

theorem rewrite_true (items : List α) :
    rewrite isKey written true items = items.filter fun item => !isKey item := by
  induction items with
  | nil => rfl
  | cons item rest ih => by_cases key : isKey item = true <;> simp [rewrite, key, ih]

/-- The other items are the same, in the same order. -/
theorem filter_rewrite (own : isKey written = true) (replaced : Bool) (items : List α) :
    ((rewrite isKey written replaced items).filter fun item => !isKey item) =
      items.filter fun item => !isKey item := by
  induction items generalizing replaced with
  | nil => cases replaced <;> simp [rewrite, own]
  | cons item rest ih =>
      by_cases key : isKey item = true
      · cases replaced <;> simp [rewrite, key, own, ih]
      · simp [rewrite, key, ih]

theorem rewrite_rewrite (own : isKey written = true) (items : List α) :
    rewrite isKey written false (rewrite isKey written false items) =
      rewrite isKey written false items := by
  induction items with
  | nil => simp [rewrite, own]
  | cons item rest ih =>
      by_cases key : isKey item = true
      · simp [rewrite, key, own, rewrite_true]
      · simp [rewrite, key, ih]

theorem mem_rewrite {replaced : Bool} {items : List α} {item : α}
    (member : item ∈ rewrite isKey written replaced items) :
    item = written ∨ (item ∈ items ∧ isKey item = false) := by
  induction items generalizing replaced with
  | nil =>
      cases replaced with
      | true => exact absurd member List.not_mem_nil
      | false => exact .inl (List.mem_singleton.mp member)
  | cons first rest ih =>
      have deeper : ∀ {replaced : Bool}, item ∈ rewrite isKey written replaced rest →
          item = written ∨ (item ∈ first :: rest ∧ isKey item = false) := fun found =>
        (ih found).imp_right fun old => ⟨List.mem_cons_of_mem first old.1, old.2⟩
      by_cases key : isKey first = true
      · cases replaced with
        | true =>
            rw [rewrite, if_pos key, if_pos rfl] at member
            exact deeper member
        | false =>
            rw [rewrite, if_pos key, if_neg Bool.false_ne_true] at member
            rcases List.mem_cons.mp member with same | member
            · exact .inl same
            · exact deeper member
      · rw [rewrite, if_neg key] at member
        rcases List.mem_cons.mp member with rfl | member
        · exact .inr ⟨List.mem_cons_self, eq_false_of_ne_true key⟩
        · exact deeper member

theorem map_eq_self_iff {change : α → α} {items : List α} :
    items.map change = items ↔ ∀ item ∈ items, change item = item := by
  have fixed : items.map id = items := List.map_id items
  constructor
  · intro same
    exact List.map_inj_left.mp (same.trans fixed.symm)
  · intro same
    exact (List.map_congr_left same).trans fixed

/-- A change of the items that keeps their keys and the new item. -/
theorem map_rewrite {change : α → α} (keeps : ∀ item, isKey (change item) = isKey item)
    (fixed : change written = written) (replaced : Bool) (items : List α) :
    (rewrite isKey written replaced items).map change =
      rewrite isKey written replaced (items.map change) := by
  induction items generalizing replaced with
  | nil => cases replaced <;> simp [rewrite, fixed]
  | cons item rest ih =>
      by_cases key : isKey item = true
      · cases replaced <;> simp [rewrite, keeps, key, fixed, ih]
      · simp [rewrite, keeps, key, ih]

end TrueForce.Rewriting
