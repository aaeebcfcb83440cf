import Mathlib.Data.List.DropRight

/-!
# Separated fields

Lists that are a head and fields, each behind a separator.  Where no field holds
the separator, splitting gives them back, and cutting separators off the end drops
the empty fields at the end.
-/

namespace TrueForce.Separated

variable {α β : Type*}

def joined (separator : α) (head : List α) (fields : List (List α)) : List α :=
  head ++ fields.flatMap (separator :: ·)

variable {separator : α} {head : List α} {fields : List (List α)}

@[simp]
theorem joined_nil : joined separator head [] = head := by
  simp [joined]

theorem joined_concat (field : List α) :
    joined separator head (fields ++ [field]) = joined separator head fields ++ separator :: field := by
  simp [joined]

theorem joined_cons (field : List α) :
    joined separator head (field :: fields) = head ++ separator :: joined separator field fields := by
  simp [joined]

theorem joined_append (more : List (List α)) :
    joined separator head (fields ++ more) = joined separator (joined separator head fields) more := by
  simp [joined]

theorem flatMap_joined (encode : α → List β) {mark : β} (encoded : encode separator = [mark]) :
    (joined separator head fields).flatMap encode =
      joined mark (head.flatMap encode) (fields.map (List.flatMap encode)) := by
  induction fields generalizing head with
  | nil => simp
  | cons field fields ih =>
      rw [joined_cons, List.flatMap_append, List.flatMap_cons, encoded, ih, List.map_cons,
        joined_cons]
      rfl

theorem splitOn_joined [BEq α] [LawfulBEq α] (headFree : separator ∉ head)
    (free : ∀ field ∈ fields, separator ∉ field) :
    (joined separator head fields).splitOn separator = head :: fields := by
  induction fields generalizing head with
  | nil =>
      rw [joined_nil]
      exact List.splitOn_eq_singleton headFree
  | cons field fields ih =>
      rw [joined_cons, List.splitOn_append_cons_self_of_not_mem headFree]
      rw [ih (free field (by simp)) fun other member => free other (by simp [member])]

theorem rdropWhile_joined [DecidableEq α] (headFree : separator ∉ head)
    (free : ∀ field ∈ fields, separator ∉ field) :
    (joined separator head fields).rdropWhile (· = separator) =
      joined separator head (fields.rdropWhile List.isEmpty) := by
  have kept {front : List α} {last : α} (other : last ≠ separator) :
      (front ++ [last]).rdropWhile (· = separator) = front ++ [last] :=
    List.rdropWhile_concat_neg _ _ _ (by simp [other])
  induction fields using List.reverseRecOn with
  | nil =>
      simp only [joined_nil, List.rdropWhile_nil]
      rcases List.eq_nil_or_concat' head with rfl | ⟨front, last, rfl⟩
      · rfl
      · apply kept
        rintro rfl
        simp at headFree
  | append_singleton fields field ih =>
      rw [joined_concat]
      rcases List.eq_nil_or_concat' field with rfl | ⟨front, last, rfl⟩
      · rw [List.rdropWhile_concat_pos _ _ _ (by simp), List.rdropWhile_concat_pos _ _ _ (by simp)]
        apply ih
        intro other member
        exact free other (by simp [member])
      · rw [List.rdropWhile_concat_neg _ _ (front ++ [last]) (by simp), joined_concat]
        have other : last ≠ separator := by
          rintro rfl
          exact free (front ++ [last]) (by simp) (by simp)
        rw [← List.cons_append, ← List.append_assoc]
        exact kept other

end TrueForce.Separated
