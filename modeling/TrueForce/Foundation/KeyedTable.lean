import Mathlib.Data.List.Induction
import Mathlib.Data.List.Nodup

/-!
# Tables in which the last entry of a key counts

A table is read entry by entry, and an entry that has a value replaces what was found
under its key before.  Where the keys are distinct the order of the entries does not
matter, and entries under other keys never do.
-/

namespace TrueForce.KeyedTable

variable {α κ β : Type*} [DecidableEq κ] (key : α → κ) (value : α → Option β)

/-- What is found under a key once an entry has been read. -/
def readEntry (wanted : κ) (found : Option β) (entry : α) : Option β :=
  if key entry = wanted then (value entry).or found else found

def last (wanted : κ) (entries : List α) : Option β :=
  entries.foldl (readEntry key value wanted) none

variable {key value} {wanted : κ} {entries others : List α} {result : β}

@[simp]
theorem last_nil : last key value wanted [] = none := rfl

theorem last_concat (entries : List α) (entry : α) :
    last key value wanted (entries ++ [entry]) =
      readEntry key value wanted (last key value wanted entries) entry := by
  simp only [last, List.foldl_concat]

theorem last_append_of_other (other : ∀ entry ∈ others, key entry ≠ wanted) :
    last key value wanted (entries ++ others) = last key value wanted entries := by
  induction others using List.reverseRecOn with
  | nil => rw [List.append_nil]
  | append_singleton others entry ih =>
      rw [← List.append_assoc, last_concat, readEntry, if_neg (other entry (by simp))]
      exact ih fun entry member => other entry (List.mem_append_left _ member)

theorem last_eq_none_of_other (other : ∀ entry ∈ entries, key entry ≠ wanted) :
    last key value wanted entries = none := by
  have same : last key value wanted ([] ++ entries) = last key value wanted [] :=
    last_append_of_other other
  rwa [List.nil_append, last_nil] at same

theorem exists_of_last (found : last key value wanted entries = some result) :
    ∃ entry ∈ entries, key entry = wanted ∧ value entry = some result := by
  induction entries using List.reverseRecOn with
  | nil => simp at found
  | append_singleton entries entry ih =>
      have earlier (before : last key value wanted entries = some result) :
          ∃ other ∈ entries ++ [entry], key other = wanted ∧ value other = some result := by
        obtain ⟨other, member, is⟩ := ih before
        exact ⟨other, List.mem_append_left _ member, is⟩
      rw [last_concat, readEntry] at found
      split at found
      · next same =>
          rcases Option.or_eq_some_iff.mp found with here | ⟨-, before⟩
          · exact ⟨entry, by simp, same, here⟩
          · exact earlier before
      · exact earlier found

/-- Where the keys are distinct, what is found is the value of the entry of the key. -/
theorem last_eq_some_iff (distinct : (entries.map key).Nodup) :
    last key value wanted entries = some result ↔
      ∃ entry ∈ entries, key entry = wanted ∧ value entry = some result := by
  induction entries using List.reverseRecOn with
  | nil => simp
  | append_singleton entries entry ih =>
      simp only [List.map_append, List.map_cons, List.map_nil, List.nodup_append,
        List.mem_singleton, List.mem_map] at distinct
      obtain ⟨before, -, apart⟩ := distinct
      rw [last_concat, readEntry]
      by_cases same : key entry = wanted
      · have none_before : last key value wanted entries = none :=
          last_eq_none_of_other fun other member equal =>
            apart (key other) ⟨other, member, rfl⟩ (key entry) rfl (equal.trans same.symm)
        rw [if_pos same, none_before, Option.or_none]
        constructor
        · exact fun found => ⟨entry, by simp, same, found⟩
        · rintro ⟨other, member, equal, found⟩
          rcases List.mem_append.mp member with member | member
          · exact absurd (equal.trans same.symm) (apart (key other) ⟨other, member, rfl⟩ _ rfl)
          · rw [← List.mem_singleton.mp member, found]
      · rw [if_neg same, ih before]
        constructor
        · rintro ⟨other, member, found⟩
          exact ⟨other, List.mem_append_left _ member, found⟩
        · rintro ⟨other, member, equal, found⟩
          rcases List.mem_append.mp member with member | member
          · exact ⟨other, member, equal, found⟩
          · exact absurd (List.mem_singleton.mp member ▸ equal) same

theorem last_perm (distinct : (entries.map key).Nodup) (reordered : entries.Perm others) :
    last key value wanted others = last key value wanted entries := by
  have otherDistinct : (others.map key).Nodup := (reordered.map key).nodup_iff.mp distinct
  apply Option.ext
  intro result
  simp only [last_eq_some_iff distinct, last_eq_some_iff otherDistinct, reordered.mem_iff]

theorem last_filter (entries : List α) :
    last key value wanted (entries.filter fun entry => key entry = wanted) =
      last key value wanted entries := by
  induction entries using List.reverseRecOn with
  | nil => rfl
  | append_singleton entries entry ih =>
      rw [List.filter_append, last_concat, ← ih]
      by_cases same : key entry = wanted
      · rw [List.filter_cons_of_pos (by simpa using same), List.filter_nil, last_concat]
      · rw [List.filter_cons_of_neg (by simpa using same), List.filter_nil, List.append_nil,
          readEntry, if_neg same]

/-- Entries may change places and entries under other keys may come in between. -/
theorem last_of_perm_append {extra : List α} (distinct : (entries.map key).Nodup)
    (reordered : others.Perm (entries ++ extra)) (other : ∀ entry ∈ extra, key entry ≠ wanted) :
    last key value wanted others = last key value wanted entries := by
  have without : extra.filter (fun entry => key entry = wanted) = [] := by
    simpa [List.filter_eq_nil_iff] using other
  have same := reordered.filter fun entry => key entry = wanted
  rw [List.filter_append, without, List.append_nil] at same
  have distinctKey : ((entries.filter fun entry => key entry = wanted).map key).Nodup :=
    distinct.sublist (List.filter_sublist.map key)
  rw [← last_filter others, ← last_filter entries]
  exact last_perm distinctKey same.symm

end TrueForce.KeyedTable
