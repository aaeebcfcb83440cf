import Mathlib.Data.List.Sort
import Mathlib.Tactic.Common

/-!
# Sorted maps

A map as its entries in ascending order of the keys, as a B-tree holds them.  The
order makes a map the same as its lookups, so what is written under different keys
may be written in any order.
-/

namespace TrueForce.Foundation

variable {Key Value : Type} [LinearOrder Key]

@[ext]
structure SortedMap (Key Value : Type) [LinearOrder Key] where
  entries : List (Key × Value)
  sorted : entries.Pairwise fun first second => first.1 < second.1

namespace SortedMap

def find (key : Key) : List (Key × Value) → Option Value
  | [] => none
  | entry :: rest => if entry.1 = key then some entry.2 else find key rest

def put (key : Key) (value : Value) : List (Key × Value) → List (Key × Value)
  | [] => [(key, value)]
  | entry :: rest =>
      if key < entry.1 then (key, value) :: entry :: rest
      else if entry.1 = key then (key, value) :: rest
      else entry :: put key value rest

theorem mem_put {key : Key} {value : Value} {entries : List (Key × Value)} {entry : Key × Value}
    (member : entry ∈ put key value entries) : entry = (key, value) ∨ entry ∈ entries := by
  induction entries with
  | nil => exact .inl (List.mem_singleton.mp member)
  | cons first rest ih =>
      simp only [put] at member
      split_ifs at member
      · rcases List.mem_cons.mp member with same | old
        · exact .inl same
        · exact .inr old
      · rcases List.mem_cons.mp member with same | old
        · exact .inl same
        · exact .inr (List.mem_cons_of_mem first old)
      · rcases List.mem_cons.mp member with rfl | deeper
        · exact .inr List.mem_cons_self
        · exact (ih deeper).imp_right (List.mem_cons_of_mem first)

theorem put_sorted (key : Key) (value : Value) {entries : List (Key × Value)}
    (sorted : entries.Pairwise fun first second => first.1 < second.1) :
    (put key value entries).Pairwise fun first second => first.1 < second.1 := by
  induction entries with
  | nil => exact List.pairwise_singleton _ _
  | cons first rest ih =>
      rcases List.pairwise_cons.mp sorted with ⟨below, restSorted⟩
      simp only [put]
      split_ifs with before same
      · apply List.pairwise_cons.mpr ⟨?_, sorted⟩
        intro entry member
        rcases List.mem_cons.mp member with rfl | member
        · exact before
        · exact lt_trans before (below entry member)
      · subst same
        exact List.pairwise_cons.mpr ⟨below, restSorted⟩
      · apply List.pairwise_cons.mpr ⟨?_, ih restSorted⟩
        intro entry member
        rcases mem_put member with rfl | member
        · exact lt_of_le_of_ne (not_lt.mp before) same
        · exact below entry member

/-- `BTreeMap::get`. -/
def get? (map : SortedMap Key Value) (key : Key) : Option Value := find key map.entries

/-- `BTreeMap::insert`. -/
def insert (map : SortedMap Key Value) (key : Key) (value : Value) : SortedMap Key Value where
  entries := put key value map.entries
  sorted := put_sorted key value map.sorted

def empty : SortedMap Key Value where
  entries := []
  sorted := List.Pairwise.nil

/-- `BTreeMap::entry(key).or_default()`, and a change to what it gives. -/
def modify [Inhabited Value] (map : SortedMap Key Value) (key : Key) (change : Value → Value) :
    SortedMap Key Value :=
  map.insert key (change ((map.get? key).getD default))

theorem find_put_self (key : Key) (value : Value) (entries : List (Key × Value)) :
    find key (put key value entries) = some value := by
  induction entries with
  | nil => simp [put, find]
  | cons first rest ih =>
      simp only [put]
      split_ifs with before same
      · simp [find]
      · simp [find]
      · simp [find, same, ih]

theorem find_put_of_ne {key other : Key} (different : other ≠ key) (value : Value)
    (entries : List (Key × Value)) : find other (put key value entries) = find other entries := by
  induction entries with
  | nil => simp [put, find, Ne.symm different]
  | cons first rest ih =>
      simp only [put]
      split_ifs with before same
      · simp [find, Ne.symm different]
      · simp [find, same, Ne.symm different]
      · simp [find, ih]

theorem find_eq_none {key : Key} {entries : List (Key × Value)}
    (absent : ∀ entry ∈ entries, entry.1 ≠ key) : find key entries = none := by
  induction entries with
  | nil => rfl
  | cons first rest ih =>
      rw [find, if_neg (absent first List.mem_cons_self)]
      exact ih fun entry member => absent entry (List.mem_cons_of_mem first member)

theorem find_of_mem {entries : List (Key × Value)} {entry : Key × Value}
    (sorted : entries.Pairwise fun first second => first.1 < second.1)
    (member : entry ∈ entries) : find entry.1 entries = some entry.2 := by
  induction entries with
  | nil => exact absurd member List.not_mem_nil
  | cons first rest ih =>
      rcases List.pairwise_cons.mp sorted with ⟨below, restSorted⟩
      rcases List.mem_cons.mp member with rfl | member
      · simp [find]
      · rw [find, if_neg (ne_of_lt (below entry member))]
        exact ih restSorted member

theorem mem_of_find {entries : List (Key × Value)} {key : Key} {value : Value}
    (found : find key entries = some value) : (key, value) ∈ entries := by
  induction entries with
  | nil => exact absurd found (Option.some_ne_none value).symm
  | cons first rest ih =>
      rw [find] at found
      split_ifs at found with same
      · rw [← same, ← Option.some.inj found]
        exact List.mem_cons_self
      · exact List.mem_cons_of_mem first (ih found)

theorem mem_entries_iff {map : SortedMap Key Value} {key : Key} {value : Value} :
    (key, value) ∈ map.entries ↔ map.get? key = some value :=
  ⟨fun member => find_of_mem map.sorted member, mem_of_find⟩

/-- A map is its lookups. -/
theorem eq_of_get? {first second : SortedMap Key Value}
    (agree : ∀ key, first.get? key = second.get? key) : first = second := by
  have irreflexive : Std.Irrefl fun first second : Key × Value => first.1 < second.1 :=
    ⟨fun entry => lt_irrefl entry.1⟩
  have antisymmetric : Std.Antisymm fun first second : Key × Value => first.1 < second.1 :=
    ⟨fun _ _ before after => absurd after (lt_asymm before)⟩
  apply SortedMap.ext
  apply first.sorted.eq_of_mem_iff second.sorted
  rintro ⟨key, value⟩
  rw [mem_entries_iff, mem_entries_iff, agree]

@[simp]
theorem get?_empty (key : Key) : (empty : SortedMap Key Value).get? key = none := rfl

@[simp]
theorem get?_insert_self (map : SortedMap Key Value) (key : Key) (value : Value) :
    (map.insert key value).get? key = some value :=
  find_put_self key value map.entries

theorem get?_insert_of_ne {key other : Key} (different : other ≠ key)
    (map : SortedMap Key Value) (value : Value) :
    (map.insert key value).get? other = map.get? other :=
  find_put_of_ne different value map.entries

theorem get?_insert (map : SortedMap Key Value) (key other : Key) (value : Value) :
    (map.insert key value).get? other = if other = key then some value else map.get? other := by
  split_ifs with same
  · rw [same, get?_insert_self]
  · exact get?_insert_of_ne same map value

@[simp]
theorem insert_insert (map : SortedMap Key Value) (key : Key) (first second : Value) :
    (map.insert key first).insert key second = map.insert key second := by
  apply eq_of_get?
  intro other
  simp only [get?_insert]
  split_ifs <;> rfl

theorem insert_comm {key other : Key} (different : other ≠ key) (map : SortedMap Key Value)
    (first second : Value) :
    (map.insert key first).insert other second = (map.insert other second).insert key first := by
  apply eq_of_get?
  intro asked
  simp only [get?_insert]
  by_cases atKey : asked = key
  · have elsewhere : asked ≠ other := fun same => different (same.symm.trans atKey)
    simp [atKey, Ne.symm different]
  · simp [atKey]

section Modify

variable [Inhabited Value] (map : SortedMap Key Value) {key other : Key}

theorem get?_modify (key other : Key) (change : Value → Value) :
    (map.modify key change).get? other =
      if other = key then some (change ((map.get? key).getD default)) else map.get? other :=
  map.get?_insert key other _

theorem modify_modify (first second : Value → Value) :
    (map.modify key first).modify key second = map.modify key fun value => second (first value) := by
  simp only [modify, get?_insert_self, Option.getD_some, insert_insert]

theorem modify_comm_of_ne (different : other ≠ key) (first second : Value → Value) :
    (map.modify key first).modify other second = (map.modify other second).modify key first := by
  simp only [modify, get?_insert_of_ne different, get?_insert_of_ne (Ne.symm different)]
  exact insert_comm different map _ _

/-- Changes that commute at every key commute on the map. -/
theorem modify_comm {first second : Value → Value}
    (commute : key = other → ∀ value, second (first value) = first (second value)) :
    (map.modify key first).modify other second = (map.modify other second).modify key first := by
  by_cases same : key = other
  · subst same
    rw [modify_modify, modify_modify]
    congr 1
    funext value
    exact commute rfl value
  · exact modify_comm_of_ne map (Ne.symm same) first second

end Modify

theorem get?_foldl_insert {entries : List (Key × Value)}
    (sorted : entries.Pairwise fun first second => first.1 < second.1)
    (map : SortedMap Key Value) (key : Key) :
    (entries.foldl (fun map entry => map.insert entry.1 entry.2) map).get? key =
      (find key entries).or (map.get? key) := by
  induction entries generalizing map with
  | nil => rfl
  | cons first rest ih =>
      rcases List.pairwise_cons.mp sorted with ⟨below, restSorted⟩
      rw [List.foldl_cons, ih restSorted, find]
      split_ifs with same
      · subst same
        have absent : find first.1 rest = none :=
          find_eq_none fun entry member => ne_of_gt (below entry member)
        rw [absent, get?_insert_self]
        rfl
      · rw [get?_insert_of_ne (Ne.symm same)]

/-- Inserting the entries of a map one after the other gives the map. -/
theorem foldl_insert_entries (map : SortedMap Key Value) :
    map.entries.foldl (fun map entry => map.insert entry.1 entry.2) empty = map := by
  apply eq_of_get?
  intro key
  rw [get?_foldl_insert map.sorted, get?_empty, Option.or_none]
  rfl

end SortedMap

end TrueForce.Foundation
