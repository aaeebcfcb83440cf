import Mathlib.Data.Nat.ModEq
import Mathlib.Data.Nat.Notation
import Mathlib.Logic.Function.Basic
import Mathlib.Tactic.Common

/-!
# Rings with free-running indices

A ring buffer whose producer and consumer indices run freely over the 32-bit
integers and are reduced modulo the capacity at every access.  Its contents are
the cells from the consumer index on, as many as the wrapping difference of the
indices.  Writing, reading, discarding and clearing act on the contents as on a
queue, provided that the capacity divides `2 ^ 32` and the ring is not lapped.
-/

namespace TrueForce.Foundation

universe u

structure RingBuffer (Item : Type u) where
  cells : ℕ → Item
  head : UInt32
  tail : UInt32

namespace RingBuffer

variable {Item : Type u} {capacity : ℕ}

def occupancy (ring : RingBuffer Item) : ℕ := (ring.head - ring.tail).toNat

/-- The items from the oldest to the newest. -/
def contents (capacity : ℕ) (ring : RingBuffer Item) : List Item :=
  (List.range ring.occupancy).map fun offset =>
    ring.cells ((ring.tail.toNat + offset) % capacity)

def write (capacity : ℕ) (ring : RingBuffer Item) (item : Item) : RingBuffer Item :=
  { ring with
    cells := Function.update ring.cells (ring.head.toNat % capacity) item
    head := ring.head + 1 }

def writeAll (capacity : ℕ) (ring : RingBuffer Item) (items : List Item) : RingBuffer Item :=
  items.foldl (write capacity) ring

def discard (ring : RingBuffer Item) (count : ℕ) : RingBuffer Item :=
  { ring with tail := ring.tail + UInt32.ofNat count }

def clear (ring : RingBuffer Item) : RingBuffer Item := { ring with tail := ring.head }

/-- Read up to `want` items, one at a time. -/
def drain (capacity : ℕ) : ℕ → RingBuffer Item → List Item × RingBuffer Item
  | 0, ring => ([], ring)
  | want + 1, ring =>
      if ring.tail = ring.head then ([], ring)
      else
        let item := ring.cells (ring.tail.toNat % capacity)
        let (items, rest) := drain capacity want { ring with tail := ring.tail + 1 }
        (item :: items, rest)

@[simp]
theorem length_contents (capacity : ℕ) (ring : RingBuffer Item) :
    (ring.contents capacity).length = ring.occupancy := by
  simp [contents]

theorem occupancy_lt (ring : RingBuffer Item) : ring.occupancy < 2 ^ 32 :=
  (ring.head - ring.tail).toNat_lt

theorem head_toNat (ring : RingBuffer Item) :
    ring.head.toNat = (ring.tail.toNat + ring.occupancy) % 2 ^ 32 := by
  have head := ring.head.toNat_lt
  have tail := ring.tail.toNat_lt
  simp only [occupancy, UInt32.toNat_sub]
  omega

theorem occupancy_write (capacity : ℕ) (ring : RingBuffer Item) (item : Item)
    (room : ring.occupancy + 1 < 2 ^ 32) :
    (ring.write capacity item).occupancy = ring.occupancy + 1 := by
  have head := ring.head.toNat_lt
  have tail := ring.tail.toNat_lt
  simp only [occupancy, write, UInt32.toNat_sub, UInt32.toNat_add, UInt32.toNat_one] at room ⊢
  omega

theorem occupancy_discard (ring : RingBuffer Item) {count : ℕ} (enough : count ≤ ring.occupancy) :
    (ring.discard count).occupancy = ring.occupancy - count := by
  have head := ring.head.toNat_lt
  have tail := ring.tail.toNat_lt
  have bound := ring.occupancy_lt
  simp only [occupancy, discard, UInt32.toNat_sub, UInt32.toNat_add, UInt32.toNat_ofNat'] at *
  omega

/-- The producer's cell is none of the occupied ones. -/
theorem head_cell_free (divides : capacity ∣ 2 ^ 32) (ring : RingBuffer Item)
    (room : ring.occupancy < capacity) {offset : ℕ} (occupied : offset < ring.occupancy) :
    (ring.tail.toNat + offset) % capacity ≠ ring.head.toNat % capacity := by
  intro same
  have next : (ring.tail.toNat + offset) % capacity =
      (ring.tail.toNat + ring.occupancy) % capacity := by
    rw [same, head_toNat, Nat.mod_mod_of_dvd _ divides]
  have gap : capacity ∣ (ring.tail.toNat + ring.occupancy) - (ring.tail.toNat + offset) :=
    (Nat.modEq_iff_dvd' (by omega)).mp next
  have positive : 0 < (ring.tail.toNat + ring.occupancy) - (ring.tail.toNat + offset) := by omega
  have large := Nat.le_of_dvd positive gap
  omega

theorem contents_write (divides : capacity ∣ 2 ^ 32) (small : capacity < 2 ^ 32)
    (ring : RingBuffer Item) (item : Item) (room : ring.occupancy < capacity) :
    (ring.write capacity item).contents capacity = ring.contents capacity ++ [item] := by
  rw [contents, occupancy_write capacity ring item (by omega), List.range_succ, List.map_append]
  congr 1
  · apply List.map_congr_left
    intro offset occupied
    have free := head_cell_free divides ring room (List.mem_range.mp occupied)
    simp [write, Function.update_of_ne free]
  · have cell : (ring.tail.toNat + ring.occupancy) % capacity = ring.head.toNat % capacity := by
      rw [head_toNat, Nat.mod_mod_of_dvd _ divides]
    simp [write, cell]

theorem contents_writeAll (divides : capacity ∣ 2 ^ 32) (small : capacity < 2 ^ 32)
    (ring : RingBuffer Item) (items : List Item) (room : ring.occupancy + items.length ≤ capacity) :
    (ring.writeAll capacity items).contents capacity = ring.contents capacity ++ items := by
  induction items generalizing ring with
  | nil => simp [writeAll]
  | cons item items ih =>
      simp only [List.length_cons] at room
      have written := contents_write divides small ring item (by omega)
      have advanced := occupancy_write capacity ring item (by omega)
      have rest := ih (ring.write capacity item) (by omega)
      rw [written, List.append_assoc, List.singleton_append] at rest
      exact rest

theorem contents_discard (divides : capacity ∣ 2 ^ 32) (ring : RingBuffer Item) {count : ℕ}
    (enough : count ≤ ring.occupancy) :
    (ring.discard count).contents capacity = (ring.contents capacity).drop count := by
  have bound := ring.occupancy_lt
  apply List.ext_getElem
  · simp [occupancy_discard ring enough]
  · intro offset _ _
    have moved : ((ring.discard count).tail.toNat + offset) % capacity =
        (ring.tail.toNat + (count + offset)) % capacity := by
      have advanced : (ring.discard count).tail.toNat = (ring.tail.toNat + count) % 2 ^ 32 := by
        simp only [discard, UInt32.toNat_add, UInt32.toNat_ofNat']
        omega
      rw [advanced, Nat.add_mod, Nat.mod_mod_of_dvd _ divides, ← Nat.add_mod, Nat.add_assoc]
    simp only [contents, List.getElem_map, List.getElem_range, List.getElem_drop, moved]
    rfl

@[simp]
theorem contents_clear (ring : RingBuffer Item) : ring.clear.contents capacity = [] := by
  simp [contents, clear, occupancy]

theorem contents_eq_nil_iff (capacity : ℕ) (ring : RingBuffer Item) :
    ring.contents capacity = [] ↔ ring.tail = ring.head := by
  rw [← List.length_eq_zero_iff, length_contents]
  have head := ring.head.toNat_lt
  have tail := ring.tail.toNat_lt
  rw [← UInt32.toNat_inj, occupancy, UInt32.toNat_sub]
  omega

theorem contents_eq_cons (divides : capacity ∣ 2 ^ 32) (ring : RingBuffer Item)
    (nonempty : ring.tail ≠ ring.head) :
    ring.contents capacity =
      ring.cells (ring.tail.toNat % capacity) :: (ring.discard 1).contents capacity := by
  have occupied : ring.contents capacity ≠ [] := by
    intro empty
    exact nonempty ((contents_eq_nil_iff capacity ring).mp empty)
  have count : 1 ≤ ring.occupancy := by
    rw [← length_contents capacity]
    exact List.length_pos_iff.mpr occupied
  have oldest : (ring.contents capacity).head occupied =
      ring.cells (ring.tail.toNat % capacity) := by
    simp [contents, List.head_eq_getElem]
  rw [contents_discard divides ring count, List.drop_one, ← oldest, List.cons_head_tail]

/-- A drain takes the oldest items and leaves the rest. -/
theorem drain_spec (divides : capacity ∣ 2 ^ 32) (want : ℕ) (ring : RingBuffer Item) :
    (drain capacity want ring).1 = (ring.contents capacity).take want ∧
      (drain capacity want ring).2.contents capacity = (ring.contents capacity).drop want := by
  induction want generalizing ring with
  | zero => simp [drain]
  | succ want ih =>
      by_cases empty : ring.tail = ring.head
      · have nothing := (contents_eq_nil_iff capacity ring).mpr empty
        simp [drain, empty, nothing]
      · rcases ih (ring.discard 1) with ⟨taken, left⟩
        rw [contents_eq_cons divides ring empty]
        simp only [drain, empty, ↓reduceIte, List.take_succ_cons, List.drop_succ_cons]
        exact ⟨congrArg _ taken, left⟩

theorem drain_of_empty (capacity want : ℕ) (ring : RingBuffer Item)
    (empty : ring.tail = ring.head) :
    drain capacity want ring = ([], ring) := by
  cases want <;> simp [drain, empty]

end RingBuffer

end TrueForce.Foundation
