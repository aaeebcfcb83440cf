import Mathlib.Algebra.Group.Nat.Defs
import Mathlib.Data.List.Basic
import Mathlib.Data.Nat.Notation
import Mathlib.Tactic.Common

/-!
# Writing into a byte buffer

A buffer is a list of bytes of fixed length.  A write replaces a run of bytes in
place; the lemmas say what it leaves alone and what can be read back.

A record is a buffer into which fields are stored one after the other, each at its own
place.  Fields that keep apart are all read back, whatever the buffer held before, and
so is what the buffer held beside them.
-/

namespace TrueForce.ByteBuffer

abbrev Bytes := List UInt8

/-- `put_unaligned_le16`, as the bytes it stores. -/
def le16 (value : UInt16) : Bytes := [value.toUInt8, (value >>> 8).toUInt8]

/-- Store `data` at `offset`. -/
def write (buffer : Bytes) (offset : ℕ) (data : Bytes) : Bytes :=
  buffer.take offset ++ data ++ buffer.drop (offset + data.length)

/-- What two little-endian bytes say. -/
def readLe16 (data : Bytes) : UInt16 :=
  UInt16.ofNat ((data.getD 0 0).toNat + (data.getD 1 0).toNat * 2 ^ 8)

/-- `count` runs of `size` bytes, one after the other from `offset` on. -/
def chunks (buffer : Bytes) (offset size count : ℕ) : List Bytes :=
  (List.range count).map fun index => (buffer.drop (offset + size * index)).take size

/-- `put_unaligned_le32`, as the bytes it stores. -/
def le32 (value : UInt32) : Bytes :=
  [value.toUInt8, (value >>> 8).toUInt8, (value >>> 16).toUInt8, (value >>> 24).toUInt8]

/-- The value of little-endian bytes. -/
def littleEndian : Bytes → ℕ
  | [] => 0
  | byte :: bytes => byte.toNat + 2 ^ 8 * littleEndian bytes

/-- `size` bytes from `offset` on, where the buffer has them. -/
def slice (buffer : Bytes) (offset size : ℕ) : Option Bytes :=
  if offset + size ≤ buffer.length then some ((buffer.drop offset).take size) else none

theorem readLe16_le16 (value : UInt16) (rest : Bytes) : readLe16 (le16 value ++ rest) = value := by
  have bound := value.toNat_lt
  apply UInt16.toNat_inj.mp
  simp only [readLe16, le16, List.cons_append, List.nil_append, List.getD_cons_zero,
    List.getD_cons_succ, UInt16.toNat_ofNat', UInt16.toNat_toUInt8, UInt16.toNat_shiftRight,
    Nat.shiftRight_eq_div_pow]
  have shift : UInt16.toNat 8 % 16 = 8 := rfl
  rw [shift]
  omega

@[simp]
theorem length_le16 (value : UInt16) : (le16 value).length = 2 := rfl

@[simp]
theorem length_le32 (value : UInt32) : (le32 value).length = 4 := rfl

theorem littleEndian_le32 (value : UInt32) : littleEndian (le32 value) = value.toNat := by
  have bound := value.toNat_lt
  simp only [littleEndian, le32, UInt32.toNat_toUInt8, UInt32.toNat_shiftRight,
    Nat.shiftRight_eq_div_pow]
  have shift8 : UInt32.toNat 8 % 32 = 8 := rfl
  have shift16 : UInt32.toNat 16 % 32 = 16 := rfl
  have shift24 : UInt32.toNat 24 % 32 = 24 := rfl
  rw [shift8, shift16, shift24]
  omega

/-- Four bytes are what their value is stored as. -/
theorem le32_littleEndian {data : Bytes} (four : data.length = 4) :
    le32 (UInt32.ofNat (littleEndian data)) = data := by
  obtain ⟨a, b, c, d, rfl⟩ := List.length_eq_four.mp four
  have := a.toNat_lt
  have := b.toNat_lt
  have := c.toNat_lt
  have := d.toNat_lt
  have shift8 : UInt32.toNat 8 % 32 = 8 := rfl
  have shift16 : UInt32.toNat 16 % 32 = 16 := rfl
  have shift24 : UInt32.toNat 24 % 32 = 24 := rfl
  simp only [le32, littleEndian, List.cons.injEq, and_true]
  refine ⟨?_, ?_, ?_, ?_⟩
  · apply UInt8.toNat_inj.mp
    rw [UInt32.toNat_toUInt8, UInt32.toNat_ofNat']
    omega
  · apply UInt8.toNat_inj.mp
    rw [UInt32.toNat_toUInt8, UInt32.toNat_shiftRight, UInt32.toNat_ofNat', shift8,
      Nat.shiftRight_eq_div_pow]
    omega
  · apply UInt8.toNat_inj.mp
    rw [UInt32.toNat_toUInt8, UInt32.toNat_shiftRight, UInt32.toNat_ofNat', shift16,
      Nat.shiftRight_eq_div_pow]
    omega
  · apply UInt8.toNat_inj.mp
    rw [UInt32.toNat_toUInt8, UInt32.toNat_shiftRight, UInt32.toNat_ofNat', shift24,
      Nat.shiftRight_eq_div_pow]
    omega

/-- Two bytes are what their value is stored as. -/
theorem le16_littleEndian {data : Bytes} (two : data.length = 2) :
    le16 (UInt16.ofNat (littleEndian data)) = data := by
  obtain ⟨a, b, rfl⟩ := List.length_eq_two.mp two
  have := a.toNat_lt
  have := b.toNat_lt
  have shift8 : UInt16.toNat 8 % 16 = 8 := rfl
  simp only [le16, littleEndian, List.cons.injEq, and_true]
  constructor
  · apply UInt8.toNat_inj.mp
    rw [UInt16.toNat_toUInt8, UInt16.toNat_ofNat']
    omega
  · apply UInt8.toNat_inj.mp
    rw [UInt16.toNat_toUInt8, UInt16.toNat_shiftRight, UInt16.toNat_ofNat', shift8,
      Nat.shiftRight_eq_div_pow]
    omega

theorem littleEndian_le16 (value : UInt16) : littleEndian (le16 value) = value.toNat := by
  have bound := value.toNat_lt
  have shift8 : UInt16.toNat 8 % 16 = 8 := rfl
  simp only [littleEndian, le16, UInt16.toNat_toUInt8, UInt16.toNat_shiftRight,
    Nat.shiftRight_eq_div_pow, shift8]
  omega

theorem slice_of_le {buffer : Bytes} {offset size : ℕ} (fits : offset + size ≤ buffer.length) :
    slice buffer offset size = some ((buffer.drop offset).take size) := if_pos fits

theorem slice_eq_some {buffer data : Bytes} {offset size : ℕ}
    (read : slice buffer offset size = some data) :
    offset + size ≤ buffer.length ∧ data = (buffer.drop offset).take size := by
  rw [slice] at read
  split at read
  · rename_i fits
    cases read
    exact ⟨fits, rfl⟩
  · cases read

section Write

variable {buffer data : Bytes} {offset : ℕ}

@[simp]
theorem length_write (fits : offset + data.length ≤ buffer.length) :
    (write buffer offset data).length = buffer.length := by
  simp only [write, List.length_append, List.length_take, List.length_drop]
  omega

theorem getElem?_write_before {index : ℕ} (before : index < offset)
    (fits : offset + data.length ≤ buffer.length) :
    (write buffer offset data)[index]? = buffer[index]? := by
  have inside : index < (buffer.take offset).length := by
    rw [List.length_take]
    omega
  rw [write, List.append_assoc, List.getElem?_append_left inside,
    List.getElem?_take_of_lt before]

theorem getElem?_write_inside {index : ℕ} (inside : index < data.length)
    (fits : offset + data.length ≤ buffer.length) :
    (write buffer offset data)[offset + index]? = data[index]? := by
  have front : (buffer.take offset).length = offset := by
    rw [List.length_take]
    omega
  rw [write, List.append_assoc, List.getElem?_append_right (by omega), front,
    Nat.add_sub_cancel_left, List.getElem?_append_left inside]

theorem getElem?_write_after {index : ℕ} (after : offset + data.length ≤ index)
    (fits : offset + data.length ≤ buffer.length) :
    (write buffer offset data)[index]? = buffer[index]? := by
  have front : (buffer.take offset ++ data).length = offset + data.length := by
    rw [List.length_append, List.length_take]
    omega
  rw [write, List.getElem?_append_right (by omega), front, List.getElem?_drop,
    Nat.add_sub_cancel' after]

theorem drop_write (fits : offset + data.length ≤ buffer.length) :
    (write buffer offset data).drop offset = data ++ buffer.drop (offset + data.length) := by
  have front : (buffer.take offset).length = offset := by
    rw [List.length_take]
    omega
  rw [write, List.append_assoc]
  exact List.drop_left' front

/-- A write shows only where its data went. -/
theorem changed_by_write {index : ℕ} (fits : offset + data.length ≤ buffer.length)
    (changed : (write buffer offset data)[index]? ≠ buffer[index]?) :
    offset ≤ index ∧ index < offset + data.length := by
  constructor
  · by_contra before
    exact changed (getElem?_write_before (Nat.lt_of_not_le before) fits)
  · by_contra after
    exact changed (getElem?_write_after (Nat.le_of_not_lt after) fits)

end Write

theorem take_drop_flatMap {α : Type*} {encode : α → Bytes} {size : ℕ}
    (sized : ∀ value, (encode value).length = size) (values : List α) {index : ℕ}
    (inside : index < values.length) :
    ((values.flatMap encode).drop (size * index)).take size = encode values[index] := by
  induction values generalizing index with
  | nil => simp at inside
  | cons value values ih =>
      rw [List.flatMap_cons]
      cases index with
      | zero =>
          rw [Nat.mul_zero, List.drop_zero]
          exact List.take_left' (sized value)
      | succ index =>
          have shorter : index < values.length := by simpa using inside
          have cut : size * (index + 1) = (encode value).length + size * index := by
            rw [sized, Nat.mul_succ, Nat.add_comm]
          rw [cut, List.drop_length_add_append, ih shorter]
          rfl

/-- A run of encoded values is read back value by value. -/
theorem chunks_flatMap {α : Type*} {encode : α → Bytes} {size : ℕ}
    (sized : ∀ value, (encode value).length = size) {buffer : Bytes} {offset : ℕ}
    {values : List α} (stored : buffer.drop offset = values.flatMap encode) :
    chunks buffer offset size values.length = values.map encode := by
  apply List.ext_getElem
  · rw [chunks, List.length_map, List.length_map, List.length_range]
  · intro index _ inside
    rw [List.length_map] at inside
    simp only [chunks, List.getElem_map, List.getElem_range]
    rw [← List.drop_drop, stored]
    exact take_drop_flatMap sized values inside

theorem length_of_mem_chunks {buffer run : Bytes} {offset size count : ℕ}
    (fits : offset + size * count ≤ buffer.length) (mem : run ∈ chunks buffer offset size count) :
    run.length = size := by
  rw [chunks, List.mem_map] at mem
  rcases mem with ⟨index, inside, rfl⟩
  have below := List.mem_range.mp inside
  have last : size * (index + 1) ≤ size * count := Nat.mul_le_mul_left size below
  rw [Nat.mul_succ] at last
  rw [List.length_take, List.length_drop]
  omega

theorem flatten_chunks {buffer : Bytes} {offset size : ℕ} (count : ℕ) :
    (chunks buffer offset size count).flatten = (buffer.drop offset).take (size * count) := by
  induction count with
  | zero => simp [chunks]
  | succ count ih =>
      rw [chunks] at ih ⊢
      rw [List.range_succ, List.map_append, List.flatten_append, ih, List.map_singleton,
        List.flatten_singleton, Nat.mul_succ, List.take_add, List.drop_drop]

theorem length_flatMap {α : Type*} {encode : α → Bytes} {size : ℕ}
    (sized : ∀ value, (encode value).length = size) (values : List α) :
    (values.flatMap encode).length = size * values.length := by
  induction values with
  | nil => rfl
  | cons value values ih =>
      rw [List.flatMap_cons, List.length_append, ih, sized, List.length_cons, Nat.mul_succ,
        Nat.add_comm]

section Record

/-- Bytes and the place where they go. -/
structure Placed where
  offset : ℕ
  data : Bytes

namespace Placed

def Apart (first second : Placed) : Prop :=
  first.offset + first.data.length ≤ second.offset ∨
    second.offset + second.data.length ≤ first.offset

def Fits (field : Placed) (size : ℕ) : Prop := field.offset + field.data.length ≤ size

end Placed

def store (buffer : Bytes) : List Placed → Bytes
  | [] => buffer
  | field :: fields => store (write buffer field.offset field.data) fields

variable {buffer : Bytes} {fields : List Placed} {field : Placed} {offset size index : ℕ}

theorem slice_write_same {data : Bytes} (fits : offset + data.length ≤ buffer.length) :
    slice (write buffer offset data) offset data.length = some data := by
  rw [slice_of_le (by rwa [length_write fits]), drop_write fits, List.take_left' rfl]

/-- A write is not seen beside its data. -/
theorem slice_write_apart {data : Bytes} (fits : offset + data.length ≤ buffer.length)
    (apart : index + size ≤ offset ∨ offset + data.length ≤ index) :
    slice (write buffer offset data) index size = slice buffer index size := by
  rw [slice, slice, length_write fits]
  split
  · rename_i within
    congr 1
    apply List.ext_getElem?
    intro place
    rw [List.getElem?_take, List.getElem?_take, List.getElem?_drop, List.getElem?_drop]
    split
    · rename_i inside
      rcases apart with before | after
      · exact getElem?_write_before (by omega) fits
      · exact getElem?_write_after (by omega) fits
    · rfl
  · rfl

/-- Two slices that meet are one. -/
theorem slice_add {more : ℕ} {front back : Bytes} (first : slice buffer offset size = some front)
    (second : slice buffer (offset + size) more = some back) :
    slice buffer offset (size + more) = some (front ++ back) := by
  rcases slice_eq_some first with ⟨-, rfl⟩
  rcases slice_eq_some second with ⟨fits, rfl⟩
  rw [slice_of_le (by omega), List.take_add, List.drop_drop]

theorem slice_replicate {byte : UInt8} {count : ℕ} (fits : offset + size ≤ count) :
    slice (List.replicate count byte) offset size = some (List.replicate size byte) := by
  have inside : offset + size ≤ (List.replicate count byte).length := by
    rwa [List.length_replicate]
  have rest : min size (count - offset) = size := by omega
  rw [slice_of_le inside, List.drop_replicate, List.take_replicate, rest]

theorem getElem?_of_slice {byte : UInt8} (read : slice buffer index 1 = some [byte]) :
    buffer[index]? = some byte := by
  rcases slice_eq_some read with ⟨-, same⟩
  have first : ((buffer.drop index).take 1)[0]? = some byte := by
    rw [← same]
    rfl
  rw [List.getElem?_take, if_pos Nat.one_pos, List.getElem?_drop] at first
  exact first

theorem length_store (fits : ∀ field ∈ fields, field.Fits buffer.length) :
    (store buffer fields).length = buffer.length := by
  induction fields generalizing buffer with
  | nil => rfl
  | cons field fields ih =>
      have first : field.Fits buffer.length := fits field List.mem_cons_self
      have same := length_write first
      rw [store, ih, same]
      intro other known
      rw [same]
      exact fits other (List.mem_cons_of_mem field known)

theorem slice_store_apart (fits : ∀ field ∈ fields, field.Fits buffer.length)
    (apart : ∀ field ∈ fields,
      index + size ≤ field.offset ∨ field.offset + field.data.length ≤ index) :
    slice (store buffer fields) index size = slice buffer index size := by
  induction fields generalizing buffer with
  | nil => rfl
  | cons field fields ih =>
      have first : field.Fits buffer.length := fits field List.mem_cons_self
      rw [store, ih, slice_write_apart first (apart field List.mem_cons_self)]
      · intro other known
        rw [length_write first]
        exact fits other (List.mem_cons_of_mem field known)
      · intro other known
        exact apart other (List.mem_cons_of_mem field known)

/-- Every field is read back. -/
theorem slice_store (fits : ∀ field ∈ fields, field.Fits buffer.length)
    (apart : fields.Pairwise Placed.Apart) (known : field ∈ fields) :
    slice (store buffer fields) field.offset field.data.length = some field.data := by
  induction fields generalizing buffer with
  | nil => exact absurd known List.not_mem_nil
  | cons first fields ih =>
      have firstFits : first.Fits buffer.length := fits first List.mem_cons_self
      have restFits : ∀ other ∈ fields, other.Fits (write buffer first.offset first.data).length := by
        intro other known
        rw [length_write firstFits]
        exact fits other (List.mem_cons_of_mem first known)
      rcases List.pairwise_cons.mp apart with ⟨firstApart, restApart⟩
      rcases List.mem_cons.mp known with rfl | rest
      · have written := slice_write_same firstFits
        rw [← written]
        exact slice_store_apart restFits firstApart
      · exact ih restFits restApart rest

end Record

end TrueForce.ByteBuffer
