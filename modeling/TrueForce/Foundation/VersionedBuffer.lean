import Mathlib.Algebra.Group.Nat.Defs
import Mathlib.Data.List.Basic
import Mathlib.Data.Nat.Notation
import Mathlib.Logic.Function.Basic
import Mathlib.Tactic.Common

/-!
# A shared buffer behind two version words

One party updates the buffer in place: it counts the first word up, stores every
byte behind the words, and counts the second word up.  Another copies the buffer
byte by byte in address order.  Every byte carries the number of the update that
stored it, so that a copy can be asked whether it is of one update; the numbers
are no part of what either party can see.
-/

namespace TrueForce.VersionedBuffer

/-- A byte and the update that stored it. -/
structure Cell where
  value : UInt8
  update : ℕ
deriving DecidableEq

/-- The two words come first. -/
def headerLength : ℕ := 8

/-- Byte `index` of a little-endian word. -/
def byteOfWord (word : UInt32) (index : ℕ) : UInt8 :=
  UInt8.ofNat (word.toNat / 2 ^ (8 * index))

structure Buffer where
  begun : UInt32
  ended : UInt32
  data : ℕ → Cell
  /-- The updates begun so far. -/
  updates : ℕ
  underway : Bool
  copied : List Cell

inductive Access where
  | beginUpdate
  | store (offset : ℕ) (value : UInt8)
  | endUpdate
  | copyByte
deriving DecidableEq

namespace Buffer

/-- What is read at an offset. -/
def cellAt (buffer : Buffer) (offset : ℕ) : Cell :=
  if offset < 4 then ⟨byteOfWord buffer.begun offset, buffer.updates⟩
  else if offset < headerLength then ⟨byteOfWord buffer.ended (offset - 4), buffer.updates⟩
  else buffer.data offset

/-- An access to a buffer of `size` bytes of which the first `length` are copied. -/
def access (size length : ℕ) (buffer : Buffer) : Access → Option Buffer
  | .beginUpdate =>
      if buffer.underway then none
      else some { buffer with
        begun := buffer.begun + 1, updates := buffer.updates + 1, underway := true }
  | .store offset value =>
      if buffer.underway ∧ headerLength ≤ offset ∧ offset < size then
        some { buffer with data := Function.update buffer.data offset ⟨value, buffer.updates⟩ }
      else none
  | .endUpdate =>
      if buffer.underway ∧ ∀ offset < size, headerLength ≤ offset →
          (buffer.data offset).update = buffer.updates then
        some { buffer with ended := buffer.ended + 1, underway := false }
      else none
  | .copyByte =>
      if buffer.copied.length < length then
        some { buffer with copied := buffer.copied ++ [buffer.cellAt buffer.copied.length] }
      else none

/-- The updates whose second word has been counted up. -/
def completed (buffer : Buffer) : ℕ :=
  if buffer.underway then buffer.updates - 1 else buffer.updates

/-- Every copied byte behind the words was stored by one update, and that one is over. -/
def OfOneUpdate (buffer : Buffer) : Prop :=
  ∃ update ≤ buffer.completed, ∀ offset cell, headerLength ≤ offset →
    buffer.copied[offset]? = some cell → cell.update = update

/-- No update stores ahead of a copy of the data, or has begun to when that copy starts. -/
def Undisturbed (size : ℕ) (buffer : Buffer) : Access → Prop
  | .store offset _ => headerLength < buffer.copied.length → offset < buffer.copied.length
  | .copyByte => buffer.copied.length = headerLength → buffer.underway = true →
      ∀ offset < size, headerLength ≤ offset → (buffer.data offset).update ≠ buffer.updates
  | _ => True

/-- Every byte is of the last update, or of the one before while the last is under way. -/
structure WellTagged (size : ℕ) (buffer : Buffer) : Prop where
  settled : buffer.underway = false → ∀ offset < size, headerLength ≤ offset →
    (buffer.data offset).update = buffer.updates
  changing : buffer.underway = true → 0 < buffer.updates ∧ ∀ offset < size,
    headerLength ≤ offset → (buffer.data offset).update = buffer.updates ∨
      (buffer.data offset).update + 1 = buffer.updates

/-- The copied data and the data still to be copied are of one completed update. -/
def OneUpdateAhead (size : ℕ) (buffer : Buffer) : Prop :=
  ∃ update ≤ buffer.completed,
    (∀ offset cell, headerLength ≤ offset → buffer.copied[offset]? = some cell →
      cell.update = update) ∧
    ∀ offset < size, headerLength ≤ offset → buffer.copied.length ≤ offset →
      (buffer.data offset).update = update

/-- The first copied byte of data is older than one copied, or yet to be copied, after it. -/
def Overtaken (length : ℕ) (buffer : Buffer) : Prop :=
  ∃ first offset, buffer.copied[headerLength]? = some first ∧ headerLength ≤ offset ∧
    offset < length ∧ first.update < ((buffer.copied[offset]?).getD (buffer.data offset)).update

variable {size length : ℕ} {buffer next : Buffer}

theorem OneUpdateAhead.ofOneUpdate (ahead : buffer.OneUpdateAhead size) : buffer.OfOneUpdate := by
  rcases ahead with ⟨update, completed, copied, -⟩
  exact ⟨update, completed, copied⟩

theorem WellTagged.access {event : Access} (tagged : buffer.WellTagged size)
    (stepped : buffer.access size length event = some next) : next.WellTagged size := by
  rcases tagged with ⟨settled, changing⟩
  cases event with
  | beginUpdate =>
      simp only [Buffer.access, Option.ite_none_left_eq_some, Bool.not_eq_true,
        Option.some.injEq] at stepped
      rcases stepped with ⟨idle, rfl⟩
      refine ⟨fun contra => absurd contra (by simp), fun _ => ⟨Nat.succ_pos _, ?_⟩⟩
      intro offset inside behind
      exact Or.inr (congrArg (· + 1) (settled idle offset inside behind))
  | store offset value =>
      simp only [Buffer.access, Option.ite_none_right_eq_some, Option.some.injEq] at stepped
      rcases stepped with ⟨⟨busy, -, -⟩, rfl⟩
      refine ⟨fun idle => absurd busy (by simp [show buffer.underway = false from idle]), ?_⟩
      intro _
      refine ⟨(changing busy).1, ?_⟩
      intro other inside behind
      by_cases same : other = offset
      · subst same
        simp only [Function.update_self, true_or]
      · simp only [Function.update_of_ne same]
        exact (changing busy).2 other inside behind
  | endUpdate =>
      simp only [Buffer.access, Option.ite_none_right_eq_some, Option.some.injEq] at stepped
      rcases stepped with ⟨⟨-, whole⟩, rfl⟩
      exact ⟨fun _ => whole, fun contra => absurd contra (by simp)⟩
  | copyByte =>
      simp only [Buffer.access, Option.ite_none_right_eq_some, Option.some.injEq] at stepped
      rcases stepped with ⟨-, rfl⟩
      exact ⟨settled, changing⟩

theorem getElem?_copied_append {copied : List Cell} {last cell : Cell} {offset : ℕ}
    (found : (copied ++ [last])[offset]? = some cell) :
    copied[offset]? = some cell ∨ offset = copied.length ∧ cell = last := by
  rcases Nat.lt_trichotomy offset copied.length with before | same | after
  · rw [List.getElem?_append_left before] at found
    exact Or.inl found
  · subst same
    simp only [List.getElem?_concat_length, Option.some.injEq] at found
    exact Or.inr ⟨rfl, found.symm⟩
  · rw [List.getElem?_eq_none (by simp; omega)] at found
    cases found

/-- Where no update has stored anything yet, all data is of the last completed one. -/
theorem WellTagged.data_completed (tagged : buffer.WellTagged size)
    (untouched : buffer.underway = true → ∀ offset < size, headerLength ≤ offset →
      (buffer.data offset).update ≠ buffer.updates) :
    ∀ offset < size, headerLength ≤ offset →
      (buffer.data offset).update = buffer.completed := by
  intro offset inside behind
  cases busy : buffer.underway with
  | false =>
      rw [tagged.settled busy offset inside behind, completed, busy]
      rfl
  | true =>
      have earlier := ((tagged.changing busy).2 offset inside behind).resolve_left
        (untouched busy offset inside behind)
      rw [completed, if_pos busy, ← earlier, Nat.add_sub_cancel]

/-- The copy of the first byte of data. -/
theorem OneUpdateAhead.start (tagged : buffer.WellTagged size) (fits : length ≤ size)
    (first : buffer.copied.length = headerLength)
    (undisturbed : buffer.Undisturbed size .copyByte)
    (stepped : buffer.access size length .copyByte = some next) : next.OneUpdateAhead size := by
  have whole := tagged.data_completed (undisturbed first)
  simp only [Buffer.access, Option.ite_none_right_eq_some, Option.some.injEq] at stepped
  rcases stepped with ⟨room, rfl⟩
  refine ⟨buffer.completed, Nat.le_refl _, ?_, ?_⟩
  · intro offset cell behind found
    rcases getElem?_copied_append found with old | ⟨here, rfl⟩
    · have inside := (List.getElem?_eq_some_iff.mp old).1
      omega
    · rw [cellAt, if_neg (by rw [first, headerLength]; omega), if_neg (by omega)]
      exact whole _ (by omega) (by omega)
  · intro offset inside behind _
    exact whole offset inside behind

theorem OneUpdateAhead.access {event : Access} (ahead : buffer.OneUpdateAhead size)
    (fits : length ≤ size) (reading : headerLength < buffer.copied.length)
    (undisturbed : buffer.Undisturbed size event)
    (stepped : buffer.access size length event = some next) : next.OneUpdateAhead size := by
  rcases ahead with ⟨update, completed, copied, rest⟩
  cases event with
  | beginUpdate =>
      simp only [Buffer.access, Option.ite_none_left_eq_some, Bool.not_eq_true,
        Option.some.injEq] at stepped
      rcases stepped with ⟨idle, rfl⟩
      simp only [Buffer.completed, idle, Bool.false_eq_true, if_false] at completed
      exact ⟨update, by simpa [Buffer.completed] using completed, copied, rest⟩
  | store offset value =>
      simp only [Buffer.access, Option.ite_none_right_eq_some, Option.some.injEq] at stepped
      rcases stepped with ⟨-, rfl⟩
      refine ⟨update, completed, copied, ?_⟩
      intro other inside behind uncopied
      have apart : other ≠ offset := by
        have behindCopy := undisturbed reading
        simp only at uncopied
        omega
      simp only [Function.update_of_ne apart]
      exact rest other inside behind uncopied
  | endUpdate =>
      simp only [Buffer.access, Option.ite_none_right_eq_some, Option.some.injEq] at stepped
      rcases stepped with ⟨⟨busy, -⟩, rfl⟩
      simp only [Buffer.completed, busy, if_true] at completed
      refine ⟨update, ?_, copied, rest⟩
      simp only [Buffer.completed, Bool.false_eq_true, if_false]
      omega
  | copyByte =>
      simp only [Buffer.access, Option.ite_none_right_eq_some, Option.some.injEq] at stepped
      rcases stepped with ⟨room, rfl⟩
      refine ⟨update, completed, ?_, ?_⟩
      · intro offset cell behind found
        rcases getElem?_copied_append found with old | ⟨here, rfl⟩
        · exact copied offset cell behind old
        · simp only [headerLength] at reading
          rw [cellAt, if_neg (by omega), if_neg (by simp only [headerLength]; omega)]
          exact rest _ (by omega) (by simp only [headerLength]; omega) (Nat.le_refl _)
      · intro offset inside behind uncopied
        simp only [List.length_append, List.length_singleton] at uncopied
        exact rest offset inside behind (by omega)

theorem Overtaken.access {event : Access} (overtaken : buffer.Overtaken length)
    (tagged : buffer.WellTagged size) (fits : length ≤ size)
    (stepped : buffer.access size length event = some next) : next.Overtaken length := by
  rcases overtaken with ⟨first, offset, opening, behind, inside, older⟩
  cases event with
  | beginUpdate =>
      simp only [Buffer.access, Option.ite_none_left_eq_some, Option.some.injEq] at stepped
      rcases stepped with ⟨-, rfl⟩
      exact ⟨first, offset, opening, behind, inside, older⟩
  | store target value =>
      simp only [Buffer.access, Option.ite_none_right_eq_some, Option.some.injEq] at stepped
      rcases stepped with ⟨⟨busy, -, -⟩, rfl⟩
      refine ⟨first, offset, opening, behind, inside, ?_⟩
      by_cases same : offset = target
      · subst same
        cases found : buffer.copied[offset]? with
        | some cell => simpa [found] using older
        | none =>
            have latest := (tagged.changing busy).2 offset (by omega) behind
            simp only [found, Option.getD_none] at older
            simp only [Option.getD_none, Function.update_self]
            omega
      · simpa only [Function.update_of_ne same] using older
  | endUpdate =>
      simp only [Buffer.access, Option.ite_none_right_eq_some, Option.some.injEq] at stepped
      rcases stepped with ⟨-, rfl⟩
      exact ⟨first, offset, opening, behind, inside, older⟩
  | copyByte =>
      simp only [Buffer.access, Option.ite_none_right_eq_some, Option.some.injEq] at stepped
      rcases stepped with ⟨-, rfl⟩
      have reading : headerLength < buffer.copied.length :=
        (List.getElem?_eq_some_iff.mp opening).1
      refine ⟨first, offset, ?_, behind, inside, ?_⟩
      · simpa only [List.getElem?_append_left reading] using opening
      · rcases Nat.lt_trichotomy offset buffer.copied.length with before | here | after
        · simpa only [List.getElem?_append_left before] using older
        · subst here
          simp only [headerLength] at behind
          simpa [cellAt, headerLength, Nat.not_lt.mpr behind,
            Nat.not_lt.mpr (Nat.le_trans (by decide : 4 ≤ 8) behind)] using older
        · rw [List.getElem?_eq_none (Nat.le_of_lt after)] at older
          rwa [List.getElem?_eq_none (by simp; omega)]

/-- A store ahead of the copy of the data overtakes it. -/
theorem OneUpdateAhead.store_ahead {offset : ℕ} {value : UInt8}
    (ahead : buffer.OneUpdateAhead size) (tagged : buffer.WellTagged size)
    (reading : headerLength < buffer.copied.length)
    (uncopied : buffer.copied.length ≤ offset) (inside : offset < length)
    (stepped : buffer.access size length (.store offset value) = some next) :
    next.Overtaken length := by
  rcases ahead with ⟨update, completed, copied, -⟩
  simp only [Buffer.access, Option.ite_none_right_eq_some, Option.some.injEq] at stepped
  rcases stepped with ⟨⟨busy, behind, -⟩, rfl⟩
  have opening := List.getElem?_eq_getElem reading
  have source := copied headerLength _ (Nat.le_refl _) opening
  have begun := (tagged.changing busy).1
  simp only [Buffer.completed, busy, if_true] at completed
  refine ⟨_, offset, opening, behind, inside, ?_⟩
  rw [List.getElem?_eq_none uncopied, Option.getD_none, source]
  simp only [Function.update_self]
  omega

/-- A finished copy that was overtaken mixes two updates. -/
theorem Overtaken.not_ofOneUpdate (overtaken : buffer.Overtaken length)
    (finished : length ≤ buffer.copied.length) : ¬buffer.OfOneUpdate := by
  rintro ⟨update, -, copied⟩
  rcases overtaken with ⟨first, offset, opening, behind, inside, older⟩
  have last := List.getElem?_eq_getElem (Nat.lt_of_lt_of_le inside finished)
  rw [last, Option.getD_some, copied headerLength first (Nat.le_refl _) opening,
    copied offset _ behind last] at older
  exact Nat.lt_irrefl _ older

end Buffer

end TrueForce.VersionedBuffer
