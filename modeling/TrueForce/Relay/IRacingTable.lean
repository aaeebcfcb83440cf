import TrueForce.Foundation.KeyedTable
import TrueForce.Relay.IRacing
import Mathlib.Data.Int.ConditionallyCompleteOrder
import Mathlib.Data.List.MinMax
import Mathlib.Order.ConditionallyCompleteLattice.Basic

/-!
# Decoding by the game's own table

What is found under the wanted names depends on the entries of the table and not on
their order, and the buffer that is read is the newest of those that lie inside.
-/

namespace TrueForce.Relay.IRacing

open Binary64 (F64)
open RustText (Text utf8)
open RFactor2 (Bytes RelayTelemetry slice i32At f64At u32At)

variable {map : Bytes} {entry off count : ℕ}

def entryAt (map : Bytes) (entry : ℕ) : Bytes := (map.drop entry).take varheaderLen

def nameOf (entry : Bytes) : Option Bytes := nameAt entry varheaderNameOff

/-- Type and offset of an entry, unless the offset is negative. -/
def varOf (entry : Bytes) : Option Var :=
  match i32At entry 0, i32At entry 4 with
  | some varType, some offset =>
      if offset < 0 then none else some { varType, offset := offset.toNat }
  | _, _ => none

/-- The entries up to the first that does not fit. -/
def entriesFrom (map : Bytes) (tableOff : ℕ) : ℕ → ℕ → List Bytes
  | 0, _ => []
  | remaining + 1, i =>
      let entry := tableOff + i * varheaderLen
      if map.length < entry + varheaderLen then []
      else entryAt map entry :: entriesFrom map tableOff remaining (i + 1)

def table (map : Bytes) : List Bytes :=
  match i32At map 24, i32At map 28 with
  | some numVars, some tableOff =>
      if numVars ≤ 0 ∨ tableOff < 0 then []
      else entriesFrom map tableOff.toNat numVars.toNat 0
  | _, _ => []

/-- What the table says of a name. -/
def declared (map : Bytes) (want : Text) : Option Var :=
  KeyedTable.last nameOf varOf (some (utf8 want)) (table map)

theorem slice_entryAt (fits : entry + varheaderLen ≤ map.length) (inside : off + count ≤ 144) :
    slice (entryAt map entry) off count = slice map (entry + off) count := by
  have entryFits : entry + 144 ≤ map.length := fits
  have long : (entryAt map entry).length = 144 := by
    simp only [entryAt, varheaderLen, List.length_take, List.length_drop]
    omega
  rw [slice, slice, if_pos (by omega), if_pos (by omega), Option.some.injEq, entryAt,
    varheaderLen, List.drop_take, List.drop_drop, List.take_take, Nat.min_eq_left (by omega)]

theorem i32At_entryAt (fits : entry + varheaderLen ≤ map.length) (inside : off + 4 ≤ 144) :
    i32At (entryAt map entry) off = i32At map (entry + off) := by
  rw [i32At, i32At, slice_entryAt fits inside]

theorem nameOf_entryAt (fits : entry + varheaderLen ≤ map.length) :
    nameOf (entryAt map entry) = nameAt map (entry + varheaderNameOff) := by
  rw [nameOf, nameAt, nameAt, slice_entryAt fits (by decide)]

/-- The names that are looked for are told apart by their bytes. -/
def Distinct (wanted : List Text) : Prop := (wanted.map utf8).Nodup

/-- A slot that is set is that of the one name. -/
theorem set_map {wanted : List Text} {slot : ℕ} {name : Bytes} (distinct : Distinct wanted)
    (found : wanted.findIdx? (fun want => utf8 want = name) = some slot)
    (slots : Text → Option Var) (var : Var) :
    (wanted.map slots).set slot (some var) =
      wanted.map fun want => if utf8 want = name then some var else slots want := by
  obtain ⟨inside, same, -⟩ := List.findIdx?_eq_some_iff_getElem.mp found
  simp only [decide_eq_true_eq] at same
  apply List.ext_getElem
  · simp
  · intro index lower upper
    have indexInside : index < wanted.length := by simpa using upper
    simp only [List.getElem_set, List.getElem_map]
    by_cases equal : slot = index
    · subst equal
      simp [same]
    · have apart : utf8 wanted[index] ≠ name := by
        intro again
        have slotNamed : slot < (wanted.map utf8).length := by simpa using inside
        have indexNamed : index < (wanted.map utf8).length := by simpa using indexInside
        have named : (wanted.map utf8)[slot] = (wanted.map utf8)[index] := by
          simp [same, again]
        exact equal ((List.Nodup.getElem_inj_iff distinct).mp named)
      simp [equal, apart]

theorem enter_map {wanted : List Text} (distinct : Distinct wanted)
    (fits : entry + varheaderLen ≤ map.length) (slots : Text → Option Var) :
    enter map wanted (wanted.map slots) entry =
      wanted.map fun want => KeyedTable.readEntry nameOf varOf (some (utf8 want)) (slots want)
        (entryAt map entry) := by
  have typeAt := i32At_entryAt fits (by decide : 0 + 4 ≤ 144)
  have offsetAt := i32At_entryAt fits (by decide : 4 + 4 ≤ 144)
  rw [Nat.add_zero] at typeAt
  rw [enter, ← nameOf_entryAt fits, ← typeAt, ← offsetAt]
  generalize entryAt map entry = bytes
  cases named : nameOf bytes with
  | none => simp [KeyedTable.readEntry, named]
  | some name =>
      simp only [KeyedTable.readEntry, named, Option.some.injEq, eq_comm (a := name)]
      cases found : wanted.findIdx? fun want => utf8 want = name with
      | none =>
          have other : ∀ want ∈ wanted, utf8 want ≠ name := by
            simpa using List.findIdx?_eq_none_iff.mp found
          exact List.map_congr_left fun want member => (if_neg (other want member)).symm
      | some slot =>
          simp only [varOf]
          cases i32At bytes 0 with
          | none => simp
          | some varType =>
              cases i32At bytes 4 with
              | none => simp
              | some offset =>
                  by_cases negative : offset < 0
                  · simp [negative]
                  · simp only [negative, ↓reduceIte, set_map distinct found]
                    apply List.map_congr_left
                    intro want _
                    split <;> simp

theorem walk_map {wanted : List Text} (distinct : Distinct wanted) (tableOff : ℕ)
    (remaining i : ℕ) (slots : Text → Option Var) :
    walk map wanted tableOff remaining i (wanted.map slots) =
      wanted.map fun want => (entriesFrom map tableOff remaining i).foldl
        (KeyedTable.readEntry nameOf varOf (some (utf8 want))) (slots want) := by
  induction remaining generalizing i slots with
  | zero => rfl
  | succ remaining ih =>
      simp only [walk, entriesFrom]
      by_cases short : map.length < tableOff + i * varheaderLen + varheaderLen
      · simp [short]
      · simp only [short, ↓reduceIte, enter_map distinct (Nat.le_of_not_lt short), ih,
          List.foldl_cons]

theorem findVars_eq {wanted : List Text} (distinct : Distinct wanted) :
    findVars map wanted = wanted.map (declared map) := by
  have start : List.replicate wanted.length (none : Option Var) = wanted.map fun _ => none := by
    simp
  change _ = wanted.map fun want => KeyedTable.last nameOf varOf (some (utf8 want)) (table map)
  simp only [findVars, table, start]
  cases i32At map 24 with
  | none => rfl
  | some numVars =>
      cases i32At map 28 with
      | none => rfl
      | some tableOff =>
          by_cases corrupt : numVars ≤ 0 ∨ tableOff < 0
          · simp [corrupt]
          · simp only [corrupt, ↓reduceIte, walk_map distinct]
            rfl

theorem distinct_wanted : Distinct wanted := by
  rw [Distinct]
  decide

/-- The bytes of the newest buffer. -/
def newest (map : Bytes) : Option Bytes :=
  (newestBuffer map).bind fun buffer => slice map buffer.1 buffer.2

theorem decode_bind (map : Bytes) :
    decode map =
      if map.length < headerLen then none
      else (i32At map 4).bind fun status =>
        if status % 2 = 0 then none
        else (newest map).bind (sampleOf (findVars map wanted)) := by
  simp only [decode, newest, guard]
  by_cases short : map.length < headerLen
  · rw [if_pos short, if_neg (Nat.not_le.mpr short)]
    rfl
  · rw [if_neg short, if_pos (Nat.le_of_not_lt short)]
    cases i32At map 4 with
    | none => rfl
    | some status =>
        simp only [Option.bind_eq_bind, Option.bind_some, Option.pure_def]
        by_cases off : status % 2 = 0
        · rw [if_pos off, if_neg (not_not.mpr off)]
          rfl
        · rw [if_neg off, if_pos off, Option.bind_some, Option.bind_assoc]

theorem decode_eq (map : Bytes) :
    decode map =
      if map.length < headerLen then none
      else (i32At map 4).bind fun status =>
        if status % 2 = 0 then none
        else (newest map).bind (sampleOf (wanted.map (declared map))) := by
  rw [decode_bind, findVars_eq distinct_wanted]

/-- The other mapping is connected alike and has the same newest buffer, and its table is that of the
first in another order, with entries that are not wanted. -/
structure Retabled (map other : Bytes) : Prop where
  long : headerLen ≤ map.length ∧ headerLen ≤ other.length
  status : i32At other 4 = i32At map 4
  buffer : newest other = newest map
  distinct : ((table map).map nameOf).Nodup
  entries : ∃ extra, (table other).Perm (table map ++ extra) ∧
    ∀ entry ∈ extra, ∀ want ∈ wanted, nameOf entry ≠ some (utf8 want)

theorem Retabled.decode_eq {other : Bytes} (retabled : Retabled map other) :
    decode other = decode map := by
  have slots : wanted.map (declared other) = wanted.map (declared map) := by
    obtain ⟨extra, reordered, unwanted⟩ := retabled.entries
    apply List.map_congr_left
    intro want member
    exact KeyedTable.last_of_perm_append retabled.distinct reordered
      fun entry present => unwanted entry present want member
  rw [IRacing.decode_eq, IRacing.decode_eq, if_neg (Nat.not_lt.mpr retabled.long.1),
    if_neg (Nat.not_lt.mpr retabled.long.2), retabled.status, retabled.buffer, slots]

/-- Tick and offset of a buffer that lies inside the mapping. -/
def bufferAt (map : Bytes) (bufLen i : ℕ) : Option (ℤ × ℕ) :=
  match i32At map (48 + i * varbufLen), i32At map (48 + i * varbufLen + 4) with
  | some tick, some off =>
      if off < 0 ∨ map.length < off.toNat + bufLen then none else some (tick, off.toNat)
  | _, _ => none

/-- The buffers inside the mapping, of the first four at most. -/
def buffers (map : Bytes) (numBuf : ℤ) (bufLen : ℕ) : List (ℤ × ℕ) :=
  (List.range (max 0 (min maxBufs numBuf)).toNat).filterMap (bufferAt map bufLen)

theorem consider_of_none {bufLen i : ℕ} (outside : bufferAt map bufLen i = none)
    (best : Option (ℤ × ℕ)) : consider map bufLen best i = best := by
  simp only [bufferAt] at outside
  simp only [consider]
  split
  · next tick off tickAt offAt =>
      simp only [tickAt, offAt, ite_eq_left_iff, reduceCtorEq, imp_false, not_not] at outside
      rcases outside with negative | beyond
      · simp [negative]
      · simp [beyond]
  · rfl

theorem consider_of_some {bufLen i : ℕ} {buffer : ℤ × ℕ}
    (inside : bufferAt map bufLen i = some buffer) (entries : List (ℤ × ℕ)) :
    consider map bufLen (entries.argmax Prod.fst) i = (entries ++ [buffer]).argmax Prod.fst := by
  simp only [bufferAt] at inside
  rw [List.argmax_concat]
  simp only [consider]
  cases tickAt : i32At map (48 + i * varbufLen) with
  | none => simp [tickAt] at inside
  | some tick =>
      cases offAt : i32At map (48 + i * varbufLen + 4) with
      | none => simp [tickAt, offAt] at inside
      | some off =>
          simp only [tickAt, offAt, Option.ite_none_left_eq_some, not_or, Option.some.injEq]
            at inside
          obtain ⟨⟨nonneg, fits⟩, rfl⟩ := inside
          simp only [nonneg, fits, ↓reduceIte]
          cases entries.argmax Prod.fst <;> rfl

theorem foldl_consider (bufLen count : ℕ) :
    (List.range count).foldl (consider map bufLen) none =
      ((List.range count).filterMap (bufferAt map bufLen)).argmax Prod.fst := by
  induction count with
  | zero => rfl
  | succ count ih =>
      rw [List.range_succ, List.foldl_concat, ih, List.filterMap_append]
      cases inside : bufferAt map bufLen count with
      | none =>
          rw [consider_of_none inside, List.filterMap_cons_none inside, List.filterMap_nil,
            List.append_nil]
      | some buffer =>
          rw [consider_of_some inside, List.filterMap_cons_some inside, List.filterMap_nil]

theorem newestBuffer_eq (map : Bytes) :
    newestBuffer map = (i32At map 32).bind fun numBuf => (i32At map 36).bind fun bufLen =>
      if bufLen ≤ 0 then none
      else ((buffers map numBuf bufLen.toNat).argmax Prod.fst).map fun best =>
        (best.2, bufLen.toNat) := by
  simp only [newestBuffer, foldl_consider, buffers]
  cases i32At map 32 with
  | none => rfl
  | some numBuf =>
      cases i32At map 36 with
      | none => rfl
      | some bufLen =>
          by_cases empty : bufLen ≤ 0
          · simp [empty]
          · by_cases zero : (max 0 (min maxBufs numBuf)).toNat = 0
            · simp [guard, zero, empty]
            · simp only [guard, Option.bind_eq_bind, Option.bind_some, Option.pure_def, zero, empty,
                or_self, not_false_eq_true, ↓reduceIte, Option.map_eq_bind]
              rfl

/-- The element that the greatest value is first met at. -/
theorem exists_split_of_argmax {α : Type} {value : α → ℤ} {list : List α} {best : α}
    (found : list.argmax value = some best) :
    ∃ before after, list = before ++ best :: after ∧
      (∀ other ∈ before, value other < value best) ∧
      ∀ other ∈ after, value other ≤ value best := by
  induction list using List.reverseRecOn generalizing best with
  | nil => simp at found
  | append_singleton list last ih =>
      rw [List.argmax_concat] at found
      cases earlier : list.argmax value with
      | none =>
          rw [earlier] at found
          rw [List.argmax_eq_none.mp earlier]
          exact ⟨[], [], by simpa using found, by simp, by simp⟩
      | some first =>
          obtain ⟨before, after, parts, less, atMost⟩ := ih earlier
          simp only [earlier] at found
          split at found
          · next later =>
              obtain rfl := Option.some.inj found
              refine ⟨list, [], rfl, ?_, by simp⟩
              intro other member
              exact Int.lt_of_le_of_lt (List.le_of_mem_argmax member earlier) later
          · next notLater =>
              obtain rfl := Option.some.inj found
              refine ⟨before, after ++ [last], by simp [parts], less, ?_⟩
              intro other member
              rcases List.mem_append.mp member with member | member
              · exact atMost other member
              · rw [List.mem_singleton.mp member]
                exact Int.not_lt.mp notLater

/-- Offset and length of the first of the buffers inside the mapping whose tick is the greatest. -/
def IsNewest (map : Bytes) (off len : ℕ) : Prop :=
  ∃ numBuf, i32At map 32 = some numBuf ∧ i32At map 36 = some (len : ℤ) ∧ 0 < len ∧
    ∃ tick older newer, buffers map numBuf len = older ++ (tick, off) :: newer ∧
      (∀ buffer ∈ older, buffer.1 < tick) ∧ ∀ buffer ∈ newer, buffer.1 ≤ tick

theorem isNewest_of_newestBuffer {len : ℕ} (found : newestBuffer map = some (off, len)) :
    IsNewest map off len := by
  simp only [newestBuffer_eq, Option.bind_eq_some_iff, Option.ite_none_left_eq_some,
    Option.map_eq_some_iff, Prod.mk.injEq] at found
  obtain ⟨numBuf, count, bufLen, length, positive, best, greatest, rfl, rfl⟩ := found
  have back : ((bufLen.toNat : ℕ) : ℤ) = bufLen := by omega
  obtain ⟨older, newer, parts, less, atMost⟩ := exists_split_of_argmax greatest
  exact ⟨numBuf, count, by rw [back]; exact length, by omega, best.1, older, newer, parts, less,
    atMost⟩

/-- Every buffer considered is one of the first `numBuf`, and lies inside. -/
theorem mem_buffers {numBuf tick : ℤ} {len : ℕ}
    (member : (tick, off) ∈ buffers map numBuf len) :
    ∃ i : ℕ, (i : ℤ) < min maxBufs numBuf ∧ i32At map (48 + i * varbufLen) = some tick ∧
      i32At map (48 + i * varbufLen + 4) = some (off : ℤ) ∧ off + len ≤ map.length := by
  obtain ⟨i, inRange, found⟩ := List.mem_filterMap.mp member
  refine ⟨i, by have := List.mem_range.mp inRange; omega, ?_⟩
  simp only [bufferAt] at found
  split at found
  · next tickRead offRead tickAt offAt =>
      simp only [Option.ite_none_left_eq_some, not_or, Option.some.injEq, Prod.mk.injEq] at found
      obtain ⟨⟨nonneg, fits⟩, rfl, rfl⟩ := found
      exact ⟨tickAt, by rw [offAt]; congr 1; omega, by omega⟩
  · cases found

/-- The bytes that a value of the type takes. -/
def Var.size (var : Var) : ℕ :=
  if var.varType = varTypeDouble then 8 else if var.varType = varTypeBool then 1 else 4

/-- The value of a variable where all its bytes are in the buffer at `off`. -/
def valueIn (map : Bytes) (off len : ℕ) (var : Var) : Option F64 :=
  if var.offset + var.size ≤ len then readVar map { var with offset := off + var.offset } else none

theorem slice_slice {len inner : ℕ} {buf : Bytes} (read : slice map off len = some buf) :
    slice buf inner count =
      if inner + count ≤ len then slice map (off + inner) count else none := by
  simp only [slice, Option.ite_none_right_eq_some, Option.some.injEq] at read
  obtain ⟨fits, rfl⟩ := read
  have long : ((map.drop off).take len).length = len := by
    rw [List.length_take, List.length_drop]
    omega
  rw [slice, slice, long]
  by_cases inside : inner + count ≤ len
  · rw [if_pos inside, if_pos inside, if_pos (by omega), List.drop_take, List.drop_drop,
      List.take_take, Nat.min_eq_left (by omega)]
  · rw [if_neg inside, if_neg inside]

theorem getElem?_slice {len inner : ℕ} {buf : Bytes} (read : slice map off len = some buf) :
    buf[inner]? = if inner + 1 ≤ len then map[off + inner]? else none := by
  simp only [slice, Option.ite_none_right_eq_some, Option.some.injEq] at read
  obtain ⟨fits, rfl⟩ := read
  by_cases inside : inner + 1 ≤ len
  · rw [if_pos inside, List.getElem?_take_of_lt inside, List.getElem?_drop]
  · rw [if_neg inside, List.getElem?_take_eq_none (by omega)]

/-- No value is read outside the buffer. -/
theorem readVar_slice {len : ℕ} {buf : Bytes} (read : slice map off len = some buf) (var : Var) :
    readVar buf var = valueIn map off len var := by
  simp only [readVar, valueIn, Var.size, f32At, u32At, i32At, f64At, slice_slice read,
    getElem?_slice read, varTypeFloat, varTypeDouble, varTypeInt, varTypeBool]
  split
  · next float =>
      simp only [float, Int.reduceEq, ↓reduceIte]
      split <;> rfl
  · split
    · next double =>
        simp only [double, Int.reduceEq, ↓reduceIte]
        split <;> rfl
    · split
      · next int =>
          simp only [int, Int.reduceEq, ↓reduceIte]
          split <;> rfl
      · split
        · next bool =>
            simp only [bool, Int.reduceEq, ↓reduceIte]
            split <;> rfl
        · next float double int bool => simp [float, double, int, bool]

theorem inside_of_isNewest {len : ℕ} (newest : IsNewest map off len) : off + len ≤ map.length := by
  obtain ⟨numBuf, -, -, -, tick, older, newer, parts, -⟩ := newest
  obtain ⟨i, -, -, -, fits⟩ := mem_buffers (parts ▸ by simp : (tick, off) ∈ buffers map numBuf len)
  exact fits

/-- A sample is made of the values that the table places in the newest buffer. -/
def MadeOf (map : Bytes) (off len : ℕ) (sample : RelayTelemetry) : Prop :=
  let valueOf (name : String) : Option F64 :=
    (declared map name.toList).bind (valueIn map off len)
  ∃ rpm throttle gear redline,
    valueOf "RPM" = some rpm ∧ valueOf "Throttle" = some throttle ∧ valueOf "Gear" = some gear ∧
    valueOf "PlayerCarSLBlinkRPM" = some redline ∧
    sample.rpm = Binary64.toF32 rpm ∧ sample.maxRpm = Binary64.toF32 redline ∧
    sample.throttle = Binary32.clamp Binary32.zero Binary32.one (Binary64.toF32 throttle) ∧
    sample.gear = max (-32768) (min 32767 (Binary64.toI32 gear)) ∧
    sample.speed =
      (let speed := (valueOf "Speed").elim Binary32.zero Binary64.toF32
      if Binary32.isFinite speed then Binary32.max speed Binary32.zero else Binary32.zero) ∧
    sample.brake =
      (let brake := (valueOf "Brake").elim Binary32.zero Binary64.toF32
      if Binary32.isFinite brake then Binary32.clamp Binary32.zero Binary32.one brake
      else Binary32.zero)

theorem decode_madeOf {sample : RelayTelemetry} (decoded : decode map = some sample) :
    ∃ off len, IsNewest map off len ∧ MadeOf map off len sample := by
  rw [decode_eq] at decoded
  simp only [Option.ite_none_left_eq_some, Option.bind_eq_some_iff, newest] at decoded
  obtain ⟨-, status, -, -, buf, ⟨⟨off, len⟩, found, read⟩, sampled⟩ := decoded
  refine ⟨off, len, isNewest_of_newestBuffer found, ?_⟩
  have values : readVar buf = valueIn map off len := funext (readVar_slice read)
  simp only [sampleOf, wanted, values, List.map_cons, List.map_nil, List.getD_cons_zero,
    List.getD_cons_succ, Option.bind_eq_bind, Option.bind_eq_some_iff, guard] at sampled
  obtain ⟨rpmVar, rpmAt, throttleVar, throttleAt, gearVar, gearAt, rpm, rpmRead, throttle,
    throttleRead, gear, gearRead, redline, ⟨redlineVar, redlineAt, redlineRead⟩, -, -, -, -,
    same⟩ := sampled
  obtain rfl := Option.some.inj same
  refine ⟨rpm, throttle, gear, redline, ?_, ?_, ?_, ?_, rfl, rfl, rfl, rfl, rfl, rfl⟩
  · exact Option.bind_eq_some_iff.mpr ⟨rpmVar, rpmAt, rpmRead⟩
  · exact Option.bind_eq_some_iff.mpr ⟨throttleVar, throttleAt, throttleRead⟩
  · exact Option.bind_eq_some_iff.mpr ⟨gearVar, gearAt, gearRead⟩
  · exact Option.bind_eq_some_iff.mpr ⟨redlineVar, redlineAt, redlineRead⟩

section InPlace

variable {other : Bytes}

/-- The bytes that change when a table of `before` entries becomes one of `after`: the table, and the
count of variables if it is another one. -/
def Changes (tableOff before after i : ℕ) : Prop :=
  tableOff ≤ i ∧ i < tableOff + after * varheaderLen ∨ before ≠ after ∧ 24 ≤ i ∧ i < 28

/-- The table of the mapping lies inside it, behind the header and apart from the newest buffer, and
has distinct names; in the other mapping its entries are in any order, with some behind them whose
names are not wanted. -/
structure RewrittenInPlace (map other : Bytes) (tableOff before after : ℕ) : Prop where
  length : other.length = map.length
  behind : headerLen ≤ tableOff
  inside : tableOff + after * varheaderLen ≤ map.length
  offset : i32At map 28 = some (tableOff : ℤ)
  countBefore : i32At map 24 = some (before : ℤ)
  countAfter : i32At other 24 = some (after : ℤ)
  elsewhere : ∀ i, ¬Changes tableOff before after i → other[i]? = map[i]?
  apart : ∀ off len, newestBuffer map = some (off, len) →
    ∀ i, off ≤ i → i < off + len → ¬Changes tableOff before after i
  distinct : ((table map).map nameOf).Nodup
  entries : ∃ extra, (table other).Perm (table map ++ extra) ∧
    ∀ entry ∈ extra, ∀ want ∈ wanted, nameOf entry ≠ some (utf8 want)

theorem slice_congr (length : other.length = map.length)
    (same : ∀ i, off ≤ i → i < off + count → other[i]? = map[i]?) :
    slice other off count = slice map off count := by
  rw [slice, slice, length]
  by_cases fits : off + count ≤ map.length
  · rw [if_pos fits, if_pos fits, Option.some.injEq]
    apply List.ext_getElem?
    intro i
    by_cases inside : i < count
    · rw [List.getElem?_take_of_lt inside, List.getElem?_take_of_lt inside, List.getElem?_drop,
        List.getElem?_drop, same (off + i) (by omega) (by omega)]
    · rw [List.getElem?_take_eq_none (by omega), List.getElem?_take_eq_none (by omega)]
  · rw [if_neg fits, if_neg fits]

theorem i32At_congr (length : other.length = map.length)
    (same : ∀ i, off ≤ i → i < off + 4 → other[i]? = map[i]?) :
    i32At other off = i32At map off := by
  rw [i32At, i32At, slice_congr length same]

namespace RewrittenInPlace

variable {tableOff before after : ℕ}

theorem header (rewritten : RewrittenInPlace map other tableOff before after) (off : ℕ)
    (inHeader : 28 ≤ off ∧ off + 4 ≤ headerLen ∨ off + 4 ≤ 24) :
    i32At other off = i32At map off := by
  have behind := rewritten.behind
  simp only [headerLen] at behind inHeader
  apply i32At_congr rewritten.length
  intro i above below
  apply rewritten.elsewhere
  simp only [Changes]
  omega

theorem bufferAt_eq (rewritten : RewrittenInPlace map other tableOff before after) {i : ℕ}
    (few : i < 4) (bufLen : ℕ) : bufferAt other bufLen i = bufferAt map bufLen i := by
  have tick := rewritten.header (48 + i * varbufLen) (by simp only [headerLen, varbufLen]; omega)
  have offset := rewritten.header (48 + i * varbufLen + 4)
    (by simp only [headerLen, varbufLen]; omega)
  simp only [bufferAt, tick, offset, rewritten.length]

theorem newestBuffer_eq (rewritten : RewrittenInPlace map other tableOff before after) :
    newestBuffer other = newestBuffer map := by
  have buffers_eq (numBuf : ℤ) (bufLen : ℕ) :
      buffers other numBuf bufLen = buffers map numBuf bufLen := by
    apply List.filterMap_congr
    intro i inRange
    apply rewritten.bufferAt_eq
    have := List.mem_range.mp inRange
    simp only [maxBufs] at this
    omega
  rw [IRacing.newestBuffer_eq, IRacing.newestBuffer_eq, rewritten.header 32 (by decide),
    rewritten.header 36 (by decide)]
  simp only [buffers_eq]

theorem retabled (rewritten : RewrittenInPlace map other tableOff before after) :
    Retabled map other where
  long := by
    have inside := rewritten.inside
    have behind := rewritten.behind
    rw [rewritten.length]
    omega
  status := rewritten.header 4 (by decide)
  buffer := by
    rw [newest, newest, rewritten.newestBuffer_eq]
    cases found : newestBuffer map with
    | none => rfl
    | some buffer =>
        apply slice_congr rewritten.length
        intro i above below
        exact rewritten.elsewhere i (rewritten.apart buffer.1 buffer.2 found i above below)
  distinct := rewritten.distinct
  entries := rewritten.entries

end RewrittenInPlace

end InPlace

end TrueForce.Relay.IRacing
