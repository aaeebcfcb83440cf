import TrueForce.Foundation.ByteBuffer
import TrueForce.Foundation.CheckedInt
import TrueForce.Relay.IRacingTable
import Mathlib.Data.List.ReduceOption

/-!
# The iRacing decoder on any bytes

The decoder is written once more with every sum and product checked against the range
of a `usize` and every index against what it indexes.  It comes to the same on every
byte string: no operation leaves its range.
-/

namespace TrueForce.Relay.IRacing

open Binary64 (F64)
open CInt (fit)
open RustText (Text utf8)
open RFactor2 (Bytes RelayTelemetry slice i32At f64At u32At)

namespace Checked

/-- A sum of two `usize`. -/
def add (a b : ℕ) : Option ℕ := (fit .u64 ((a : ℤ) + b)).map Int.toNat

def mul (a b : ℕ) : Option ℕ := (fit .u64 ((a : ℤ) * b)).map Int.toNat

/-- A value read from `size` bytes at `off`, whose end is computed first. -/
def get {α : Type} (read : Bytes → ℕ → Option α) (size : ℕ) (buf : Bytes) (off : ℕ) :
    Option (Option α) :=
  (add off size).map fun _ => read buf off

/-- The slice up to the NUL is indexed and must not end behind the field. -/
def nameAt (buf : Bytes) (off : ℕ) : Option (Option Bytes) := do
  match ← get (fun buf off => slice buf off varheaderNameLen) varheaderNameLen buf off with
  | none => some none
  | some raw =>
      let stop := raw.findIdx (· = 0)
      if stop ≤ raw.length then some (some (raw.take stop)) else none

def enter (map : Bytes) (wanted : List Text) (found : List (Option Var)) (entry : ℕ) :
    Option (List (Option Var)) := do
  match ← nameAt map (← add entry varheaderNameOff) with
  | none => some found
  | some name =>
      match wanted.findIdx? fun want => utf8 want = name with
      | none => some found
      | some slot =>
          match ← get i32At 4 map entry, ← get i32At 4 map (← add entry 4) with
          | some varType, some offset =>
              if offset < 0 then some found
              else if slot < found.length then
                some (found.set slot (some { varType, offset := offset.toNat }))
              else none
          | _, _ => some found

def walk (map : Bytes) (wanted : List Text) (tableOff : ℕ) :
    ℕ → ℕ → List (Option Var) → Option (List (Option Var))
  | 0, _, found => some found
  | remaining + 1, i, found => do
      let entry ← add tableOff (← mul i varheaderLen)
      let stop ← add entry varheaderLen
      if map.length < stop then some found
      else walk map wanted tableOff remaining (i + 1) (← enter map wanted found entry)

def findVars (map : Bytes) (wanted : List Text) : Option (List (Option Var)) := do
  let found := List.replicate wanted.length none
  match ← get i32At 4 map 24, ← get i32At 4 map 28 with
  | some numVars, some tableOff =>
      if numVars ≤ 0 ∨ tableOff < 0 then some found
      else walk map wanted tableOff.toNat numVars.toNat 0 found
  | _, _ => some found

def consider (map : Bytes) (bufLen : ℕ) (best : Option (ℤ × ℕ)) (i : ℕ) :
    Option (Option (ℤ × ℕ)) := do
  let entry ← add 48 (← mul i varbufLen)
  match ← get i32At 4 map entry, ← get i32At 4 map (← add entry 4) with
  | some tick, some off =>
      if off < 0 then some best
      else if map.length < (← add off.toNat bufLen) then some best
      else
        match best with
        | none => some (some (tick, off.toNat))
        | some (bestTick, _) =>
            some (if bestTick < tick then some (tick, off.toNat) else best)
  | _, _ => some best

def newestBuffer (map : Bytes) : Option (Option (ℕ × ℕ)) := do
  match ← get i32At 4 map 32 with
  | none => some none
  | some numBuf =>
      let numBuf := (max 0 (min maxBufs numBuf)).toNat
      match ← get i32At 4 map 36 with
      | none => some none
      | some bufLen =>
          if numBuf = 0 ∨ bufLen ≤ 0 then some none
          else
            let best ← (List.range numBuf).foldlM (consider map bufLen.toNat) none
            some (best.map fun best => (best.2, bufLen.toNat))

def readVar (buf : Bytes) (v : Var) : Option (Option F64) :=
  if v.varType = varTypeFloat then
    (get f32At 4 buf v.offset).map (Option.map Binary64.ofF32)
  else if v.varType = varTypeDouble then get f64At 8 buf v.offset
  else if v.varType = varTypeInt then
    (get i32At 4 buf v.offset).map (Option.map Binary64.ofInt)
  else some (IRacing.readVar buf v)

/-- All the variables found are read, also where the source gives up before the last. -/
def decode (map : Bytes) : Option (Option RelayTelemetry) := do
  if map.length < headerLen then some none
  else
    match ← get i32At 4 map 4 with
    | none => some none
    | some status =>
        if status % 2 = 0 then some none
        else
          let vars ← findVars map wanted
          if vars.length < 6 then none
          else
            match ← newestBuffer map with
            | none => some none
            | some (bufOff, bufLen) =>
                match ← get (fun buf off => slice buf off bufLen) bufLen map bufOff with
                | none => some none
                | some buf =>
                    let _ ← vars.reduceOption.mapM (readVar buf)
                    some (sampleOf vars buf)

theorem add_eq {a b : ℕ} (small : a + b < 2 ^ 64) : add a b = some (a + b) := by
  rw [add, CInt.fit_of_holds (CInt.CType.holds_u64 (by omega)), Option.map_some]
  congr 1

theorem mul_eq {a b : ℕ} (small : a * b < 2 ^ 64) : mul a b = some (a * b) := by
  have product : ((a : ℤ) * b) = ((a * b : ℕ) : ℤ) := by push_cast; rfl
  rw [mul, product, CInt.fit_of_holds (CInt.CType.holds_u64 (by omega)), Option.map_some]
  rfl

theorem get_eq {α : Type} {read : Bytes → ℕ → Option α} {size off : ℕ} {buf : Bytes}
    (small : off + size < 2 ^ 64) : get read size buf off = some (read buf off) := by
  rw [get, add_eq small, Option.map_some]

theorem i32At_range {buf : Bytes} {off : ℕ} {value : ℤ} (read : i32At buf off = some value) :
    -2 ^ 31 ≤ value ∧ value < 2 ^ 31 := by
  simp only [i32At, Option.map_eq_some_iff] at read
  obtain ⟨bytes, -, rfl⟩ := read
  exact ⟨BitVec.le_toInt _, BitVec.toInt_lt⟩

theorem nameAt_eq {buf : Bytes} {off : ℕ} (small : off + varheaderNameLen < 2 ^ 64) :
    nameAt buf off = some (IRacing.nameAt buf off) := by
  simp only [nameAt, get_eq small, IRacing.nameAt]
  cases slice buf off varheaderNameLen with
  | none => rfl
  | some raw =>
      have inside : raw.findIdx (· = 0) ≤ raw.length := List.findIdx_le_length
      simp [inside, List.takeWhile_eq_take_findIdx_not]

theorem enter_eq {map : Bytes} {wanted : List Text} {found : List (Option Var)} {entry : ℕ}
    (slots : found.length = wanted.length) (small : entry < 2 ^ 63) :
    enter map wanted found entry = some (IRacing.enter map wanted found entry) := by
  have name : entry + varheaderNameOff < 2 ^ 64 := by simp only [varheaderNameOff]; omega
  have nameEnd : entry + varheaderNameOff + varheaderNameLen < 2 ^ 64 := by
    simp only [varheaderNameOff, varheaderNameLen]
    omega
  have offset : entry + 4 < 2 ^ 64 := by omega
  have offsetEnd : entry + 4 + 4 < 2 ^ 64 := by omega
  rw [enter, CInt.bind_of_eq (add_eq name), CInt.bind_of_eq (nameAt_eq nameEnd), IRacing.enter]
  cases IRacing.nameAt map (entry + varheaderNameOff) with
  | none => rfl
  | some bytes =>
      simp only
      cases listed : wanted.findIdx? fun want => utf8 want = bytes with
      | none => rfl
      | some slot =>
          obtain ⟨inside, -⟩ := List.findIdx?_eq_some_iff_getElem.mp listed
          simp only
          rw [CInt.bind_of_eq (get_eq offset), CInt.bind_of_eq (add_eq offset),
            CInt.bind_of_eq (get_eq offsetEnd)]
          cases i32At map entry with
          | none => rfl
          | some varType =>
              cases i32At map (entry + 4) with
              | none => rfl
              | some offset =>
                  simp only [slots, inside, ↓reduceIte]
                  split <;> rfl

theorem length_enter (map : Bytes) (wanted : List Text) (found : List (Option Var)) (entry : ℕ) :
    (IRacing.enter map wanted found entry).length = found.length := by
  simp only [IRacing.enter]
  split
  · rfl
  · split
    · rfl
    · split
      · split
        · rfl
        · exact List.length_set
      · rfl

theorem walk_eq {map : Bytes} {wanted : List Text} {tableOff remaining i : ℕ}
    {found : List (Option Var)} (slots : found.length = wanted.length)
    (small : tableOff + (i + remaining) * varheaderLen < 2 ^ 62) :
    walk map wanted tableOff remaining i found =
      some (IRacing.walk map wanted tableOff remaining i found) := by
  induction remaining generalizing i found with
  | zero => rfl
  | succ remaining ih =>
      simp only [varheaderLen] at small ih ⊢
      have step : i * varheaderLen < 2 ^ 64 := by simp only [varheaderLen]; omega
      have entry : tableOff + i * varheaderLen < 2 ^ 64 := by simp only [varheaderLen]; omega
      have entrySmall : tableOff + i * varheaderLen < 2 ^ 63 := by
        simp only [varheaderLen]
        omega
      have stop : tableOff + i * varheaderLen + varheaderLen < 2 ^ 64 := by
        simp only [varheaderLen]
        omega
      rw [walk, CInt.bind_of_eq (mul_eq step), CInt.bind_of_eq (add_eq entry),
        CInt.bind_of_eq (add_eq stop), IRacing.walk]
      by_cases short : map.length < tableOff + i * varheaderLen + varheaderLen
      · rw [if_pos short, if_pos short]
      · rw [if_neg short, if_neg short, CInt.bind_of_eq (enter_eq slots entrySmall)]
        apply ih
        · rw [length_enter, slots]
        · omega

theorem findVars_eq (map : Bytes) (wanted : List Text) :
    findVars map wanted = some (IRacing.findVars map wanted) := by
  rw [findVars, CInt.bind_of_eq (get_eq (by decide)), CInt.bind_of_eq (get_eq (by decide)),
    IRacing.findVars]
  cases counted : i32At map 24 with
  | none => rfl
  | some numVars =>
      cases placed : i32At map 28 with
      | none => rfl
      | some tableOff =>
          have few := i32At_range counted
          have near := i32At_range placed
          simp only
          split
          · rfl
          · apply walk_eq
            · simp
            · simp only [varheaderLen]
              omega

theorem consider_eq {map : Bytes} {bufLen i : ℕ} (best : Option (ℤ × ℕ)) (short : bufLen < 2 ^ 31)
    (few : i < 4) : consider map bufLen best i = some (IRacing.consider map bufLen best i) := by
  have step : i * varbufLen < 2 ^ 64 := by simp only [varbufLen]; omega
  have entry : 48 + i * varbufLen < 2 ^ 64 := by simp only [varbufLen]; omega
  have offset : 48 + i * varbufLen + 4 < 2 ^ 64 := by simp only [varbufLen]; omega
  have offsetEnd : 48 + i * varbufLen + 4 + 4 < 2 ^ 64 := by simp only [varbufLen]; omega
  rw [consider, CInt.bind_of_eq (mul_eq step), CInt.bind_of_eq (add_eq entry),
    CInt.bind_of_eq (get_eq offset), CInt.bind_of_eq (add_eq offset),
    CInt.bind_of_eq (get_eq offsetEnd), IRacing.consider]
  cases i32At map (48 + i * varbufLen) with
  | none => rfl
  | some tick =>
      cases placed : i32At map (48 + i * varbufLen + 4) with
      | none => rfl
      | some off =>
          have near := i32At_range placed
          have stop : off.toNat + bufLen < 2 ^ 64 := by omega
          simp only
          rw [CInt.bind_of_eq (add_eq stop)]
          split
          · rfl
          · split
            · rfl
            · cases best <;> rfl

theorem foldlM_consider {map : Bytes} {bufLen : ℕ} (short : bufLen < 2 ^ 31)
    (indices : List ℕ) (few : ∀ i ∈ indices, i < 4) (best : Option (ℤ × ℕ)) :
    indices.foldlM (consider map bufLen) best =
      some (indices.foldl (IRacing.consider map bufLen) best) := by
  induction indices generalizing best with
  | nil => rfl
  | cons i indices ih =>
      rw [List.foldlM_cons, CInt.bind_of_eq (consider_eq best short (few i List.mem_cons_self)),
        List.foldl_cons]
      exact ih (fun i member => few i (List.mem_cons_of_mem _ member)) _

theorem newestBuffer_eq (map : Bytes) :
    newestBuffer map = some (IRacing.newestBuffer map) := by
  rw [newestBuffer, CInt.bind_of_eq (get_eq (by decide)), IRacing.newestBuffer]
  cases i32At map 32 with
  | none => rfl
  | some numBuf =>
      simp only
      rw [CInt.bind_of_eq (get_eq (by decide))]
      cases measured : i32At map 36 with
      | none => rfl
      | some bufLen =>
          have near := i32At_range measured
          simp only [guard, Option.bind_eq_bind, Option.bind_some, Option.pure_def]
          by_cases unusable : (max 0 (min maxBufs numBuf)).toNat = 0 ∨ bufLen ≤ 0
          · rw [if_pos unusable, if_neg (not_not.mpr unusable)]
            rfl
          · have few : ∀ i ∈ List.range (max 0 (min maxBufs numBuf)).toNat, i < 4 := by
              intro i inRange
              have := List.mem_range.mp inRange
              simp only [maxBufs] at this
              omega
            rw [if_neg unusable, if_pos unusable, foldlM_consider (by omega) _ few,
              Option.bind_some, Option.bind_some, Option.map_eq_bind]
            rfl

theorem readVar_eq {buf : Bytes} {var : Var} (near : var.offset < 2 ^ 31) :
    readVar buf var = some (IRacing.readVar buf var) := by
  simp only [readVar, IRacing.readVar]
  split
  · rw [get_eq (by omega), Option.map_some]
  · split
    · exact get_eq (by omega)
    · split
      · rw [get_eq (by omega), Option.map_some]
      · rfl

/-- Offsets come from integers of 32 bits. -/
theorem near_of_mem {map : Bytes} {var : Var}
    (member : some var ∈ IRacing.findVars map IRacing.wanted) : var.offset < 2 ^ 31 := by
  rw [IRacing.findVars_eq distinct_wanted] at member
  obtain ⟨want, -, found⟩ := List.mem_map.mp member
  obtain ⟨entry, -, -, read⟩ := KeyedTable.exists_of_last found
  simp only [varOf] at read
  split at read
  · next varType offset _ offsetRead =>
      simp only [Option.ite_none_left_eq_some, Option.some.injEq] at read
      obtain ⟨nonneg, rfl⟩ := read
      have range := i32At_range offsetRead
      simp only
      omega
  · cases read

theorem mapM_readVar {buf : Bytes} (vars : List Var) (near : ∀ var ∈ vars, var.offset < 2 ^ 31) :
    vars.mapM (readVar buf) = some (vars.map (IRacing.readVar buf)) := by
  induction vars with
  | nil => rfl
  | cons var vars ih =>
      rw [List.mapM_cons, CInt.bind_of_eq (readVar_eq (near var List.mem_cons_self)),
        CInt.bind_of_eq (ih fun other member => near other (List.mem_cons_of_mem _ member))]
      rfl

theorem near_of_isNewest {map : Bytes} {off len : ℕ} (newest : IsNewest map off len) :
    off < 2 ^ 31 ∧ len < 2 ^ 31 := by
  obtain ⟨numBuf, -, length, -, tick, older, newer, parts, -⟩ := newest
  obtain ⟨i, -, -, offset, -⟩ :=
    mem_buffers (parts ▸ by simp : (tick, off) ∈ buffers map numBuf len)
  have lengthRange := i32At_range length
  have offsetRange := i32At_range offset
  omega

theorem decode_eq (map : Bytes) : decode map = some (IRacing.decode map) := by
  rw [decode, decode_bind]
  by_cases short : map.length < headerLen
  · rw [if_pos short, if_pos short]
  · rw [if_neg short, if_neg short, CInt.bind_of_eq (get_eq (by decide))]
    cases i32At map 4 with
    | none => rfl
    | some status =>
        by_cases off : status % 2 = 0
        · simp only [off, ↓reduceIte, Option.bind_some]
        · have slots : ¬(IRacing.findVars map IRacing.wanted).length < 6 := by
            rw [IRacing.findVars_eq distinct_wanted, List.length_map]
            decide
          simp only [off, ↓reduceIte, Option.bind_some, newest]
          rw [CInt.bind_of_eq (findVars_eq map _), if_neg slots,
            CInt.bind_of_eq (newestBuffer_eq map)]
          cases found : IRacing.newestBuffer map with
          | none => rfl
          | some buffer =>
              have near := near_of_isNewest (isNewest_of_newestBuffer found)
              simp only [Option.bind_some]
              rw [CInt.bind_of_eq (get_eq (by omega))]
              cases slice map buffer.1 buffer.2 with
              | none => rfl
              | some buf =>
                  have all : ∀ var ∈ (IRacing.findVars map IRacing.wanted).reduceOption,
                      var.offset < 2 ^ 31 := fun var member =>
                    near_of_mem (List.reduceOption_mem_iff.mp member)
                  simp only
                  rw [CInt.bind_of_eq (mapM_readVar _ all)]
                  rfl

end Checked

theorem iracing_law :
    (∀ map other, Retabled map other → decode other = decode map) ∧
    (∀ map other tableOff before after, RewrittenInPlace map other tableOff before after →
      decode other = decode map) ∧
    (∀ map sample, decode map = some sample →
      ∃ off len, IsNewest map off len ∧ off + len ≤ map.length ∧ MadeOf map off len sample) ∧
    ∀ map, Checked.decode map = some (decode map) := by
  refine ⟨?_, ?_, ?_, Checked.decode_eq⟩
  · exact fun map other retabled => retabled.decode_eq
  · exact fun map other tableOff before after rewritten => rewritten.retabled.decode_eq
  · intro map sample decoded
    obtain ⟨off, len, newest, made⟩ := decode_madeOf decoded
    exact ⟨off, len, newest, inside_of_isNewest newest, made⟩

def word (value : ℕ) : Bytes := ByteBuffer.le32 (UInt32.ofNat value)

def padded (size : ℕ) (bytes : Bytes) : Bytes := bytes ++ List.replicate (size - bytes.length) 0

/-- An integer variable at an offset of the buffer. -/
def fourByteEntry (name : String) (offset : ℕ) : Bytes :=
  word 2 ++ word offset ++ word 1 ++ word 0 ++ padded 32 (utf8 name.toList) ++ padded 96 []

/-- A header, room for five entries, and the one buffer, of four integers. -/
def fourByteMap (count : ℕ) (entries : Bytes) : Bytes :=
  padded 112 (word 1 ++ word 1 ++ padded 16 [] ++ word count ++ word 112 ++ word 1 ++ word 16 ++
    padded 8 [] ++ word 7 ++ word 832) ++ padded 720 entries ++
    (word 6000 ++ word 1 ++ word 4 ++ word 8000)

def fourVariables : Bytes :=
  fourByteMap 4 (fourByteEntry "RPM" 0 ++ fourByteEntry "Throttle" 4 ++ fourByteEntry "Gear" 8 ++
    fourByteEntry "PlayerCarSLBlinkRPM" 12)

/-- The entries change places, and one that is not wanted comes behind them. -/
def fourVariablesRewritten : Bytes :=
  fourByteMap 5 (fourByteEntry "PlayerCarSLBlinkRPM" 12 ++ fourByteEntry "RPM" 0 ++
    fourByteEntry "Gear" 8 ++ fourByteEntry "Throttle" 4 ++ fourByteEntry "Lap" 8)

theorem iracing_law_rewritten_table :
    (decode fourVariablesRewritten).map RelayTelemetry.rpm = some (Binary32.ofNat 6000) := by
  have unwanted : ∀ want ∈ wanted, nameOf (fourByteEntry "Lap" 8) ≠ some (utf8 want) := by
    decide +kernel
  have retabled : Retabled fourVariables fourVariablesRewritten := by
    refine ⟨by decide +kernel, by decide +kernel, by decide +kernel, by decide +kernel,
      [fourByteEntry "Lap" 8], by decide +kernel, ?_⟩
    intro entry member
    rw [List.mem_singleton.mp member]
    exact unwanted
  rw [iracing_law.1 fourVariables fourVariablesRewritten retabled]
  decide +kernel

/-- An integer variable whose value is in the description of the entry in a place of the table. -/
def overlappingEntry (name : String) (place value : ℕ) : Bytes :=
  word 2 ++ word (place * 144 + 48) ++ word 1 ++ word 0 ++ padded 32 (utf8 name.toList) ++
    padded 96 (word value)

/-- A header whose one buffer is the table of four entries behind it. -/
def overlappingHeader : Bytes :=
  padded 112 (word 1 ++ word 1 ++ padded 16 [] ++ word 4 ++ word 112 ++ word 1 ++ word 576 ++
    padded 8 [] ++ word 7 ++ word 112)

def rpmEntry : Bytes := overlappingEntry "RPM" 0 6000

def throttleEntry : Bytes := overlappingEntry "Throttle" 1 5000

def lastEntries : Bytes :=
  overlappingEntry "Gear" 2 4 ++ overlappingEntry "PlayerCarSLBlinkRPM" 3 8000

def overlapping : Bytes := overlappingHeader ++ (rpmEntry ++ throttleEntry ++ lastEntries)

def overlappingSwapped : Bytes := overlappingHeader ++ (throttleEntry ++ rpmEntry ++ lastEntries)

/-- Two entries of a table change places, and the engine speed is another one. -/
theorem overlapping_table_reordered :
    (112 + 4 * varheaderLen ≤ overlapping.length ∧
      overlappingSwapped.length = overlapping.length ∧
      i32At overlapping 24 = some 4 ∧ i32At overlapping 28 = some 112 ∧
      ((table overlapping).map nameOf).Nodup ∧
      (table overlappingSwapped).Perm (table overlapping) ∧
      ∀ i, ¬(112 ≤ i ∧ i < 112 + 4 * varheaderLen) →
        overlappingSwapped[i]? = overlapping[i]?) ∧
    (decode overlapping).map RelayTelemetry.rpm = some (Binary32.ofNat 6000) ∧
    (decode overlappingSwapped).map RelayTelemetry.rpm = some (Binary32.ofNat 5000) ∧
    decode overlappingSwapped ≠ decode overlapping := by
  have rpm : (decode overlapping).map RelayTelemetry.rpm = some (Binary32.ofNat 6000) := by
    decide +kernel
  have swappedRpm : (decode overlappingSwapped).map RelayTelemetry.rpm =
      some (Binary32.ofNat 5000) := by
    decide +kernel
  refine ⟨⟨by decide +kernel, by decide +kernel, by decide +kernel, by decide +kernel,
    by decide +kernel, by decide +kernel, ?_⟩, rpm, swappedRpm, ?_⟩
  · intro i outside
    by_cases before : i < overlappingHeader.length
    · rw [overlapping, overlappingSwapped, List.getElem?_append_left before,
        List.getElem?_append_left before]
    · have header : overlappingHeader.length = 112 := by decide
      have length : overlapping.length = 112 + 4 * varheaderLen := by decide +kernel
      have swappedLength : overlappingSwapped.length = 112 + 4 * varheaderLen := by decide +kernel
      rw [List.getElem?_eq_none (by omega), List.getElem?_eq_none (by omega)]
  · intro same
    rw [same, rpm] at swappedRpm
    exact absurd swappedRpm (by decide)

end TrueForce.Relay.IRacing
