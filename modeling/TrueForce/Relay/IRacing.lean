import TrueForce.Foundation.Binary64
import TrueForce.Foundation.RustText
import TrueForce.Relay.RFactor2

/-!
# The iRacing decoder of the relay

The mapping describes itself: its header points at a table of variable descriptors,
each with the name, the type and the offset of a variable, and at up to four buffers
of values, of which the one with the newest tick is read.  Every offset and count is
taken from the mapping, and every read is checked against its length.
-/

namespace TrueForce.Relay.IRacing

open Binary32 (F32)
open Binary64 (F64)
open RustText (Text utf8)
open RFactor2 (Bytes RelayTelemetry slice i32At f64At u32At)

/-- Size of `irsdk_header`. -/
def headerLen : ℕ := 112

/-- Size of one `irsdk_varBuf` entry. -/
def varbufLen : ℕ := 16

def maxBufs : ℤ := 4

/-- Size of one `irsdk_varHeader` entry. -/
def varheaderLen : ℕ := 144

def varheaderNameOff : ℕ := 16

def varheaderNameLen : ℕ := 32

def varTypeBool : ℤ := 1

def varTypeInt : ℤ := 2

def varTypeFloat : ℤ := 4

def varTypeDouble : ℤ := 5

def maxPlausibleRpm : F32 := Binary32.ofNat 30000

def f32At (buf : Bytes) (off : ℕ) : Option F32 := u32At buf off

structure Var where
  varType : ℤ
  offset : ℕ
  deriving DecidableEq, Repr

/-- The bytes of a name before its NUL.  Where they are not UTF-8 they are the name of no variable. -/
def nameAt (buf : Bytes) (off : ℕ) : Option Bytes :=
  (slice buf off varheaderNameLen).map fun raw => raw.takeWhile (· ≠ 0)

/-- One turn of the loop of `find_vars`. -/
def enter (map : Bytes) (wanted : List Text) (found : List (Option Var)) (entry : ℕ) :
    List (Option Var) :=
  match nameAt map (entry + varheaderNameOff) with
  | none => found
  | some name =>
      match wanted.findIdx? fun want => utf8 want = name with
      | none => found
      | some slot =>
          match i32At map entry, i32At map (entry + 4) with
          | some varType, some offset =>
              if offset < 0 then found
              else found.set slot (some { varType, offset := offset.toNat })
          | _, _ => found

/-- The loop of `find_vars`, which an entry that does not fit ends. -/
def walk (map : Bytes) (wanted : List Text) (tableOff : ℕ) :
    ℕ → ℕ → List (Option Var) → List (Option Var)
  | 0, _, found => found
  | remaining + 1, i, found =>
      let entry := tableOff + i * varheaderLen
      if map.length < entry + varheaderLen then found
      else walk map wanted tableOff remaining (i + 1) (enter map wanted found entry)

def findVars (map : Bytes) (wanted : List Text) : List (Option Var) :=
  let found := List.replicate wanted.length none
  match i32At map 24, i32At map 28 with
  | some numVars, some tableOff =>
      if numVars ≤ 0 ∨ tableOff < 0 then found
      else walk map wanted tableOff.toNat numVars.toNat 0 found
  | _, _ => found

/-- One turn of the loop of `newest_buffer`. -/
def consider (map : Bytes) (bufLen : ℕ) (best : Option (ℤ × ℕ)) (i : ℕ) : Option (ℤ × ℕ) :=
  let entry := 48 + i * varbufLen
  match i32At map entry, i32At map (entry + 4) with
  | some tick, some off =>
      if off < 0 then best
      else if map.length < off.toNat + bufLen then best
      else
        match best with
        | none => some (tick, off.toNat)
        | some (bestTick, _) => if bestTick < tick then some (tick, off.toNat) else best
  | _, _ => best

/-- Offset and length of the buffer with the newest tick. -/
def newestBuffer (map : Bytes) : Option (ℕ × ℕ) := do
  let numBuf ← i32At map 32
  let numBuf := (max 0 (min maxBufs numBuf)).toNat
  let bufLen ← i32At map 36
  guard (¬(numBuf = 0 ∨ bufLen ≤ 0))
  let best ← (List.range numBuf).foldl (consider map bufLen.toNat) none
  return (best.2, bufLen.toNat)

/-- A variable as a double, whatever its declared type. -/
def readVar (buf : Bytes) (v : Var) : Option F64 :=
  if v.varType = varTypeFloat then (f32At buf v.offset).map Binary64.ofF32
  else if v.varType = varTypeDouble then f64At buf v.offset
  else if v.varType = varTypeInt then (i32At buf v.offset).map Binary64.ofInt
  else if v.varType = varTypeBool then
    buf[v.offset]?.map fun byte => Binary64.ofInt (if byte ≠ 0 then 1 else 0)
  else none

def wanted : List Text :=
  ["RPM".toList, "Throttle".toList, "Gear".toList, "PlayerCarSLBlinkRPM".toList, "Speed".toList,
    "Brake".toList]

/-- The sample that the slots of the wanted variables give with a buffer. -/
def sampleOf (vars : List (Option Var)) (buf : Bytes) : Option RelayTelemetry := do
  let rpmVar ← vars.getD 0 none
  let throttleVar ← vars.getD 1 none
  let gearVar ← vars.getD 2 none
  let rpm := Binary64.toF32 (← readVar buf rpmVar)
  let throttle := Binary64.toF32 (← readVar buf throttleVar)
  let gear := Binary64.toI32 (← readVar buf gearVar)
  let maxRpm := Binary64.toF32 (← (vars.getD 3 none).bind (readVar buf))
  let speed := ((vars.getD 4 none).bind (readVar buf)).elim Binary32.zero Binary64.toF32
  let brake := ((vars.getD 5 none).bind (readVar buf)).elim Binary32.zero Binary64.toF32
  guard (Binary32.isFinite rpm && Binary32.isFinite throttle && Binary32.isFinite maxRpm)
  guard (!Binary32.le maxRpm Binary32.zero && !Binary32.lt maxPlausibleRpm maxRpm &&
    Binary32.le Binary32.zero rpm && Binary32.le rpm maxPlausibleRpm)
  return {
    gameId := "iracing"
    rpm, maxRpm
    throttle := Binary32.clamp Binary32.zero Binary32.one throttle
    gear := max (-32768) (min 32767 gear)
    speed := if Binary32.isFinite speed then Binary32.max speed Binary32.zero else Binary32.zero
    brake :=
      if Binary32.isFinite brake then Binary32.clamp Binary32.zero Binary32.one brake
      else Binary32.zero
    airborne := false }

def decode (map : Bytes) : Option RelayTelemetry := do
  guard (headerLen ≤ map.length)
  let status ← i32At map 4
  guard (status % 2 ≠ 0)
  let vars := findVars map wanted
  let (bufOff, bufLen) ← newestBuffer map
  let buf ← slice map bufOff bufLen
  sampleOf vars buf

end TrueForce.Relay.IRacing
