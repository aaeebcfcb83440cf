import Mathlib.Algebra.Group.Nat.Defs
import Mathlib.Data.Int.Notation
import Mathlib.Data.Nat.Notation
import Mathlib.Tactic.Common

/-!
# The rFactor 2 decoder of the relay

Two sections of shared memory are decoded together: the scoring section names the
player's car and the telemetry section has its engine.  Numbers are read as the
bits they are stored as.  Comparing doubles is done on the bits; the operations
that round are a parameter.
-/

namespace TrueForce.Relay.RFactor2

abbrev Bytes := List UInt8

/-- The bits of an IEEE double. -/
abbrev F64 := UInt64

/-- The bits of an IEEE single. -/
abbrev F32 := UInt32

/-- The operations of the floating point unit that round. -/
structure Rounding where
  mul : F64 → F64 → F64
  add : F64 → F64 → F64
  sqrt : F64 → F64
  toF32 : F64 → F32

namespace F64

def isFinite (bits : F64) : Bool := bits.toNat / 2 ^ 52 % 2 ^ 11 ≠ 2047

/-- Where a double that is not NaN stands among the others. -/
def rank (bits : F64) : ℤ :=
  if bits.toNat < 2 ^ 63 then bits.toNat else -(bits.toNat - 2 ^ 63 : ℕ)

def zero : F64 := 0

def one : F64 := 0x3FF0000000000000

/-- `clamp(0.0, 1.0)` of a finite double. -/
def clampUnit (bits : F64) : F64 :=
  if bits.rank < zero.rank then zero else if one.rank < bits.rank then one else bits

end F64

def idRf2 : String := "rf2"

def idLmu : String := "lmu"

def sectionTelemetry : String := "$rFactor2SMMP_Telemetry$"

def sectionScoring : String := "$rFactor2SMMP_Scoring$"

def telemetryLen : ℕ := 241680

def scoringLen : ℕ := 75312

def maxVehicles : ℕ := 128

-- Telemetry buffer, version block included.

def telNumVehicles : ℕ := 12

def telVehicles : ℕ := 16

def telStride : ℕ := 1888

def vehId : ℕ := 0

def vehLocalVel : ℕ := 184

def vehGear : ℕ := 352

def vehEngineRpm : ℕ := 356

def vehThrottle : ℕ := 388

def vehBrake : ℕ := 396

def vehEngineMaxRpm : ℕ := 532

-- Scoring buffer, version block included.

def scoNumVehicles : ℕ := 116

def scoVehicles : ℕ := 560

def scoStride : ℕ := 584

def scoId : ℕ := 0

def scoIsPlayer : ℕ := 196

/-- 30000.0 -/
def maxPlausibleRpm : F64 := 0x40DD4C0000000000

/-- The value of little-endian bytes. -/
def littleEndian : Bytes → ℕ
  | [] => 0
  | byte :: bytes => byte.toNat + 2 ^ 8 * littleEndian bytes

/-- `buf.get(off..off + size)` -/
def slice (buf : Bytes) (off size : ℕ) : Option Bytes :=
  if off + size ≤ buf.length then some ((buf.drop off).take size) else none

def u32At (buf : Bytes) (off : ℕ) : Option UInt32 :=
  (slice buf off 4).map fun bytes => UInt32.ofNat (littleEndian bytes)

def i32At (buf : Bytes) (off : ℕ) : Option ℤ :=
  (slice buf off 4).map fun bytes => (BitVec.ofNat 32 (littleEndian bytes)).toInt

def f64At (buf : Bytes) (off : ℕ) : Option F64 :=
  (slice buf off 8).map fun bytes => UInt64.ofNat (littleEndian bytes)

def readWasClean (buf : Bytes) : Bool :=
  match u32At buf 0, u32At buf 4 with
  | some updateBegin, some updateEnd => updateBegin = updateEnd
  | _, _ => false

def vehicleCount (buf : Bytes) (countOff : ℕ) : ℕ :=
  let claimed := (i32At buf countOff).getD 0
  min claimed.toNat maxVehicles

def playerSlotId (scoring : Bytes) : Option ℤ :=
  (List.range (vehicleCount scoring scoNumVehicles)).findSome? fun i =>
    let base := scoVehicles + i * scoStride
    match scoring[base + scoIsPlayer]? with
    | some 1 => i32At scoring (base + scoId)
    | _ => none

structure RelayTelemetry where
  gameId : String
  rpm : F32
  maxRpm : F32
  throttle : F32
  gear : ℤ
  speed : F32
  brake : F32
  airborne : Bool
deriving DecidableEq

/-- The length of the velocity vector of the car at `base`. -/
def speedAt (unit : Rounding) (telemetry : Bytes) (base : ℕ) : F32 :=
  let squares := (List.range 3).map fun i =>
    let v := (f64At telemetry (base + vehLocalVel + i * 8)).getD F64.zero
    if F64.isFinite v then unit.mul v v else F64.zero
  unit.toF32 (unit.sqrt (squares.foldl unit.add F64.zero))

/-- A pedal, or nothing where it reads as nonsense. -/
def pedal (unit : Rounding) (position : F64) : F32 :=
  if F64.isFinite position then unit.toF32 (F64.clampUnit position) else 0

def decode (unit : Rounding) (telemetry scoring : Bytes) (gameId : String) :
    Option RelayTelemetry := do
  guard (readWasClean telemetry && readWasClean scoring)
  let playerId ← playerSlotId scoring
  let n := vehicleCount telemetry telNumVehicles
  let base ← ((List.range n).map fun i => telVehicles + i * telStride).find? fun base =>
    i32At telemetry (base + vehId) = some playerId
  let rpm ← f64At telemetry (base + vehEngineRpm)
  let maxRpm ← f64At telemetry (base + vehEngineMaxRpm)
  guard (F64.isFinite rpm && F64.isFinite maxRpm)
  guard (¬(F64.rank maxRpm ≤ F64.rank F64.zero) ∧ ¬F64.rank maxPlausibleRpm < F64.rank maxRpm ∧
    F64.rank F64.zero ≤ F64.rank rpm ∧ F64.rank rpm ≤ F64.rank maxPlausibleRpm)
  let throttle ← f64At telemetry (base + vehThrottle)
  let brake := (f64At telemetry (base + vehBrake)).getD F64.zero
  let gear ← i32At telemetry (base + vehGear)
  return {
    gameId
    rpm := unit.toF32 rpm
    maxRpm := unit.toF32 maxRpm
    throttle := pedal unit throttle
    gear := if -1 ≤ gear ∧ gear ≤ 15 then gear else 0
    speed := speedAt unit telemetry base
    brake := pedal unit brake
    airborne := false }

theorem decode_clean {unit : Rounding} {telemetry scoring : Bytes} {gameId : String}
    {sample : RelayTelemetry} (decoded : decode unit telemetry scoring gameId = some sample) :
    readWasClean telemetry = true ∧ readWasClean scoring = true := by
  rw [← Bool.and_eq_true]
  by_contra dirty
  rw [decode, guard, if_neg dirty] at decoded
  cases decoded

theorem playerSlotId_of_first {scoring : Bytes} {playerId : ℤ}
    (one : vehicleCount scoring scoNumVehicles = 1)
    (flag : scoring[scoVehicles + 0 * scoStride + scoIsPlayer]? = some 1)
    (slot : i32At scoring (scoVehicles + 0 * scoStride + scoId) = some playerId) :
    playerSlotId scoring = some playerId := by
  rw [playerSlotId, one]
  simp only [List.range_one, List.findSome?_cons, flag, slot]

/-- A session with one car, whose engine values are sensible, is decoded. -/
theorem decode_of_one_car (unit : Rounding) {telemetry scoring : Bytes} (gameId : String)
    {playerId gear : ℤ} {rpm maxRpm throttle : F64}
    (clean : readWasClean telemetry = true ∧ readWasClean scoring = true)
    (player : playerSlotId scoring = some playerId)
    (one : vehicleCount telemetry telNumVehicles = 1)
    (row : i32At telemetry telVehicles = some playerId)
    (rpmRead : f64At telemetry (telVehicles + vehEngineRpm) = some rpm)
    (maxRpmRead : f64At telemetry (telVehicles + vehEngineMaxRpm) = some maxRpm)
    (throttleRead : f64At telemetry (telVehicles + vehThrottle) = some throttle)
    (gearRead : i32At telemetry (telVehicles + vehGear) = some gear)
    (finite : (F64.isFinite rpm && F64.isFinite maxRpm) = true)
    (sensible : ¬(F64.rank maxRpm ≤ F64.rank F64.zero) ∧
      ¬F64.rank maxPlausibleRpm < F64.rank maxRpm ∧
      F64.rank F64.zero ≤ F64.rank rpm ∧ F64.rank rpm ≤ F64.rank maxPlausibleRpm) :
    ∃ sent, decode unit telemetry scoring gameId = some sent ∧ sent.rpm = unit.toF32 rpm ∧
      sent.maxRpm = unit.toF32 maxRpm := by
  have found : ((List.range 1).map fun i => telVehicles + i * telStride).find?
      (fun base => i32At telemetry (base + vehId) = some playerId) = some telVehicles := by
    simp [vehId, row]
  refine ⟨{
    gameId
    rpm := unit.toF32 rpm
    maxRpm := unit.toF32 maxRpm
    throttle := pedal unit throttle
    gear := if -1 ≤ gear ∧ gear ≤ 15 then gear else 0
    speed := speedAt unit telemetry telVehicles
    brake := pedal unit ((f64At telemetry (telVehicles + vehBrake)).getD F64.zero)
    airborne := false }, ?_, rfl, rfl⟩
  simp only [decode, guard, clean, player, one, found, rpmRead, maxRpmRead, finite, sensible,
    throttleRead, gearRead, Bool.and_self, if_true, not_false_eq_true, and_self, bind, pure,
    Option.bind_some]

theorem slice_append {buf : Bytes} (rest : Bytes) {off size : ℕ} (inside : off + size ≤ buf.length) :
    slice (buf ++ rest) off size = slice buf off size := by
  have longer : off + size ≤ (buf ++ rest).length := by
    rw [List.length_append]
    omega
  rw [slice, slice, if_pos inside, if_pos longer, List.drop_append_of_le_length (by omega),
    List.take_append_of_le_length (by rw [List.length_drop]; omega)]

theorem readWasClean_append {buf : Bytes} (words : 8 ≤ buf.length) (rest : Bytes) :
    readWasClean (buf ++ rest) = readWasClean buf := by
  have first : slice (buf ++ rest) 0 4 = slice buf 0 4 := slice_append rest (by omega)
  have second : slice (buf ++ rest) 4 4 = slice buf 4 4 := slice_append rest (by omega)
  simp only [readWasClean, u32At, first, second]

/-- The first `length` bytes of a memory. -/
def view (length : ℕ) (memory : ℕ → UInt8) : Bytes := (List.range length).map memory

theorem view_append (first second : ℕ) (old new : ℕ → UInt8) :
    view first old ++ view second (fun index => new (first + index)) =
      view (first + second) fun offset => if offset < first then old offset else new offset := by
  rw [view, view, view, List.range_add, List.map_append, List.map_map]
  congr 1
  · apply List.map_congr_left
    intro offset inside
    rw [if_pos (List.mem_range.mp inside)]
  · apply List.map_congr_left
    intro index _
    rw [Function.comp_apply, if_neg (by omega)]

theorem getElem?_view {length offset : ℕ} (memory : ℕ → UInt8) (inside : offset < length) :
    (view length memory)[offset]? = some (memory offset) := by
  rw [view, List.getElem?_map, List.getElem?_range inside]
  rfl

theorem slice_view {length off size : ℕ} (memory : ℕ → UInt8) (inside : off + size ≤ length) :
    slice (view length memory) off size = some (view size fun index => memory (off + index)) := by
  have long : (view length memory).length = length := by
    rw [view, List.length_map, List.length_range]
  rw [slice, if_pos (by rwa [long]), Option.some.injEq]
  apply List.ext_getElem?
  intro index
  rcases Nat.lt_or_ge index size with before | after
  · rw [List.getElem?_take_of_lt before, List.getElem?_drop, getElem?_view memory (by omega),
      getElem?_view _ before]
  · rw [List.getElem?_take_eq_none after, List.getElem?_eq_none]
    rwa [view, List.length_map, List.length_range]

theorem u32At_view {length off : ℕ} (memory : ℕ → UInt8) (inside : off + 4 ≤ length) :
    u32At (view length memory) off =
      some (UInt32.ofNat (littleEndian (view 4 fun index => memory (off + index)))) := by
  rw [u32At, slice_view memory inside]
  rfl

theorem i32At_view {length off : ℕ} (memory : ℕ → UInt8) (inside : off + 4 ≤ length) :
    i32At (view length memory) off =
      some (BitVec.ofNat 32 (littleEndian (view 4 fun index => memory (off + index)))).toInt := by
  rw [i32At, slice_view memory inside]
  rfl

theorem f64At_view {length off : ℕ} (memory : ℕ → UInt8) (inside : off + 8 ≤ length) :
    f64At (view length memory) off =
      some (UInt64.ofNat (littleEndian (view 8 fun index => memory (off + index)))) := by
  rw [f64At, slice_view memory inside]
  rfl

end TrueForce.Relay.RFactor2
