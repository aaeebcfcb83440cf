import TrueForce.Foundation.Binary32
import TrueForce.Relay.RFactor2

/-!
# The Assetto Corsa decoders of the relay

Assetto Corsa and Competizione publish the engine in one section and the redline in
another; EVO has both in its one section.  Whether the car is in the air is believed
only for a while after the wheels last carried load.
-/

namespace TrueForce.Relay.AssettoCorsa

open Binary32
open RFactor2 (Bytes RelayTelemetry slice i32At u32At)

def id : String := "assetto"

def idEvo : String := "ac-evo"

def idAcc : String := "acc"

def sectionPhysics : String := "Local\\acpmf_physics"

def sectionStatic : String := "Local\\acpmf_static"

def sectionPhysicsEvo : String := "Local\\acevo_pmf_physics"

def offGas : ℕ := 4

def offBrake : ℕ := 8

def offGear : ℕ := 16

def offRpms : ℕ := 20

def offSpeedKmh : ℕ := 28

def minPhysicsLen : ℕ := offRpms + 4

def offWheelLoad : ℕ := 72

def minPhysicsAirborneLen : ℕ := offWheelLoad + 16

def wheelLoadEpsilon : F32 := one

def offCurrentMaxRpm : ℕ := 588

def minPhysicsEvoLen : ℕ := offCurrentMaxRpm + 4

def minPlausibleRedline : F32 := ofNat 1000

def offMaxRpm : ℕ := 412

def minStaticLen : ℕ := offMaxRpm + 4

def maxPlausibleRpm : F32 := ofNat 30000

def f32At (buf : Bytes) (off : ℕ) : Option F32 := u32At buf off

/-- Two printable UTF-16 units stand where the version string does. -/
def staticLayoutLooksRight (buf : Bytes) : Bool :=
  match slice buf 0 4 with
  | none => false
  | some head =>
      let unit (index : ℕ) : ℕ :=
        (head.getD index 0).toNat + 2 ^ 8 * (head.getD (index + 1) 0).toNat
      let printable (value : ℕ) : Bool := 0x20 ≤ value && value < 0x7F
      printable (unit 0) && printable (unit 2)

structure AirborneGate where
  loadedCredit : UInt16
  deriving DecidableEq, Repr

def gateDecaySamples : UInt16 := 60

/-- How many of the wheels carry load, if all the loads can be read. -/
def loadedWheels (physics : Bytes) : Option ℕ :=
  (List.range 4).foldlM (fun loaded i =>
    match f32At physics (offWheelLoad + i * 4) with
    | some load =>
        if isFinite load && lt wheelLoadEpsilon load then some (loaded + 1)
        else if isFinite load then some loaded
        else none
    | none => none) 0

def airborneWith (gate : AirborneGate) (physics : Bytes) : Bool × AirborneGate :=
  if physics.length < minPhysicsAirborneLen then (false, gate)
  else
    match loadedWheels physics with
    | none => (false, gate)
    | some loaded =>
        if 0 < loaded then (false, { loadedCredit := gateDecaySamples })
        else if gate.loadedCredit = 0 then (false, gate)
        else (true, { loadedCredit := gate.loadedCredit - 1 })

/-- 3.6 -/
def kmhPerMs : F32 := 0x40666666

def headScreenFields (physics : Bytes) : F32 × F32 :=
  let speed := div (((f32At physics offSpeedKmh).filter isFinite).getD zero) kmhPerMs
  let brake := ((f32At physics offBrake).filter isFinite).getD zero
  (Binary32.max speed zero, clamp zero one brake)

/-- Throttle and gear; the gears are numbered one higher than everywhere else. -/
def headInputs (physics : Bytes) : Option (F32 × ℤ) := do
  let throttle ← f32At physics offGas
  let gear ← i32At physics offGear
  return (if isFinite throttle then clamp zero one throttle else zero,
    if 0 ≤ gear ∧ gear ≤ 16 then gear - 1 else 0)

/-- The sample but for `airborne`, which is read last. -/
def decodeOnGround (physics statics : Bytes) (gameId : String) : Option RelayTelemetry := do
  guard (minPhysicsLen ≤ physics.length ∧ minStaticLen ≤ statics.length)
  guard (staticLayoutLooksRight statics)
  let maxRpm := ofInt (← i32At statics offMaxRpm)
  let rpm := ofInt (← i32At physics offRpms)
  guard (!le maxRpm zero && !lt maxPlausibleRpm maxRpm && le zero rpm && le rpm maxPlausibleRpm)
  let (throttle, gear) ← headInputs physics
  let (speed, brake) := headScreenFields physics
  return { gameId, rpm, maxRpm, throttle, gear, speed, brake, airborne := false }

def decode (physics statics : Bytes) (gameId : String) (gate : AirborneGate) :
    Option RelayTelemetry × AirborneGate :=
  match decodeOnGround physics statics gameId with
  | none => (none, gate)
  | some sample =>
      let (airborne, gate) := airborneWith gate physics
      (some { sample with airborne }, gate)

def decodeEvo (physics : Bytes) : Option RelayTelemetry := do
  guard (minPhysicsEvoLen ≤ physics.length)
  let rpm := ofInt (← i32At physics offRpms)
  let maxRpm := ofInt (← i32At physics offCurrentMaxRpm)
  guard (le minPlausibleRedline maxRpm && le maxRpm maxPlausibleRpm && le zero rpm &&
    le rpm maxPlausibleRpm)
  guard (!lt (mul maxRpm 0x3FC00000) rpm)
  let (throttle, gear) ← headInputs physics
  let (speed, brake) := headScreenFields physics
  return { gameId := idEvo, rpm, maxRpm, throttle, gear, speed, brake, airborne := false }

end TrueForce.Relay.AssettoCorsa
