import TrueForce.Foundation.Binary32
import TrueForce.Relay.RFactor2

/-!
# The RaceRoom decoder of the relay

One section at fixed offsets, refused for another major version of its layout.
-/

namespace TrueForce.Relay.RaceRoom

open Binary32
open RFactor2 (Bytes RelayTelemetry i32At u32At)

def id : String := "raceroom"

def sectionName : String := "$R3E"

def versionMajor : ℤ := 3

def offVersionMajor : ℕ := 0

def offCarSpeed : ℕ := 1392

def offEngineRps : ℕ := 1396

def offMaxEngineRps : ℕ := 1400

def offGear : ℕ := 1408

def offThrottle : ℕ := 1500

/-- Through the last field read. -/
def minLen : ℕ := offThrottle + 4

/-- `std::f32::consts::PI` -/
def pi : F32 := 0x40490FDB

/-- Radians per second to revolutions per minute. -/
def radSToRpm : F32 := div (ofNat 60) (mul (ofNat 2) pi)

def maxPlausibleRpm : F32 := ofNat 30000

def f32At (buf : Bytes) (off : ℕ) : Option F32 := u32At buf off

def decode (buf : Bytes) : Option RelayTelemetry := do
  guard (minLen ≤ buf.length)
  guard ((← i32At buf offVersionMajor) = versionMajor)
  let rpm := mul (← f32At buf offEngineRps) radSToRpm
  let maxRpm := mul (← f32At buf offMaxEngineRps) radSToRpm
  guard (isFinite rpm && isFinite maxRpm)
  guard (!le maxRpm zero && !lt maxPlausibleRpm maxRpm && le zero rpm && le rpm maxPlausibleRpm)
  let throttle ← f32At buf offThrottle
  let speed := ((f32At buf offCarSpeed).filter isFinite).getD zero
  let gear ← i32At buf offGear
  return {
    gameId := id
    rpm, maxRpm
    throttle := if isFinite throttle then clamp zero one throttle else zero
    gear := if -1 ≤ gear ∧ gear ≤ 15 then gear else 0
    speed := Binary32.max speed zero
    brake := zero
    airborne := false }

end TrueForce.Relay.RaceRoom
