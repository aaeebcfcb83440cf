import TrueForce.Foundation.RustText
import TrueForce.Udp.Telemetry

/-!
# The wire format of the shared-memory relay

A datagram is read field by field behind its magic and version.  Fields appended
since are read when the datagram is long enough, and are zero otherwise.
-/

namespace TrueForce.Udp.Relay

open Binary32 ByteBuffer RustText

def idText : Text := "relay".toList

/-- `GAME_IDS` -/
def gameIds : List Text :=
  ["ets2".toList, "ats".toList, "iracing".toList, "raceroom".toList, "assetto".toList, "acc".toList,
    "ac-evo".toList, "lmu".toList, "rf2".toList, idText]

def gameIdLen : ℕ := 8

/-- `LTFR` -/
def magic : Bytes := [0x4C, 0x54, 0x46, 0x52]

def flagAirborne : UInt8 := 1

def version : UInt8 := 2

def packetLen : ℕ := 28

structure RelayTelemetry where
  gameId : Text
  rpm : F32
  maxRpm : F32
  throttle : F32
  gear : Int16
  speed : F32
  brake : F32
  airborne : Bool
  deriving DecidableEq

namespace RelayTelemetry

def toTelemetry (sample : RelayTelemetry) : Telemetry where
  rpm := sample.rpm
  maxRpm := sample.maxRpm
  throttle := clamp zero one sample.throttle
  speed := if isFinite sample.speed then Binary32.max sample.speed zero else zero
  brake := if isFinite sample.brake then clamp zero one sample.brake else zero
  gear := Int8.ofInt (Max.max (-128) (min 127 sample.gear.toInt))
  airborne := sample.airborne

end RelayTelemetry

/-- An appended field, absent on a shorter packet. -/
def appendedF32 (pkt : Bytes) (off : ℕ) : F32 := ((f32At pkt off).filter isFinite).getD zero

/-- Bytes that are not UTF-8 are the text of no id. -/
def gameIdFromWire (raw : Bytes) : Text :=
  let name := raw.takeWhile (· ≠ 0)
  (gameIds.find? fun id => utf8 id = name).getD idText

def decode (pkt : Bytes) : Option RelayTelemetry := do
  guard (packetLen ≤ pkt.length)
  guard (pkt.take 4 = magic ∧ pkt[4]? = some version)
  let gameId := gameIdFromWire ((pkt.drop 6).take gameIdLen)
  let rpm ← f32At pkt 14
  let maxRpm ← f32At pkt 18
  let throttle ← f32At pkt 22
  let gear ← u16At pkt 26
  guard (isFinite rpm && isFinite maxRpm && isFinite throttle)
  let flags ← pkt[5]?
  return {
    gameId, rpm, maxRpm, throttle
    gear := gear.toInt16
    speed := appendedF32 pkt 32
    brake := appendedF32 pkt 36
    airborne := flags &&& flagAirborne ≠ 0 }

def parse (pkt : Bytes) : Option (Text × Telemetry) := do
  let sample ← decode pkt
  guard (!le sample.maxRpm zero)
  return (sample.gameId, sample.toTelemetry)

end TrueForce.Udp.Relay
