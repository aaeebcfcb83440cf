import TrueForce.Udp.RelayWire

/-!
# The telemetry decoders of the daemon

Each game family has a parser for its datagrams.  Two formats omit the redline,
and their decoders keep the highest engine speed seen instead.
-/

namespace TrueForce.Udp

open Binary32 ByteBuffer RustText

/-- The `f1` and the `beamng` decoder, which keep the same state. -/
structure Decoder where
  runningMaxRpm : F32 := zero
  deriving DecidableEq

namespace Decoder

def reset (_ : Decoder) : Decoder := { runningMaxRpm := zero }

def learn (decoder : Decoder) (rpm : F32) : Decoder where
  runningMaxRpm := Binary32.max decoder.runningMaxRpm rpm

def maxRpm (decoder : Decoder) : F32 := Binary32.max decoder.runningMaxRpm one

end Decoder

namespace Codemasters

def idDirtRally2 : Text := "dirt-rally-2".toList

def idFamily : Text := "codemasters".toList

-- Indices into the array of floats.

def fSpeed : ℕ := 7

def fThrottle : ℕ := 29

def fRpm : ℕ := 37

def fMaxRpm : ℕ := 63

def rpmScale : F32 := ofNat 10

def rpmCeiling : F32 := ofNat 100000

def baseLen : ℕ := 64 * 4

def dr2Len : ℕ := 66 * 4

def maxLen : ℕ := 70 * 4

def f32At (pkt : Bytes) (idx : ℕ) : Option F32 := Udp.f32At pkt (idx * 4)

def parse (pkt : Bytes) : Option (Text × Telemetry) := do
  guard (baseLen ≤ pkt.length ∧ pkt.length ≤ maxLen ∧ pkt.length % 4 = 0)
  let speed ← f32At pkt fSpeed
  let throttle ← f32At pkt fThrottle
  let rpm := mul (← f32At pkt fRpm) rpmScale
  let maxRpm := mul (← f32At pkt fMaxRpm) rpmScale
  guard (isFinite rpm && isFinite maxRpm && isFinite throttle && isFinite speed)
  guard (!(lt rpm zero || le maxRpm zero || lt rpmCeiling maxRpm || lt rpmCeiling rpm))
  let id := if pkt.length = dr2Len then idDirtRally2 else idFamily
  return (id, { rpm, maxRpm, throttle := clamp zero one throttle, speed })

end Codemasters

/-- The ceiling that the other parsers share. -/
def rpmCeiling : F32 := ofNat 30000

namespace F1

def idText : Text := "f1".toList

def carTelemetryPacketId : UInt8 := 6

def entryLen : ℕ := 60

def numCars : ℕ := 22

-- Offsets within the entry of a car.

def eSpeed : ℕ := 0

def eThrottle : ℕ := 2

def eRpm : ℕ := 16

def kmhToMs : F32 := div (ofNat 1000) (ofNat 3600)

structure Header where
  len : ℕ
  packetId : UInt8
  playerIndex : ℕ

/-- The length of the header and the offsets of the packet id and of the player's index. -/
def layout (format : UInt16) : Option (ℕ × ℕ × ℕ) :=
  if format = 2022 then some (24, 5, 22)
  else if 2023 ≤ format ∧ format ≤ 2025 then some (29, 6, 27)
  else none

def parseHeader (pkt : Bytes) : Option Header := do
  let (len, idOff, playerOff) ← layout (← u16At pkt 0)
  let playerIndex := (← pkt[playerOff]?).toNat
  guard (playerIndex < numCars)
  return { len, packetId := ← pkt[idOff]?, playerIndex }

/-- A rejected datagram leaves the decoder alone. -/
def parse (decoder : Decoder) (pkt : Bytes) : Option ((Text × Telemetry) × Decoder) := do
  let header ← parseHeader pkt
  guard (header.packetId = carTelemetryPacketId)
  guard (header.len + numCars * entryLen ≤ pkt.length)
  let base := header.len + header.playerIndex * entryLen
  let speed := mul (ofNat (← u16At pkt (base + eSpeed)).toNat) kmhToMs
  let throttle ← f32At pkt (base + eThrottle)
  let rpm := ofNat (← u16At pkt (base + eRpm)).toNat
  guard (!(!isFinite throttle || le rpm zero || lt rpmCeiling rpm))
  let decoder := decoder.learn rpm
  return ((idText, { rpm, maxRpm := decoder.maxRpm, throttle := clamp zero one throttle, speed }),
    decoder)

end F1

namespace Wrc

def idText : Text := "ea-wrc".toList

def packetLen : ℕ := 16

def offSpeed : ℕ := 0

def offRpm : ℕ := 4

def offMaxRpm : ℕ := 8

def offThrottle : ℕ := 12

def parse (pkt : Bytes) : Option (Text × Telemetry) := do
  guard (pkt.length = packetLen)
  let speed ← f32At pkt offSpeed
  let rpm ← f32At pkt offRpm
  let maxRpm ← f32At pkt offMaxRpm
  let throttle ← f32At pkt offThrottle
  guard (isFinite speed && isFinite throttle)
  guard (!(lt rpm zero || le maxRpm zero || lt rpmCeiling rpm || lt rpmCeiling maxRpm))
  return (idText, { rpm, maxRpm, throttle := clamp zero one throttle, speed })

end Wrc

namespace Pcars

def idFamily : Text := "ams2-pcars2".toList

def telemetryLen : ℕ := 559

def offPacketType : ℕ := 10

def packetTypeTelemetry : UInt8 := 0

def offThrottle : ℕ := 30

def offSpeed : ℕ := 36

def offRpm : ℕ := 40

def offMaxRpm : ℕ := 42

def parse (pkt : Bytes) : Option (Text × Telemetry) := do
  guard (pkt.length = telemetryLen)
  guard ((← pkt[offPacketType]?) = packetTypeTelemetry)
  let throttle := div (ofNat (← pkt[offThrottle]?).toNat) (ofNat 255)
  let speed ← f32At pkt offSpeed
  let rpm := ofNat (← u16At pkt offRpm).toNat
  let maxRpm := ofNat (← u16At pkt offMaxRpm).toNat
  guard (!(le maxRpm zero || !isFinite speed))
  return (idFamily, { rpm, maxRpm, throttle, speed })

end Pcars

namespace Beamng

def idText : Text := "beamng".toList

def lenNoId : ℕ := 92

def lenWithId : ℕ := 96

def offGear : ℕ := 10

def offSpeed : ℕ := 12

def offRpm : ℕ := 16

def offShowLights : ℕ := 44

def offThrottle : ℕ := 48

def offBrake : ℕ := 52

def offClutch : ℕ := 56

def dlPitspeed : UInt32 := 0x00000008

def dlTc : UInt32 := 0x00000010

def dlAbs : UInt32 := 0x00000400

/-- Gears are numbered from reverse on the wire. -/
def gearOf (wire : UInt8) : Int8 := Int8.ofInt (Max.max (-128) (wire.toInt8.toInt - 1))

/-- A rejected datagram leaves the decoder alone. -/
def parse (decoder : Decoder) (pkt : Bytes) : Option ((Text × Telemetry) × Decoder) := do
  guard (pkt.length = lenNoId ∨ pkt.length = lenWithId)
  let speed ← f32At pkt offSpeed
  let rpm ← f32At pkt offRpm
  let throttle ← f32At pkt offThrottle
  guard (!(!isFinite speed || !isFinite throttle || le rpm zero || lt rpmCeiling rpm))
  let decoder := decoder.learn rpm
  let lamps := (u32At pkt offShowLights).getD 0
  return ((idText, {
    rpm, speed
    maxRpm := decoder.maxRpm
    throttle := clamp zero one throttle
    pitLimiter := lamps &&& dlPitspeed ≠ 0
    gear := (pkt[offGear]?).elim 0 gearOf
    brake := clamp zero one ((f32At pkt offBrake).getD zero)
    clutch := clamp zero one ((f32At pkt offClutch).getD zero)
    absActive := lamps &&& dlAbs ≠ 0
    tractionControl := lamps &&& dlTc ≠ 0 }), decoder)

end Beamng

structure Decoders where
  f1 : Decoder := {}
  beamng : Decoder := {}
  deriving DecidableEq

inductive Parser where
  | codemasters
  | f1
  | wrc
  | pcars
  | beamng
  | relay
  deriving DecidableEq

namespace Decoders

def parse (decoders : Decoders) (pkt : Bytes) :
    Parser → Option ((Text × Telemetry) × Decoders)
  | .codemasters => (Codemasters.parse pkt).map (·, decoders)
  | .f1 => (F1.parse decoders.f1 pkt).map fun (sample, f1) => (sample, { decoders with f1 })
  | .wrc => (Wrc.parse pkt).map (·, decoders)
  | .pcars => (Pcars.parse pkt).map (·, decoders)
  | .beamng =>
      (Beamng.parse decoders.beamng pkt).map fun (sample, beamng) =>
        (sample, { decoders with beamng })
  | .relay => (Relay.parse pkt).map (·, decoders)

def reset (decoders : Decoders) : Decoders where
  f1 := decoders.f1.reset
  beamng := decoders.beamng.reset

end Decoders

end TrueForce.Udp
