import TrueForce.Relay.AssettoCorsa
import TrueForce.Relay.IRacing
import TrueForce.Relay.RaceRoom

/-!
# The games of the relay

Every tick as many bytes of a game's sections are copied as its entry says, and what
was copied goes to the decoder of the game.
-/

namespace TrueForce.Relay

open RFactor2 (Bytes RelayTelemetry Rounding)
open AssettoCorsa (AirborneGate)

structure Game where
  id : String
  sectionName : String
  /-- Name of a second section, and how much of it to read. -/
  auxSection : Option (String × ℕ)
  readLen : ℕ
  deriving DecidableEq

def defaultReadLen : ℕ := 64 * 1024

def iracing : Game where
  id := "iracing"
  sectionName := "Local\\IRSDKMemMapFileName"
  auxSection := none
  readLen := defaultReadLen

def raceroom : Game where
  id := RaceRoom.id
  sectionName := RaceRoom.sectionName
  auxSection := none
  readLen := defaultReadLen

def assetto : Game where
  id := AssettoCorsa.id
  sectionName := AssettoCorsa.sectionPhysics
  auxSection := some (AssettoCorsa.sectionStatic, defaultReadLen)
  readLen := defaultReadLen

def acc : Game where
  id := AssettoCorsa.idAcc
  sectionName := AssettoCorsa.sectionPhysics
  auxSection := some (AssettoCorsa.sectionStatic, defaultReadLen)
  readLen := defaultReadLen

def acEvo : Game where
  id := AssettoCorsa.idEvo
  sectionName := AssettoCorsa.sectionPhysicsEvo
  auxSection := none
  readLen := defaultReadLen

def lmu : Game where
  id := RFactor2.idLmu
  sectionName := RFactor2.sectionTelemetry
  auxSection := some (RFactor2.sectionScoring, RFactor2.scoringLen)
  readLen := RFactor2.telemetryLen

def rf2 : Game where
  id := RFactor2.idRf2
  sectionName := RFactor2.sectionTelemetry
  auxSection := some (RFactor2.sectionScoring, RFactor2.scoringLen)
  readLen := RFactor2.telemetryLen

/-- `GAMES` -/
def games : List Game := [iracing, raceroom, assetto, acc, acEvo, lmu, rf2]

/-- Up to `limit` bytes of a section. -/
def readSection (content : Bytes) (limit : ℕ) : Bytes :=
  content.take (min content.length limit)

/-- What a turn of the loop of `run_stream` makes of the bytes it has read. -/
def sampleFrom (unit : Rounding) (game : String) (gate : AirborneGate) (bytes : Bytes)
    (auxBytes : Option Bytes) : Option RelayTelemetry × AirborneGate :=
  if game = RaceRoom.id then (RaceRoom.decode bytes, gate)
  else if game = AssettoCorsa.idEvo then (AssettoCorsa.decodeEvo bytes, gate)
  else if game = AssettoCorsa.id ∨ game = AssettoCorsa.idAcc then
    let id := if game = AssettoCorsa.idAcc then AssettoCorsa.idAcc else AssettoCorsa.id
    match auxBytes with
    | none => (none, gate)
    | some statics => AssettoCorsa.decode bytes statics id gate
  else if game = RFactor2.idRf2 ∨ game = RFactor2.idLmu then
    let id := if game = RFactor2.idLmu then RFactor2.idLmu else RFactor2.idRf2
    (auxBytes.bind fun scoring => RFactor2.decode unit bytes scoring id, gate)
  else (IRacing.decode bytes, gate)

section Dispatch

variable (unit : Rounding) (gate : AirborneGate) (bytes : Bytes) (aux : Option Bytes)

theorem sampleFrom_raceRoom :
    sampleFrom unit RaceRoom.id gate bytes aux = (RaceRoom.decode bytes, gate) :=
  if_pos rfl

theorem sampleFrom_evo :
    sampleFrom unit AssettoCorsa.idEvo gate bytes aux = (AssettoCorsa.decodeEvo bytes, gate) := by
  rw [sampleFrom, if_neg (by decide), if_pos rfl]

theorem sampleFrom_assettoCorsa {game : String}
    (either : game = AssettoCorsa.id ∨ game = AssettoCorsa.idAcc) :
    sampleFrom unit game gate bytes aux =
      aux.elim (none, gate) fun statics => AssettoCorsa.decode bytes statics game gate := by
  rcases either with rfl | rfl
  · rw [sampleFrom, if_neg (by decide), if_neg (by decide), if_pos (Or.inl rfl)]
    cases aux <;> rfl
  · rw [sampleFrom, if_neg (by decide), if_neg (by decide), if_pos (Or.inr rfl)]
    cases aux <;> rfl

theorem sampleFrom_rFactor2 {game : String}
    (either : game = RFactor2.idRf2 ∨ game = RFactor2.idLmu) :
    sampleFrom unit game gate bytes aux =
      (aux.bind fun scoring => RFactor2.decode unit bytes scoring game, gate) := by
  rcases either with rfl | rfl
  · rw [sampleFrom, if_neg (by decide), if_neg (by decide), if_neg (by decide),
      if_pos (Or.inl rfl)]
    rfl
  · rw [sampleFrom, if_neg (by decide), if_neg (by decide), if_neg (by decide),
      if_pos (Or.inr rfl)]
    rfl

theorem sampleFrom_iracing :
    sampleFrom unit iracing.id gate bytes aux = (IRacing.decode bytes, gate) := by
  rw [sampleFrom, if_neg (by decide), if_neg (by decide), if_neg (by decide), if_neg (by decide)]

end Dispatch

/-- A turn of the loop, where the second section has a content unless it cannot be opened. -/
def streamTick (unit : Rounding) (game : Game) (gate : AirborneGate) (content : Bytes)
    (aux : Option Bytes) : Option RelayTelemetry × AirborneGate :=
  sampleFrom unit game.id gate (readSection content game.readLen)
    (game.auxSection.bind fun second => aux.map fun bytes => readSection bytes second.2)

/-- The turn that the loop would take with the complete sections. -/
def completeTick (unit : Rounding) (game : Game) (gate : AirborneGate) (content : Bytes)
    (aux : Option Bytes) : Option RelayTelemetry × AirborneGate :=
  sampleFrom unit game.id gate content (game.auxSection.bind fun _ => aux)

/-- The samples of turn after turn, which share the gate of a session. -/
def samples (tick : AirborneGate → Bytes → Option Bytes → Option RelayTelemetry × AirborneGate)
    (gate : AirborneGate) : List (Bytes × Option Bytes) → List (Option RelayTelemetry)
  | [] => []
  | (content, aux) :: turns =>
      let (sample, gate) := tick gate content aux
      sample :: samples tick gate turns

end TrueForce.Relay
