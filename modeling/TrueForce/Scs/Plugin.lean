import TrueForce.Foundation.Transition
import TrueForce.Udp.RelayCodec

/-!
# The telemetry plugin of the truck simulators

The game loads the plugin, hands it channel values and events, and unloads it.  The
callbacks keep the last values in cells; at the end of a frame they go out as one relay
packet, and when the game pauses or unloads the plugin a packet with the engine off does.
-/

namespace TrueForce.Scs

open Binary32 ByteBuffer RustText TrueForce.Transition TrueForce.Udp.Relay

def scsResultOk : ℤ := 0

def scsResultUnsupported : ℤ := -1

def telemetryVersion100 : UInt32 := 0x10000

def telemetryVersion101 : UInt32 := 0x10001

def valueTypeS32 : UInt32 := 2

def valueTypeFloat : UInt32 := 5

/-- `scs_value_t`: the type and the first four bytes of the union. -/
structure ScsValue where
  valueType : UInt32
  storage : UInt32
  deriving DecidableEq

namespace ScsValue

def asFloat (value : ScsValue) : Option F32 :=
  if value.valueType = valueTypeFloat then some value.storage else none

def asS32 (value : ScsValue) : Option Int32 :=
  if value.valueType = valueTypeS32 then some value.storage.toInt32 else none

end ScsValue

/-- A C string of the game, without its NUL; a NULL pointer is none. -/
abbrev ScsString := Option Text

def cstrEq (text : ScsString) (expected : Text) : Bool := text = some expected

def configIdTruck : Text := "truck".toList

def configAttributeRpmLimit : Text := "rpm.limit".toList

/-- A configuration event, with the attributes in front of the one whose name is NULL. -/
structure Configuration where
  id : ScsString
  attributes : List (Text × ScsValue)

def isPositive (bits : F32) : Bool := isFinite bits && lt zero bits

def rpmLimit (named : Text × ScsValue) : Option F32 :=
  if cstrEq (some named.1) configAttributeRpmLimit then named.2.asFloat.filter isPositive else none

def rpmLimitFromConfiguration (info : Option Configuration) : Option F32 := do
  let info ← info
  guard (cstrEq info.id configIdTruck)
  info.attributes.findSome? rpmLimit

structure State where
  /-- The game has the plugin loaded: `scs_telemetry_init` answered OK. -/
  loaded : Bool
  socket : Bool
  gameId : Text
  rpm : F32
  maxRpm : F32
  throttle : F32
  speed : F32
  brake : F32
  gear : Int32
  paused : Bool
  /-- What was handed to the socket. -/
  sent : List RelayTelemetry

/-- `f32::abs` -/
def fabs (bits : F32) : F32 := bits &&& 0x7FFFFFFF

namespace State

def new : State where
  loaded := false
  socket := false
  gameId := idText
  rpm := zero
  maxRpm := zero
  throttle := zero
  speed := zero
  brake := zero
  gear := 0
  paused := true
  sent := []

/-- `!max_rpm.is_finite() || max_rpm <= 0.0` refuses. -/
def sample (state : State) : Option RelayTelemetry :=
  if (!isFinite state.maxRpm || le state.maxRpm zero) = true then none
  else some {
    gameId := state.gameId
    rpm := Binary32.max state.rpm zero
    maxRpm := state.maxRpm
    throttle := clamp zero one state.throttle
    gear := Int16.ofInt (Max.max (-32768) (min 32767 state.gear.toInt))
    speed := fabs state.speed
    brake := clamp zero one state.brake
    airborne := false }

def send (state : State) (telemetry : RelayTelemetry) : State :=
  if state.socket then { state with sent := state.sent ++ [telemetry] } else state

def engineOff (state : State) : RelayTelemetry where
  gameId := state.gameId
  rpm := zero
  maxRpm := state.maxRpm
  throttle := zero
  gear := 0
  speed := zero
  brake := zero
  airborne := false

def sendEngineOff (state : State) : State :=
  if lt zero state.maxRpm then state.send state.engineOff else state

def channelRpm (state : State) (value : Option ScsValue) : State :=
  match value.bind ScsValue.asFloat with
  | some rpm => { state with rpm }
  | none => state

def channelThrottle (state : State) (value : Option ScsValue) : State :=
  match value.bind ScsValue.asFloat with
  | some throttle => { state with throttle }
  | none => state

def channelSpeed (state : State) (value : Option ScsValue) : State :=
  match value.bind ScsValue.asFloat with
  | some speed => { state with speed }
  | none => state

def channelBrake (state : State) (value : Option ScsValue) : State :=
  match value.bind ScsValue.asFloat with
  | some brake => { state with brake }
  | none => state

def channelGear (state : State) (value : Option ScsValue) : State :=
  match value.bind ScsValue.asS32 with
  | some gear => { state with gear }
  | none => state

def onFrameEnd (state : State) : State :=
  if state.paused then state
  else match state.sample with
    | some telemetry => state.send telemetry
    | none => state

def onPaused (state : State) : State := { state with paused := true }.sendEngineOff

def onStarted (state : State) : State := { state with paused := false }

def onConfiguration (state : State) (info : Option Configuration) : State :=
  match rpmLimitFromConfiguration info with
  | some maxRpm => { state with maxRpm }
  | none => state

end State

/-- What the game passes to `scs_telemetry_init`, and whether the socket opens. -/
structure InitParams where
  version : UInt32
  registersEvents : Bool
  registersChannels : Bool
  gameId : ScsString
  socket : Bool

def gameIdEut2 : Text := "eut2".toList

def gameIdAts : Text := "ats".toList

def relayGameId (gameId : ScsString) : Text :=
  if cstrEq gameId gameIdEut2 then "ets2".toList
  else if cstrEq gameId gameIdAts then "ats".toList
  else idText

namespace State

/-- `scs_telemetry_init`; a NULL pointer for the parameters is none. -/
def init (state : State) (params : Option InitParams) : State × ℤ :=
  match params with
  | none => (state, scsResultUnsupported)
  | some params =>
      if params.version ≠ telemetryVersion100 ∧ params.version ≠ telemetryVersion101 then
        (state, scsResultUnsupported)
      else if !(params.registersEvents && params.registersChannels) then
        (state, scsResultUnsupported)
      else
        ({ state with
          loaded := true
          socket := params.socket
          paused := true
          rpm := zero
          maxRpm := zero
          throttle := zero
          speed := zero
          brake := zero
          gear := 0
          gameId := relayGameId params.gameId }, scsResultOk)

def shutdown (state : State) : State :=
  { state.sendEngineOff with socket := false, loaded := false }

end State

inductive Event where
  | init (params : Option InitParams)
  | rpm (value : Option ScsValue)
  | throttle (value : Option ScsValue)
  | speed (value : Option ScsValue)
  | brake (value : Option ScsValue)
  | gear (value : Option ScsValue)
  | frameEnd
  | paused
  | started
  | configuration (info : Option Configuration)
  | shutdown

def State.callback (state : State) : Event → State
  | .init params => (state.init params).1
  | .rpm value => state.channelRpm value
  | .throttle value => state.channelThrottle value
  | .speed value => state.channelSpeed value
  | .brake value => state.channelBrake value
  | .gear value => state.channelGear value
  | .frameEnd => state.onFrameEnd
  | .paused => state.onPaused
  | .started => state.onStarted
  | .configuration info => state.onConfiguration info
  | .shutdown => state.shutdown

/-- The game initialises a plugin that is not loaded, and calls back one that is. -/
def plugin : System State Event where
  initial state := state = .new
  step state event :=
    match event with
    | .init _ => if state.loaded then none else some (state.callback event)
    | _ => if state.loaded then some (state.callback event) else none

end TrueForce.Scs
