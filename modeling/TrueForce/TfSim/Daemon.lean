import TrueForce.Foundation.Transition
import TrueForce.TfSim.Config

/-!
# The daemon loop

One iteration takes the telemetry and the captured samples that have arrived, may
open a session for either, and feeds the session's stream.  Everything it asks of
the machine (the files of the lease directory, the wheels found, who gets a lease,
whether a stream opens, what the mixer renders) comes with the iteration.  The
sample itself, the mixer's state and what the lights and the screen show do not
matter to which stream is fed and when.  The wheel of the configuration is the one
asked for once the environment's override is applied.
-/

namespace TrueForce.TfSim.Daemon

open RustText TrueForce.Transition

/-- A span in milliseconds, in the nanoseconds of the clock. -/
def milliseconds (span : ℕ) : ℕ := span * 1000000

def silenceTimeoutMs : ℕ := 500

def zeroForceStandbyMs : ℕ := 500

def maxGenMs : ℕ := 100

def capturedPrecedenceMs : ℕ := 250

def samplesPerMs : ℕ := 4

def openRetry : ℕ := milliseconds 5000

structure GenPlan where
  samples : ℕ
  audioMs : ℕ
  droppedBacklog : Bool

def planGeneration (elapsedMs : ℕ) : Option GenPlan :=
  let audioMs := min elapsedMs maxGenMs
  if audioMs = 0 then none
  else some { samples := audioMs * samplesPerMs, audioMs, droppedBacklog := maxGenMs < elapsedMs }

/-- How far the generation clock goes. -/
def GenPlan.advance (plan : GenPlan) (now lastGen : ℕ) : ℕ :=
  if plan.droppedBacklog then now else lastGen + milliseconds plan.audioMs

inductive GateAction where
  | stay
  | enterStandby
  | resume
  deriving DecidableEq, Repr

structure SilenceGate where
  zeroMs : ℕ
  standby : Bool
  deriving DecidableEq, Repr

namespace SilenceGate

def default : SilenceGate := { zeroMs := 0, standby := false }

def holdStandby (_gate : SilenceGate) : SilenceGate :=
  { zeroMs := zeroForceStandbyMs, standby := true }

def observe (gate : SilenceGate) (silent : Bool) (audioMs : ℕ) : SilenceGate × GateAction :=
  if !silent then
    if gate.standby then ({ zeroMs := 0, standby := false }, .resume)
    else ({ gate with zeroMs := 0 }, .stay)
  else if gate.standby then (gate, .stay)
  else if zeroForceStandbyMs ≤ gate.zeroMs + audioMs then
    ({ zeroMs := gate.zeroMs + audioMs, standby := true }, .enterStandby)
  else ({ gate with zeroMs := gate.zeroMs + audioMs }, .stay)

/-- What a block does to the gate, by what it was and what it heard. -/
theorem observe_cases (gate : SilenceGate) (silent : Bool) (audioMs : ℕ) :
    (gate.observe silent audioMs).2 = .stay ∧
        (gate.observe silent audioMs).1.standby = gate.standby ∧
        (gate.standby = true → silent = true) ∨
      (gate.observe silent audioMs).2 = .enterStandby ∧
        (gate.observe silent audioMs).1.standby = true ∧ gate.standby = false ∧ silent = true ∨
      (gate.observe silent audioMs).2 = .resume ∧
        (gate.observe silent audioMs).1.standby = false ∧ gate.standby = true ∧
        silent = false := by
  rw [observe]
  cases silent with
  | false =>
      cases parked : gate.standby with
      | false => simp
      | true => simp
  | true =>
      cases parked : gate.standby with
      | false =>
          by_cases elapsed : zeroForceStandbyMs ≤ gate.zeroMs + audioMs
          · simp [elapsed]
          · simp [elapsed]
      | true => simp [parked]

end SilenceGate

/-- The bits of an `f32`. -/
abbrev Sample := UInt32

/-- Both zeros compare equal to `0.0`. -/
def Sample.isZero (sample : Sample) : Bool := sample &&& 0x7fffffff == 0

structure G923Paths where
  /-- The device that publishes the live force, if one does. -/
  ffbOutput : Option Text
  kernelCarriesForce : Bool

/-- What one iteration finds. -/
structure Surroundings where
  /-- Nanoseconds. -/
  now : ℕ
  captured : List Sample
  /-- The game of the newest telemetry. -/
  latest : Option Text
  /-- The names of the files in the lease directory. -/
  leaseDir : List Text
  /-- `leds::other_owner` finds one. -/
  otherOwner : Bool
  /-- `RevLeds::discover` finds a rev display. -/
  revLeds : Bool
  g923 : Option G923Paths
  ddHidId : Option Text
  /-- The keys whose lock file is free to take. -/
  grants : Text → Bool
  /-- The stream of the wheel opens. -/
  opens : Bool
  /-- What the mixer renders for that many samples. -/
  rendered : ℕ → List Sample
  /-- A push to the stream goes through. -/
  pushes : Bool

inductive Ffb where
  | nativeEvdev
  | directInput
  | trueForceShim
  deriving DecidableEq, Repr

/-- The titles of the registry that the daemon has an id for. -/
def games : List (Text × Ffb) :=
  [("acc".toList, .trueForceShim), ("ac-evo".toList, .trueForceShim),
    ("assetto".toList, .nativeEvdev), ("ams2-pcars2".toList, .nativeEvdev),
    ("ams2-pcars2".toList, .nativeEvdev), ("rf2".toList, .directInput),
    ("lmu".toList, .directInput), ("iracing".toList, .directInput),
    ("raceroom".toList, .directInput), ("beamng".toList, .nativeEvdev),
    ("dirt-rally-2".toList, .nativeEvdev), ("codemasters".toList, .nativeEvdev),
    ("ea-wrc".toList, .nativeEvdev), ("f1".toList, .nativeEvdev), ("ets2".toList, .nativeEvdev),
    ("ats".toList, .nativeEvdev), ("codemasters".toList, .nativeEvdev),
    ("codemasters".toList, .nativeEvdev)]

def byLiveId (id : Text) : Option (Text × Ffb) := games.find? fun game => game.1 = id

/-- `setup_action` asks for the shim. -/
def nativeTrueforceReaches (game : Text × Ffb) (sdkTrueforce : Bool) : Bool :=
  game.2 = .trueForceShim && sdkTrueforce

/-- The name of the session marker of a game. -/
def markerName (id : Text) : Text :=
  "native.".toList ++ id.map fun c =>
    if (c.isAlphanum : Bool) || c == '.' || c == '_' || c == '-' then c else '-'

def anyActive (leaseDir : List Text) : Bool :=
  leaseDir.any fun name => "native.".toList.isPrefixOf name

def targetsDirectDrive (choice : WheelChoice) (around : Surroundings) : Bool :=
  match choice with
  | .directDrive => true
  | .g923 => false
  | .auto => around.g923.isNone

def nativeTrueforceHere (config : Config) (around : Surroundings) (id : Text) : Bool :=
  if around.leaseDir.contains (markerName id) then true
  else if !targetsDirectDrive config.wheel around then false
  else (byLiveId id).any fun game => nativeTrueforceReaches game true

def capturedStreamWanted (config : Config) (around : Surroundings) : Bool :=
  if anyActive around.leaseDir then false
  else !around.latest.any (nativeTrueforceHere config around)

def gameEnabled (config : Config) (id : Text) : Bool :=
  config.enabled && ((config.games.get? id).map GameConfig.enabled).getD true

/-- `effective_intensity` is a product of the two strengths. -/
def wantsHaptics (config : Config) (id : Text) : Bool :=
  0 < config.intensity &&
    0 < ((config.games.get? id).map GameConfig.intensity).getD defaultGameIntensity

/-- A lease that is held, by the wheel it is for. -/
structure Lease where
  key : Text
  deriving DecidableEq

inductive StreamKind where
  | dd
  | g923
  deriving DecidableEq, Repr

structure WheelStream where
  kind : StreamKind
  /-- The wheel it was opened on, as leases name it. -/
  wheel : Text
  /-- Sent into standby and not resumed since. -/
  parked : Bool
  deriving DecidableEq

namespace WheelStream

def standby (stream : WheelStream) : WheelStream :=
  match stream.kind with
  | .dd => { stream with parked := true }
  | .g923 => stream

def resume (stream : WheelStream) : WheelStream :=
  match stream.kind with
  | .dd => { stream with parked := false }
  | .g923 => stream

@[simp]
theorem standby_wheel (stream : WheelStream) : stream.standby.wheel = stream.wheel := by
  rw [standby]
  split <;> rfl

@[simp]
theorem resume_wheel (stream : WheelStream) : stream.resume.wheel = stream.wheel := by
  rw [resume]
  split <;> rfl

end WheelStream

structure OpenWheel where
  stream : WheelStream
  lease : Lease
  leaseKey : Text

inductive OpenError where
  | noHaptics
  | busy
  | io
  deriving DecidableEq, Repr

def unknownWheelKey : Text := "unknown-wheel".toList

def takeLease (around : Surroundings) (key : Text) : Option Lease :=
  if around.grants key then some { key } else none

/-- The lease is taken before the stream is opened. -/
def openWith (around : Surroundings) (kind : StreamKind) (owner : Option Text) :
    Except OpenError OpenWheel :=
  let leaseKey := owner.getD unknownWheelKey
  match takeLease around leaseKey with
  | none => .error .busy
  | some lease =>
      if around.opens then
        .ok { stream := { kind, wheel := leaseKey, parked := false }, lease, leaseKey }
      else .error .io

def openG923 (config : Config) (around : Surroundings) (paths : G923Paths) :
    Except OpenError OpenWheel :=
  if paths.ffbOutput.isNone && !paths.kernelCarriesForce &&
      !config.g923StreamWithoutFfbMirror then
    .error .noHaptics
  else openWith around .g923 paths.ffbOutput

def openDd (around : Surroundings) : Except OpenError OpenWheel :=
  openWith around .dd around.ddHidId

def openWheelStream (config : Config) (around : Surroundings) : Except OpenError OpenWheel :=
  match config.wheel, around.g923 with
  | .directDrive, _ => openDd around
  | .g923, none => .error .io
  | .g923, some paths => openG923 config around paths
  | .auto, some paths => openG923 config around paths
  | .auto, none => openDd around

/-- `CAPTURED_GAME` -/
def capturedGame : Text := "captured".toList

inductive Source where
  | synthesised
  | captured
  deriving DecidableEq, Repr

/-- What an observer of the daemon sees. -/
inductive Entry where
  | opened
  /-- A block was rendered. -/
  | block (silent : Bool)
  | standby
  /-- The lease was asked for because force returned. -/
  | asked (granted : Bool)
  /-- The lease was asked for because captured samples arrived. -/
  | retaken (granted : Bool)
  /-- Samples went to a wheel's stream while the daemon held a lease, for a game whose own
  TrueForce reached the wheel or not. -/
  | push (source : Source) (wheel : Text) (held : Option Lease) (native : Bool)
  | stopped
  deriving DecidableEq

structure Active where
  stream : Option WheelStream
  game : Text
  lastTelemetry : ℕ
  lastGen : ℕ
  lastCaptured : Option ℕ
  gate : SilenceGate
  lease : Option Lease
  leaseKey : Text
  warnedBusy : Bool
  deriving DecidableEq

structure State where
  active : Option Active
  nextOpenAttempt : ℕ
  /-- Newest first. -/
  log : List Entry
  deriving DecidableEq

def State.initial (now : ℕ) : State := { active := none, nextOpenAttempt := now, log := [] }

def State.record (state : State) (entry : Entry) : State :=
  { state with log := entry :: state.log }

/-- A session that drives the lights only. -/
def lightsOnly (around : Surroundings) (id : Text) : Active where
  stream := none
  game := id
  lastTelemetry := around.now
  lastGen := around.now
  lastCaptured := none
  gate := .default
  lease := none
  leaseKey := []
  warnedBusy := false

def streaming (around : Surroundings) (game : Text) (lastCaptured : Option ℕ)
    (wheel : OpenWheel) : Active where
  stream := some wheel.stream
  game
  lastTelemetry := around.now
  lastGen := around.now
  lastCaptured
  gate := .default
  lease := some wheel.lease
  leaseKey := wheel.leaseKey
  warnedBusy := false

def State.retryLater (state : State) (around : Surroundings) : State :=
  { state with nextOpenAttempt := around.now + openRetry }

def State.begin (state : State) (active : Active) : State :=
  { state with active := some active, log := .opened :: state.log }

/-- The lights of a game whose stream stays closed, if there are any. -/
def openLights (around : Surroundings) (id : Text) (state : State) : State :=
  if around.revLeds then state.begin (lightsOnly around id) else state.retryLater around

/-- Telemetry of an enabled game when no session is active. -/
def openForTelemetry (config : Config) (around : Surroundings) (id : Text) (state : State) :
    State :=
  if state.nextOpenAttempt ≤ around.now ∧
      (!wantsHaptics config id || nativeTrueforceHere config around id) = true ∧
      config.leds = true ∧ around.otherOwner = false then
    openLights around id state
  else if state.nextOpenAttempt ≤ around.now ∧ nativeTrueforceHere config around id = true then
    state.retryLater around
  else if state.nextOpenAttempt ≤ around.now then
    match openWheelStream config around with
    | .ok wheel => state.begin (streaming around id none wheel)
    | .error .noHaptics =>
        if config.leds && !around.otherOwner then openLights around id state
        else state.retryLater around
    | .error _ => state.retryLater around
  else state

def takeTelemetry (config : Config) (around : Surroundings) (state : State) : State :=
  match around.latest with
  | none => state
  | some id =>
      if gameEnabled config id then
        match state.active with
        | some active =>
            { state with active := some { active with game := id, lastTelemetry := around.now } }
        | none => openForTelemetry config around id state
      else state

def isNative (config : Config) (around : Surroundings) (active : Active) : Bool :=
  nativeTrueforceHere config around active.game

/-- Samples go to the session's stream, if it has one. -/
def State.pushTo (state : State) (config : Config) (around : Surroundings) (source : Source)
    (active : Active) : State :=
  match active.stream with
  | some stream =>
      state.record (.push source stream.wheel active.lease (isNative config around active))
  | none => state

theorem State.pushTo_active (state : State) (config : Config) (around : Surroundings)
    (source : Source) (active : Active) :
    (state.pushTo config around source active).active = state.active := by
  rw [State.pushTo]
  split <;> rfl

/-- Take the lease back for captured samples, where standby gave it up. -/
def retake (around : Surroundings) (active : Active) : Active × List Entry :=
  match active.lease with
  | some _ => (active, [])
  | none =>
      match takeLease around active.leaseKey with
      | some lease =>
          ({ active with
              lease := some lease
              warnedBusy := false
              stream := active.stream.map WheelStream.resume
              gate := .default }, [.retaken true])
      | none => ({ active with warnedBusy := true }, [.retaken false])

def takeCaptured (config : Config) (around : Surroundings) (state : State) : State :=
  if around.captured.isEmpty then state
  else
    match state.active with
    | some active =>
        let (active, entries) := retake around { active with
          lastTelemetry := around.now, lastGen := around.now, lastCaptured := some around.now }
        let state := { state with active := some active, log := entries ++ state.log }
        if active.lease.isSome then state.pushTo config around .captured active else state
    | none =>
        if state.nextOpenAttempt ≤ around.now ∧ capturedStreamWanted config around = true then
          match openWheelStream config around with
          | .ok wheel =>
              state.begin (streaming around capturedGame (some around.now) wheel)
          | .error _ => state.retryLater around
        else state

def capturedHasPrecedence (age : Option ℕ) : Bool :=
  age.any fun age => age < milliseconds capturedPrecedenceMs

/-- Act on what the gate wants done about a block. -/
def followGate (around : Surroundings) (active : Active) : GateAction → Active × List Entry
  | .stay => (active, [])
  | .enterStandby =>
      ({ active with stream := active.stream.map WheelStream.standby, lease := none },
        [.standby])
  | .resume =>
      match takeLease around active.leaseKey with
      | some lease =>
          ({ active with
              lease := some lease
              warnedBusy := false
              stream := active.stream.map WheelStream.resume }, [.asked true])
      | none =>
          ({ active with gate := active.gate.holdStandby, warnedBusy := true }, [.asked false])

/-- Render what is due and feed it to the stream; a push that fails ends the session. -/
def generate (config : Config) (around : Surroundings) (active : Active) (state : State) :
    State :=
  match planGeneration ((around.now - active.lastGen) / milliseconds 1) with
  | none => state
  | some plan =>
      let lastGen := plan.advance around.now active.lastGen
      let silent := (around.rendered plan.samples).all Sample.isZero
      let (gate, action) := active.gate.observe silent plan.audioMs
      let (active, entries) := followGate around { active with lastGen, gate } action
      let state :=
        { state with active := some active, log := entries ++ .block silent :: state.log }
      if active.gate.standby then state
      else
        let state := state.pushTo config around .synthesised active
        if active.stream.isSome && !around.pushes then
          { state with active := none, log := .stopped :: state.log }
        else state

/-- The watchdog and the generation for the active session. -/
def feed (config : Config) (around : Surroundings) (state : State) : State :=
  match state.active with
  | none => state
  | some active =>
      if capturedHasPrecedence (active.lastCaptured.map fun time => around.now - time) then state
      else if milliseconds silenceTimeoutMs ≤ around.now - active.lastTelemetry then
        { state with active := none, log := .stopped :: state.log }
      else generate config around active state

def iterate (config : Config) (state : State) (around : Surroundings) : State :=
  feed config around (takeCaptured config around (takeTelemetry config around state))

def system (config : Config) : System State Surroundings where
  initial state := ∃ now, state = State.initial now
  step state around := some (iterate config state around)

/-- A direct-drive wheel and telemetry of a game, `time` milliseconds on. -/
def driving (game : Text) (time : ℕ) (block : Sample) (free : Bool) : Surroundings where
  now := milliseconds time
  captured := []
  latest := some game
  leaseDir := []
  otherOwner := false
  revLeds := true
  g923 := none
  ddHidId := some "0003:046D:C276.0003".toList
  grants _ := free
  opens := true
  rendered count := List.replicate count block
  pushes := true

end TrueForce.TfSim.Daemon
