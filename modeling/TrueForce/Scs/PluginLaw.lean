import TrueForce.Foundation.Register
import TrueForce.Scs.Plugin

/-!
# What the plugin tells the daemon

Whatever the game delivers, a packet names one of the games, has a redline, and has only
values that the daemon takes or drops; once the game is paused or has unloaded the plugin,
the last packet it sent has the engine off.

The cells of the plugin are a memory of the callbacks: each holds what its own channel
delivered last, since the plugin was loaded last.  A packet is therefore a function of the
callbacks before it, and the packets of a whole run are one of its callbacks.
-/

namespace TrueForce.Scs

open Binary32 ByteBuffer RustText TrueForce.Transition TrueForce.Udp TrueForce.Udp.Relay

/-- The ids the plugin sends under. -/
def senders : List Text := ["ets2".toList, "ats".toList, idText]

theorem mem_gameIds_of_mem_senders {id : Text} (known : id ∈ senders) : id ∈ gameIds := by
  have every : ∀ id ∈ senders, id ∈ gameIds := by decide
  exact every id known

/-- No number, or one between the bounds. -/
def Within (low high bits : F32) : Prop :=
  isNan bits = true ∨ (le low bits = true ∧ le bits high = true)

/-- A packet as the plugin sends it. -/
structure Sane (telemetry : RelayTelemetry) : Prop where
  sender : telemetry.gameId ∈ senders
  redline : isPositive telemetry.maxRpm = true
  rpm : le zero telemetry.rpm = true
  throttle : Within zero one telemetry.throttle
  brake : Within zero one telemetry.brake
  speed : isNan telemetry.speed = true ∨ le zero telemetry.speed = true
  grounded : telemetry.airborne = false

/-- The packet that turns the engine off. -/
def IsOff (telemetry : RelayTelemetry) : Prop :=
  telemetry = { telemetry with
    rpm := zero
    throttle := zero
    gear := 0
    speed := zero
    brake := zero }

section Values

variable {bits low high : F32}

theorem within_clamp (ordered : le low high = true) (bits : F32) :
    Within low high (clamp low high bits) := by
  cases number : isNan bits with
  | true =>
      rw [clamp_of_isNan number]
      exact .inl number
  | false => exact .inr (clamp_between ordered number)

theorem le_zero_max (bits : F32) : le zero (Binary32.max bits zero) = true := by
  have number : isNan zero = false := by decide
  cases nan : isNan bits with
  | true =>
      rw [Binary32.max, if_pos nan]
      decide
  | false => exact Binary32.le_max_right nan number

theorem toNat_fabs (bits : F32) : (fabs bits).toNat = bits.toNat % 2 ^ 31 := by
  have mask : (0x7FFFFFFF : UInt32).toNat = 2 ^ 31 - 1 := rfl
  rw [fabs, UInt32.toNat_and, mask, Nat.and_two_pow_sub_one_eq_mod]

theorem le_zero_fabs (number : isNan bits = false) : le zero (fabs bits) = true := by
  have same : code (fabs bits) = code bits := by
    rw [code, code, toNat_fabs, Nat.mod_mod]
  have positive : negative (fabs bits) = false := by
    rw [negative, toNat_fabs]
    have small := Nat.mod_lt bits.toNat (by decide : 0 < 2 ^ 31)
    simp only [decide_eq_false_iff_not]
    omega
  have zeroRank : rank zero = 0 := by decide
  have zeroNumber : isNan zero = false := by decide
  rw [le_iff]
  refine ⟨⟨zeroNumber, ?_⟩, ?_⟩
  · rw [isNan, same]
    exact number
  · rw [zeroRank, rank, positive]
    exact Int.natCast_nonneg _

theorem isNan_fabs (nan : isNan bits = true) : isNan (fabs bits) = true := by
  have same : code (fabs bits) = code bits := by
    rw [code, code, toNat_fabs, Nat.mod_mod]
  rw [isNan, same]
  exact nan

theorem not_le_zero_of_isPositive (positive : isPositive bits = true) : le bits zero = false := by
  rw [isPositive, Bool.and_eq_true] at positive
  have more := positive.2
  rw [lt_iff] at more
  rw [Bool.eq_false_iff, Ne, le_iff]
  intro less
  omega

end Values

namespace State

variable {state next : State} {telemetry : RelayTelemetry}

theorem sane_sample (known : state.gameId ∈ senders) (redline : state.maxRpm = zero ∨
    isPositive state.maxRpm = true) (sampled : state.sample = some telemetry) : Sane telemetry := by
  rw [State.sample] at sampled
  split at sampled
  · cases sampled
  · rename_i accepted
    obtain rfl := Option.some.inj sampled
    have positive : isPositive state.maxRpm = true := by
      rcases redline with none | positive
      · have refused : (!isFinite zero || le zero zero) = true := by decide
        rw [none] at accepted
        exact absurd refused accepted
      · exact positive
    have unit : le zero one = true := by decide
    refine ⟨known, positive, le_zero_max _, within_clamp unit _, within_clamp unit _, ?_, rfl⟩
    cases number : isNan state.speed with
    | true => exact .inl (isNan_fabs number)
    | false => exact .inr (le_zero_fabs number)

theorem sane_engineOff (known : state.gameId ∈ senders)
    (positive : isPositive state.maxRpm = true) : Sane state.engineOff := by
  have zeros : le zero zero = true ∧ le zero one = true := by decide
  exact ⟨known, positive, zeros.1, .inr zeros, .inr zeros, .inr zeros.1, rfl⟩

/-- The engine is off for who listens: nothing was sent, or a packet that says so came last. -/
def EndsOff (sent : List RelayTelemetry) : Prop := ∀ last, sent.getLast? = some last → IsOff last

/-- What holds between two callbacks. -/
structure Sound (state : State) : Prop where
  known : state.gameId ∈ senders
  redline : state.maxRpm = zero ∨ isPositive state.maxRpm = true
  sane : ∀ telemetry ∈ state.sent, Sane telemetry
  /-- A live packet stands last only while the game runs, the socket is open and there is a
  redline. -/
  live : EndsOff state.sent ∨ (state.loaded = true ∧ state.paused = false ∧ state.socket = true ∧
    isPositive state.maxRpm = true)

theorem endsOff_nil : EndsOff [] := fun _ last => nomatch last

theorem endsOff_concat (sent : List RelayTelemetry) (off : IsOff telemetry) :
    EndsOff (sent ++ [telemetry]) := by
  intro last same
  rw [List.getLast?_concat, Option.some.injEq] at same
  rwa [← same]

theorem lt_zero_of_isPositive {bits : F32} (positive : isPositive bits = true) :
    lt zero bits = true := by
  rw [isPositive, Bool.and_eq_true] at positive
  exact positive.2

theorem sound_new : Sound .new where
  known := by decide
  redline := .inl rfl
  sane _ known := absurd known List.not_mem_nil
  live := .inl endsOff_nil

/-- The engine off packet leaves the engine off. -/
theorem sound_sendEngineOff (sound : Sound state) :
    state.sendEngineOff.loaded = state.loaded ∧ state.sendEngineOff.paused = state.paused ∧
      state.sendEngineOff.maxRpm = state.maxRpm ∧ state.sendEngineOff.gameId = state.gameId ∧
      (∀ telemetry ∈ state.sendEngineOff.sent, Sane telemetry) ∧
      EndsOff state.sendEngineOff.sent := by
  rw [sendEngineOff]
  rcases sound.redline with none | positive
  · have idle : lt zero state.maxRpm = false := by
      rw [none]
      decide
    rw [idle]
    refine ⟨rfl, rfl, rfl, rfl, sound.sane, sound.live.resolve_right ?_⟩
    rintro ⟨-, -, -, positive⟩
    rw [none] at positive
    have refused : isPositive zero = false := by decide
    rw [refused] at positive
    cases positive
  · rw [if_pos (lt_zero_of_isPositive positive), send]
    split
    · refine ⟨rfl, rfl, rfl, rfl, fun telemetry known => ?_, endsOff_concat _ rfl⟩
      rcases List.mem_append.mp known with before | last
      · exact sound.sane telemetry before
      · rw [List.mem_singleton.mp last]
        exact sane_engineOff sound.known positive
    · rename_i closed
      refine ⟨rfl, rfl, rfl, rfl, sound.sane, sound.live.resolve_right ?_⟩
      rintro ⟨-, -, socket, -⟩
      exact closed socket

theorem relayGameId_mem (gameId : ScsString) : relayGameId gameId ∈ senders := by
  rw [relayGameId]
  split
  · decide
  · split
    · decide
    · decide

/-- A cell that is written alone. -/
theorem sound_of_cell (sound : Sound state) (known : next.gameId = state.gameId)
    (redline : next.maxRpm = state.maxRpm) (sent : next.sent = state.sent)
    (loaded : next.loaded = state.loaded) (paused : next.paused = state.paused)
    (socket : next.socket = state.socket) : Sound next := by
  refine ⟨?_, ?_, ?_, ?_⟩
  · rw [known]
    exact sound.known
  · rw [redline]
    exact sound.redline
  · rw [sent]
    exact sound.sane
  · rw [sent, loaded, paused, socket, redline]
    exact sound.live

theorem isPositive_of_rpmLimit {info : Option Configuration} {maxRpm : F32}
    (found : rpmLimitFromConfiguration info = some maxRpm) : isPositive maxRpm = true := by
  rw [rpmLimitFromConfiguration] at found
  simp only [Option.bind_eq_bind, Option.bind_eq_some_iff] at found
  rcases found with ⟨_, -, _, -, found⟩
  rcases List.exists_of_findSome?_eq_some found with ⟨named, -, limit⟩
  rw [rpmLimit] at limit
  split at limit
  · rw [Option.filter_eq_some_iff] at limit
    exact limit.2
  · cases limit

theorem sound_init (sound : Sound state) (unloaded : state.loaded = false)
    (params : Option InitParams) : Sound (state.init params).1 := by
  have off : EndsOff state.sent := by
    apply sound.live.resolve_right
    rintro ⟨loaded, -⟩
    rw [unloaded] at loaded
    cases loaded
  cases params with
  | none => exact sound
  | some params =>
      rw [State.init]
      split
      · exact sound
      · split
        · exact sound
        · exact ⟨relayGameId_mem _, .inl rfl, sound.sane, .inl off⟩

theorem sound_onFrameEnd (sound : Sound state) (loaded : state.loaded = true) :
    Sound state.onFrameEnd := by
  rw [onFrameEnd]
  split
  · exact sound
  · rename_i running
    cases sampled : state.sample with
    | none => exact sound
    | some telemetry =>
        have sane := sane_sample sound.known sound.redline sampled
        have redline : telemetry.maxRpm = state.maxRpm := by
          rw [State.sample] at sampled
          split at sampled
          · cases sampled
          · rw [← Option.some.inj sampled]
        simp only [send]
        split
        · rename_i socket
          refine ⟨sound.known, sound.redline, fun other known => ?_, .inr ⟨loaded, ?_, socket, ?_⟩⟩
          · rcases List.mem_append.mp known with before | last
            · exact sound.sane other before
            · rw [List.mem_singleton.mp last]
              exact sane
          · exact Bool.eq_false_iff.mpr running
          · rw [← redline]
            exact sane.redline
        · exact sound

theorem sendEngineOff_paused (state : State) :
    { state with paused := true }.sendEngineOff = { state.sendEngineOff with paused := true } := by
  simp only [sendEngineOff, engineOff, send]
  split
  · split <;> rfl
  · rfl

theorem sound_onPaused (sound : Sound state) : Sound state.onPaused := by
  rcases sound_sendEngineOff sound with ⟨-, -, maxRpm, gameId, sane, off⟩
  rw [onPaused, sendEngineOff_paused]
  refine ⟨?_, ?_, sane, .inl off⟩
  · simp only [gameId]
    exact sound.known
  · simp only [maxRpm]
    exact sound.redline

theorem sound_shutdown (sound : Sound state) : Sound state.shutdown := by
  rcases sound_sendEngineOff sound with ⟨-, -, maxRpm, gameId, sane, off⟩
  rw [shutdown]
  refine ⟨?_, ?_, sane, .inl off⟩
  · simp only [gameId]
    exact sound.known
  · simp only [maxRpm]
    exact sound.redline

theorem sound_onStarted (sound : Sound state) : Sound state.onStarted := by
  refine ⟨sound.known, sound.redline, sound.sane, sound.live.imp_right ?_⟩
  rintro ⟨loaded, -, socket, positive⟩
  exact ⟨loaded, rfl, socket, positive⟩

theorem sound_onConfiguration (sound : Sound state) (info : Option Configuration) :
    Sound (state.onConfiguration info) := by
  rw [onConfiguration]
  cases found : rpmLimitFromConfiguration info with
  | none => exact sound
  | some maxRpm =>
      have positive := isPositive_of_rpmLimit found
      refine ⟨sound.known, .inr positive, sound.sane, sound.live.imp_right ?_⟩
      rintro ⟨loaded, paused, socket, -⟩
      exact ⟨loaded, paused, socket, positive⟩

/-- Only a plugin that is not loaded is initialised, and only one that is is called back. -/
theorem step_cases {event : Event} (stepped : plugin.step state event = some next) :
    next = state.callback event ∧
      ((∃ params, event = .init params) ∧ state.loaded = false ∨
        (∀ params, event ≠ .init params) ∧ state.loaded = true) := by
  cases event <;>
    simp only [plugin, Option.ite_none_left_eq_some, Option.ite_none_right_eq_some,
      Option.some.injEq] at stepped <;>
    rcases stepped with ⟨loaded, rfl⟩
  case init params => exact ⟨rfl, .inl ⟨⟨params, rfl⟩, Bool.eq_false_iff.mpr loaded⟩⟩
  all_goals exact ⟨rfl, .inr ⟨fun _ same => (by cases same), loaded⟩⟩

theorem sound_callback (sound : Sound state) {event : Event}
    (stepped : plugin.step state event = some next) : Sound next := by
  rcases step_cases stepped with ⟨rfl, ⟨⟨params, rfl⟩, unloaded⟩ | ⟨other, loaded⟩⟩
  · exact sound_init sound unloaded params
  · cases event with
    | init params => exact absurd rfl (other params)
    | rpm value | throttle value | speed value | brake value | gear value =>
        apply sound_of_cell sound <;>
          simp only [callback, channelRpm, channelThrottle, channelSpeed, channelBrake,
            channelGear] <;>
          split <;> rfl
    | frameEnd => exact sound_onFrameEnd sound loaded
    | paused => exact sound_onPaused sound
    | started => exact sound_onStarted sound
    | configuration info => exact sound_onConfiguration sound info
    | shutdown => exact sound_shutdown sound

theorem sound_of_reachable (reachable : plugin.Reachable state) : Sound state := by
  apply reachable.invariant
  · intro start initial
    rw [show start = .new from initial]
    exact sound_new
  · intro current event next sound _ stepped
    exact sound_callback sound stepped

end State

variable {state : State} {telemetry : RelayTelemetry}

/-- A packet of the plugin as the daemon reads it. -/
def asRead (telemetry : RelayTelemetry) : Telemetry where
  rpm := telemetry.rpm
  maxRpm := telemetry.maxRpm
  throttle := telemetry.throttle
  speed := heard telemetry.speed
  brake := heard telemetry.brake
  gear := Int8.ofInt (Max.max (-128) (min 127 telemetry.gear.toInt))
  airborne := false

theorem isFinite_heard (bits : F32) : isFinite (heard bits) = true := by
  rw [heard]
  split
  · assumption
  · decide

theorem clamp_within {bits : F32} (within : Within zero one bits) : clamp zero one bits = bits := by
  rcases within with nan | ⟨above, below⟩
  · exact clamp_of_isNan nan
  · exact clamp_of_between above below

theorem clamp_heard {bits : F32} (within : Within zero one bits) :
    clamp zero one (heard bits) = heard bits := by
  rw [heard]
  split
  · exact clamp_within within
  · decide

theorem max_heard {bits : F32} (within : isNan bits = true ∨ le zero bits = true) :
    Binary32.max (heard bits) zero = heard bits := by
  rw [heard]
  split
  · rename_i finite
    have number := isNan_of_isFinite finite
    have zeroNumber : isNan zero = false := by decide
    have above : le zero bits = true := within.resolve_left (Bool.eq_false_iff.mp number)
    have notLess : lt bits zero = false := by
      rw [Bool.eq_false_iff, Ne, lt_iff]
      rw [le_iff] at above
      omega
    rw [Binary32.max, number, zeroNumber, notLess]
    rfl
  · decide

theorem parse_encode_of_sane (sane : Sane telemetry) :
    parse (encode telemetry) =
      if (isFinite telemetry.rpm && isFinite telemetry.throttle) = true then
        some (telemetry.gameId, asRead telemetry)
      else none := by
  have redline := sane.redline
  have more := not_le_zero_of_isPositive redline
  rw [isPositive, Bool.and_eq_true] at redline
  rw [parse, decode_encode_eq (mem_gameIds_of_mem_senders sane.sender), redline.1]
  simp only [Bool.and_true]
  split
  · simp only [Option.bind_eq_bind, Option.bind_some, more, guard, Bool.not_false, if_true,
      Option.pure_def, RelayTelemetry.toTelemetry, isFinite_heard, clamp_within sane.throttle,
      clamp_heard sane.brake, max_heard sane.speed, sane.grounded, asRead]
  · rfl

/-- Whatever the game delivers, the daemon drops a packet only for a number it was handed, and
reads what the packet says otherwise. -/
theorem plugin_packets_law (reachable : plugin.Reachable state)
    (sent : telemetry ∈ state.sent) :
    Sane telemetry ∧
      parse (encode telemetry) =
        if (isFinite telemetry.rpm && isFinite telemetry.throttle) = true then
          some (telemetry.gameId, asRead telemetry)
        else none := by
  have sane := (State.sound_of_reachable reachable).sane telemetry sent
  exact ⟨sane, parse_encode_of_sane sane⟩

/-- A truck at 1500 of 2500 revolutions and full throttle. -/
def cruise : RelayTelemetry where
  gameId := "ets2".toList
  rpm := 0x44BB8000
  maxRpm := 0x451C4000
  throttle := one
  gear := 0
  speed := zero
  brake := zero
  airborne := false

/-- The game loads the plugin, starts, and ends a frame. -/
def drive : List Event :=
  [.init (some ⟨telemetryVersion100, true, true, some gameIdEut2, true⟩),
    .configuration (some ⟨some configIdTruck,
      [(configAttributeRpmLimit, ⟨valueTypeFloat, cruise.maxRpm⟩)]⟩),
    .started, .rpm (some ⟨valueTypeFloat, cruise.rpm⟩), .throttle (some ⟨valueTypeFloat, one⟩),
    .frameEnd]

theorem plugin_packets_law_cruise : ∃ state, plugin.Reachable state ∧ cruise ∈ state.sent ∧
    Sane cruise ∧ parse (encode cruise) = some ("ets2".toList, asRead cruise) := by
  have executed : plugin.run .new drive = some (drive.foldl State.callback .new) := rfl
  have sent : cruise ∈ (drive.foldl State.callback .new).sent := by decide
  have reachable := System.Reachable.of_run _ drive rfl executed
  exact ⟨_, reachable, sent, plugin_packets_law reachable sent⟩

/-- The reading of an engine that is off. -/
def engineOffReading (maxRpm : F32) : Telemetry where
  rpm := zero
  maxRpm := maxRpm
  throttle := zero
  speed := zero
  brake := zero
  gear := 0
  airborne := false

theorem asRead_of_isOff (off : IsOff telemetry) :
    asRead telemetry = engineOffReading telemetry.maxRpm := by
  rw [off]
  rfl

/-- While the game is paused or the plugin unloaded, the daemon was told last that the engine is
off, if it was told anything. -/
theorem plugin_silence_law (reachable : plugin.Reachable state)
    (silent : state.paused = true ∨ state.loaded = false) {last : RelayTelemetry}
    (told : state.sent.getLast? = some last) :
    parse (encode last) = some (last.gameId, engineOffReading last.maxRpm) := by
  have sound := State.sound_of_reachable reachable
  have off : IsOff last := by
    apply sound.live.resolve_right _ last told
    rintro ⟨loaded, running, -⟩
    rw [loaded, running] at silent
    rcases silent with paused | unloaded
    · cases paused
    · cases unloaded
  rw [parse_encode_of_sane (sound.sane last (List.mem_of_getLast? told)), asRead_of_isOff off]
  apply if_pos
  rw [off]
  rfl

theorem plugin_silence_law_cruise : ∃ state, plugin.Reachable state ∧ state.paused = true ∧
    parse (encode { cruise with rpm := zero, throttle := zero }) =
      some ("ets2".toList, engineOffReading cruise.maxRpm) := by
  have executed : plugin.run .new (drive ++ [Event.paused]) =
      some ((drive ++ [Event.paused]).foldl State.callback .new) := rfl
  have reachable := System.Reachable.of_run _ _ rfl executed
  have told : ((drive ++ [Event.paused]).foldl State.callback .new).sent.getLast? =
      some { cruise with rpm := zero, throttle := zero } := by decide
  exact ⟨_, reachable, rfl, plugin_silence_law reachable (.inl rfl) told⟩

/-- The parameters that load the plugin. -/
def accepted (params : Option InitParams) : Option InitParams :=
  params.filter fun params =>
    (params.version = telemetryVersion100 || params.version = telemetryVersion101) &&
      (params.registersEvents && params.registersChannels)

section Memory

variable {Value : Type} {writes : Event → Option Value} {unset : Value}

/-- What was written last, or what there was before. -/
def latest (writes : Event → Option Value) (unset : Value) (events : List Event) : Value :=
  (events.filterMap writes).getLast?.getD unset

@[simp] theorem latest_concat (events : List Event) (event : Event) :
    latest writes unset (events ++ [event]) = (writes event).getD (latest writes unset events) := by
  rw [latest, List.filterMap_append]
  cases wrote : writes event with
  | none =>
      rw [List.filterMap_cons_none wrote, List.filterMap_nil, List.append_nil]
      rfl
  | some value =>
      rw [List.filterMap_cons_some wrote, List.filterMap_nil, List.getLast?_concat]
      rfl

end Memory

/-- A write that loading the plugin makes, with the value it leaves. -/
@[simp] def reset {Value : Type} (value : InitParams → Value) : Event → Option Value
  | .init params => (accepted params).map value
  | _ => none

@[simp] def rpmWrites : Event → Option F32
  | .rpm value => value.bind ScsValue.asFloat
  | event => reset (fun _ => zero) event

@[simp] def throttleWrites : Event → Option F32
  | .throttle value => value.bind ScsValue.asFloat
  | event => reset (fun _ => zero) event

@[simp] def speedWrites : Event → Option F32
  | .speed value => value.bind ScsValue.asFloat
  | event => reset (fun _ => zero) event

@[simp] def brakeWrites : Event → Option F32
  | .brake value => value.bind ScsValue.asFloat
  | event => reset (fun _ => zero) event

@[simp] def gearWrites : Event → Option Int32
  | .gear value => value.bind ScsValue.asS32
  | event => reset (fun _ => 0) event

@[simp] def maxRpmWrites : Event → Option F32
  | .configuration info => rpmLimitFromConfiguration info
  | event => reset (fun _ => zero) event

@[simp] def gameIdWrites : Event → Option RustText.Text := reset fun params => relayGameId params.gameId

@[simp] def pausedWrites : Event → Option Bool
  | .paused => some true
  | .started => some false
  | event => reset (fun _ => true) event

@[simp] def socketWrites : Event → Option Bool
  | .shutdown => some false
  | event => reset InitParams.socket event

@[simp] def loadedWrites : Event → Option Bool
  | .shutdown => some false
  | event => reset (fun _ => true) event

/-- The cells as the callbacks left them. -/
def remembered (events : List Event) : State where
  loaded := latest loadedWrites false events
  socket := latest socketWrites false events
  gameId := latest gameIdWrites idText events
  rpm := latest rpmWrites zero events
  maxRpm := latest maxRpmWrites zero events
  throttle := latest throttleWrites zero events
  speed := latest speedWrites zero events
  brake := latest brakeWrites zero events
  gear := latest gearWrites 0 events
  paused := latest pausedWrites true events
  sent := []

/-- What a callback sends, after the ones before it. -/
@[simp] def packets (before : List Event) : Event → List RelayTelemetry
  | .frameEnd =>
      if latest socketWrites false before && !latest pausedWrites true before then
        (remembered before).sample.toList
      else []
  | .paused | .shutdown =>
      if latest socketWrites false before && lt zero (latest maxRpmWrites zero before) then
        [(remembered before).engineOff]
      else []
  | _ => []

/-- What a run sends, after the callbacks before it. -/
def transcript : List Event → List Event → List RelayTelemetry
  | _, [] => []
  | before, event :: events => packets before event ++ transcript (before ++ [event]) events

theorem init_eq (state : State) (params : Option InitParams) :
    (state.init params).1 =
      match accepted params with
      | some params =>
          { state with
            loaded := true
            socket := params.socket
            paused := true
            rpm := zero
            maxRpm := zero
            throttle := zero
            speed := zero
            brake := zero
            gear := 0
            gameId := relayGameId params.gameId }
      | none => state := by
  cases params with
  | none => rfl
  | some params =>
      rw [State.init, accepted, Option.filter_some]
      by_cases version : params.version = telemetryVersion100 ∨ params.version = telemetryVersion101
      · cases registers : params.registersEvents && params.registersChannels with
        | true => simp [version, ← not_or]
        | false => simp
      · rcases not_or.mp version with ⟨first, second⟩
        simp [first, second]

theorem sendEngineOff_eq (state : State) :
    state.sendEngineOff = { state with
      sent := state.sent ++
        if state.socket && lt zero state.maxRpm then [state.engineOff] else [] } := by
  rw [State.sendEngineOff, State.send]
  rcases state with ⟨loaded, socket, gameId, rpm, maxRpm, throttle, speed, brake, gear, paused, sent⟩
  cases socket <;> cases lt zero maxRpm <;> simp

theorem onFrameEnd_eq (state : State) :
    state.onFrameEnd = { state with
      sent := state.sent ++
        if state.socket && !state.paused then state.sample.toList else [] } := by
  rw [State.onFrameEnd]
  cases state.sample <;>
    rcases state with
      ⟨loaded, socket, gameId, rpm, maxRpm, throttle, speed, brake, gear, paused, sent⟩ <;>
    cases socket <;> cases paused <;> simp [State.send]

/-- One callback writes the cells that its event writes, and sends its packets. -/
theorem callback_remembered (before : List Event) (event : Event) (sent : List RelayTelemetry) :
    { remembered before with sent }.callback event =
      { remembered (before ++ [event]) with sent := sent ++ packets before event } := by
  cases event with
  | init params =>
      rw [State.callback, init_eq]
      cases loads : accepted params <;> simp [remembered, loads]
  | rpm value =>
      cases delivered : value.bind ScsValue.asFloat <;>
        simp [remembered, State.callback, State.channelRpm, delivered]
  | throttle value =>
      cases delivered : value.bind ScsValue.asFloat <;>
        simp [remembered, State.callback, State.channelThrottle, delivered]
  | speed value =>
      cases delivered : value.bind ScsValue.asFloat <;>
        simp [remembered, State.callback, State.channelSpeed, delivered]
  | brake value =>
      cases delivered : value.bind ScsValue.asFloat <;>
        simp [remembered, State.callback, State.channelBrake, delivered]
  | gear value =>
      cases delivered : value.bind ScsValue.asS32 <;>
        simp [remembered, State.callback, State.channelGear, delivered]
  | started => simp [remembered, State.callback, State.onStarted]
  | configuration info =>
      cases delivered : rpmLimitFromConfiguration info <;>
        simp [remembered, State.callback, State.onConfiguration, delivered]
  | frameEnd =>
      rw [State.callback, onFrameEnd_eq]
      simp [remembered, State.sample]
  | paused =>
      rw [State.callback, State.onPaused, sendEngineOff_eq]
      simp [remembered, State.engineOff]
  | shutdown =>
      rw [State.callback, State.shutdown, sendEngineOff_eq]
      simp [remembered, State.engineOff]

theorem foldl_remembered (events before : List Event) (sent : List RelayTelemetry) :
    events.foldl State.callback { remembered before with sent } =
      { remembered (before ++ events) with sent := sent ++ transcript before events } := by
  induction events generalizing before sent with
  | nil => simp [transcript]
  | cons event events ih =>
      rw [List.foldl_cons, callback_remembered, ih, transcript]
      simp only [List.append_assoc, List.cons_append, List.nil_append]

/-- After any sequence of callbacks, in any order, each cell holds what was delivered last on its
channel since the plugin was loaded, and the packets are those of the history. -/
theorem history_law (events : List Event) :
    events.foldl State.callback .new =
      { remembered events with sent := transcript [] events } :=
  foldl_remembered events [] []

end TrueForce.Scs
