import TrueForce.Ffb.Carrier
import TrueForce.Ffb.Motion
import TrueForce.Foundation.Transition
import Mathlib

/-!
# The force-feedback engine

The critical sections of the evdev operations, of `hidpp_dd_ff_timer_kick` and
of the timer callback are atomic steps.  An operation that kicks the timer after
its own section leaves the kick in flight, and the callback is a program counter
over its sections: the entry check, the sampling of the effects, the autocenter
read, the send and the re-arm decision.  The hrtimer itself is one flag, queued
or not; its callback never overlaps itself.

Teardown only sets `stopping`; the cancellations that follow it are not modelled.
-/

namespace TrueForce.Ffb

open TrueForce.Transition TrueForce.CInt

def maxEffects : ℕ := 63

def tfSampleSpacingQms : ℕ := ffTickMs * 4 / tfNewSamples

/-- The sequence number the stream continues from after the init packets. -/
def tfSeqAfterInit : UInt8 := 69

structure EffectSlot where
  effect : FfEffect
  uploaded : Bool
  playing : Bool
  playStart : UInt64
  replaysLeft : ℕ
  useTf : Bool
  deriving DecidableEq, Repr

def EffectSlot.zero : EffectSlot := ⟨.zero, false, false, 0, 0, false⟩

def EffectSlot.active (slot : EffectSlot) : Bool := slot.uploaded && slot.playing

abbrev Effects := Fin maxEffects → EffectSlot

def Effects.anyPlaying (effects : Effects) : Bool :=
  (List.finRange maxEffects).any fun i => (effects i).active

def Effects.constantForce (kernel : Kernel) (effects : Effects) : ℤ :=
  ((List.finRange maxEffects).map fun i =>
    if (effects i).active then (effects i).effect.constantForce kernel else 0).sum

structure SlotSample where
  force : ℤ
  samples : List ℤ
  playing : Bool
  texture : Bool
  /-- A texture effect plays on the steering channel for want of a stream. -/
  wantsTf : Bool
  deriving DecidableEq, Repr

def SlotSample.silent (playing : Bool) : SlotSample :=
  ⟨0, List.replicate tfNewSamples 0, playing, false, false⟩

def timeBefore (now start : UInt64) : Bool := 0x8000000000000000 ≤ now - start

structure SampleContext where
  kernel : Kernel
  tunables : Tunables
  tfReady : Bool
  wheel : WheelState
  now : UInt64

/-- The contribution of a slot whose effect is `elapsedMs` into its playback. -/
def SampleContext.contribution (context : SampleContext) (slot : EffectSlot) (elapsedMs : ℕ) :
    SlotSample :=
  let tick := fun subQms =>
    effectTick context.kernel context.tunables slot.effect elapsedMs subQms context.wheel
  let wantsTf := context.tunables.textureRoute = .tf ∧ !context.tfReady ∧ slot.effect.isTexture
  if slot.useTf then
    let dc := slot.effect.dcOffset
    ⟨dc, (List.range tfNewSamples).map fun q => tick (q * tfSampleSpacingQms) - dc,
      true, true, wantsTf⟩
  else ⟨tick 0, List.replicate tfNewSamples 0, true, false, wantsTf⟩

/-- One iteration of the sampling loop: a delayed effect waits, one past its length replays or
stops, and the others contribute. -/
def SampleContext.sampleSlot (context : SampleContext) (slot : EffectSlot) :
    EffectSlot × SlotSample :=
  if !slot.active then (slot, .silent false)
  else if timeBefore context.now slot.playStart then (slot, .silent true)
  else
    let elapsedMs := context.kernel.jiffiesToMsecs (context.now - slot.playStart)
    let length := slot.effect.replayLength
    if length ≠ 0 ∧ length ≠ 0xFFFF ∧ length.toNat ≤ elapsedMs then
      if 0 < slot.replaysLeft then
        let replayed :=
          { slot with replaysLeft := slot.replaysLeft - 1, playStart := context.now }
        (replayed, context.contribution replayed 0)
      else ({ slot with playing := false }, .silent false)
    else (slot, context.contribution slot elapsedMs)

structure Sampled where
  force : ℤ
  samples : List ℤ
  anyPlaying : Bool
  anyTexture : Bool
  wheel : WheelState
  deriving DecidableEq, Repr

def SampleContext.sampleEffects (context : SampleContext) (effects : Effects) :
    Effects × Sampled × Bool :=
  let sampled := fun i => context.sampleSlot (effects i)
  let slots := (List.finRange maxEffects).map fun i => (sampled i).2
  (fun i => (sampled i).1,
    { force := (slots.map SlotSample.force).sum
      samples := slots.foldl (fun sums slot => List.zipWith (· + ·) sums slot.samples)
        (List.replicate tfNewSamples 0)
      anyPlaying := slots.any SlotSample.playing
      anyTexture := slots.any SlotSample.texture
      wheel := context.wheel },
    slots.any SlotSample.wantsTf)

structure Tick where
  force : ℤ
  samples : List ℤ
  anyPlaying : Bool
  anyTexture : Bool
  autocenter : UInt16
  deriving DecidableEq, Repr

inductive Callback where
  | idle
  | entered
  | leaving
  | sampling
  | sampled (sample : Sampled)
  | summed (tick : Tick)
  | sent (tick : Tick)
  | returning (restart : Bool)
  deriving DecidableEq, Repr

/-- What an operation still has to do after its first section. -/
inductive Operation where
  | kick
  | kickIfForced
  deriving DecidableEq, Repr

structure State where
  effects : Effects
  constantForce : ℤ
  anyEffectPlaying : Bool
  autocenter : UInt16
  tunables : Tunables
  motion : Motion
  tfReady : Bool
  tfInitQueued : Bool
  tfInitAttempts : ℕ
  carrier : Carrier
  lastForce : ℤ
  timerArmed : Bool
  queued : Bool
  callback : Callback
  operations : List Operation
  initialized : Bool
  stopping : Bool

inductive TfInitOutcome where
  | ready
  | noMemory
  | failed
  deriving DecidableEq, Repr

def tfInitMaxAttempts : ℕ := 3

inductive Event where
  | upload (id : ℤ) (effect : FfEffect) (old : Bool)
  | erase (id : ℤ)
  | playback (id value : ℤ) (now : UInt64)
  | setAutocenter (magnitude : UInt16)
  | autocenterStore (value : ℤ)
  | tune (tunables : Tunables)
  | report (pos : UInt16) (timestamp : ℤ)
  | tfInitDone (outcome : TfInitOutcome)
  | workDone
  | initDone
  | stop
  | resume (index : ℕ)
  | fire
  | check
  | leave
  | sample (now : UInt64)
  | readAutocenter
  | send (env : SendEnv)
  | rearm
  | finish

def slotIndex (id : ℤ) : Option (Fin maxEffects) :=
  if h : 0 ≤ id ∧ id < maxEffects then some ⟨id.toNat, by omega⟩ else none

/-- The force of the autocenter spring; quiet until the wheel has reported. -/
def autocenterForce (tunables : Tunables) (autocenter : UInt16) (posSeen : Bool)
    (wheel : WheelState) : ℤ :=
  if autocenter ≠ 0 ∧ posSeen then
    let k : ℤ := (autocenter.toNat / 2 : ℕ)
    let spring := -(k * clampS16 (wheel.posSigned * 8) / 0x8000)
    let damping := (k * velMetric wheel.vel / 0x8000 * tunables.springDamping.toNat).tdiv 100
    spring - damping
  else 0

namespace State

variable (kernel : Kernel)

def live (state : State) : Bool := state.initialized && !state.stopping

def recompute (state : State) : State :=
  { state with
    constantForce := state.effects.constantForce kernel
    anyEffectPlaying := state.effects.anyPlaying }

def setSlot (state : State) (i : Fin maxEffects) (slot : EffectSlot) : State :=
  { state with effects := Function.update state.effects i slot }

def defer (state : State) (operation : Operation) : State :=
  { state with operations := state.operations ++ [operation] }

def kickStarts (state : State) : Bool := !state.timerArmed && state.live

def timerKick (state : State) : State :=
  if state.kickStarts then { state with timerArmed := true, queued := true } else state

def upload (state : State) (id : ℤ) (effect : FfEffect) (old : Bool) : State :=
  match slotIndex id with
  | none => state
  | some i =>
      let slot := state.effects i
      let next := { slot with effect := effect, uploaded := true, playing := old && slot.playing }
      let stored := state.setSlot i next
      if next.playing && effect.isConstant then (stored.recompute kernel).defer .kick else stored

def erase (state : State) (id : ℤ) : State :=
  match slotIndex id with
  | none => state
  | some i =>
      (state.setSlot i
        { state.effects i with uploaded := false, playing := false, effect := .zero }).recompute
        kernel

def playedSlot (state : State) (slot : EffectSlot) (value : ℤ) (now : UInt64) : EffectSlot :=
  if value = 0 then { slot with playing := false }
  else
    { slot with
      playing := true
      playStart := now + kernel.msecsToJiffies slot.effect.replayDelay.toNat
      replaysLeft := (value - 1).toNat
      useTf := state.tunables.textureRoute = .tf ∧ state.tfReady ∧ slot.effect.isTexture }

def playback (state : State) (id value : ℤ) (now : UInt64) : State :=
  match slotIndex id with
  | none => state
  | some i =>
      let slot := state.effects i
      if slot.uploaded then
        let next := (state.setSlot i (state.playedSlot kernel slot value now)).recompute kernel
        next.defer (if next.anyEffectPlaying then .kick else .kickIfForced)
      else state

def setAutocenter (state : State) (magnitude : UInt16) : State :=
  let next := { state with autocenter := magnitude }
  if magnitude = 0 then next else next.defer .kick

/-- `wheel_autocenter_store` up to its kick, which depends on the value before clamping. -/
def autocenterStore (state : State) (value : ℤ) : State :=
  if state.stopping then state
  else
    let next := { state with autocenter := UInt16.ofNat (clamp value 0 65535).toNat }
    if value = 0 then next else next.defer .kick

def resume (state : State) (index : ℕ) : Option State :=
  match state.operations[index]? with
  | none => none
  | some .kick => some { state.timerKick with operations := state.operations.eraseIdx index }
  | some .kickIfForced =>
      if state.lastForce = 0 then some { state with operations := state.operations.eraseIdx index }
      else some { state with operations := state.operations.set index .kick }

def sampleSection (state : State) (now : UInt64) : State :=
  let motion := state.motion.refresh
  let context : SampleContext :=
    ⟨kernel, state.tunables, state.tfReady, motion.observe, now⟩
  let (effects, sample, wantsTf) := context.sampleEffects state.effects
  { state with
    motion := motion
    effects := effects
    constantForce := effects.constantForce kernel
    anyEffectPlaying := sample.anyPlaying
    tfInitQueued := state.tfInitQueued || wantsTf
    callback := .sampled sample }

/-- The gain and the autocenter spring on top of the sampled force. -/
def sum (state : State) (sample : Sampled) : Tick where
  force := scaleU16 sample.force state.tunables.gain +
    autocenterForce state.tunables state.autocenter state.motion.posSeen sample.wheel
  samples := sample.samples
  anyPlaying := sample.anyPlaying
  anyTexture := sample.anyTexture
  autocenter := state.autocenter

/-- A tick for the idle gate: the wire would carry zero and nothing needs the cadence. -/
def idleTick (state : State) (tick : Tick) : Bool :=
  state.tunables.kfIdleGate && (tick.force == 0 && !tick.anyPlaying && !tick.anyTexture &&
    !state.carrier.tfStreaming)

/-- The sending part of a tick before the plain force packet: whether a stream packet has carried
the force, and the carrier behind the idle gate. -/
def beforeForce (state : State) (tick : Tick) (env : SendEnv) : Carrier × Bool :=
  let carrier := state.carrier
  let (streamed, sent) :=
    if tick.anyTexture || carrier.tfStreaming then
      carrier.tfTick state.tunables env tick.anyTexture tick.samples tick.force
    else (carrier, false)
  (streamed.idleGate env (state.idleTick tick), sent)

def sendTick (state : State) (tick : Tick) (env : SendEnv) : State :=
  let env := if state.live then env else env.refuse
  let (gated, sent) := state.beforeForce tick env
  { state with
    carrier := if sent || gated.kfGated then gated
      else gated.sendForce state.tunables env tick.force
    lastForce := tick.force
    callback := .sent tick }

/-- The re-arm decision keeps the timer. -/
def keepsTimer (state : State) (tick : Tick) : Bool :=
  (tick.anyPlaying || state.effects.anyPlaying || state.carrier.tfStreaming ||
    state.autocenter != 0) && state.live

/-- The sections of the timer callback in their order. -/
def stepCallback (state : State) : Event → Option State
  | .fire =>
      if state.queued && state.callback = .idle then
        some { state with queued := false, callback := .entered }
      else none
  | .check =>
      if state.callback = .entered then
        some { state with callback := if state.live then .sampling else .leaving }
      else none
  | .leave =>
      if state.callback = .leaving then
        some { state with timerArmed := false, callback := .returning false }
      else none
  | .sample now =>
      if state.callback = .sampling then some (state.sampleSection kernel now) else none
  | .readAutocenter =>
      match state.callback with
      | .sampled sample => some { state with callback := .summed (state.sum sample) }
      | _ => none
  | .send env =>
      match state.callback with
      | .summed tick => some (state.sendTick tick env)
      | _ => none
  | .rearm =>
      match state.callback with
      | .sent tick =>
          if state.keepsTimer tick then some { state with callback := .returning true }
          else some { state with timerArmed := false, callback := .returning false }
      | _ => none
  | .finish =>
      match state.callback with
      | .returning restart =>
          some { state with queued := state.queued || restart, callback := .idle }
      | _ => none
  | _ => none

/-- The end of `hidpp_dd_tf_init_work_handler`: a failure lets a later texture playback queue the
work again, until the attempts are used up. -/
def tfInitWork (state : State) : TfInitOutcome → State
  | .ready =>
      { state with tfReady := true, carrier := { state.carrier with tfSeq := tfSeqAfterInit } }
  | .noMemory => { state with tfInitQueued := false }
  | .failed =>
      { state with
        tfInitAttempts := state.tfInitAttempts + 1
        tfInitQueued := tfInitMaxAttempts ≤ state.tfInitAttempts + 1 }

def step (state : State) : Event → Option State
  | .upload id effect old => some (state.upload kernel id effect old)
  | .erase id => some (state.erase kernel id)
  | .playback id value now => some (state.playback kernel id value now)
  | .setAutocenter magnitude => some (state.setAutocenter magnitude)
  | .autocenterStore value => some (state.autocenterStore value)
  | .tune tunables => some { state with tunables := tunables }
  | .report pos timestamp => some { state with motion := state.motion.report pos timestamp }
  | .tfInitDone outcome => if state.tfInitQueued then some (state.tfInitWork outcome) else none
  | .workDone =>
      some { state with
        carrier := { state.carrier with pendingWork := state.carrier.pendingWork - 1 } }
  | .initDone => if state.initialized then none else some { state with initialized := true }
  | .stop => some { state with stopping := true }
  | .resume index => state.resume index
  | event => state.stepCallback kernel event

/-- A device whose sysfs and evdev surfaces are registered and whose deferred init is still
pending. -/
def start (tunables : Tunables) : State where
  effects := fun _ => .zero
  constantForce := 0
  anyEffectPlaying := false
  autocenter := 0
  tunables := tunables
  motion := .zero
  tfReady := false
  tfInitQueued := false
  tfInitAttempts := 0
  carrier := .zero
  lastForce := 0
  timerArmed := false
  queued := false
  callback := .idle
  operations := []
  initialized := false
  stopping := false

end State

/-- What the callback can do in one step, section by section. -/
inductive CallbackStep (kernel : Kernel) (state : State) : Event → State → Prop where
  | fire : state.queued = true → state.callback = .idle →
      CallbackStep kernel state .fire { state with queued := false, callback := .entered }
  | check : state.callback = .entered → state.live = true →
      CallbackStep kernel state .check { state with callback := .sampling }
  | refuse : state.callback = .entered → state.live = false →
      CallbackStep kernel state .check { state with callback := .leaving }
  | leave : state.callback = .leaving →
      CallbackStep kernel state .leave
        { state with timerArmed := false, callback := .returning false }
  | sample (now : UInt64) : state.callback = .sampling →
      CallbackStep kernel state (.sample now) (state.sampleSection kernel now)
  | readAutocenter (sample : Sampled) : state.callback = .sampled sample →
      CallbackStep kernel state .readAutocenter
        { state with callback := .summed (state.sum sample) }
  | send (tick : Tick) (env : SendEnv) : state.callback = .summed tick →
      CallbackStep kernel state (.send env) (state.sendTick tick env)
  | keep (tick : Tick) : state.callback = .sent tick → state.keepsTimer tick = true →
      CallbackStep kernel state .rearm { state with callback := .returning true }
  | disarm (tick : Tick) : state.callback = .sent tick → state.keepsTimer tick = false →
      CallbackStep kernel state .rearm
        { state with timerArmed := false, callback := .returning false }
  | finish (restart : Bool) : state.callback = .returning restart →
      CallbackStep kernel state .finish
        { state with queued := state.queued || restart, callback := .idle }

theorem stepCallback_cases {kernel : Kernel} {state next : State} {event : Event}
    (stepped : state.stepCallback kernel event = some next) :
    CallbackStep kernel state event next := by
  cases event with
  | fire =>
      simp only [State.stepCallback, Bool.and_eq_true, decide_eq_true_eq] at stepped
      split at stepped
      case isTrue enabled => cases stepped; exact .fire enabled.1 enabled.2
      case isFalse => contradiction
  | check =>
      simp only [State.stepCallback] at stepped
      split at stepped
      case isTrue entered =>
        cases stepped
        cases live : state.live with
        | true => exact .check entered live
        | false => exact .refuse entered live
      case isFalse => contradiction
  | leave =>
      simp only [State.stepCallback] at stepped
      split at stepped
      case isTrue leaving => cases stepped; exact .leave leaving
      case isFalse => contradiction
  | sample now =>
      simp only [State.stepCallback] at stepped
      split at stepped
      case isTrue sampling => cases stepped; exact .sample now sampling
      case isFalse => contradiction
  | readAutocenter =>
      simp only [State.stepCallback] at stepped
      split at stepped
      case h_1 sample sampled => cases stepped; exact .readAutocenter sample sampled
      case h_2 => contradiction
  | send env =>
      simp only [State.stepCallback] at stepped
      split at stepped
      case h_1 tick summed => cases stepped; exact .send tick env summed
      case h_2 => contradiction
  | rearm =>
      simp only [State.stepCallback] at stepped
      split at stepped
      case h_1 tick sent =>
        split at stepped
        case isTrue keeps => cases stepped; exact .keep tick sent keeps
        case isFalse drops => cases stepped; exact .disarm tick sent (by simpa using drops)
      case h_2 => contradiction
  | finish =>
      simp only [State.stepCallback] at stepped
      split at stepped
      case h_1 restart returning => cases stepped; exact .finish restart returning
      case h_2 => contradiction
  | _ => simp [State.stepCallback] at stepped

/-- All interleavings of the engine's critical sections. -/
def engine (kernel : Kernel) : System State Event where
  initial state := ∃ tunables, state = State.start tunables
  step := State.step kernel

/-- A kernel with a sine that is exact at the quarter turns and one jiffy per millisecond. -/
def quarterKernel : Kernel where
  fixpSin16 degrees := if degrees % 360 = 90 then 0x7fff else if degrees % 360 = 270 then -0x7fff
    else 0
  jiffiesToMsecs := UInt64.toNat
  msecsToJiffies := UInt64.ofNat

/-- The settings of a fresh direct-drive wheel. -/
def defaultTunables : Tunables where
  ffbConstantSign := true
  springDamping := 25
  springLevel := 100
  damperLevel := 100
  frictionLevel := 100
  inertiaLevel := 100
  gain := 0xFFFF
  strength := 0xFFFF
  textureRoute := .tf
  kfIdleGate := true
  g920 := false

end TrueForce.Ffb
