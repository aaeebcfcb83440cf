import TrueForce.Foundation.Sampled
import Mathlib.Data.Rat.Cast.Defs

/-!
# The haptic effects

Every effect reads the newest telemetry once a block and then adds that block's samples to
the mix.  The arithmetic is a parameter, so that the effects can be run on any numbers that
have the operations of the source; `lit` is a constant of it.
-/

namespace TrueForce.TfSim.Haptics

open TrueForce.Sampled

/-- The operations on samples. -/
class SampleArith (α : Type) extends Add α, Sub α, Mul α, Div α, Max α, Min α where
  lit : ℚ → α
  le : α → α → Bool
  lt : α → α → Bool
  abs : α → α
  sin : α → α
  exp : α → α
  sqrt : α → α
  fract : α → α
  powf : α → α → α
  pi : α
  /-- `as` to an unsigned integer, before its range ends. -/
  floor : α → ℕ

open SampleArith

variable {α : Type} [SampleArith α]

def clamp (value low high : α) : α :=
  if lt value low then low else if lt high value then high else value

structure Telemetry (α : Type) where
  rpm : α
  maxRpm : α
  throttle : α
  brake : α
  wheelSlip : α
  speed : α
  surfaceRoughness : α
  impactG : α
  gear : Int8
  pitLimiter : Bool
  absActive : Bool
  tractionControl : Bool
  airborne : Bool
  drsActive : Bool

def sampleRateHz : α := lit 4000

def samplesPerMs : ℕ := 4

def tau : α := lit 2 * pi

structure Noise where
  state : UInt32
  deriving DecidableEq

namespace Noise

def new (seed : UInt32) : Noise := { state := seed ||| 1 }

/-- The state that `next` leaves behind. -/
def next (noise : Noise) : Noise :=
  let first := noise.state ^^^ (noise.state <<< 13)
  let second := first ^^^ (first >>> 17)
  { state := second ^^^ (second <<< 5) }

/-- The sample of a state. -/
def value (noise : Noise) : α :=
  lit (noise.state >>> 8).toNat / lit 8388608 - lit 1

end Noise

@[ext]
structure OnePole (α : Type) where
  y : α

def smoothSnap : α := lit (1 / 1000000)

def OnePole.step (pole : OnePole α) (x a : α) : OnePole α :=
  let y := pole.y + (x - pole.y) * a
  { y := if lt (abs (x - y)) smoothSnap then x else y }

def smoothingFor (ms : α) : α :=
  clamp (lit 1 / (max ms (lit 1) * sampleRateHz / lit 1000)) (lit 0) (lit 1)

def smoothingForBlock (ms blockMs : α) : α :=
  let n := max (blockMs * sampleRateHz / lit 1000) (lit 1)
  clamp (lit 1 - powf (lit 1 - smoothingFor ms) n) (lit 0) (lit 1)

/-- The samples of a source at a level, and the source after them. -/
def renderSource {State : Type} (source : Source State α) (state : State) (count : ℕ) (gain : α) :
    State × List α :=
  (source.after count state, (source.samples count state).map (· * gain))

structure Burst (α : Type) where
  remaining : ℕ
  phase : α
  amp : α
  freqHz : α
  decay : α

namespace Burst

def idle : Burst α where
  remaining := 0
  phase := lit 0
  amp := lit 0
  freqHz := lit 0
  decay := lit 0

/-- The burst whatever was under way before. -/
def fire (peak freqHz decayMs lenMs : α) : Burst α where
  remaining := min (floor (lenMs * sampleRateHz / lit 1000)) (2 ^ 64 - 1)
  phase := lit 0
  amp := peak
  freqHz
  decay := exp (lit (-1) / (max decayMs (lit 1) * sampleRateHz / lit 1000))

def advance (burst : Burst α) : Burst α :=
  { burst with
    phase := fract (burst.phase + burst.freqHz / sampleRateHz)
    amp := burst.amp * burst.decay
    remaining := burst.remaining - 1 }

/-- Nothing is added once the burst is over. -/
def source : Source (Burst α) α where
  tick burst := if burst.remaining = 0 then burst else burst.advance
  sample burst := if burst.remaining = 0 then lit 0 else sin (tau * burst.phase) * burst.amp

def render (burst : Burst α) (count : ℕ) (gain : α) : Burst α × List α :=
  if le gain (lit 0) then
    ({ burst with remaining := burst.remaining - count }, List.replicate count (lit 0))
  else renderSource source burst count gain

end Burst

def harmonicGains : List ℚ := [1, 1 / 2, 1 / 4]

def firingFrequency (rpm : α) (cylinders : UInt8) (pitchScale : α) : α :=
  min (max rpm (lit 0) / lit 60 * (lit (max cylinders 1).toNat / lit 2) *
    clamp pitchScale (lit (1 / 10)) (lit 2)) (sampleRateHz * lit (45 / 100))

def fullMixLevel : α := lit (6546537 / 10000000)

def nyquistHz : α := sampleRateHz / lit 2

def rolloffStartHz : α := nyquistHz * lit (8 / 10)

def harmonicRolloff (hz : α) : α :=
  if le hz rolloffStartHz then lit 1
  else if le nyquistHz hz then lit 0
  else (nyquistHz - hz) / (nyquistHz - rolloffStartHz)

structure EngineNote (α : Type) where
  rpm : α
  throttle : α
  cylinders : UInt8
  pitchScale : α

namespace EngineNote

def freq (note : EngineNote α) : α := firingFrequency note.rpm note.cylinders note.pitchScale

def amplitude (note : EngineNote α) (intensity : α) : α :=
  (lit (15 / 100) + lit (85 / 100) * clamp note.throttle (lit 0) (lit 1)) *
    clamp intensity (lit 0) (lit 1)

/-- The gain of each harmonic with its number. -/
def gains (note : EngineNote α) : List (α × α) :=
  harmonicGains.zipIdx.map fun (gain, k) =>
    (lit gain * harmonicRolloff (note.freq * lit (k + 1)), lit (k + 1))

def norm (note : EngineNote α) : α :=
  sqrt (note.gains.foldl (fun sumsq gain => sumsq + gain.1 * gain.1) (lit 0)) / fullMixLevel

/-- `EngineSynth::generate` on the phase of the fundamental. -/
def synth (note : EngineNote α) (intensity : α) : Source α α where
  tick phase :=
    let phase := phase + note.freq / sampleRateHz
    if le (lit 1) phase then phase - lit 1 else phase
  sample phase :=
    if lt (lit 0) (note.amplitude intensity) && lt (lit 0) note.freq && lt (lit 0) note.norm then
      note.gains.foldl (fun acc gain => acc + gain.1 * sin (tau * gain.2 * phase)) (lit 0) /
        note.norm * note.amplitude intensity
    else lit 0

end EngineNote

structure EnginePulse (α : Type) where
  phase : α
  note : EngineNote α

namespace EnginePulse

def new (cylinders : UInt8) (pitchScale : α) : EnginePulse α where
  phase := lit 0
  note := { rpm := lit 0, throttle := lit 0, cylinders, pitchScale }

def update (engine : EnginePulse α) (tel : Telemetry α) : EnginePulse α :=
  { engine with
    note := { engine.note with
      rpm := if lt (lit 0) tel.maxRpm then min tel.rpm (tel.maxRpm * lit (105 / 100)) else tel.rpm
      throttle := tel.throttle } }

def render (engine : EnginePulse α) (count : ℕ) (gain : α) : EnginePulse α × List α :=
  let rendered := renderSource (engine.note.synth (lit 1)) engine.phase count gain
  ({ engine with phase := rendered.1 }, rendered.2)

end EnginePulse

/-- A phase in cycles and the level it is heard at. -/
structure Pulse (α : Type) where
  phase : α
  level : OnePole α

namespace Pulse

def idle : Pulse α where
  phase := lit 0
  level := { y := lit 0 }

def square (phase : α) : α := if lt phase (lit (1 / 2)) then lit 1 else lit (-1)

/-- The pulse at some rate whose level moves towards a target. -/
def source (hz ms target : α) (sample : α → α → α) : Source (Pulse α) α where
  tick pulse :=
    { phase := fract (pulse.phase + hz / sampleRateHz)
      level := pulse.level.step target (smoothingFor ms) }
  sample pulse := sample pulse.phase (pulse.level.step target (smoothingFor ms)).y

end Pulse

structure RevLimiter (α : Type) where
  engaged : Bool
  dwell : ℕ
  lastMaxRpm : α
  pulse : Pulse α

namespace RevLimiter

def dwellMs : ℕ := 150

def new : RevLimiter α where
  engaged := false
  dwell := 0
  lastMaxRpm := lit 0
  pulse := .idle

def settled (limiter : RevLimiter α) (tel : Telemetry α) : Bool :=
  le (SampleArith.abs (tel.maxRpm - limiter.lastMaxRpm)) (tel.maxRpm * lit (1 / 1000))

def atLimit (tel : Telemetry α) : Bool :=
  lt (lit 0) tel.maxRpm && le (tel.maxRpm * lit (98 / 100)) tel.rpm

/-- `block_ms.max(0.0) as u32` -/
def blockDwell (blockMs : α) : ℕ := min (floor (max blockMs (lit 0))) (2 ^ 32 - 1)

def update (limiter : RevLimiter α) (tel : Telemetry α) (blockMs : α) : RevLimiter α :=
  let dwell :=
    if atLimit tel && limiter.settled tel then
      min (limiter.dwell + blockDwell blockMs) (2 ^ 32 - 1)
    else 0
  { limiter with lastMaxRpm := tel.maxRpm, dwell, engaged := decide (dwellMs ≤ dwell) }

def source (engaged : Bool) : Source (Pulse α) α :=
  Pulse.source (lit 25) (lit 20) (if engaged then lit 1 else lit 0)
    fun phase level => Pulse.square phase * level

def render (limiter : RevLimiter α) (count : ℕ) (gain : α) : RevLimiter α × List α :=
  let rendered := renderSource (source limiter.engaged) limiter.pulse count gain
  ({ limiter with pulse := rendered.1 }, rendered.2)

end RevLimiter

structure PitLimiter (α : Type) where
  engaged : Bool
  pulse : Pulse α

namespace PitLimiter

def new : PitLimiter α where
  engaged := false
  pulse := .idle

def update (limiter : PitLimiter α) (tel : Telemetry α) : PitLimiter α :=
  { limiter with engaged := tel.pitLimiter }

def source (engaged : Bool) : Source (Pulse α) α :=
  Pulse.source (lit 10) (lit 40) (if engaged then lit 1 else lit 0)
    fun phase level => Pulse.square phase * level * lit (6 / 10)

def render (limiter : PitLimiter α) (count : ℕ) (gain : α) : PitLimiter α × List α :=
  let rendered := renderSource (source limiter.engaged) limiter.pulse count gain
  ({ limiter with pulse := rendered.1 }, rendered.2)

end PitLimiter

structure AbsClick (α : Type) where
  active : Bool
  brake : α
  pulse : Pulse α

namespace AbsClick

def new : AbsClick α where
  active := false
  brake := lit 0
  pulse := .idle

def update (click : AbsClick α) (tel : Telemetry α) : AbsClick α :=
  { click with active := tel.absActive, brake := clamp tel.brake (lit 0) (lit 1) }

def target (active : Bool) (brake : α) : α :=
  if active then (if lt (lit 0) brake then brake else lit 1) else lit 0

def source (active : Bool) (brake : α) : Source (Pulse α) α :=
  Pulse.source (lit 15) (lit 15) (target active brake) fun phase level =>
    (if lt phase (lit (35 / 100)) then sin (pi * phase / lit (35 / 100)) else lit 0) * level

def render (click : AbsClick α) (count : ℕ) (gain : α) : AbsClick α × List α :=
  let rendered := renderSource (source click.active click.brake) click.pulse count gain
  ({ click with pulse := rendered.1 }, rendered.2)

end AbsClick

/-- Filtered noise and the level it is heard at. -/
structure Rumble (α : Type) where
  smooth : OnePole α
  noise : Noise
  filter : OnePole α

namespace Rumble

def new (seed : UInt32) : Rumble α where
  smooth := { y := lit 0 }
  noise := .new seed
  filter := { y := lit 0 }

def source (ms target cutoff : α) (scale : α → α) : Source (Rumble α) α where
  tick rumble :=
    { smooth := rumble.smooth.step target (smoothingFor ms)
      noise := rumble.noise.next
      filter := rumble.filter.step rumble.noise.next.value cutoff }
  sample rumble :=
    scale ((rumble.filter.step rumble.noise.next.value cutoff).y *
      (rumble.smooth.step target (smoothingFor ms)).y)

end Rumble

structure TractionLoss (α : Type) where
  level : α
  rumble : Rumble α

namespace TractionLoss

def new : TractionLoss α where
  level := lit 0
  rumble := .new 0x5EED1234

def update (loss : TractionLoss α) (tel : Telemetry α) : TractionLoss α :=
  let lamp := if tel.tractionControl then lit (1 / 2) else lit 0
  { loss with level := max (clamp tel.wheelSlip (lit 0) (lit 1)) lamp }

def source (level : α) : Source (Rumble α) α :=
  Rumble.source (lit 30) level (lit (1 / 4)) (· * lit (8 / 10))

def render (loss : TractionLoss α) (count : ℕ) (gain : α) : TractionLoss α × List α :=
  let rendered := renderSource (source loss.level) loss.rumble count gain
  ({ loss with rumble := rendered.1 }, rendered.2)

end TractionLoss

structure RoadBumps (α : Type) where
  amount : α
  rumble : Rumble α

namespace RoadBumps

def new : RoadBumps α where
  amount := lit 0
  rumble := .new 0xB00B5678

def update (road : RoadBumps α) (tel : Telemetry α) : RoadBumps α :=
  let speed := clamp (SampleArith.abs tel.speed / lit 20) (lit 0) (lit 1)
  { road with amount := clamp tel.surfaceRoughness (lit 0) (lit 1) * speed }

def source (amount : α) : Source (Rumble α) α :=
  Rumble.source (lit 50) amount (lit (8 / 100)) id

def render (road : RoadBumps α) (count : ℕ) (gain : α) : RoadBumps α × List α :=
  let rendered := renderSource (source road.amount) road.rumble count gain
  ({ road with rumble := rendered.1 }, rendered.2)

end RoadBumps

structure Airborne (α : Type) where
  aloft : Bool
  depth : α
  duck : OnePole α

namespace Airborne

def new (depth : α) : Airborne α where
  aloft := false
  depth := clamp depth (lit 0) (lit 1)
  duck := { y := lit 1 }

def target (aloft : Bool) (depth : α) : α := if aloft then lit 1 - depth else lit 1

def update (airborne : Airborne α) (tel : Telemetry α) (blockMs : α) : Airborne α :=
  { airborne with
    aloft := tel.airborne
    duck := airborne.duck.step (target tel.airborne airborne.depth)
      (smoothingForBlock (lit 60) blockMs) }

end Airborne

/-- How a burst is struck. -/
structure Strike (α : Type) where
  peak : α
  freqHz : α
  decayMs : α
  lenMs : α

/-- A burst that is struck, or goes on. -/
def Burst.struck (burst : Burst α) : Option (Strike α) → Burst α
  | some strike => fire strike.peak strike.freqHz strike.decayMs strike.lenMs
  | none => burst

structure GearShift (α : Type) where
  lastGear : Option Int8
  burst : Burst α

namespace GearShift

def new : GearShift α where
  lastGear := none
  burst := .idle

def strike (lastGear : Option Int8) (tel : Telemetry α) : Option (Strike α) :=
  match lastGear with
  | none => none
  | some prev =>
      if prev ≠ tel.gear then
        some {
          peak := if prev ≠ 0 ∧ tel.gear ≠ 0 then lit (9 / 10) else lit (5 / 10)
          freqHz := lit 55
          decayMs := lit 35
          lenMs := lit 120 }
      else none

def update (shift : GearShift α) (tel : Telemetry α) : GearShift α :=
  { lastGear := some tel.gear, burst := shift.burst.struck (strike shift.lastGear tel) }

end GearShift

structure Collision (α : Type) where
  burst : Burst α
  lastG : α

namespace Collision

def minG : α := lit (15 / 10)

def fullG : α := lit 12

def new : Collision α where
  burst := .idle
  lastG := lit 0

def impact (tel : Telemetry α) : α := max tel.impactG (lit 0)

def strike (lastG : α) (tel : Telemetry α) : Option (Strike α) :=
  let g := impact tel
  if le minG g && lt lastG g then
    let scaled := clamp ((g - minG) / (fullG - minG)) (lit 0) (lit 1)
    let len := lit 90 + lit 160 * scaled
    some {
      peak := lit (5 / 10) + lit (5 / 10) * scaled
      freqHz := lit 60 - lit 25 * scaled
      decayMs := len * lit (4 / 10)
      lenMs := len }
  else none

def update (collision : Collision α) (tel : Telemetry α) : Collision α :=
  { burst := collision.burst.struck (strike collision.lastG tel), lastG := impact tel }

end Collision

structure Drs (α : Type) where
  last : Option Bool
  burst : Burst α

namespace Drs

def new : Drs α where
  last := none
  burst := .idle

def strike (last : Option Bool) (tel : Telemetry α) : Option (Strike α) :=
  match last with
  | none => none
  | some prev =>
      if prev ≠ tel.drsActive then
        some {
          peak := if tel.drsActive then lit (7 / 10) else lit (4 / 10)
          freqHz := lit 90
          decayMs := lit 18
          lenMs := lit 60 }
      else none

def update (drs : Drs α) (tel : Telemetry α) : Drs α :=
  { last := some tel.drsActive, burst := drs.burst.struck (strike drs.last tel) }

end Drs

inductive EffectId where
  | engine
  | revLimiter
  | pitLimiter
  | gearShift
  | abs
  | tractionLoss
  | roadBumps
  | airborne
  | collision
  | drs
  deriving DecidableEq

inductive Effect (α : Type) where
  | engine (effect : EnginePulse α)
  | revLimiter (effect : RevLimiter α)
  | pitLimiter (effect : PitLimiter α)
  | gearShift (effect : GearShift α)
  | abs (effect : AbsClick α)
  | tractionLoss (effect : TractionLoss α)
  | roadBumps (effect : RoadBumps α)
  | airborne (effect : Airborne α)
  | collision (effect : Collision α)
  | drs (effect : Drs α)

/-- What an effect renders, under the name of the effect. -/
def rewrap {State Wrapped : Type} (wrap : State → Wrapped) (rendered : State × List α) :
    Wrapped × List α := (wrap rendered.1, rendered.2)

namespace Effect

def id : Effect α → EffectId
  | .engine _ => .engine
  | .revLimiter _ => .revLimiter
  | .pitLimiter _ => .pitLimiter
  | .gearShift _ => .gearShift
  | .abs _ => .abs
  | .tractionLoss _ => .tractionLoss
  | .roadBumps _ => .roadBumps
  | .airborne _ => .airborne
  | .collision _ => .collision
  | .drs _ => .drs

def continuous : Effect α → Bool
  | .gearShift _ | .abs _ | .collision _ | .drs _ => false
  | _ => true

def duck : Effect α → α
  | .airborne effect => effect.duck.y
  | _ => lit 1

def update (tel : Telemetry α) (blockMs : α) : Effect α → Effect α
  | .engine effect => .engine (effect.update tel)
  | .revLimiter effect => .revLimiter (effect.update tel blockMs)
  | .pitLimiter effect => .pitLimiter (effect.update tel)
  | .gearShift effect => .gearShift (effect.update tel)
  | .abs effect => .abs (effect.update tel)
  | .tractionLoss effect => .tractionLoss (effect.update tel)
  | .roadBumps effect => .roadBumps (effect.update tel)
  | .airborne effect => .airborne (effect.update tel blockMs)
  | .collision effect => .collision (effect.update tel)
  | .drs effect => .drs (effect.update tel)

/-- The effect after a block and the samples it adds. -/
def render (effect : Effect α) (count : ℕ) (gain : α) : Effect α × List α :=
  match effect with
  | .engine effect => rewrap .engine (effect.render count gain)
  | .revLimiter effect => rewrap .revLimiter (effect.render count gain)
  | .pitLimiter effect => rewrap .pitLimiter (effect.render count gain)
  | .gearShift effect =>
      rewrap (fun burst => .gearShift { effect with burst }) (effect.burst.render count gain)
  | .abs effect => rewrap .abs (effect.render count gain)
  | .tractionLoss effect => rewrap .tractionLoss (effect.render count gain)
  | .roadBumps effect => rewrap .roadBumps (effect.render count gain)
  | .airborne effect => (.airborne effect, List.replicate count (lit 0))
  | .collision effect =>
      rewrap (fun burst => .collision { effect with burst }) (effect.burst.render count gain)
  | .drs effect =>
      rewrap (fun burst => .drs { effect with burst }) (effect.burst.render count gain)

end Effect

/-- In percent. -/
abbrev EffectGains := EffectId → UInt8

def EffectGains.scale (gains : EffectGains) (id : EffectId) : α := lit (gains id).toNat / lit 100

structure Mixer (α : Type) where
  effects : List (Effect α)
  gains : EffectGains

namespace Mixer

def new (cylinders : UInt8) (pitchScale : α) (gains : EffectGains) : Mixer α where
  effects := [.engine (.new cylinders pitchScale), .revLimiter .new, .pitLimiter .new,
    .gearShift .new, .abs .new, .tractionLoss .new, .roadBumps .new,
    .airborne (.new (gains.scale .airborne)), .collision .new, .drs .new]
  gains

def engineOnly (cylinders : UInt8) (pitchScale : α) (gains : EffectGains) : Mixer α where
  effects := [.engine (.new cylinders pitchScale)]
  gains

/-- A buffer of silence with some layers added one after another. -/
def sum (count : ℕ) (layers : List (List α)) : List α :=
  layers.foldl (List.zipWith (· + ·)) (List.replicate count (lit 0))

def mixed (duck intensity : α) (continuous transient : α) : α :=
  clamp ((continuous * duck + transient) * intensity) (lit (-1)) (lit 1)

def render (mixer : Mixer α) (tel : Telemetry α) (intensity : α) (count : ℕ) :
    Mixer α × List α :=
  if count = 0 then (mixer, [])
  else
    let blockMs := lit count * lit 1000 / sampleRateHz
    let updated := mixer.effects.map (Effect.update tel blockMs)
    let duck := updated.foldl (fun duck effect => duck * effect.duck) (lit 1)
    let layer (continuous : Bool) : List α :=
      sum count ((updated.filter (·.continuous = continuous)).map fun effect =>
        (effect.render count (mixer.gains.scale effect.id)).2)
    ({ mixer with effects :=
        updated.map fun effect => (effect.render count (mixer.gains.scale effect.id)).1 },
      List.zipWith (mixed duck (clamp intensity (lit 0) (lit 1))) (layer true) (layer false))

end Mixer

end TrueForce.TfSim.Haptics
