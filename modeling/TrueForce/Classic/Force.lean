import TrueForce.Ffb.Effect
import Mathlib.Algebra.Group.Int.Defs
import Mathlib.Algebra.Group.Nat.Defs

/-!
# One effect of the classic engine

`struct dd_lg4ff_effect_state` and the functions that advance it and read its
force.  An `int` operation whose result does not fit, and a division by zero, has
no value; `unsigned long` values wrap.  `fixp_sin32` belongs to the kernel and is a
parameter.
-/

namespace TrueForce.Classic

open TrueForce.CInt TrueForce.Ffb

/-- There is a first slot. -/
scoped instance neZeroSlots : @NeZero ℕ Zero.ofOfNat0 4 := ⟨Nat.succ_ne_zero 3⟩

/-- There is a first effect. -/
scoped instance neZeroEffects : @NeZero ℕ Zero.ofOfNat0 16 := ⟨Nat.succ_ne_zero 15⟩

/-- The result of an operation on `int`s. -/
def int (value : ℤ) : Option ℤ :=
  if -0x80000000 ≤ value ∧ value < 0x80000000 then some value else none

def divInt (value divisor : ℤ) : Option ℤ :=
  if divisor = 0 then none else int (value.tdiv divisor)

/-- An `unsigned long` assigned to an `int`. -/
def toInt (value : UInt64) : ℤ := s32 value.toNat

/-- `fixp_sin16` -/
def fixpSin16 (fixpSin32 : ℤ → ℤ) (v : ℤ) : ℤ :=
  if 180 < v % 360 then -(fixpSin32 (v % 360 - 180) / 2 ^ 16) else fixpSin32 v / 2 ^ 16

/-- `time_after_eq`: the difference is read as a signed one. -/
def timeAfterEq (a b : UInt64) : Bool := (a - b).toNat < 2 ^ 63

/-- `flags` -/
structure Flags where
  started : Bool := false
  allset : Bool := false
  playing : Bool := false
  updating : Bool := false
  deriving DecidableEq, Repr

structure EffectState where
  effect : FfEffect := .zero
  startAt : UInt64 := 0
  playAt : UInt64 := 0
  stopAt : UInt64 := 0
  flags : Flags := {}
  timePlaying : UInt64 := 0
  updatedAt : UInt64 := 0
  phase : UInt32 := 0
  phaseAdj : UInt32 := 0
  count : UInt32 := 0
  directionGain : ℤ := 0
  slope : Option ℤ := some 0
  slot : Fin 4 := 0
  deriving DecidableEq

namespace EffectState

variable (fixpSin32 : ℤ → ℤ) (state : EffectState) (now : UInt64)

/-- `DD_LG4FF_STOP_EFFECT` -/
def stopEffect : EffectState := { state with flags := {} }

def sinOfDirection : ℤ :=
  fixpSin16 fixpSin32 (state.effect.direction.toNat * 360 / 0x10000 : ℕ)

/-- The stop time of an effect that begins at a time. -/
def stopFrom (time : UInt64) : UInt64 :=
  if state.effect.replayLength = 0 then state.stopAt
  else time + state.effect.replayLength.toUInt64

/-- What is done once after a start. -/
def setAll : EffectState :=
  if state.flags.allset then state
  else
    let playAt := state.startAt + state.effect.replayDelay.toUInt64
    { state with
      flags := { state.flags with allset := true }
      playAt
      updatedAt := if state.flags.updating then state.updatedAt else playAt
      directionGain := state.sinOfDirection fixpSin32
      phaseAdj :=
        match state.effect.kind with
        | .periodic _ period _ _ phase _ => phase.toUInt32 * 360 / period.toUInt32
        | _ => state.phaseAdj
      stopAt := state.stopFrom playAt }

/-- What is done once after an update. -/
def takeUpdate : EffectState :=
  if state.flags.updating then
    { state with
      flags := { state.flags with updating := false, playing := false }
      playAt := state.updatedAt + state.effect.replayDelay.toUInt64
      directionGain := state.sinOfDirection fixpSin32
      stopAt := state.stopFrom state.updatedAt
      phaseAdj :=
        match state.effect.kind with
        | .periodic .. => state.phase
        | _ => state.phaseAdj }
  else state

def rampSlope : Option ℤ :=
  match state.effect.kind with
  | .ramp startLevel endLevel envelope =>
      if state.effect.replayLength = 0 then some 0
      else do
        let rise ← int ((endLevel.toInt - startLevel.toInt) * 2 ^ 16)
        divInt rise (state.effect.replayLength.toNat - envelope.attackLength.toNat -
          envelope.fadeLength.toNat)
  | _ => some 0

/-- `PLAYING` is set when the time has come. -/
def begin : EffectState :=
  if !state.flags.playing && timeAfterEq now state.playAt &&
      (state.effect.replayLength = 0 || !timeAfterEq now state.stopAt) then
    { state with flags := { state.flags with playing := true } }
  else state

def elapse : EffectState :=
  if state.flags.playing then
    { state with
      timePlaying := now - state.playAt
      phase :=
        match state.effect.kind with
        | .periodic _ period _ _ _ _ =>
            ((now - state.updatedAt) % period.toUInt64 * 360 / period.toUInt64).toUInt32 +
              state.phaseAdj % 360
        | _ => state.phase }
  else state

/-- `dd_lg4ff_update_state` -/
def updateState : EffectState :=
  let state := (state.setAll fixpSin32).takeUpdate fixpSin32
  ({ state with slope := state.rampSlope }.begin now).elapse now

def sign (level : ℤ) : ℤ := if level < 0 then -1 else 1

/-- The time into the fade. -/
def fadeTime (envelope : Envelope) : ℤ :=
  toInt (state.timePlaying - state.effect.replayLength.toUInt64 + envelope.fadeLength.toUInt64)

/-- The envelope of a constant and of a periodic effect. -/
def shape (envelope : Envelope) (level : ℤ) : Option ℤ :=
  if state.timePlaying < envelope.attackLength.toUInt64 then do
    let attack := sign level * envelope.attackLevel.toNat
    let d ← int (level - attack)
    some (toInt (.ofInt attack +
      .ofInt d * state.timePlaying / envelope.attackLength.toUInt64))
  else if state.effect.replayLength ≠ 0 ∧ 0 < state.fadeTime envelope then do
    let d ← int (level - sign level * envelope.fadeLevel.toNat)
    let product ← int (d * state.fadeTime envelope)
    let share ← divInt product envelope.fadeLength.toNat
    int (level - share)
  else some level

def applyGain (level : ℤ) : Option ℤ := do
  let product ← int (state.directionGain * level)
  divInt product 0x7fff

def calculateConstant (level : Int16) (envelope : Envelope) : Option ℤ := do
  let level ← state.shape envelope level.toInt
  state.applyGain level

def calculateRamp (startLevel endLevel : Int16) (envelope : Envelope) : Option ℤ := do
  let attackLength := envelope.attackLength.toUInt64
  let level ←
    if state.timePlaying < attackLength then do
      let level := startLevel.toInt
      let attack := sign level * envelope.attackLevel.toNat
      let d ← int (level - attack)
      let product ← int (d * toInt (attackLength - state.timePlaying))
      let share ← divInt product envelope.attackLength.toNat
      int (attack + share)
    else if state.effect.replayLength ≠ 0 ∧
        UInt64.ofInt (state.effect.replayLength.toNat - envelope.fadeLength.toNat) ≤
          state.timePlaying then do
      let level := endLevel.toInt
      let d ← int (sign level * envelope.fadeLevel.toNat - level)
      let product ← int (d * state.fadeTime envelope)
      let share ← divInt product envelope.fadeLength.toNat
      int (level - share)
    else do
      let slope ← state.slope
      let product ← int (toInt (state.timePlaying - attackLength) * slope)
      int (startLevel.toInt + product / 2 ^ 16)
  state.applyGain level

/-- `phase * magnitude * 2 / 360`, unsigned because the phase is. -/
def saw (magnitude : ℤ) : UInt32 := state.phase * .ofInt magnitude * 2 / 360

def wave (waveform : Waveform) (magnitude offset : ℤ) : Option ℤ :=
  match waveform with
  | .sine => do
      let product ← int (fixpSin16 fixpSin32 state.phase.toNat * magnitude)
      let share ← divInt product 0x7fff
      int (offset + share)
  | .square => int (offset + (if state.phase < 180 then 1 else -1) * magnitude)
  | .triangle => do
      let distance ← int (s32 (state.saw magnitude - .ofInt magnitude).toNat).natAbs
      let level ← int (distance * 2)
      let level ← int (level - magnitude)
      int (offset + level)
  | .sawUp => some (s32 (.ofInt offset + (state.saw magnitude - .ofInt magnitude)).toNat)
  | .sawDown => some (s32 (.ofInt offset + (.ofInt magnitude - state.saw magnitude)).toNat)
  | .other => some offset

def calculatePeriodic (waveform : Waveform) (magnitude offset : Int16) (envelope : Envelope) :
    Option ℤ := do
  let magnitude ← state.shape envelope magnitude.toInt
  let level ← state.wave fixpSin32 waveform magnitude offset.toInt
  state.applyGain level

end EffectState

end TrueForce.Classic
