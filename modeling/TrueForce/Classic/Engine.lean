import TrueForce.Classic.Force
import TrueForce.Classic.Command
import TrueForce.Foundation.Tally
import Mathlib.Logic.Function.Basic
import Mathlib.Data.List.FinRange

/-!
# The classic engine

`dd-lg4ff.c` drives the G923 with the commands of the classic wheels: constant,
ramp and periodic effects are summed into slot 0, and each condition effect has one
of the slots 1 to 3 from its start on.  The functions are given here piece by piece,
as far as `timer_lock` makes each piece one step.
-/

namespace TrueForce.Classic

open TrueForce.CInt TrueForce.Ffb

/-- The module parameters that a tick reads. -/
structure Levels where
  springLevel : ℤ := 30
  damperLevel : ℤ := 30
  frictionLevel : ℤ := 30
  deriving DecidableEq, Repr

/-- `struct dd_lg4ff_device_entry`, with the last command sent for each slot. -/
structure Entry where
  states : Fin 16 → EffectState
  slots : Fin 4 → Slot
  effectsUsed : ℤ
  masterGain : UInt16
  gain : UInt16
  levels : Levels
  sent : Fin 4 → Command

/-- `capabilities` in the device table. -/
def capabilities : ℕ := 0

def capFriction : ℕ := 1

/-- `effect->type` -/
def ffType : EffectKind → ℕ
  | .rumble .. => 0x50
  | .periodic .. => 0x51
  | .constant .. => 0x52
  | .spring _ => 0x53
  | .friction _ => 0x54
  | .damper _ => 0x55
  | .inertia _ => 0x56
  | .ramp .. => 0x57
  | .other => 0

def lacksPeriod : EffectKind → Bool
  | .periodic _ period _ _ _ _ => period = 0
  | _ => false

/-- The kind of slot a condition effect takes; what the wheel cannot do is cast to a damper. -/
def slotType : EffectKind → Option SlotType
  | .spring _ => some .spring
  | .damper _ => some .damper
  | .friction _ => if capabilities &&& capFriction = 0 then some .damper else some .friction
  | .inertia _ => some .damper
  | .constant .. | .ramp .. | .periodic .. | .rumble .. | .other => none

/-- What a start sets, of an effect that plays or not. -/
def EffectState.start (state : EffectState) (value : ℤ) (now : UInt64) : EffectState :=
  { state with
    flags := { state.flags with started := true }, startAt := now, count := .ofInt value }

namespace Entry

variable (entry : Entry)

def setState (id : Fin 16) (state : EffectState) : Entry :=
  { entry with states := Function.update entry.states id state }

def setSlot (i : Fin 4) (slot : Slot) : Entry :=
  { entry with slots := Function.update entry.slots i slot }

def setEffectType (i : Fin 4) (effectType : Option SlotType) : Entry :=
  entry.setSlot i { entry.slots i with effectType }

/-- The number of effects whose `STARTED` flag is set. -/
def started : ℕ := tally (fun state => state.flags.started) entry.states

/-- `dd_lg4ff_upload_effect` -/
def uploadEffect (id : Fin 16) (effect : FfEffect) (now : UInt64) : Option Entry :=
  let state := entry.states id
  if lacksPeriod effect.kind then none
  else if state.flags.started ∧ ffType effect.kind ≠ ffType state.effect.kind then none
  else if state.flags.started then
    some (entry.setState id { state with
      effect, flags := { state.flags with updating := true }, updatedAt := now })
  else some (entry.setState id { state with effect })

/-- The first of the slots 1 to 3 that is free. -/
def freeSlot : Option (Fin 4) := [1, 2, 3].find? fun i => (entry.slots i).effectType = none

/-- A condition effect without a slot is given a free one. -/
def takeSlot (id : Fin 16) : Entry :=
  let state := entry.states id
  match slotType state.effect.kind with
  | some effectType =>
      if state.slot = 0 then
        match entry.freeSlot with
        | some i => (entry.setState id { state with slot := i }).setEffectType i (some effectType)
        | none => entry
      else entry
  | none => entry

/-- A start that finds the effect stopped. -/
def begins (id : Fin 16) (value : ℤ) : Bool := 0 < value && !(entry.states id).flags.started

/-- `dd_lg4ff_play_effect`, but for the timer, which an effect that begins starts. -/
def playEffect (id : Fin 16) (value : ℤ) (now : UInt64) : Entry :=
  if 0 < value then
    let entry :=
      if (entry.states id).flags.started then entry.setState id (entry.states id).stopEffect
      else { entry with effectsUsed := entry.effectsUsed + 1 }.takeSlot id
    entry.setState id ((entry.states id).start value now)
  else if (entry.states id).flags.started then
    let state := (entry.states id).stopEffect
    let entry := { entry with effectsUsed := entry.effectsUsed - 1 }
    if state.slot = 0 then entry.setState id state
    else (entry.setEffectType state.slot none).setState id { state with slot := 0 }
  else entry

end Entry

/-- The last repetition is over, or one that is not the last. -/
def EffectState.ends (state : EffectState) (now : UInt64) : Bool :=
  state.flags.allset && state.effect.replayLength ≠ 0 && timeAfterEq now state.stopAt

/-- An effect whose time is over is stopped, and started again while it has repetitions left. -/
def EffectState.renew (state : EffectState) (now : UInt64) : EffectState :=
  if state.ends now then
    let stopped := { state.stopEffect with count := state.count - 1 }
    if stopped.count = 0 then stopped
    else { stopped with
      flags := { stopped.flags with started := true }, startAt := state.stopAt }
  else state

abbrev Forces := Fin 4 → Parameters

def springForce (condition : Condition) (parameters : Parameters) : Parameters :=
  { parameters with
    d1 := condition.center.toInt - (condition.deadband.toNat / 2 : ℕ)
    d2 := condition.center.toInt + (condition.deadband.toNat / 2 : ℕ)
    k1 := condition.leftCoeff.toInt
    k2 := condition.rightCoeff.toInt
    clip := condition.rightSaturation.toUInt32 }

def resistance (condition : Condition) (parameters : Parameters) : Parameters :=
  { parameters with
    k1 := condition.leftCoeff.toInt
    k2 := condition.rightCoeff.toInt
    clip := condition.rightSaturation.toUInt32 }

namespace EffectState

variable (fixpSin32 : ℤ → ℤ) (state : EffectState) (forces : Forces)

/-- `calculate_constant`, `_ramp` or `_periodic`; what C leaves undefined may be any value. -/
def level (undefined : ℤ) : ℤ :=
  (match state.effect.kind with
    | .constant level envelope => state.calculateConstant level envelope
    | .ramp startLevel endLevel envelope => state.calculateRamp startLevel endLevel envelope
    | .periodic waveform _ magnitude offset _ envelope =>
        state.calculatePeriodic fixpSin32 waveform magnitude offset envelope
    | _ => some 0).getD undefined

def addLevel (undefined : ℤ) : Forces :=
  Function.update forces 0
    { forces 0 with level := s32 ((forces 0).level + state.level fixpSin32 undefined) }

def setForce (force : Parameters → Parameters) : Forces :=
  if state.slot = 0 then forces
  else Function.update forces state.slot (force (forces state.slot))

/-- What an effect that plays adds to the forces of the tick. -/
def contribute (undefined : ℤ) : Forces :=
  match state.effect.kind with
  | .constant .. | .ramp .. | .periodic .. => state.addLevel fixpSin32 forces undefined
  | .spring condition => state.setForce forces (springForce condition)
  | .damper condition | .friction condition | .inertia condition =>
      state.setForce forces (resistance condition)
  | .rumble .. | .other => forces

end EffectState

/-- The loop over the effects. -/
structure Sampling where
  entry : Entry
  forces : Forces
  /-- The started effects that are still to come. -/
  count : ℤ

/-- What a tick depends on besides the entry. -/
structure Instant where
  now : UInt64
  /-- What an undefined level comes to. -/
  undefined : Fin 16 → ℤ

variable (fixpSin32 : ℤ → ℤ)

def sampleEffect (instant : Instant) (sampling : Sampling) (id : Fin 16) : Sampling :=
  if sampling.count = 0 then sampling
  else if !(sampling.entry.states id).flags.started then sampling
  else
    let count := sampling.count - 1
    let state := (sampling.entry.states id).renew instant.now
    if state.flags.started then
      let state := state.updateState fixpSin32 instant.now
      { entry := sampling.entry.setState id state
        forces :=
          if state.flags.playing then
            state.contribute fixpSin32 sampling.forces (instant.undefined id)
          else sampling.forces
        count }
    else
      let entry := sampling.entry.setState id state
      { sampling with
        entry := { entry with effectsUsed := entry.effectsUsed - 1 }
        count }

/-- The part of `dd_lg4ff_timer` that holds `timer_lock`. -/
def sample (instant : Instant) (entry : Entry) : Sampling :=
  (List.finRange 16).foldl (sampleEffect fixpSin32 instant)
    { entry, forces := fun _ => {}, count := entry.effectsUsed }

/-- The product of the two gains. -/
def Entry.totalGain (entry : Entry) : ℕ := entry.masterGain.toNat * entry.gain.toNat / 0xffff

def scaleBy (gain : ℕ) (value : ℤ) : ℤ := s32 ((value * gain).tdiv 0xffff)

def scaleLevel (gain : ℕ) (forces : Forces) : Forces :=
  Function.update forces 0 { forces 0 with level := scaleBy gain (forces 0).level }

/-- The level setting for a kind of slot, in percent. -/
def Levels.percent (levels : Levels) : Option SlotType → Option ℤ
  | some .spring => some levels.springLevel
  | some .damper => some levels.damperLevel
  | some .friction => some levels.frictionLevel
  | some .constant | none => none

def scaleClip (levels : Levels) (gain : ℕ) (effectType : Option SlotType) (clip : UInt32) :
    UInt32 :=
  let clip :=
    match levels.percent effectType with
    | some percent => clip * .ofInt percent / 100
    | none => clip
  clip * .ofNat gain / 0xffff

def scaleParameters (levels : Levels) (gain : ℕ) (effectType : Option SlotType)
    (parameters : Parameters) : Parameters :=
  { parameters with
    k1 := scaleBy gain parameters.k1
    k2 := scaleBy gain parameters.k2
    clip := scaleClip levels gain effectType parameters.clip }

/-- The forces of one of the slots 1 to 3 under the gains. -/
def Entry.scaleSlot (entry : Entry) (gain : ℕ) (forces : Forces) (i : Fin 4) : Forces :=
  Function.update forces i
    (scaleParameters entry.levels gain (entry.slots i).effectType (forces i))

def Entry.scale (entry : Entry) (gain : ℕ) (forces : Forces) : Forces :=
  [1, 2, 3].foldl (entry.scaleSlot gain) (scaleLevel gain forces)

/-- Updates one slot and sends its command if there is something new. -/
def Entry.pushSlot (entry : Entry) (forces : Forces) (i : Fin 4) : Entry :=
  let slot := updateSlot i (entry.slots i) (forces i)
  if slot.isUpdated then
    let entry := entry.setSlot i { slot with isUpdated := false }
    { entry with sent := Function.update entry.sent i slot.currentCmd }
  else entry.setSlot i slot

/-- `dd_lg4ff_timer`, in one piece. -/
def tick (instant : Instant) (entry : Entry) : Entry :=
  let sampling := sample fixpSin32 instant entry
  let forces := sampling.entry.scale entry.totalGain sampling.forces
  [0, 1, 2, 3].foldl (fun entry i => entry.pushSlot forces i) sampling.entry

def emptySlot (i : Fin 4) : Slot where
  currentCmd := 0 :: idlePayload
  cmdOp := 0
  isUpdated := false
  effectType := if i = 0 then some .constant else none

/-- The slots after `dd_lg4ff_init_slots`, all of which were sent. -/
def initSlot (i : Fin 4) : Slot := { updateSlot i (emptySlot i) {} with isUpdated := false }

def Entry.initial (levels : Levels) : Entry where
  states _ := {}
  slots := initSlot
  effectsUsed := 0
  masterGain := 0xffff
  gain := 0xffff
  levels
  sent i := (initSlot i).currentCmd

end TrueForce.Classic
