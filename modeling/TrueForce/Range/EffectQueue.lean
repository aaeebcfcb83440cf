import TrueForce.Foundation.Coalescing
import TrueForce.Range.Classic

/-!
# The command queue of the classic wheels

The force feedback of the classic wheels is a queue of commands that one worker sends, each
after the answer to the one before it.  The worker writes the wheel's slot of the effect into
a command as it takes it, and keeps the table of the slots from the answers.  Commands are
queued at any time, also from atomic context; an unbind refuses new ones, waits for the
worker and frees the table.
-/

namespace TrueForce.Range.EffectQueue

open TrueForce.Transition TrueForce.Range.Classic

def destroyEffect : ℕ := 0x41

def effectIdNone : ℤ := -1

def effectIdAutocenter : ℤ := -2

def enomem : ℤ := 12

def enodev : ℤ := 19

/-- `hidpp_ff_private_data`, the part of the queue and its worker. -/
structure FfData where
  /-- The effect in each slot, -1 where there is none. -/
  effectIds : List ℤ
  slotAutocenter : UInt8
  gain : UInt16
  range : Int16
  pending : List FfWork
  queueLen : ℤ
  /-- The workqueue exists. -/
  wq : Bool
  deriving DecidableEq

namespace FfData

/-- `hidpp_ff_init` -/
def init (numEffects : UInt8) (gain : UInt16) (range : Int16) : FfData where
  effectIds := List.replicate numEffects.toNat (-1)
  slotAutocenter := 0
  gain := gain
  range := range
  pending := []
  queueLen := 0
  wq := true

/-- `hidpp_ff_find_effect` -/
def findEffect (data : FfData) (effectId : ℤ) : UInt8 :=
  match data.effectIds.findIdx? (· = effectId) with
  | some index => UInt8.ofNat (index + 1)
  | none => 0

/-- `hidpp_ff_queue_work`, with its return value. -/
def queueWork (data : FfData) (allocated : Bool) (work : FfWork) : FfData × ℤ :=
  let add :=
    if data.wq then
      ({ data with pending := data.pending ++ [work], queueLen := data.queueLen + 1 }, 0)
    else (data, -enodev)
  if allocated then
    match data.pending.getLast? with
    | some tail =>
        if coalescible work.command ∧ tail.command = work.command ∧
            tail.effectId = work.effectId then
          ({ data with pending := data.pending.dropLast ++ [work] }, 0)
        else add
    | none => add
  else (data, -enomem)

/-- The slot that `hidpp_ff_send_one` writes into the command. -/
def address (data : FfData) (work : FfWork) : FfWork :=
  if work.effectId = effectIdAutocenter then
    { work with params := work.params.set 0 data.slotAutocenter }
  else if work.effectId = effectIdNone then work
  else { work with params := work.params.set 0 (data.findEffect work.effectId) }

def setSlot (data : FfData) (slot : UInt8) (effectId : ℤ) : FfData :=
  { data with effectIds := data.effectIds.set (slot.toNat - 1) effectId }

/-- `hidpp_ff_send_one` behind its answer, which a failed command has not; a write outside the
table gives none. -/
def applyAnswer (data : FfData) (work : FfWork) (answer : Option (List UInt8)) : Option FfData :=
  match answer with
  | none => some data
  | some params =>
      if work.command = downloadEffect then
        let slot := params.getD 0 0
        if 0 < slot ∧ slot.toNat ≤ data.effectIds.length then
          if 0 ≤ work.effectId then some (data.setSlot slot work.effectId)
          else if effectIdAutocenter ≤ work.effectId then
            some { data with slotAutocenter := slot }
          else some data
        else some data
      else if work.command = destroyEffect then
        let slot := work.params.getD 0 0
        if 0 ≤ work.effectId then
          if 0 < slot ∧ slot.toNat ≤ data.effectIds.length then some (data.setSlot slot (-1))
          else none
        else if effectIdAutocenter ≤ work.effectId then some { data with slotAutocenter := 0 }
        else some data
      else if work.command = setGlobalGains then
        some { data with
          gain := (work.params.getD 0 0).toUInt16 <<< 8 + (work.params.getD 1 0).toUInt16 }
      else if work.command = setAperture then some { data with range := work.range.toInt16 }
      else some data

end FfData

def playState : UInt8 := 2

def stopState : UInt8 := 1

def effectSpring : UInt8 := 0x06

def effectAutostart : UInt8 := 0x80

/-- `hidpp_ff_playback`; the slot is not initialised. -/
def playback (unset : UInt8) (effectId : ℤ) (value : Bool) : FfWork where
  effectId := effectId
  command := setEffectState
  params := [unset, if value then playState else stopState]

/-- `hidpp_ff_erase_effect` -/
def eraseEffect (effectId : ℤ) : FfWork where
  effectId := effectId
  command := destroyEffect
  params := [0]

/-- `hidpp_ff_set_autocenter` -/
def setAutocenter (unset : UInt8) (magnitude : UInt16) : FfWork where
  effectId := effectIdAutocenter
  command := downloadEffect
  params := [unset, effectSpring ||| effectAutostart, 0, 0, 0, 0, (magnitude >>> 9).toUInt8,
    (magnitude >>> 1).toUInt8, (magnitude >>> 11).toUInt8, (magnitude >>> 3).toUInt8, 0, 0, 0, 0,
    (magnitude >>> 11).toUInt8, (magnitude >>> 3).toUInt8, (magnitude >>> 9).toUInt8,
    (magnitude >>> 1).toUInt8]

/-- `hidpp_ff_set_gain` -/
def setGain (gain : UInt16) : FfWork where
  effectId := effectIdNone
  command := setGlobalGains
  params := [(gain >>> 8).toUInt8, gain.toUInt8, 0, 0]

structure State where
  data : FfData
  /-- The command that the worker waits for, with its slot. -/
  inFlight : Option FfWork
  /-- `effect_ids` is freed. -/
  freed : Bool
  /-- Something outside the table was written. -/
  corrupted : Bool
  /-- What was queued with success so far. -/
  queued : List FfWork
  /-- What the worker has taken so far, as it was queued. -/
  taken : List FfWork
  deriving DecidableEq

inductive Event where
  | queue (work : FfWork) (allocated : Bool)
  /-- The worker takes the first command and sends it. -/
  | take
  | answer (answer : Option (List UInt8))
  /-- `hidpp_ff_classic_teardown` takes the workqueue away. -/
  | unbind
  /-- `destroy_workqueue` has returned. -/
  | free
  deriving DecidableEq

namespace State

def start (numEffects : UInt8) (gain : UInt16) (range : Int16) : State where
  data := .init numEffects gain range
  inFlight := none
  freed := false
  corrupted := false
  queued := []
  taken := []

def queue (state : State) (work : FfWork) (allocated : Bool) : State :=
  let (data, ret) := state.data.queueWork allocated work
  { state with data, queued := if ret = 0 then state.queued ++ [work] else state.queued }

def answer (state : State) (work : FfWork) (answer : Option (List UInt8)) : State :=
  match state.data.applyAnswer work answer with
  | some data => { state with data, inFlight := none }
  | none => { state with inFlight := none, corrupted := true }

/-- Every caller queues at least the place of the slot; nothing is said about what follows a write
outside the table. -/
def step (state : State) (event : Event) : Option State :=
  if state.corrupted then none
  else
    match event with
    | .queue work allocated =>
        if work.params = [] then none else some (state.queue work allocated)
    | .take =>
        match state.inFlight, state.data.pending with
        | none, work :: pending =>
            some { state with
              inFlight := some (state.data.address work)
              taken := state.taken ++ [work]
              data := { state.data with pending, queueLen := state.data.queueLen - 1 } }
        | _, _ => none
    | .answer params => state.inFlight.map fun work => state.answer work params
    | .unbind =>
        if state.data.wq then some { state with data := { state.data with wq := false } } else none
    | .free =>
        if state.data.wq = false ∧ state.data.pending = [] ∧ state.inFlight = none ∧
            state.freed = false then
          some { state with freed := true, data := { state.data with effectIds := [] } }
        else none

end State

def effectQueue : System State Event where
  initial state := ∃ numEffects gain range, state = .start numEffects gain range
  step := State.step

end TrueForce.Range.EffectQueue
