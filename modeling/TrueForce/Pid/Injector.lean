import Mathlib.Data.Int.Notation
import Mathlib.Data.Nat.Notation
import Mathlib.Logic.Function.Basic

/-!
# The PID injector

The driver answers the PID reports that Wine writes to interface 0.  Two entry
points receive them, `hidpp_dd_pid_ll_output_report` for `write` and
`hidpp_dd_pid_ll_raw_request` for the report ioctls, and both dispatch to
`hidpp_dd_pid_handle_output`, which keeps one record per effect slot and turns
the reports into calls of the evdev force-feedback callbacks.

A report is a memory and a count, so that a read past the count is visible.  The
calls are collected as actions; `inject_pid` below 2 suppresses them, and so does
a force-feedback side that is not up yet.  The slot lock is held for each report
as a whole, and the teardown of the override ends the life that is modelled.
-/

namespace TrueForce.Pid

def maxEffects : ℕ := 63

-- The `HIDPP_DD_PID_REPORT_*` numbers.

def reportState : UInt8 := 0x50

def reportDeviceControl : UInt8 := 0x50

def reportSetEffect : UInt8 := 0x51

def reportSetEnvelope : UInt8 := 0x52

def reportSetCondition : UInt8 := 0x53

def reportCreateNewEffect : UInt8 := 0x54

def reportSetConstant : UInt8 := 0x55

def reportBlockLoad : UInt8 := 0x56

def reportPidPool : UInt8 := 0x57

def reportSetRamp : UInt8 := 0x58

def reportDeviceGain : UInt8 := 0x59

def reportEffectOp : UInt8 := 0x5A

def reportBlockFree : UInt8 := 0x5B

def reportSetPeriodic : UInt8 := 0x5D

def EINVAL : ℤ := 22

inductive FfType where
  | constant
  | ramp
  | custom
  | square
  | sine
  | triangle
  | sawUp
  | sawDown
  | spring
  | damper
  | inertia
  | friction
  deriving DecidableEq, Repr

/-- `hidpp_dd_pid_type_to_ff`, with `none` for the undefined slots. -/
def typeToFf (pidType : UInt8) : Option FfType :=
  match pidType.toNat with
  | 1 => some .constant
  | 2 => some .ramp
  | 3 => some .custom
  | 4 => some .square
  | 5 => some .sine
  | 6 => some .triangle
  | 7 => some .sawUp
  | 8 => some .sawDown
  | 9 => some .spring
  | 10 => some .damper
  | 11 => some .inertia
  | 12 => some .friction
  | _ => none

def FfType.isCondition : FfType → Bool
  | .spring | .damper | .friction | .inertia => true
  | _ => false

def FfType.isPeriodic : FfType → Bool
  | .sine | .square | .triangle | .sawUp | .sawDown => true
  | _ => false

structure Slot where
  allocated : Bool
  type : UInt8
  durationMs : UInt16
  direction : UInt16
  deriving DecidableEq, Repr

inductive Payload where
  | constant (level : Int16)
  | ramp (startLevel endLevel : Int16)
  | periodic (waveform : FfType) (magnitude : UInt16) (offset : Int16) (phase period : UInt16)
  | condition (type : FfType) (rightSaturation leftSaturation : UInt16)
      (rightCoeff leftCoeff : Int16) (deadband : UInt16) (center : Int16)
  deriving DecidableEq, Repr

structure FfEffect where
  slot : ℕ
  direction : ℕ
  replayLength : ℕ
  payload : Payload
  deriving DecidableEq, Repr

inductive Action where
  | upload (effect : FfEffect)
  | playback (slot value : ℕ)
  | erase (slot : ℕ)
  | setGain (gain : ℕ)
  deriving DecidableEq, Repr

/-- `hidpp_dd_pid_state`, with what the sibling interface and the module offer. -/
structure State where
  slots : ℕ → Slot
  lastBlockLoadId : ℕ
  lastBlockLoadStatus : ℕ
  /-- `hidpp_dd_pid_get_ff` finds the force-feedback side. -/
  ffUp : Bool
  /-- `inject_pid >= 2` -/
  actuate : Bool

inductive Reply where
  | returned (rc : ℤ)
  /-- A GET_REPORT that overwrites the start of the buffer. -/
  | answered (bytes : List UInt8)
  | forwarded
  deriving DecidableEq, Repr

def le16 (buf : ℕ → UInt8) (index : ℕ) : UInt16 :=
  UInt16.ofNat ((buf index).toNat + 256 * (buf (index + 1)).toNat)

def sle16 (buf : ℕ → UInt8) (index : ℕ) : Int16 := (le16 buf index).toInt16

def slotOf (pidId : UInt8) : Option ℕ :=
  if pidId.toNat < 1 ∨ pidId.toNat > maxEffects then none else some (pidId.toNat - 1)

namespace State

def actuates (state : State) (action : Action) : List Action :=
  if state.ffUp && state.actuate then [action] else []

/-- `hidpp_dd_pid_fill_common` on the slot's own direction and duration. -/
def fillCommon (state : State) (slot : ℕ) (payload : Payload) : FfEffect where
  slot := slot
  direction := min ((state.slots slot).direction.toNat * 65536 / 36000) 65535
  replayLength :=
    if (state.slots slot).durationMs = 0x7FFF then 0 else (state.slots slot).durationMs.toNat
  payload := payload

def uploadTo (state : State) (slot : ℕ) (payload : Payload) : List Action :=
  if (state.slots slot).allocated then state.actuates (.upload (state.fillCommon slot payload))
  else []

def updateSlot (state : State) (slot : ℕ) (change : Slot → Slot) : State :=
  { state with slots := Function.update state.slots slot (change (state.slots slot)) }

/-- The erase-everything loop of Device Control. -/
def resetSlots (state : State) : State × List Action :=
  let erased := (List.range maxEffects).filter fun slot => (state.slots slot).allocated
  ({ state with
      slots := fun slot =>
        if slot < maxEffects then { state.slots slot with allocated := false, type := 0 }
        else state.slots slot },
    erased.flatMap fun slot => state.actuates (.erase slot))

def setEffect (state : State) (buf : ℕ → UInt8) (slot : ℕ) : State :=
  state.updateSlot slot fun _ =>
    { allocated := true
      type := buf 2
      durationMs := le16 buf 3
      direction := le16 buf 14 }

def setCondition (state : State) (buf : ℕ → UInt8) (slot : ℕ) : List Action :=
  if buf 2 ≠ 0 then []
  else
    match typeToFf (state.slots slot).type with
    | some type =>
        if type.isCondition then
          state.uploadTo slot
            (.condition type (le16 buf 9) (le16 buf 11) (sle16 buf 5) (sle16 buf 7) (le16 buf 13)
              (sle16 buf 3))
        else []
    | none => []

def setPeriodic (state : State) (buf : ℕ → UInt8) (slot : ℕ) : List Action :=
  match typeToFf (state.slots slot).type with
  | some type =>
      if type.isPeriodic then
        state.uploadTo slot
          (.periodic type (le16 buf 2) (sle16 buf 4) (le16 buf 6) (le16 buf 8))
      else []
  | none => []

def effectOp (state : State) (buf : ℕ → UInt8) (slot : ℕ) : List Action :=
  if !(state.slots slot).allocated || (state.slots slot).type = 0 then []
  else if buf 2 = 1 ∨ buf 2 = 2 then
    state.actuates (.playback slot (if buf 3 = 0 then 1 else (buf 3).toNat))
  else if buf 2 = 3 then state.actuates (.playback slot 0)
  else []

/-- A parameter report: its length, then its block index, decide whether it is looked at. -/
def onSlot (state : State) (buf : ℕ → UInt8) (count least : ℕ)
    (actions : ℕ → List Action) : State × List Action × ℤ :=
  if count < least then (state, [], count)
  else
    match slotOf (buf 1) with
    | some slot => (state, actions slot, count)
    | none => (state, [], count)

def handleOutput (state : State) (buf : ℕ → UInt8) (count : ℕ) : State × List Action × ℤ :=
  if count < 2 then (state, [], -EINVAL)
  else if buf 0 = reportDeviceControl then
    if buf 1 = 3 ∨ buf 1 = 4 then
      let (state, actions) := state.resetSlots
      (state, actions, count)
    else (state, [], count)
  else if buf 0 = reportDeviceGain then
    (state, state.actuates (.setGain ((buf 1).toNat * 0xFFFF / 255)), count)
  else if buf 0 = reportSetEffect then
    if count < 18 then (state, [], -EINVAL)
    else
      match slotOf (buf 1) with
      | some slot => (state.setEffect buf slot, [], count)
      | none => (state, [], count)
  else if buf 0 = reportSetConstant then
    state.onSlot buf count 4 fun slot => state.uploadTo slot (.constant (sle16 buf 2))
  else if buf 0 = reportSetCondition then
    state.onSlot buf count 15 fun slot => state.setCondition buf slot
  else if buf 0 = reportSetPeriodic then
    state.onSlot buf count 12 fun slot => state.setPeriodic buf slot
  else if buf 0 = reportEffectOp then
    state.onSlot buf count 4 fun slot => state.effectOp buf slot
  else if buf 0 = reportSetRamp then
    state.onSlot buf count 6 fun slot => state.uploadTo slot (.ramp (sle16 buf 2) (sle16 buf 4))
  else (state, [], count)

def isPidReport (reportId : UInt8) : Bool :=
  reportState ≤ reportId && reportId ≤ reportSetPeriodic

def outputReport (state : State) (buf : ℕ → UInt8) (count : ℕ) : State × List Action × Reply :=
  if count ≥ 1 ∧ isPidReport (buf 0) then
    let (state, actions, rc) := state.handleOutput buf count
    (state, actions, .returned rc)
  else (state, [], .forwarded)

def allocSlot (state : State) (pidType : UInt8) : Option (ℕ × State) :=
  match (List.range maxEffects).find? fun slot => !(state.slots slot).allocated with
  | some slot =>
      some (slot, state.updateSlot slot fun _ =>
        { allocated := true, type := pidType, durationMs := 0x7FFF, direction := 0 })
  | none => none

def createNewEffect (state : State) (pidType : UInt8) : State :=
  match state.allocSlot pidType with
  | some (slot, state) => { state with lastBlockLoadId := slot + 1, lastBlockLoadStatus := 1 }
  | none => { state with lastBlockLoadId := 0, lastBlockLoadStatus := 2 }

def putLe16 (value : ℕ) : List UInt8 := [UInt8.ofNat value, UInt8.ofNat (value / 256)]

def blockLoad (state : State) : List UInt8 :=
  let freeSlots := (List.range maxEffects).countP fun slot => !(state.slots slot).allocated
  [reportBlockLoad, UInt8.ofNat state.lastBlockLoadId, UInt8.ofNat state.lastBlockLoadStatus] ++
    putLe16 (freeSlots * 64)

def pidPool : List UInt8 :=
  [reportPidPool] ++ putLe16 (maxEffects * 64) ++ [UInt8.ofNat maxEffects, 0x03]

def blockFree (state : State) (pidId : UInt8) : State × List Action :=
  match slotOf pidId with
  | some slot =>
      (state.updateSlot slot fun old => { old with allocated := false },
        state.actuates (.erase slot))
  | none => (state, [])

end State

inductive ReportType where
  | input
  | output
  | feature
  deriving DecidableEq, Repr

inductive RequestType where
  | getReport
  | setReport
  deriving DecidableEq, Repr

def State.rawRequest (state : State) (reportnum : UInt8) (buf : ℕ → UInt8) (count : ℕ)
    (rtype : ReportType) (reqtype : RequestType) : State × List Action × Reply :=
  if reqtype = .setReport ∧ rtype = .output ∧ count ≥ 1 ∧ State.isPidReport (buf 0) then
    let (state, actions, rc) := state.handleOutput buf count
    (state, actions, .returned rc)
  else if reqtype = .setReport ∧ rtype = .feature ∧ reportnum = reportCreateNewEffect ∧
      count ≥ 2 then
    (state.createNewEffect (buf 1), [], .returned count)
  else if reqtype = .getReport ∧ rtype = .feature ∧ reportnum = reportBlockLoad ∧ count ≥ 5 then
    (state, [], .answered state.blockLoad)
  else if reqtype = .getReport ∧ rtype = .feature ∧ reportnum = reportPidPool ∧ count ≥ 5 then
    (state, [], .answered State.pidPool)
  else if reqtype = .setReport ∧ rtype = .output ∧ reportnum = reportBlockFree ∧ count ≥ 2 then
    let (state, actions) := state.blockFree (buf 1)
    (state, actions, .returned count)
  else (state, [], .forwarded)

end TrueForce.Pid
