import TrueForce.Foundation.Transition
import Mathlib.Data.Int.Notation
import Mathlib.Data.Nat.Notation

/-!
# Commands to the wheel

A command that waits for its answer leaves its question in a frame of its caller, and the
handler of incoming reports finds the frame through a pointer of the device.  The lock that
keeps callers apart is not one the handler takes: reports come in between any two accesses
of a caller.  The workers of the screen and of the rev lights take the lock too, and ask
nothing.
-/

namespace TrueForce.Hidpp.Transport

open TrueForce.Transition

/-- `hidpp_report`.  The second byte after the ids is `sub_id` in the older protocol. -/
structure Report where
  reportId : UInt8
  deviceIndex : UInt8
  featureIndex : UInt8
  funcindexClientid : UInt8
  params : List UInt8
  deriving DecidableEq, Repr

def Report.param (report : Report) (index : ℕ) : UInt8 := report.params.getD index 0

/-- The report after `memset`. -/
def Report.zero : Report := ⟨0, 0, 0, 0, []⟩

def reportIdHidppShort : UInt8 := 0x10

def reportIdHidppLong : UInt8 := 0x11

def reportIdHidppVeryLong : UInt8 := 0x12

def hidppError : UInt8 := 0x8f

def hidppErrorBusy : ℤ := 0x07

def hidpp20Error : UInt8 := 0xff

def hidpp20ErrorBusy : ℤ := 0x08

def etimedout : ℤ := 110

def enodev : ℤ := 19

def maxRetries : ℕ := 3

def Report.IsShort (report : Report) : Prop := report.reportId = reportIdHidppShort

instance (report : Report) : Decidable report.IsShort := inferInstanceAs (Decidable (_ = _))

def Report.IsLong (report : Report) : Prop :=
  report.reportId = reportIdHidppLong ∨ report.reportId = reportIdHidppVeryLong

instance (report : Report) : Decidable report.IsLong := inferInstanceAs (Decidable (_ ∨ _))

/-- A message without a device is for the receiver. -/
def Report.addressed (report : Report) : Report :=
  if report.deviceIndex = 0 then { report with deviceIndex := 0xff } else report

/-- `__hidpp_send_report`; `sent` is whether the whole report went out. -/
def sendReport (report : Report) (sent : Bool) : ℤ :=
  if report.IsShort ∨ report.IsLong then (if sent then 0 else -1) else -enodev

/-- `hidpp_match_answer`; `dd` is `HIDPP_QUIRK_DD_FFB`. -/
def matchAnswer (dd : Bool) (question answer : Report) : Bool :=
  if dd ∧ answer.deviceIndex ≠ question.deviceIndex then false
  else if dd ∧ answer.funcindexClientid &&& 0x0f = 0 then
    answer.featureIndex == question.featureIndex &&
      answer.funcindexClientid &&& 0xf0 == question.funcindexClientid &&& 0xf0
  else
    answer.featureIndex == question.featureIndex &&
      answer.funcindexClientid == question.funcindexClientid

/-- `hidpp_match_error` -/
def matchError (dd : Bool) (question answer : Report) : Bool :=
  if dd ∧ answer.deviceIndex ≠ question.deviceIndex then false
  else
    (answer.featureIndex == hidppError || answer.featureIndex == hidpp20Error) &&
      answer.funcindexClientid == question.featureIndex &&
      answer.param 0 == question.funcindexClientid

def takes (dd : Bool) (question answer : Report) : Bool :=
  matchAnswer dd question answer || matchError dd question answer

/-- What a call makes of the report in its frame. -/
def outcome (response : Report) : ℤ :=
  if response.IsShort ∧ response.featureIndex = hidppError then (response.param 1).toNat
  else if response.IsLong ∧ response.featureIndex = hidpp20Error then (response.param 1).toNat
  else 0

/-- The loop of `hidpp_send_message_sync_timeout` goes on. -/
def again (ret : ℤ) (response : Report) : Bool :=
  if ret < 0 then false
  else if response.IsShort ∧ ret ≠ hidppErrorBusy then false
  else if response.IsLong ∧ ret ≠ hidpp20ErrorBusy then false
  else true

def unresponsiveAfter : UInt32 := 5

def responsiveAfter : UInt32 := 5

structure Detector where
  syncTimeouts : UInt32
  syncAnswers : UInt32
  unresponsiveWarned : Bool
  deriving DecidableEq, Repr

def Detector.fresh : Detector := ⟨0, 0, false⟩

/-- What the log says. -/
inductive Notice where
  | unresponsive (commands : UInt32)
  | answering
  deriving DecidableEq, Repr

/-- `hidpp_note_sync_result`; `uncounted` is `sync_uncounted`. -/
def Detector.noteSyncResult (detector : Detector) (uncounted : Bool) (ret : ℤ) :
    Detector × Option Notice :=
  if uncounted then (detector, none)
  else if ret > 0 then (detector, none)
  else if ret = 0 then
    let detector := { detector with syncTimeouts := 0 }
    if !detector.unresponsiveWarned then (detector, none)
    else
      let detector := { detector with syncAnswers := detector.syncAnswers + 1 }
      if detector.syncAnswers < responsiveAfter then (detector, none)
      else ({ detector with unresponsiveWarned := false, syncAnswers := 0 }, some .answering)
  else
    let detector :=
      { detector with syncAnswers := 0, syncTimeouts := detector.syncTimeouts + 1 }
    if detector.syncTimeouts < unresponsiveAfter ∨ detector.unresponsiveWarned then
      (detector, none)
    else
      ({ detector with unresponsiveWarned := true }, some (.unresponsive detector.syncTimeouts))

/-- Where a caller is in `hidpp_send_message_sync_timeout`. -/
inductive Phase where
  | publish
  | reset
  | copy
  | send
  | wait
  | note (ret : ℤ)
  | clear (ret : ℤ)
  | unlock (ret : ℤ)
  deriving DecidableEq, Repr

/-- A caller that holds the lock.  `heard` is what the handler has made of its question since
it was put, `earlier` what it made of it before that, and `sent` is what went to the wheel. -/
structure Call where
  frame : ℕ
  message : Report
  response : Report
  retries : ℕ
  phase : Phase
  earlier : List Report
  heard : List Report
  sent : List Report
  deriving DecidableEq, Repr

inductive Holder where
  | call (call : Call)
  | worker
  deriving DecidableEq, Repr

inductive HandlerPhase where
  | check
  | compare
  | store
  | announce
  deriving DecidableEq, Repr

/-- `hidpp_raw_hidpp_event` with the pointer that it has read. -/
structure Handler where
  report : Report
  question : Option ℕ
  phase : HandlerPhase
  deriving DecidableEq, Repr

structure Returned where
  question : Report
  ret : ℤ
  response : Report
  earlier : List Report
  heard : List Report
  sent : List Report
  deriving DecidableEq, Repr

/-- `strayed` is set once the handler uses the frame of a caller that has let the lock go. -/
structure State where
  holder : Option Holder
  sendReceiveBuf : Option ℕ
  answerAvailable : Bool
  detector : Detector
  handler : Option Handler
  frames : ℕ
  received : List Report
  passed : List Report
  returned : List Returned
  results : List (Bool × ℤ)
  notices : List Notice
  strayed : Bool
  deriving DecidableEq, Repr

def State.fresh : State where
  holder := none
  sendReceiveBuf := none
  answerAvailable := false
  detector := .fresh
  handler := none
  frames := 0
  received := []
  passed := []
  returned := []
  results := []
  notices := []
  strayed := false

inductive Event where
  | lock (message garbage : Report)
  | lockWorker
  | unlockWorker
  | proceed
  | send (whole : Bool)
  | timeOut
  | note (uncounted : Bool)
  | receive (report : Report)
  | handle
  deriving DecidableEq, Repr

/-- The end of an attempt. -/
def Call.settle (call : Call) (ret : ℤ) : Call :=
  if again ret call.response ∧ 1 < call.retries then
    { call with retries := call.retries - 1, phase := .publish }
  else { call with phase := .note ret }

namespace State

def hold (state : State) (call : Call) : State := { state with holder := some (.call call) }

/-- The caller of a frame that is still its own. -/
def callOf (state : State) (frame : ℕ) : Option Call :=
  match state.holder with
  | some (.call call) => if call.frame = frame then some call else none
  | _ => none

/-- One access of the caller. -/
def proceed (state : State) (call : Call) : Option State :=
  match call.phase with
  | .publish =>
      some ({ state with sendReceiveBuf := some call.frame }.hold { call with phase := .reset })
  | .reset => some ({ state with answerAvailable := false }.hold { call with phase := .copy })
  | .copy =>
      some (state.hold { call with
        message := call.message.addressed
        response := call.message.addressed
        phase := .send
        earlier := call.earlier ++ call.heard
        heard := [] })
  | .wait =>
      if state.answerAvailable then some (state.hold (call.settle (outcome call.response)))
      else none
  | .clear ret => some ({ state with sendReceiveBuf := none }.hold { call with phase := .unlock ret })
  | .unlock ret =>
      some { state with
        holder := none
        returned := state.returned ++
          [⟨call.message, ret, call.response, call.earlier, call.heard, call.sent⟩] }
  | .send | .note _ => none

/-- The report goes on to the listeners. -/
def pass (state : State) (report : Report) : State :=
  { state with handler := none, passed := state.passed ++ [report] }

def stray (state : State) : State := { state with handler := none, strayed := true }

/-- One access of the handler. -/
def handle (dd : Bool) (state : State) : Option State :=
  state.handler.map fun handler =>
    match handler.question with
    | none => state.pass handler.report
    | some frame =>
        match handler.phase with
        | .check =>
            if state.holder.isSome then
              { state with handler := some { handler with phase := .compare } }
            else state.pass handler.report
        | .compare =>
            match state.callOf frame with
            | none => state.stray
            | some call =>
                if takes dd call.response handler.report then
                  { state with handler := some { handler with phase := .store } }
                else
                  (state.hold { call with heard := call.heard ++ [handler.report] }).pass
                    handler.report
        | .store =>
            match state.callOf frame with
            | none => state.stray
            | some call =>
                { state.hold { call with
                    response := handler.report
                    heard := call.heard ++ [handler.report] } with
                  handler := some { handler with phase := .announce } }
        | .announce => { state with handler := none, answerAvailable := true }

end State

def step (dd : Bool) (state : State) : Event → Option State
  | .lock message garbage =>
      match state.holder with
      | none =>
          some ({ state with frames := state.frames + 1 }.hold
            ⟨state.frames, message, garbage, maxRetries, .publish, [], [], []⟩)
      | some _ => none
  | .lockWorker =>
      match state.holder with
      | none => some { state with holder := some .worker }
      | some _ => none
  | .unlockWorker =>
      match state.holder with
      | some .worker => some { state with holder := none }
      | _ => none
  | .proceed =>
      match state.holder with
      | some (.call call) => state.proceed call
      | _ => none
  | .send whole =>
      match state.holder with
      | some (.call call) =>
          if call.phase = .send then
            let ret := sendReport call.message whole
            if ret = 0 then
              some (state.hold { call with phase := .wait, sent := call.sent ++ [call.message] })
            else some (state.hold ({ call with response := .zero }.settle ret))
          else none
      | _ => none
  | .timeOut =>
      match state.holder with
      | some (.call call) =>
          if call.phase = .wait ∧ state.answerAvailable = false then
            some (state.hold ({ call with response := .zero }.settle (-etimedout)))
          else none
      | _ => none
  | .note uncounted =>
      match state.holder with
      | some (.call call) =>
          match call.phase with
          | .note ret =>
              let noted := state.detector.noteSyncResult uncounted ret
              some ({ state with
                detector := noted.1
                results := state.results ++ [(uncounted, ret)]
                notices := state.notices ++ noted.2.toList }.hold { call with phase := .clear ret })
          | _ => none
      | _ => none
  | .receive report =>
      match state.handler with
      | none =>
          some { state with
            handler := some ⟨report, state.sendReceiveBuf, .check⟩
            received := state.received ++ [report] }
      | some _ => none
  | .handle => state.handle dd

def system (dd : Bool) : System State Event where
  initial := (· = State.fresh)
  step := step dd

end TrueForce.Hidpp.Transport
