import TrueForce.Foundation.Conversation
import TrueForce.Fftest.Effect

/-!
# Running the force-feedback test

`run_sequence` talks to the device, looks at the clock and at the cancel flag, and
reports to its front-end.  All of these are its environment, which answers as it
pleases: a device call may fail, the flag may flip between any two looks, and a
deadline is as many looks ahead as the clock has it.
-/

namespace TrueForce.Fftest

open Conversation RustText

inductive DeviceError where
  | gone
  | other (message : Text)
  deriving DecidableEq, Repr

inductive SequenceEnd where
  | completed
  | cancelled
  | deviceGone
  | failed (message : Text)
  deriving DecidableEq, Repr

def DeviceError.intoEnd : DeviceError → SequenceEnd
  | .gone => .deviceGone
  | .other message => .failed message

structure SequenceOutcome where
  stop : SequenceEnd
  ran : ℕ
  skipped : List Text
  deriving DecidableEq, Repr

inductive SequenceEvent where
  | skipped (rows : List (ℕ × Text))
  | countdown (row total : ℕ) (step : SimStep) (secondsLeft : ℕ)
  | step (row total : ℕ) (step : SimStep)
  | done (row total : ℕ)
  deriving DecidableEq, Repr

inductive Question where
  | ffBits
  | setGain (value : Int32)
  | setAutocenter (value : Int32)
  | upload (effect : FfEffect)
  | play (id : Int16) (value : Int32)
  | erase (id : Int16)
  /-- One load of the cancel flag. -/
  | cancel
  /-- How many looks at the clock find a deadline this far ahead. -/
  | deadline (duration : ℕ)
  | report (event : SequenceEvent)
  deriving DecidableEq, Repr

abbrev Answer : Question → Type
  | .ffBits => ByteBuffer.Bytes
  | .setGain _ => Except DeviceError Unit
  | .setAutocenter _ => Except DeviceError Unit
  | .upload _ => Except DeviceError Int16
  | .play _ _ => Except DeviceError Unit
  | .erase _ => Unit
  | .cancel => Bool
  | .deadline _ => ℕ
  | .report _ => Unit

abbrev Run := Program Question Answer

abbrev Log := List (Entry Question Answer)

abbrev setGain (value : Int32) : Run (Except DeviceError Unit) :=
  Program.put (Question.setGain value)

abbrev setAutocenter (value : Int32) : Run (Except DeviceError Unit) :=
  Program.put (Question.setAutocenter value)

abbrev upload (effect : FfEffect) : Run (Except DeviceError Int16) :=
  Program.put (Question.upload effect)

abbrev play (id : Int16) (value : Int32) : Run (Except DeviceError Unit) :=
  Program.put (Question.play id value)

abbrev erase (id : Int16) : Run Unit := Program.put (Question.erase id)

abbrev loadCancel : Run Bool := Program.put Question.cancel

abbrev report (event : SequenceEvent) : Run Unit := Program.put (Question.report event)

inductive WaitOutcome where
  | completed
  | cancelled
  deriving DecidableEq, Repr

/-- `Duration::from_millis`. -/
def fromMillis (ms : UInt16) : ℕ := ms.toNat * 1000000

def pollCancel : ℕ → Run WaitOutcome
  | 0 => pure .completed
  | looks + 1 => do
      let cancelled ← loadCancel
      if cancelled then pure .cancelled else pollCancel looks

def waitOut (duration : ℕ) : Run WaitOutcome := do
  let looks : ℕ ← Program.put (Question.deadline duration)
  pollCancel looks

/-- A step waits only when what it plays has started. -/
def waitIf (started : Bool) (duration : ℕ) : Run WaitOutcome :=
  if started then waitOut duration else pure .completed

def runEffectStep (step : SimStep) (effect : StepEffect) (model : Gui.WheelModel) :
    Run (Except DeviceError WaitOutcome) := do
  let ff := effectToFf effect step.direction step.durationMs model
  match ← upload ff with
  | .error error => pure (.error error)
  | .ok id => do
      let played ← play id 1
      let waitOutcome ← waitIf played.isOk (fromMillis step.durationMs)
      let _ ← play id 0
      erase id
      pure (played.map fun _ => waitOutcome)

def runMixedStep (step : SimStep) (first second : StepEffect) (model : Gui.WheelModel) :
    Run (Except DeviceError WaitOutcome) := do
  let ffA := effectToFf first step.direction step.durationMs model
  let ffB := effectToFf second step.direction step.durationMs model
  match ← upload ffA with
  | .error error => pure (.error error)
  | .ok idA => do
      match ← upload ffB with
      | .error error => do
          let _ ← play idA 0
          erase idA
          pure (.error error)
      | .ok idB => do
          let playedA ← play idA 1
          let playedB ← (if playedA.isOk then play idB 1 else pure (.ok ()))
          let waitOutcome ← waitIf (playedA.isOk && playedB.isOk) (fromMillis step.durationMs)
          let _ ← play idA 0
          let _ ← play idB 0
          erase idA
          erase idB
          pure (playedA.bind fun _ => playedB.map fun _ => waitOutcome)

/-- `runGainDemoStep` between its upload and its cleanup. -/
def playGainDemo (step : SimStep) (demoGain : Int32) (id : Int16) :
    Run (Except DeviceError WaitOutcome) := do
  let half := step.durationMs / 2
  let rest := step.durationMs - half
  match ← play id 1 with
  | .error error => pure (.error error)
  | .ok () => do
      match ← waitOut (fromMillis half) with
      | .cancelled => pure (.ok .cancelled)
      | .completed => do
          match ← setGain demoGain with
          | .error error => pure (.error error)
          | .ok () => do
              let waitOutcome ← waitOut (fromMillis rest)
              pure (.ok waitOutcome)

def runGainDemoStep (step : SimStep) (effect : StepEffect) (demoGain : Int32)
    (model : Gui.WheelModel) : Run (Except DeviceError WaitOutcome) := do
  let ff := effectToFf effect step.direction step.durationMs model
  match ← upload ff with
  | .error error => pure (.error error)
  | .ok id => do
      let result ← playGainDemo step demoGain id
      let _ ← play id 0
      erase id
      let restore ← setGain simGainFull
      pure (result.bind fun outcome => restore.map fun _ => outcome)

def runAutocenterStep (level : Int32) (durationMs : UInt16) :
    Run (Except DeviceError WaitOutcome) := do
  let set ← setAutocenter level
  let waitOutcome ← waitIf set.isOk (fromMillis durationMs)
  let reset ← setAutocenter 0
  pure (set.bind fun _ => reset.map fun _ => waitOutcome)

def runAction (step : SimStep) (model : Gui.WheelModel) :
    Run (Except DeviceError WaitOutcome) :=
  match step.action with
  | .effect effect => runEffectStep step effect model
  | .mixed first second => runMixedStep step first second model
  | .gainDemo effect demoGain => runGainDemoStep step effect demoGain model
  | .autocenter level => runAutocenterStep level step.durationMs

/-- The countdown from `seconds` on. -/
def runCountdown (row total : ℕ) (step : SimStep) : ℕ → Run WaitOutcome
  | 0 => pure .completed
  | seconds + 1 => do
      report (.countdown row total step (seconds + 1))
      match ← waitOut step.countdown.tick with
      | .cancelled => pure .cancelled
      | .completed => runCountdown row total step seconds

/-- The rows from `row` on, each with its place in the skip mask. -/
def runRows (total : ℕ) (model : Gui.WheelModel) (skipped : List Text) :
    List (SimStep × Bool) → (row ran : ℕ) → Run SequenceOutcome
  | [], _, ran => pure { stop := .completed, ran, skipped }
  | (_, true) :: rows, row, ran => runRows total model skipped rows (row + 1) ran
  | (step, false) :: rows, row, ran => do
      if ← loadCancel then pure { stop := .cancelled, ran, skipped }
      else do
        match ← runCountdown row total step step.countdown.ticks.toNat with
        | .cancelled => pure { stop := .cancelled, ran, skipped }
        | .completed => do
            report (.step row total step)
            match ← runAction step model with
            | .error error => pure { stop := error.intoEnd, ran, skipped }
            | .ok waitOutcome => do
                report (.done row total)
                if waitOutcome = .cancelled then
                  pure { stop := .cancelled, ran := ran + 1, skipped }
                else runRows total model skipped rows (row + 1) (ran + 1)

def skipMask (bits : ByteBuffer.Bytes) (steps : List SimStep) : List Bool :=
  steps.map fun step => !step.action.supported bits

def skippedRows (bits : ByteBuffer.Bytes) (steps : List SimStep) : List (ℕ × Text) :=
  (steps.zipIdx.filter fun entry => !entry.1.action.supported bits).map fun entry =>
    (entry.2, entry.1.label)

def skippedLabels (bits : ByteBuffer.Bytes) (steps : List SimStep) : List Text :=
  (skippedRows bits steps).map Prod.snd

def runSequence (steps : List SimStep) (model : Gui.WheelModel) : Run SequenceOutcome := do
  let bits : ByteBuffer.Bytes ← Program.put Question.ffBits
  let rows := skippedRows bits steps
  let skipped := skippedLabels bits steps
  (if rows ≠ [] then report (.skipped rows) else pure ())
  if skipped.length = steps.length then pure { stop := .completed, ran := 0, skipped }
  else do
    match ← setGain simGainFull with
    | .error error => pure { stop := error.intoEnd, ran := 0, skipped }
    | .ok () => runRows steps.length model skipped (steps.zip (skipMask bits steps)) 0 0

inductive StepState where
  | pending
  | countdown (secondsLeft : ℕ)
  | playing
  | done
  | skipped
  deriving DecidableEq, Repr

structure SequenceProgress where
  states : List StepState
  current : Option ℕ
  deriving DecidableEq, Repr

namespace SequenceProgress

def new (steps : List SimStep) : SequenceProgress where
  states := List.replicate steps.length .pending
  current := none

/-- A row that the table does not have is ignored. -/
def mark (progress : SequenceProgress) (row : ℕ) (state : StepState) : SequenceProgress :=
  { progress with states := progress.states.set row state }

def apply (progress : SequenceProgress) : SequenceEvent → SequenceProgress
  | .skipped rows => rows.foldl (fun progress row => progress.mark row.1 .skipped) progress
  | .countdown row _ _ secondsLeft =>
      { progress.mark row (.countdown secondsLeft) with current := some row }
  | .step row _ _ => { progress.mark row .playing with current := some row }
  | .done row _ => { progress.mark row .done with current := none }

end SequenceProgress

end TrueForce.Fftest
