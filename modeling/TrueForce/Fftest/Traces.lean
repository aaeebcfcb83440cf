import TrueForce.Fftest.Sequence

/-!
# What a run of the force-feedback test does

A step makes its device calls in one of a few shapes, whatever the environment
answers, and a run is the rows of the table one after another until it ends.
-/

namespace TrueForce.Fftest

open Conversation Program RustText

def Question.audible : Question → Bool
  | .cancel => false
  | .deadline _ => false
  | _ => true

/-- A log without the looks at the clock and at the cancel flag. -/
def transcript (log : Log) : Log := log.filter fun entry => entry.1.audible

def reports (events : List SequenceEvent) : Log :=
  events.map fun event => ⟨.report event, ()⟩

/-- The device calls of a step. -/
inductive Traced : Log → Prop where
  | refused (effect : FfEffect) (error : DeviceError) : Traced [⟨.upload effect, .error error⟩]
  | single (effect : FfEffect) (id : Int16) (played stopped : Except DeviceError Unit) :
      Traced [⟨.upload effect, .ok id⟩, ⟨.play id 1, played⟩, ⟨.play id 0, stopped⟩,
        ⟨.erase id, ()⟩]
  | secondRefused (first second : FfEffect) (id : Int16) (error : DeviceError)
      (stopped : Except DeviceError Unit) :
      Traced [⟨.upload first, .ok id⟩, ⟨.upload second, .error error⟩, ⟨.play id 0, stopped⟩,
        ⟨.erase id, ()⟩]
  | firstSilent (first second : FfEffect) (idA idB : Int16) (error : DeviceError)
      (stoppedA stoppedB : Except DeviceError Unit) :
      Traced [⟨.upload first, .ok idA⟩, ⟨.upload second, .ok idB⟩, ⟨.play idA 1, .error error⟩,
        ⟨.play idA 0, stoppedA⟩, ⟨.play idB 0, stoppedB⟩, ⟨.erase idA, ()⟩, ⟨.erase idB, ()⟩]
  | mixed (first second : FfEffect) (idA idB : Int16)
      (playedB stoppedA stoppedB : Except DeviceError Unit) :
      Traced [⟨.upload first, .ok idA⟩, ⟨.upload second, .ok idB⟩, ⟨.play idA 1, .ok ()⟩,
        ⟨.play idB 1, playedB⟩, ⟨.play idA 0, stoppedA⟩, ⟨.play idB 0, stoppedB⟩,
        ⟨.erase idA, ()⟩, ⟨.erase idB, ()⟩]
  | fullGain (effect : FfEffect) (id : Int16)
      (played stopped restored : Except DeviceError Unit) :
      Traced [⟨.upload effect, .ok id⟩, ⟨.play id 1, played⟩, ⟨.play id 0, stopped⟩,
        ⟨.erase id, ()⟩, ⟨.setGain simGainFull, restored⟩]
  | gainDemo (effect : FfEffect) (id : Int16) (gain : Int32)
      (reduced stopped restored : Except DeviceError Unit) :
      Traced [⟨.upload effect, .ok id⟩, ⟨.play id 1, .ok ()⟩, ⟨.setGain gain, reduced⟩,
        ⟨.play id 0, stopped⟩, ⟨.erase id, ()⟩, ⟨.setGain simGainFull, restored⟩]
  | autocenter (level : Int32) (set reset : Except DeviceError Unit) :
      Traced [⟨.setAutocenter level, set⟩, ⟨.setAutocenter 0, reset⟩]

theorem transcript_append (before after : Log) :
    transcript (before ++ after) = transcript before ++ transcript after :=
  List.filter_append before after

theorem transcript_cons (entry : Entry Question Answer) (log : Log) :
    transcript (entry :: log) =
      if entry.1.audible then entry :: transcript log else transcript log := by
  simp only [transcript, List.filter_cons]

theorem transcript_pollCancel {looks : ℕ} {log : Log} {waited : WaitOutcome}
    (ends : (pollCancel looks).Ends log waited) : transcript log = [] := by
  induction looks generalizing log with
  | zero =>
      obtain ⟨rfl, -⟩ := ends
      rfl
  | succ looks ih =>
      obtain ⟨cancelled, after, rfl, ends⟩ := ends
      rw [transcript_cons, if_neg (by simp [Question.audible])]
      cases cancelled with
      | true =>
          obtain ⟨rfl, -⟩ := ends
          rfl
      | false => exact ih ends

theorem transcript_waitOut {duration : ℕ} {log : Log} {waited : WaitOutcome}
    (ends : (waitOut duration).Ends log waited) : transcript log = [] := by
  obtain ⟨looks, after, rfl, ends⟩ := ends
  rw [transcript_cons, if_neg (by simp [Question.audible])]
  exact transcript_pollCancel ends

theorem transcript_waitIf {started : Bool} {duration : ℕ} {log : Log} {waited : WaitOutcome}
    (ends : (waitIf started duration).Ends log waited) : transcript log = [] := by
  cases started with
  | true => exact transcript_waitOut ends
  | false =>
      obtain ⟨rfl, -⟩ := ends
      rfl

theorem traced_runEffectStep {step : SimStep} {effect : StepEffect} {model : Gui.WheelModel}
    {log : Log} {result : Except DeviceError WaitOutcome}
    (ends : (runEffectStep step effect model).Ends log result) : Traced (transcript log) := by
  simp only [runEffectStep, ends_put_bind] at ends
  obtain ⟨uploaded, log, rfl, ends⟩ := ends
  cases uploaded with
  | error error =>
      obtain ⟨rfl, -⟩ := ends
      exact .refused _ error
  | ok id =>
      simp only [ends_put_bind] at ends
      obtain ⟨played, log, rfl, ends⟩ := ends
      obtain ⟨waits, waited, log, rfl, waiting, ends⟩ := ends_bind.mp ends
      simp only [ends_put_bind, ends_pure] at ends
      obtain ⟨stopped, log, rfl, _, log, rfl, rfl, -⟩ := ends
      simp only [transcript_cons, transcript_append, transcript_waitIf waiting]
      exact .single _ id played stopped

theorem traced_runMixedStep {step : SimStep} {first second : StepEffect}
    {model : Gui.WheelModel} {log : Log} {result : Except DeviceError WaitOutcome}
    (ends : (runMixedStep step first second model).Ends log result) :
    Traced (transcript log) := by
  simp only [runMixedStep, ends_put_bind] at ends
  obtain ⟨uploadedA, log, rfl, ends⟩ := ends
  cases uploadedA with
  | error error =>
      obtain ⟨rfl, -⟩ := ends
      exact .refused _ error
  | ok idA =>
      simp only [ends_put_bind] at ends
      obtain ⟨uploadedB, log, rfl, ends⟩ := ends
      cases uploadedB with
      | error error =>
          simp only [ends_put_bind, ends_pure] at ends
          obtain ⟨stopped, log, rfl, _, log, rfl, rfl, -⟩ := ends
          exact .secondRefused _ _ idA error stopped
      | ok idB =>
          simp only [ends_put_bind] at ends
          obtain ⟨playedA, log, rfl, ends⟩ := ends
          obtain ⟨plays, playedB, log, rfl, playing, ends⟩ := ends_bind.mp ends
          obtain ⟨waits, waited, log, rfl, waiting, ends⟩ := ends_bind.mp ends
          simp only [ends_put_bind, ends_pure] at ends
          obtain ⟨stoppedA, log, rfl, stoppedB, log, rfl, _, log, rfl, _, log, rfl, rfl, -⟩ := ends
          simp only [transcript_cons, transcript_append, transcript_waitIf waiting]
          cases playedA with
          | error error =>
              obtain ⟨rfl, -⟩ := playing
              exact .firstSilent _ _ idA idB error stoppedA stoppedB
          | ok =>
              obtain ⟨answer, log, rfl, rfl, -⟩ := playing
              exact .mixed _ _ idA idB answer stoppedA stoppedB

theorem transcript_playGainDemo {step : SimStep} {demoGain : Int32} {id : Int16} {log : Log}
    {result : Except DeviceError WaitOutcome}
    (ends : (playGainDemo step demoGain id).Ends log result) :
    (∃ played, transcript log = [⟨.play id 1, played⟩]) ∨
      ∃ reduced, transcript log = [⟨.play id 1, .ok ()⟩, ⟨.setGain demoGain, reduced⟩] := by
  simp only [playGainDemo, ends_put_bind] at ends
  obtain ⟨played, log, rfl, ends⟩ := ends
  cases played with
  | error error =>
      obtain ⟨rfl, -⟩ := ends
      exact .inl ⟨_, rfl⟩
  | ok =>
      rw [ends_bind] at ends
      obtain ⟨waits, waited, log, rfl, waiting, ends⟩ := ends
      simp only [transcript_cons, transcript_append, transcript_waitOut waiting]
      cases waited with
      | cancelled =>
          obtain ⟨rfl, -⟩ := ends
          exact .inl ⟨_, rfl⟩
      | completed =>
          simp only [ends_put_bind] at ends
          obtain ⟨reduced, log, rfl, ends⟩ := ends
          refine .inr ⟨reduced, ?_⟩
          cases reduced with
          | error error =>
              obtain ⟨rfl, -⟩ := ends
              rfl
          | ok =>
              obtain ⟨waits, waited, log, rfl, waiting, rfl, -⟩ := ends_bind.mp ends
              simp only [transcript_cons, transcript_append, transcript_waitOut waiting]
              rfl

theorem traced_runGainDemoStep {step : SimStep} {effect : StepEffect} {demoGain : Int32}
    {model : Gui.WheelModel} {log : Log} {result : Except DeviceError WaitOutcome}
    (ends : (runGainDemoStep step effect demoGain model).Ends log result) :
    Traced (transcript log) := by
  simp only [runGainDemoStep, ends_put_bind] at ends
  obtain ⟨uploaded, log, rfl, ends⟩ := ends
  cases uploaded with
  | error error =>
      obtain ⟨rfl, -⟩ := ends
      exact .refused _ error
  | ok id =>
      rw [ends_bind] at ends
      obtain ⟨demo, result, log, rfl, playing, ends⟩ := ends
      simp only [ends_put_bind, ends_pure] at ends
      obtain ⟨stopped, log, rfl, _, log, rfl, restored, log, rfl, rfl, -⟩ := ends
      simp only [transcript_cons, transcript_append]
      obtain ⟨played, demo⟩ | ⟨reduced, demo⟩ := transcript_playGainDemo playing
      · rw [demo]
        exact .fullGain _ id played stopped restored
      · rw [demo]
        exact .gainDemo _ id demoGain reduced stopped restored

theorem traced_runAutocenterStep {level : Int32} {durationMs : UInt16} {log : Log}
    {result : Except DeviceError WaitOutcome}
    (ends : (runAutocenterStep level durationMs).Ends log result) : Traced (transcript log) := by
  simp only [runAutocenterStep, ends_put_bind] at ends
  obtain ⟨set, log, rfl, ends⟩ := ends
  obtain ⟨waits, waited, log, rfl, waiting, ends⟩ := ends_bind.mp ends
  simp only [ends_put_bind, ends_pure] at ends
  obtain ⟨reset, log, rfl, rfl, -⟩ := ends
  simp only [transcript_cons, transcript_append, transcript_waitIf waiting]
  exact .autocenter level set reset

theorem traced_runAction {step : SimStep} {model : Gui.WheelModel} {log : Log}
    {result : Except DeviceError WaitOutcome} (ends : (runAction step model).Ends log result) :
    Traced (transcript log) := by
  simp only [runAction] at ends
  split at ends
  · exact traced_runEffectStep ends
  · exact traced_runMixedStep ends
  · exact traced_runGainDemoStep ends
  · exact traced_runAutocenterStep ends

end TrueForce.Fftest
