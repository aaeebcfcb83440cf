import TrueForce.Fftest.Cleanup
import TrueForce.Fftest.Progress

/-!
# The force-feedback test cleans up

In whatever way the device fails and whenever the flag flips, every effect is stopped and
erased in its own row, gain and autocenter are given back, and the reports, the outcome and
the plan that a front-end keeps agree on how far each row came.
-/

namespace TrueForce.Fftest

open Conversation Program

variable {steps : List SimStep} {model : Gui.WheelModel} {log : Log}
  {outcome : SequenceOutcome}

theorem getElem?_zip_skipMask {bits : ByteBuffer.Bytes} {row : ℕ} {step : SimStep} :
    (steps.zip (skipMask bits steps))[row]? = some (step, false) ↔
      steps[row]? = some step ∧ step.action.supported bits := by
  rw [skipMask, List.getElem?_zip_eq_some, List.getElem?_map]
  constructor
  · rintro ⟨entry, masked⟩
    rw [entry, Option.map_some, Option.some.injEq, Bool.not_eq_false'] at masked
    exact ⟨entry, masked⟩
  · rintro ⟨entry, supported⟩
    rw [entry, Option.map_some, supported]
    exact ⟨rfl, rfl⟩

/-- What the plays of a run have to do with its table, its outcome and its events. -/
structure Accounts (bits : ByteBuffer.Bytes) (steps : List SimStep) (plays : List Play)
    (told : List SequenceEvent) (outcome : SequenceOutcome) : Prop where
  events : told = skipEvents bits steps ++ plays.flatMap (Play.events steps.length)
  increasing : (plays.map Play.row).Pairwise (· < ·)
  supported : ∀ play ∈ plays, steps[play.row]? = some play.step ∧
    play.step.action.supported bits ∧ play.Begun
  finished : ∀ play ∈ plays.dropLast, play.reach = .done
  ran : outcome.ran = told.countP SequenceEvent.isDone
  skipped : outcome.skipped =
    (steps.filter fun step => !step.action.supported bits).map SimStep.label
  completed : outcome.stop = .completed → ∀ row step, steps[row]? = some step →
    step.action.supported bits → ⟨row, step, .done⟩ ∈ plays

theorem countP_isDone_skipEvents (bits : ByteBuffer.Bytes) (steps : List SimStep) :
    (skipEvents bits steps).countP SequenceEvent.isDone = 0 := by
  rw [skipEvents]
  split <;> rfl

theorem unsupported_of_all {bits : ByteBuffer.Bytes}
    (all : (skippedLabels bits steps).length = steps.length) {step : SimStep}
    (known : step ∈ steps) : ¬ step.action.supported bits := by
  rw [skippedLabels_eq, List.length_map, List.length_filter_eq_length_iff] at all
  have unsupported := all step known
  rw [Bool.not_eq_true'] at unsupported
  exact Bool.eq_false_iff.mp unsupported

theorem accounts_of_nothing {bits : ByteBuffer.Bytes} (stop : SequenceEnd)
    (completed : stop = .completed → (skippedLabels bits steps).length = steps.length) :
    Accounts bits steps [] (skipEvents bits steps)
      { stop, ran := 0, skipped := skippedLabels bits steps } where
  events := (List.append_nil _).symm
  increasing := .nil
  supported _ known := by cases known
  finished _ known := by cases known
  ran := (countP_isDone_skipEvents bits steps).symm
  skipped := skippedLabels_eq bits steps
  completed same row step entry supported :=
    absurd supported (unsupported_of_all (completed same) (List.mem_of_getElem? entry))

theorem accounts_of_played {bits : ByteBuffer.Bytes} {plays : List Play} {rest : Log}
    (played : Played steps.length (skippedLabels bits steps) (steps.zip (skipMask bits steps))
      0 0 plays rest outcome) :
    Accounts bits steps plays (skipEvents bits steps ++ events rest) outcome where
  events := by rw [events_played played]
  increasing := increasing_played played
  supported play known := by
    obtain ⟨begun, index, same, entry⟩ := playedRow played known
    rw [Nat.zero_add] at same
    obtain ⟨entry, supported⟩ := getElem?_zip_skipMask.mp entry
    rw [same]
    exact ⟨entry, supported, begun⟩
  finished _ := done_of_dropLast played
  ran := by
    rw [List.countP_append, countP_isDone_skipEvents, events_played played,
      countP_isDone_flatMap, ran_played played]
  skipped := (skipped_played played).trans (skippedLabels_eq bits steps)
  completed same row step entry supported := by
    have done := done_of_completed played same (getElem?_zip_skipMask.mpr ⟨entry, supported⟩)
    rwa [Nat.zero_add] at done

theorem accounts_of_sequenced {bits : ByteBuffer.Bytes} {plays : List Play} {rest : Log}
    (sequenced : Sequenced bits steps plays rest outcome) :
    Accounts bits steps plays (skipEvents bits steps ++ events rest) outcome := by
  cases sequenced with
  | nothing all =>
      rw [show events [] = [] from rfl, List.append_nil]
      exact accounts_of_nothing .completed fun _ => all
  | refused error =>
      rw [show events [_] = [] from rfl, List.append_nil]
      exact accounts_of_nothing _ fun same => by cases error <;> cases same
  | started played =>
      have accounts := accounts_of_played played
      exact accounts

/-- On a device that gives out only ids that are not in use. -/
theorem sequence_law (ends : (runSequence steps model).Ends log outcome)
    (fresh : AssignsFresh [] (transcript log)) :
    Settles (transcript log) ∧
    AtMostTwo [] (transcript log) ∧
    live [] (transcript log) = [] ∧
    EndsOn simGainFull (gains (transcript log)) ∧
    EndsOn 0 (autocenters (transcript log)) ∧
    ∃ bits plays rest,
      transcript log = ⟨.ffBits, bits⟩ :: reports (skipEvents bits steps) ++ rest ∧
      Sequenced bits steps plays rest outcome ∧
      Accounts bits steps plays (events (transcript log)) outcome ∧
      let progress := (events (transcript log)).foldl SequenceProgress.apply (.new steps)
      progress.states.length = steps.length ∧
      (∀ row step, steps[row]? = some step → (∀ play ∈ plays, play.row ≠ row) →
        progress.states[row]? =
          some (if step.action.supported bits then .pending else .skipped)) ∧
      (∀ play ∈ plays, progress.states[play.row]? = some play.state) ∧
      progress.current =
        plays.getLast?.bind fun play =>
          if play.reach = .done then none else some play.row := by
  have tidy := tidy_runSequence ends fresh
  refine ⟨tidy.settles, tidy.few, tidy.erased, tidy.gain, tidy.autocenter, ?_⟩
  obtain ⟨bits, plays, rest, sequenced, same⟩ := sequenced_runSequence ends
  have accounts : Accounts bits steps plays (events (transcript log)) outcome := by
    rw [same, ← List.singleton_append, List.append_assoc, events_append, events_append,
      events_reports]
    exact accounts_of_sequenced sequenced
  refine ⟨bits, plays, rest, same, sequenced, accounts, ?_⟩
  exact foldl_run accounts.increasing
    (fun play known => ⟨(accounts.supported play known).1,
      (accounts.supported play known).2.2⟩) accounts.events

def mixedRamps : SimStep where
  label := "Mixed".toList
  action := .mixed (.ramp 0 9830) (.ramp 9830 0)
  durationMs := 20
  direction := .right
  countdown := { ticks := 1, tick := 0 }

/-- A wheel that is unplugged after the first upload. -/
def unplugged (past : Log) : (question : Question) → Answer question
  | .ffBits => List.replicate 32 255
  | .setGain _ => .ok ()
  | .setAutocenter _ => .error .gone
  | .upload _ => if past.any fun entry => (uploaded entry).isSome then .error .gone else .ok 3
  | .play _ _ => .error .gone
  | .erase _ => ()
  | .cancel => false
  | .deadline _ => 1
  | .report _ => ()

theorem sequence_law_unplugged :
    Settles (transcript ((runSequence [mixedRamps] .g923).converse unplugged []).1) ∧
      ((runSequence [mixedRamps] .g923).converse unplugged []).2.stop = .deviceGone :=
  ⟨(sequence_law (ends_converse unplugged [] _) (by decide)).1, by decide⟩

end TrueForce.Fftest
