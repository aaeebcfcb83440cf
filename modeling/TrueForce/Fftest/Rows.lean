import TrueForce.Fftest.Traces
import Mathlib.Data.List.Range

/-!
# The rows of a run

A run plays the supported rows in the order of the table.  A row is counted down,
played and done with; the row in which the run ends may stop short of that.
-/

namespace TrueForce.Fftest

open Conversation Program RustText

/-- How far a row came, with the reports of a countdown that was cut off. -/
inductive Reach where
  | counting (count : ℕ)
  | playing
  | done
  deriving DecidableEq, Repr

structure Play where
  row : ℕ
  step : SimStep
  reach : Reach
  deriving DecidableEq, Repr

/-- The first `count` reports of the countdown from `seconds` on. -/
def countdownEvents (row total : ℕ) (step : SimStep) (seconds count : ℕ) :
    List SequenceEvent :=
  (List.range count).map fun passed => .countdown row total step (seconds - passed)

namespace Play

def ticks (play : Play) : ℕ := play.step.countdown.ticks.toNat

def events (total : ℕ) (play : Play) : List SequenceEvent :=
  match play.reach with
  | .counting count => countdownEvents play.row total play.step play.ticks count
  | .playing =>
      countdownEvents play.row total play.step play.ticks play.ticks ++
        [.step play.row total play.step]
  | .done =>
      countdownEvents play.row total play.step play.ticks play.ticks ++
        [.step play.row total play.step, .done play.row total]

def state (play : Play) : StepState :=
  match play.reach with
  | .counting count => .countdown (play.ticks - (count - 1))
  | .playing => .playing
  | .done => .done

/-- A countdown that was cut off had begun. -/
def Begun (play : Play) : Prop :=
  ∀ count, play.reach = .counting count → 0 < count ∧ count ≤ play.ticks

end Play

/-- The rows from `row` on, what is played of them, the transcript and the outcome. -/
inductive Played (total : ℕ) (skipped : List Text) :
    List (SimStep × Bool) → ℕ → ℕ → List Play → Log → SequenceOutcome → Prop where
  | finished (row ran : ℕ) :
      Played total skipped [] row ran [] [] { stop := .completed, ran, skipped }
  | skip {step : SimStep} {rows : List (SimStep × Bool)} {row ran : ℕ} {plays : List Play}
      {log : Log} {outcome : SequenceOutcome}
      (rest : Played total skipped rows (row + 1) ran plays log outcome) :
      Played total skipped ((step, true) :: rows) row ran plays log outcome
  | waiting (step : SimStep) (rows : List (SimStep × Bool)) (row ran : ℕ) :
      Played total skipped ((step, false) :: rows) row ran [] []
        { stop := .cancelled, ran, skipped }
  | counting {step : SimStep} (rows : List (SimStep × Bool)) (row ran : ℕ) {count : ℕ}
      (begun : Play.Begun ⟨row, step, .counting count⟩) :
      Played total skipped ((step, false) :: rows) row ran [⟨row, step, .counting count⟩]
        (reports (Play.events total ⟨row, step, .counting count⟩))
        { stop := .cancelled, ran, skipped }
  | failed (step : SimStep) (rows : List (SimStep × Bool)) (row ran : ℕ) {calls : Log}
      (traced : Traced calls) (error : DeviceError) :
      Played total skipped ((step, false) :: rows) row ran [⟨row, step, .playing⟩]
        (reports (Play.events total ⟨row, step, .playing⟩) ++ calls)
        { stop := error.intoEnd, ran, skipped }
  | stopped (step : SimStep) (rows : List (SimStep × Bool)) (row ran : ℕ) {calls : Log}
      (traced : Traced calls) :
      Played total skipped ((step, false) :: rows) row ran [⟨row, step, .done⟩]
        (reports (Play.events total ⟨row, step, .playing⟩) ++ calls ++
          reports [.done row total])
        { stop := .cancelled, ran := ran + 1, skipped }
  | next (step : SimStep) {rows : List (SimStep × Bool)} {row ran : ℕ} {calls : Log}
      (traced : Traced calls) {plays : List Play} {log : Log} {outcome : SequenceOutcome}
      (rest : Played total skipped rows (row + 1) (ran + 1) plays log outcome) :
      Played total skipped ((step, false) :: rows) row ran (⟨row, step, .done⟩ :: plays)
        (reports (Play.events total ⟨row, step, .playing⟩) ++ calls ++
          reports [.done row total] ++ log) outcome

theorem reports_append (before after : List SequenceEvent) :
    reports (before ++ after) = reports before ++ reports after :=
  List.map_append

theorem countdownEvents_succ (row total : ℕ) (step : SimStep) (seconds count : ℕ) :
    countdownEvents row total step (seconds + 1) (count + 1) =
      .countdown row total step (seconds + 1) :: countdownEvents row total step seconds count := by
  simp only [countdownEvents, List.range_succ_eq_map, List.map_cons, List.map_map, Nat.sub_zero]
  congr 1
  apply List.map_congr_left
  intro passed _
  simp only [Function.comp, Nat.succ_eq_add_one, Nat.add_sub_add_right]

theorem transcript_runCountdown {row total : ℕ} {step : SimStep} {seconds : ℕ} {log : Log}
    {waited : WaitOutcome} (ends : (runCountdown row total step seconds).Ends log waited) :
    (waited = .completed ∧
      transcript log = reports (countdownEvents row total step seconds seconds)) ∨
    (waited = .cancelled ∧ ∃ count, 0 < count ∧ count ≤ seconds ∧
      transcript log = reports (countdownEvents row total step seconds count)) := by
  induction seconds generalizing log with
  | zero =>
      obtain ⟨rfl, rfl⟩ := ends
      exact .inl ⟨rfl, rfl⟩
  | succ seconds ih =>
      simp only [runCountdown, ends_put_bind] at ends
      obtain ⟨_, log, rfl, ends⟩ := ends
      obtain ⟨waits, ticked, log, rfl, waiting, ends⟩ := ends_bind.mp ends
      simp only [transcript_cons, transcript_append, transcript_waitOut waiting]
      cases ticked with
      | cancelled =>
          obtain ⟨rfl, rfl⟩ := ends
          refine .inr ⟨rfl, 1, by omega, by omega, ?_⟩
          rw [countdownEvents_succ]
          rfl
      | completed =>
          obtain ⟨finished, same⟩ | ⟨cut, count, positive, most, same⟩ := ih ends
          · refine .inl ⟨finished, ?_⟩
            rw [countdownEvents_succ, same]
            rfl
          · refine .inr ⟨cut, count + 1, by omega, by omega, ?_⟩
            rw [countdownEvents_succ, same]
            rfl

theorem played_runRows {total : ℕ} {model : Gui.WheelModel} {skipped : List Text}
    {rows : List (SimStep × Bool)} {row ran : ℕ} {log : Log} {outcome : SequenceOutcome}
    (ends : (runRows total model skipped rows row ran).Ends log outcome) :
    ∃ plays, Played total skipped rows row ran plays (transcript log) outcome := by
  induction rows generalizing row ran log with
  | nil =>
      obtain ⟨rfl, rfl⟩ := ends
      exact ⟨_, .finished row ran⟩
  | cons entry rows ih =>
      obtain ⟨step, masked⟩ := entry
      cases masked with
      | true =>
          obtain ⟨plays, rest⟩ := ih ends
          exact ⟨plays, .skip rest⟩
      | false =>
          simp only [runRows, ends_put_bind] at ends
          obtain ⟨cancelled, log, rfl, ends⟩ := ends
          rw [transcript_cons, if_neg (by simp [Question.audible])]
          cases cancelled with
          | true =>
              obtain ⟨rfl, rfl⟩ := ends
              exact ⟨_, .waiting step rows row ran⟩
          | false =>
              simp only [Bool.false_eq_true, if_false, ends_bind] at ends
              obtain ⟨counts, counted, log, rfl, counting, ends⟩ := ends
              rw [transcript_append]
              obtain ⟨rfl, same⟩ | ⟨rfl, count, positive, most, same⟩ :=
                transcript_runCountdown counting
              · simp only [ends_put_bind] at ends
                obtain ⟨_, log, rfl, ends⟩ := ends
                rw [ends_bind] at ends
                obtain ⟨calls, result, log, rfl, acting, ends⟩ := ends
                have traced := traced_runAction acting
                have told (log : Log) : transcript counts ++ transcript
                    (⟨.report (.step row total step), ()⟩ :: (calls ++ log)) =
                      reports (Play.events total ⟨row, step, .playing⟩) ++ transcript calls ++
                        transcript log := by
                  simp only [same, transcript_cons, transcript_append, Question.audible, if_true,
                    Play.events, Play.ticks, reports_append, List.append_assoc]
                  rfl
                rw [told]
                cases result with
                | error error =>
                    obtain ⟨rfl, rfl⟩ := ends
                    refine ⟨[⟨row, step, .playing⟩], ?_⟩
                    rw [show transcript [] = [] from rfl, List.append_nil]
                    exact .failed step rows row ran traced error
                | ok waited =>
                    simp only [ends_put_bind] at ends
                    obtain ⟨_, log, rfl, ends⟩ := ends
                    simp only [transcript_cons, Question.audible, if_true]
                    cases waited with
                    | cancelled =>
                        obtain ⟨rfl, rfl⟩ := ends
                        exact ⟨_, .stopped step rows row ran traced⟩
                    | completed =>
                        obtain ⟨plays, rest⟩ := ih ends
                        have next := Played.next step traced rest
                        rw [List.append_assoc] at next
                        exact ⟨_, next⟩
              · obtain ⟨rfl, rfl⟩ := ends
                refine ⟨[⟨row, step, .counting count⟩], ?_⟩
                rw [same, show transcript [] = [] from rfl, List.append_nil]
                refine .counting rows row ran ?_
                rintro count' ⟨⟩
                exact ⟨positive, most⟩

def skipEvents (bits : ByteBuffer.Bytes) (steps : List SimStep) : List SequenceEvent :=
  if skippedRows bits steps ≠ [] then [.skipped (skippedRows bits steps)] else []

/-- What a run does once it has reported the skip list. -/
inductive Sequenced (bits : ByteBuffer.Bytes) (steps : List SimStep) :
    List Play → Log → SequenceOutcome → Prop where
  | nothing (all : (skippedLabels bits steps).length = steps.length) :
      Sequenced bits steps [] []
        { stop := .completed, ran := 0, skipped := skippedLabels bits steps }
  | refused (error : DeviceError) :
      Sequenced bits steps [] [⟨.setGain simGainFull, .error error⟩]
        { stop := error.intoEnd, ran := 0, skipped := skippedLabels bits steps }
  | started {plays : List Play} {log : Log} {outcome : SequenceOutcome}
      (played : Played steps.length (skippedLabels bits steps)
        (steps.zip (skipMask bits steps)) 0 0 plays log outcome) :
      Sequenced bits steps plays (⟨.setGain simGainFull, .ok ()⟩ :: log) outcome

theorem sequenced_runSequence {steps : List SimStep} {model : Gui.WheelModel} {log : Log}
    {outcome : SequenceOutcome} (ends : (runSequence steps model).Ends log outcome) :
    ∃ bits plays rest, Sequenced bits steps plays rest outcome ∧
      transcript log = ⟨.ffBits, bits⟩ :: reports (skipEvents bits steps) ++ rest := by
  simp only [runSequence, ends_put_bind] at ends
  obtain ⟨bits, log, rfl, ends⟩ := ends
  rw [ends_bind] at ends
  obtain ⟨told, _, log, rfl, telling, ends⟩ := ends
  have prelude : transcript (⟨.ffBits, bits⟩ :: (told ++ log)) =
      ⟨.ffBits, bits⟩ :: reports (skipEvents bits steps) ++ transcript log := by
    simp only [transcript_cons, transcript_append, Question.audible, if_true, List.cons_append]
    split at telling
    · rename_i some
      obtain rfl := ends_put.mp telling
      rw [skipEvents, if_pos some]
      rfl
    · rename_i none
      obtain ⟨rfl, -⟩ := telling
      rw [skipEvents, if_neg none]
      rfl
  refine ⟨bits, ?_⟩
  simp only [prelude, List.cons_append, List.cons.injEq, true_and, List.append_cancel_left_eq]
  split at ends
  · rename_i all
    obtain ⟨rfl, rfl⟩ := ends
    exact ⟨_, _, .nothing all, rfl⟩
  · simp only [ends_put_bind] at ends
    obtain ⟨gained, log, rfl, ends⟩ := ends
    cases gained with
    | error error =>
        obtain ⟨rfl, rfl⟩ := ends
        exact ⟨_, _, .refused error, rfl⟩
    | ok =>
        obtain ⟨plays, played⟩ := played_runRows ends
        exact ⟨plays, _, .started played, rfl⟩

end TrueForce.Fftest
