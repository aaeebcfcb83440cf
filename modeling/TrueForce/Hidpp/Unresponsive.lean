import TrueForce.Foundation.Hysteresis
import TrueForce.Hidpp.TransportLaw

/-!
# The unresponsive wheel

The driver warns once when five commands in a row have gone without an answer, and says so
once when five in a row have been answered again.  A refusal is neither, and the commands that
some wheels never answer do not count.
-/

namespace TrueForce.Hidpp.Transport

open TrueForce.Transition TrueForce.Hysteresis

variable {dd : Bool} {state : State} {answers : List Bool}

/-- Whether a command was answered, where its result counts. -/
def answerCounted (result : Bool × ℤ) : Option Bool :=
  if result.1 = true ∨ 0 < result.2 then none else some (decide (result.2 = 0))

def counted (results : List (Bool × ℤ)) : List Bool := results.filterMap answerCounted

/-- A log in which warning and recovery take turns. -/
def turns (count : ℕ) : List Notice :=
  (List.range count).map fun turn => if turn % 2 = 0 then .unresponsive 5 else .answering

theorem turns_succ (count : ℕ) : turns (count + 1) =
    turns count ++ [if count % 2 = 0 then .unresponsive 5 else .answering] := by
  rw [turns, List.range_succ, List.map_append]
  rfl

/-- What the detector knows of the answers so far. -/
structure Tracks (answers : List Bool) (told : Detector × List Notice) : Prop where
  warned : told.1.unresponsiveWarned = true ↔ Settled 5 false answers
  timeouts : told.1.unresponsiveWarned = false →
    told.1.syncTimeouts.toNat = trailing false answers
  recovering : told.1.syncAnswers.toNat =
    if told.1.unresponsiveWarned then trailing true answers else 0
  logged : ∃ count, told.2 = turns count ∧ (told.1.unresponsiveWarned = true ↔ count % 2 = 1)

theorem tracks_fresh : Tracks [] (.fresh, []) where
  warned := by
    constructor
    · intro warned
      cases warned
    · rintro ⟨before, after, whole, -⟩
      have none := congrArg List.length whole
      simp at none
  timeouts := fun _ => rfl
  recovering := rfl
  logged := ⟨0, rfl, by decide⟩

theorem counted_append (results : List (Bool × ℤ)) (result : Bool × ℤ) :
    counted (results ++ [result]) = counted results ++ (answerCounted result).toList := by
  rw [counted, List.filterMap_append, List.filterMap_cons, List.filterMap_nil]
  cases answerCounted result <;> rfl

/-- After an answer. -/
theorem Tracks.answered {detector : Detector} {notices : List Notice}
    (tracks : Tracks answers (detector, notices)) :
    Tracks (answers ++ [true]) ((detector.noteSyncResult false 0).1,
      notices ++ (detector.noteSyncResult false 0).2.toList) := by
  rcases tracks with ⟨warned, timeouts, recovering, count, rfl, parity⟩
  rcases detector with ⟨syncTimeouts, syncAnswers, unresponsiveWarned⟩
  have step : Settled 5 false (answers ++ [true]) ↔
      Settled 5 false answers ∧ trailing true (answers ++ [true]) < 5 :=
    settled_append (by decide) true
  rw [trailing_append, if_pos rfl] at step
  cases unresponsiveWarned with
  | false =>
      have healthy : ¬Settled 5 false answers := fun settled => Bool.noConfusion (warned.mpr settled)
      refine ⟨?_, fun _ => ?_, recovering, count, List.append_nil _, parity⟩
      · rw [step]
        exact ⟨fun absurd => Bool.noConfusion absurd, fun both => absurd both.1 healthy⟩
      · rw [trailing_append]
        rfl
  | true =>
      have settled := warned.mp rfl
      have short : trailing true answers < 5 := settled.trailing_lt (by decide)
      have run : syncAnswers.toNat = trailing true answers := recovering
      have next : (syncAnswers + 1).toNat = trailing true answers + 1 := by
        rw [UInt32.toNat_add, run]
        change (trailing true answers + 1) % 2 ^ 32 = _
        omega
      have few : syncAnswers + 1 < responsiveAfter ↔ trailing true answers + 1 < 5 := by
        rw [UInt32.lt_iff_toNat_lt, next]
        rfl
      by_cases more : trailing true answers + 1 < 5
      · have noted : Detector.noteSyncResult ⟨syncTimeouts, syncAnswers, true⟩ false 0 =
            (⟨0, syncAnswers + 1, true⟩, none) := if_pos (few.mpr more)
        rw [noted]
        refine ⟨?_, fun absurd => Bool.noConfusion absurd, ?_, count, List.append_nil _, parity⟩
        · rw [step]
          exact ⟨fun _ => ⟨settled, more⟩, fun _ => rfl⟩
        · rw [trailing_append]
          exact next
      · have noted : Detector.noteSyncResult ⟨syncTimeouts, syncAnswers, true⟩ false 0 =
            (⟨0, 0, false⟩, some .answering) := if_neg (fun fewer => more (few.mp fewer))
        rw [noted]
        refine ⟨?_, fun _ => ?_, rfl, count + 1, ?_, ?_⟩
        · rw [step]
          exact ⟨fun absurd => Bool.noConfusion absurd, fun both => absurd both.2 more⟩
        · rw [trailing_append]
          rfl
        · rw [turns_succ, if_neg]
          · rfl
          · have odd := parity.mp rfl
            omega
        · have odd := parity.mp rfl
          constructor
          · intro absurd
            cases absurd
          · omega

/-- After a command without an answer. -/
theorem Tracks.unanswered {detector : Detector} {notices : List Notice} {ret : ℤ}
    (tracks : Tracks answers (detector, notices)) (bad : ret < 0) :
    Tracks (answers ++ [false]) ((detector.noteSyncResult false ret).1,
      notices ++ (detector.noteSyncResult false ret).2.toList) := by
  rcases tracks with ⟨warned, timeouts, recovering, count, rfl, parity⟩
  rcases detector with ⟨syncTimeouts, syncAnswers, unresponsiveWarned⟩
  have step : Settled 5 false (answers ++ [false]) ↔
      Settled 5 false answers ∨ 5 ≤ trailing false (answers ++ [false]) :=
    settled_append (by decide) false
  have none : trailing true (answers ++ [false]) = 0 := trailing_append true false answers
  rw [trailing_append, if_pos rfl] at step
  have noted : Detector.noteSyncResult ⟨syncTimeouts, syncAnswers, unresponsiveWarned⟩ false ret =
      if syncTimeouts + 1 < unresponsiveAfter ∨ unresponsiveWarned = true then
        (⟨syncTimeouts + 1, 0, unresponsiveWarned⟩, Option.none)
      else (⟨syncTimeouts + 1, 0, true⟩, some (.unresponsive (syncTimeouts + 1))) := by
    rw [Detector.noteSyncResult, if_neg Bool.false_ne_true, if_neg (by omega), if_neg (by omega)]
  cases unresponsiveWarned with
  | true =>
      rw [noted, if_pos (.inr rfl)]
      refine ⟨?_, fun absurd => Bool.noConfusion absurd, none.symm, count, List.append_nil _, parity⟩
      rw [step]
      exact ⟨fun _ => .inl (warned.mp rfl), fun _ => rfl⟩
  | false =>
      have healthy : ¬Settled 5 false answers := fun settled => Bool.noConfusion (warned.mpr settled)
      have short : trailing false answers < 5 := by
        apply Nat.lt_of_not_le
        intro run
        exact healthy (.of_trailing (by decide) run)
      have next : (syncTimeouts + 1).toNat = trailing false answers + 1 := by
        have run : syncTimeouts.toNat = trailing false answers := timeouts rfl
        rw [UInt32.toNat_add, run]
        change (trailing false answers + 1) % 2 ^ 32 = _
        omega
      have few : syncTimeouts + 1 < unresponsiveAfter ↔ trailing false answers + 1 < 5 := by
        rw [UInt32.lt_iff_toNat_lt, next]
        rfl
      by_cases more : trailing false answers + 1 < 5
      · rw [noted, if_pos (.inl (few.mpr more))]
        refine ⟨?_, fun _ => ?_, rfl, count, List.append_nil _, parity⟩
        · rw [step]
          constructor
          · intro absurd
            cases absurd
          · rintro (settled | run)
            · exact absurd settled healthy
            · omega
        · rw [trailing_append]
          exact next
      · have five : syncTimeouts + 1 = 5 := by
          apply UInt32.toNat_inj.mp
          rw [next]
          change _ = 5
          omega
        have even : count % 2 = 0 := by
          have even : ¬count % 2 = 1 := fun odd => Bool.noConfusion (parity.mpr odd)
          omega
        rw [noted, if_neg]
        · refine ⟨?_, fun absurd => Bool.noConfusion absurd, none.symm, count + 1, ?_, ?_⟩
          · rw [step]
            exact ⟨fun _ => .inr (by omega), fun _ => rfl⟩
          · rw [turns_succ, if_pos even, five]
            rfl
          · constructor
            · intro _
              omega
            · exact fun _ => rfl
        · rintro (fewer | absurd)
          · exact more (few.mp fewer)
          · cases absurd

theorem tracks_replay (results : List (Bool × ℤ)) : Tracks (counted results) (replay results) := by
  induction results using List.reverseRecOn with
  | nil => exact tracks_fresh
  | append_singleton results result ih =>
      rcases result with ⟨uncounted, ret⟩
      rw [replay_append, counted_append]
      have same := (List.append_nil (replay results).2).symm
      cases uncounted with
      | true =>
          have skipped : answerCounted (true, ret) = none := if_pos (.inl rfl)
          rw [skipped, Option.toList_none, List.append_nil]
          exact same ▸ ih
      | false =>
          rcases Int.lt_trichotomy ret 0 with bad | rfl | refused
          · have unanswered : answerCounted (false, ret) = some false := by
              rw [answerCounted, if_neg, decide_eq_false (by omega)]
              rintro (absurd | absurd)
              · cases absurd
              · omega
            rw [unanswered]
            exact ih.unanswered bad
          · exact ih.answered
          · have skipped : answerCounted (false, ret) = none := if_pos (.inr refused)
            have noted : Detector.noteSyncResult (replay results).1 false ret =
                ((replay results).1, none) := by
              rw [Detector.noteSyncResult, if_neg Bool.false_ne_true, if_pos refused]
            rw [skipped, Option.toList_none, List.append_nil, noted]
            exact same ▸ ih

/-- The wheel counts as unresponsive when five commands in a row went without an answer and no
five in a row have had one since, and the log tells of every change once. -/
theorem warning_law (reachable : (system dd).Reachable state) :
    (state.detector.unresponsiveWarned = true ↔ Settled 5 false (counted state.results)) ∧
      ∃ count, state.notices = turns count ∧
        (state.detector.unresponsiveWarned = true ↔ count % 2 = 1) := by
  have told := (owned_of_reachable reachable).told
  have tracks := tracks_replay state.results
  rw [← told] at tracks
  exact ⟨tracks.warned, tracks.logged⟩

/-- A wheel that does not take a report. -/
def refusedCommand : List Event :=
  [.lock wakeUp .zero, .proceed, .proceed, .proceed, .send false, .note false, .proceed, .proceed]

theorem warning_law_refused : ∃ state, (system true).Reachable state ∧
    state.notices = [.unresponsive 5] ∧ Settled 5 false (counted state.results) := by
  have executed : (system true).run .fresh
      (List.replicate 5 refusedCommand).flatten = some _ := rfl
  have reachable := System.Reachable.of_run _ _ rfl executed
  exact ⟨_, reachable, rfl, (warning_law reachable).1.mp rfl⟩

end TrueForce.Hidpp.Transport
