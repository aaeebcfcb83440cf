import TrueForce.Fftest.Rows

/-!
# What a run reports

The events of a run are the skip list and then, row by row, the countdown, the step and
its end.  Folded into the plan they leave each row in the state that the run brought it to.
-/

namespace TrueForce.Fftest

open Conversation RustText

def SequenceEvent.isDone : SequenceEvent → Bool
  | .done _ _ => true
  | _ => false

def events (log : Log) : List SequenceEvent :=
  log.filterMap fun entry => match entry.1 with
    | .report event => some event
    | _ => none

theorem events_append (before after : Log) :
    events (before ++ after) = events before ++ events after :=
  List.filterMap_append

theorem events_reports (told : List SequenceEvent) : events (reports told) = told := by
  simp only [events, reports, List.filterMap_map, Function.comp_def, List.filterMap_some]

theorem events_traced {log : Log} (traced : Traced log) : events log = [] := by
  cases traced <;> rfl

section Rows

variable {total : ℕ} {skipped : List Text} {rows : List (SimStep × Bool)} {row ran : ℕ}
  {plays : List Play} {log : Log} {outcome : SequenceOutcome}

theorem Play.events_done (row : ℕ) (step : SimStep) :
    Play.events total ⟨row, step, .playing⟩ ++ [.done row total] =
      Play.events total ⟨row, step, .done⟩ := by
  simp only [Play.events, List.append_assoc, List.cons_append, List.nil_append]
  rfl

theorem events_played (played : Played total skipped rows row ran plays log outcome) :
    events log = plays.flatMap (Play.events total) := by
  induction played with
  | finished row ran => rfl
  | skip rest ih => exact ih
  | waiting step rows row ran => rfl
  | counting rows row ran begun => simp only [events_reports, List.flatMap_singleton]
  | failed step rows row ran traced error =>
      simp only [events_append, events_reports, events_traced traced, List.append_nil,
        List.flatMap_singleton]
  | stopped step rows row ran traced =>
      simp only [events_append, events_reports, events_traced traced, List.append_nil,
        List.flatMap_singleton, Play.events_done]
  | next step traced rest ih =>
      simp only [events_append, events_reports, events_traced traced, List.append_nil,
        List.flatMap_cons, Play.events_done, ih]

theorem playedRow (played : Played total skipped rows row ran plays log outcome) {play : Play}
    (known : play ∈ plays) :
    play.Begun ∧ ∃ index, play.row = row + index ∧ rows[index]? = some (play.step, false) := by
  induction played with
  | finished row ran => cases known
  | skip rest ih =>
      obtain ⟨begun, index, same, entry⟩ := ih known
      exact ⟨begun, index + 1, by omega, entry⟩
  | waiting step rows row ran => cases known
  | counting rows row ran begun =>
      obtain rfl := List.mem_singleton.mp known
      exact ⟨begun, 0, rfl, rfl⟩
  | failed step rows row ran traced error =>
      obtain rfl := List.mem_singleton.mp known
      exact ⟨fun _ same => Reach.noConfusion same, 0, rfl, rfl⟩
  | stopped step rows row ran traced =>
      obtain rfl := List.mem_singleton.mp known
      exact ⟨fun _ same => Reach.noConfusion same, 0, rfl, rfl⟩
  | next step traced rest ih =>
      obtain rfl | known := List.mem_cons.mp known
      · exact ⟨fun _ same => Reach.noConfusion same, 0, rfl, rfl⟩
      · obtain ⟨begun, index, same, entry⟩ := ih known
        exact ⟨begun, index + 1, by omega, entry⟩

theorem increasing_played (played : Played total skipped rows row ran plays log outcome) :
    (plays.map Play.row).Pairwise (· < ·) := by
  induction played with
  | finished row ran => exact .nil
  | skip rest ih => exact ih
  | waiting step rows row ran => exact .nil
  | counting rows row ran begun => exact List.pairwise_singleton _ _
  | failed step rows row ran traced error => exact List.pairwise_singleton _ _
  | stopped step rows row ran traced => exact List.pairwise_singleton _ _
  | next step traced rest ih =>
      refine List.pairwise_cons.mpr ⟨?_, ih⟩
      intro later listed
      obtain ⟨play, known, rfl⟩ := List.mem_map.mp listed
      obtain ⟨-, index, same, -⟩ := playedRow rest known
      rw [same]
      exact Nat.lt_of_lt_of_le (Nat.lt_succ_self _) (Nat.le_add_right _ index)

theorem done_of_dropLast (played : Played total skipped rows row ran plays log outcome)
    {play : Play} (known : play ∈ plays.dropLast) : play.reach = .done := by
  induction played with
  | finished row ran => cases known
  | skip rest ih => exact ih known
  | waiting step rows row ran => cases known
  | counting rows row ran begun => cases known
  | failed step rows row ran traced error => cases known
  | stopped step rows row ran traced => cases known
  | next step traced rest ih =>
      rename_i later _ _
      cases later with
      | nil => cases known
      | cons head tail =>
          obtain rfl | known := List.mem_cons.mp known
          · rfl
          · exact ih known

theorem skipped_played (played : Played total skipped rows row ran plays log outcome) :
    outcome.skipped = skipped := by
  induction played with
  | skip rest ih => exact ih
  | next step traced rest ih => exact ih
  | finished | waiting | counting | failed | stopped => rfl

theorem ran_played (played : Played total skipped rows row ran plays log outcome) :
    outcome.ran = ran + (plays.countP fun play => play.reach = .done) := by
  induction played with
  | skip rest ih => exact ih
  | next step traced rest ih =>
      rw [List.countP_cons_of_pos (by simp), ih]
      omega
  | finished | waiting | counting | failed | stopped => rfl

theorem done_of_completed (played : Played total skipped rows row ran plays log outcome)
    (completed : outcome.stop = .completed) {index : ℕ} {step : SimStep}
    (entry : rows[index]? = some (step, false)) : ⟨row + index, step, .done⟩ ∈ plays := by
  induction played generalizing index with
  | finished row ran => cases entry
  | skip rest ih =>
      cases index with
      | zero => cases entry
      | succ index =>
          rw [Nat.add_comm index, ← Nat.add_assoc]
          exact ih completed entry
  | waiting step rows row ran => cases completed
  | counting rows row ran begun => cases completed
  | failed step rows row ran traced error => cases error <;> cases completed
  | stopped step rows row ran traced => cases completed
  | next step traced rest ih =>
      cases index with
      | zero =>
          cases entry
          exact List.mem_cons_self
      | succ index =>
          rw [Nat.add_comm index, ← Nat.add_assoc]
          exact List.mem_cons_of_mem _ (ih completed entry)

end Rows

theorem countP_isDone_events (total : ℕ) (play : Play) :
    (play.events total).countP SequenceEvent.isDone = if play.reach = .done then 1 else 0 := by
  have none (count : ℕ) : (countdownEvents play.row total play.step play.ticks count).countP
      SequenceEvent.isDone = 0 := by
    rw [List.countP_eq_zero]
    intro event known
    obtain ⟨passed, -, rfl⟩ := List.mem_map.mp known
    exact Bool.false_ne_true
  obtain ⟨row, step, reach⟩ := play
  cases reach with
  | counting count => exact none count
  | playing =>
      rw [Play.events, List.countP_append, none]
      rfl
  | done =>
      rw [Play.events, List.countP_append, none]
      rfl

theorem countP_isDone_flatMap (total : ℕ) (plays : List Play) :
    (plays.flatMap (Play.events total)).countP SequenceEvent.isDone =
      plays.countP fun play => play.reach = .done := by
  induction plays with
  | nil => rfl
  | cons play plays ih =>
      rw [List.flatMap_cons, List.countP_append, ih, countP_isDone_events, List.countP_cons]
      simp only [decide_eq_true_eq]
      omega

namespace SequenceProgress

/-- What the events of a row leave of a plan. -/
def follow (progress : SequenceProgress) (play : Play) : SequenceProgress where
  states := progress.states.set play.row play.state
  current := if play.reach = .done then none else some play.row

theorem foldl_countdownEvents (progress : SequenceProgress) (row total : ℕ) (step : SimStep)
    (seconds count : ℕ) :
    (countdownEvents row total step seconds (count + 1)).foldl apply progress =
      { progress.mark row (.countdown (seconds - count)) with current := some row } := by
  induction count with
  | zero => rfl
  | succ count ih =>
      rw [countdownEvents, List.range_succ, List.map_append, List.foldl_append,
        ← countdownEvents, ih]
      simp only [List.map_cons, List.map_nil, List.foldl_cons, List.foldl_nil, apply, mark,
        List.set_set]

theorem set_foldl_countdownEvents (progress : SequenceProgress) (row total : ℕ)
    (step : SimStep) (seconds count : ℕ) (state : StepState) :
    ((countdownEvents row total step seconds count).foldl apply progress).states.set row state =
      progress.states.set row state := by
  cases count with
  | zero => rfl
  | succ count =>
      rw [foldl_countdownEvents]
      simp only [mark, List.set_set]

theorem foldl_events (progress : SequenceProgress) (total : ℕ) {play : Play}
    (begun : play.Begun) :
    (play.events total).foldl apply progress = progress.follow play := by
  obtain ⟨row, step, reach⟩ := play
  cases reach with
  | counting count =>
      obtain ⟨positive, -⟩ := begun count rfl
      obtain ⟨count, rfl⟩ := Nat.exists_eq_add_of_lt positive
      rw [Nat.zero_add]
      exact foldl_countdownEvents progress row total step _ count
  | playing =>
      rw [Play.events, List.foldl_append]
      simp only [List.foldl_cons, List.foldl_nil, apply, mark, set_foldl_countdownEvents]
      rfl
  | done =>
      rw [Play.events, List.foldl_append]
      simp only [List.foldl_cons, List.foldl_nil, apply, mark, List.set_set,
        set_foldl_countdownEvents]
      rfl

theorem foldl_flatMap (progress : SequenceProgress) (total : ℕ) {plays : List Play}
    (begun : ∀ play ∈ plays, play.Begun) :
    (plays.flatMap (Play.events total)).foldl apply progress = plays.foldl follow progress := by
  induction plays generalizing progress with
  | nil => rfl
  | cons play plays ih =>
      rw [List.flatMap_cons, List.foldl_append, foldl_events progress total
        (begun play List.mem_cons_self), List.foldl_cons]
      exact ih _ fun later known => begun later (List.mem_cons_of_mem _ known)

theorem length_foldl_follow (progress : SequenceProgress) (plays : List Play) :
    (plays.foldl follow progress).states.length = progress.states.length := by
  induction plays generalizing progress with
  | nil => rfl
  | cons play plays ih => rw [List.foldl_cons, ih, follow, List.length_set]

/-- A row that no play is about keeps its state. -/
theorem getElem?_foldl_follow_of_ne (progress : SequenceProgress) {plays : List Play} {row : ℕ}
    (other : ∀ play ∈ plays, play.row ≠ row) :
    (plays.foldl follow progress).states[row]? = progress.states[row]? := by
  induction plays generalizing progress with
  | nil => rfl
  | cons play plays ih =>
      rw [List.foldl_cons, ih _ fun later known => other later (List.mem_cons_of_mem _ known),
        follow, List.getElem?_set_ne (other play List.mem_cons_self)]

theorem getElem?_foldl_follow (progress : SequenceProgress) {plays : List Play}
    (increasing : (plays.map Play.row).Pairwise (· < ·)) {play : Play} (known : play ∈ plays)
    (fits : play.row < progress.states.length) :
    (plays.foldl follow progress).states[play.row]? = some play.state := by
  induction plays generalizing progress with
  | nil => cases known
  | cons head plays ih =>
      obtain ⟨least, increasing⟩ := List.pairwise_cons.mp increasing
      obtain rfl | known := List.mem_cons.mp known
      · rw [List.foldl_cons, getElem?_foldl_follow_of_ne, follow, List.getElem?_set_self fits]
        intro later listed
        exact (least later.row (List.mem_map_of_mem listed)).ne'
      · exact ih _ increasing known (by rwa [follow, List.length_set])

theorem current_foldl_follow {progress : SequenceProgress} (idle : progress.current = none)
    (plays : List Play) :
    (plays.foldl follow progress).current =
      plays.getLast?.bind fun play => if play.reach = .done then none else some play.row := by
  induction plays using List.reverseRecOn with
  | nil => exact idle
  | append_singleton plays play ih =>
      rw [List.foldl_append, List.getLast?_concat]
      rfl

theorem current_skipped (progress : SequenceProgress) (rows : List (ℕ × Text)) :
    (progress.apply (.skipped rows)).current = progress.current := by
  simp only [apply]
  induction rows generalizing progress with
  | nil => rfl
  | cons head rows ih => exact ih _

theorem length_skipped (progress : SequenceProgress) (rows : List (ℕ × Text)) :
    (progress.apply (.skipped rows)).states.length = progress.states.length := by
  simp only [apply]
  induction rows generalizing progress with
  | nil => rfl
  | cons head rows ih => rw [List.foldl_cons, ih, mark, List.length_set]

theorem getElem?_skipped_of_notMem (progress : SequenceProgress) {rows : List (ℕ × Text)}
    {row : ℕ} (other : row ∉ rows.map Prod.fst) :
    (progress.apply (.skipped rows)).states[row]? = progress.states[row]? := by
  simp only [apply]
  induction rows generalizing progress with
  | nil => rfl
  | cons head rows ih =>
      rw [List.map_cons, List.mem_cons, not_or] at other
      rw [List.foldl_cons, ih _ other.2, mark, List.getElem?_set_ne (Ne.symm other.1)]

theorem getElem?_skipped_of_mem (progress : SequenceProgress) {rows : List (ℕ × Text)}
    {row : ℕ} (listed : row ∈ rows.map Prod.fst) (fits : row < progress.states.length) :
    (progress.apply (.skipped rows)).states[row]? = some .skipped := by
  induction rows generalizing progress with
  | nil => cases listed
  | cons head rows ih =>
      by_cases again : row ∈ rows.map Prod.fst
      · exact ih (progress.mark head.1 .skipped) again (by rwa [mark, List.length_set])
      · obtain rfl := (List.mem_cons.mp listed).resolve_right again
        refine (getElem?_skipped_of_notMem (progress.mark head.1 .skipped) again).trans ?_
        rw [mark, List.getElem?_set_self fits]

end SequenceProgress

theorem mem_skippedRows {bits : ByteBuffer.Bytes} {steps : List SimStep} {row : ℕ}
    {step : SimStep} (entry : steps[row]? = some step) :
    row ∈ (skippedRows bits steps).map Prod.fst ↔ step.action.supported bits = false := by
  simp only [skippedRows, List.map_map, List.mem_map, List.mem_filter, Function.comp,
    Prod.exists, List.mem_zipIdx_iff_getElem?, Bool.not_eq_true']
  constructor
  · rintro ⟨other, _, ⟨known, unsupported⟩, rfl⟩
    obtain rfl := Option.some.inj (entry.symm.trans known)
    exact unsupported
  · intro unsupported
    exact ⟨step, row, ⟨entry, unsupported⟩, rfl⟩

theorem skippedLabels_eq (bits : ByteBuffer.Bytes) (steps : List SimStep) :
    skippedLabels bits steps =
      (steps.filter fun step => !step.action.supported bits).map SimStep.label := by
  conv_rhs => rw [← List.zipIdx_map_fst 0 steps, List.filter_map, List.map_map]
  simp only [skippedLabels, skippedRows, List.map_map]
  rfl

/-- The plan after the skip list and the rows that were played. -/
theorem foldl_run {bits : ByteBuffer.Bytes} {steps : List SimStep} {plays : List Play}
    (increasing : (plays.map Play.row).Pairwise (· < ·))
    (listed : ∀ play ∈ plays, steps[play.row]? = some play.step ∧ play.Begun)
    {told : List SequenceEvent}
    (same : told = skipEvents bits steps ++ plays.flatMap (Play.events steps.length)) :
    let progress := told.foldl SequenceProgress.apply (.new steps)
    progress.states.length = steps.length ∧
      (∀ row step, steps[row]? = some step → (∀ play ∈ plays, play.row ≠ row) →
        progress.states[row]? =
          some (if step.action.supported bits then .pending else .skipped)) ∧
      (∀ play ∈ plays, progress.states[play.row]? = some play.state) ∧
      progress.current =
        plays.getLast?.bind fun play => if play.reach = .done then none else some play.row := by
  subst same
  intro progress
  have start : (skipEvents bits steps).foldl SequenceProgress.apply (.new steps) =
      (SequenceProgress.new steps).apply (.skipped (skippedRows bits steps)) := by
    rw [skipEvents]
    split
    · rfl
    · rename_i none
      rw [not_not.mp none]
      rfl
  have whole : progress = plays.foldl SequenceProgress.follow
      ((SequenceProgress.new steps).apply (.skipped (skippedRows bits steps))) := by
    rw [← start, ← SequenceProgress.foldl_flatMap _ steps.length fun play known =>
      (listed play known).2, ← List.foldl_append]
  have length : ((SequenceProgress.new steps).apply
      (.skipped (skippedRows bits steps))).states.length = steps.length := by
    rw [SequenceProgress.length_skipped, SequenceProgress.new, List.length_replicate]
  rw [whole]
  refine ⟨?_, ?_, ?_, ?_⟩
  · rw [SequenceProgress.length_foldl_follow, length]
  · intro row step entry other
    have fits : row < steps.length := (List.getElem?_eq_some_iff.mp entry).1
    rw [SequenceProgress.getElem?_foldl_follow_of_ne _ other]
    by_cases supported : step.action.supported bits
    · rw [SequenceProgress.getElem?_skipped_of_notMem, if_pos supported, SequenceProgress.new,
        List.getElem?_replicate_of_lt fits]
      rw [mem_skippedRows entry, supported]
      exact Bool.noConfusion
    · rw [SequenceProgress.getElem?_skipped_of_mem, if_neg supported]
      · rw [mem_skippedRows entry]
        exact Bool.eq_false_iff.mpr supported
      · rwa [SequenceProgress.new, List.length_replicate]
  · intro play known
    apply SequenceProgress.getElem?_foldl_follow _ increasing known
    rw [length]
    exact (List.getElem?_eq_some_iff.mp (listed play known).1).1
  · apply SequenceProgress.current_foldl_follow
    rw [SequenceProgress.current_skipped]
    rfl

end TrueForce.Fftest
