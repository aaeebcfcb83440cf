import TrueForce.Range.PushRestore

/-!
# The restore and the user's own range

A restore run decides by the flag and the generation, and SETs afterwards; a
user write SETs first and updates the flag and the generation afterwards.  The
two windows in which the run's decision and the user's SET cross are

* the run passes its checks while the cached range already differs from the
  range it is going to SET, because a writer has SET and not yet said so;
* a writer SETs a different range while the run stands between its checks and
  its own SET.

In every run that stays clear of the two windows, whatever the driver SETs last
is what a user SET last.
-/

namespace TrueForce.Range

open TrueForce.Transition

theorem RangePath.settle_settle (path : RangePath) (range : ℕ) :
    path.settle (path.settle range) = path.settle range := by
  cases path with
  | g920 => simp only [RangePath.settle]; omega
  | compat | native => rfl

namespace State

/-- The step neither passes a run's checks over a range that is no longer the cached one, nor
SETs a user's different range behind a run that has passed them. -/
def RespectsUser (state : State) : Event → Prop
  | .workStep _ =>
      match state.work with
      | .checkingGen want gen => state.tmRestoreGen = gen → want = state.range
      | _ => True
  | .storeStep writer true =>
      match state.store writer, state.work with
      | .setting range, .setting want _ => want = state.path.settle range
      | _, _ => True
  | _ => True

def HasSet (state : State) (writer : ℕ) : Prop :=
  match state.store writer with
  | .idle | .setting _ => False
  | .clearingSeen | .readingGen | .writingGen _ => True

/-- What the guarded runs keep: a run about to SET holds the cached range, and once a user has SET
a range, the cache and the wheel hold the latest such range. -/
structure FollowsUser (state : State) : Prop where
  restoring : ∀ want gen, state.work = .setting want gen → want = state.range
  standing : ∀ range, state.userSet = some range →
    state.lastSet = some range ∧ state.range = range ∧ state.path.settle range = range
  written : ∀ writer, state.HasSet writer → state.userSet ≠ none
  completed : state.userSincePush = true → state.userSet ≠ none

/-- No store and no restore work is queued or in progress, and a user write has completed since
the last blind push: then the range last SET is the one that the last user SET. -/
def UserRangeStands (state : State) : Prop :=
  state.WorkQuiet → state.StoresQuiet → state.userSincePush = true →
    ∃ range, state.userSet = some range ∧ state.lastSet = some range

end State

theorem start_followsUser (path : RangePath) (range : ℕ) (rangeRestore : Bool) :
    (State.start path range rangeRestore).FollowsUser where
  restoring := by simp [State.start]
  standing := by simp [State.start]
  written := by simp [State.start, State.HasSet]
  completed := by simp [State.start]

/-- A step that touches neither the wheel, the cache nor the writers and does not bring a run to
its SET. -/
theorem frame_followsUser {state next : State} (follows : state.FollowsUser)
    (samePath : next.path = state.path) (sameRange : next.range = state.range)
    (notRestoring : ∀ want gen, next.work = .setting want gen → state.work = .setting want gen)
    (sameStore : next.store = state.store)
    (sameLastSet : next.lastSet = state.lastSet) (sameUserSet : next.userSet = state.userSet)
    (sincePush : next.userSincePush = true → state.userSincePush = true) :
    next.FollowsUser where
  restoring := fun want gen setting => by
    simpa [sameRange] using follows.restoring want gen (notRestoring want gen setting)
  standing := by simpa [sameUserSet, sameLastSet, sameRange, samePath] using follows.standing
  written := by simpa [State.HasSet, sameStore, sameUserSet] using follows.written
  completed := fun completed => by
    simpa [sameUserSet] using follows.completed (sincePush completed)

theorem beginPush_followsUser {state next : State} {deg : ℕ} (follows : state.FollowsUser)
    (stepped : state.beginPush deg = some next) : next.FollowsUser := by
  simp only [State.beginPush] at stepped
  split at stepped
  · split at stepped
    · split at stepped <;> cases stepped <;>
        exact frame_followsUser follows rfl rfl (fun _ _ => id) rfl rfl rfl (by simp)
    · cases stepped
      exact follows
  · contradiction

theorem stepPush_followsUser {state next : State} (follows : state.FollowsUser)
    (stepped : state.stepPush = some next) : next.FollowsUser := by
  cases phase : state.push with
  | idle => simp [State.stepPush, phase] at stepped
  | readingRange deg =>
      simp only [State.stepPush, phase] at stepped
      split at stepped <;> cases stepped <;>
        exact frame_followsUser follows rfl rfl (fun _ _ => id) rfl rfl rfl id
  | _ =>
      simp only [State.stepPush, phase] at stepped
      cases stepped
      exact frame_followsUser follows rfl rfl (fun _ _ => id) rfl rfl rfl id

/-- A run SETs the range that the cache holds, so a user's range stays where it is. -/
theorem stepWork_followsUser {state next : State} {accepted : Bool} (follows : state.FollowsUser)
    (respects : state.RespectsUser (.workStep accepted))
    (stepped : state.stepWork accepted = some next) : next.FollowsUser := by
  cases phase : state.work with
  | checkingGen want gen =>
      simp only [State.stepWork, phase] at stepped
      split at stepped
      case isTrue current =>
        cases stepped
        refine ⟨?_, follows.standing, follows.written, follows.completed⟩
        intro want' gen' setting
        cases setting
        simp only [State.RespectsUser, phase] at respects
        exact respects current
      case isFalse =>
        cases stepped
        exact frame_followsUser follows rfl rfl (by simp) rfl rfl rfl id
  | setting want gen =>
      have held : want = state.range := follows.restoring want gen phase
      simp only [State.stepWork, phase] at stepped
      split at stepped <;> cases stepped
      · refine ⟨by simp, ?_, follows.written, follows.completed⟩
        intro range userSet
        rcases follows.standing range userSet with ⟨_, cached, settled⟩
        simp [State.setRangeHw, held, cached, settled]
      · exact frame_followsUser follows rfl rfl (by simp) rfl rfl rfl id
  | readingWant | readingGen | clearingSeen =>
      simp only [State.stepWork, phase] at stepped
      cases stepped
      exact frame_followsUser follows rfl rfl (by simp) rfl rfl rfl id
  | idle | sleeping | checkingLast =>
      simp only [State.stepWork, phase] at stepped
      split at stepped <;> cases stepped <;>
        exact frame_followsUser follows rfl rfl (by simp) rfl rfl rfl id

theorem setStore_followsUser {state : State} {writer : ℕ} {phase : StorePhase}
    (follows : state.FollowsUser)
    (earned : (state.setStore writer phase).HasSet writer → state.HasSet writer) :
    (state.setStore writer phase).FollowsUser where
  restoring := follows.restoring
  standing := follows.standing
  written := by
    intro other hasSet
    by_cases same : other = writer
    · subst other
      exact follows.written writer (earned hasSet)
    · apply follows.written other
      simpa [State.HasSet, State.setStore, Function.update_of_ne same] using hasSet
  completed := follows.completed

/-- A user's SET reaches the wheel and the cache together, and no run holds another range. -/
theorem stepStore_followsUser {state next : State} {writer : ℕ} {accepted : Bool}
    (follows : state.FollowsUser) (respects : state.RespectsUser (.storeStep writer accepted))
    (stepped : state.stepStore writer accepted = some next) : next.FollowsUser := by
  cases phase : state.store writer with
  | idle => simp [State.stepStore, phase] at stepped
  | setting range =>
      simp only [State.stepStore, phase] at stepped
      split at stepped
      case isTrue accepted =>
        cases stepped
        refine ⟨?_, ?_, by simp, by simp⟩
        · intro want gen setting
          change state.work = .setting want gen at setting
          simp only [State.RespectsUser, accepted, phase, setting] at respects
          exact respects
        · intro current userSet
          cases userSet
          exact ⟨rfl, rfl, RangePath.settle_settle _ _⟩
      case isFalse =>
        cases stepped
        exact setStore_followsUser follows (by simp [State.HasSet, State.setStore])
  | clearingSeen | readingGen =>
      simp only [State.stepStore, phase] at stepped
      cases stepped
      refine frame_followsUser (setStore_followsUser follows ?_) rfl rfl (fun _ _ => id) rfl rfl
        rfl id
      simp [State.HasSet, phase]
  | writingGen gen =>
      simp only [State.stepStore, phase] at stepped
      cases stepped
      have moved : (state.setStore writer .idle).FollowsUser :=
        setStore_followsUser follows (by simp [State.HasSet, State.setStore])
      exact ⟨moved.restoring, moved.standing, moved.written,
        fun _ => follows.written writer (by simp [State.HasSet, phase])⟩

theorem step_followsUser {state next : State} {event : Event} (follows : state.FollowsUser)
    (respects : state.RespectsUser event) (stepped : state.step event = some next) :
    next.FollowsUser := by
  cases event with
  | push deg => exact beginPush_followsUser follows stepped
  | pushStep => exact stepPush_followsUser follows stepped
  | workStep accepted => exact stepWork_followsUser follows respects stepped
  | store writer request =>
      simp only [State.step, State.beginStore] at stepped
      split at stepped <;> cases stepped
      exact setStore_followsUser follows (by simp [State.HasSet, State.setStore])
  | storeStep writer accepted => exact stepStore_followsUser follows respects stepped
  | setRangeRestore enabled =>
      cases stepped
      exact frame_followsUser follows rfl rfl (fun _ _ => id) rfl rfl rfl id

/-- In every run that stays clear of the two windows, a user's completed write is not overridden
by a restore. -/
theorem userRange_stands {state : State}
    (reachable : restoreSystem.ReachableUnder State.RespectsUser state) :
    state.UserRangeStands := by
  have follows : state.FollowsUser := by
    refine reachable.invariant ?_ fun current event next follows respects stepped =>
      step_followsUser follows respects stepped
    rintro start ⟨path, range, rangeRestore, rfl⟩
    exact start_followsUser path range rangeRestore
  intro _ _ completed
  rcases Option.ne_none_iff_exists'.mp (follows.completed completed) with ⟨range, userSet⟩
  exact ⟨range, userSet, (follows.standing range userSet).1⟩

/-- A push, its restore to 540, and then a user write of 900, one after the other. -/
theorem userRange_stands_after_restore : ∃ state, state.lastSet = some 900 ∧
    state.UserRangeStands ∧ restoreSystem.ReachableUnder State.RespectsUser state := by
  have reached : ∃ state, restoreSystem.run (State.start .native 540 true)
      (.push 90 :: (List.replicate 6 Event.pushStep ++ List.replicate 8 (Event.workStep true) ++
        Event.store 0 900 :: List.replicate 4 (Event.storeStep 0 true))) = some state ∧
      state.lastSet = some 900 := ⟨_, rfl, rfl⟩
  rcases reached with ⟨state, executed, lastSet⟩
  have reachable : restoreSystem.ReachableUnder State.RespectsUser state := by
    refine System.ReachableUnder.run (.of_initial ⟨.native, 540, true, rfl⟩) executed ?_
    repeat first
      | exact trivial
      | refine And.intro trivial ?_
      | refine And.intro (fun _ => rfl) ?_
  exact ⟨state, lastSet, userRange_stands reachable, reachable⟩

/-- The run passes its checks, a user writes 900 degrees to completion, and the run SETs its stale
540 degrees over it. -/
theorem userRange_overridden : ∃ state, restoreSystem.Reachable state ∧
    ¬state.UserRangeStands := by
  refine ⟨_, System.Reachable.of_run (State.start .native 540 true)
    (.push 90 :: (List.replicate 6 Event.pushStep ++ List.replicate 5 (Event.workStep true) ++
      Event.store 0 900 :: (List.replicate 4 (Event.storeStep 0 true) ++
        List.replicate 2 (Event.workStep true))))
    ⟨_, _, _, rfl⟩ rfl, ?_⟩
  intro stands
  rcases stands ⟨rfl, rfl⟩ (fun writer => by cases writer <;> rfl) rfl with
    ⟨range, userSet, lastSet⟩
  cases userSet
  cases lastSet

end TrueForce.Range
