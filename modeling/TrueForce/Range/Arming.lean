import TrueForce.Range.PushRestore

/-!
# The arming flag and the run that clears it

`tm_push_seen` may stay set only while somebody is still going to clear it: a
push that has set it and is about to queue the work, a queued run, a run that
has not yet taken its snapshot of the generation, or a run whose snapshot is
still current.  A push moves the generation only while it is itself about to
queue a run.  A user write moves it without queueing anything, and when it does
so after a run took its snapshot of a newer arm, nobody is left to clear the
flag.  The guard excludes exactly that generation write.
-/

namespace TrueForce.Range

open TrueForce.Transition

/-- The push has set the flag and has not queued the work yet. -/
def PushPhase.Arming : PushPhase → Prop
  | .recordingDeg _ | .readingGen | .writingGen _ | .scheduling => True
  | .idle | .readingRange _ | .settingSeen _ => False

/-- The generation a run compares with, from its snapshot to its last comparison. -/
def WorkPhase.snapshot : WorkPhase → Option UInt32
  | .sleeping _ gen | .checkingGen _ gen | .setting _ gen | .checkingLast gen => some gen
  | .idle | .readingWant | .readingGen _ | .clearingSeen => none

/-- The run ends by clearing the flag as long as the generation stays at `current`. -/
def WorkPhase.WillClear (current : UInt32) : WorkPhase → Prop
  | .idle => False
  | .readingWant | .readingGen _ | .clearingSeen => True
  | .sleeping _ gen | .checkingGen _ gen | .setting _ gen | .checkingLast gen => gen = current

namespace State

/-- Somebody is still going to clear the flag. -/
def Owned (state : State) : Prop :=
  state.push.Arming ∨ state.pending = true ∨ state.work.WillClear state.tmRestoreGen

/-- The flag is set only while it is owned. -/
def ArmingOwned (state : State) : Prop := state.tmPushSeen = true → state.Owned

/-- A generation write by a user does not move the generation away from the
snapshot of the only run that is going to clear the flag. -/
def KeepsOwner (state : State) : Event → Prop
  | .storeStep writer _ => ∀ gen, state.store writer = .writingGen gen →
      state.tmPushSeen = true → ¬state.push.Arming → state.pending = false →
      state.work.snapshot = some state.tmRestoreGen → gen + 1 = state.tmRestoreGen
  | _ => True

end State

theorem WorkPhase.willClear_cases {work : WorkPhase} {current : UInt32}
    (willClear : work.WillClear current) :
    work.snapshot = some current ∨ ∀ gen, work.WillClear gen := by
  cases work with
  | idle => exact willClear.elim
  | readingWant | readingGen | clearingSeen => exact Or.inr fun _ => trivial
  | sleeping _ gen | checkingGen _ gen | setting _ gen | checkingLast gen =>
      exact Or.inl (congrArg some willClear)

/-- A push leaves the flag as it is, sets it while arming, or hands it to a queued run. -/
theorem stepPush_armingOwned {state next : State} (owned : state.ArmingOwned)
    (stepped : state.stepPush = some next) : next.ArmingOwned := by
  cases phase : state.push with
  | idle => simp [State.stepPush, phase] at stepped
  | readingRange deg =>
      have rest (seen : state.tmPushSeen = true) :
          state.pending = true ∨ state.work.WillClear state.tmRestoreGen := by
        simpa [State.Owned, phase, PushPhase.Arming] using owned seen
      simp only [State.stepPush, phase] at stepped
      split at stepped <;> cases stepped <;> exact fun seen => Or.inr (rest seen)
  | scheduling =>
      simp only [State.stepPush, phase] at stepped
      cases stepped
      exact fun _ => Or.inr (Or.inl rfl)
  | _ =>
      simp only [State.stepPush, phase] at stepped
      cases stepped
      exact fun _ => Or.inl trivial

theorem beginPush_armingOwned {state next : State} {deg : ℕ} (owned : state.ArmingOwned)
    (stepped : state.beginPush deg = some next) : next.ArmingOwned := by
  cases phase : state.push with
  | idle =>
      have rest (seen : state.tmPushSeen = true) :
          state.pending = true ∨ state.work.WillClear state.tmRestoreGen := by
        simpa [State.Owned, phase, PushPhase.Arming] using owned seen
      simp only [State.beginPush, phase] at stepped
      split at stepped
      · split at stepped <;> cases stepped <;> exact fun seen => Or.inr (rest seen)
      · cases stepped
        exact owned
  | _ => simp [State.beginPush, phase] at stepped

/-- A run keeps the flag owned: the comparisons that fail prove that the run did not own it. -/
theorem stepWork_armingOwned {state next : State} {accepted : Bool} (owned : state.ArmingOwned)
    (stepped : state.stepWork accepted = some next) : next.ArmingOwned := by
  have handOver (work : WorkPhase) (same : state.work.WillClear state.tmRestoreGen →
      work.WillClear state.tmRestoreGen) (seen : state.tmPushSeen = true) :
      state.push.Arming ∨ state.pending = true ∨ work.WillClear state.tmRestoreGen := by
    rcases owned seen with arming | queued | willClear
    · exact Or.inl arming
    · exact Or.inr (Or.inl queued)
    · exact Or.inr (Or.inr (same willClear))
  cases phase : state.work with
  | idle =>
      simp only [State.stepWork, phase] at stepped
      split at stepped <;> cases stepped
      exact fun _ => Or.inr (Or.inr trivial)
  | readingWant | readingGen =>
      simp only [State.stepWork, phase] at stepped
      cases stepped
      exact handOver _ fun _ => by simp [WorkPhase.WillClear]
  | clearingSeen =>
      simp only [State.stepWork, phase] at stepped
      cases stepped
      intro seen
      simp at seen
  | sleeping want gen | checkingGen want gen | setting want gen | checkingLast gen =>
      simp only [State.stepWork, phase] at stepped
      split at stepped <;> cases stepped <;> refine handOver _ fun willClear => ?_ <;>
        simp_all [WorkPhase.WillClear]

/-- A user write clears the flag, and by the guard does not disown it when it moves the
generation. -/
theorem stepStore_armingOwned {state next : State} {writer : ℕ} {accepted : Bool}
    (owned : state.ArmingOwned) (keeps : state.KeepsOwner (.storeStep writer accepted))
    (stepped : state.stepStore writer accepted = some next) : next.ArmingOwned := by
  cases phase : state.store writer with
  | idle => simp [State.stepStore, phase] at stepped
  | setting range =>
      simp only [State.stepStore, phase] at stepped
      split at stepped <;> cases stepped <;> exact owned
  | clearingSeen =>
      simp only [State.stepStore, phase] at stepped
      cases stepped
      intro seen
      simp at seen
  | readingGen =>
      simp only [State.stepStore, phase] at stepped
      cases stepped
      exact owned
  | writingGen gen =>
      simp only [State.stepStore, phase] at stepped
      cases stepped
      intro seen
      change state.tmPushSeen = true at seen
      change state.push.Arming ∨ state.pending = true ∨ state.work.WillClear (gen + 1)
      by_cases arming : state.push.Arming
      · exact Or.inl arming
      by_cases queued : state.pending = true
      · exact Or.inr (Or.inl queued)
      have willClear : state.work.WillClear state.tmRestoreGen := by
        rcases owned seen with isArming | isQueued | willClear
        · exact absurd isArming arming
        · exact absurd isQueued queued
        · exact willClear
      rcases WorkPhase.willClear_cases willClear with snapshot | always
      · have unmoved : gen + 1 = state.tmRestoreGen :=
          keeps gen phase seen arming (by simpa using queued) snapshot
        rw [unmoved]
        exact Or.inr (Or.inr willClear)
      · exact Or.inr (Or.inr (always _))

theorem step_armingOwned {state next : State} {event : Event} (owned : state.ArmingOwned)
    (keeps : state.KeepsOwner event) (stepped : state.step event = some next) :
    next.ArmingOwned := by
  cases event with
  | push deg => exact beginPush_armingOwned owned stepped
  | pushStep => exact stepPush_armingOwned owned stepped
  | workStep accepted => exact stepWork_armingOwned owned stepped
  | store writer request =>
      simp only [State.step, State.beginStore] at stepped
      split at stepped <;> cases stepped
      exact owned
  | storeStep writer accepted => exact stepStore_armingOwned owned keeps stepped
  | setRangeRestore enabled => cases stepped; exact owned

/-- With the flag clear, a blind push over an established other range records that range and
queues the work. -/
theorem blindPush_arms {state : State} (unseen : state.tmPushSeen = false)
    (idle : state.push = .idle) (restoring : state.rangeRestore = true)
    (established : state.range ≠ 0) (differs : state.range ≠ sdkBlindRangeDeg) :
    ∃ armed, restoreSystem.run state
        (.push sdkBlindRangeDeg :: List.replicate 6 .pushStep) = some armed ∧
      armed.pending = true ∧ armed.tmPushSeen = true ∧ armed.tmRestoreDeg = state.range := by
  simp [System.run, restoreSystem, State.step, State.beginPush, State.stepPush, idle, unseen,
    restoring, established, differs, List.replicate, State.scheduleWork]

/-- In every run in which no user write disowns the flag, the flag is clear whenever the work is
neither queued nor running and no push is between its steps, whatever the user's writes are at,
and the next blind push arms. -/
theorem arming_never_sticks {state : State}
    (reachable : restoreSystem.ReachableUnder State.KeepsOwner state)
    (workQuiet : state.WorkQuiet) (pushQuiet : state.push = .idle) :
    state.tmPushSeen = false ∧
      (state.rangeRestore = true → state.range ≠ 0 → state.range ≠ sdkBlindRangeDeg →
        ∃ armed, restoreSystem.run state
            (.push sdkBlindRangeDeg :: List.replicate 6 .pushStep) = some armed ∧
          armed.pending = true ∧ armed.tmPushSeen = true ∧
          armed.tmRestoreDeg = state.range) := by
  have owned : state.ArmingOwned := by
    refine reachable.invariant ?_ fun current event next owned keeps stepped =>
      step_armingOwned owned keeps stepped
    rintro start ⟨path, range, rangeRestore, rfl⟩ seen
    simp [State.start] at seen
  have unseen : state.tmPushSeen = false := by
    by_contra seen
    rcases workQuiet with ⟨notQueued, workIdle⟩
    have owner := owned (by simpa using seen)
    simp [State.Owned, pushQuiet, notQueued, workIdle, PushPhase.Arming,
      WorkPhase.WillClear] at owner
  exact ⟨unseen, blindPush_arms unseen pushQuiet⟩

/-- A blind push and its run, back to back, leave the flag clear. -/
theorem arming_never_sticks_after_restore : ∃ state, state.tmPushSeen = false ∧
    state.lastSet = some 540 ∧ restoreSystem.ReachableUnder State.KeepsOwner state := by
  have reached : ∃ state, restoreSystem.run (State.start .native 540 true)
      (.push 90 :: (List.replicate 6 Event.pushStep ++ List.replicate 8 (Event.workStep true))) =
        some state ∧ state.WorkQuiet ∧ state.push = .idle ∧ state.lastSet = some 540 :=
    ⟨_, rfl, ⟨rfl, rfl⟩, rfl, rfl⟩
  rcases reached with ⟨state, executed, workQuiet, pushQuiet, restored⟩
  have reachable : restoreSystem.ReachableUnder State.KeepsOwner state := by
    refine System.ReachableUnder.run (.of_initial ⟨.native, 540, true, rfl⟩) executed ?_
    repeat first | exact trivial | refine And.intro trivial ?_
  exact ⟨state, (arming_never_sticks reachable workQuiet pushQuiet).1, restored, reachable⟩

/-- A user write clears the flag; a blind push arms again and its run takes its snapshot before
the write gets to bump the generation: the flag stays set with nobody left to clear it. -/
theorem arming_sticks : ∃ state, restoreSystem.Reachable state ∧ state.WorkQuiet ∧
    state.push = .idle ∧ state.StoresQuiet ∧ state.tmPushSeen = true := by
  refine ⟨_, System.Reachable.of_run (State.start .native 540 true)
    [.store 0 900, .storeStep 0 true, .storeStep 0 true, .push 90, .pushStep, .pushStep,
      .pushStep, .pushStep, .pushStep, .pushStep, .workStep true, .workStep true, .workStep true,
      .storeStep 0 true, .storeStep 0 true, .workStep true, .workStep true, .workStep true]
    ⟨_, _, _, rfl⟩ rfl, ⟨rfl, rfl⟩, rfl, ?_, rfl⟩
  intro writer
  cases writer <;> rfl

end TrueForce.Range
