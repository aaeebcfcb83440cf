import TrueForce.Range.PushRestore

/-!
# The range poll and the user's own range

`hidpp_dd_ff_range_readback` and `hidpp_dd_ff_range_maybe_restore`, the two halves
of one run of the poll work, beside any number of `wheel_range_store` writers and
changes of the range on the wheel itself.  Every access to the wheel, to the cache
`range` and to `restore_want` is a step of its own.  A run that leaves its checks
early stays out of them; the log messages and the counter behind them are left out.

A run reads the wheel, the cache and the owed range at different times.  A user's
write that completes in between leaves it with what it has read, so the range that
the run is about to record, or the one it is about to SET, has to be looked at when
the write completes.
-/

namespace TrueForce.Range.Poll

open TrueForce.Transition

inductive StorePhase where
  | idle
  | setting (range : ℕ)
  | caching (range : ℕ)
  | clearingWant (range : ℕ)
  deriving DecidableEq, Repr

inductive PollPhase where
  | idle
  | reading
  | comparing (hwRange : ℕ)
  | caching (hwRange cached : ℕ)
  | owing (hwRange cached : ℕ)
  | checkingWant
  | checkingEnabled (want : ℕ)
  | checkingRange (want : ℕ)
  | dropping
  | checkingMode (want : ℕ)
  | measuring (want : ℕ)
  | recheckingWant (want : ℕ)
  | recheckingRange (want : ℕ)
  | setting (want : ℕ)
  | cachingRestored (range : ℕ)
  | clearingWant
  deriving DecidableEq, Repr

structure State where
  path : RangePath
  /-- The range on the wheel itself. -/
  wheel : ℕ
  range : ℕ
  restoreWant : ℕ
  rangeRestore : Bool
  modeKnown : Bool
  currentMode : ℕ
  poll : PollPhase
  store : ℕ → StorePhase
  /-- The range of the last completed user write, while neither a user nor anything outside the
  driver has touched the range since. -/
  standing : Option ℕ

inductive Event where
  | store (writer : ℕ) (request : ℤ)
  | storeStep (writer : ℕ) (accepted : Bool)
  /-- The next access of the poll work; `succeeds` is the answer of the wheel, or the stillness of
  the rim. -/
  | pollStep (succeeds : Bool)
  /-- The range changes on the wheel without the driver. -/
  | external (range : ℕ)
  /-- The wheel's own announcement of a changed range reaches the cache. -/
  | broadcast (range : ℕ)
  | setRangeRestore (enabled : Bool)
  | setMode (known : Bool) (mode : ℕ)
  deriving DecidableEq, Repr

namespace State

def setStore (state : State) (writer : ℕ) (phase : StorePhase) : State :=
  { state with store := Function.update state.store writer phase }

def beginStore (state : State) (writer : ℕ) (request : ℤ) : Option State :=
  match state.store writer with
  | .idle =>
      some { state.setStore writer (.setting (requestedRange request)) with standing := none }
  | _ => none

/-- The next access of a writer; the range is the user's once `restore_want` is cleared. -/
def stepStore (state : State) (writer : ℕ) (accepted : Bool) : Option State :=
  match state.store writer with
  | .idle => none
  | .setting range =>
      if accepted then
        some { state.setStore writer (.caching (state.path.settle range)) with
          wheel := state.path.settle range
          standing := none }
      else some { state.setStore writer .idle with standing := none }
  | .caching range =>
      some { state.setStore writer (.clearingWant range) with range := range, standing := none }
  | .clearingWant range =>
      some { state.setStore writer .idle with restoreWant := 0, standing := some range }

def setPoll (state : State) (phase : PollPhase) : State := { state with poll := phase }

/-- The owed range behind a readback that has found `hwRange` over `cached`. -/
def owed (state : State) (hwRange cached : ℕ) : ℕ :=
  if hwRange = 90 ∧ cached ≠ 90 then cached else state.restoreWant

/-- The next access of the poll work, in `hidpp_dd_ff_range_readback` up to `owing` and in
`hidpp_dd_ff_range_maybe_restore` from there on.  The compatibility path has no range to read. -/
def stepPoll (state : State) (succeeds : Bool) : State :=
  match state.poll with
  | .idle => state.setPoll .reading
  | .reading =>
      if succeeds ∧ state.path ≠ .compat ∧ 90 ≤ state.wheel ∧ state.wheel ≤ 2700 then
        state.setPoll (.comparing state.wheel)
      else state.setPoll .checkingWant
  | .comparing hwRange =>
      if hwRange = state.range then state.setPoll .checkingWant
      else state.setPoll (.caching hwRange state.range)
  | .caching hwRange cached => { state with range := hwRange, poll := .owing hwRange cached }
  | .owing hwRange cached =>
      { state with restoreWant := state.owed hwRange cached, poll := .checkingWant }
  | .checkingWant =>
      if state.restoreWant = 0 then state.setPoll .idle
      else state.setPoll (.checkingEnabled state.restoreWant)
  | .checkingEnabled want =>
      if state.rangeRestore then state.setPoll (.checkingRange want) else state.setPoll .idle
  | .checkingRange want =>
      if state.range = 90 then state.setPoll (.checkingMode want) else state.setPoll .dropping
  | .dropping => { state with restoreWant := 0, poll := .idle }
  | .checkingMode want =>
      if state.modeKnown ∧ state.currentMode = 0 then state.setPoll (.measuring want)
      else state.setPoll .idle
  | .measuring want =>
      if succeeds then state.setPoll (.recheckingWant want) else state.setPoll .idle
  | .recheckingWant want =>
      if state.restoreWant = want then state.setPoll (.recheckingRange want)
      else state.setPoll .idle
  | .recheckingRange want =>
      if state.range = 90 then state.setPoll (.setting want) else state.setPoll .idle
  | .setting want =>
      if succeeds then
        { state with
          wheel := state.path.settle want, poll := .cachingRestored (state.path.settle want) }
      else state.setPoll .idle
  | .cachingRestored range => { state with range := range, poll := .clearingWant }
  | .clearingWant => { state with restoreWant := 0, poll := .idle }

def step (state : State) : Event → Option State
  | .store writer request => state.beginStore writer request
  | .storeStep writer accepted => state.stepStore writer accepted
  | .pollStep succeeds => some (state.stepPoll succeeds)
  | .external range => some { state with wheel := range, standing := none }
  | .broadcast range =>
      if 0 < range ∧ range ≤ 2700 then some { state with range := range, standing := none }
      else some state
  | .setRangeRestore enabled => some { state with rangeRestore := enabled }
  | .setMode known mode => some { state with modeKnown := known, currentMode := mode }

/-- The device as it is set up, with nothing owed and nothing under way. -/
def start (path : RangePath) (wheel range : ℕ) : State where
  path := path
  wheel := wheel
  range := range
  restoreWant := 0
  rangeRestore := true
  modeKnown := true
  currentMode := 0
  poll := .idle
  store := fun _ => .idle
  standing := none

/-- A restore that is about to SET while a user's range stands SETs that range. -/
def KeepsUser (state : State) : Prop :=
  ∀ want range, state.poll = .setting want → state.standing = some range →
    state.path.settle want = range

/-- What the run under way leaves in the cache and in `restore_want` if nothing interferes. -/
def recorded (state : State) : State :=
  match state.poll with
  | .comparing hwRange =>
      if hwRange = state.range then state
      else { state with range := hwRange, restoreWant := state.owed hwRange state.range }
  | .caching hwRange cached =>
      { state with range := hwRange, restoreWant := state.owed hwRange cached }
  | .owing hwRange cached => { state with restoreWant := state.owed hwRange cached }
  | .cachingRestored range => { state with range := range, restoreWant := 0 }
  | .dropping | .clearingWant => { state with restoreWant := 0 }
  | _ => state

/-- A run that starts here restores no other range: none is owed to a cached 90, and none is cached
for a wheel at 90. -/
def OwesOnly (state : State) (range : ℕ) : Prop :=
  (state.restoreWant ≠ 0 → state.range = 90 → state.path.settle state.restoreWant = range) ∧
    (state.path ≠ .compat → state.wheel = 90 → state.range ≠ 90 →
      state.path.settle state.range = range)

/-- The run under way has passed its checks for no other range. -/
def PassedOnly (state : State) (range : ℕ) : Prop :=
  match state.poll with
  | .recheckingRange want => state.range = 90 → state.path.settle want = range
  | .setting want => state.path.settle want = range
  | _ => True

def Harmless (state : State) (range : ℕ) : Prop :=
  state.recorded.OwesOnly range ∧ state.PassedOnly range

/-- A user's write completes where neither the run under way nor the next one owes the wheel
another range. -/
def CompletesHarmless (state : State) : Event → Prop
  | .storeStep writer _ =>
      match state.store writer with
      | .clearingWant range => { state with restoreWant := 0 }.Harmless range
      | _ => True
  | _ => True

instance (state : State) (range : ℕ) : Decidable (state.Harmless range) := by
  simp only [Harmless, OwesOnly, PassedOnly]
  split <;> infer_instance

instance (state : State) (event : Event) : Decidable (state.CompletesHarmless event) := by
  simp only [CompletesHarmless]
  repeat' split
  all_goals infer_instance

end State

def pollSystem : System State Event where
  initial state := ∃ path wheel range, state = State.start path wheel range
  step := State.step

namespace State

variable {state next : State} {range : ℕ}

theorem recorded_comparing (state : State) (hwRange : ℕ) :
    (state.setPoll (.comparing hwRange)).recorded =
      if hwRange = state.range then state.setPoll (.comparing hwRange)
      else { state with
        range := hwRange
        restoreWant := state.owed hwRange state.range
        poll := .comparing hwRange } := rfl

/-- Fields besides the range and the run do not matter. -/
theorem Harmless.of_frame (harmless : state.Harmless range) (path : next.path = state.path)
    (wheel : next.wheel = state.wheel) (sameRange : next.range = state.range)
    (restoreWant : next.restoreWant = state.restoreWant) (poll : next.poll = state.poll) :
    next.Harmless range := by
  rcases harmless with ⟨owes, passed⟩
  constructor
  · simp only [recorded, poll, sameRange]
    simp only [recorded] at owes
    cases phase : state.poll with
    | comparing hwRange =>
        simp only [phase] at owes
        by_cases same : hwRange = state.range
        · rw [if_pos same] at owes
          simpa [OwesOnly, same, path, wheel, sameRange, restoreWant] using owes
        · rw [if_neg same] at owes
          simpa [OwesOnly, owed, same, path, wheel, restoreWant] using owes
    | _ =>
        simp only [phase] at owes
        simpa [OwesOnly, owed, path, wheel, sameRange, restoreWant] using owes
  · simp only [PassedOnly, poll, sameRange, path]
    exact passed

/-- A run past its first check holds a range that was owed. -/
def HoldsWant (state : State) : Prop :=
  match state.poll with
  | .checkingEnabled want | .checkingRange want | .checkingMode want | .measuring want
  | .recheckingWant want => want ≠ 0
  | _ => True

theorem stepPoll_holdsWant (holds : state.HoldsWant) (succeeds : Bool) :
    (state.stepPoll succeeds).HoldsWant := by
  cases phase : state.poll with
  | checkingWant =>
      simp only [stepPoll, phase]
      split
      · trivial
      · rename_i owed
        exact owed
  | checkingEnabled want | checkingRange want | checkingMode want | measuring want =>
      simp only [HoldsWant, phase] at holds
      simp only [stepPoll, phase]
      split
      · exact holds
      · trivial
  | idle | caching | owing | dropping | cachingRestored | clearingWant =>
      simp only [stepPoll, phase]
      trivial
  | reading | comparing | recheckingWant | recheckingRange | setting =>
      simp only [stepPoll, phase]
      split <;> trivial

/-- What a run records of the wheel owes nothing that was not owed. -/
theorem owesOnly_record (owes : state.OwesOnly range) (readable : state.path ≠ .compat)
    (changed : state.wheel ≠ state.range) :
    OwesOnly { state with
      range := state.wheel, restoreWant := state.owed state.wheel state.range } range := by
  constructor
  · intro _ reset
    change state.wheel = 90 at reset
    have moved : state.range ≠ 90 := fun same => changed (reset.trans same.symm)
    simp only [owed, reset, moved, ne_eq, not_false_eq_true, and_self, ↓reduceIte]
    exact owes.2 readable reset moved
  · intro _ reset moved
    exact absurd reset moved

theorem owesOnly_clear (owes : state.OwesOnly range) :
    OwesOnly { state with restoreWant := 0 } range :=
  ⟨fun owed => absurd rfl owed, owes.2⟩

/-- The run under way does what it was going to do. -/
theorem stepPoll_harmless (holds : state.HoldsWant) (harmless : state.Harmless range)
    (succeeds : Bool) : (state.stepPoll succeeds).Harmless range := by
  rcases harmless with ⟨owes, passed⟩
  cases phase : state.poll with
  | reading =>
      simp only [recorded, phase] at owes
      simp only [stepPoll, phase]
      split
      · rename_i read
        refine ⟨?_, trivial⟩
        rw [recorded_comparing]
        by_cases same : state.wheel = state.range
        · rw [if_pos same]
          exact owes
        · rw [if_neg same]
          exact owesOnly_record owes read.2.1 same
      · exact ⟨owes, trivial⟩
  | comparing hwRange =>
      simp only [recorded, phase] at owes
      simp only [stepPoll, phase]
      split
      · rename_i same
        rw [if_pos same] at owes
        exact ⟨owes, trivial⟩
      · rename_i changed
        rw [if_neg changed] at owes
        exact ⟨owes, trivial⟩
  | checkingRange want =>
      simp only [recorded, phase] at owes
      simp only [stepPoll, phase]
      split
      · exact ⟨owes, trivial⟩
      · exact ⟨owesOnly_clear owes, trivial⟩
  | recheckingWant want =>
      simp only [recorded, phase] at owes
      simp only [HoldsWant, phase] at holds
      simp only [stepPoll, phase]
      split
      · rename_i current
        refine ⟨owes, ?_⟩
        intro reset
        have restored := owes.1
        rw [current] at restored
        exact restored holds reset
      · exact ⟨owes, trivial⟩
  | recheckingRange want =>
      simp only [recorded, phase] at owes
      simp only [PassedOnly, phase] at passed
      simp only [stepPoll, phase]
      split
      · rename_i reset
        exact ⟨owes, passed reset⟩
      · exact ⟨owes, trivial⟩
  | setting want =>
      simp only [recorded, phase] at owes
      simp only [PassedOnly, phase] at passed
      simp only [stepPoll, phase]
      split
      · refine ⟨⟨fun owed => absurd rfl owed, fun _ reset moved => ?_⟩, trivial⟩
        exact absurd reset moved
      · exact ⟨owes, trivial⟩
  | checkingWant | checkingEnabled want | checkingMode want | measuring want =>
      simp only [recorded, phase] at owes
      simp only [stepPoll, phase]
      split <;> exact ⟨owes, trivial⟩
  | idle | caching | owing | dropping | cachingRestored | clearingWant =>
      simp only [recorded, phase] at owes
      simp only [stepPoll, phase]
      exact ⟨owes, trivial⟩

/-- What the guarded runs keep: nothing under way owes the wheel another range than the one that
stands. -/
structure StandsHarmless (state : State) : Prop where
  holdsWant : state.HoldsWant
  harmless : ∀ range, state.standing = some range → state.Harmless range

theorem stepStore_standsHarmless {writer : ℕ} {accepted : Bool} (stands : state.StandsHarmless)
    (completes : state.CompletesHarmless (.storeStep writer accepted))
    (stepped : state.stepStore writer accepted = some next) : next.StandsHarmless := by
  cases phase : state.store writer with
  | idle => simp [stepStore, phase] at stepped
  | setting range =>
      simp only [stepStore, phase] at stepped
      split at stepped <;> cases stepped <;> exact ⟨stands.holdsWant, by simp⟩
  | caching range =>
      simp only [stepStore, phase] at stepped
      cases stepped
      exact ⟨stands.holdsWant, by simp⟩
  | clearingWant range =>
      simp only [stepStore, phase] at stepped
      simp only [CompletesHarmless, phase] at completes
      cases stepped
      refine ⟨stands.holdsWant, ?_⟩
      intro standing same
      cases same
      exact completes.of_frame rfl rfl rfl rfl rfl

theorem step_standsHarmless {event : Event} (stands : state.StandsHarmless)
    (completes : state.CompletesHarmless event) (stepped : state.step event = some next) :
    next.StandsHarmless := by
  cases event with
  | store writer request =>
      simp only [step, beginStore] at stepped
      split at stepped <;> cases stepped
      exact ⟨stands.holdsWant, by simp⟩
  | storeStep writer accepted => exact stepStore_standsHarmless stands completes stepped
  | pollStep succeeds =>
      cases stepped
      have kept : (state.stepPoll succeeds).standing = state.standing := by
        simp only [stepPoll]
        split <;> first | rfl | (split <;> rfl)
      refine ⟨stepPoll_holdsWant stands.holdsWant succeeds, ?_⟩
      intro range standing
      rw [kept] at standing
      exact stepPoll_harmless stands.holdsWant (stands.harmless range standing) succeeds
  | external range =>
      cases stepped
      exact ⟨stands.holdsWant, by simp⟩
  | broadcast range =>
      simp only [step] at stepped
      split at stepped <;> cases stepped
      · exact ⟨stands.holdsWant, by simp⟩
      · exact stands
  | setRangeRestore enabled | setMode known mode =>
      cases stepped
      refine ⟨stands.holdsWant, ?_⟩
      intro range standing
      exact (stands.harmless range standing).of_frame rfl rfl rfl rfl rfl

end State

/-- In every run whose user writes complete where nothing else is owed, no restore undoes the
user. -/
theorem restore_keeps_user {state : State}
    (reachable : pollSystem.ReachableUnder State.CompletesHarmless state) : state.KeepsUser := by
  have stands : state.StandsHarmless := by
    apply reachable.invariant
    · rintro start ⟨path, wheel, range, rfl⟩
      exact ⟨trivial, by simp [State.start]⟩
    · intro current event next stands completes stepped
      exact State.step_standsHarmless stands completes stepped
  intro want range setting standing
  have passed := (stands.harmless range standing).2
  simp only [State.PassedOnly, setting] at passed
  exact passed

/-- An external reset to 90 comes between a user's SET of 500 and the end of the write: the restore
puts the user's range back. -/
theorem restore_keeps_user_reset : ∃ state : State, state.KeepsUser ∧
    state.poll = .setting 500 ∧ state.standing = some 500 := by
  have reached := System.ReachableUnder.of_check pollSystem State.CompletesHarmless
    (State.start .native 900 900)
    ([Event.store 0 500, .storeStep 0 true, .external 90, .storeStep 0 true, .storeStep 0 true] ++
      List.replicate 12 (Event.pollStep true))
    (fun state => decide (state.poll = .setting 500) && state.standing == some 500)
    ⟨.native, 900, 900, rfl⟩ (by decide) (by decide)
  rcases reached with ⟨state, reachable, checked⟩
  simp only [Bool.and_eq_true, decide_eq_true_eq, beq_iff_eq] at checked
  exact ⟨state, restore_keeps_user reachable, checked⟩

/-- A user sets 90 degrees while a run stands between its look at the wheel and its record: the run
owes the old 900 degrees and SETs them over the user's 90. -/
theorem restore_undoes_user : ∃ state next, pollSystem.Reachable state ∧ ¬state.KeepsUser ∧
    state.step (.pollStep true) = some next ∧ state.standing = some 90 ∧ next.wheel = 900 := by
  have reached : (pollSystem.run (State.start .native 900 900)
      ([Event.store 0 90, .storeStep 0 true, .pollStep true, .pollStep true, .pollStep true,
        .storeStep 0 true, .storeStep 0 true] ++ List.replicate 9 (Event.pollStep true))).any
      (fun state => decide (state.poll = .setting 900) && decide (state.path = .native) &&
        state.standing == some 90) = true := by decide
  rcases (Option.any_eq_true _ _).mp reached with ⟨state, executed, checked⟩
  simp only [Bool.and_eq_true, decide_eq_true_eq, beq_iff_eq] at checked
  rcases checked with ⟨⟨setting, native⟩, standing⟩
  refine ⟨state, _, System.Reachable.of_run _ _ ⟨.native, 900, 900, rfl⟩ executed, ?_, rfl,
    standing, ?_⟩
  · intro keeps
    have undone := keeps 900 90 setting standing
    simp [native, RangePath.settle] at undone
  · simp [State.stepPoll, setting, native, RangePath.settle]

end TrueForce.Range.Poll
