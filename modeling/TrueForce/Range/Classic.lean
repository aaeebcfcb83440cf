import TrueForce.Foundation.CInt
import TrueForce.Foundation.Transition

/-!
# The range poll of the classic wheels

`hidpp_ff_range_poll_work` reads the range the wheel enforces every two seconds and queues
a `SET_APERTURE` where another program has moved it, three times at most between two polls
that find the wheel back in agreement.  The queue is drained by a worker that sends one
command at a time; the user stores a range through the same queue, and `range_restore`
forgives the strikes.  One run of the poll is one step: it reads the flags, the wheel and
the rim as it finds them.  The log messages are left out.
-/

namespace TrueForce.Range.Classic

open TrueForce.CInt TrueForce.Transition

def downloadEffect : ℕ := 0x21

def setEffectState : ℕ := 0x31

def setAperture : ℕ := 0x61

def setGlobalGains : ℕ := 0x81

def rangeMaxAttempts : ℕ := 3

def rangeReadFailsMax : ℕ := 10

/-- `hidpp_ff_work_data` -/
structure FfWork where
  effectId : ℤ
  command : ℕ
  params : List UInt8
  deriving DecidableEq, Repr

def FfWork.aperture (range : UInt16) : FfWork where
  effectId := -1
  command := setAperture
  params := [(range >>> 8).toUInt8, range.toUInt8]

/-- The range a `SET_APERTURE` carries. -/
def FfWork.range (work : FfWork) : UInt16 :=
  (work.params.getD 0 0).toUInt16 <<< 8 + (work.params.getD 1 0).toUInt16

/-- A newer command of this kind replaces an older one at the end of the queue. -/
def coalescible (command : ℕ) : Bool :=
  command == downloadEffect || command == setEffectState || command == setGlobalGains ||
    command == setAperture

/-- The steering axis as the input device reports it. -/
structure AbsAxis where
  min : ℤ
  max : ℤ
  value : ℤ
  deriving DecidableEq, Repr

/-- `hidpp_ff_rim_near_centre`: no axis counts as away from the centre. -/
def rimNearCentre : Option AbsAxis → Bool
  | none => false
  | some axis =>
      let span := axis.max - axis.min
      let centre := axis.min + span / 2
      decide (0 < span) && decide (((axis.value - centre).natAbs : ℤ) ≤ span * 3 / 100)

/-- `hidpp_ff_private_data` -/
structure FfData where
  range : Int16
  pending : List FfWork
  restoreEnabled : Bool
  restoreAttempts : ℕ
  restoreGaveUp : Bool
  restoreProbed : Bool
  restoreReadFails : ℕ
  restoreEverRead : Bool
  restoreUnsupported : Bool
  deriving DecidableEq, Repr

namespace FfData

/-- `hidpp_ff_init` -/
def init (range : Int16) : FfData where
  range := range
  pending := []
  restoreEnabled := true
  restoreAttempts := 0
  restoreGaveUp := false
  restoreProbed := false
  restoreReadFails := 0
  restoreEverRead := false
  restoreUnsupported := false

/-- The range as it goes into a command. -/
def wanted (data : FfData) : UInt16 := data.range.toUInt16

/-- `hidpp_ff_queue_work` -/
def queueWork (data : FfData) (allocated : Bool) (work : FfWork) : FfData :=
  if allocated = false then data
  else
    match data.pending.getLast? with
    | some tail =>
        if coalescible work.command ∧ tail.command = work.command ∧
            tail.effectId = work.effectId then
          { data with pending := data.pending.dropLast ++ [work] }
        else { data with pending := data.pending ++ [work] }
    | none => { data with pending := [work] }

/-- `hidpp_ff_range_store` for a value that parses. -/
def rangeStore (data : FfData) (directDrive allocated : Bool) (range : ℤ) : FfData :=
  data.queueWork allocated
    (.aperture (UInt16.ofInt (clamp range 180 (if directDrive then 1080 else 900))))

/-- `hidpp_ff_range_restore_store` for a value that parses: switching it on forgives. -/
def rangeRestoreStore (data : FfData) (on : Bool) : FfData :=
  if on then
    { data with
      restoreEnabled := true
      restoreAttempts := 0
      restoreGaveUp := false
      restoreProbed := false
      restoreReadFails := 0
      restoreEverRead := false
      restoreUnsupported := false }
  else { data with restoreEnabled := false }

end FfData

/-- Where a run of the poll ends. -/
inductive PollOutcome where
  | skipped
  | unread
  | agreed
  | leftAlone
  | deferred
  | restored
  deriving DecidableEq, Repr

namespace FfData

def pollOutcome (data : FfData) (live : Option UInt16) (axis : Option AbsAxis) : PollOutcome :=
  if data.restoreEnabled = false ∨ data.restoreUnsupported = true ∨ data.range ≤ 0 then .skipped
  else
    match live with
    | none => .unread
    | some live =>
        if live = data.wanted then .agreed
        else if rangeMaxAttempts ≤ data.restoreAttempts then .leftAlone
        else if rimNearCentre axis then .restored
        else .deferred

def countReadFail (fails : ℕ) : ℕ := if fails < rangeReadFailsMax then fails + 1 else fails

/-- The wheel does not answer; one that never has is not asked again after ten times. -/
def unread (data : FfData) : FfData :=
  let fails := countReadFail data.restoreReadFails
  if data.restoreProbed = false then
    { data with restoreReadFails := fails, restoreProbed := true }
  else if fails = rangeReadFailsMax then
    { data with
      restoreReadFails := fails + 1
      restoreUnsupported := data.restoreUnsupported || !data.restoreEverRead }
  else { data with restoreReadFails := fails }

def answered (data : FfData) : FfData :=
  { data with restoreReadFails := 0, restoreEverRead := true, restoreProbed := true }

/-- `hidpp_ff_range_poll_work` -/
def rangePollWork (data : FfData) (live : Option UInt16) (axis : Option AbsAxis)
    (allocated : Bool) : FfData :=
  match data.pollOutcome live axis with
  | .skipped => data
  | .unread => data.unread
  | .agreed => { data.answered with restoreAttempts := 0, restoreGaveUp := false }
  | .leftAlone => { data.answered with restoreGaveUp := true }
  | .deferred => data.answered
  | .restored =>
      { data.answered.queueWork allocated (.aperture data.wanted) with
        restoreAttempts := data.restoreAttempts + 1 }

end FfData

/-- A `SET_APERTURE` of the poll, with what the poll has found. -/
structure Restore where
  enabled : Bool
  live : UInt16
  wanted : UInt16
  axis : Option AbsAxis
  deriving DecidableEq, Repr

def Restore.Justified (restore : Restore) : Prop :=
  restore.enabled = true ∧ restore.live ≠ restore.wanted ∧ rimNearCentre restore.axis = true

structure State where
  data : FfData
  directDrive : Bool
  /-- The range the wheel enforces. -/
  wheel : UInt16
  /-- The command the worker has taken off the queue. -/
  inFlight : Option FfWork
  /-- What the poll has queued so far, newest first. -/
  restores : List Restore
  deriving DecidableEq, Repr

inductive Event where
  /-- A run of the poll; `answers` is whether the wheel answers it. -/
  | poll (answers : Bool) (axis : Option AbsAxis) (allocated : Bool)
  | external (range : UInt16)
  | storeRange (range : ℤ) (allocated : Bool)
  | storeRangeRestore (on : Bool)
  /-- Any other command of the force feedback. -/
  | queue (work : FfWork) (allocated : Bool)
  | take
  /-- The wheel carries out the command in flight. -/
  | reach
  | finish (acknowledged : Bool)
  deriving DecidableEq, Repr

namespace State

/-- What a run of the poll reads. -/
def live (state : State) (answers : Bool) : Option UInt16 :=
  if answers then some state.wheel else none

def poll (state : State) (answers : Bool) (axis : Option AbsAxis) (allocated : Bool) : State :=
  { state with
    data := state.data.rangePollWork (state.live answers) axis allocated
    restores :=
      if state.data.pollOutcome (state.live answers) axis = .restored then
        ⟨state.data.restoreEnabled, state.wheel, state.data.wanted, axis⟩ :: state.restores
      else state.restores }

/-- `hidpp_ff_send_one` behind its answer. -/
def finish (state : State) (work : FfWork) (acknowledged : Bool) : State :=
  { state with
    inFlight := none
    data :=
      if acknowledged ∧ work.command = setAperture then
        { state.data with range := work.range.toInt16 }
      else state.data }

def step (state : State) : Event → Option State
  | .poll answers axis allocated => some (state.poll answers axis allocated)
  | .external range => some { state with wheel := range }
  | .storeRange range allocated =>
      some { state with data := state.data.rangeStore state.directDrive allocated range }
  | .storeRangeRestore on => some { state with data := state.data.rangeRestoreStore on }
  | .queue work allocated =>
      if work.command = setAperture then none
      else some { state with data := state.data.queueWork allocated work }
  | .take =>
      match state.inFlight, state.data.pending with
      | none, work :: pending =>
          some { state with
            inFlight := some work, data := { state.data with pending := pending } }
      | _, _ => none
  | .reach =>
      match state.inFlight with
      | some work =>
          some { state with
            wheel := if work.command = setAperture then work.range else state.wheel }
      | none => none
  | .finish acknowledged => state.inFlight.map fun work => state.finish work acknowledged

end State

/-- The poll beside the user, the worker and other programs. -/
def classic : System State Event where
  initial state := state.restores = [] ∧ state.inFlight = none ∧
    ∃ range, state.data = FfData.init range
  step := State.step

namespace FfData

variable {data : FfData} {live : Option UInt16} {axis : Option AbsAxis} {allocated : Bool}

@[simp]
theorem restoreAttempts_queueWork (data : FfData) (allocated : Bool) (work : FfWork) :
    (data.queueWork allocated work).restoreAttempts = data.restoreAttempts := by
  simp only [queueWork]
  split
  · rfl
  · split
    · split <;> rfl
    · rfl

@[simp]
theorem restoreAttempts_unread (data : FfData) :
    data.unread.restoreAttempts = data.restoreAttempts := by
  simp only [unread]
  split
  · rfl
  · split <;> rfl

@[simp]
theorem pending_unread (data : FfData) : data.unread.pending = data.pending := by
  simp only [unread]
  split
  · rfl
  · split <;> rfl

/-- All that stands behind a restore. -/
theorem of_restored (restored : data.pollOutcome live axis = .restored) :
    data.restoreEnabled = true ∧ (∃ range, live = some range ∧ range ≠ data.wanted) ∧
      data.restoreAttempts < rangeMaxAttempts ∧ rimNearCentre axis = true := by
  simp only [pollOutcome] at restored
  split at restored
  · contradiction
  · rename_i running
    rw [not_or, Bool.not_eq_false] at running
    split at restored
    · contradiction
    · rename_i range
      split at restored
      · contradiction
      · rename_i differs
        split at restored
        · contradiction
        · rename_i left
          split at restored
          · rename_i near
            exact ⟨running.1, ⟨range, rfl, differs⟩, Nat.lt_of_not_le left, near⟩
          · contradiction

/-- An agreement clears the strikes, a restore is one, and nothing else touches them. -/
theorem restoreAttempts_rangePollWork :
    (data.rangePollWork live axis allocated).restoreAttempts =
      if data.pollOutcome live axis = .agreed then 0
      else if data.pollOutcome live axis = .restored then data.restoreAttempts + 1
      else data.restoreAttempts := by
  simp only [rangePollWork]
  split
  all_goals
    rename_i outcome
    simp [outcome, answered]

theorem pending_rangePollWork (quiet : data.pollOutcome live axis ≠ .restored) :
    (data.rangePollWork live axis allocated).pending = data.pending := by
  simp only [rangePollWork]
  split
  case h_6 restored => exact absurd restored quiet
  all_goals simp [answered]

end FfData

/-- A store to `range` or to `range_restore`. -/
def Event.byUser : Event → Bool
  | .storeRange .. => true
  | .storeRangeRestore _ => true
  | _ => false

namespace State

variable {state next : State} {event : Event}

/-- A poll finds the wheel back in agreement while strikes are on record. -/
def Forgives (state : State) : Event → Prop
  | .poll answers axis _ => 0 < state.data.restoreAttempts ∧
      state.data.pollOutcome (state.live answers) axis = .agreed
  | _ => False

structure Invariant (state : State) : Prop where
  justified : ∀ restore ∈ state.restores, restore.Justified
  capped : state.data.restoreAttempts ≤ rangeMaxAttempts

theorem poll_justified {answers : Bool} {axis : Option AbsAxis}
    (restored : state.data.pollOutcome (state.live answers) axis = .restored) :
    Restore.Justified ⟨state.data.restoreEnabled, state.wheel, state.data.wanted, axis⟩ := by
  rcases FfData.of_restored restored with ⟨enabled, ⟨range, read, differs⟩, _, near⟩
  cases answers with
  | false => cases read
  | true =>
      cases read
      exact ⟨enabled, differs, near⟩

/-- A step is a run of the poll, or it adds no restore and leaves the strikes or clears them. -/
theorem step_cases (stepped : state.step event = some next) :
    (∃ answers axis allocated, event = .poll answers axis allocated ∧
      next = state.poll answers axis allocated) ∨
    next.restores = state.restores ∧ state.Forgives event = False ∧
      (next.data.restoreAttempts = state.data.restoreAttempts ∨
        event.byUser = true ∧ next.data.restoreAttempts = 0) := by
  cases event with
  | poll answers axis allocated =>
      cases stepped
      exact Or.inl ⟨answers, axis, allocated, rfl, rfl⟩
  | external range =>
      cases stepped
      exact Or.inr ⟨rfl, rfl, Or.inl rfl⟩
  | storeRange range allocated =>
      cases stepped
      exact Or.inr ⟨rfl, rfl, Or.inl (FfData.restoreAttempts_queueWork _ _ _)⟩
  | storeRangeRestore on =>
      cases stepped
      cases on with
      | true => exact Or.inr ⟨rfl, rfl, Or.inr ⟨rfl, rfl⟩⟩
      | false => exact Or.inr ⟨rfl, rfl, Or.inl rfl⟩
  | queue work allocated =>
      simp only [step, Option.ite_none_left_eq_some, Option.some.injEq] at stepped
      rcases stepped with ⟨_, rfl⟩
      exact Or.inr ⟨rfl, rfl, Or.inl (FfData.restoreAttempts_queueWork _ _ _)⟩
  | take =>
      simp only [step] at stepped
      split at stepped
      · cases stepped
        exact Or.inr ⟨rfl, rfl, Or.inl rfl⟩
      · contradiction
  | reach =>
      simp only [step] at stepped
      split at stepped
      · cases stepped
        exact Or.inr ⟨rfl, rfl, Or.inl rfl⟩
      · contradiction
  | finish acknowledged =>
      simp only [step, Option.map_eq_some_iff] at stepped
      rcases stepped with ⟨work, _, rfl⟩
      refine Or.inr ⟨rfl, rfl, Or.inl ?_⟩
      simp only [finish]
      split <;> rfl

theorem step_invariant (invariant : state.Invariant) (stepped : state.step event = some next) :
    next.Invariant := by
  rcases step_cases stepped with ⟨answers, axis, allocated, _, rfl⟩ | ⟨restores, _, strikes⟩
  · constructor
    · intro restore member
      simp only [poll] at member
      split at member
      · rename_i restored
        rcases List.mem_cons.mp member with rfl | earlier
        · exact poll_justified restored
        · exact invariant.justified restore earlier
      · exact invariant.justified restore member
    · have capped := invariant.capped
      simp only [poll, FfData.restoreAttempts_rangePollWork]
      split
      · exact Nat.zero_le _
      · split
        · rename_i restored
          exact (FfData.of_restored restored).2.2.1
        · exact capped
  · constructor
    · rw [restores]
      exact invariant.justified
    · have capped := invariant.capped
      omega

/-- Without the user and without an agreement every restore is a strike. -/
theorem step_strikes (stepped : state.step event = some next) (alone : event.byUser = false)
    (unforgiving : ¬state.Forgives event) :
    next.restores.length + state.data.restoreAttempts =
      state.restores.length + next.data.restoreAttempts := by
  rcases step_cases stepped with ⟨answers, axis, allocated, rfl, rfl⟩ | ⟨restores, _, strikes⟩
  · simp only [Forgives, not_and] at unforgiving
    simp only [poll, FfData.restoreAttempts_rangePollWork]
    split
    · rename_i restored
      rw [restored, if_neg (by decide), List.length_cons]
      omega
    · split
      · rename_i agreed
        have none : ¬0 < state.data.restoreAttempts := fun strikes => unforgiving strikes agreed
        omega
      · rfl
  · rw [restores]
    simp only [alone, Bool.false_eq_true, false_and, or_false] at strikes
    rw [strikes]

theorem run_strikes {last : State} {events : List Event}
    (executed : classic.run state events = some last)
    (alone : ∀ event ∈ events, event.byUser = false)
    (unforgiving : classic.RunMeets (fun state event => ¬state.Forgives event) state events) :
    last.restores.length + state.data.restoreAttempts =
      state.restores.length + last.data.restoreAttempts := by
  induction events generalizing state with
  | nil =>
      cases executed
      rfl
  | cons event events ih =>
      simp only [System.run, Option.bind_eq_some_iff] at executed
      rcases executed with ⟨next, stepped, rest⟩
      simp only [System.RunMeets, stepped] at unforgiving
      have here := step_strikes stepped (alone event List.mem_cons_self) unforgiving.1
      have later := ih rest (fun other member => alone other (List.mem_cons_of_mem event member))
        unforgiving.2
      omega

theorem reachable_invariant (reachable : classic.Reachable state) : state.Invariant := by
  apply reachable.invariant
  · rintro start ⟨unlogged, _, range, data⟩
    constructor
    · rw [unlogged]
      exact fun restore member => absurd member List.not_mem_nil
    · rw [data]
      exact Nat.zero_le _
  · intro current event next invariant _ stepped
    exact step_invariant invariant stepped

end State

/-- The poll queues nothing that is not logged, and every restore has its reasons; and where no
poll finds an agreement over strikes, a run without the user adds no more than the strikes left. -/
theorem range_restore_law (state : State) :
    (classic.Reachable state →
      (∀ restore ∈ state.restores, restore.Justified) ∧
        ∀ answers axis allocated,
          (state.poll answers axis allocated).restores = state.restores →
          (state.poll answers axis allocated).data.pending = state.data.pending) ∧
    ∀ events last, classic.Reachable state → classic.run state events = some last →
      (∀ event ∈ events, event.byUser = false) →
      classic.RunMeets (fun current event => ¬current.Forgives event) state events →
      last.restores.length + state.data.restoreAttempts ≤
        state.restores.length + rangeMaxAttempts := by
  refine ⟨?_, ?_⟩
  · intro reachable
    refine ⟨(State.reachable_invariant reachable).justified, ?_⟩
    intro answers axis allocated unlogged
    apply FfData.pending_rangePollWork
    intro restored
    simp only [State.poll, restored, if_true] at unlogged
    exact List.cons_ne_self _ _ unlogged
  · intro events last reachable executed alone unforgiving
    have account := State.run_strikes executed alone unforgiving
    have capped := (State.reachable_invariant (reachable.run executed
      (System.runMeets_anyStep _ _))).capped
    omega

namespace Example

def centred : AbsAxis := ⟨0, 65535, 32767⟩

def settledData : FfData :=
  { FfData.init 900 with restoreProbed := true, restoreEverRead := true }

/-- A wheel that stands at its range, behind a poll that has found it there. -/
def settled (restores : List Restore) : State := ⟨settledData, false, 900, none, restores⟩

/-- Another program turns the range down, the driver restores it, and the next poll agrees. -/
def round : List Event :=
  [.external 90, .poll true (some centred) true, .take, .reach, .finish true,
    .poll true (some centred) true]

def rounds : ℕ → List Event
  | 0 => []
  | count + 1 => round ++ rounds count

theorem byUser_of_mem_rounds {event : Event} (count : ℕ) (member : event ∈ rounds count) :
    event.byUser = false := by
  induction count with
  | zero => exact absurd member List.not_mem_nil
  | succ count ih =>
      rcases List.mem_append.mp member with here | later
      · have quiet : ∀ event ∈ round, event.byUser = false := by decide
        exact quiet event here
      · exact ih later

theorem poll_moved (restores : List Restore) :
    State.poll ⟨settledData, false, 90, none, restores⟩ true (some centred) true =
      ⟨{ settledData with pending := [.aperture 900], restoreAttempts := 1 }, false, 90, none,
        ⟨true, 90, 900, some centred⟩ :: restores⟩ := by
  have moved : settledData.pollOutcome (some 90) (some centred) = .restored := by decide
  have struck : settledData.rangePollWork (some 90) (some centred) true =
      { settledData with pending := [.aperture 900], restoreAttempts := 1 } := by decide
  simp only [State.poll, State.live, if_true, moved, struck]
  rfl

theorem poll_restored (restores : List Restore) :
    State.poll ⟨{ settledData with restoreAttempts := 1 }, false, 900, none, restores⟩ true
      (some centred) true = settled restores := by
  have agrees : FfData.pollOutcome { settledData with restoreAttempts := 1 } (some 900)
      (some centred) ≠ .restored := by decide
  have forgiven : FfData.rangePollWork { settledData with restoreAttempts := 1 } (some 900)
      (some centred) true = settledData := by decide
  simp only [State.poll, State.live, if_true, agrees, forgiven, if_false]
  rfl

theorem run_round (restores : List Restore) :
    classic.run (settled restores) round =
      some (settled (⟨true, 90, 900, some centred⟩ :: restores)) := by
  have drained : classic.run
      ⟨{ settledData with pending := [.aperture 900], restoreAttempts := 1 }, false, 90, none,
        ⟨true, 90, 900, some centred⟩ :: restores⟩ [.take, .reach, .finish true] =
      some ⟨{ settledData with restoreAttempts := 1 }, false, 900, none,
        ⟨true, 90, 900, some centred⟩ :: restores⟩ := rfl
  have first : classic.run (settled restores) [.external 90, .poll true (some centred) true] =
      some ⟨{ settledData with pending := [.aperture 900], restoreAttempts := 1 }, false, 90, none,
        ⟨true, 90, 900, some centred⟩ :: restores⟩ := congrArg some (poll_moved restores)
  have last : classic.run ⟨{ settledData with restoreAttempts := 1 }, false, 900, none,
      ⟨true, 90, 900, some centred⟩ :: restores⟩ [.poll true (some centred) true] =
        some (settled (⟨true, 90, 900, some centred⟩ :: restores)) :=
    congrArg some (poll_restored _)
  have parts : round = [.external 90, .poll true (some centred) true] ++
      ([.take, .reach, .finish true] ++ [.poll true (some centred) true]) := rfl
  rw [parts, System.run_append, first, Option.bind_some, System.run_append, drained,
    Option.bind_some, last]

/-- A program that lets the driver's range stand until the next poll is fought in every round. -/
theorem run_rounds (count : ℕ) (restores : List Restore) :
    classic.run (settled restores) (rounds count) = some (settled
      (List.replicate count ⟨true, 90, 900, some centred⟩ ++ restores)) := by
  induction count generalizing restores with
  | zero => rfl
  | succ count ih =>
      rw [rounds, System.run_append, run_round, Option.bind_some, ih, List.replicate_succ',
        List.append_assoc, List.singleton_append]

end Example

open Example in
/-- Four rounds without the user, and the poll queues its fourth restore. -/
theorem fourth_restore_queued : classic.Reachable (settled []) ∧
    (∀ event ∈ rounds 4, event.byUser = false) ∧
    ∃ last, classic.run (settled []) (rounds 4) = some last ∧
      last.restores.length = rangeMaxAttempts + 1 := by
  have start : classic.Reachable ⟨FfData.init 900, false, 900, none, []⟩ :=
    System.ReachableUnder.of_initial ⟨rfl, rfl, 900, rfl⟩
  have settles : classic.step ⟨FfData.init 900, false, 900, none, []⟩
      (.poll true (some centred) true) = some (settled []) := by decide
  exact ⟨start.tail trivial settles, fun event => byUser_of_mem_rounds 4, _, run_rounds 4 [], rfl⟩

end TrueForce.Range.Classic
