import TrueForce.Foundation.Transition
import Mathlib.Data.Int.Notation
import Mathlib.Data.List.Chain

/-!
# The rev lights

A store publishes the level it is given and queues one delayed work item for the
next free slot; the work item sends whatever level is newest, stamps the time and
queues itself again when the level has moved meanwhile.  Stores publish without a
lock and compute their delay under `rev_lock`, which the work item holds from its
read of the level to its own requeueing.  A work item that the queue has taken out
but that has not got the lock yet is neither pending nor has it stamped its send.

Time is counted in jiffies from a positive start and does not wrap (`unsigned long`
has 64 bits).  The model covers the life of the device before its teardown, where
`stopping` reads zero, with the light strip's feature present.
-/

namespace TrueForce.Lights

open TrueForce.Transition

def hidppDdRevMaxLevel : ℕ := 10

inductive WorkerPhase where
  | idle
  /-- Taken out of the queue, on the way to `rev_lock`. -/
  | entered
  /-- With `rev_lock`, on the way to the transport's `send_mutex`. -/
  | locked (target : UInt8)
  | sending (target : UInt8)
  | stamped (target : UInt8)
  deriving DecidableEq, Repr

def WorkerPhase.holdsLock : WorkerPhase → Bool
  | .idle | .entered => false
  | _ => true

structure Send where
  start : ℕ
  level : UInt8
  deriving DecidableEq, Repr

structure State where
  jiffies : ℕ
  initialized : Bool
  revTarget : UInt8
  revLevel : UInt8
  /-- 0 until the first attempt. -/
  revLastWrite : ℕ
  /-- When the queued work item is due. -/
  pending : Option ℕ
  worker : WorkerPhase
  /-- Stores between their publication and their locked section. -/
  storing : ℕ
  sends : List Send
  lastSucceeded : Bool
  deriving DecidableEq, Repr

inductive Event where
  | tick
  | initDone
  | storePublish (level : ℕ)
  | storeQueue
  | workStart
  | workLock
  | workSend
  | workStamp (succeeded : Bool)
  | workFinish
  deriving DecidableEq, Repr

namespace State

/-- `queue_delayed_work`: nothing happens to a work item that is queued already. -/
def queueDelayedWork (state : State) (delay : ℕ) : State :=
  match state.pending with
  | some _ => state
  | none => { state with pending := some (state.jiffies + delay) }

/-- The delay that `wheel_rev_level_store` computes, with `gap` jiffies between two sends. -/
def slotDelay (state : State) (gap : ℕ) : ℕ :=
  let remaining : ℤ := (state.revLastWrite : ℤ) + gap - state.jiffies
  if state.revLastWrite ≠ 0 ∧ remaining > 0 then remaining.toNat else 0

def storePublish (state : State) (level : ℕ) : State :=
  if level > hidppDdRevMaxLevel then state
  else { state with revTarget := UInt8.ofNat level, storing := state.storing + 1 }

def storeQueue (state : State) (gap : ℕ) : State :=
  { state.queueDelayedWork (state.slotDelay gap) with storing := state.storing - 1 }

/-- The queue takes the work item out; before the init it returns at once. -/
def workStart (state : State) : State :=
  { state with pending := none, worker := if state.initialized then .entered else .idle }

def workSend (state : State) (target : UInt8) : State :=
  { state with
    worker := .sending target
    sends := state.sends ++ [{ start := state.jiffies, level := target }] }

def workStamp (state : State) (target : UInt8) (succeeded : Bool) : State :=
  { state with
    worker := .stamped target
    revLastWrite := state.jiffies
    revLevel := if succeeded then target else state.revLevel
    lastSucceeded := succeeded }

def workFinish (state : State) (gap : ℕ) (target : UInt8) : State :=
  let state :=
    if state.revTarget ≠ target ∧ state.initialized then state.queueDelayedWork gap else state
  { state with worker := .idle }

def step (gap : ℕ) (state : State) : Event → Option State
  | .tick => some { state with jiffies := state.jiffies + 1 }
  | .initDone => some { state with initialized := true }
  | .storePublish level => some (state.storePublish level)
  | .storeQueue =>
      if state.storing ≠ 0 ∧ state.worker.holdsLock = false then some (state.storeQueue gap)
      else none
  | .workStart =>
      match state.pending with
      | some due =>
          -- One work item never runs twice at a time.
          if due ≤ state.jiffies ∧ state.worker = .idle then some state.workStart else none
      | none => none
  | .workLock =>
      if state.worker = .entered then some { state with worker := .locked state.revTarget }
      else none
  | .workSend =>
      match state.worker with
      | .locked target => some (state.workSend target)
      | _ => none
  | .workStamp succeeded =>
      match state.worker with
      | .sending target => some (state.workStamp target succeeded)
      | _ => none
  | .workFinish =>
      match state.worker with
      | .stamped target => some (state.workFinish gap target)
      | _ => none

def start (jiffies : ℕ) : State where
  jiffies
  initialized := false
  revTarget := 0
  revLevel := 0
  revLastWrite := 0
  pending := none
  worker := .idle
  storing := 0
  sends := []
  lastSucceeded := false

/-- What one event does, under the guard it waits for. -/
inductive Stepped (gap : ℕ) (state : State) : Event → State → Prop where
  | tick : Stepped gap state .tick { state with jiffies := state.jiffies + 1 }
  | initDone : Stepped gap state .initDone { state with initialized := true }
  | storePublish (level : ℕ) :
      Stepped gap state (.storePublish level) (state.storePublish level)
  | storeQueue (published : state.storing ≠ 0) (unlocked : state.worker.holdsLock = false) :
      Stepped gap state .storeQueue (state.storeQueue gap)
  | workStart {due : ℕ} (queued : state.pending = some due) (isDue : due ≤ state.jiffies)
      (idle : state.worker = .idle) :
      Stepped gap state .workStart state.workStart
  | workLock (entered : state.worker = .entered) :
      Stepped gap state .workLock { state with worker := .locked state.revTarget }
  | workSend {target : UInt8} (locked : state.worker = .locked target) :
      Stepped gap state .workSend (state.workSend target)
  | workStamp {target : UInt8} (sending : state.worker = .sending target) (succeeded : Bool) :
      Stepped gap state (.workStamp succeeded) (state.workStamp target succeeded)
  | workFinish {target : UInt8} (stamped : state.worker = .stamped target) :
      Stepped gap state .workFinish (state.workFinish gap target)

theorem step_cases {gap : ℕ} {state next : State} {event : Event}
    (stepped : state.step gap event = some next) :
    state.Stepped gap event next := by
  cases event with
  | tick =>
      cases stepped
      exact .tick
  | initDone =>
      cases stepped
      exact .initDone
  | storePublish level =>
      cases stepped
      exact .storePublish level
  | storeQueue =>
      simp only [step, Option.ite_none_right_eq_some, Option.some.injEq] at stepped
      rcases stepped with ⟨⟨published, unlocked⟩, rfl⟩
      exact .storeQueue published unlocked
  | workStart =>
      simp only [step] at stepped
      split at stepped
      · rename_i queued
        simp only [Option.ite_none_right_eq_some, Option.some.injEq] at stepped
        rcases stepped with ⟨⟨isDue, idle⟩, rfl⟩
        exact .workStart queued isDue idle
      · cases stepped
  | workLock =>
      simp only [step, Option.ite_none_right_eq_some, Option.some.injEq] at stepped
      rcases stepped with ⟨entered, rfl⟩
      exact .workLock entered
  | workSend =>
      simp only [step] at stepped
      split at stepped
      · rename_i locked
        cases stepped
        exact .workSend locked
      · cases stepped
  | workStamp succeeded =>
      simp only [step] at stepped
      split at stepped
      · rename_i sending
        cases stepped
        exact .workStamp sending succeeded
      · cases stepped
  | workFinish =>
      simp only [step] at stepped
      split at stepped
      · rename_i stamped
        cases stepped
        exact .workFinish stamped
      · cases stepped

end State

/-- Every interleaving, with `gap` the jiffies of `HIDPP_DD_REV_MIN_GAP_MS`. -/
def revLights (gap : ℕ) : System State Event where
  initial state := ∃ jiffies, 0 < jiffies ∧ state = State.start jiffies
  step := State.step gap

/-- No store computes its delay while the work item is on its way to the lock. -/
def State.QueuesOutsideHandOff (state : State) (event : Event) : Prop :=
  event = .storeQueue → state.worker ≠ .entered

instance (state : State) (event : Event) : Decidable (state.QueuesOutsideHandOff event) :=
  inferInstanceAs (Decidable (_ → _))

/-- A send that starts then keeps its distance from the last one. -/
def State.FreeAt (state : State) (gap time : ℕ) : Prop :=
  ∀ last, state.sends.getLast? = some last → last.start + gap ≤ time

/-- The last send has been stamped. -/
def State.HasStamp (state : State) : Prop :=
  ∀ last, state.sends.getLast? = some last →
    last.start ≤ state.revLastWrite ∧ state.revLastWrite ≠ 0

structure Paced (gap : ℕ) (state : State) : Prop where
  positive : 0 < state.jiffies
  stamp : state.revLastWrite ≤ state.jiffies
  chain : state.sends.IsChain fun first second => first.start + gap ≤ second.start
  phase : match state.worker with
    | .idle => state.HasStamp ∧ ∀ due, state.pending = some due → state.FreeAt gap due
    | .entered | .locked _ =>
        state.HasStamp ∧ state.pending = none ∧ state.FreeAt gap state.jiffies
    | .sending _ => state.pending = none ∧ state.FreeAt 0 state.jiffies
    | .stamped _ => state.pending = none ∧ state.HasStamp

theorem State.FreeAt.mono {state : State} {gap earlier later : ℕ}
    (free : state.FreeAt gap earlier) (order : earlier ≤ later) :
    state.FreeAt gap later :=
  fun last ends => (free last ends).trans order

/-- The slot a store computes keeps the distance from a stamped send. -/
theorem State.HasStamp.free_slot {state : State} (stamped : state.HasStamp) (gap : ℕ) :
    state.FreeAt gap (state.jiffies + state.slotDelay gap) := by
  intro last ends
  rcases stamped last ends with ⟨started, set⟩
  simp only [State.slotDelay]
  split <;> omega

theorem State.HasStamp.free_gap {state : State} (stamped : state.HasStamp)
    (stamp : state.revLastWrite ≤ state.jiffies) (gap : ℕ) :
    state.FreeAt gap (state.jiffies + gap) := by
  intro last ends
  have started := (stamped last ends).1
  omega

namespace Paced

variable {gap : ℕ} {state : State}

theorem tick (paced : Paced gap state) : Paced gap { state with jiffies := state.jiffies + 1 } := by
  rcases paced with ⟨positive, stamp, chain, phase⟩
  refine ⟨Nat.succ_pos _, stamp.trans (Nat.le_succ _), chain, ?_⟩
  cases worker : state.worker with
  | idle =>
      rw [worker] at phase
      exact phase
  | entered | locked =>
      rw [worker] at phase
      exact ⟨phase.1, phase.2.1, phase.2.2.mono (Nat.le_succ _)⟩
  | sending target =>
      rw [worker] at phase
      exact ⟨phase.1, phase.2.mono (Nat.le_succ _)⟩
  | stamped target =>
      rw [worker] at phase
      exact phase

theorem storePublish (paced : Paced gap state) (level : ℕ) :
    Paced gap (state.storePublish level) := by
  simp only [State.storePublish]
  split
  · exact paced
  · exact ⟨paced.positive, paced.stamp, paced.chain, paced.phase⟩

/-- Queueing for a free time does not disturb an idle worker. -/
theorem queueDelayedWork (paced : Paced gap state) (idle : state.worker = .idle) {delay : ℕ}
    (free : state.FreeAt gap (state.jiffies + delay)) :
    Paced gap (state.queueDelayedWork delay) := by
  simp only [State.queueDelayedWork]
  split
  · exact paced
  · have phase := paced.phase
    rw [idle] at phase
    refine ⟨paced.positive, paced.stamp, paced.chain, ?_⟩
    rw [idle]
    refine ⟨phase.1, ?_⟩
    intro due queued
    cases queued
    exact free

theorem storeQueue (paced : Paced gap state) (idle : state.worker = .idle) :
    Paced gap (state.storeQueue gap) := by
  have phase := paced.phase
  rw [idle] at phase
  have queued := paced.queueDelayedWork idle (phase.1.free_slot gap)
  exact ⟨queued.positive, queued.stamp, queued.chain, queued.phase⟩

theorem workStart (paced : Paced gap state) (idle : state.worker = .idle) {due : ℕ}
    (queued : state.pending = some due) (isDue : due ≤ state.jiffies) :
    Paced gap state.workStart := by
  have phase := paced.phase
  rw [idle] at phase
  refine ⟨paced.positive, paced.stamp, paced.chain, ?_⟩
  simp only [State.workStart]
  cases state.initialized with
  | false => exact ⟨phase.1, by simp⟩
  | true => exact ⟨phase.1, trivial, (phase.2 due queued).mono isDue⟩

theorem workSend (paced : Paced gap state) {target : UInt8}
    (locked : state.worker = .locked target) :
    Paced gap (state.workSend target) := by
  have phase := paced.phase
  rw [locked] at phase
  rcases phase with ⟨_, none, free⟩
  refine ⟨paced.positive, paced.stamp, ?_, ?_⟩
  · apply paced.chain.append (List.isChain_singleton _)
    intro last isLast next isNext
    cases isNext
    exact free last isLast
  · refine ⟨none, ?_⟩
    intro last ends
    simp only [State.workSend, List.getLast?_concat, Option.some.injEq] at ends
    rw [← ends]
    exact Nat.le_refl _

theorem workStamp (paced : Paced gap state) {target : UInt8}
    (sending : state.worker = .sending target) (succeeded : Bool) :
    Paced gap (state.workStamp target succeeded) := by
  have phase := paced.phase
  rw [sending] at phase
  refine ⟨paced.positive, Nat.le_refl _, paced.chain, phase.1, ?_⟩
  intro last ends
  exact ⟨phase.2 last ends, Nat.pos_iff_ne_zero.mp paced.positive⟩

theorem workFinish (paced : Paced gap state) {target : UInt8}
    (stamped : state.worker = .stamped target) :
    Paced gap (state.workFinish gap target) := by
  have phase := paced.phase
  rw [stamped] at phase
  rcases phase with ⟨none, hasStamp⟩
  have idle : Paced gap { state with worker := .idle } :=
    ⟨paced.positive, paced.stamp, paced.chain, hasStamp, by simp [none]⟩
  simp only [State.workFinish]
  split
  · have free := hasStamp.free_gap paced.stamp gap
    have queued := idle.queueDelayedWork rfl free
    simp only [State.queueDelayedWork, none] at queued ⊢
    exact queued
  · exact idle

theorem step {event : Event} {next : State} (paced : Paced gap state)
    (guarded : state.QueuesOutsideHandOff event) (stepped : state.step gap event = some next) :
    Paced gap next := by
  cases State.step_cases stepped with
  | tick => exact paced.tick
  | initDone => exact ⟨paced.positive, paced.stamp, paced.chain, paced.phase⟩
  | storePublish level => exact paced.storePublish level
  | storeQueue _ unlocked =>
      have notEntered := guarded rfl
      apply paced.storeQueue
      cases worker : state.worker <;> simp_all [WorkerPhase.holdsLock]
  | workStart queued isDue idle => exact paced.workStart idle queued isDue
  | workLock entered =>
      have phase := paced.phase
      rw [entered] at phase
      exact ⟨paced.positive, paced.stamp, paced.chain, phase⟩
  | workSend locked => exact paced.workSend locked
  | workStamp sending succeeded => exact paced.workStamp sending succeeded
  | workFinish stamped => exact paced.workFinish stamped

end Paced

/-- The level of the last send. -/
def State.LastSent (state : State) (level : UInt8) : Prop :=
  ∀ last, state.sends.getLast? = some last → last.level = level

structure Fresh (state : State) : Prop where
  sent : state.sends ≠ [] → state.initialized = true
  phase : match state.worker with
    | .idle => state.pending = none → state.storing = 0 → state.LastSent state.revTarget
    | .entered => state.initialized = true
    | .locked _ => state.initialized = true
    | .sending target | .stamped target => state.initialized = true ∧ state.LastSent target

namespace Fresh

variable {gap : ℕ} {state : State}

theorem initDone (fresh : Fresh state) : Fresh { state with initialized := true } := by
  refine ⟨fun _ => rfl, ?_⟩
  have phase := fresh.phase
  cases worker : state.worker with
  | idle =>
      rw [worker] at phase
      exact phase
  | entered | locked => rfl
  | sending target | stamped target =>
      rw [worker] at phase
      exact ⟨rfl, phase.2⟩

theorem storePublish (fresh : Fresh state) (level : ℕ) : Fresh (state.storePublish level) := by
  simp only [State.storePublish]
  split
  · exact fresh
  · refine ⟨fresh.sent, ?_⟩
    have phase := fresh.phase
    cases worker : state.worker with
    | idle => simp
    | entered | locked | sending | stamped =>
        rw [worker] at phase
        exact phase

theorem queueDelayedWork_pending (state : State) (delay : ℕ) :
    (state.queueDelayedWork delay).pending ≠ none := by
  simp only [State.queueDelayedWork]
  split <;> simp_all

theorem storeQueue (fresh : Fresh state) (unlocked : state.worker.holdsLock = false) :
    Fresh (state.storeQueue gap) := by
  have queued := queueDelayedWork_pending state (state.slotDelay gap)
  have same : (state.queueDelayedWork (state.slotDelay gap)).worker = state.worker ∧
      (state.queueDelayedWork (state.slotDelay gap)).sends = state.sends ∧
      (state.queueDelayedWork (state.slotDelay gap)).initialized = state.initialized := by
    simp only [State.queueDelayedWork]
    split <;> exact ⟨rfl, rfl, rfl⟩
  rcases same with ⟨worker, sends, initialized⟩
  refine ⟨?_, ?_⟩
  · simp only [State.storeQueue, sends, initialized]
    exact fresh.sent
  · have phase := fresh.phase
    simp only [State.storeQueue, worker]
    cases entered : state.worker with
    | idle => exact fun none => absurd none queued
    | entered =>
        rw [entered] at phase
        exact initialized.trans phase
    | locked | sending | stamped =>
        rw [entered] at unlocked
        cases unlocked

theorem workStart (fresh : Fresh state) : Fresh state.workStart := by
  refine ⟨fresh.sent, ?_⟩
  simp only [State.workStart]
  cases ready : state.initialized with
  | true => rfl
  | false =>
      intro _ _ last ends
      have some : state.sends ≠ [] := by
        intro none
        rw [none] at ends
        cases ends
      rw [fresh.sent some] at ready
      cases ready

theorem workSend (fresh : Fresh state) {target : UInt8}
    (locked : state.worker = .locked target) : Fresh (state.workSend target) := by
  have phase := fresh.phase
  rw [locked] at phase
  refine ⟨fun _ => phase, phase, ?_⟩
  intro last ends
  simp only [State.workSend, List.getLast?_concat, Option.some.injEq] at ends
  rw [← ends]

theorem workFinish (fresh : Fresh state) {target : UInt8}
    (stamped : state.worker = .stamped target) : Fresh (state.workFinish gap target) := by
  have phase := fresh.phase
  rw [stamped] at phase
  rcases phase with ⟨ready, sent⟩
  simp only [State.workFinish, ready, and_true]
  split
  · have queued := queueDelayedWork_pending state gap
    refine ⟨?_, fun none => absurd none queued⟩
    intro _
    simp only [State.queueDelayedWork]
    split <;> exact ready
  · rename_i same
    rw [not_not] at same
    refine ⟨fresh.sent, fun _ _ => ?_⟩
    rw [same]
    exact sent

theorem step {event : Event} {next : State} (fresh : Fresh state)
    (stepped : state.step gap event = some next) :
    Fresh next := by
  cases State.step_cases stepped with
  | tick => exact ⟨fresh.sent, fresh.phase⟩
  | initDone => exact fresh.initDone
  | storePublish level => exact fresh.storePublish level
  | storeQueue _ unlocked => exact fresh.storeQueue unlocked
  | workStart => exact fresh.workStart
  | workLock entered =>
      have phase := fresh.phase
      rw [entered] at phase
      exact ⟨fresh.sent, phase⟩
  | workSend locked => exact fresh.workSend locked
  | workStamp sending succeeded =>
      have phase := fresh.phase
      rw [sending] at phase
      exact ⟨fresh.sent, phase⟩
  | workFinish stamped => exact fresh.workFinish stamped

end Fresh

/--
Starts of consecutive sends are a gap apart; and with nothing queued, running or
being stored, the last send, if it succeeded, carried the newest level.
-/
structure CadenceAndFreshness (gap : ℕ) (state : State) : Prop where
  cadence : state.sends.IsChain fun first second => first.start + gap ≤ second.start
  freshness : state.worker = .idle → state.pending = none → state.storing = 0 →
    state.lastSucceeded = true → state.LastSent state.revTarget

/--
In every interleaving in which no store computes its delay while the work item is
on its way to the lock, the sends keep the cadence and the last one is fresh.
-/
theorem rev_lights_keep_cadence {gap : ℕ} {state : State}
    (reachable : (revLights gap).ReachableUnder State.QueuesOutsideHandOff state) :
    CadenceAndFreshness gap state := by
  have held : Paced gap state ∧ Fresh state := by
    apply System.ReachableUnder.invariant reachable
    · rintro start ⟨jiffies, positive, rfl⟩
      refine ⟨⟨positive, Nat.zero_le _, List.isChain_nil, ?_⟩, by simp [State.start], ?_⟩
      · simp [State.start, State.HasStamp]
      · simp [State.start, State.LastSent]
    · intro current event next held guarded stepped
      exact ⟨held.1.step guarded stepped, held.2.step stepped⟩
  rcases held with ⟨paced, fresh⟩
  refine ⟨paced.chain, ?_⟩
  intro idle noneQueued noneStoring _
  have phase := fresh.phase
  rw [idle] at phase
  exact phase noneQueued noneStoring

/-- Two stores, the second one while the first level is being sent. -/
theorem rev_lights_keep_cadence_two :
    ∃ state, (revLights 2).ReachableUnder State.QueuesOutsideHandOff state ∧
      state.sends = [{ start := 1, level := 3 }, { start := 3, level := 4 }] ∧
      CadenceAndFreshness 2 state := by
  have executed := System.ReachableUnder.of_check (revLights 2) State.QueuesOutsideHandOff
    (State.start 1)
    [.initDone, .storePublish 3, .storeQueue, .workStart, .workLock, .workSend, .storePublish 4,
      .workStamp true, .workFinish, .storeQueue, .tick, .tick, .workStart, .workLock, .workSend,
      .workStamp true, .workFinish]
    (fun state => state.sends = [{ start := 1, level := 3 }, { start := 3, level := 4 }])
    ⟨1, Nat.one_pos, rfl⟩ (by decide) (by decide)
  rcases executed with ⟨state, reachable, seen⟩
  simp only [decide_eq_true_eq] at seen
  exact ⟨state, reachable, seen, rev_lights_keep_cadence reachable⟩

/--
A store computes its delay while the work item is on its way to the lock: the
work item sends, and is due again at once.
-/
theorem rev_lights_burst :
    ∃ state, (revLights 10).Reachable state ∧
      state.sends = [{ start := 1, level := 4 }, { start := 1, level := 4 }] ∧
      ¬ CadenceAndFreshness 10 state := by
  have executed := System.ReachableUnder.of_check (revLights 10) System.anyStep (State.start 1)
    [.initDone, .storePublish 3, .storeQueue, .workStart, .storePublish 4, .storeQueue, .workLock,
      .workSend, .workStamp true, .workFinish, .workStart, .workLock, .workSend]
    (fun state => state.sends = [{ start := 1, level := 4 }, { start := 1, level := 4 }])
    ⟨1, Nat.one_pos, rfl⟩ (by decide) (System.runMeets_anyStep _ _)
  rcases executed with ⟨state, reachable, seen⟩
  simp only [decide_eq_true_eq] at seen
  refine ⟨state, reachable, seen, ?_⟩
  intro kept
  have cadence := kept.cadence
  rw [seen] at cadence
  simp at cadence

end TrueForce.Lights
