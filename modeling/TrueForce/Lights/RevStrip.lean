import TrueForce.Foundation.DelayedWork
import TrueForce.Foundation.InFlight
import TrueForce.Lights.RevLevel

/-!
# The rev strip's five classdevs

Five classdevs stand for one strip.  A brightness write changes its bit of a
shared mask, reads the mask back, publishes the level it stands for as the target
and queues the worker; nothing orders the writes to different classdevs.  The
worker reads the target when it starts and sends it.

The target is the newest level only as long as the last writer to publish has
seen the newest mask.  In every run in which the publications keep that order,
the strip shows the level of the mask once everything has come to rest.

Time is counted in jiffies from a positive start.  The model covers the life of
the strip between probe and removal.
-/

namespace TrueForce.Lights

open TrueForce.Transition TrueForce.DelayedWork

abbrev hidppG923RevLeds : ℕ := 5

/-- The position of the highest bit that is set, counted from one. -/
def fls (mask : BitVec 64) : ℕ :=
  if mask = 0 then 0 else Nat.log2 mask.toNat + 1

/-- The level `hidpp_g923_rev_queue` derives from the mask. -/
def g923Level (leds : UInt8) (mask : BitVec 64) : UInt8 :=
  let level :=
    if mask ≠ 0 then UInt8.ofNat (fls mask * leds.toNat / hidppG923RevLeds) else 0
  if leds < level then leds else level

/-- The level `hidpp_dd_rev_send_level` puts on the wire. -/
def wireLevel (level leds : UInt8) : UInt8 :=
  let leds := if leds = 0 then UInt8.ofNat hidppDdRevMaxLevel else leds
  if leds < level then leds else level

namespace G923

inductive WriterPhase where
  /-- The bit is changed and the mask not read yet. -/
  | changed
  | computed (level : UInt8)
  | published
  deriving DecidableEq, Repr

def WriterPhase.unpublished : WriterPhase → Bool
  | .changed | .computed _ => true
  | .published => false

structure State where
  jiffies : ℕ
  leds : UInt8
  armed : Bool
  /-- 0 until the first attempt. -/
  lastWrite : ℕ
  target : UInt8
  sent : UInt8
  mask : BitVec 64
  work : Item
  /-- The target that the running worker has read. -/
  holding : Option UInt8
  writers : List WriterPhase
  /-- The levels that went out, in order. -/
  wire : List UInt8
  lastSucceeded : Bool
  deriving DecidableEq, Repr

inductive Event where
  | tick
  | brightnessSet (led : Fin hidppG923RevLeds) (on : Bool)
  | readMask (writer : ℕ)
  | writeTarget (writer : ℕ)
  | queueWork (writer : ℕ)
  | workStart
  | workRead
  | workSend (armAccepted levelAccepted : Bool)
  deriving DecidableEq, Repr

namespace State

/-- The jiffies until the pacing floor allows the next write. -/
def delay (state : State) (gap : ℕ) : ℕ :=
  if state.lastWrite ≠ 0 ∧ state.jiffies < state.lastWrite + gap then
    state.lastWrite + gap - state.jiffies
  else 0

def brightnessSet (state : State) (led : Fin hidppG923RevLeds) (on : Bool) : State :=
  let bit : BitVec 64 := 1 <<< led.val
  { state with
    mask := if on then state.mask ||| bit else state.mask &&& ~~~bit
    writers := state.writers ++ [.changed] }

def readMask (state : State) (writer : ℕ) : State :=
  { state with writers := state.writers.set writer (.computed (g923Level state.leds state.mask)) }

def writeTarget (state : State) (writer : ℕ) (level : UInt8) : State :=
  { state with target := level, writers := state.writers.set writer .published }

def queueWork (state : State) (gap writer : ℕ) : State :=
  { state with
    work := state.work.modify (state.jiffies + state.delay gap)
    writers := state.writers.eraseIdx writer }

/-- The worker from its arm burst to its end; a failed burst sends no level. -/
def workSend (state : State) (target : UInt8) (armAccepted levelAccepted : Bool) : State :=
  let state :=
    if !state.armed && !armAccepted then { state with lastSucceeded := false }
    else if levelAccepted then
      { state with
        armed := true
        sent := target
        wire := state.wire ++ [wireLevel target state.leds]
        lastSucceeded := true }
    else { state with armed := true, lastSucceeded := false }
  { state with lastWrite := state.jiffies, work := state.work.finish, holding := none }

def step (gap : ℕ) (state : State) : Event → Option State
  | .tick => some { state with jiffies := state.jiffies + 1 }
  | .brightnessSet led on => some (state.brightnessSet led on)
  | .readMask writer =>
      if state.writers[writer]? = some .changed then some (state.readMask writer) else none
  | .writeTarget writer =>
      match state.writers[writer]? with
      | some (.computed level) => some (state.writeTarget writer level)
      | _ => none
  | .queueWork writer =>
      if state.writers[writer]? = some .published then some (state.queueWork gap writer) else none
  | .workStart =>
      (state.work.start state.jiffies).map fun work => { state with work, holding := none }
  | .workRead =>
      if state.work.running ∧ state.holding = none then
        some { state with holding := some state.target }
      else none
  | .workSend armAccepted levelAccepted =>
      match state.holding with
      | some target => some (state.workSend target armAccepted levelAccepted)
      | none => none

def probed (jiffies : ℕ) (leds : UInt8) : State where
  jiffies
  leds
  armed := false
  lastWrite := 0
  target := 0
  sent := 0
  mask := 0
  work := .idle
  holding := none
  writers := []
  wire := []
  lastSucceeded := false

end State

/-- Every interleaving, on a strip of one to ten LEDs. -/
def revStrip (gap : ℕ) : System State Event where
  initial state := ∃ jiffies leds, 0 < jiffies ∧ leds ≠ 0 ∧
    leds.toNat ≤ hidppDdRevMaxLevel ∧ state = State.probed jiffies leds
  step := State.step gap

namespace State

/-- A writer has changed its bit and not yet published a level. -/
def someUnpublished (state : State) : Bool := state.writers.any WriterPhase.unpublished

/-- A writer that publishes while no other is on its way to publish has seen a mask of the level
that the mask has now. -/
def PublishesFresh (state : State) : Event → Prop
  | .writeTarget writer =>
      match state.writers[writer]? with
      | some (.computed level) =>
          (state.writers.eraseIdx writer).any WriterPhase.unpublished = true ∨
            level = g923Level state.leds state.mask
      | _ => True
  | _ => True

instance (state : State) (event : Event) : Decidable (state.PublishesFresh event) := by
  simp only [PublishesFresh]
  repeat' split
  all_goals infer_instance

/-- Nobody is between two steps, and no work is queued or running. -/
def Quiet (state : State) : Prop := state.writers = [] ∧ state.work.busy = false

/-- At rest after a send that succeeded, the wheel shows the level of the mask. -/
def ShowsMask (state : State) : Prop :=
  state.Quiet → state.lastSucceeded = true →
    state.wire.getLast? = some (g923Level state.leds state.mask)

end State

/-- What the guarded runs keep. -/
structure UpToDate (state : State) : Prop where
  strip : state.leds ≠ 0
  uncancelled : state.work.cancelling = 0
  published : state.someUnpublished = false → state.target = g923Level state.leds state.mask
  /-- A level that is not on its way is what the worker holds or what the wheel has. -/
  carried : WriterPhase.published ∉ state.writers → state.work.due = none →
    (∀ level, state.holding = some level → level = state.target) ∧
      (state.work.running = false → state.lastSucceeded = true →
        state.wire.getLast? = some (wireLevel state.target state.leds))
  resting : state.work.running = false → state.holding = none

theorem g923Level_le (leds : UInt8) (mask : BitVec 64) : g923Level leds mask ≤ leds := by
  have bounded (level : UInt8) : (if leds < level then leds else level) ≤ leds := by
    split
    · exact UInt8.le_refl leds
    · rename_i within
      exact UInt8.not_lt.mp within
  exact bounded _

theorem wireLevel_g923Level {leds : UInt8} (strip : leds ≠ 0) (mask : BitVec 64) :
    wireLevel (g923Level leds mask) leds = g923Level leds mask := by
  have within := UInt8.not_lt.mpr (g923Level_le leds mask)
  simp [wireLevel, strip, within]

namespace UpToDate

variable {gap : ℕ} {state : State}

theorem probed {jiffies : ℕ} {leds : UInt8} (strip : leds ≠ 0) :
    UpToDate (State.probed jiffies leds) where
  strip := strip
  uncancelled := rfl
  published := by
    intro _
    simp [State.probed, g923Level]
  carried := by simp [State.probed]
  resting := by simp [State.probed]

/-- The bit changes while the writer itself is on its way to publish. -/
theorem brightnessSet (upToDate : UpToDate state) (led : Fin hidppG923RevLeds) (on : Bool) :
    UpToDate (state.brightnessSet led on) where
  strip := upToDate.strip
  uncancelled := upToDate.uncancelled
  published := by simp [State.someUnpublished, State.brightnessSet, WriterPhase.unpublished]
  carried := by
    intro absent
    apply upToDate.carried
    intro member
    apply absent
    simp [State.brightnessSet, member]
  resting := upToDate.resting

theorem readMask {writer : ℕ} (upToDate : UpToDate state)
    (changed : state.writers[writer]? = some .changed) :
    UpToDate (state.readMask writer) where
  strip := upToDate.strip
  uncancelled := upToDate.uncancelled
  published := by
    intro none
    have computed := InFlight.mem_set_self changed
      (.computed (g923Level state.leds state.mask))
    have still := List.any_eq_false.mp none _ computed
    simp [WriterPhase.unpublished] at still
  carried := by
    intro absent
    apply upToDate.carried
    intro member
    exact absent (InFlight.mem_set_of_ne changed _ member (by simp))
  resting := upToDate.resting

/-- The last writer on its way publishes the level of the mask; any other leaves that to one
that is still on its way. -/
theorem writeTarget {writer : ℕ} {level : UInt8} (upToDate : UpToDate state)
    (computed : state.writers[writer]? = some (.computed level))
    (fresh : (state.writers.eraseIdx writer).any WriterPhase.unpublished = true ∨
      level = g923Level state.leds state.mask) :
    UpToDate (state.writeTarget writer level) where
  strip := upToDate.strip
  uncancelled := upToDate.uncancelled
  published := by
    intro none
    rcases fresh with others | fresh
    · rcases List.any_eq_true.mp others with ⟨other, member, unpublished⟩
      have still := List.any_eq_false.mp none other (InFlight.mem_set_of_mem_eraseIdx _ member)
      exact absurd unpublished still
    · exact fresh
  carried := by
    intro absent
    exact absurd (InFlight.mem_set_self computed WriterPhase.published) absent
  resting := upToDate.resting

theorem queueWork {writer : ℕ} (upToDate : UpToDate state)
    (published : state.writers[writer]? = some .published) :
    UpToDate (state.queueWork gap writer) where
  strip := upToDate.strip
  uncancelled := by
    simp only [State.queueWork, Item.modify_cancelling]
    exact upToDate.uncancelled
  published := by
    intro none
    apply upToDate.published
    apply List.any_eq_false.mpr
    intro other member unpublished
    have different : other ≠ .published := by
      rintro rfl
      simp [WriterPhase.unpublished] at unpublished
    have still := InFlight.mem_eraseIdx_of_ne published member different
    exact absurd unpublished (List.any_eq_false.mp none other still)
  carried := by
    intro _ unqueued
    simp [State.queueWork, Item.modify_due upToDate.uncancelled] at unqueued
  resting := by
    intro rests
    simp only [State.queueWork, Item.modify_running] at rests
    exact upToDate.resting rests

theorem workStart {work : Item} (upToDate : UpToDate state)
    (started : state.work.start state.jiffies = some work) :
    UpToDate { state with work, holding := none } := by
  rcases Item.start_cases started with ⟨_, _, rfl⟩
  exact ⟨upToDate.strip, upToDate.uncancelled, upToDate.published, by simp, by simp⟩

theorem workRead (upToDate : UpToDate state) (running : state.work.running = true) :
    UpToDate { state with holding := some state.target } where
  strip := upToDate.strip
  uncancelled := upToDate.uncancelled
  published := upToDate.published
  carried := by simp [running]
  resting := by simp [running]

/-- What goes out is the target, unless a newer one is on its way to the worker. -/
theorem workSend {target : UInt8} (upToDate : UpToDate state)
    (holding : state.holding = some target) (armAccepted levelAccepted : Bool) :
    UpToDate (state.workSend target armAccepted levelAccepted) := by
  have current (absent : WriterPhase.published ∉ state.writers)
      (unqueued : state.work.due = none) : target = state.target :=
    (upToDate.carried absent unqueued).1 target holding
  simp only [State.workSend]
  split
  · exact ⟨upToDate.strip, upToDate.uncancelled, upToDate.published, by simp, by simp⟩
  · split
    · refine ⟨upToDate.strip, upToDate.uncancelled, upToDate.published, ?_, by simp⟩
      intro absent unqueued
      simp [current absent unqueued]
    · exact ⟨upToDate.strip, upToDate.uncancelled, upToDate.published, by simp, by simp⟩

theorem step {event : Event} {next : State} (upToDate : UpToDate state)
    (fresh : state.PublishesFresh event) (stepped : state.step gap event = some next) :
    UpToDate next := by
  cases event with
  | tick =>
      cases stepped
      exact ⟨upToDate.strip, upToDate.uncancelled, upToDate.published, upToDate.carried,
        upToDate.resting⟩
  | brightnessSet led on =>
      cases stepped
      exact upToDate.brightnessSet led on
  | readMask writer =>
      simp only [State.step, Option.ite_none_right_eq_some, Option.some.injEq] at stepped
      rcases stepped with ⟨changed, rfl⟩
      exact upToDate.readMask changed
  | writeTarget writer =>
      simp only [State.step] at stepped
      split at stepped
      · rename_i computed
        cases stepped
        simp only [State.PublishesFresh, computed] at fresh
        exact upToDate.writeTarget computed fresh
      · cases stepped
  | queueWork writer =>
      simp only [State.step, Option.ite_none_right_eq_some, Option.some.injEq] at stepped
      rcases stepped with ⟨published, rfl⟩
      exact upToDate.queueWork published
  | workStart =>
      simp only [State.step, Option.map_eq_some_iff] at stepped
      rcases stepped with ⟨work, started, rfl⟩
      exact upToDate.workStart started
  | workRead =>
      simp only [State.step, Option.ite_none_right_eq_some, Option.some.injEq] at stepped
      rcases stepped with ⟨⟨running, _⟩, rfl⟩
      exact upToDate.workRead running
  | workSend armAccepted levelAccepted =>
      simp only [State.step] at stepped
      split at stepped
      · rename_i holding
        cases stepped
        exact upToDate.workSend holding armAccepted levelAccepted
      · cases stepped

theorem of_reachable (reachable : (revStrip gap).ReachableUnder State.PublishesFresh state) :
    UpToDate state := by
  apply reachable.invariant
  · intro start initial
    rcases initial with ⟨jiffies, leds, _, strip, _, rfl⟩
    exact probed strip
  · intro current event next upToDate fresh stepped
    exact upToDate.step fresh stepped

end UpToDate

/-- In every run whose last publication always stems from the newest mask, no update is lost. -/
theorem strip_shows_mask {gap : ℕ} {state : State}
    (reachable : (revStrip gap).ReachableUnder State.PublishesFresh state) :
    state.ShowsMask := by
  have upToDate := UpToDate.of_reachable reachable
  rintro ⟨noWriter, unbusy⟩ succeeded
  simp only [Item.busy, Bool.or_eq_false_iff, Option.isSome_eq_false_iff,
    Option.isNone_iff_eq_none] at unbusy
  have published := upToDate.published (by simp [State.someUnpublished, noWriter])
  have carried := (upToDate.carried (by simp [noWriter]) unbusy.1).2 unbusy.2 succeeded
  rw [published, wireLevel_g923Level upToDate.strip] at carried
  exact carried

/-- Two classdevs are lit one after the other, with the second mask read before the first level
is published. -/
theorem strip_shows_mask_two : ∃ state : State, state.ShowsMask ∧ state.Quiet ∧
    state.mask = 0b10001 ∧ state.wire = [5] := by
  have reached := System.ReachableUnder.of_check (revStrip 3) State.PublishesFresh
    (State.probed 1 5)
    [.brightnessSet 0 true, .readMask 0, .brightnessSet 4 true, .readMask 1, .writeTarget 0,
      .writeTarget 1, .queueWork 0, .queueWork 0, .workStart, .workRead, .workSend true true]
    (fun state => state.writers.isEmpty && !state.work.busy && state.mask == 0b10001 &&
      state.wire == [5])
    ⟨1, 5, by decide, by decide, by decide, rfl⟩ (by decide) (by decide)
  rcases reached with ⟨state, reachable, checked⟩
  simp only [Bool.and_eq_true, List.isEmpty_iff, Bool.not_eq_true', beq_iff_eq] at checked
  rcases checked with ⟨⟨⟨noWriter, unbusy⟩, mask⟩, wire⟩
  exact ⟨state, strip_shows_mask reachable, ⟨noWriter, unbusy⟩, mask, wire⟩

/-- The writer of the lowest classdev publishes the level of its own mask after the writer of the
highest: the strip stays at one LED of five. -/
theorem strip_loses_update : ∃ state, (revStrip 3).Reachable state ∧ ¬state.ShowsMask := by
  have reached : ((revStrip 3).run (State.probed 1 5)
      [.brightnessSet 0 true, .readMask 0, .brightnessSet 4 true, .readMask 1, .writeTarget 1,
        .writeTarget 0, .queueWork 0, .queueWork 0, .workStart, .workRead,
        .workSend true true]).any (fun state => state.writers.isEmpty && !state.work.busy &&
      state.lastSucceeded && state.wire == [1] && g923Level state.leds state.mask == 5) = true := by
    decide
  rcases (Option.any_eq_true _ _).mp reached with ⟨state, executed, checked⟩
  refine ⟨state, System.Reachable.of_run _ _ ⟨1, 5, by decide, by decide, by decide, rfl⟩ executed,
    ?_⟩
  intro shows
  simp only [Bool.and_eq_true, List.isEmpty_iff, Bool.not_eq_true', beq_iff_eq] at checked
  rcases checked with ⟨⟨⟨⟨noWriter, unbusy⟩, succeeded⟩, wire⟩, level⟩
  have shown := shows ⟨noWriter, unbusy⟩ succeeded
  rw [wire, level] at shown
  cases shown

end G923

end TrueForce.Lights
