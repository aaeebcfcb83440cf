import TrueForce.TfSim.NativeTitles
import TrueForce.TfSim.StandbyTiming

/-!
# The generation clock against the wall clock

An observer counts the audio that the iterations render, in milliseconds.  The
generation clock of a session follows the wall clock by what is rendered, by captured
samples, and by a backlog that is dropped; while captured samples have precedence it
stands still.
-/

namespace TrueForce.TfSim.Daemon

open TrueForce.Transition

structure Pace where
  state : State
  clock : ℕ
  audioMs : ℕ
  deriving DecidableEq

/-- What a block that is due lasts. -/
def dueMs (around : Surroundings) (active : Active) : ℕ :=
  ((planGeneration ((around.now - active.lastGen) / milliseconds 1)).map GenPlan.audioMs).getD 0

/-- The milliseconds that an iteration renders for the session it feeds. -/
def renderedMs (config : Config) (around : Surroundings) (state : State) : ℕ :=
  match state.active with
  | none => 0
  | some active =>
      if (added state (feed config around state)).any Entry.isBlock then dueMs around active else 0

/-- What the feed of an iteration finds. -/
def readied (config : Config) (around : Surroundings) (state : State) : State :=
  takeCaptured config around (takeTelemetry config around state)

namespace Pace

def initial (now : ℕ) : Pace := ⟨State.initial now, now, 0⟩

def iterate (config : Config) (pace : Pace) (around : Surroundings) : Pace :=
  { state := Daemon.iterate config pace.state around
    clock := around.now
    audioMs := pace.audioMs + renderedMs config around (readied config around pace.state) }

/-- Where the generation clock is; without a session it goes with the wall clock. -/
def mark (pace : Pace) : ℕ :=
  match pace.state.active with
  | none => pace.clock
  | some active => active.lastGen

end Pace

/-- The iterations come in the order of time. -/
def paced (config : Config) : System Pace Surroundings where
  initial pace := ∃ now, pace = Pace.initial now
  step pace around := if pace.clock ≤ around.now then some (pace.iterate config around) else none

section Iterations

variable {config : Config} {around : Surroundings} {state : State}

theorem planGeneration_eq_none {elapsed : ℕ} (idle : planGeneration elapsed = none) :
    elapsed = 0 := by
  simp only [planGeneration] at idle
  split at idle
  · rename_i none
    rw [maxGenMs] at none
    omega
  · cases idle

/-- A plan renders at most the cap and takes the generation clock to within a millisecond of now,
by no less than it renders, and by exactly that unless a backlog is dropped. -/
theorem advance_between {now lastGen : ℕ} {plan : GenPlan} (behind : lastGen ≤ now)
    (planned : planGeneration ((now - lastGen) / milliseconds 1) = some plan) :
    plan.audioMs ≤ maxGenMs ∧ plan.advance now lastGen ≤ now ∧
      now - plan.advance now lastGen < milliseconds 1 ∧
      lastGen + milliseconds plan.audioMs ≤ plan.advance now lastGen ∧
      (now - lastGen < milliseconds (maxGenMs + 1) →
        plan.advance now lastGen = lastGen + milliseconds plan.audioMs) := by
  simp only [planGeneration] at planned
  split at planned
  · cases planned
  · rename_i due
    clear due
    cases planned
    simp only [GenPlan.advance, milliseconds, maxGenMs]
    by_cases backlog : 100 < (now - lastGen) / (1 * 1000000)
    · simp only [backlog, decide_true, if_true]
      omega
    · simp only [backlog, decide_false, Bool.false_eq_true, if_false]
      exact ⟨by omega, by omega, by omega, by omega, fun _ => trivial⟩

/-- The session is an earlier one whose generation clock stands, or a new one or one with captured
samples, whose clock is at now. -/
inductive Carried (around : Surroundings) (state : State) (next : Active) : Prop where
  | stood (active : Active) (before : state.active = some active)
      (gen : next.lastGen = active.lastGen) (captured : next.lastCaptured = active.lastCaptured)
  | reset (gen : next.lastGen = around.now)
      (reason : around.captured ≠ [] ∨ state.active = none)

theorem begun_lastGen {id : RustText.Text} (idle : state.active = none) :
    ∀ next ∈ (openForTelemetry config around id state).active, next.lastGen = around.now := by
  have none : ∀ next ∈ state.active, next.lastGen = around.now := by
    rw [idle]
    simp
  have lights : ∀ next ∈ (openLights around id state).active, next.lastGen = around.now := by
    rw [openLights]
    split
    · rintro _ ⟨⟩
      rfl
    · exact none
  rw [openForTelemetry]
  split
  · exact lights
  · split
    · exact none
    · split
      · split
        · rintro _ ⟨⟩
          rfl
        · split
          · exact lights
          · exact none
        · exact none
      · exact none

theorem takeTelemetry_carried {next : Active}
    (running : next ∈ (takeTelemetry config around state).active) :
    Carried around state next := by
  rw [takeTelemetry] at running
  split at running
  · exact .stood next running rfl rfl
  · split at running
    · split at running
      · rename_i active before
        cases running
        exact .stood active before rfl rfl
      · rename_i idle
        exact .reset (begun_lastGen idle next running) (Or.inr idle)
    · exact .stood next running rfl rfl

theorem takeCaptured_of_isEmpty (quiet : around.captured = []) :
    takeCaptured config around state = state := by
  rw [takeCaptured, quiet]
  rfl

theorem takeCaptured_lastGen {next : Active} (burst : around.captured ≠ [])
    (running : next ∈ (takeCaptured config around state).active) :
    next.lastGen = around.now := by
  rw [takeCaptured, if_neg (by simpa using burst)] at running
  split at running
  · rename_i active before
    dsimp only at running
    split at running
    · rw [State.pushTo_active] at running
      cases running
      exact retake_lastGen _
    · cases running
      exact retake_lastGen _
  · rename_i idle
    split at running
    · split at running
      · cases running
        rfl
      · rw [State.retryLater, idle] at running
        cases running
    · rw [idle] at running
      cases running

theorem afterBlock_lastGen (active : Active) (plan : GenPlan) :
    (afterBlock around active plan).1.lastGen = plan.advance around.now active.lastGen := by
  simp only [afterBlock]
  cases (heard around active plan).2 with
  | stay => rfl
  | enterStandby => rfl
  | resume =>
      simp only [followGate]
      split <;> rfl

/-- What the feed does to a session that goes on. -/
inductive Fed (config : Config) (around : Surroundings) (state : State) (active next : Active) :
    Prop where
  | outranked (first : capturedHasPrecedence
      (next.lastCaptured.map fun time => around.now - time) = true)
      (same : next = active) (nothing : renderedMs config around state = 0)
  | early (due : planGeneration ((around.now - active.lastGen) / milliseconds 1) = none)
      (same : next = active) (nothing : renderedMs config around state = 0)
  | rendered (plan : GenPlan)
      (planned : planGeneration ((around.now - active.lastGen) / milliseconds 1) = some plan)
      (gen : next.lastGen = plan.advance around.now active.lastGen)
      (captured : next.lastCaptured = active.lastCaptured)
      (audio : renderedMs config around state = plan.audioMs)

theorem renderedMs_eq {active : Active} {new : List Entry} (running : state.active = some active)
    (grown : (feed config around state).log = new ++ state.log) :
    renderedMs config around state =
      if new.any Entry.isBlock then dueMs around active else 0 := by
  simp only [renderedMs, running, added_eq grown]

theorem feed_fed {active next : Active} (running : state.active = some active)
    (onward : next ∈ (feed config around state).active) :
    Fed config around state active next := by
  have still : feed config around state = state → renderedMs config around state = 0 := by
    intro same
    rw [@renderedMs_eq config around state active [] running (by rw [same]; rfl)]
    rfl
  by_cases first : capturedHasPrecedence
      (active.lastCaptured.map fun time => around.now - time) = true
  · have same : feed config around state = state := by
      simp only [feed, running, first, if_true]
    rw [same, running] at onward
    cases onward
    exact .outranked first rfl (still same)
  · by_cases silent : milliseconds silenceTimeoutMs ≤ around.now - active.lastTelemetry
    · simp only [feed, running, first, silent, if_true] at onward
      cases onward
    · have goes : feed config around state = generate config around active state := by
        simp only [feed, running, first, Bool.false_eq_true, if_false, silent]
      cases planned : planGeneration ((around.now - active.lastGen) / milliseconds 1) with
      | none =>
          have same : feed config around state = state := by
            rw [goes]
            simp only [generate, planned]
          rw [same, running] at onward
          cases onward
          exact .early planned rfl (still same)
      | some plan =>
          rcases @generate_cases config around state active plan planned with
            ⟨fed, free, grown, following⟩
          rw [goes] at onward
          have shape := following next onward
          subst shape
          refine .rendered plan planned (afterBlock_lastGen active plan)
            (Metering.afterBlock_keeps active plan).2.2 ?_
          rw [← goes, ← List.singleton_append, ← List.append_assoc, ← List.append_assoc] at grown
          rw [renderedMs_eq running grown, dueMs, planned]
          simp [Entry.isBlock]

theorem readied_carried {next : Active}
    (running : next ∈ (readied config around state).active) : Carried around state next := by
  by_cases quiet : around.captured = []
  · rw [readied, takeCaptured_of_isEmpty quiet] at running
    exact takeTelemetry_carried running
  · exact .reset (takeCaptured_lastGen quiet running) (Or.inl quiet)

theorem iterate_fed {next : Active} (onward : next ∈ (iterate config state around).active) :
    ∃ active, (readied config around state).active = some active ∧
      Fed config around (readied config around state) active next := by
  change next ∈ (feed config around (readied config around state)).active at onward
  cases running : (readied config around state).active with
  | none =>
      simp only [feed, running] at onward
      cases onward
  | some active => exact ⟨active, rfl, feed_fed running onward⟩

theorem dueMs_between {active : Active} (behind : active.lastGen ≤ around.now) :
    dueMs around active ≤ maxGenMs ∧
      active.lastGen + milliseconds (dueMs around active) ≤ around.now := by
  rw [dueMs]
  cases planned : planGeneration ((around.now - active.lastGen) / milliseconds 1) with
  | none => exact ⟨Nat.zero_le _, behind⟩
  | some plan =>
      rcases advance_between behind planned with ⟨capped, here, -, least, -⟩
      exact ⟨capped, Nat.le_trans least here⟩

theorem renderedMs_le {active : Active} (running : state.active = some active) :
    renderedMs config around state ≤ dueMs around active := by
  simp only [renderedMs, running]
  split
  · exact Nat.le_refl _
  · exact Nat.zero_le _

/-- Captured samples that no longer have precedence do not get it back by waiting. -/
theorem not_precedence_later {captured : Option ℕ} {clock now : ℕ} (ordered : clock ≤ now)
    (yields : capturedHasPrecedence (captured.map fun time => clock - time) = false) :
    capturedHasPrecedence (captured.map fun time => now - time) = false := by
  cases captured with
  | none => rfl
  | some time =>
      simp only [capturedHasPrecedence, Option.map_some, Option.any_some,
        decide_eq_false_iff_not] at yields ⊢
      omega

end Iterations

namespace Pace

variable {config : Config} {around : Surroundings} {pace : Pace}

structure Kept (pace : Pace) : Prop where
  behind : ∀ active ∈ pace.state.active, active.lastGen ≤ pace.clock
  near : ∀ active ∈ pace.state.active,
    capturedHasPrecedence (active.lastCaptured.map fun time => pace.clock - time) = false →
      pace.clock - active.lastGen < milliseconds 1

theorem mark_running {active : Active} (running : pace.state.active = some active) :
    pace.mark = active.lastGen := by
  simp only [mark, running]

theorem mark_idle (idle : pace.state.active = none) : pace.mark = pace.clock := by
  simp only [mark, idle]

/-- The feed finds the generation clock between where it was and now. -/
theorem Kept.readied (kept : Kept pace) (ordered : pace.clock ≤ around.now) {active : Active}
    (running : (readied config around pace.state).active = some active) :
    pace.mark ≤ active.lastGen ∧ active.lastGen ≤ around.now := by
  cases readied_carried running with
  | stood earlier before gen captured =>
      have behind := kept.behind earlier before
      rw [mark, before, gen]
      exact ⟨Nat.le_refl _, Nat.le_trans behind ordered⟩
  | reset gen reason =>
      rw [gen, mark]
      refine ⟨?_, Nat.le_refl _⟩
      split
      · exact ordered
      · rename_i earlier before
        exact Nat.le_trans (kept.behind earlier before) ordered

theorem Kept.renderedMs_le (kept : Kept pace) (ordered : pace.clock ≤ around.now) :
    renderedMs config around (Daemon.readied config around pace.state) ≤ maxGenMs ∧
      pace.mark + milliseconds (renderedMs config around (Daemon.readied config around pace.state)) ≤
        around.now := by
  cases running : (Daemon.readied config around pace.state).active with
  | none =>
      have nothing : renderedMs config around (Daemon.readied config around pace.state) = 0 := by
        simp only [renderedMs, running]
      have behind : pace.mark ≤ pace.clock := by
        rw [mark]
        split
        · exact Nat.le_refl _
        · rename_i active before
          exact kept.behind active before
      rw [nothing, milliseconds]
      omega
  | some active =>
      have rendered := @Daemon.renderedMs_le config around _ active running
      rcases kept.readied ordered running with ⟨later, behind⟩
      have due := dueMs_between behind
      simp only [milliseconds] at due ⊢
      omega

/-- What an iteration leaves of a session that goes on. -/
theorem Kept.onward (kept : Kept pace) (ordered : pace.clock ≤ around.now) {next : Active}
    (onward : next ∈ (pace.iterate config around).state.active) :
    next.lastGen ≤ around.now ∧
      pace.mark + milliseconds (renderedMs config around (Daemon.readied config around pace.state)) ≤
        next.lastGen ∧
      (capturedHasPrecedence (next.lastCaptured.map fun time => around.now - time) = false ∨
          0 < renderedMs config around (Daemon.readied config around pace.state) →
        around.now - next.lastGen < milliseconds 1) := by
  rcases iterate_fed onward with ⟨active, running, fed⟩
  rcases kept.readied ordered running with ⟨later, behind⟩
  cases fed with
  | outranked first same nothing =>
      subst same
      rw [nothing, milliseconds]
      refine ⟨behind, by omega, ?_⟩
      rintro (yields | rendered)
      · rw [first] at yields
        cases yields
      · omega
  | early due same nothing =>
      subst same
      have idle := planGeneration_eq_none due
      rw [nothing]
      simp only [milliseconds] at idle ⊢
      omega
  | rendered plan planned gen captured audio =>
      rcases advance_between behind planned with ⟨-, here, near, least, -⟩
      rw [audio, gen]
      exact ⟨here, by omega, fun _ => near⟩

theorem Kept.iterate (kept : Kept pace) (ordered : pace.clock ≤ around.now) :
    Kept (pace.iterate config around) where
  behind _ onward := (kept.onward ordered onward).1
  near _ onward yields := (kept.onward ordered onward).2.2 (Or.inl yields)

theorem Kept.mark_iterate (kept : Kept pace) (ordered : pace.clock ≤ around.now) :
    pace.mark + milliseconds (renderedMs config around (Daemon.readied config around pace.state)) ≤
      (pace.iterate config around).mark := by
  cases running : (pace.iterate config around).state.active with
  | none =>
      rw [mark_idle running]
      exact (kept.renderedMs_le ordered).2
  | some next =>
      rw [mark_running running]
      exact (kept.onward ordered running).2.1

theorem Kept.mark_le (kept : Kept pace) : pace.mark ≤ pace.clock := by
  rw [mark]
  split
  · exact Nat.le_refl _
  · rename_i active before
    exact kept.behind active before

theorem kept_of_reachable (reachable : (paced config).Reachable pace) : Kept pace := by
  apply reachable.invariant
  · rintro start ⟨now, rfl⟩
    exact ⟨by simp [initial, State.initial], by simp [initial, State.initial]⟩
  · intro current around next kept _ stepped
    simp only [paced, Option.ite_none_right_eq_some, Option.some.injEq] at stepped
    rcases stepped with ⟨ordered, rfl⟩
    exact kept.iterate ordered

theorem milliseconds_add (first second : ℕ) :
    milliseconds (first + second) = milliseconds first + milliseconds second :=
  Nat.add_mul _ _ _

/-- What is rendered from here on is what the first iteration renders and what the others do. -/
theorem audioMs_split {last : Pace} (more : (pace.iterate config around).audioMs ≤ last.audioMs) :
    pace.audioMs ≤ last.audioMs ∧ last.audioMs - pace.audioMs =
      renderedMs config around (Daemon.readied config around pace.state) +
        (last.audioMs - (pace.iterate config around).audioMs) := by
  have audio : (pace.iterate config around).audioMs = pace.audioMs +
    renderedMs config around (Daemon.readied config around pace.state) := rfl
  rw [audio] at more ⊢
  omega

theorem run_mark {events : List Surroundings} {last : Pace} (kept : Kept pace)
    (executed : (paced config).run pace events = some last) :
    Kept last ∧ pace.audioMs ≤ last.audioMs ∧
      pace.mark + milliseconds (last.audioMs - pace.audioMs) ≤ last.mark := by
  induction events generalizing pace with
  | nil =>
      cases executed
      refine ⟨kept, Nat.le_refl _, ?_⟩
      rw [Nat.sub_self, milliseconds]
      omega
  | cons around events ih =>
      simp only [System.run, Option.bind_eq_some_iff] at executed
      rcases executed with ⟨next, stepped, rest⟩
      simp only [paced, Option.ite_none_right_eq_some, Option.some.injEq] at stepped
      rcases stepped with ⟨ordered, rfl⟩
      have here := @Kept.mark_iterate config around pace kept ordered
      rcases ih (kept.iterate ordered) rest with ⟨after, more, account⟩
      rcases audioMs_split more with ⟨grown, split⟩
      refine ⟨after, grown, ?_⟩
      rw [split, milliseconds_add, ← Nat.add_assoc]
      exact Nat.le_trans (Nat.add_le_add_right here _) account

/-- Nothing is captured, the gap is within the cap, and the session goes on. -/
def Steady (config : Config) (pace : Pace) (around : Surroundings) : Prop :=
  around.captured = [] ∧ around.now - pace.clock ≤ milliseconds maxGenMs ∧
    (pace.iterate config around).state.active.isSome = true

/-- The session under way is past the precedence of captured samples. -/
def Yielded (pace : Pace) (active : Active) : Prop :=
  pace.state.active = some active ∧
    capturedHasPrecedence (active.lastCaptured.map fun time => pace.clock - time) = false

/-- A steady iteration moves the generation clock by what it renders. -/
theorem Kept.steady (kept : Kept pace) (ordered : pace.clock ≤ around.now) {active : Active}
    (yielded : Yielded pace active) (steady : Steady config pace around) :
    ∃ next, Yielded (pace.iterate config around) next ∧
      next.lastGen = active.lastGen +
        milliseconds (renderedMs config around (Daemon.readied config around pace.state)) := by
  rcases yielded with ⟨before, yields⟩
  rcases steady with ⟨quiet, short, goes⟩
  rcases Option.isSome_iff_exists.mp goes with ⟨next, onward⟩
  rcases iterate_fed onward with ⟨ready, running, fed⟩
  have near := kept.near active before yields
  have behind := kept.behind active before
  have later := not_precedence_later ordered yields
  cases readied_carried running with
  | reset gen reason =>
      rcases reason with burst | idle
      · exact absurd quiet burst
      · rw [before] at idle
        cases idle
  | stood earlier same gen captured =>
      rw [before] at same
      cases same
      cases fed with
      | outranked first same nothing =>
          rw [same, captured, later] at first
          cases first
      | early due same nothing =>
          refine ⟨next, ⟨onward, ?_⟩, ?_⟩
          · rw [same, captured]
            exact later
          · rw [nothing, same, gen, milliseconds]
            rfl
      | rendered plan planned following unchanged audio =>
          refine ⟨next, ⟨onward, ?_⟩, ?_⟩
          · rw [unchanged, captured]
            exact later
          · have capped : around.now - ready.lastGen < milliseconds (maxGenMs + 1) := by
              rw [gen]
              simp only [milliseconds, maxGenMs] at near short ⊢
              omega
            have behind : ready.lastGen ≤ around.now := by omega
            rw [following, audio, (advance_between behind planned).2.2.2.2 capped, gen]

theorem run_steady {events : List Surroundings} {last : Pace} (kept : Kept pace) {active : Active}
    (yielded : Yielded pace active) (executed : (paced config).run pace events = some last)
    (steady : (paced config).RunMeets (Steady config) pace events) :
    ∃ next, Yielded last next ∧
      next.lastGen = active.lastGen + milliseconds (last.audioMs - pace.audioMs) := by
  induction events generalizing pace active with
  | nil =>
      cases executed
      refine ⟨active, yielded, ?_⟩
      rw [Nat.sub_self, milliseconds]
      rfl
  | cons around events ih =>
      simp only [System.run, Option.bind_eq_some_iff] at executed
      rcases executed with ⟨next, stepped, rest⟩
      simp only [System.RunMeets, stepped] at steady
      simp only [paced, Option.ite_none_right_eq_some, Option.some.injEq] at stepped
      rcases stepped with ⟨ordered, rfl⟩
      rcases kept.steady ordered yielded steady.1 with ⟨following, yielded, gen⟩
      have onward := @Kept.iterate config around pace kept ordered
      rcases ih onward yielded rest steady.2 with ⟨final, yielded, account⟩
      have more := (run_mark onward rest).2.1
      refine ⟨final, yielded, ?_⟩
      rw [(audioMs_split more).2, milliseconds_add, ← Nat.add_assoc, ← gen]
      exact account

end Pace

open Pace

/-- The generation clock never runs ahead.  An iteration renders a hundred milliseconds at most and
comes to within one of the wall clock if it renders any; a run renders no more than the time since
the generation clock it starts from, and, where nothing is captured and no gap exceeds the cap,
every whole millisecond of it. -/
theorem generation_pacing_law (config : Config) :
    (∀ pace, (paced config).Reachable pace →
      (∀ active ∈ pace.state.active, active.lastGen ≤ pace.clock) ∧
        ∀ around next, (paced config).step pace around = some next →
          next.audioMs ≤ pace.audioMs + maxGenMs ∧
            (pace.audioMs < next.audioMs → ∀ active ∈ next.state.active,
              next.clock - active.lastGen < milliseconds 1)) ∧
    ∀ start events last active, (paced config).Reachable start →
      start.state.active = some active → (paced config).run start events = some last →
        active.lastGen + milliseconds (last.audioMs - start.audioMs) ≤ last.clock ∧
          (capturedHasPrecedence (active.lastCaptured.map fun time => start.clock - time) = false →
            (paced config).RunMeets (Steady config) start events →
              last.audioMs - start.audioMs = (last.clock - active.lastGen) / milliseconds 1) := by
  refine ⟨?_, ?_⟩
  · intro pace reachable
    have kept := kept_of_reachable reachable
    refine ⟨kept.behind, ?_⟩
    intro around next stepped
    simp only [paced, Option.ite_none_right_eq_some, Option.some.injEq] at stepped
    rcases stepped with ⟨ordered, rfl⟩
    refine ⟨Nat.add_le_add_left (kept.renderedMs_le ordered).1 _, ?_⟩
    intro rendered active onward
    exact (kept.onward ordered onward).2.2 (Or.inr (Nat.pos_of_lt_add_right rendered))
  · intro start events last active reachable running executed
    have kept := kept_of_reachable reachable
    rcases run_mark kept executed with ⟨after, -, account⟩
    rw [mark_running running] at account
    refine ⟨Nat.le_trans account after.mark_le, ?_⟩
    intro yields steady
    rcases run_steady kept ⟨running, yields⟩ executed steady with ⟨final, ⟨ends, yields⟩, gen⟩
    have near := after.near final ends yields
    have behind := after.behind final ends
    simp only [milliseconds] at gen near ⊢
    omega

instance (config : Config) (pace : Pace) (around : Surroundings) :
    Decidable (Steady config pace around) :=
  inferInstanceAs (Decidable (_ ∧ _ ∧ _))

/-- Force from telemetry that keeps coming, `time` milliseconds on. -/
def rolling (time : ℕ) : Surroundings := driving "assetto".toList time 0x3f000000 true

/-- The iteration that opens the session, and three more with uneven gaps. -/
def opened : Pace := (Pace.initial 0).iterate default (rolling 0)

def unevenGaps : List Surroundings :=
  [rolling 50, rolling 130, { rolling 151 with now := milliseconds 151 + 900000 }]

theorem generation_pacing_law_uneven_gaps :
    ∃ last active, opened.state.active = some active ∧
      (paced default).run opened unevenGaps = some last ∧
      last.audioMs - opened.audioMs = (last.clock - active.lastGen) / milliseconds 1 ∧
      last.audioMs = 151 := by
  have reachable : (paced default).Reachable opened :=
    System.Reachable.of_run (Pace.initial 0) [rolling 0] ⟨0, rfl⟩ rfl
  have running : opened.state.active = some _ := rfl
  have executed : (paced default).run opened unevenGaps = some _ := rfl
  have steady : (paced default).RunMeets (Steady default) opened unevenGaps := by
    decide +kernel
  have law := (generation_pacing_law default).2 opened unevenGaps _ _ reachable running executed
  exact ⟨_, _, running, executed, law.2 rfl steady, rfl⟩

end TrueForce.TfSim.Daemon
