import TrueForce.TfSim.Daemon
import Mathlib.Data.List.Basic

/-!
# When the daemon parks a session, and how old the telemetry it renders is

An observer meters the audio of the session under way: the zeros at its end, in
samples, and when the telemetry sample that is rendered arrived.  Captured samples
are part of the audio, and neither reset the gate's own count of zeros nor make the
telemetry any younger, though the watchdog takes them for telemetry.
-/

namespace TrueForce.TfSim.Daemon

open RustText TrueForce.Transition

/-- The zeros at the end of the audio once some more samples are heard. -/
def zerosAfter (zeros : ℕ) (samples : List Sample) : ℕ :=
  samples.foldl (fun zeros sample => if sample.isZero then zeros + 1 else 0) zeros

/-- The same for a block; a silent one counts for the time it covers. -/
def zerosAfterBlock (around : Surroundings) (active : Active) (zeros : ℕ) : ℕ :=
  match planGeneration ((around.now - active.lastGen) / milliseconds 1) with
  | none => zeros
  | some plan =>
      if (around.rendered plan.samples).all Sample.isZero then zeros + plan.samples
      else zerosAfter 0 (around.rendered plan.samples)

def Entry.isBlock : Entry → Bool
  | .block _ => true
  | _ => false

/-- The entries that a phase of an iteration adds to the log. -/
def added (before after : State) : List Entry :=
  after.log.take (after.log.length - before.log.length)

structure Meter where
  state : State
  clock : ℕ
  zeros : ℕ
  /-- When the telemetry of the session arrived. -/
  told : Option ℕ
  /-- The zeros at the end of the audio of a stream at each standby. -/
  parkings : List ℕ
  /-- The age of the telemetry at each block, where there was any. -/
  ages : List (Option ℕ)
  deriving DecidableEq

namespace Meter

def initial (now : ℕ) : Meter where
  state := State.initial now
  clock := now
  zeros := 0
  told := none
  parkings := []
  ages := []

def takeTelemetry (config : Config) (around : Surroundings) (meter : Meter) : Meter :=
  let state := Daemon.takeTelemetry config around meter.state
  { meter with
    state
    clock := around.now
    zeros := if meter.state.active.isNone then 0 else meter.zeros
    told :=
      if state.active.isNone then none
      else if around.latest.any (gameEnabled config) then some around.now
      else meter.told }

/-- Captured samples are heard where they are pushed. -/
def takeCaptured (config : Config) (around : Surroundings) (meter : Meter) : Meter :=
  let state := Daemon.takeCaptured config around meter.state
  { meter with
    state
    zeros :=
      if meter.state.active.isNone then 0
      else if state.active.any fun active => active.lease.isSome then
        zerosAfter meter.zeros around.captured
      else meter.zeros }

/-- A block goes to the stream, or parks it, unless the session is parked and stays so. -/
def counts (active : Active) (after : State) : Bool :=
  !(active.gate.standby && after.active.any fun next => next.gate.standby)

def feed (config : Config) (around : Surroundings) (meter : Meter) : Meter :=
  let state := Daemon.feed config around meter.state
  match meter.state.active with
  | none => { meter with state }
  | some active =>
      if (added meter.state state).any Entry.isBlock then
        let zeros :=
          if counts active state then zerosAfterBlock around active meter.zeros else meter.zeros
        { meter with
          state
          zeros
          parkings :=
            if active.stream.isSome ∧ .standby ∈ added meter.state state then
              zeros :: meter.parkings
            else meter.parkings
          ages := meter.told.map (around.now - ·) :: meter.ages }
      else { meter with state }

def iterate (config : Config) (meter : Meter) (around : Surroundings) : Meter :=
  ((meter.takeTelemetry config around).takeCaptured config around).feed config around

end Meter

/-- The runs of the daemon with the meter beside it. -/
def metered (config : Config) : System Meter Surroundings where
  initial meter := ∃ now, meter = Meter.initial now
  step meter around := some (meter.iterate config around)

/-- A session is parked after a grace period of zeros only, and blocks are rendered from fresh
telemetry only. -/
structure TimingKept (meter : Meter) : Prop where
  parkings : ∀ zeros ∈ meter.parkings, zeroForceStandbyMs * samplesPerMs ≤ zeros
  ages : ∀ age ∈ meter.ages, ∃ time ∈ age, time < milliseconds silenceTimeoutMs

/-- The clock does not run backwards. -/
def ClockRuns (meter : Meter) (around : Surroundings) : Prop := meter.clock ≤ around.now

/-- No force comes from captured samples while the gate of a stream counts zeros. -/
def BurstsFindNoZeros (state : State) (around : Surroundings) : Prop :=
  ∀ active ∈ state.active, active.stream.isSome = true → active.lease.isSome = true →
    around.captured.all Sample.isZero = true ∨ active.gate.zeroMs = 0

/-- When a burst that was the last to feed the watchdog loses its precedence, the telemetry is
still fresh. -/
def BurstsLapseFresh (config : Config) (meter : Meter) (around : Surroundings) : Prop :=
  around.captured = [] → around.latest.any (gameEnabled config) = false →
    ∀ active ∈ meter.state.active, active.lastCaptured = some active.lastTelemetry →
      milliseconds capturedPrecedenceMs ≤ around.now - active.lastTelemetry →
      around.now - active.lastTelemetry < milliseconds silenceTimeoutMs →
      ∃ time ∈ meter.told, around.now - time < milliseconds silenceTimeoutMs

def BurstsHarmless (config : Config) (meter : Meter) (around : Surroundings) : Prop :=
  BurstsFindNoZeros meter.state around ∧ BurstsLapseFresh config meter around

instance (meter : Meter) (around : Surroundings) : Decidable (ClockRuns meter around) :=
  inferInstanceAs (Decidable (meter.clock ≤ around.now))

instance (config : Config) (meter : Meter) (around : Surroundings) :
    Decidable (BurstsHarmless config meter around) :=
  inferInstanceAs (Decidable ((∀ active ∈ meter.state.active, active.stream.isSome = true →
      active.lease.isSome = true →
      around.captured.all Sample.isZero = true ∨ active.gate.zeroMs = 0) ∧
    (around.captured = [] → around.latest.any (gameEnabled config) = false →
      ∀ active ∈ meter.state.active, active.lastCaptured = some active.lastTelemetry →
        milliseconds capturedPrecedenceMs ≤ around.now - active.lastTelemetry →
        around.now - active.lastTelemetry < milliseconds silenceTimeoutMs →
        ∃ time ∈ meter.told, around.now - time < milliseconds silenceTimeoutMs)))

theorem added_eq {before after : State} {new : List Entry} (grown : after.log = new ++ before.log) :
    added before after = new := by
  rw [added, grown, List.length_append, Nat.add_sub_cancel, List.take_left']
  rfl

section Iterations

variable {config : Config} {around : Surroundings} {state : State}

theorem standby_of_mem_followGate {active : Active} {action : GateAction}
    (parks : .standby ∈ (followGate around active action).2) : action = .enterStandby := by
  cases action with
  | stay => cases parks
  | enterStandby => rfl
  | resume =>
      simp only [followGate] at parks
      split at parks
      · simp at parks
      · simp at parks

theorem pushTo_log (source : Source) (active : Active) :
    ∃ new, (state.pushTo config around source active).log = new ++ state.log ∧
      .standby ∉ new := by
  rw [State.pushTo]
  split
  · exact ⟨[_], rfl, by simp⟩
  · exact ⟨[], rfl, by simp⟩

/-- What a block hears, and the gate's answer to it. -/
def heard (around : Surroundings) (active : Active) (plan : GenPlan) : SilenceGate × GateAction :=
  active.gate.observe ((around.rendered plan.samples).all Sample.isZero) plan.audioMs

def afterBlock (around : Surroundings) (active : Active) (plan : GenPlan) : Active × List Entry :=
  followGate around { active with
    lastGen := plan.advance around.now active.lastGen
    gate := (heard around active plan).1 } (heard around active plan).2

/-- What one block does to the session and to the log. -/
theorem generate_cases {active : Active} {plan : GenPlan}
    (planned : planGeneration ((around.now - active.lastGen) / milliseconds 1) = some plan) :
    ∃ fed, .standby ∉ fed ∧
      (generate config around active state).log = fed ++ ((afterBlock around active plan).2 ++
        .block ((around.rendered plan.samples).all Sample.isZero) :: state.log) ∧
      ∀ next ∈ (generate config around active state).active,
        next = (afterBlock around active plan).1 := by
  simp only [generate, planned]
  split
  · refine ⟨[], by simp, rfl, ?_⟩
    rintro _ ⟨⟩
    rfl
  · rcases @pushTo_log config around { state with
        active := some (afterBlock around active plan).1
        log := (afterBlock around active plan).2 ++
          .block ((around.rendered plan.samples).all Sample.isZero) :: state.log }
        .synthesised (afterBlock around active plan).1 with ⟨fed, grown, free⟩
    split
    · refine ⟨.stopped :: fed, by simpa using free, ?_, by simp⟩
      exact congrArg (List.cons Entry.stopped) grown
    · refine ⟨fed, free, grown, ?_⟩
      intro next running
      rw [State.pushTo_active] at running
      cases running
      rfl

/-- Either nothing is rendered, or a block that is due is. -/
theorem feed_cases {active : Active} (running : state.active = some active) :
    ((added state (feed config around state)).any Entry.isBlock = false ∧
        ∀ next ∈ (feed config around state).active, next = active) ∨
      ∃ plan, planGeneration ((around.now - active.lastGen) / milliseconds 1) = some plan ∧
        capturedHasPrecedence (active.lastCaptured.map fun time => around.now - time) = false ∧
        around.now - active.lastTelemetry < milliseconds silenceTimeoutMs ∧
        (added state (feed config around state)).any Entry.isBlock = true ∧
        (.standby ∈ added state (feed config around state) →
          (heard around active plan).2 = .enterStandby) ∧
        ∀ next ∈ (feed config around state).active, next = (afterBlock around active plan).1 := by
  simp only [feed, running]
  split
  · left
    rw [@added_eq state state [] rfl]
    refine ⟨rfl, ?_⟩
    rw [running]
    rintro _ ⟨⟩
    rfl
  · rename_i due
    split
    · left
      rw [@added_eq state _ [.stopped] rfl]
      exact ⟨rfl, by simp⟩
    · rename_i fresh
      cases planned : planGeneration ((around.now - active.lastGen) / milliseconds 1) with
      | none =>
          left
          have same : generate config around active state = state := by
            simp only [generate, planned]
          rw [same, @added_eq state state [] rfl, running]
          refine ⟨rfl, ?_⟩
          rintro _ ⟨⟩
          rfl
      | some plan =>
          right
          rcases @generate_cases config around state active plan planned with
            ⟨fed, free, grown, next⟩
          have new : added state (generate config around active state) =
              fed ++ ((afterBlock around active plan).2 ++
                [.block ((around.rendered plan.samples).all Sample.isZero)]) := by
            apply added_eq
            rw [grown, List.append_assoc, List.append_assoc]
            rfl
          refine ⟨plan, rfl, (Bool.not_eq_true _).mp due, Nat.not_le.mp fresh, ?_, ?_, next⟩
          · rw [new]
            simp [Entry.isBlock]
          · rw [new]
            intro parks
            rcases List.mem_append.mp parks with before | after
            · exact absurd before free
            · apply standby_of_mem_followGate
              rcases List.mem_append.mp after with gate | block
              · exact gate
              · simp at block

/-- A session that is just opened has a fresh gate and telemetry, or captured samples, of now. -/
structure Begun (around : Surroundings) (active : Active) : Prop where
  gate : active.gate = .default
  telemetry : active.lastTelemetry = around.now

theorem openForTelemetry_begun (id : Text) (idle : state.active = none) :
    ∀ next ∈ (openForTelemetry config around id state).active, Begun around next := by
  have none : ∀ next ∈ state.active, Begun around next := by
    rw [idle]
    simp
  have lights : ∀ next ∈ (openLights around id state).active, Begun around next := by
    rw [openLights]
    split
    · rintro _ ⟨⟩
      exact ⟨rfl, rfl⟩
    · exact none
  rw [openForTelemetry]
  split
  · exact lights
  · split
    · exact none
    · split
      · split
        · rintro _ ⟨⟩
          exact ⟨rfl, rfl⟩
        · split
          · exact lights
          · exact none
        · exact none
      · exact none

/-- The telemetry of an enabled game has arrived. -/
def tells (config : Config) (around : Surroundings) : Bool :=
  around.latest.any (gameEnabled config)

/-- A session keeps all but its game and the time of its telemetry. -/
structure Retold (active next : Active) : Prop where
  stream : next.stream = active.stream
  lease : next.lease = active.lease
  gate : next.gate = active.gate
  captured : next.lastCaptured = active.lastCaptured

theorem takeTelemetry_cases {next : Active}
    (running : next ∈ (takeTelemetry config around state).active) :
    (∃ active, state.active = some active ∧ Retold active next ∧
        next.lastTelemetry =
          if tells config around then around.now else active.lastTelemetry) ∨
      state.active = none ∧ tells config around = true ∧ Begun around next := by
  rw [takeTelemetry] at running
  split at running
  · rename_i silent
    have untold : tells config around = false := by rw [tells, silent, Option.any_none]
    rw [untold]
    exact Or.inl ⟨next, running, ⟨rfl, rfl, rfl, rfl⟩, rfl⟩
  · rename_i id named
    split at running
    · rename_i enabled
      have told : tells config around = true := by rw [tells, named, Option.any_some, enabled]
      rw [told]
      split at running
      · rename_i active before
        cases running
        exact Or.inl ⟨active, before, ⟨rfl, rfl, rfl, rfl⟩, rfl⟩
      · rename_i idle
        exact Or.inr ⟨idle, rfl, openForTelemetry_begun id idle next running⟩
    · rename_i disabled
      have untold : tells config around = false := by
        rw [tells, named, Option.any_some]
        exact (Bool.not_eq_true _).mp disabled
      rw [untold]
      exact Or.inl ⟨next, running, ⟨rfl, rfl, rfl, rfl⟩, rfl⟩

/-- What captured samples do to a session. -/
inductive Burst (around : Surroundings) (active next : Active) : Prop where
  | pushed (lease : active.lease.isSome = true) (kept : next.lease = active.lease)
      (stream : next.stream = active.stream) (gate : next.gate = active.gate)
  | retaken (lease : next.lease.isSome = true) (gate : next.gate = .default)
  | dropped (lease : next.lease = none) (stream : next.stream = active.stream)
      (gate : next.gate = active.gate)

theorem retake_burst (active : Active) : Burst around active (retake around active).1 := by
  cases held : active.lease with
  | some lease =>
      simp only [retake, held]
      exact .pushed (by rw [held]; rfl) rfl rfl rfl
  | none =>
      simp only [retake, held]
      split
      · exact .retaken rfl rfl
      · exact .dropped rfl rfl rfl

theorem retake_times (active : Active) :
    (retake around active).1.lastTelemetry = active.lastTelemetry ∧
      (retake around active).1.lastCaptured = active.lastCaptured := by
  rw [retake]
  split
  · exact ⟨rfl, rfl⟩
  · split
    · exact ⟨rfl, rfl⟩
    · exact ⟨rfl, rfl⟩

theorem takeCaptured_cases {next : Active} (burst : around.captured ≠ [])
    (running : next ∈ (takeCaptured config around state).active) :
    next.lastTelemetry = around.now ∧ next.lastCaptured = some around.now ∧
      ((∃ active, state.active = some active ∧ Burst around active next) ∨
        state.active = none ∧ next.gate = .default) := by
  rw [takeCaptured, if_neg (by simpa using burst)] at running
  split at running
  · rename_i active before
    have shape : next = (retake around { active with
        lastTelemetry := around.now, lastGen := around.now,
        lastCaptured := some around.now }).1 := by
      dsimp only at running
      split at running
      · rw [State.pushTo_active] at running
        cases running
        rfl
      · cases running
        rfl
    subst shape
    rcases @retake_times around { active with
      lastTelemetry := around.now, lastGen := around.now, lastCaptured := some around.now } with
      ⟨telemetry, captured⟩
    refine ⟨telemetry, captured, Or.inl ⟨active, before, ?_⟩⟩
    cases @retake_burst around { active with
      lastTelemetry := around.now, lastGen := around.now, lastCaptured := some around.now } with
    | pushed lease kept stream gate => exact .pushed lease kept stream gate
    | retaken lease gate => exact .retaken lease gate
    | dropped lease stream gate => exact .dropped lease stream gate
  · rename_i idle
    split at running
    · split at running
      · cases running
        exact ⟨rfl, rfl, Or.inr ⟨idle, rfl⟩⟩
      · rw [State.retryLater, idle] at running
        cases running
    · rw [idle] at running
      cases running

theorem le_zerosAfter {zeros : ℕ} {samples : List Sample}
    (silent : samples.all Sample.isZero = true) : zeros ≤ zerosAfter zeros samples := by
  induction samples generalizing zeros with
  | nil => exact le_refl _
  | cons sample samples ih =>
      rw [List.all_cons, Bool.and_eq_true] at silent
      rw [zerosAfter, List.foldl_cons, if_pos silent.1]
      exact (Nat.le_succ zeros).trans (ih silent.2)

theorem planGeneration_samples {elapsed : ℕ} {plan : GenPlan}
    (planned : planGeneration elapsed = some plan) :
    plan.samples = plan.audioMs * samplesPerMs := by
  simp only [planGeneration] at planned
  split at planned
  · cases planned
  · cases planned
    rfl

end Iterations

/-- The gate of a stream counts no more zeros than there are, and a session's telemetry is as old
as the watchdog takes it to be unless captured samples have fed the watchdog. -/
structure Metering (meter : Meter) : Prop where
  zeros : ∀ active ∈ meter.state.active, active.stream.isSome = true →
    active.gate.standby = false → active.gate.zeroMs * samplesPerMs ≤ meter.zeros
  told : ∀ active ∈ meter.state.active, meter.told = some active.lastTelemetry ∨
    active.lastCaptured = some active.lastTelemetry
  kept : TimingKept meter

/-- What may be rendered is fresh. -/
def Fresh (around : Surroundings) (meter : Meter) : Prop :=
  ∀ active ∈ meter.state.active,
    capturedHasPrecedence (active.lastCaptured.map fun time => around.now - time) = false →
    around.now - active.lastTelemetry < milliseconds silenceTimeoutMs →
    ∃ time ∈ meter.told, around.now - time < milliseconds silenceTimeoutMs

namespace Metering

variable {config : Config} {around : Surroundings} {meter : Meter}

theorem takeTelemetry (metering : Metering meter) :
    Metering (meter.takeTelemetry config around) := by
  refine ⟨?_, ?_, metering.kept.parkings, metering.kept.ages⟩
  · intro next running streams awake
    rcases takeTelemetry_cases running with ⟨active, before, retold, -⟩ | ⟨-, -, begun⟩
    · rw [retold.stream] at streams
      rw [retold.gate] at awake ⊢
      simp only [Meter.takeTelemetry, before, Option.isNone_some, Bool.false_eq_true, if_false]
      exact metering.zeros active before streams awake
    · rw [begun.gate]
      exact Nat.zero_le _
  · intro next running
    have present : (Daemon.takeTelemetry config around meter.state).active = some next := running
    rcases takeTelemetry_cases running with ⟨active, before, retold, time⟩ | ⟨-, told, begun⟩
    · simp only [Meter.takeTelemetry, present, Option.isNone_some, Bool.false_eq_true, if_false]
      rw [time, retold.captured, ← tells.eq_1]
      by_cases told : tells config around = true
      · rw [if_pos told, if_pos told]
        exact Or.inl rfl
      · rw [if_neg told, if_neg told]
        exact metering.told active before
    · simp only [Meter.takeTelemetry, present, Option.isNone_some, Bool.false_eq_true, if_false]
      rw [← tells.eq_1, if_pos told, begun.telemetry]
      exact Or.inl rfl

/-- The condition on bursts survives the telemetry of the same iteration. -/
theorem burstsFindNoZeros (bursts : BurstsFindNoZeros meter.state around) :
    BurstsFindNoZeros (meter.takeTelemetry config around).state around := by
  intro next running streams leased
  rcases takeTelemetry_cases running with ⟨active, before, retold, -⟩ | ⟨-, -, begun⟩
  · rw [retold.stream] at streams
    rw [retold.lease] at leased
    rw [retold.gate]
    exact bursts active before streams leased
  · right
    rw [begun.gate]
    rfl

theorem fresh_takeTelemetry (metering : Metering meter)
    (lapse : BurstsLapseFresh config meter around) (quiet : around.captured = []) :
    Fresh around (meter.takeTelemetry config around) := by
  intro next running outranked recent
  have present : (Daemon.takeTelemetry config around meter.state).active = some next := running
  by_cases told : tells config around = true
  · refine ⟨around.now, ?_, ?_⟩
    · simp only [Meter.takeTelemetry, present, Option.isNone_some, Bool.false_eq_true, if_false]
      rw [← tells.eq_1, if_pos told]
      rfl
    · rw [Nat.sub_self]
      decide
  · have since : (meter.takeTelemetry config around).told = meter.told := by
      simp only [Meter.takeTelemetry, present, Option.isNone_some, Bool.false_eq_true, if_false]
      rw [← tells.eq_1, if_neg told]
    rw [since]
    rcases takeTelemetry_cases running with ⟨active, before, retold, time⟩ | ⟨-, other, -⟩
    · rw [if_neg told] at time
      rw [time] at recent
      rcases metering.told active before with heard | captured
      · exact ⟨active.lastTelemetry, heard, recent⟩
      · rw [retold.captured, captured] at outranked
        have past : milliseconds capturedPrecedenceMs ≤ around.now - active.lastTelemetry := by
          simpa [capturedHasPrecedence] using outranked
        exact lapse quiet ((Bool.not_eq_true _).mp told) active before captured past recent
    · exact absurd other told

theorem takeCaptured (metering : Metering meter) (bursts : BurstsFindNoZeros meter.state around) :
    Metering (meter.takeCaptured config around) := by
  by_cases quiet : around.captured = []
  · have same : Daemon.takeCaptured config around meter.state = meter.state := by
      rw [Daemon.takeCaptured, quiet]
      rfl
    refine ⟨?_, ?_, metering.kept.parkings, metering.kept.ages⟩
    · intro active running streams awake
      change active ∈ (Daemon.takeCaptured config around meter.state).active at running
      rw [same] at running
      have present : meter.state.active = some active := running
      have bound := metering.zeros active running streams awake
      simp only [Meter.takeCaptured, same, present, quiet, Option.isNone_some,
        Bool.false_eq_true, if_false]
      split
      · exact bound
      · exact bound
    · intro active running
      change active ∈ (Daemon.takeCaptured config around meter.state).active at running
      rw [same] at running
      exact metering.told active running
  · refine ⟨?_, ?_, metering.kept.parkings, metering.kept.ages⟩
    · intro next running streams awake
      rcases takeCaptured_cases quiet running with ⟨-, -, ⟨active, before, burst⟩ | ⟨-, gate⟩⟩
      · have present : (Daemon.takeCaptured config around meter.state).active = some next := running
        simp only [Meter.takeCaptured, present, before, Option.isNone_some, Bool.false_eq_true,
          if_false, Option.any_some]
        cases burst with
        | pushed lease kept stream gate =>
            rw [stream] at streams
            rw [gate] at awake ⊢
            rw [kept, if_pos lease]
            rcases bursts active before streams lease with silent | none
            · exact (metering.zeros active before streams awake).trans (le_zerosAfter silent)
            · rw [none, Nat.zero_mul]
              exact Nat.zero_le _
        | retaken lease gate =>
            rw [gate]
            exact Nat.zero_le _
        | dropped lease stream gate =>
            rw [stream] at streams
            rw [gate] at awake ⊢
            rw [lease, Option.isSome_none, if_neg Bool.false_ne_true]
            exact metering.zeros active before streams awake
      · rw [gate]
        exact Nat.zero_le _
    · intro next running
      rcases takeCaptured_cases quiet running with ⟨telemetry, captured, -⟩
      right
      rw [captured, telemetry]

theorem fresh_takeCaptured (fresh : around.captured = [] → Fresh around meter) :
    Fresh around (meter.takeCaptured config around) := by
  intro next running outranked recent
  by_cases quiet : around.captured = []
  · have same : Daemon.takeCaptured config around meter.state = meter.state := by
      rw [Daemon.takeCaptured, quiet]
      rfl
    change next ∈ (Daemon.takeCaptured config around meter.state).active at running
    rw [same] at running
    exact fresh quiet next running outranked recent
  · rcases takeCaptured_cases quiet running with ⟨-, captured, -⟩
    rw [captured, Option.map_some, Nat.sub_self] at outranked
    exact absurd outranked (by decide)

theorem afterBlock_keeps (active : Active) (plan : GenPlan) :
    (afterBlock around active plan).1.stream.isSome = active.stream.isSome ∧
      (afterBlock around active plan).1.lastTelemetry = active.lastTelemetry ∧
      (afterBlock around active plan).1.lastCaptured = active.lastCaptured := by
  simp only [afterBlock]
  cases (heard around active plan).2 with
  | stay => exact ⟨rfl, rfl, rfl⟩
  | enterStandby => exact ⟨Option.isSome_map, rfl, rfl⟩
  | resume =>
      simp only [followGate]
      split
      · exact ⟨Option.isSome_map, rfl, rfl⟩
      · exact ⟨rfl, rfl, rfl⟩

/-- The gate's count of zeros goes up by what is heard of them, or starts anew. -/
theorem gate_afterBlock {active : Active} {plan : GenPlan}
    (awake : (afterBlock around active plan).1.gate.standby = false) :
    (active.gate.standby = false ∧
        (around.rendered plan.samples).all Sample.isZero = true ∧
        (afterBlock around active plan).1.gate.zeroMs = active.gate.zeroMs + plan.audioMs) ∨
      (afterBlock around active plan).1.gate.zeroMs = 0 := by
  simp only [afterBlock, heard] at awake ⊢
  cases silent : (around.rendered plan.samples).all Sample.isZero with
  | false =>
      right
      rw [silent] at awake
      cases standing : active.gate.standby with
      | false => simp [SilenceGate.observe, standing, followGate]
      | true =>
          simp only [SilenceGate.observe, standing, Bool.not_false, if_true, followGate] at awake ⊢
          cases granted : takeLease around active.leaseKey with
          | some lease => rfl
          | none =>
              rw [granted] at awake
              cases awake
  | true =>
      rw [silent] at awake
      left
      cases standing : active.gate.standby with
      | true => simp [SilenceGate.observe, standing, followGate] at awake
      | false =>
          refine ⟨rfl, rfl, ?_⟩
          by_cases elapsed : zeroForceStandbyMs ≤ active.gate.zeroMs + plan.audioMs
          · simp [SilenceGate.observe, standing, followGate, elapsed] at awake
          · simp [SilenceGate.observe, standing, followGate, elapsed]

theorem heard_enterStandby {active : Active} {plan : GenPlan}
    (parks : (heard around active plan).2 = .enterStandby) :
    active.gate.standby = false ∧ (around.rendered plan.samples).all Sample.isZero = true ∧
      zeroForceStandbyMs ≤ active.gate.zeroMs + plan.audioMs := by
  simp only [heard, SilenceGate.observe] at parks
  split at parks
  · split at parks
    · cases parks
    · cases parks
  · rename_i silent
    split at parks
    · cases parks
    · rename_i awake
      split at parks
      · rename_i elapsed
        refine ⟨(Bool.not_eq_true _).mp awake, ?_, elapsed⟩
        simpa using silent
      · cases parks

theorem feed (metering : Metering meter) (fresh : Fresh around meter) :
    Metering (meter.feed config around) := by
  simp only [Meter.feed]
  cases running : meter.state.active with
  | none =>
      have same : Daemon.feed config around meter.state = meter.state := by
        simp only [Daemon.feed, running]
      simp only [same]
      exact metering
  | some active =>
      dsimp only
      rcases @feed_cases config around meter.state active running with
        ⟨unfed, next⟩ | ⟨plan, planned, due, recent, rendered, parks, next⟩
      · rw [if_neg (by rw [unfed]; decide)]
        refine ⟨?_, ?_, metering.kept.parkings, metering.kept.ages⟩
        · intro other present streams awake
          rw [next other present] at streams awake ⊢
          exact metering.zeros active running streams awake
        · intro other present
          rw [next other present]
          exact metering.told active running
      · rcases @afterBlock_keeps around active plan with ⟨streams, telemetry, captured⟩
        have told : ∀ other ∈ (Daemon.feed config around meter.state).active,
            meter.told = some other.lastTelemetry ∨
              other.lastCaptured = some other.lastTelemetry := by
          intro other present
          rw [next other present, telemetry, captured]
          exact metering.told active running
        have audio : ∀ zeros, (around.rendered plan.samples).all Sample.isZero = true →
            zerosAfterBlock around active zeros = zeros + plan.audioMs * samplesPerMs := by
          intro zeros silent
          rw [zerosAfterBlock, planned]
          dsimp only
          rw [if_pos silent, planGeneration_samples planned]
        rw [if_pos rendered]
        refine ⟨?_, told, ?_, ?_⟩
        · intro other present fed awake
          have fedTo : (Daemon.feed config around meter.state).active = some other := present
          have counted : Meter.counts active (Daemon.feed config around meter.state) = true := by
            simp only [Meter.counts, fedTo, Option.any_some, awake, Bool.and_false, Bool.not_false]
          dsimp only
          rw [if_pos counted]
          rw [next other present] at fed awake ⊢
          rw [streams] at fed
          rcases gate_afterBlock awake with ⟨before, silent, count⟩ | count
          · have bound := metering.zeros active running fed before
            rw [count, audio meter.zeros silent, Nat.add_mul]
            exact Nat.add_le_add_right bound _
          · rw [count, Nat.zero_mul]
            exact Nat.zero_le _
        · dsimp only
          split
          · rename_i parked
            intro zeros member
            rcases List.mem_cons.mp member with rfl | earlier
            · rcases heard_enterStandby (parks parked.2) with ⟨awake, silent, elapsed⟩
              have counted : Meter.counts active (Daemon.feed config around meter.state) = true := by
                simp only [Meter.counts, awake, Bool.false_and, Bool.not_false]
              rw [if_pos counted]
              have bound := metering.zeros active running parked.1 awake
              rw [audio meter.zeros silent]
              calc zeroForceStandbyMs * samplesPerMs
                  ≤ (active.gate.zeroMs + plan.audioMs) * samplesPerMs :=
                    Nat.mul_le_mul_right _ elapsed
                _ = active.gate.zeroMs * samplesPerMs + plan.audioMs * samplesPerMs :=
                    Nat.add_mul _ _ _
                _ ≤ meter.zeros + plan.audioMs * samplesPerMs := Nat.add_le_add_right bound _
            · exact metering.kept.parkings zeros earlier
          · exact metering.kept.parkings
        · intro age member
          rcases List.mem_cons.mp member with rfl | earlier
          · rcases fresh active running due recent with ⟨time, heardAt, young⟩
            exact ⟨_, Option.mem_map_of_mem _ heardAt, young⟩
          · exact metering.kept.ages age earlier

theorem iterate (metering : Metering meter) (harmless : BurstsHarmless config meter around) :
    Metering (meter.iterate config around) := by
  rcases harmless with ⟨bursts, lapse⟩
  have told : Metering (meter.takeTelemetry config around) := metering.takeTelemetry
  have captured : Metering ((meter.takeTelemetry config around).takeCaptured config around) :=
    told.takeCaptured (burstsFindNoZeros bursts)
  apply captured.feed
  apply fresh_takeCaptured
  exact metering.fresh_takeTelemetry lapse

theorem initial (now : ℕ) : Metering (Meter.initial now) where
  zeros := by simp [Meter.initial, State.initial]
  told := by simp [Meter.initial, State.initial]
  kept := ⟨by simp [Meter.initial], by simp [Meter.initial]⟩

end Metering

/-- Where captured bursts do no harm, standby and the watchdog keep their times. -/
theorem timing_kept_under_harmless_bursts {config : Config} {meter : Meter}
    (reachable : (metered config).ReachableUnder (BurstsHarmless config) meter) :
    TimingKept meter := by
  suffices metering : Metering meter from metering.kept
  apply reachable.invariant
  · rintro _ ⟨now, rfl⟩
    exact Metering.initial now
  · rintro _ around _ metering harmless ⟨⟩
    exact metering.iterate harmless

/-- Captured samples without telemetry, `time` milliseconds on. -/
def bursting (time : ℕ) : Surroundings :=
  { driving [] time 0 true with latest := none, captured := [0x3f000000] }

/-- Nothing arrives. -/
def waiting (time : ℕ) : Surroundings := { driving [] time 0 true with latest := none }

/-- A menu that a burst of force interrupts before the gate has counted any zeros. -/
theorem timing_kept_in_menu :
    ∃ meter, TimingKept meter ∧ meter.parkings = [2000] ∧ meter.ages ≠ [] := by
  rcases System.ReachableUnder.of_check (metered default) (BurstsHarmless default)
    (Meter.initial 0)
    ([driving "assetto".toList 0 0 true, bursting 10, driving "assetto".toList 200 0 true] ++
      [300, 400, 500, 600, 700, 800].map fun time => driving "assetto".toList time 0 true)
    (fun meter => decide (meter.parkings = [2000] ∧ meter.ages ≠ []))
    ⟨0, rfl⟩ (by decide +kernel) (by decide +kernel) with ⟨meter, reachable, checked⟩
  exact ⟨meter, timing_kept_under_harmless_bursts reachable, of_decide_eq_true checked⟩

/-- After 400 ms of a menu a burst of force comes; 100 ms of zeros park the stream, and a block is
rendered from telemetry of 500 ms ago. -/
theorem burst_is_ignored :
    ¬∀ config meter, (metered config).ReachableUnder ClockRuns meter → TimingKept meter := by
  intro always
  rcases System.ReachableUnder.of_check (metered default) ClockRuns (Meter.initial 0)
    ([0, 100, 200, 300, 400].map (fun time => driving "assetto".toList time 0 true) ++
      [bursting 410, waiting 710, waiting 900])
    (fun meter => decide (400 ∈ meter.parkings ∧ some (milliseconds 500) ∈ meter.ages))
    ⟨0, rfl⟩ (by decide +kernel) (by decide +kernel) with ⟨meter, reachable, checked⟩
  have kept := always default meter reachable
  have parked := kept.parkings 400 (of_decide_eq_true checked).1
  exact absurd parked (by decide)

end TrueForce.TfSim.Daemon
