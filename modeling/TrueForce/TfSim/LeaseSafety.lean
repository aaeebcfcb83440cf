import TrueForce.TfSim.Daemon
import Mathlib.Data.List.Infix

/-!
# The streaming lease of the daemon

A session with a stream has the lease of the stream's wheel exactly while its gate
is not in standby, whichever branch of the loop opened, parked or resumed it.
-/

namespace TrueForce.TfSim.Daemon

open RustText TrueForce.Transition

/-- What a log says of the gate of the session under way. -/
def parked : List Entry → Bool
  | [] => false
  | .opened :: _ | .stopped :: _ => false
  | .standby :: _ => true
  | .asked granted :: _ => !granted
  | .retaken true :: _ => false
  | .retaken false :: older | .block _ :: older | .push _ _ _ _ :: older => parked older

/-- A block of force that is rendered in standby asks for the lease at once. -/
def AsksAgain (log : List Entry) : Prop :=
  ∀ older, .block false :: older <:+ log → parked older = true →
    ∃ granted, .asked granted :: .block false :: older <:+ log

/-- Samples are pushed only while the lease of that wheel is held. -/
def PushesHeld (log : List Entry) : Prop :=
  ∀ source wheel held native, .push source wheel held native ∈ log → held = some ⟨wheel⟩

/-- The lease of the stream's wheel is held outside standby. -/
def Active.Held (active : Active) : Prop :=
  ∀ stream, active.stream = some stream → active.leaseKey = stream.wheel ∧
    active.lease = if active.gate.standby then none else some ⟨stream.wheel⟩

structure Sound (state : State) : Prop where
  held : ∀ active ∈ state.active, active.Held
  parked : ∀ active ∈ state.active, active.gate.standby = parked state.log
  pushes : PushesHeld state.log
  refused : state.log.head? = some (.asked false) → state.active.isSome
  asksAgain : AsksAgain state.log

theorem PushesHeld.cons {log : List Entry} (entry : Entry) (pushes : PushesHeld log)
    (new : ∀ source wheel held native, entry = .push source wheel held native →
      held = some ⟨wheel⟩) : PushesHeld (entry :: log) := by
  intro source wheel held native pushed
  rcases List.mem_cons.mp pushed with here | before
  · exact new source wheel held native here.symm
  · exact pushes source wheel held native before

theorem AsksAgain.cons {log : List Entry} {entry : Entry} (asks : AsksAgain log)
    (other : entry ≠ .block false) : AsksAgain (entry :: log) := by
  intro older suffix standing
  rcases List.suffix_cons_iff.mp suffix with whole | inside
  · cases whole
    exact absurd rfl other
  · rcases asks older inside standing with ⟨granted, asked⟩
    exact ⟨granted, asked.trans (List.suffix_cons _ _)⟩

/-- A block of force in standby with the question behind it. -/
theorem AsksAgain.block_asked {log : List Entry} (asks : AsksAgain log) (granted : Bool) :
    AsksAgain (.asked granted :: .block false :: log) := by
  intro older suffix standing
  rcases List.suffix_cons_iff.mp suffix with whole | inside
  · cases whole
  · rcases List.suffix_cons_iff.mp inside with here | before
    · cases here
      exact ⟨granted, List.suffix_rfl⟩
    · rcases asks older before standing with ⟨other, asked⟩
      exact ⟨other, asked.trans ((List.suffix_cons _ _).trans (List.suffix_cons _ _))⟩

/-- A block that is silent, or finds the stream running. -/
theorem AsksAgain.block {log : List Entry} {silent : Bool} (asks : AsksAgain log)
    (quiet : Daemon.parked log = true → silent = true) : AsksAgain (.block silent :: log) := by
  intro older suffix standing
  rcases List.suffix_cons_iff.mp suffix with whole | inside
  · cases whole
    cases quiet standing
  · rcases asks older inside standing with ⟨granted, asked⟩
    exact ⟨granted, asked.trans (List.suffix_cons _ _)⟩

theorem openWith_ok {around : Surroundings} {kind : StreamKind} {owner : Option Text}
    {wheel : OpenWheel} (opened : openWith around kind owner = .ok wheel) :
    wheel.lease = ⟨wheel.stream.wheel⟩ ∧ wheel.leaseKey = wheel.stream.wheel := by
  simp only [openWith, takeLease] at opened
  split at opened
  · cases opened
  · rename_i lease granted
    split at opened
    · cases opened
      split at granted
      · cases granted
        exact ⟨rfl, rfl⟩
      · cases granted
    · cases opened

theorem openWheelStream_ok {config : Config} {around : Surroundings} {wheel : OpenWheel}
    (opened : openWheelStream config around = .ok wheel) :
    wheel.lease = ⟨wheel.stream.wheel⟩ ∧ wheel.leaseKey = wheel.stream.wheel := by
  have g923 : ∀ paths, openG923 config around paths = .ok wheel →
      wheel.lease = ⟨wheel.stream.wheel⟩ ∧ wheel.leaseKey = wheel.stream.wheel := by
    intro paths opened
    rw [openG923] at opened
    split at opened
    · cases opened
    · exact openWith_ok opened
  rw [openWheelStream] at opened
  split at opened
  · exact openWith_ok opened
  · cases opened
  · exact g923 _ opened
  · exact g923 _ opened
  · exact openWith_ok opened

section Iterations

variable {config : Config} {around : Surroundings} {state : State}

theorem Active.held_streaming {game : Text} {lastCaptured : Option ℕ} {wheel : OpenWheel}
    (opened : openWheelStream config around = .ok wheel) :
    (streaming around game lastCaptured wheel).Held := by
  rcases openWheelStream_ok opened with ⟨lease, key⟩
  rintro _ ⟨⟩
  exact ⟨key, congrArg some lease⟩

theorem Active.held_lightsOnly (id : Text) : (lightsOnly around id).Held := by
  rintro _ ⟨⟩

theorem Active.held_granted {active : Active} {gate : SilenceGate}
    (keyed : ∀ stream, active.stream = some stream → active.leaseKey = stream.wheel)
    (awake : gate.standby = false) :
    Active.Held { active with
      lease := some ⟨active.leaseKey⟩
      warnedBusy := false
      stream := active.stream.map WheelStream.resume
      gate } := by
  intro stream fed
  simp only [Option.map_eq_some_iff] at fed
  rcases fed with ⟨before, opened, rfl⟩
  have key := keyed before opened
  simp only [WheelStream.resume_wheel, awake, Bool.false_eq_true, if_false, key, and_self]

theorem Sound.begin {active : Active} (sound : Sound state) (held : active.Held)
    (running : active.gate.standby = false) : Sound (state.begin active) where
  held := by
    rintro _ ⟨⟩
    exact held
  parked := by
    rintro _ ⟨⟩
    exact running
  pushes := sound.pushes.cons _ (by simp)
  refused _ := rfl
  asksAgain := sound.asksAgain.cons (by simp)

theorem Sound.retryLater (sound : Sound state) : Sound (state.retryLater around) :=
  ⟨sound.held, sound.parked, sound.pushes, sound.refused, sound.asksAgain⟩

theorem Sound.openLights (sound : Sound state) (id : Text) :
    Sound (openLights around id state) := by
  rw [Daemon.openLights]
  split
  · exact sound.begin (Active.held_lightsOnly id) rfl
  · exact sound.retryLater

theorem Sound.openForTelemetry (sound : Sound state) (id : Text) :
    Sound (openForTelemetry config around id state) := by
  rw [Daemon.openForTelemetry]
  split
  · exact sound.openLights id
  · split
    · exact sound.retryLater
    · split
      · split
        · rename_i wheel opened
          exact sound.begin (Active.held_streaming opened) rfl
        · split
          · exact sound.openLights id
          · exact sound.retryLater
        · exact sound.retryLater
      · exact sound

theorem Sound.takeTelemetry (sound : Sound state) : Sound (takeTelemetry config around state) := by
  rw [Daemon.takeTelemetry]
  split
  · exact sound
  · split
    · split
      · rename_i active running
        refine ⟨?_, ?_, sound.pushes, fun _ => rfl, sound.asksAgain⟩
        · rintro _ ⟨⟩
          exact sound.held active running
        · rintro _ ⟨⟩
          exact sound.parked active running
      · exact sound.openForTelemetry _
    · exact sound

/-- A push by a session that is not in standby holds the lease. -/
theorem Sound.pushTo {active : Active} (sound : Sound state) (config : Config)
    (around : Surroundings) (running : state.active = some active)
    (awake : ∀ stream, active.stream = some stream → active.gate.standby = false)
    (source : Source) : Sound (state.pushTo config around source active) := by
  rw [State.pushTo]
  split
  · rename_i stream fed
    have held := (sound.held active running stream fed).2
    rw [awake stream fed] at held
    refine ⟨sound.held, sound.parked, sound.pushes.cons _ ?_, ?_, sound.asksAgain.cons (by simp)⟩
    · rintro _ _ _ _ ⟨⟩
      exact held
    · rintro ⟨⟩
  · exact sound

theorem Sound.retake {active : Active} (sound : Sound state) (around : Surroundings)
    (running : state.active = some active) :
    Sound { state with
      active := some (Daemon.retake around active).1
      log := (Daemon.retake around active).2 ++ state.log } := by
  have held := sound.held active running
  have standing := sound.parked active running
  rw [Daemon.retake]
  split
  · refine ⟨?_, ?_, sound.pushes, fun _ => rfl, sound.asksAgain⟩
    · rintro _ ⟨⟩
      exact held
    · rintro _ ⟨⟩
      exact standing
  · split
    · rename_i lease granted
      simp only [takeLease, Option.ite_none_right_eq_some, Option.some.injEq] at granted
      rcases granted with ⟨-, rfl⟩
      refine ⟨?_, ?_, sound.pushes.cons _ (by simp), fun _ => rfl, sound.asksAgain.cons (by simp)⟩
      · rintro _ ⟨⟩
        exact Active.held_granted (fun stream opened => (held stream opened).1) rfl
      · rintro _ ⟨⟩
        rfl
    · refine ⟨?_, ?_, sound.pushes.cons _ (by simp), fun _ => rfl, sound.asksAgain.cons (by simp)⟩
      · rintro _ ⟨⟩
        exact held
      · rintro _ ⟨⟩
        exact standing

/-- Changing when a session was last fed changes nothing about its lease. -/
theorem Sound.touch {active : Active} (other : Active) (sound : Sound state)
    (running : state.active = some active) (stream : other.stream = active.stream)
    (gate : other.gate = active.gate) (lease : other.lease = active.lease)
    (key : other.leaseKey = active.leaseKey) :
    Sound { state with active := some other } := by
  refine ⟨?_, ?_, sound.pushes, fun _ => rfl, sound.asksAgain⟩
  · rintro _ ⟨⟩
    rw [Active.Held, stream, gate, lease, key]
    exact sound.held active running
  · rintro _ ⟨⟩
    rw [gate]
    exact sound.parked active running

theorem Sound.takeCaptured (sound : Sound state) : Sound (takeCaptured config around state) := by
  rw [Daemon.takeCaptured]
  split
  · exact sound
  · split
    · rename_i active running
      have touched := sound.touch { active with
        lastTelemetry := around.now, lastGen := around.now, lastCaptured := some around.now }
        running rfl rfl rfl rfl
      have taken := touched.retake around rfl
      dsimp only
      split
      · rename_i leased
        refine taken.pushTo config around rfl ?_ .captured
        intro stream fed
        have held := (taken.held _ rfl stream fed).2
        rw [held] at leased
        split at leased
        · cases leased
        · rename_i awake
          simpa using awake
      · exact taken
    · split
      · split
        · rename_i wheel opened
          exact sound.begin (Active.held_streaming opened) rfl
        · exact sound.retryLater
      · exact sound

theorem Sound.stop (sound : Sound state) :
    Sound { state with active := none, log := .stopped :: state.log } where
  held := by simp
  parked := by simp
  pushes := sound.pushes.cons _ (by simp)
  refused := by simp
  asksAgain := sound.asksAgain.cons (by simp)

/-- A block, and what the gate wants done about it. -/
theorem Sound.followGate {active : Active} (sound : Sound state)
    (running : state.active = some active) (around : Surroundings) (lastGen : ℕ) {silent : Bool}
    {gate : SilenceGate} {action : GateAction}
    (heard : action = .stay ∧ gate.standby = active.gate.standby ∧
        (active.gate.standby = true → silent = true) ∨
      action = .enterStandby ∧ gate.standby = true ∧ active.gate.standby = false ∧
        silent = true ∨
      action = .resume ∧ gate.standby = false ∧ active.gate.standby = true ∧ silent = false) :
    Sound { state with
      active := some (Daemon.followGate around { active with lastGen, gate } action).1
      log := (Daemon.followGate around { active with lastGen, gate } action).2 ++
        .block silent :: state.log } := by
  have held := sound.held active running
  have standing := sound.parked active running
  have block := sound.pushes.cons (.block silent) (by simp)
  rcases heard with ⟨rfl, same, quiet⟩ | ⟨rfl, parks, awake, rfl⟩ | ⟨rfl, wakes, asleep, rfl⟩
  · refine ⟨?_, ?_, block, fun _ => rfl, sound.asksAgain.block ?_⟩
    · rintro _ ⟨⟩ stream fed
      simp only [Daemon.followGate, same]
      exact held stream fed
    · rintro _ ⟨⟩
      exact same.trans standing
    · rw [← standing]
      exact quiet
  · refine ⟨?_, ?_, block.cons _ (by simp), fun _ => rfl,
      (sound.asksAgain.block fun _ => rfl).cons (by simp)⟩
    · rintro _ ⟨⟩ stream fed
      simp only [Daemon.followGate, Option.map_eq_some_iff] at fed
      rcases fed with ⟨before, opened, rfl⟩
      simp only [Daemon.followGate, WheelStream.standby_wheel, parks, if_true, and_true]
      exact (held before opened).1
    · rintro _ ⟨⟩
      exact parks
  · simp only [Daemon.followGate]
    split
    · rename_i lease granted
      simp only [takeLease, Option.ite_none_right_eq_some, Option.some.injEq] at granted
      rcases granted with ⟨-, rfl⟩
      refine ⟨?_, ?_, block.cons _ (by simp), fun _ => rfl, sound.asksAgain.block_asked true⟩
      · rintro _ ⟨⟩
        exact Active.held_granted (fun stream opened => (held stream opened).1) wakes
      · rintro _ ⟨⟩
        exact wakes
    · refine ⟨?_, ?_, block.cons _ (by simp), fun _ => rfl, sound.asksAgain.block_asked false⟩
      · rintro _ ⟨⟩ stream fed
        rcases held stream fed with ⟨key, lease⟩
        rw [asleep] at lease
        exact ⟨key, lease⟩
      · rintro _ ⟨⟩
        rfl

theorem Sound.generate {active : Active} (sound : Sound state)
    (running : state.active = some active) : Sound (generate config around active state) := by
  rw [Daemon.generate]
  split
  · exact sound
  · rename_i plan _
    have followed := sound.followGate running around (plan.advance around.now active.lastGen)
      (active.gate.observe_cases ((around.rendered plan.samples).all Sample.isZero) plan.audioMs)
    dsimp only
    split
    · exact followed
    · rename_i awake
      have pushed := followed.pushTo config around rfl (fun _ _ => by simpa using awake)
        .synthesised
      split
      · exact pushed.stop
      · exact pushed

theorem Sound.feed (sound : Sound state) : Sound (feed config around state) := by
  rw [Daemon.feed]
  split
  · exact sound
  · rename_i active running
    split
    · exact sound
    · split
      · exact sound.stop
      · exact sound.generate running

theorem Sound.iterate (sound : Sound state) : Sound (iterate config state around) :=
  sound.takeTelemetry.takeCaptured.feed

theorem sound_initial (now : ℕ) : Sound (State.initial now) where
  held := by simp [State.initial]
  parked := by simp [State.initial]
  pushes := by simp [State.initial, PushesHeld]
  refused := by simp [State.initial]
  asksAgain := by simp [State.initial, AsksAgain]

theorem sound_of_reachable (reachable : (system config).Reachable state) : Sound state := by
  refine reachable.invariant ?_ ?_
  · rintro _ ⟨now, rfl⟩
    exact sound_initial now
  · rintro _ around _ sound - ⟨⟩
    exact sound.iterate

end Iterations

end TrueForce.TfSim.Daemon
