import TrueForce.TfSim.Daemon

/-!
# Titles whose own TrueForce reaches the wheel

`native_trueforce_here` is asked when a session is opened.  A session that has a
stream keeps it when telemetry names another game, and when a marker of its own game
appears.
-/

namespace TrueForce.TfSim.Daemon

open RustText TrueForce.Transition

/-- No synthesised sample went out for a game whose own TrueForce reached the wheel. -/
def NeverDoubles (log : List Entry) : Prop :=
  ∀ wheel held native, .push .synthesised wheel held native ∈ log → native = false

/-- The game a session has once this iteration's telemetry is taken. -/
def sessionGame (config : Config) (around : Surroundings) (active : Active) : Text :=
  match around.latest with
  | some id => if gameEnabled config id then id else active.game
  | none => active.game

/-- The captured samples that were pushed last still have precedence. -/
def outranked (around : Surroundings) (active : Active) : Bool :=
  capturedHasPrecedence (active.lastCaptured.map fun time => around.now - time)

/-- A session that has a stream and no captured samples has it for a game whose own TrueForce
does not reach the wheel. -/
def StaysForeign (config : Config) (state : State) (around : Surroundings) : Prop :=
  around.captured.isEmpty = true → ∀ active ∈ state.active, active.stream.isSome = true →
    outranked around active = false →
      nativeTrueforceHere config around (sessionGame config around active) = false

instance (config : Config) (state : State) (around : Surroundings) :
    Decidable (StaysForeign config state around) :=
  inferInstanceAs (Decidable (around.captured.isEmpty = true → ∀ active ∈ state.active,
    active.stream.isSome = true → outranked around active = false →
      nativeTrueforceHere config around (sessionGame config around active) = false))

/-- A session that has a stream may be fed, or is not fed in this iteration. -/
def Cleared (config : Config) (around : Surroundings) (state : State) : Prop :=
  ∀ active ∈ state.active, active.stream.isSome = true → outranked around active = false →
    isNative config around active = false ∨ active.lastGen = around.now

section Iterations

variable {config : Config} {around : Surroundings} {state : State}

theorem NeverDoubles.cons {log : List Entry} (never : NeverDoubles log) (entry : Entry)
    (new : ∀ wheel held native, entry = .push .synthesised wheel held native → native = false) :
    NeverDoubles (entry :: log) := by
  intro wheel held native pushed
  rcases List.mem_cons.mp pushed with here | before
  · exact new wheel held native here.symm
  · exact never wheel held native before

theorem NeverDoubles.pushTo {active : Active} (never : NeverDoubles state.log) (source : Source)
    (foreign : source = .synthesised → active.stream.isSome = true →
      isNative config around active = false) :
    NeverDoubles (state.pushTo config around source active).log := by
  rw [State.pushTo]
  split
  · rename_i stream fed
    refine never.cons _ ?_
    rintro _ _ _ ⟨⟩
    exact foreign rfl (by rw [fed, Option.isSome_some])
  · exact never

theorem NeverDoubles.begin {active : Active} (never : NeverDoubles state.log) :
    NeverDoubles (state.begin active).log :=
  never.cons _ (by simp)

theorem Cleared.begin {active : Active} (fresh : active.lastGen = around.now) :
    Cleared config around (state.begin active) := by
  rintro _ ⟨⟩ _ _
  exact Or.inr fresh

theorem Cleared.idle (idle : state.active = none) : Cleared config around state := by
  intro active running
  rw [idle] at running
  cases running

/-- A session that is opened has nothing to be fed yet. -/
theorem openForTelemetry_clears (id : Text) (idle : state.active = none)
    (never : NeverDoubles state.log) :
    Cleared config around (openForTelemetry config around id state) ∧
      NeverDoubles (openForTelemetry config around id state).log := by
  have lights : Cleared config around (openLights around id state) ∧
      NeverDoubles (openLights around id state).log := by
    rw [openLights]
    split
    · exact ⟨.begin rfl, never.begin⟩
    · exact ⟨.idle idle, never⟩
  rw [openForTelemetry]
  split
  · exact lights
  · split
    · exact ⟨.idle idle, never⟩
    · split
      · split
        · exact ⟨.begin rfl, never.begin⟩
        · split
          · exact lights
          · exact ⟨.idle idle, never⟩
        · exact ⟨.idle idle, never⟩
      · exact ⟨.idle idle, never⟩

theorem takeTelemetry_clears (foreign : StaysForeign config state around)
    (never : NeverDoubles state.log) :
    (around.captured.isEmpty = true → Cleared config around (takeTelemetry config around state)) ∧
      NeverDoubles (takeTelemetry config around state).log := by
  rw [takeTelemetry]
  split
  · rename_i silent
    refine ⟨?_, never⟩
    intro quiet active running streams due
    have native := foreign quiet active running streams due
    simp only [sessionGame, silent] at native
    exact Or.inl native
  · rename_i id named
    split
    · rename_i enabled
      split
      · rename_i active running
        refine ⟨?_, never⟩
        rintro quiet _ ⟨⟩ streams due
        have native := foreign quiet active running streams due
        simp only [sessionGame, named, enabled, if_true] at native
        exact Or.inl native
      · rename_i idle
        rcases openForTelemetry_clears id idle never with ⟨cleared, opened⟩
        exact ⟨fun _ => cleared, opened⟩
    · rename_i disabled
      refine ⟨?_, never⟩
      intro quiet active running streams due
      have native := foreign quiet active running streams due
      simp only [sessionGame, named, disabled, Bool.false_eq_true, if_false] at native
      exact Or.inl native

theorem retake_lastGen (active : Active) : (retake around active).1.lastGen = active.lastGen := by
  rw [retake]
  split
  · rfl
  · split <;> rfl

theorem NeverDoubles.retake {log : List Entry} (never : NeverDoubles log) (around : Surroundings)
    (active : Active) :
    NeverDoubles ((retake around active).2 ++ log) := by
  rw [Daemon.retake]
  split
  · exact never
  · split
    · exact never.cons _ (by simp)
    · exact never.cons _ (by simp)

/-- Captured samples move the generation clock up to now. -/
theorem takeCaptured_clears
    (cleared : around.captured.isEmpty = true → Cleared config around state)
    (never : NeverDoubles state.log) :
    Cleared config around (takeCaptured config around state) ∧
      NeverDoubles (takeCaptured config around state).log := by
  rw [takeCaptured]
  split
  · rename_i quiet
    exact ⟨cleared quiet, never⟩
  · split
    · rename_i active running
      have taken := never.retake around { active with
        lastTelemetry := around.now, lastGen := around.now, lastCaptured := some around.now }
      dsimp only
      split
      · refine ⟨?_, taken.pushTo .captured (by simp)⟩
        intro other running _ _
        rw [State.pushTo_active] at running
        cases running
        exact Or.inr (retake_lastGen _)
      · refine ⟨?_, taken⟩
        rintro _ ⟨⟩ _ _
        exact Or.inr (retake_lastGen _)
    · rename_i idle
      split
      · split
        · exact ⟨.begin rfl, never.begin⟩
        · exact ⟨.idle idle, never⟩
      · exact ⟨.idle idle, never⟩

theorem followGate_game (active : Active) (action : GateAction) :
    (followGate around active action).1.game = active.game := by
  cases action with
  | stay => rfl
  | enterStandby => rfl
  | resume =>
      simp only [followGate]
      split <;> rfl

theorem followGate_stream (active : Active) (action : GateAction) :
    (followGate around active action).1.stream.isSome = active.stream.isSome := by
  cases action with
  | stay => rfl
  | enterStandby => simp only [followGate, Option.isSome_map]
  | resume =>
      simp only [followGate]
      split
      · exact Option.isSome_map
      · rfl

theorem NeverDoubles.followGate {log : List Entry} (never : NeverDoubles log)
    (around : Surroundings) (active : Active) (action : GateAction) :
    NeverDoubles ((followGate around active action).2 ++ log) := by
  cases action with
  | stay => exact never
  | enterStandby => exact never.cons _ (by simp)
  | resume =>
      simp only [Daemon.followGate]
      split
      · exact never.cons _ (by simp)
      · exact never.cons _ (by simp)

theorem isNative_followGate (active : Active) (action : GateAction) :
    isNative config around (followGate around active action).1 =
      isNative config around active := by
  rw [isNative, isNative, followGate_game]

theorem planGeneration_zero : planGeneration 0 = none := rfl

theorem NeverDoubles.generate {active : Active} (never : NeverDoubles state.log)
    (cleared : active.stream.isSome = true →
      isNative config around active = false ∨ active.lastGen = around.now) :
    NeverDoubles (generate config around active state).log := by
  rw [Daemon.generate]
  split
  · exact never
  · rename_i plan planned
    have due : active.lastGen ≠ around.now := by
      intro fresh
      rw [fresh, Nat.sub_self, Nat.zero_div, planGeneration_zero] at planned
      cases planned
    have foreign : ∀ lastGen gate action,
        (Daemon.followGate around { active with lastGen, gate } action).1.stream.isSome = true →
          isNative config around
            (Daemon.followGate around { active with lastGen, gate } action).1 = false := by
      intro lastGen gate action streams
      rw [followGate_stream] at streams
      rw [isNative_followGate]
      exact (cleared streams).resolve_right due
    have block := never.cons
      (.block ((around.rendered plan.samples).all Sample.isZero)) (by simp)
    dsimp only
    split
    · exact block.followGate around _ _
    · split
      · refine NeverDoubles.cons ?_ .stopped (by simp)
        refine NeverDoubles.pushTo ?_ .synthesised fun _ => foreign _ _ _
        exact block.followGate around _ _
      · refine NeverDoubles.pushTo ?_ .synthesised fun _ => foreign _ _ _
        exact block.followGate around _ _

theorem NeverDoubles.feed (never : NeverDoubles state.log)
    (cleared : Cleared config around state) : NeverDoubles (feed config around state).log := by
  rw [Daemon.feed]
  split
  · exact never
  · rename_i active running
    split
    · exact never
    · rename_i due
      split
      · exact never.cons _ (by simp)
      · refine never.generate fun streams => cleared active running streams ?_
        exact (Bool.not_eq_true _).mp due

theorem NeverDoubles.iterate (never : NeverDoubles state.log)
    (foreign : StaysForeign config state around) :
    NeverDoubles (iterate config state around).log := by
  rcases takeTelemetry_clears foreign never with ⟨quiet, told⟩
  rcases takeCaptured_clears quiet told with ⟨cleared, heard⟩
  exact heard.feed cleared

/-- Titles that keep their sessions foreign are never doubled. -/
theorem foreign_titles_are_not_doubled
    (reachable : (system config).ReachableUnder (StaysForeign config) state) :
    NeverDoubles state.log := by
  apply reachable.invariant
  · rintro _ ⟨now, rfl⟩ wheel held native ⟨⟩
  · rintro _ around _ never foreign ⟨⟩
    exact never.iterate foreign

end Iterations

/-- A title that is not native is fed. -/
theorem assetto_is_fed :
    ∃ state : State, NeverDoubles state.log ∧
      Entry.push .synthesised "0003:046D:C276.0003".toList
        (some ⟨"0003:046D:C276.0003".toList⟩) false ∈ state.log := by
  rcases System.ReachableUnder.of_check (system default) (StaysForeign default) (State.initial 0)
    [driving "assetto".toList 0 1 true, driving "assetto".toList 100 1 true]
    (fun state => decide (Entry.push .synthesised "0003:046D:C276.0003".toList
      (some ⟨"0003:046D:C276.0003".toList⟩) false ∈ state.log))
    ⟨0, rfl⟩ (by decide) (by decide) with ⟨state, reachable, checked⟩
  exact ⟨state, foreign_titles_are_not_doubled reachable, of_decide_eq_true checked⟩

/-- The stream that was opened for Assetto Corsa is fed for its successor. -/
theorem acc_is_doubled_after_assetto :
    ¬∀ config state, (system config).Reachable state → NeverDoubles state.log := by
  intro always
  rcases System.ReachableUnder.of_check (system default) System.anyStep (State.initial 0)
    [driving "assetto".toList 0 1 true, driving "acc".toList 100 1 true]
    (fun state => decide (Entry.push .synthesised "0003:046D:C276.0003".toList
      (some ⟨"0003:046D:C276.0003".toList⟩) true ∈ state.log))
    ⟨0, rfl⟩ (by decide) (System.runMeets_anyStep _ _) with ⟨state, reachable, checked⟩
  cases always default state reachable _ _ _ (of_decide_eq_true checked)

end TrueForce.TfSim.Daemon
