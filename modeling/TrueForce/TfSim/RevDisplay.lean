import TrueForce.TfSim.RevLeds

/-!
# What the rev display shows

The cache of each light follows its file, so a recorded level is the one shown as long as
every change of level lands in full or not at all.
-/

namespace TrueForce.TfSim.Leds

open TrueForce.Binary32 TrueForce.Transition

variable {state next : State}

namespace State

theorem written_map (leds : List (Fin ledCount)) (on lands strip : Strip) (led : Fin ledCount) :
    written strip (leds.map fun led => { led, on := on led, landed := lands led }) led =
      if (leds.contains led && lands led) = true then on led else strip led := by
  induction leds generalizing strip with
  | nil => simp [written]
  | cons first leds ih =>
      simp only [written, List.map_cons, List.foldl_cons] at ih ⊢
      rw [ih]
      by_cases same : first = led
      · subst same
        by_cases lands : lands first = true <;> simp [lands]
      · simp [same, Ne.symm same]

theorem written_levelWrites (state : State) (level : UInt8) (lands strip : Strip)
    (led : Fin ledCount) :
    written strip (state.levelWrites level lands) led =
      if state.differs level led = true ∧ lands led = true then shown level led
      else strip led := by
  simp only [levelWrites, written_map, Bool.and_eq_true, List.contains_iff_mem, List.mem_filter,
    List.mem_finRange, true_and]

theorem mem_levelWrites {level : UInt8} {lands : Strip} {write : Write} :
    write ∈ state.levelWrites level lands ↔ state.differs level write.led = true ∧
      write.on = shown level write.led ∧ write.landed = lands write.led := by
  simp only [levelWrites, List.mem_map, List.mem_filter, List.mem_finRange, true_and]
  constructor
  · rintro ⟨led, differs, rfl⟩
    exact ⟨differs, rfl, rfl⟩
  · rintro ⟨differs, on, landed⟩
    exact ⟨write.led, differs, by rw [← on, ← landed]⟩

theorem all_landed_iff {level : UInt8} {lands : Strip} :
    (state.levelWrites level lands).all Write.landed = true ↔
      ∀ led, state.differs level led = true → lands led = true := by
  rw [List.all_eq_true]
  constructor
  · intro landed led differs
    exact landed { led, on := shown level led, landed := lands led }
      (mem_levelWrites.mpr ⟨differs, rfl, rfl⟩)
  · intro lands write member
    rcases mem_levelWrites.mp member with ⟨differs, -, landed⟩
    rw [landed]
    exact lands write.led differs

theorem differs_eq_false {level : UInt8} {led : Fin ledCount} :
    state.differs level led = false ↔ state.leds.lit led = shown level led := by
  simp [differs]

/-- What a call for an update does, apart from the clock and the flash. -/
theorem updateLevel_cases (state : State) (level : UInt8) (lands : Strip) :
    (state.due level state.clock = false ∧ state.updateLevel level lands = state.skip) ∨
    (state.due level state.clock = true ∧
      (∀ led, state.differs level led = true → lands led = true) ∧
      state.updateLevel level lands = { state.writeLevel level lands with
        leds := { (state.writeLevel level lands).leds with
          lastLevel := some level, lastWrite := some state.clock }
        successes := state.clock :: state.successes }) ∨
    (state.due level state.clock = true ∧
      (∃ led, state.differs level led = true ∧ lands led = false) ∧
      state.updateLevel level lands = { state.writeLevel level lands with
        leds := { (state.writeLevel level lands).leds with warned := true } }) := by
  simp only [updateLevel]
  cases due : state.due level state.clock with
  | false => simp
  | true =>
      by_cases landed : ∀ led, state.differs level led = true → lands led = true
      · have all : (state.writeLevel level lands).writes.all Write.landed = true :=
          all_landed_iff.mpr landed
        simp only [if_true, if_pos all]
        exact .inr (.inl ⟨trivial, landed, trivial⟩)
      · have all : ¬(state.writeLevel level lands).writes.all Write.landed = true :=
          fun all => landed (all_landed_iff.mp all)
        simp only [if_true, if_neg all]
        obtain ⟨led, differs, fails⟩ :
            ∃ led, state.differs level led = true ∧ lands led = false := by
          simpa using landed
        exact .inr (.inr ⟨trivial, ⟨led, differs, fails⟩, trivial⟩)

end State

/-- The cache is what the files show, and the last level too. -/
structure Tracked (state : State) : Prop where
  cached : state.brightness = state.leds.lit
  recorded : ∀ level ∈ state.leds.lastLevel, state.leds.lit = shown level

namespace Tracked

theorem coherent (tracked : Tracked state) : state.Coherent := by
  intro level last
  rw [tracked.cached, tracked.recorded level last]

theorem atClassdevs (clock : ℕ) : Tracked (.atClassdevs Strip.dark clock) where
  cached := rfl
  recorded := by
    intro level last
    cases last

theorem skip (tracked : Tracked state) : Tracked state.skip := ⟨tracked.cached, tracked.recorded⟩

theorem written_cached (tracked : Tracked state) (level : UInt8) (lands : Strip) :
    (state.writeLevel level lands).brightness = (state.writeLevel level lands).leds.lit := by
  simp only [State.writeLevel, tracked.cached]

theorem updateLevel (tracked : Tracked state) {level : UInt8} {lands : Strip}
    (whole : state.due level state.clock = true → state.leds.lastLevel ≠ none →
      (∀ led, state.differs level led = true → lands led = true) ∨
      ∀ led, state.differs level led = true → lands led = false) :
    Tracked (state.updateLevel level lands) := by
  rcases state.updateLevel_cases level lands with
    ⟨-, updated⟩ | ⟨-, landed, updated⟩ | ⟨due, ⟨failed, differs, fails⟩, updated⟩
  · rw [updated]
    exact tracked.skip
  · rw [updated]
    refine ⟨tracked.written_cached level lands, ?_⟩
    intro level' last
    cases last
    funext led
    simp only [State.writeLevel, State.written_levelWrites]
    cases differs : state.differs level led with
    | true => simp [landed led differs]
    | false => simp [State.differs_eq_false.mp differs]
  · rw [updated]
    refine ⟨tracked.written_cached level lands, ?_⟩
    intro last recorded
    have none_lands : ∀ led, state.differs level led = true → lands led = false := by
      rcases whole due (by rw [show state.leds.lastLevel = some last from recorded]; simp) with
        all | none
      · rw [all failed differs] at fails
        cases fails
      · exact none
    have kept : (state.writeLevel level lands).leds.lit = state.leds.lit := by
      funext led
      simp only [State.writeLevel, State.written_levelWrites]
      apply if_neg
      rintro ⟨differs, landed⟩
      rw [none_lands led differs] at landed
      cases landed
    exact kept.trans (tracked.recorded last recorded)

theorem update (tracked : Tracked state) {update : Update} {lands : Strip}
    (whole : state.WritesWhole (.update update lands)) : Tracked (state.update update lands) := by
  have noted : Tracked (state.noteFlash update) := ⟨tracked.cached, tracked.recorded⟩
  exact noted.updateLevel whole

theorem stop {lands : Strip}
    (whole : state.WritesWhole (.stop lands)) : Tracked (state.stop lands) where
  cached := by
    funext led
    simp only [State.stop, State.written_map _ Strip.dark]
    cases lit : state.brightness led with
    | false => simp
    | true => simp [whole led lit]
  recorded := by
    intro level last
    cases last

theorem of_reachable
    (reachable : (revDisplay (· = Strip.dark)).ReachableUnder State.WritesWhole state) :
    Tracked state := by
  refine reachable.invariant ?_ ?_
  · rintro start ⟨brightness, clock, rfl, rfl⟩
    exact atClassdevs clock
  · intro current event next tracked whole stepped
    cases event with
    | update update lands =>
        obtain ⟨-, rfl⟩ : current.clock ≤ update.now ∧ current.update update lands = next := by
          simpa [revDisplay, State.step] using stepped
        exact tracked.update whole
    | stop lands =>
        obtain rfl : current.stop lands = next := by
          simpa [revDisplay, State.step] using stepped
        exact .stop whole

end Tracked

/-- One more call leads to a display that is not the recorded one. -/
def State.GoesStale (state : State) : Prop :=
  ∃ event next, state.step event = some next ∧ ¬next.Coherent

/-- An update for a car that reports no limiter. -/
def Update.dark (now : ℕ) : Update where
  rpm := zero
  maxRpm := zero
  pitLimiter := false
  now

theorem State.wanted_dark (state : State) (now : ℕ) : state.wanted (.dark now) = 0 := rfl

/-- A light that is on but taken for dark stays on when the dark level is recorded. -/
theorem State.goesStale_of_lit (led : Fin ledCount) (cached : state.leds.lit = Strip.dark)
    (level : state.leds.lastLevel = none) (write : state.leds.lastWrite = none)
    (lit : state.brightness led = true) : state.GoesStale := by
  refine ⟨.update (.dark state.clock) fun _ => true, _, if_pos (Nat.le_refl _), ?_⟩
  intro coherent
  have due : state.due 0 state.clock = true := by simp [State.due, level, write]
  have same : ∀ led, state.differs 0 led = false := by
    intro led
    rw [State.differs_eq_false, cached]
    rfl
  simp only [State.update, State.wanted_dark] at coherent
  rcases (state.noteFlash (.dark state.clock)).updateLevel_cases 0 fun _ => true with
    ⟨closed, -⟩ | ⟨-, -, updated⟩ | ⟨-, ⟨led, differs, -⟩, -⟩
  · exact Bool.false_ne_true (closed.symm.trans due)
  · rw [updated] at coherent
    have unlit := congrFun (coherent 0 rfl) led
    simp only [State.writeLevel, State.written_levelWrites] at unlit
    rw [if_neg (by rintro ⟨differs, -⟩; exact Bool.false_ne_true ((same led).symm.trans differs)),
      State.noteFlash, lit] at unlit
    cases unlit
  · exact Bool.false_ne_true ((same led).symm.trans differs)

theorem Tracked.stale_of_not_whole (tracked : Tracked state) {event : Event}
    (stepped : state.step event = some next) (broken : ¬state.WritesWhole event) :
    ¬next.Coherent ∨ next.GoesStale := by
  cases event with
  | update update lands =>
      obtain ⟨-, rfl⟩ : state.clock ≤ update.now ∧ state.update update lands = next := by
        simpa [State.step] using stepped
      left
      intro coherent
      apply broken
      intro due recorded
      rcases Option.ne_none_iff_exists'.mp recorded with ⟨last, recorded⟩
      simp only [State.update] at coherent
      rcases (state.noteFlash update).updateLevel_cases (state.wanted update) lands with
        ⟨closed, -⟩ | ⟨-, landed, -⟩ | ⟨-, -, updated⟩
      · exact absurd (closed.symm.trans due) Bool.false_ne_true
      · exact .inl landed
      · right
        intro led differs
        rw [updated] at coherent
        have kept := congrFun (coherent last recorded) led
        simp only [State.writeLevel, State.written_levelWrites] at kept
        by_contra landed
        rw [if_pos ⟨differs, by simpa using landed⟩] at kept
        rw [← tracked.recorded last recorded] at kept
        exact Bool.noConfusion ((State.differs_eq_false.mpr kept.symm).symm.trans differs)
  | stop lands =>
      obtain rfl : state.stop lands = next := by
        simpa [State.step] using stepped
      right
      simp only [State.WritesWhole, not_forall] at broken
      rcases broken with ⟨led, lit, fails⟩
      refine State.goesStale_of_lit led rfl rfl rfl ?_
      simp only [State.stop, State.written_map _ Strip.dark]
      rw [if_neg (by simp [fails]), lit]

/-- The call is an update that shows its level in full. -/
def State.Records (state : State) : Event → Prop
  | .update update lands => state.due (state.wanted update) update.now = true ∧
      ∀ led, state.differs (state.wanted update) led = true → lands led = true
  | .stop _ => False

def Quiet (state : State) (event : Event) : Prop := ¬state.Records event

/-- Once an update has tried its level and failed, the next one that still wants it tries
again, whatever failed meanwhile; one that follows at once writes the same lights. -/
def State.Retries (state : State) : Prop :=
  ∀ update lands failed, state.step (.update update lands) = some failed →
    failed.attempt = some (state.wanted update) → (∃ write ∈ failed.writes, write.landed = false) →
    (∀ later, Relation.ReflTransGen ((revDisplay fun _ => True).StepUnder Quiet) failed later →
      ∀ again lands last, later.step (.update again lands) = some last →
        later.wanted again = state.wanted update → last.attempt = some (state.wanted update)) ∧
    ∀ again lands last, failed.step (.update again lands) = some last →
      failed.wanted again = state.wanted update → ∀ write ∈ failed.writes, write.landed = false →
        ∃ retry ∈ last.writes, retry.led = write.led ∧ retry.on = write.on

/-- The level is still to be shown, and nothing holds an update for it back. -/
def State.Open (state : State) (level : UInt8) : Prop :=
  ∀ now, state.clock ≤ now → state.due level now = true

theorem State.due_iff {level : UInt8} {now : ℕ} :
    state.due level now = true ↔ state.leds.lastLevel ≠ some level ∧
      ∀ last ∈ state.leds.lastWrite, last + minWriteInterval ≤ now := by
  have positive : 0 < minWriteInterval := by decide
  simp only [State.due]
  cases state.leds.lastWrite with
  | none => simp
  | some last =>
      have spaced : ¬now - last < minWriteInterval ↔ last + minWriteInterval ≤ now := by omega
      simp [← spaced]

theorem State.due_mono {level : UInt8} {earlier later : ℕ} (due : state.due level earlier = true)
    (order : earlier ≤ later) : state.due level later = true := by
  rw [State.due_iff] at due ⊢
  refine ⟨due.1, ?_⟩
  intro last written
  exact (due.2 last written).trans order

/-- An update that tried its level and failed leaves all but the lights as it was. -/
theorem State.update_failed {update : Update} {lands : Strip}
    (attempted : (state.update update lands).attempt = some (state.wanted update))
    (failed : ∃ write ∈ (state.update update lands).writes, write.landed = false) :
    state.due (state.wanted update) update.now = true ∧
    state.update update lands = { (state.noteFlash update).writeLevel (state.wanted update) lands with
      leds := { ((state.noteFlash update).writeLevel (state.wanted update) lands).leds with
        warned := true } } := by
  rcases (state.noteFlash update).updateLevel_cases (state.wanted update) lands with
    ⟨-, updated⟩ | ⟨-, landed, updated⟩ | ⟨due, -, updated⟩
  · rw [State.update, updated] at attempted
    cases attempted
  · rw [State.update, updated] at failed
    rcases failed with ⟨write, member, fails⟩
    rcases State.mem_levelWrites.mp member with ⟨differs, -, same⟩
    rw [fails, landed write.led differs] at same
    cases same
  · exact ⟨due, updated⟩

theorem State.Open.of_quiet {level : UInt8} {event : Event} (still : state.Open level)
    (stepped : state.step event = some next) (quiet : Quiet state event) : next.Open level := by
  cases event with
  | update update lands =>
      obtain ⟨order, rfl⟩ : state.clock ≤ update.now ∧ state.update update lands = next := by
        simpa [State.step] using stepped
      intro now later
      simp only [State.update] at later ⊢
      rcases (state.noteFlash update).updateLevel_cases (state.wanted update) lands with
        ⟨-, updated⟩ | ⟨due, landed, -⟩ | ⟨-, -, updated⟩
      · rw [updated] at later ⊢
        exact still now (order.trans later)
      · exact absurd ⟨due, landed⟩ quiet
      · rw [updated] at later ⊢
        exact still now (order.trans later)
  | stop lands =>
      obtain rfl : state.stop lands = next := by
        simpa [State.step] using stepped
      intro now _
      rfl

theorem State.Open.of_path {level : UInt8} {later : State} (still : state.Open level)
    (path : Relation.ReflTransGen ((revDisplay fun _ => True).StepUnder Quiet) state later) :
    later.Open level := by
  induction path with
  | refl => exact still
  | tail _ stepped ih =>
      rcases stepped with ⟨event, quiet, stepped⟩
      exact ih.of_quiet stepped quiet

theorem State.Open.attempt {level : UInt8} {update : Update} {lands : Strip}
    (still : state.Open level) (stepped : state.step (.update update lands) = some next)
    (wanted : state.wanted update = level) :
    next.attempt = some level ∧ next.writes = state.levelWrites level lands := by
  subst wanted
  obtain ⟨order, rfl⟩ : state.clock ≤ update.now ∧ state.update update lands = next := by
    simpa [State.step] using stepped
  simp only [State.update]
  rcases (state.noteFlash update).updateLevel_cases (state.wanted update) lands with
    ⟨closed, -⟩ | ⟨-, -, updated⟩ | ⟨-, -, updated⟩
  · exact absurd (closed.symm.trans (still update.now order)) Bool.false_ne_true
  · rw [updated]
    exact ⟨rfl, rfl⟩
  · rw [updated]
    exact ⟨rfl, rfl⟩

theorem State.retries (state : State) : state.Retries := by
  intro update lands failed stepped attempted failure
  obtain ⟨order, rfl⟩ : state.clock ≤ update.now ∧ state.update update lands = failed := by
    simpa [State.step] using stepped
  rcases State.update_failed attempted failure with ⟨due, updated⟩
  have still : (state.update update lands).Open (state.wanted update) := by
    rw [updated]
    intro now later
    exact State.due_mono due later
  constructor
  · intro later path again lands last stepped wanted
    exact ((still.of_path path).attempt stepped wanted).1
  · intro again lands' last stepped wanted write member fails
    rw [(still.attempt stepped wanted).2]
    rw [updated] at member ⊢
    rcases State.mem_levelWrites.mp member with ⟨differs, on, landed⟩
    refine ⟨{ led := write.led, on := write.on, landed := lands' write.led }, ?_, rfl, rfl⟩
    refine State.mem_levelWrites.mpr ⟨?_, on, rfl⟩
    have kept : written state.leds.lit (state.levelWrites (state.wanted update) lands) write.led =
        state.leds.lit write.led := by
      rw [State.written_levelWrites]
      apply if_neg
      rintro ⟨-, lands⟩
      rw [← landed, fails] at lands
      cases lands
    simp only [State.differs, State.writeLevel, State.noteFlash] at differs ⊢
    exact (congrArg (· != _) kept).trans differs

/-- Successes since the last stop are far enough apart. -/
def State.Paced (state : State) : Prop :=
  state.successes.Pairwise fun newer older => older + minWriteInterval ≤ newer

structure Stamped (state : State) : Prop where
  newest : state.successes.head? = state.leds.lastWrite
  paced : state.Paced

namespace Stamped

theorem due_spaced (stamped : Stamped state) {level : UInt8} {now : ℕ}
    (due : state.due level now = true) {time : ℕ} (success : time ∈ state.successes) :
    time + minWriteInterval ≤ now := by
  have newest := stamped.newest
  have paced := stamped.paced
  simp only [State.Paced] at paced
  cases times : state.successes with
  | nil => simp [times] at success
  | cons last older =>
      rw [times] at newest success paced
      have free := (State.due_iff.mp due).2 last newest.symm
      rcases List.mem_cons.mp success with rfl | member
      · exact free
      · have spaced := (List.pairwise_cons.mp paced).1 time member
        omega

theorem update (stamped : Stamped state) (update : Update) (lands : Strip) :
    Stamped (state.update update lands) := by
  have noted : Stamped (state.noteFlash update) := ⟨stamped.newest, stamped.paced⟩
  simp only [State.update]
  rcases (state.noteFlash update).updateLevel_cases (state.wanted update) lands with
    ⟨-, updated⟩ | ⟨due, -, updated⟩ | ⟨-, -, updated⟩
  · rw [updated]
    exact ⟨noted.newest, noted.paced⟩
  · rw [updated]
    refine ⟨rfl, List.pairwise_cons.mpr ⟨?_, noted.paced⟩⟩
    intro time success
    exact noted.due_spaced due success
  · rw [updated]
    exact ⟨noted.newest, noted.paced⟩

theorem of_reachable {starts : Strip → Prop}
    (reachable : (revDisplay starts).Reachable state) : Stamped state := by
  refine reachable.invariant ?_ ?_
  · rintro start ⟨brightness, clock, -, rfl⟩
    exact ⟨rfl, List.Pairwise.nil⟩
  · intro current event next stamped _ stepped
    cases event with
    | update update lands =>
        obtain ⟨-, rfl⟩ : current.clock ≤ update.now ∧ current.update update lands = next := by
          simpa [revDisplay, State.step] using stepped
        exact stamped.update update lands
    | stop lands =>
        obtain rfl : current.stop lands = next := by
          simpa [revDisplay, State.step] using stepped
        exact ⟨rfl, List.Pairwise.nil⟩

end Stamped

theorem State.stop_dark (state : State) {lands : Strip} (landed : ∀ led, lands led = true) :
    (state.stop lands).brightness = Strip.dark := by
  funext led
  simp [State.stop, State.written_map _ Strip.dark, landed led]

/-- The display is the recorded one in every run of whole writes over dark files, and in no
others for long; the rest holds in every run. -/
theorem rev_display_law (state : State) :
    ((revDisplay (· = Strip.dark)).ReachableUnder State.WritesWhole state →
      state.Coherent ∧ ∀ event next, state.step event = some next → ¬state.WritesWhole event →
        ¬next.Coherent ∨ next.GoesStale) ∧
    (∀ brightness clock, brightness ≠ Strip.dark →
      (State.atClassdevs brightness clock).GoesStale) ∧
    (∀ lands, (∀ led, lands led = true) → (state.stop lands).brightness = Strip.dark) ∧
    ((revDisplay fun _ => True).Reachable state → state.Retries ∧ state.Paced) := by
  refine ⟨?_, ?_, ?_, ?_⟩
  · intro reachable
    have tracked := Tracked.of_reachable reachable
    refine ⟨tracked.coherent, ?_⟩
    intro event next stepped broken
    exact tracked.stale_of_not_whole stepped broken
  · intro brightness clock lit
    obtain ⟨led, lit⟩ : ∃ led, brightness led = true := by
      by_contra dark
      apply lit
      funext led
      simpa using not_exists.mp dark led
    exact State.goesStale_of_lit led rfl rfl rfl lit
  · intro lands landed
    exact state.stop_dark landed
  · intro reachable
    exact ⟨state.retries, (Stamped.of_reachable reachable).paced⟩

def Update.flash (now : ℕ) : Update where
  rpm := zero
  maxRpm := zero
  pitLimiter := true
  now

/-- The pit limiter's flash is shown in full, its dark half reaches one light only, and the
flash that comes back finds its level recorded. -/
theorem half_written_flash_stays :
    ∃ state, (revDisplay fun _ => True).Reachable state ∧ ¬state.Coherent := by
  rcases System.ReachableUnder.of_check (revDisplay fun _ => True) System.anyStep
    (.atClassdevs Strip.dark 0)
    [.update (.flash 0) fun _ => true, .update (.flash 416700000) fun led => led == 0,
      .update (.flash 833400000) fun _ => true]
    (fun state => state.leds.lastLevel == some 10 && !state.brightness 0)
    ⟨_, _, trivial, rfl⟩ (by decide) (System.runMeets_anyStep _ _) with
    ⟨state, reachable, checked⟩
  rw [Bool.and_eq_true, beq_iff_eq, Bool.not_eq_true'] at checked
  refine ⟨state, reachable, ?_⟩
  intro coherent
  have lit := congrFun (coherent 10 checked.1) 0
  rw [checked.2] at lit
  exact Bool.noConfusion lit

end TrueForce.TfSim.Leds
