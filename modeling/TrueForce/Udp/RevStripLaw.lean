import TrueForce.Udp.RevBridge

/-!
# When the bridge knows what the strip shows

A step keeps the strip and the remembered level together exactly when its writes are
faithful, and two timeouts in a row darken the strip unless a promotion fails in both.
-/

namespace TrueForce.Udp.Bridge

open TrueForce.ByteBuffer TrueForce.Transition

variable {state next : State} {mapping : RevMapping}

namespace State

@[simp]
theorem relayPromote_target (state : State) (promotion : Promotion) :
    (state.relayPromote promotion).target = state.target := by
  simp only [relayPromote]
  split <;> rfl

@[simp]
theorem relayPromote_lastLevel (state : State) (promotion : Promotion) :
    (state.relayPromote promotion).lastLevel = state.lastLevel := by
  simp only [relayPromote]
  split <;> rfl

@[simp]
theorem relayPromote_lastResolve (state : State) (promotion : Promotion) :
    (state.relayPromote promotion).lastResolve = state.lastResolve := by
  simp only [relayPromote]
  split <;> rfl

@[simp]
theorem relayPromote_strips (state : State) (promotion : Promotion) :
    (state.relayPromote promotion).strips = state.strips := by
  simp only [relayPromote]
  split <;> rfl

@[simp]
theorem relayPromote_strip (state : State) (promotion : Promotion) :
    (state.relayPromote promotion).strip = state.strip := by
  simp only [strip, relayPromote_target, relayPromote_strips]

theorem strip_update (state : State) (path : Path) (level : Option ℤ) :
    strip { state with strips := Function.update state.strips path level } =
      if state.target.rev = some path then level else state.strip := by
  simp only [strip]
  cases state.target.rev with
  | none => simp
  | some named =>
      simp only [Option.bind_some, Option.some.injEq, Function.update_apply]

theorem strip_storeLevel {path : Path} (named : state.target.rev = some path) (level : ℤ)
    (reply : Reply) :
    (state.storeLevel path level reply).strip =
      if reply = .stored then state.strip.map fun _ => level else state.strip := by
  simp only [storeLevel]
  split
  · rw [strip_update, if_pos named]
    simp [strip, named]
  · rfl

@[simp]
theorem storeLevel_target (state : State) (path : Path) (level : ℤ) (reply : Reply) :
    (state.storeLevel path level reply).target = state.target := by
  simp only [storeLevel]
  split <;> rfl

theorem strip_eq_none_of_rev (named : state.target.rev = none) : state.strip = none := by
  simp [strip, named]

/-- A failed write leaves the strips alone, so a look finds what it would have found before. -/
theorem storeLevel_of_not_stored {path : Path} {level : ℤ} {reply : Reply}
    (unstored : reply ≠ .stored) : state.storeLevel path level reply = state :=
  if_neg unstored

/-- What a timeout makes of the strip. -/
theorem recvFailed_cases (state : State) (errno : Errno) (promotion : Promotion) (reply : Reply) :
    ((state.recvFailed errno promotion reply).strip = state.strip ∧
      (state.recvFailed errno promotion reply).lastLevel = state.lastLevel ∧
      (state.errnoAfter promotion errno = .again → 0 < state.lastLevel → state.strip = none)) ∨
    (state.errnoAfter promotion errno = .again ∧ 0 < state.lastLevel ∧
      (state.recvFailed errno promotion reply).lastLevel = 0 ∧
      (state.recvFailed errno promotion reply).strip =
        if reply = .stored then state.strip.map fun _ => 0 else state.strip) := by
  simp only [recvFailed, darken, relayPromote_target, relayPromote_lastLevel]
  cases named : state.target.rev with
  | none => exact .inl ⟨relayPromote_strip .., relayPromote_lastLevel .., fun _ _ =>
      strip_eq_none_of_rev named⟩
  | some path =>
      by_cases taken : state.errnoAfter promotion errno = .again ∧ 0 < state.lastLevel
      · right
        simp only [if_pos taken]
        refine ⟨taken.1, taken.2, trivial, ?_⟩
        have promoted : (state.relayPromote promotion).target.rev = some path := by
          rw [relayPromote_target, named]
        have stored := strip_storeLevel promoted 0 reply
        rw [relayPromote_strip] at stored
        exact stored
      · left
        simp only [if_neg taken, relayPromote_strip, relayPromote_lastLevel, true_and]
        intro again positive
        exact absurd ⟨again, positive⟩ taken

/-- What a level that has to be written makes of the strip. -/
theorem showLevel_of_changed {level : ℤ} (state : State) (reply : Reply) (look : Look)
    (named : state.target.rev ≠ none) (shown : 0 ≤ level) (changed : level ≠ state.lastLevel) :
    (state.showLevel level reply look).lastLevel = level ∧
    (state.showLevel level reply look).strip =
      if reply = .stored then state.strip.map fun _ => level
      else (if reply.wentAway then state.reresolve look else state).strip := by
  rcases Option.ne_none_iff_exists'.mp named with ⟨path, named⟩
  simp only [showLevel, named, if_pos (And.intro shown changed), true_and]
  by_cases stored : reply = .stored
  · subst stored
    exact strip_storeLevel named level .stored
  · rw [storeLevel_of_not_stored stored, if_neg stored]
    rfl

theorem showLevel_of_kept {level : ℤ} (state : State) (reply : Reply) (look : Look)
    (kept : ¬(state.target.rev ≠ none ∧ 0 ≤ level ∧ level ≠ state.lastLevel)) :
    state.showLevel level reply look = state := by
  simp only [showLevel]
  cases named : state.target.rev with
  | none => rfl
  | some path =>
      apply if_neg
      intro changed
      exact kept ⟨by simp [named], changed⟩

@[simp]
theorem relayPromote_reresolve_strip (state : State) (promotion : Promotion) (look : Look) :
    ((state.relayPromote promotion).reresolve look).strip = (state.reresolve look).strip := by
  simp only [reresolve, relayPromote_lastResolve]
  split
  · exact relayPromote_strip state promotion
  · simp only [strip, relayPromote_strips]

theorem strip_beginRpm (state : State) (now : ℤ) (look : Look) :
    (state.beginRpm now look).strip =
      (if state.target.rpm.isNone then state.reresolve look else state).strip := by
  simp only [beginRpm]
  split
  · simp only [reresolve]
    split <;> rfl
  · rfl

theorem target_beginRpm (state : State) (now : ℤ) (look : Look) :
    (state.beginRpm now look).target =
      (if state.target.rpm.isNone then state.reresolve look else state).target := by
  simp only [beginRpm]
  split
  · simp only [reresolve]
    split <;> rfl
  · rfl

/-- A look that leaves the bridge without a wheel leaves it without a new strip. -/
theorem strip_reresolve_of_unfound {look : Look}
    (unfound : (state.reresolve look).target.rpm = none) :
    (state.reresolve look).strip = state.strip ∨ (state.reresolve look).strip = none := by
  simp only [reresolve] at unfound ⊢
  split
  · exact .inl rfl
  · next looks =>
      rw [if_neg looks] at unfound
      right
      cases found : look.found with
      | none => simp [strip, resolveTarget]
      | some _ => simp [found, resolveTarget] at unfound

theorem lastLevel_beginRpm (state : State) (now : ℤ) (look : Look) :
    (state.beginRpm now look).lastLevel = state.lastLevel := by
  simp only [beginRpm]
  split
  · simp only [reresolve]
    split <;> rfl
  · rfl

theorem Coherent.congr {other : State} (coherent : state.Coherent)
    (strip : other.strip = state.strip) (level : other.lastLevel = state.lastLevel) :
    other.Coherent := by
  intro known
  rw [strip, level]
  exact coherent (level ▸ known)

theorem coherent_plug (coherent : state.Coherent) (path : Path) :
    Coherent { state with strips := Function.update state.strips path (some 0) } ↔
      (state.target.rev = some path → state.lastLevel ≤ 0) := by
  simp only [Coherent, strip_update]
  constructor
  · intro after named
    rw [if_pos named] at after
    by_contra positive
    have same := after (by omega) 0 rfl
    omega
  · intro low known level shows
    split at shows
    · next named =>
        cases shows
        have := low named
        omega
    · exact coherent known level shows

theorem coherent_unplug (coherent : state.Coherent) (path : Path) :
    Coherent { state with strips := Function.update state.strips path none } := by
  intro known level shows
  rw [strip_update] at shows
  split at shows
  · cases shows
  · exact coherent known level shows

theorem coherent_recvFailed (coherent : state.Coherent) (errno : Errno) (promotion : Promotion)
    (reply : Reply) :
    (state.recvFailed errno promotion reply).Coherent ↔
      (state.errnoAfter promotion errno = .again → 0 < state.lastLevel →
        reply = .stored ∨ state.strip = none) := by
  rcases state.recvFailed_cases errno promotion reply with
    ⟨strip, level, unnamed⟩ | ⟨again, positive, level, strip⟩
  · refine iff_of_true (coherent.congr strip level) ?_
    intro again positive
    exact .inr (unnamed again positive)
  · simp only [Coherent, level, strip]
    constructor
    · intro after _ _
      by_cases stored : reply = .stored
      · exact .inl stored
      · right
        rw [if_neg stored] at after
        rw [Option.eq_none_iff_forall_not_mem]
        intro shown shows
        have zero := after (Int.le_refl 0) shown shows
        have same := coherent (Int.le_of_lt positive) shown shows
        omega
    · intro faithful _ shown shows
      rcases faithful again positive with rfl | unplugged
      · rw [if_pos rfl] at shows
        rcases Option.map_eq_some_iff.mp shows with ⟨_, _, same⟩
        exact same.symm
      · simp [unplugged] at shows

theorem coherent_datagram (coherent : state.Coherent) (bytes : Bytes) (promotion : Promotion)
    (reply : Reply) (look : Look) :
    (state.datagram mapping bytes promotion reply look).Coherent ↔
      state.Faithful mapping (.datagram bytes promotion reply look) := by
  have promoted : (state.relayPromote promotion).Coherent :=
    coherent.congr (relayPromote_strip ..) (relayPromote_lastLevel ..)
  simp only [datagram, Faithful]
  cases received : sampleOf bytes with
  | none =>
      refine iff_of_true promoted ?_
      intro sample member
      cases member
  | some sample =>
      let shown := (state.relayPromote promotion).showLevel (mapping.level sample) reply look
      have same : Coherent { shown with sample := some sample } ↔ shown.Coherent := Iff.rfl
      rw [same]
      by_cases changed : state.target.rev ≠ none ∧ 0 ≤ mapping.level sample ∧
          mapping.level sample ≠ state.lastLevel
      · rcases changed with ⟨named, known, changed⟩
        rcases (state.relayPromote promotion).showLevel_of_changed reply look
          (by rwa [relayPromote_target]) known (by rwa [relayPromote_lastLevel]) with
          ⟨level, strip⟩
        have looked : (if reply.wentAway then (state.relayPromote promotion).reresolve look
            else state.relayPromote promotion).strip =
            (if reply.wentAway then state.reresolve look else state).strip := by
          split
          · exact relayPromote_reresolve_strip ..
          · exact relayPromote_strip ..
        rw [looked, relayPromote_strip] at strip
        constructor
        · intro after other member _ _ _
          cases member
          by_cases stored : reply = .stored
          · exact .inl stored
          · right
            intro at' shows
            rw [if_neg stored] at strip
            rw [← strip] at shows
            exact (after (level ▸ known) at' shows).trans level
        · intro faithful _ at' shows
          rw [strip] at shows
          rw [level]
          split at shows
          · rcases Option.map_eq_some_iff.mp shows with ⟨_, _, same⟩
            exact same.symm
          · next unstored =>
              rcases faithful sample rfl named known changed with stored | same
              · exact absurd stored unstored
              · exact same at' shows
      · have kept : shown = state.relayPromote promotion := by
          apply showLevel_of_kept
          rwa [relayPromote_target, relayPromote_lastLevel]
        rw [kept]
        refine iff_of_true promoted ?_
        intro other member named known moved
        cases member
        exact absurd ⟨named, known, moved⟩ changed

theorem coherent_writeRpm (coherent : state.Coherent) (now : ℤ) (first : Look) (reply : Reply)
    (second : Look) :
    (state.writeRpm now first reply second).Coherent ↔
      state.Faithful mapping (.writeRpm now first reply second) := by
  simp only [writeRpm, Faithful]
  by_cases early : now - state.last < rpmInterval
  · rw [if_pos early]
    refine iff_of_true coherent ?_
    intro due
    omega
  · rw [if_neg early]
    have strip := state.strip_beginRpm now first
    have level := state.lastLevel_beginRpm now first
    have target := state.target_beginRpm now first
    by_cases named : state.target.rpm = none
    · rw [named, Option.isNone_none, if_pos rfl] at strip target
      split
      · next reset =>
          rw [Bool.and_eq_true] at reset
          refine iff_of_true ?_ ?_
          · intro known
            cases known
          · intro _ _ _ kept
            exact Bool.noConfusion (reset.2.symm.trans kept)
      · next kept =>
          simp only [Coherent, strip, level]
          constructor
          · intro after _ _ known _
            exact after known
          · intro faithful known at' shows
            by_cases away : reply.wentAway = true
            · have unfound : (state.reresolve first).target.rpm = none := by
                rw [← target]
                simpa [away] using kept
              rcases strip_reresolve_of_unfound unfound with unmoved | gone
              · rw [unmoved] at shows
                exact coherent known at' shows
              · rw [gone] at shows
                cases shows
            · exact faithful (by omega) named known (by simpa using away) at' shows
    · have resolved : ¬state.target.rpm.isNone = true := by
        rwa [Option.isNone_iff_eq_none]
      rw [if_neg resolved] at strip
      refine iff_of_true ?_ ?_
      · split
        · intro known
          cases known
        · exact coherent.congr strip level
      · intro _ unnamed
        exact absurd unnamed named

theorem coherent_step (coherent : state.Coherent) {event : Event}
    (stepped : state.step mapping event = some next) :
    next.Coherent ↔ state.Faithful mapping event := by
  cases event with
  | unplug path =>
      cases stepped
      exact iff_of_true (coherent_unplug coherent path) trivial
  | plug path =>
      cases stepped
      exact coherent_plug coherent path
  | recvFailed errno promotion reply =>
      simp only [step, Option.ite_none_right_eq_some, Option.some.injEq] at stepped
      rcases stepped with ⟨-, rfl⟩
      exact coherent_recvFailed coherent errno promotion reply
  | datagram bytes promotion reply look =>
      simp only [step, Option.ite_none_right_eq_some, Option.some.injEq] at stepped
      rcases stepped with ⟨-, rfl⟩
      exact coherent_datagram coherent bytes promotion reply look
  | writeRpm now first reply second =>
      simp only [step, Option.ite_none_right_eq_some, Option.some.injEq] at stepped
      rcases stepped with ⟨-, rfl⟩
      exact coherent_writeRpm coherent now first reply second

theorem coherent_of_opened (initial : (bridge mapping).initial state) : state.Coherent := by
  rcases initial with ⟨_, _, _, _, _, rfl⟩
  intro known
  cases known

/-- A strip that is lit is one that the bridge will put out. -/
def Accounted (state : State) : Prop := state.Dark ∨ 0 < state.lastLevel

theorem Coherent.accounted (coherent : state.Coherent) (known : 0 ≤ state.lastLevel) :
    state.Accounted := by
  rcases Int.le_iff_eq_or_lt.mp known with zero | positive
  · left
    intro level shows
    exact (coherent known level shows).trans zero.symm
  · exact .inr positive

theorem Accounted.congr {other : State} (accounted : state.Accounted)
    (strip : other.strip = state.strip) (level : other.lastLevel = state.lastLevel) :
    other.Accounted := by
  simp only [Accounted, Dark, strip, level] at accounted ⊢
  exact accounted

theorem dark_update {level : Option ℤ} (unlit : ∀ shown ∈ level, shown = 0) (path : Path)
    (dark : state.Dark) :
    Dark { state with strips := Function.update state.strips path level } := by
  intro shown shows
  rw [strip_update] at shows
  split at shows
  · exact unlit shown shows
  · exact dark shown shows

theorem Accounted.update {level : Option ℤ} (unlit : ∀ shown ∈ level, shown = 0) (path : Path)
    (accounted : state.Accounted) :
    Accounted { state with strips := Function.update state.strips path level } :=
  accounted.imp (dark_update unlit path) id

/-- A timeout with a working write darkens the strip when `errno` is still its own. -/
theorem dark_recvFailed (state : State) (errno : Errno) (promotion : Promotion) :
    (state.recvFailed errno promotion .stored).Dark ↔
      state.Dark ∨ state.errnoAfter promotion errno = .again ∧ 0 < state.lastLevel := by
  rcases state.recvFailed_cases errno promotion .stored with
    ⟨strip, -, unnamed⟩ | ⟨again, positive, -, strip⟩
  · simp only [Dark, strip]
    constructor
    · exact .inl
    · rintro (dark | ⟨again, positive⟩)
      · exact dark
      · simp [unnamed again positive]
  · refine iff_of_true ?_ (.inr ⟨again, positive⟩)
    intro level shows
    rw [strip, if_pos rfl] at shows
    rcases Option.map_eq_some_iff.mp shows with ⟨_, _, same⟩
    exact same.symm

theorem Accounted.step (accounted : state.Accounted) (coherent : state.Coherent) {event : Event}
    (stepped : state.step mapping event = some next) (faithful : state.Faithful mapping event)
    (dark : state.FindsDark event) : next.Accounted := by
  have after : next.Coherent := (coherent_step coherent stepped).mpr faithful
  cases event with
  | unplug path =>
      cases stepped
      exact accounted.update (by simp) path
  | plug path =>
      cases stepped
      exact accounted.update (by simp) path
  | recvFailed errno promotion reply =>
      simp only [State.step, Option.ite_none_right_eq_some, Option.some.injEq] at stepped
      rcases stepped with ⟨-, rfl⟩
      rcases state.recvFailed_cases errno promotion reply with
        ⟨strip, level, -⟩ | ⟨-, -, level, -⟩
      · exact accounted.congr strip level
      · exact after.accounted (Int.le_of_eq level.symm)
  | datagram bytes promotion reply look =>
      simp only [State.step, Option.ite_none_right_eq_some, Option.some.injEq] at stepped
      rcases stepped with ⟨-, rfl⟩
      by_cases known : 0 ≤ (state.datagram mapping bytes promotion reply look).lastLevel
      · exact after.accounted known
      · have promoted : (state.relayPromote promotion).Accounted :=
          accounted.congr (relayPromote_strip ..) (relayPromote_lastLevel ..)
        simp only [State.datagram] at known ⊢
        split
        · exact promoted
        · next sample received =>
            rw [received] at known
            by_cases changed : (state.relayPromote promotion).target.rev ≠ none ∧
                0 ≤ mapping.level sample ∧
                mapping.level sample ≠ (state.relayPromote promotion).lastLevel
            · have level := (showLevel_of_changed _ reply look changed.1 changed.2.1
                changed.2.2).1
              exact absurd (level ▸ changed.2.1) known
            · rw [showLevel_of_kept _ reply look changed]
              exact promoted
  | writeRpm now first reply second =>
      simp only [State.step, Option.ite_none_right_eq_some, Option.some.injEq] at stepped
      rcases stepped with ⟨-, rfl⟩
      by_cases early : now - state.last < rpmInterval
      · simp only [State.writeRpm, if_pos early]
        exact accounted
      · by_cases looks : state.target.rpm = none ∨ reply.wentAway = true
        · exact .inl (dark (by omega) looks)
        · rw [not_or, Bool.not_eq_true] at looks
          have resolved : ¬state.target.rpm.isNone = true := by
            rw [Option.isNone_iff_eq_none]
            exact looks.1
          have strip := state.strip_beginRpm now first
          rw [if_neg resolved] at strip
          simp only [State.writeRpm, if_neg early, looks.2, Bool.and_false, Bool.false_eq_true,
            if_false]
          exact accounted.congr strip (state.lastLevel_beginRpm now first)

end State

/-- A wheel goes or comes. -/
def Replugs (_ : State) : Event → Prop
  | .unplug _ | .plug _ => True
  | _ => False

theorem replugged {later : State}
    (path : Relation.ReflTransGen ((bridge mapping).StepUnder Replugs) state later) :
    (state.Dark → later.Dark) ∧ (state.Accounted → later.Accounted) := by
  induction path with
  | refl => exact ⟨id, id⟩
  | tail _ stepped ih =>
      rcases stepped with ⟨event, replugs, stepped⟩
      cases event with
      | unplug path =>
          cases stepped
          exact ⟨State.dark_update (by simp) path ∘ ih.1,
            State.Accounted.update (by simp) path ∘ ih.2⟩
      | plug path =>
          cases stepped
          exact ⟨State.dark_update (by simp) path ∘ ih.1,
            State.Accounted.update (by simp) path ∘ ih.2⟩
      | _ => cases replugs

theorem of_reachable (reachable : (bridge mapping).ReachableUnder (State.Faithful mapping) state) :
    state.Coherent := by
  refine reachable.invariant ?_ ?_
  · intro start initial
    exact State.coherent_of_opened initial
  · intro current event next coherent faithful stepped
    exact (State.coherent_step coherent stepped).mpr faithful

/-- The wheels that are looked for are as dark as the bridge takes them to be. -/
def State.Watched (mapping : RevMapping) (state : State) (event : Event) : Prop :=
  state.Faithful mapping event ∧ state.FindsDark event

structure Followed (state : State) : Prop where
  coherent : state.Coherent
  accounted : state.Accounted

theorem followed_of_reachable
    (reachable : (darkBridge mapping).ReachableUnder (State.Watched mapping) state) :
    Followed state := by
  refine reachable.invariant ?_ ?_
  · rintro start ⟨initial, dark⟩
    exact ⟨State.coherent_of_opened initial, .inl dark⟩
  · rintro current event next ⟨coherent, accounted⟩ ⟨faithful, dark⟩ stepped
    exact ⟨(State.coherent_step coherent stepped).mpr faithful,
      accounted.step coherent stepped faithful dark⟩

theorem dark_of_accounted (accounted : state.Accounted) (promotion : Promotion) :
    (state.recvFailed .again promotion .stored).Dark ↔
      state.Dark ∨ state.errnoAfter promotion .again = .again := by
  rw [state.dark_recvFailed]
  constructor
  · rintro (dark | ⟨again, -⟩)
    · exact .inl dark
    · exact .inr again
  · rintro (dark | again)
    · exact .inl dark
    · exact accounted.imp id fun positive => ⟨again, positive⟩

/-- The remembered level is the one shown as long as the steps are faithful, and not after one
that is not; two timeouts darken the strip unless a promotion takes `errno` from both. -/
theorem rev_strip_law (mapping : RevMapping) (state : State) :
    ((bridge mapping).ReachableUnder (State.Faithful mapping) state →
      state.Coherent ∧ ∀ event next, (bridge mapping).step state event = some next →
        (next.Coherent ↔ state.Faithful mapping event)) ∧
    ((darkBridge mapping).ReachableUnder (State.Watched mapping) state →
      ∀ first second middle between last,
        (bridge mapping).step state (.recvFailed .again first .stored) = some middle →
        Relation.ReflTransGen ((bridge mapping).StepUnder Replugs) middle between →
        (bridge mapping).step between (.recvFailed .again second .stored) = some last →
        (state.errnoAfter first .again = .again ∨ between.errnoAfter second .again = .again →
          last.Dark) ∧
        (between = middle → (last.Dark ↔ state.Dark ∨ state.errnoAfter first .again = .again ∨
          between.errnoAfter second .again = .again))) := by
  constructor
  · intro reachable
    have coherent := of_reachable reachable
    refine ⟨coherent, ?_⟩
    intro event next stepped
    exact State.coherent_step coherent stepped
  · intro reachable first second middle between last timeout path again
    rcases followed_of_reachable reachable with ⟨coherent, accounted⟩
    have faithful : state.Faithful mapping (.recvFailed .again first .stored) :=
      fun _ _ => .inl rfl
    have stepped : state.step mapping (.recvFailed .again first .stored) = some middle := timeout
    have kept : middle.Accounted := accounted.step coherent stepped faithful trivial
    rcases replugged path with ⟨stillDark, stillAccounted⟩
    simp only [bridge, State.step, Option.ite_none_right_eq_some, Option.some.injEq]
      at timeout again
    rcases timeout with ⟨-, rfl⟩
    rcases again with ⟨-, rfl⟩
    rw [dark_of_accounted (stillAccounted kept)]
    constructor
    · rintro (early | late)
      · exact .inl (stillDark ((dark_of_accounted accounted first).mpr (.inr early)))
      · exact .inr late
    · rintro rfl
      rw [dark_of_accounted accounted, or_assoc]

def fixedLevel : RevMapping where
  level _ := 5
  low _ := by decide
  high _ := by decide

/-- A datagram of version 2 with nothing else in it. -/
def emptySample : Bytes := Relay.magic ++ Relay.version :: List.replicate 23 0

/-- The strip of the wheel may not be written, and counts as lit. -/
theorem refused_level_is_remembered :
    ∃ state, (bridge fixedLevel).Reachable state ∧ ¬state.Coherent := by
  rcases System.ReachableUnder.of_check (bridge fixedLevel) System.anyStep
    (.opened 0 (some 0) true 0 fun _ => some 0)
    [.datagram emptySample ⟨0, none⟩ (.failed .other) ⟨0, none⟩]
    (fun state => state.lastLevel == 5 && state.strip == some 0)
    ⟨_, _, _, _, _, rfl⟩ (by decide) (System.runMeets_anyStep _ _) with
    ⟨state, reachable, checked⟩
  rw [Bool.and_eq_true, beq_iff_eq, beq_iff_eq] at checked
  refine ⟨state, reachable, ?_⟩
  intro coherent
  have same := coherent (by omega) 0 checked.2
  omega

end TrueForce.Udp.Bridge
