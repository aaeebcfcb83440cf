import TrueForce.Ffb.StopSafety

/-!
# One carrier for each force

What one tick hands over: the packets it queues and the forces it leaves in
`yield_force`.  The force of a tick goes out once, as a packet of its own, in the
preamble of a stream packet or through the owner of the stream; it is missing only
where its packet is dropped or the idle gate is closed, and the gate closes only
behind a whole grace period of ticks that had nothing to send.

A tick that yields the stream hands over a force and no packet, except for the
control packets, which do not ask who owns the stream.
-/

namespace TrueForce.Ffb

open TrueForce.Transition

def Packet.carriedForce : Packet → Option ℕ
  | .force cur => some cur
  | .stream _ cur _ => some cur
  | .control _ _ => none

/-- All that `next` has handed over since `carrier`, and the forces among it. -/
structure Hands (carrier next : Carrier) (forces : List ℕ) : Prop where
  handed : ∃ packets yielded, next.queued = packets ++ carrier.queued ∧
    next.yieldForces = yielded ++ carrier.yieldForces ∧
    packets.filterMap Packet.carriedForce ++ yielded = forces

namespace Hands

variable {carrier middle next : Carrier} {forces : List ℕ}

theorem same (packets : next.queued = carrier.queued)
    (yielded : next.yieldForces = carrier.yieldForces) : Hands carrier next [] :=
  ⟨[], [], packets, yielded, rfl⟩

theorem refl (carrier : Carrier) : Hands carrier carrier [] := same rfl rfl

theorem after (first : Hands carrier middle []) (second : Hands middle next forces) :
    Hands carrier next forces := by
  rcases first.handed with ⟨packets, yielded, queued, published, none⟩
  rcases second.handed with ⟨morePackets, moreYielded, moreQueued, morePublished, some⟩
  rw [List.append_eq_nil_iff] at none
  refine ⟨morePackets ++ packets, moreYielded ++ yielded, ?_, ?_, ?_⟩
  · rw [moreQueued, queued, List.append_assoc]
  · rw [morePublished, published, List.append_assoc]
  · rw [List.filterMap_append, none.1, none.2, List.append_nil, List.append_nil, some]

theorem before (first : Hands carrier middle forces) (second : Hands middle next []) :
    Hands carrier next forces := by
  rcases first.handed with ⟨packets, yielded, queued, published, some⟩
  rcases second.handed with ⟨morePackets, moreYielded, moreQueued, morePublished, none⟩
  rw [List.append_eq_nil_iff] at none
  refine ⟨morePackets ++ packets, moreYielded ++ yielded, ?_, ?_, ?_⟩
  · rw [moreQueued, queued, List.append_assoc]
  · rw [morePublished, published, List.append_assoc]
  · rw [List.filterMap_append, none.1, none.2, List.nil_append, List.nil_append, some]

/-- Fields besides the two logs do not matter. -/
theorem of_logs {last : Carrier} (hands : Hands carrier next forces)
    (packets : last.queued = next.queued) (yielded : last.yieldForces = next.yieldForces) :
    Hands carrier last forces :=
  hands.before (same packets yielded)

theorem suffix (hands : Hands carrier next forces) : carrier.queued <:+ next.queued := by
  rcases hands.handed with ⟨packets, _, queued, _⟩
  exact ⟨packets, queued.symm⟩

end Hands

namespace Carrier

variable (carrier : Carrier) (env : SendEnv) (force : ℤ)

theorem queue_cases (attempt : Attempt) (limit : ℕ) (packet : Packet) :
    (carrier.queue attempt limit packet =
        ({ carrier with
          pendingWork := carrier.pendingWork - attempt.completed + 1
          queued := packet :: carrier.queued }, true) ∧
      carrier.pendingWork - attempt.completed < limit ∧ attempt.allocated = true) ∨
    (carrier.queue attempt limit packet =
        ({ carrier with pendingWork := carrier.pendingWork - attempt.completed }, false) ∧
      (limit ≤ carrier.pendingWork - attempt.completed ∨ attempt.allocated = false)) := by
  simp only [Carrier.queue]
  split
  · rename_i room
    exact Or.inl ⟨rfl, room⟩
  · rename_i full
    refine Or.inr ⟨rfl, ?_⟩
    by_cases small : carrier.pendingWork - attempt.completed < limit
    · exact Or.inr (by simpa [small] using full)
    · exact Or.inl (Nat.not_lt.mp small)

/-- The attempt to queue a packet of the texture channel fails. -/
def RefusesRaw (attempt : Attempt) : Prop :=
  maxPendingWork - 2 ≤ carrier.pendingWork - attempt.completed ∨ attempt.allocated = false

instance (attempt : Attempt) : Decidable (carrier.RefusesRaw attempt) := by
  simp only [RefusesRaw]
  infer_instance

/-- A control packet is queued, with the next sequence number, or refused. -/
theorem tfQueueCtrl_cases (attempt : Attempt) (command : TfCommand) :
    (carrier.tfQueueCtrl attempt command =
        ({ carrier with
          pendingWork := carrier.pendingWork - attempt.completed + 1
          queued := .control command carrier.tfSeq :: carrier.queued
          tfSeq := carrier.tfSeq + 1 }, true) ∧ ¬carrier.RefusesRaw attempt) ∨
    (carrier.tfQueueCtrl attempt command =
        ({ carrier with pendingWork := carrier.pendingWork - attempt.completed }, false) ∧
      carrier.RefusesRaw attempt) := by
  simp only [Carrier.tfQueueCtrl, Carrier.tfQueueRaw]
  rcases carrier.queue_cases attempt (maxPendingWork - 2) (.control command carrier.tfSeq) with
    ⟨outcome, room, allocated⟩ | ⟨outcome, full⟩
  · left
    rw [outcome]
    refine ⟨rfl, ?_⟩
    rintro (full | unallocated)
    · omega
    · simp [allocated] at unallocated
  · right
    rw [outcome]
    exact ⟨rfl, full⟩

/-- A stream packet is published, queued with the next sequence number, or refused. -/
theorem tfQueueStream_cases (foreign : Bool) (attempt : Attempt) (quartet : Option (List ℕ)) :
    (foreign = true ∧ carrier.tfQueueStream foreign attempt force quartet =
      (carrier.publish (forceToOffsetBinary force), true)) ∨
    (foreign = false ∧ ¬carrier.RefusesRaw attempt ∧
      carrier.tfQueueStream foreign attempt force quartet =
        ({ carrier with
          pendingWork := carrier.pendingWork - attempt.completed + 1
          queued := .stream carrier.tfSeq (forceToOffsetBinary force)
            (carrier.nextWindow quartet) :: carrier.queued
          tfSeq := carrier.tfSeq + 1
          tfWindow := carrier.nextWindow quartet
          delivered := forceToOffsetBinary force }, true)) ∨
    (foreign = false ∧ carrier.RefusesRaw attempt ∧
      carrier.tfQueueStream foreign attempt force quartet =
        ({ carrier with pendingWork := carrier.pendingWork - attempt.completed }, false)) := by
  simp only [Carrier.tfQueueStream, Carrier.tfQueueRaw]
  cases foreign with
  | true => exact Or.inl ⟨rfl, rfl⟩
  | false =>
      rcases carrier.queue_cases attempt (maxPendingWork - 2)
        (.stream carrier.tfSeq (forceToOffsetBinary force) (carrier.nextWindow quartet)) with
        ⟨outcome, room, allocated⟩ | ⟨outcome, full⟩
      · right
        left
        rw [outcome]
        refine ⟨rfl, ?_, rfl⟩
        rintro (full | unallocated)
        · omega
        · simp [allocated] at unallocated
      · right
        right
        rw [outcome]
        exact ⟨rfl, full, rfl⟩

theorem tfQueueCtrl_hands (attempt : Attempt) (command : TfCommand) :
    Hands carrier (carrier.tfQueueCtrl attempt command).1 [] := by
  rcases carrier.tfQueueCtrl_cases attempt command with ⟨outcome, _⟩ | ⟨outcome, _⟩
  · rw [outcome]
    exact ⟨[.control command carrier.tfSeq], [], rfl, rfl, rfl⟩
  · rw [outcome]
    exact .same rfl rfl

theorem tfQueueStream_hands (foreign : Bool) (attempt : Attempt) (quartet : Option (List ℕ)) :
    Hands carrier (carrier.tfQueueStream foreign attempt force quartet).1
      (if (carrier.tfQueueStream foreign attempt force quartet).2 then
        [forceToOffsetBinary force] else []) := by
  rcases carrier.tfQueueStream_cases force foreign attempt quartet with
    ⟨_, outcome⟩ | ⟨_, _, outcome⟩ | ⟨_, _, outcome⟩
  · rw [outcome]
    exact ⟨[], [forceToOffsetBinary force], rfl, rfl, rfl⟩
  · rw [outcome]
    refine ⟨[.stream carrier.tfSeq (forceToOffsetBinary force) (carrier.nextWindow quartet)], [],
      rfl, rfl, rfl⟩
  · rw [outcome]
    exact .same rfl rfl

theorem sendStopHalf_hands : Hands carrier (carrier.sendStopHalf env) [] := by
  simp only [Carrier.sendStopHalf]
  split
  · exact .refl carrier
  · exact (carrier.tfQueueCtrl_hands env.stop .stop).of_logs rfl rfl

theorem sendStopPair_hands : Hands carrier (carrier.sendStopPair env).1 [] := by
  have stopped := carrier.sendStopHalf_hands env
  have started := stopped.after
    ((carrier.sendStopHalf env).tfQueueCtrl_hands env.start .start)
  simp only [Carrier.sendStopPair]
  split
  · split
    · exact started.of_logs rfl rfl
    · split <;> exact started.of_logs rfl rfl
  · split
    · exact stopped.of_logs rfl rfl
    · split <;> exact stopped.of_logs rfl rfl

theorem sendRecentre_hands :
    Hands carrier (carrier.sendRecentre env force).1
      (if (carrier.sendRecentre env force).2 then [forceToOffsetBinary force] else []) := by
  simp only [Carrier.sendRecentre]
  split
  · exact .refl carrier
  · have centred : Hands carrier { carrier with tfWindow := List.replicate tfWindowSlots centre }
        [] := .same rfl rfl
    have streamed := centred.after (Carrier.tfQueueStream_hands _ force env.foreignStream
      env.stream none)
    exact streamed.of_logs rfl rfl

theorem tfWindDown_hands :
    Hands carrier (carrier.tfWindDown env force).1
      (if (carrier.tfWindDown env force).2 then [forceToOffsetBinary force] else []) := by
  simp only [Carrier.tfWindDown]
  split
  · have stopped := (carrier.sendRecentre_hands env force).before
      ((carrier.sendRecentre env force).1.sendStopPair_hands env)
    exact stopped.of_logs rfl rfl
  · exact .refl carrier

theorem tfOpen_hands : Hands carrier (carrier.tfOpen env).1 [] := by
  simp only [Carrier.tfOpen]
  split
  · exact .refl carrier
  · have started := carrier.tfQueueCtrl_hands env.start .start
    split
    · rename_i next outcome
      rw [outcome] at started
      exact started.of_logs rfl rfl
    · rename_i next outcome
      rw [outcome] at started
      exact started

/-- `hidpp_dd_tf_tick` returns true exactly if it has handed over the force. -/
theorem tfTick_hands (tunables : Tunables) (anyTexture : Bool) (samples : List ℤ) :
    Hands carrier (carrier.tfTick tunables env anyTexture samples force).1
      (if (carrier.tfTick tunables env anyTexture samples force).2 then
        [forceToOffsetBinary force] else []) := by
  simp only [Carrier.tfTick]
  split
  · have opened := carrier.tfOpen_hands env
    split
    · rename_i middle outcome
      rw [outcome] at opened
      exact opened.after (middle.tfQueueStream_hands force _ _ _)
    · rename_i middle outcome
      rw [outcome] at opened
      exact opened
  · exact carrier.tfWindDown_hands env force

theorem idleGate_hands (idle : Bool) : Hands carrier (carrier.idleGate env idle) [] := by
  simp only [Carrier.idleGate]
  split
  · split
    · exact .same rfl rfl
    · split
      · exact .refl carrier
      · exact (carrier.sendStopPair_hands env).of_logs rfl rfl
  · exact .same rfl rfl

/-- The force as it goes on the wire in a packet of its own. -/
def wireForce (tunables : Tunables) (force : ℤ) : ℕ :=
  forceToOffsetBinary (if tunables.g920 then scaleU16 force tunables.strength else force)

instance : Decidable (carrier.DropsForce env) := by
  simp only [DropsForce]
  infer_instance

theorem sendForce_hands (tunables : Tunables) :
    Hands carrier (carrier.sendForce tunables env force)
      (if carrier.DropsForce env then [] else [wireForce tunables force]) := by
  have kept (keeps : ¬carrier.DropsForce env) :
      (if carrier.DropsForce env then [] else [wireForce tunables force]) =
        [wireForce tunables force] := if_neg keeps
  simp only [Carrier.sendForce]
  split
  · rename_i foreign
    rw [kept (fun drops => by simp [drops.1] at foreign)]
    exact ⟨[], [wireForce tunables force], rfl, rfl, rfl⟩
  · rename_i own
    rw [Bool.not_eq_true] at own
    rcases carrier.queue_cases env.force maxPendingWork
      (.force (forceToOffsetBinary
        (if tunables.g920 then scaleU16 force tunables.strength else force))) with
      ⟨outcome, room, allocated⟩ | ⟨outcome, full⟩
    · rw [kept]
      · rw [outcome]
        exact ⟨[.force (wireForce tunables force)], [], rfl, rfl, rfl⟩
      · rintro ⟨_, full | unallocated⟩
        · omega
        · simp [allocated] at unallocated
    · have drops : carrier.DropsForce env := ⟨own, full⟩
      rw [outcome]
      simp only [drops, ↓reduceIte]
      exact .same rfl rfl

end Carrier

namespace State

/-- The environment as the tick's helpers see it. -/
def sendEnv (state : State) (env : SendEnv) : SendEnv := if state.live then env else env.refuse

/-- The force packet of the tick is tried and dropped. -/
def LosesForce (state : State) (tick : Tick) (env : SendEnv) : Prop :=
  (state.beforeForce tick (state.sendEnv env)).2 = false ∧
    (state.beforeForce tick (state.sendEnv env)).1.DropsForce (state.sendEnv env)

variable {state : State} {tick : Tick} {env : SendEnv}

theorem beforeForce_hands (state : State) (tick : Tick) (env : SendEnv) :
    Hands state.carrier (state.beforeForce tick env).1
      (if (state.beforeForce tick env).2 then [forceToOffsetBinary tick.force] else []) := by
  simp only [State.beforeForce]
  split
  · exact (state.carrier.tfTick_hands env tick.force state.tunables tick.anyTexture
      tick.samples).before (Carrier.idleGate_hands _ env _)
  · exact Carrier.idleGate_hands _ env _

theorem sendTick_carrier (state : State) (tick : Tick) (env : SendEnv) :
    (state.sendTick tick env).carrier =
      if (state.beforeForce tick (state.sendEnv env)).2 ||
          (state.beforeForce tick (state.sendEnv env)).1.kfGated then
        (state.beforeForce tick (state.sendEnv env)).1
      else (state.beforeForce tick (state.sendEnv env)).1.sendForce state.tunables
        (state.sendEnv env) tick.force := rfl

theorem sendTick_kfGated (state : State) (tick : Tick) (env : SendEnv) :
    (state.sendTick tick env).carrier.kfGated =
      (state.beforeForce tick (state.sendEnv env)).1.kfGated := by
  rw [sendTick_carrier]
  split
  · rfl
  · exact (Carrier.sendForce_gate _ _ _ _).2

/-- One tick hands its force to one carrier, or to none. -/
theorem sendTick_hands (state : State) (tick : Tick) (env : SendEnv) :
    ∃ forces, Hands state.carrier (state.sendTick tick env).carrier forces ∧
      (forces = [forceToOffsetBinary tick.force] ∨
        forces = [Carrier.wireForce state.tunables tick.force] ∨
        forces = [] ∧ ((state.sendTick tick env).carrier.kfGated = true ∨
          state.LosesForce tick env)) := by
  have before := state.beforeForce_hands tick (state.sendEnv env)
  rw [sendTick_kfGated, sendTick_carrier]
  cases sent : (state.beforeForce tick (state.sendEnv env)).2 with
  | true =>
      rw [sent] at before
      exact ⟨_, before, Or.inl rfl⟩
  | false =>
      rw [sent] at before
      cases gated : (state.beforeForce tick (state.sendEnv env)).1.kfGated with
      | true => exact ⟨_, before, Or.inr (Or.inr ⟨rfl, Or.inl rfl⟩)⟩
      | false =>
          have forced := before.after (Carrier.sendForce_hands _ (state.sendEnv env) tick.force
            state.tunables)
          refine ⟨_, forced, ?_⟩
          split
          · rename_i drops
            exact Or.inr (Or.inr ⟨rfl, Or.inr ⟨sent, drops⟩⟩)
          · exact Or.inr (Or.inl rfl)

/-- The forces that `after` has handed over since `before`. -/
def handedOver (before after : Carrier) : List ℕ :=
  (after.queued.take (after.queued.length - before.queued.length)).filterMap
      Packet.carriedForce ++
    after.yieldForces.take (after.yieldForces.length - before.yieldForces.length)

theorem handedOver_eq {before after : Carrier} {forces : List ℕ}
    (hands : Hands before after forces) : handedOver before after = forces := by
  rcases hands.handed with ⟨packets, yielded, queued, published, same⟩
  simp [handedOver, queued, published, same]

/-- The force of the tick goes out once, or it is lost or silenced. -/
def CarriedOnce (state : State) (tick : Tick) (env : SendEnv) : Prop :=
  let handed := handedOver state.carrier (state.sendTick tick env).carrier
  handed = [forceToOffsetBinary tick.force] ∨
    handed = [Carrier.wireForce state.tunables tick.force] ∨
    handed = [] ∧ ((state.sendTick tick env).carrier.kfGated = true ∨ state.LosesForce tick env)

/-- The wire would carry zero and nothing needs the cadence. -/
def restingTick (state : State) (tick : Tick) : Bool :=
  tick.force == 0 && !tick.anyPlaying && !tick.anyTexture && !state.carrier.tfStreaming

theorem sendTick_carriedOnce (state : State) (tick : Tick) (env : SendEnv) :
    state.CarriedOnce tick env := by
  rcases state.sendTick_hands tick env with ⟨forces, hands, cases⟩
  simp only [CarriedOnce, handedOver_eq hands]
  exact cases

end State

/-- A step is the send of a tick, or it leaves the packets and the idle gate as they are. -/
inductive TickStep (state : State) (event : Event) (next : State) : Prop where
  | tick (tick : Tick) (env : SendEnv) : event = .send env → state.callback = .summed tick →
      next = state.sendTick tick env → TickStep state event next
  | other : (∀ env, event ≠ .send env) → next.carrier.queued = state.carrier.queued →
      next.carrier.kfIdleTicks = state.carrier.kfIdleTicks →
      next.carrier.kfGated = state.carrier.kfGated → TickStep state event next

theorem step_tickStep {kernel : Kernel} {state next : State} {event : Event}
    (stepped : state.step kernel event = some next) : TickStep state event next := by
  by_cases sends : ∃ env, event = .send env
  · rcases sends with ⟨env, rfl⟩
    have called : state.stepCallback kernel (.send env) = some next := stepped
    cases stepCallback_cases called with
    | send tick env summed => exact .tick tick env rfl summed rfl
  · have notSend : ∀ env, event ≠ .send env := fun env same => sends ⟨env, same⟩
    cases step_timerStep stepped with
    | same same => exact .other notSend same.packets same.kfIdleTicks same.kfGated
    | initDone eq | stop eq =>
        subst eq
        exact .other notSend rfl rfl rfl
    | kick operations eq =>
        subst eq
        simp only [State.timerKick]
        split <;> exact .other notSend rfl rfl rfl
    | callback stepped =>
        cases stepped with
        | send tick env summed => exact absurd rfl (notSend env)
        | _ => exact .other notSend rfl rfl rfl

/-- The engine with a record of its ticks, newest first: whether each had nothing to send. -/
structure Watched where
  state : State
  resting : List Bool

namespace Watched

def record (watched : Watched) (event : Event) : List Bool :=
  match event, watched.state.callback with
  | .send _, .summed tick => watched.state.restingTick tick :: watched.resting
  | _, _ => watched.resting

def step (kernel : Kernel) (watched : Watched) (event : Event) : Option Watched :=
  (watched.state.step kernel event).map fun next =>
    { state := next, resting := watched.record event }

theorem record_of_not_send (watched : Watched) {event : Event}
    (notSend : ∀ env, event ≠ .send env) : watched.record event = watched.resting := by
  cases event with
  | send env => exact absurd rfl (notSend env)
  | _ => rfl

/-- The number of resting ticks since the last other tick. -/
def streak (watched : Watched) : ℕ := (watched.resting.takeWhile id).length

/-- The counter of the gate counts resting ticks only, and the gate closes behind its grace. -/
structure Counted (watched : Watched) : Prop where
  ticks : watched.state.carrier.kfIdleTicks ≤ watched.streak
  gated : watched.state.carrier.kfGated = true →
    kfIdleGraceTicks ≤ watched.state.carrier.kfIdleTicks

end Watched

def watchedEngine (kernel : Kernel) : System Watched Event where
  initial watched := ∃ tunables, watched = { state := State.start tunables, resting := [] }
  step := Watched.step kernel

theorem Carrier.idleGate_kfIdleTicks (carrier : Carrier) (env : SendEnv) (idle : Bool) :
    (carrier.idleGate env idle).kfIdleTicks =
      if idle then
        if carrier.kfIdleTicks < kfIdleGraceTicks then carrier.kfIdleTicks + 1
        else carrier.kfIdleTicks
      else 0 := by
  simp only [Carrier.idleGate]
  split
  · split
    · rfl
    · split
      · rfl
      · exact (carrier.sendStopPair_carries env 0).kfIdleTicks
  · rfl

namespace State

variable {state : State} {tick : Tick} {env : SendEnv}

theorem beforeForce_gate (state : State) (tick : Tick) (env : SendEnv) :
    ∃ carrier : Carrier, carrier.kfIdleTicks = state.carrier.kfIdleTicks ∧
      carrier.kfGated = state.carrier.kfGated ∧
      (state.beforeForce tick env).1 = carrier.idleGate env (state.idleTick tick) := by
  simp only [State.beforeForce]
  split
  · have carried := state.carrier.tfTick_carries env tick.force state.tunables tick.anyTexture
      tick.samples
    exact ⟨_, carried.kfIdleTicks, carried.kfGated, rfl⟩
  · exact ⟨_, rfl, rfl, rfl⟩

theorem restingTick_of_idleTick (idle : state.idleTick tick = true) :
    state.restingTick tick = true := by
  simp only [State.idleTick, Bool.and_eq_true] at idle
  simp only [State.restingTick, Bool.and_eq_true]
  exact idle.2

/-- A tick counts up only if it rests, and closes the gate only behind a full grace. -/
theorem sendTick_counts (state : State) (tick : Tick) (env : SendEnv) :
    ((state.sendTick tick env).carrier.kfIdleTicks = 0 ∨
      state.restingTick tick = true ∧ (state.sendTick tick env).carrier.kfIdleTicks ≤
        state.carrier.kfIdleTicks + 1) ∧
    ((state.sendTick tick env).carrier.kfGated = true →
      state.restingTick tick = true ∧
        (state.carrier.kfGated = true ∨ kfIdleGraceTicks ≤ state.carrier.kfIdleTicks) ∧
        (state.sendTick tick env).carrier.kfIdleTicks ≥ state.carrier.kfIdleTicks) := by
  have ticks : (state.sendTick tick env).carrier.kfIdleTicks =
      (state.beforeForce tick (state.sendEnv env)).1.kfIdleTicks := by
    rw [sendTick_carrier]
    split
    · rfl
    · exact (Carrier.sendForce_gate _ _ _ _).1
  rcases state.beforeForce_gate tick (state.sendEnv env) with
    ⟨carrier, sameTicks, sameGate, before⟩
  rw [sendTick_kfGated, ticks, before, Carrier.idleGate_kfIdleTicks, sameTicks]
  cases idle : state.idleTick tick with
  | true =>
      have rests := restingTick_of_idleTick idle
      constructor
      · right
        refine ⟨rests, ?_⟩
        simp only [↓reduceIte]
        split <;> omega
      · intro gated
        have closing := (carrier.idleGate_gated _ gated).2
        rw [sameGate, sameTicks] at closing
        refine ⟨rests, closing, ?_⟩
        simp only [↓reduceIte]
        split <;> omega
  | false =>
      constructor
      · left
        rfl
      · intro gated
        cases gated

end State

namespace Watched

variable {kernel : Kernel} {watched next : Watched}

theorem Counted.sendTick {tick : Tick} {env : SendEnv} (counted : watched.Counted) :
    Counted { state := watched.state.sendTick tick env
              resting := watched.state.restingTick tick :: watched.resting } := by
  rcases watched.state.sendTick_counts tick env with ⟨ticks, gated⟩
  constructor
  · rcases ticks with none | ⟨rests, up⟩
    · simp [none]
    · have before := counted.ticks
      simp only [streak] at before
      simp only [streak, rests, List.takeWhile_cons_of_pos, id, List.length_cons]
      omega
  · intro closed
    rcases gated closed with ⟨_, before, up⟩
    have grace : kfIdleGraceTicks ≤ watched.state.carrier.kfIdleTicks :=
      before.elim counted.gated id
    exact grace.trans up

theorem Counted.step {event : Event} (counted : watched.Counted)
    (stepped : watched.step kernel event = some next) : next.Counted := by
  simp only [Watched.step, Option.map_eq_some_iff] at stepped
  rcases stepped with ⟨state, stepped, rfl⟩
  cases step_tickStep stepped with
  | tick tick env sends summed eq =>
      subst sends eq
      simp only [Watched.record, summed]
      exact counted.sendTick
  | other notSend packets ticks gated =>
      rw [watched.record_of_not_send notSend]
      refine ⟨?_, ?_⟩
      · rw [ticks]
        exact counted.ticks
      · rw [gated, ticks]
        exact counted.gated

theorem Counted.of_reachable (reachable : (watchedEngine kernel).Reachable watched) :
    watched.Counted := by
  apply System.ReachableUnder.invariant reachable
  · rintro start ⟨tunables, rfl⟩
    exact ⟨Nat.zero_le _, by simp [State.start, Carrier.zero]⟩
  · intro current event next counted _ stepped
    exact counted.step stepped

end Watched

/-- In every run, each tick hands its force to exactly one carrier unless its packet is dropped or
the gate is closed, and the gate is closed only on a resting tick behind at least a grace period of
resting ticks. -/
theorem force_carried_once {kernel : Kernel} {watched : Watched} {tick : Tick} (env : SendEnv)
    (reachable : (watchedEngine kernel).Reachable watched)
    (summed : watched.state.callback = .summed tick) :
    (watched.state.step kernel (.send env)) = some (watched.state.sendTick tick env) ∧
      watched.state.CarriedOnce tick env ∧
      ((watched.state.sendTick tick env).carrier.kfGated = true →
        watched.state.restingTick tick = true ∧ kfIdleGraceTicks ≤ watched.streak) := by
  refine ⟨by simp [State.step, State.stepCallback, summed], watched.state.sendTick_carriedOnce tick
    env, ?_⟩
  intro closed
  have counted := Watched.Counted.of_reachable reachable
  rcases (watched.state.sendTick_counts tick env).2 closed with ⟨rests, before, _⟩
  have grace : kfIdleGraceTicks ≤ watched.state.carrier.kfIdleTicks :=
    before.elim counted.gated id
  exact ⟨rests, grace.trans counted.ticks⟩

/-- The tick of a spring force, which goes out in a packet of its own. -/
theorem force_carried_once_spring : ∃ (watched : Watched) (tick : Tick),
    watched.state.callback = .summed tick ∧ tick.force = 15000 ∧
      watched.state.CarriedOnce tick .clear := by
  have reached := System.ReachableUnder.of_check (watchedEngine quarterKernel) System.anyStep
    { state := State.start defaultTunables, resting := [] }
    [.initDone, .report 0 0, .autocenterStore 30000, .resume 0, .fire, .check, .sample 0,
      .readAutocenter]
    (fun watched => watched.state.callback == .summed ⟨15000, [0, 0, 0, 0], false, false, 30000⟩)
    ⟨defaultTunables, rfl⟩ (by decide) (System.runMeets_anyStep _ _)
  rcases reached with ⟨watched, reachable, checked⟩
  have summed := beq_iff_eq.mp checked
  exact ⟨watched, _, summed, rfl, (force_carried_once .clear reachable summed).2.1⟩

/-- No send happens but while another process owns the stream. -/
def Event.yields : Event → Bool
  | .send env => env.foreignStream && env.foreignForce
  | _ => true

/-- The next packet of the teardown pair is refused. -/
def Carrier.HoldsPair (carrier : Carrier) (env : SendEnv) : Prop :=
  if carrier.tfStopSent then carrier.RefusesRaw env.start else carrier.RefusesRaw env.stop

instance (carrier : Carrier) (env : SendEnv) : Decidable (carrier.HoldsPair env) := by
  simp only [Carrier.HoldsPair]
  infer_instance

namespace State

/-- The tick has no control packet to send, or the one it has is refused: a texture finds its
stream armed, and neither a wind-down nor the end of the grace period is due. -/
def HoldsControl (state : State) (tick : Tick) (env : SendEnv) : Prop :=
  if tick.anyTexture then
    state.carrier.tfStreaming = true ∧ state.carrier.tfStopSent = false ∨
      state.carrier.RefusesRaw env.start
  else if state.carrier.tfStreaming then state.carrier.HoldsPair env
  else state.idleTick tick = true → kfIdleGraceTicks ≤ state.carrier.kfIdleTicks →
    state.carrier.kfGated = false → state.carrier.HoldsPair env

def SendsNoControl (state : State) : Event → Prop
  | .send env =>
      match state.callback with
      | .summed tick => state.HoldsControl tick (state.sendEnv env)
      | _ => True
  | _ => True

instance (state : State) (tick : Tick) (env : SendEnv) :
    Decidable (state.HoldsControl tick env) := by
  simp only [HoldsControl]
  infer_instance

instance decidableSendsNoControl (state : State) : DecidablePred state.SendsNoControl
  | .send env =>
      match called : state.callback with
      | .summed tick =>
          decidable_of_iff (state.HoldsControl tick (state.sendEnv env))
            (by simp [SendsNoControl, called])
      | .idle | .entered | .leaving | .sampling | .sampled _ | .sent _ | .returning _ =>
          isTrue (by simp [SendsNoControl, called])
  | .upload .. | .erase _ | .playback .. | .setAutocenter _ | .autocenterStore _ | .tune _
  | .report .. | .tfInitDone _ | .workDone | .initDone | .stop | .resume _ | .fire | .check
  | .leave | .sample _ | .readAutocenter | .rearm | .finish => isTrue trivial

end State

namespace Carrier

variable (carrier : Carrier) (env : SendEnv) (force : ℤ)

theorem tfQueueCtrl_queued_iff (attempt : Attempt) (command : TfCommand) :
    (carrier.tfQueueCtrl attempt command).1.queued = carrier.queued ↔
      carrier.RefusesRaw attempt := by
  rcases carrier.tfQueueCtrl_cases attempt command with ⟨outcome, room⟩ | ⟨outcome, full⟩
  · rw [outcome]
    simp [room]
  · rw [outcome]
    simp [full]

/-- The pair queues nothing exactly where its next packet is refused. -/
theorem sendStopPair_queued_iff :
    (carrier.sendStopPair env).1.queued = carrier.queued ↔ carrier.HoldsPair env := by
  have shown (packets : List Packet) : (carrier.sendStopPair env).1.queued = packets ↔
      (if (carrier.sendStopHalf env).tfStopSent then
        ((carrier.sendStopHalf env).tfQueueCtrl env.start .start).1
        else carrier.sendStopHalf env).queued = packets := by
    simp only [Carrier.sendStopPair]
    split
    · split
      · rfl
      · split <;> rfl
    · split
      · rfl
      · split <;> rfl
  rw [shown]
  cases stopSent : carrier.tfStopSent with
  | true =>
      have half : carrier.sendStopHalf env = carrier := by simp [Carrier.sendStopHalf, stopSent]
      rw [half]
      simp only [stopSent, ↓reduceIte, HoldsPair]
      exact carrier.tfQueueCtrl_queued_iff env.start .start
  | false =>
      simp only [Carrier.sendStopHalf, stopSent, Bool.false_eq_true, ↓reduceIte, HoldsPair]
      rcases carrier.tfQueueCtrl_cases env.stop .stop with ⟨outcome, room⟩ | ⟨outcome, full⟩
      · rw [outcome]
        simp only [↓reduceIte, room, iff_false]
        intro same
        have grown := (Carrier.tfQueueCtrl_hands { carrier with
          pendingWork := carrier.pendingWork - env.stop.completed + 1
          queued := .control .stop carrier.tfSeq :: carrier.queued
          tfSeq := carrier.tfSeq + 1
          tfStopSent := true } env.start .start).suffix.length_le
        rw [same, List.length_cons] at grown
        omega
      · rw [outcome]
        simp [full]

theorem tfOpen_queued_iff :
    (carrier.tfOpen env).1.queued = carrier.queued ↔
      carrier.tfStreaming = true ∧ carrier.tfStopSent = false ∨ carrier.RefusesRaw env.start := by
  simp only [Carrier.tfOpen]
  split
  · rename_i armed
    simp only [Bool.and_eq_true, Bool.not_eq_true'] at armed
    simp [armed]
  · rename_i unarmed
    simp only [Bool.and_eq_true, Bool.not_eq_true'] at unarmed
    rw [← carrier.tfQueueCtrl_queued_iff env.start .start, or_iff_right unarmed]
    split <;> rename_i outcome <;> rw [outcome]

/-- A stream tick that yields queues nothing but control packets. -/
theorem tfTick_queued_iff (tunables : Tunables) (anyTexture : Bool) (samples : List ℤ)
    (foreign : env.foreignStream = true) :
    (carrier.tfTick tunables env anyTexture samples force).1.queued = carrier.queued ↔
      if anyTexture then
        carrier.tfStreaming = true ∧ carrier.tfStopSent = false ∨ carrier.RefusesRaw env.start
      else carrier.tfStreaming = true → carrier.HoldsPair env := by
  cases anyTexture with
  | true =>
      simp only [Carrier.tfTick, ↓reduceIte]
      rw [← carrier.tfOpen_queued_iff env]
      split
      · rename_i opened outcome
        rw [outcome]
        simp [Carrier.tfQueueStream, foreign, Carrier.publish]
      · rename_i next outcome
        rw [outcome]
  | false =>
      simp only [Carrier.tfTick, Bool.false_eq_true, ↓reduceIte, Carrier.tfWindDown]
      split
      · rename_i streaming
        have kept : (carrier.sendRecentre env force).1.queued = carrier.queued ∧
            (carrier.sendRecentre env force).1.pendingWork = carrier.pendingWork ∧
            (carrier.sendRecentre env force).1.tfStopSent = carrier.tfStopSent := by
          simp only [Carrier.sendRecentre, Carrier.tfQueueStream, foreign, ↓reduceIte,
            Carrier.publish]
          split <;> exact ⟨rfl, rfl, rfl⟩
        have pair := (carrier.sendRecentre env force).1.sendStopPair_queued_iff env
        simp only [kept, HoldsPair, RefusesRaw] at pair
        simp only [streaming, true_implies, HoldsPair, RefusesRaw]
        exact pair
      · rename_i stopped
        simp [stopped]

theorem idleGate_queued_iff (idle : Bool) :
    (carrier.idleGate env idle).queued = carrier.queued ↔
      (idle = true → kfIdleGraceTicks ≤ carrier.kfIdleTicks → carrier.kfGated = false →
        carrier.HoldsPair env) := by
  simp only [Carrier.idleGate]
  split
  · rename_i isIdle
    split
    · rename_i grace
      simp [Nat.not_le.mpr grace]
    · rename_i expired
      split
      · rename_i gated
        simp [gated]
      · rename_i ungated
        rw [Bool.not_eq_true] at ungated
        simp only [isIdle, Nat.not_lt.mp expired, ungated, true_implies]
        exact carrier.sendStopPair_queued_iff env
  · rename_i busy
    simp [busy]

theorem sendForce_queued (tunables : Tunables)
    (silent : env.foreignForce = true ∨ env.force.allocated = false) :
    (carrier.sendForce tunables env force).queued = carrier.queued := by
  simp only [Carrier.sendForce]
  split
  · rfl
  · rename_i own
    have unallocated : env.force.allocated = false := silent.resolve_left own
    simp [Carrier.queue, unallocated]

end Carrier

namespace State

/-- A yielding tick queues nothing exactly where it has no control packet to send. -/
theorem sendTick_queued_iff (state : State) (tick : Tick) {env : SendEnv}
    (yields : (Event.send env).yields = true) :
    (state.sendTick tick env).carrier.queued = state.carrier.queued ↔
      state.HoldsControl tick (state.sendEnv env) := by
  simp only [Event.yields, Bool.and_eq_true] at yields
  have foreign : (state.sendEnv env).foreignStream = true := by
    simp only [sendEnv]
    split <;> exact yields.1
  have silent : (state.sendEnv env).foreignForce = true ∨
      (state.sendEnv env).force.allocated = false := by
    simp only [sendEnv]
    split
    · exact Or.inl yields.2
    · exact Or.inr rfl
  have packets : (state.sendTick tick env).carrier.queued =
      (state.beforeForce tick (state.sendEnv env)).1.queued := by
    rw [sendTick_carrier]
    split
    · rfl
    · exact Carrier.sendForce_queued _ _ _ _ silent
  have ticked := state.carrier.tfTick_queued_iff (state.sendEnv env) tick.force state.tunables
    tick.anyTexture tick.samples foreign
  rw [packets]
  simp only [State.beforeForce, HoldsControl]
  cases texture : tick.anyTexture with
  | true =>
      have busy : state.idleTick tick = false := by simp [State.idleTick, texture]
      rw [texture] at ticked
      simp only [Bool.true_or, ↓reduceIte, busy, Carrier.idleGate, Bool.false_eq_true]
      exact ticked
  | false =>
      rw [texture] at ticked
      cases streaming : state.carrier.tfStreaming with
      | true =>
          have busy : state.idleTick tick = false := by simp [State.idleTick, streaming]
          simp only [Bool.or_true, ↓reduceIte, busy, Carrier.idleGate, Bool.false_eq_true]
          simpa [streaming] using ticked
      | false =>
          simp only [Bool.or_self, Bool.false_eq_true, ↓reduceIte]
          exact state.carrier.idleGate_queued_iff (state.sendEnv env) (state.idleTick tick)

end State

theorem step_queued_iff {kernel : Kernel} {state next : State} {event : Event}
    (yields : event.yields = true) (stepped : state.step kernel event = some next) :
    state.carrier.queued <:+ next.carrier.queued ∧
      (next.carrier.queued = state.carrier.queued ↔ state.SendsNoControl event) := by
  cases step_tickStep stepped with
  | tick tick env sends summed eq =>
      subst sends eq
      rcases state.sendTick_hands tick env with ⟨_, hands, _⟩
      simp only [State.SendsNoControl, summed]
      exact ⟨hands.suffix, state.sendTick_queued_iff tick yields⟩
  | other notSend packets _ _ =>
      have none : state.SendsNoControl event := by
        cases event with
        | send env => exact absurd rfl (notSend env)
        | _ => trivial
      rw [packets]
      simp [none]

/-- While another process owns the stream throughout, the run queues no packet exactly where none
of its ticks has a control packet to send that is not refused. -/
theorem yielding_queues_nothing_iff {kernel : Kernel} {state last : State} {events : List Event}
    (yields : ∀ event ∈ events, event.yields = true)
    (executed : (engine kernel).run state events = some last) :
    last.carrier.queued = state.carrier.queued ↔
      (engine kernel).RunMeets State.SendsNoControl state events := by
  suffices grown : state.carrier.queued <:+ last.carrier.queued ∧
      (last.carrier.queued = state.carrier.queued ↔
        (engine kernel).RunMeets State.SendsNoControl state events) from grown.2
  induction events generalizing state with
  | nil =>
      cases executed
      exact ⟨List.suffix_refl _, by simp [System.RunMeets]⟩
  | cons event events ih =>
      simp only [System.run, Option.bind_eq_some_iff] at executed
      rcases executed with ⟨next, stepped, rest⟩
      have here := step_queued_iff (yields event (by simp)) stepped
      have later := ih (fun other member => yields other (by simp [member])) rest
      refine ⟨here.1.trans later.1, ?_⟩
      simp only [System.RunMeets, stepped]
      rw [← here.2, ← later.2]
      constructor
      · intro same
        have length := here.1.length_le
        have longer := later.1.length_le
        have nextSame := here.1.eq_of_length (by rw [same] at longer; omega)
        exact ⟨nextSame.symm, by rw [same, nextSame]⟩
      · rintro ⟨first, others⟩
        rw [others, first]

def SendEnv.foreign : SendEnv := { SendEnv.clear with foreignStream := true, foreignForce := true }

/-- A rumble on the texture channel: its first playback asks for the channel, its second finds it,
and the tick stands before its send. -/
def rumbleEvents : List Event :=
  [Event.initDone, .upload 0 ⟨.rumble 0x8000 0, 0, 0, 0⟩ false, .playback 0 1 0, .resume 0] ++
    tickEvents ++ [Event.rearm, .finish, .tfInitDone .ready, .playback 0 1 0, .resume 0, .fire,
      .check, .sample 0, .readAutocenter]

def foreignTick : List Event :=
  [.rearm, .finish, .fire, .check, .sample 0, .readAutocenter, .send .foreign]

/-- A tick on an open stream that another process takes over. -/
theorem yielding_queues_nothing_takeover : ∃ state last : State,
    (engine quarterKernel).run state foreignTick = some last ∧
      state.carrier.tfStreaming = true ∧ last.carrier.queued = state.carrier.queued := by
  have reached : ((engine quarterKernel).run (State.start defaultTunables)
      (rumbleEvents ++ [Event.send .clear])).any (fun state =>
        state.carrier.tfStreaming && ((engine quarterKernel).run state foreignTick).isSome &&
          decide ((engine quarterKernel).RunMeets State.SendsNoControl state foreignTick)) =
      true := by decide
  rcases (Option.any_eq_true _ _).mp reached with ⟨state, _, checked⟩
  simp only [Bool.and_eq_true, Option.isSome_iff_exists, decide_eq_true_eq] at checked
  rcases checked with ⟨⟨streaming, last, executed⟩, meets⟩
  have yields : ∀ event ∈ foreignTick, event.yields = true := by
    simp [foreignTick, Event.yields, SendEnv.foreign]
  exact ⟨state, last, executed, streaming, (yielding_queues_nothing_iff yields executed).mpr meets⟩

/-- The first texture tick queues its `0x03` although another process owns the stream. -/
theorem yielding_queues_start : ∃ state last : State, (engine quarterKernel).Reachable state ∧
    (engine quarterKernel).run state [Event.send .foreign] = some last ∧
    (Event.send .foreign).yields = true ∧
    last.carrier.queued = .control .start tfSeqAfterInit :: state.carrier.queued := by
  have reached : ((engine quarterKernel).run (State.start defaultTunables) rumbleEvents).any
      (fun state => ((engine quarterKernel).run state [Event.send .foreign]).any fun last =>
        last.carrier.queued == .control .start tfSeqAfterInit :: state.carrier.queued) =
      true := by decide
  rcases (Option.any_eq_true _ _).mp reached with ⟨state, before, checked⟩
  rcases (Option.any_eq_true _ _).mp checked with ⟨last, executed, started⟩
  rw [beq_iff_eq] at started
  exact ⟨state, last, System.Reachable.of_run _ _ ⟨defaultTunables, rfl⟩ before, executed, rfl,
    started⟩

end TrueForce.Ffb
