import TrueForce.Range.EffectQueue

/-!
# What the queue keeps

The queue drops a command only for a newer one of the same effect and kind, so that the wheel
is asked for the same in the same order; the worker never touches the table once it is
freed; and it writes beside the table exactly when the wheel acknowledges that it has
destroyed an effect that no slot is known of.  The worker believes what the wheel answers:
while the wheel keeps an effect in the slot it has, no effect is in two slots.
-/

namespace TrueForce.Range.EffectQueue

open TrueForce.Transition TrueForce.Coalescing TrueForce.Range.Classic

/-- The newer command takes the place of the older one. -/
def Supersedes (newer older : FfWork) : Prop :=
  coalescible newer.command ∧ older.command = newer.command ∧ older.effectId = newer.effectId

instance : DecidableRel Supersedes := fun newer older =>
  inferInstanceAs (Decidable (coalescible newer.command ∧ older.command = newer.command ∧
    older.effectId = newer.effectId))

theorem Supersedes.trans {first second third : FfWork} (newer : Supersedes third second)
    (older : Supersedes second first) : Supersedes third first :=
  ⟨newer.1, older.2.1.trans newer.2.1, older.2.2.trans newer.2.2⟩

theorem mem_enqueue {queue : List FfWork} {work other : FfWork}
    (known : other ∈ enqueue Supersedes queue work) : other = work ∨ other ∈ queue := by
  rw [enqueue] at known
  split at known
  · split at known
    · rcases List.mem_append.mp known with before | last
      · exact .inr ((List.dropLast_sublist queue).mem before)
      · exact .inl (List.mem_singleton.mp last)
    · rcases List.mem_append.mp known with before | last
      · exact .inr before
      · exact .inl (List.mem_singleton.mp last)
  · exact .inl (List.mem_singleton.mp known)

variable {data : FfData} {state next : State} {work : FfWork} {event : Event}

namespace FfData

/-- A command is refused, or the queue takes it; one that is unbound takes it only in the place of
the last one. -/
theorem queueWork_cases (data : FfData) (allocated : Bool) (work : FfWork) :
    (∃ ret, ret ≠ 0 ∧ data.queueWork allocated work = (data, ret)) ∨
      (∃ len, data.queueWork allocated work =
          ({ data with pending := enqueue Supersedes data.pending work, queueLen := len }, 0) ∧
        len = data.queueLen + (enqueue Supersedes data.pending work).length - data.pending.length ∧
        (data.wq = true ∨ data.pending ≠ [] ∧
          (enqueue Supersedes data.pending work).length = data.pending.length)) := by
  have refused : ¬ (-enodev = 0) ∧ ¬ (-enomem = 0) := by decide
  cases allocated with
  | false => exact .inl ⟨-enomem, refused.2, rfl⟩
  | true =>
      simp only [queueWork, enqueue, if_true]
      cases found : data.pending.getLast? with
      | none =>
          have empty := List.getLast?_eq_none_iff.mp found
          cases bound : data.wq with
          | false => exact .inl ⟨-enodev, refused.1, rfl⟩
          | true =>
              refine .inr ⟨data.queueLen + 1, ?_, ?_, .inl rfl⟩
              · simp [empty]
              · simp [empty]
      | some tail =>
          have some : data.pending ≠ [] := by
            intro empty
            rw [empty] at found
            cases found
          have whole := List.length_pos_of_ne_nil some
          by_cases newer : Supersedes work tail
          · have plain : coalescible work.command ∧ tail.command = work.command ∧
                tail.effectId = work.effectId := newer
            simp only [if_pos newer, if_pos plain]
            have same : (data.pending.dropLast ++ [work]).length = data.pending.length := by
              rw [List.length_append, List.length_dropLast, List.length_singleton]
              omega
            refine .inr ⟨data.queueLen, rfl, ?_, .inr ⟨some, same⟩⟩
            omega
          · have plain : ¬ (coalescible work.command ∧ tail.command = work.command ∧
                tail.effectId = work.effectId) := newer
            simp only [if_neg newer, if_neg plain]
            cases bound : data.wq with
            | false => exact .inl ⟨-enodev, refused.1, rfl⟩
            | true =>
                refine .inr ⟨data.queueLen + 1, rfl, ?_, .inl rfl⟩
                rw [List.length_append, List.length_singleton]
                omega

/-- Unbound, a queue refuses a command, or lets it take the place of the last one of its effect and
kind. -/
def TurnsAway (data : FfData) (allocated : Bool) (work : FfWork) : Prop :=
  (∃ ret, ret ≠ 0 ∧ data.queueWork allocated work = (data, ret)) ∨
    ∃ kept last, data.pending = kept ++ [last] ∧ Supersedes work last ∧
      data.queueWork allocated work = ({ data with pending := kept ++ [work] }, 0)

theorem turnsAway_of_unbound (unbound : data.wq = false) (allocated : Bool) (work : FfWork) :
    data.TurnsAway allocated work := by
  rcases data.queueWork_cases allocated work with refused | ⟨len, taken, counted, room⟩
  · exact .inl refused
  · have full : (enqueue Supersedes data.pending work).length = data.pending.length := by
      rcases room with bound | ⟨-, full⟩
      · rw [unbound] at bound
        cases bound
      · exact full
    rcases enqueue_of_length full with ⟨kept, last, waiting, newer, replaced⟩
    have same : len = data.queueLen := by omega
    rw [replaced, same] at taken
    exact .inr ⟨kept, last, waiting, newer, taken⟩

end FfData

namespace State

/-- What holds between the steps. -/
structure Sound (state : State) : Prop where
  thins : Thins Supersedes state.queued (state.taken ++ state.data.pending)
  counts : state.data.queueLen = state.data.pending.length
  slots : state.data.effectIds.length ≤ 255
  sized : ∀ work ∈ state.data.pending, work.params ≠ []
  /-- The command in flight has the slot that the table has for it. -/
  addressed : ∀ work, state.inFlight = some work →
    ∃ taken, taken.params ≠ [] ∧ work = state.data.address taken
  dead : state.freed = true →
    state.data.wq = false ∧ state.data.pending = [] ∧ state.inFlight = none

theorem sound_start (numEffects : UInt8) (gain : UInt16) (range : Int16) :
    Sound (start numEffects gain range) where
  thins := .nil
  counts := rfl
  slots := by
    have bound := numEffects.toNat_lt
    simp only [start, FfData.init, List.length_replicate]
    omega
  sized _ known := absurd known List.not_mem_nil
  addressed _ found := nomatch found
  dead freed := nomatch freed

theorem sound_queue (sound : Sound state) {allocated : Bool} (some : work.params ≠ []) :
    Sound (state.queue work allocated) := by
  rcases state.data.queueWork_cases allocated work with
    ⟨ret, refused, same⟩ | ⟨len, same, counted, room⟩
  · simp only [queue, same, refused, if_false]
    exact sound
  · simp only [queue, same, if_true]
    refine ⟨sound.thins.enqueue work, ?_, sound.slots, ?_, sound.addressed, ?_⟩
    · have before := sound.counts
      simp only
      omega
    · intro other known
      rcases mem_enqueue known with rfl | before
      · exact some
      · exact sound.sized other before
    · intro freed
      rcases sound.dead freed with ⟨unbound, empty, -⟩
      rcases room with bound | ⟨waiting, -⟩
      · rw [unbound] at bound
        cases bound
      · exact absurd empty waiting

theorem sound_take {pending : List FfWork} (sound : Sound state)
    (waiting : state.data.pending = work :: pending) :
    Sound { state with
      inFlight := some (state.data.address work)
      taken := state.taken ++ [work]
      data := { state.data with pending, queueLen := state.data.queueLen - 1 } } := by
  have alive : ¬ state.freed = true := by
    intro freed
    have empty := (sound.dead freed).2.1
    rw [waiting] at empty
    cases empty
  have thins := sound.thins
  have counts := sound.counts
  have sized := sound.sized
  rw [waiting] at thins counts sized
  refine ⟨?_, ?_, sound.slots, ?_, ?_, fun freed => absurd freed alive⟩
  · rwa [List.append_assoc]
  · simp only [List.length_cons] at counts
    simp only
    omega
  · exact fun other known => sized other (List.mem_cons_of_mem work known)
  · intro other found
    exact ⟨work, sized work List.mem_cons_self, (Option.some.inj found).symm⟩

theorem length_setSlot (data : FfData) (slot : UInt8) (effectId : ℤ) :
    (data.setSlot slot effectId).effectIds.length = data.effectIds.length := List.length_set

/-- What an answer does to the table. -/
inductive Entered (data : FfData) (work : FfWork) (params : Option (List UInt8))
    (after : FfData) : Prop where
  | kept (same : after.effectIds = data.effectIds)
  | uploaded (answer : List UInt8) (answered : params = some answer)
      (command : work.command = downloadEffect) (regular : 0 ≤ work.effectId)
      (within : 0 < answer.getD 0 0 ∧ (answer.getD 0 0).toNat ≤ data.effectIds.length)
      (set : after = data.setSlot (answer.getD 0 0) work.effectId)
  | destroyed (answer : List UInt8) (answered : params = some answer)
      (command : work.command = destroyEffect) (regular : 0 ≤ work.effectId)
      (within : 0 < work.params.getD 0 0 ∧
        (work.params.getD 0 0).toNat ≤ data.effectIds.length)
      (set : after = data.setSlot (work.params.getD 0 0) (-1))

/-- An answer does not touch the queue. -/
theorem applyAnswer_cases {after : FfData} {params : Option (List UInt8)}
    (applied : data.applyAnswer work params = some after) :
    (after.pending = data.pending ∧ after.queueLen = data.queueLen ∧ after.wq = data.wq) ∧
      Entered data work params after := by
  cases params with
  | none =>
      obtain rfl := Option.some.inj applied
      exact ⟨⟨rfl, rfl, rfl⟩, .kept rfl⟩
  | some params =>
      simp only [FfData.applyAnswer] at applied
      split at applied
      · rename_i download
        split at applied
        · rename_i within
          split at applied
          · rename_i regular
            obtain rfl := Option.some.inj applied
            exact ⟨⟨rfl, rfl, rfl⟩, .uploaded params rfl download regular within rfl⟩
          · split at applied <;> obtain rfl := Option.some.inj applied <;>
              exact ⟨⟨rfl, rfl, rfl⟩, .kept rfl⟩
        · obtain rfl := Option.some.inj applied
          exact ⟨⟨rfl, rfl, rfl⟩, .kept rfl⟩
      · split at applied
        · rename_i destroy
          split at applied
          · rename_i regular
            split at applied
            · rename_i within
              obtain rfl := Option.some.inj applied
              exact ⟨⟨rfl, rfl, rfl⟩, .destroyed params rfl destroy regular within rfl⟩
            · cases applied
          · split at applied <;> obtain rfl := Option.some.inj applied <;>
              exact ⟨⟨rfl, rfl, rfl⟩, .kept rfl⟩
        · split at applied
          · obtain rfl := Option.some.inj applied
            exact ⟨⟨rfl, rfl, rfl⟩, .kept rfl⟩
          · split at applied <;> obtain rfl := Option.some.inj applied <;>
              exact ⟨⟨rfl, rfl, rfl⟩, .kept rfl⟩

theorem Entered.length {params : Option (List UInt8)} {after : FfData}
    (entered : Entered data work params after) :
    after.effectIds.length = data.effectIds.length := by
  cases entered with
  | kept same => rw [same]
  | uploaded _ _ _ _ _ set =>
      rw [set]
      exact length_setSlot _ _ _
  | destroyed _ _ _ _ _ set =>
      rw [set]
      exact length_setSlot _ _ _

theorem sound_answer (sound : Sound state) (flying : state.inFlight = some work)
    (params : Option (List UInt8)) : Sound (state.answer work params) := by
  have alive : ¬ state.freed = true := by
    intro freed
    have idle := (sound.dead freed).2.2
    rw [flying] at idle
    cases idle
  rw [answer]
  cases applied : state.data.applyAnswer work params with
  | none => exact ⟨sound.thins, sound.counts, sound.slots, sound.sized, fun _ found => (nomatch found),
      fun freed => absurd freed alive⟩
  | some after =>
      rcases applyAnswer_cases applied with ⟨⟨pending, queueLen, wq⟩, entered⟩
      have length := entered.length
      refine ⟨?_, ?_, ?_, ?_, fun _ found => (nomatch found), fun freed => absurd freed alive⟩
      · simp only [pending]
        exact sound.thins
      · simp only [pending, queueLen]
        exact sound.counts
      · simp only [length]
        exact sound.slots
      · simp only [pending]
        exact sound.sized

theorem sound_step (sound : Sound state) (stepped : state.step event = some next) :
    Sound next := by
  rw [step.eq_def] at stepped
  split at stepped
  · cases stepped
  · cases event with
    | queue work allocated =>
        simp only [Option.ite_none_left_eq_some, Option.some.injEq] at stepped
        rcases stepped with ⟨some, rfl⟩
        exact sound_queue sound some
    | take =>
        simp only at stepped
        split at stepped
        · rename_i idle waiting
          obtain rfl := Option.some.inj stepped
          exact sound_take sound waiting
        · cases stepped
    | answer params =>
        rcases Option.map_eq_some_iff.mp stepped with ⟨work, flying, rfl⟩
        exact sound_answer sound flying params
    | unbind =>
        simp only [Option.ite_none_right_eq_some, Option.some.injEq] at stepped
        rcases stepped with ⟨bound, rfl⟩
        refine ⟨sound.thins, sound.counts, sound.slots, sound.sized, sound.addressed, ?_⟩
        intro freed
        have unbound := (sound.dead freed).1
        rw [bound] at unbound
        cases unbound
    | free =>
        simp only [Option.ite_none_right_eq_some, Option.some.injEq] at stepped
        rcases stepped with ⟨⟨unbound, empty, idle, -⟩, rfl⟩
        refine ⟨sound.thins, sound.counts, Nat.zero_le 255, sound.sized, ?_, ?_⟩
        · intro work flying
          rw [idle] at flying
          cases flying
        · exact fun _ => ⟨unbound, empty, idle⟩

theorem sound_of_reachable (reachable : effectQueue.Reachable state) : Sound state := by
  apply reachable.invariant
  · rintro start ⟨numEffects, gain, range, rfl⟩
    exact sound_start numEffects gain range
  · intro current event next sound _ stepped
    exact sound_step sound stepped

end State

/-- Nothing but a command that is followed at once by a newer one of its effect and kind is
dropped, and what is left keeps its order: every command that is not of such a kind gets through,
and so does the last one of each effect and kind.  A wheel that only minds the newer of the two
is left as if it was sent all. -/
theorem queue_law (reachable : effectQueue.Reachable state) :
    (state.taken ++ state.data.pending).Sublist state.queued ∧
      state.data.queueLen = state.data.pending.length ∧
      (state.queued.filter fun work => !coalescible work.command) =
        ((state.taken ++ state.data.pending).filter fun work => !coalescible work.command) ∧
      (∀ command effectId,
        (state.queued.filter fun work =>
            decide (work.command = command ∧ work.effectId = effectId)).getLast? =
          ((state.taken ++ state.data.pending).filter fun work =>
            decide (work.command = command ∧ work.effectId = effectId)).getLast?) ∧
      ∀ (World : Type) (carryOut : World → FfWork → World),
        (∀ world newer older, Supersedes newer older →
          carryOut (carryOut world older) newer = carryOut world newer) →
        ∀ world, state.queued.foldl carryOut world =
          (state.taken ++ state.data.pending).foldl carryOut world := by
  have sound := State.sound_of_reachable reachable
  refine ⟨sound.thins.sublist, sound.counts, ?_, ?_, ?_⟩
  · apply sound.thins.filter_eq
    rintro newer older ⟨coalesces, command, -⟩
    rw [command, coalesces]
    exact ⟨rfl, rfl⟩
  · intro command effectId
    apply sound.thins.getLast?_filter_eq
    rintro newer older ⟨-, command, effectId⟩
    rw [command, effectId]
  · intro World carryOut absorbs world
    exact sound.thins.foldl_eq absorbs world

/-- What the wheel was told last of each kind for each effect. -/
def lastTold (world : ℕ → ℤ → List UInt8) (work : FfWork) : ℕ → ℤ → List UInt8 :=
  fun command effectId =>
    if work.command = command ∧ work.effectId = effectId then work.params
    else world command effectId

/-- An effect is uploaded twice and played before the worker has sent the first upload. -/
def burst : List Event :=
  [.queue (setGain 0x8000) true, .take, .queue ⟨0, downloadEffect, [0, 1]⟩ true,
    .queue ⟨0, downloadEffect, [0, 2]⟩ true, .queue (playback 0 0 true) true]

theorem queue_law_burst : ∃ state, effectQueue.Reachable state ∧
    state.queued.length = 4 ∧ state.taken.length + state.data.pending.length = 3 ∧
      state.queued.foldl lastTold (fun _ _ => []) =
        (state.taken ++ state.data.pending).foldl lastTold fun _ _ => [] := by
  have initial : effectQueue.initial (.start 63 0xFFFF 900) := ⟨63, 0xFFFF, 900, rfl⟩
  have executed : effectQueue.run (.start 63 0xFFFF 900) burst = some _ := rfl
  have reachable := System.Reachable.of_run _ burst initial executed
  refine ⟨_, reachable, rfl, rfl, ?_⟩
  have told := (queue_law reachable).2.2.2.2 (ℕ → ℤ → List UInt8) lastTold
  apply told
  rintro world newer older ⟨-, command, effectId⟩
  funext kind id
  simp only [lastTold, command, effectId]
  split <;> rfl

theorem step_unbound (sound : state.Sound) (unbound : state.data.wq = false)
    (stepped : state.step event = some next) :
    next.data.wq = false ∧
      Renewed Supersedes (state.taken ++ state.data.pending) (next.taken ++ next.data.pending) ∧
      (state.freed = true → next = state) := by
  rw [State.step.eq_def] at stepped
  split at stepped
  · cases stepped
  · cases event with
    | queue work allocated =>
        simp only [Option.ite_none_left_eq_some, Option.some.injEq] at stepped
        rcases stepped with ⟨-, rfl⟩
        rcases FfData.turnsAway_of_unbound unbound allocated work with
          ⟨ret, refused, same⟩ | ⟨kept, last, waiting, newer, same⟩
        · have kept : state.queue work allocated = state := by
            simp only [State.queue, same, refused, if_false]
          rw [kept]
          exact ⟨unbound, .same _, fun _ => rfl⟩
        · simp only [State.queue, same, if_true, waiting, ← List.append_assoc]
          refine ⟨unbound, .last _ newer, fun freed => ?_⟩
          have empty := (sound.dead freed).2.1
          rw [waiting] at empty
          exact absurd (List.append_eq_nil_iff.mp empty).2 (List.cons_ne_nil last [])
    | take =>
        simp only at stepped
        split at stepped
        · rename_i work pending idle waiting
          obtain rfl := Option.some.inj stepped
          refine ⟨unbound, ?_, fun freed => ?_⟩
          · rw [waiting, List.append_assoc]
            exact .same _
          · have empty := (sound.dead freed).2.1
            rw [waiting] at empty
            cases empty
        · cases stepped
    | answer params =>
        rcases Option.map_eq_some_iff.mp stepped with ⟨work, flying, rfl⟩
        have alive : ¬ state.freed = true := by
          intro freed
          have idle := (sound.dead freed).2.2
          rw [flying] at idle
          cases idle
        rw [State.answer]
        cases applied : state.data.applyAnswer work params with
        | none => exact ⟨unbound, .same _, fun freed => absurd freed alive⟩
        | some after =>
            rcases State.applyAnswer_cases applied with ⟨⟨pending, -, wq⟩, -⟩
            simp only [wq, pending]
            exact ⟨unbound, .same _, fun freed => absurd freed alive⟩
    | unbind =>
        simp only [Option.ite_none_right_eq_some, Option.some.injEq] at stepped
        rcases stepped with ⟨bound, -⟩
        rw [unbound] at bound
        cases bound
    | free =>
        simp only [Option.ite_none_right_eq_some, Option.some.injEq] at stepped
        rcases stepped with ⟨⟨-, -, -, alive⟩, rfl⟩
        refine ⟨unbound, .same _, fun freed => ?_⟩
        rw [alive] at freed
        cases freed

theorem run_unbound (sound : state.Sound) (unbound : state.data.wq = false) {events : List Event}
    {last : State} (executed : effectQueue.run state events = some last) :
    last.data.wq = false ∧
      Renewed Supersedes (state.taken ++ state.data.pending) (last.taken ++ last.data.pending) ∧
      (state.freed = true → last = state) := by
  induction events generalizing state with
  | nil =>
      cases executed
      exact ⟨unbound, .same _, fun _ => rfl⟩
  | cons event events ih =>
      simp only [System.run, Option.bind_eq_some_iff] at executed
      rcases executed with ⟨next, stepped, rest⟩
      rcases step_unbound sound unbound stepped with ⟨nextUnbound, same, unchanged⟩
      rcases ih (State.sound_step sound stepped) nextUnbound rest with
        ⟨lastUnbound, renewed, frozen⟩
      refine ⟨lastUnbound, same.trans Supersedes.trans renewed, fun freed => ?_⟩
      have asleep := unchanged freed
      rw [asleep] at frozen
      exact frozen freed

/-- Once the workqueue is gone whatever is asked for is refused or takes the place of the last
waiting command, of its effect and kind; the worker has only those commands left that waited for
it, the last of them perhaps renewed; and once the table is freed nothing happens at all. -/
theorem unbind_law (reachable : effectQueue.Reachable state) (unbound : state.data.wq = false)
    {events : List Event} {last : State} (executed : effectQueue.run state events = some last) :
    (∀ allocated work, last.data.TurnsAway allocated work) ∧
      last.data.wq = false ∧
      Renewed Supersedes (state.taken ++ state.data.pending) (last.taken ++ last.data.pending) ∧
      last.taken.length + last.data.pending.length =
        state.taken.length + state.data.pending.length ∧
      (state.freed = true → last = state) := by
  rcases run_unbound (State.sound_of_reachable reachable) unbound executed with
    ⟨lastUnbound, renewed, frozen⟩
  refine ⟨FfData.turnsAway_of_unbound lastUnbound, lastUnbound, renewed, ?_, frozen⟩
  have count := renewed.length_eq
  rwa [List.length_append, List.length_append] at count

/-- The worker sends what is left; meanwhile the effect is stopped, which takes the place of playing
it, and erasing it is refused. -/
def draining : List Event :=
  [.take, .queue (playback 0 0 false) true, .queue (eraseEffect 0) true, .answer (some [1]), .take,
    .answer none, .free, .queue (setGain 0) true]

/-- The queue as an unbind finds it behind the burst. -/
def unbound : State :=
  ((effectQueue.run (.start 63 0xFFFF 900)
    (burst ++ [.answer none, .unbind])).getD (.start 63 0xFFFF 900))

theorem unbind_law_draining : ∃ last, effectQueue.run unbound draining = some last ∧
    last.freed = true ∧ last.taken.getLast? = some (playback 0 0 false) ∧
      last.taken.length + last.data.pending.length = 3 := by
  have initial : effectQueue.initial (.start 63 0xFFFF 900) := ⟨63, 0xFFFF, 900, rfl⟩
  have executed : effectQueue.run (.start 63 0xFFFF 900)
      (burst ++ [.answer none, .unbind]) = some unbound := rfl
  have reachable := System.Reachable.of_run _ _ initial executed
  have drained : effectQueue.run unbound draining = some _ := rfl
  exact ⟨_, drained, rfl, rfl, (unbind_law reachable rfl drained).2.2.2.1⟩

namespace FfData

theorem findEffect_of_not_mem {effectId : ℤ} (absent : effectId ∉ data.effectIds) :
    data.findEffect effectId = 0 := by
  have none : data.effectIds.findIdx? (fun id => decide (id = effectId)) = none := by
    rw [List.findIdx?_eq_none_iff]
    intro other known
    rw [decide_eq_false_iff_not]
    rintro rfl
    exact absent known
  rw [findEffect, none]

/-- The slot of an effect is a place of the table that has the effect. -/
theorem findEffect_of_mem {effectId : ℤ} (small : data.effectIds.length ≤ 255)
    (known : effectId ∈ data.effectIds) :
    ∃ index, data.effectIds[index]? = some effectId ∧
      (data.findEffect effectId).toNat = index + 1 ∧ index < data.effectIds.length := by
  cases found : data.effectIds.findIdx? (fun id => decide (id = effectId)) with
  | none =>
      have missing := List.findIdx?_eq_none_iff.mp found effectId known
      simp at missing
  | some index =>
      rcases List.findIdx?_eq_some_iff_getElem.mp found with ⟨within, same, -⟩
      refine ⟨index, ?_, ?_, within⟩
      · rw [List.getElem?_eq_getElem within]
        exact congrArg some (of_decide_eq_true same)
      · rw [findEffect, found]
        simp only [UInt8.toNat_ofNat']
        omega

/-- A slot is found within the table exactly for an effect that is in it. -/
theorem findEffect_within_iff (small : data.effectIds.length ≤ 255) (effectId : ℤ) :
    (0 < data.findEffect effectId ∧ (data.findEffect effectId).toNat ≤ data.effectIds.length) ↔
      effectId ∈ data.effectIds := by
  constructor
  · rintro ⟨positive, -⟩
    by_contra absent
    rw [findEffect_of_not_mem absent] at positive
    exact absurd positive (by decide)
  · intro known
    rcases findEffect_of_mem small known with ⟨index, -, slot, within⟩
    refine ⟨?_, by omega⟩
    rw [UInt8.lt_iff_toNat_lt, slot]
    exact Nat.succ_pos index

/-- A command of an effect carries the slot of that effect. -/
theorem slot_address (some : work.params ≠ []) (regular : 0 ≤ work.effectId) :
    (data.address work).params.getD 0 0 = data.findEffect work.effectId := by
  have others : work.effectId ≠ effectIdAutocenter ∧ work.effectId ≠ effectIdNone := by
    rw [effectIdAutocenter, effectIdNone]
    omega
  rw [address, if_neg others.1, if_neg others.2]
  rcases List.exists_cons_of_ne_nil some with ⟨first, rest, same⟩
  rw [same]
  rfl

theorem effectId_address (data : FfData) (work : FfWork) :
    (data.address work).effectId = work.effectId := by
  rw [address]
  split
  · rfl
  · split <;> rfl

end FfData

/-- The command in flight carries the slot that the table has for its effect. -/
theorem State.Sound.slot (sound : state.Sound) (flying : state.inFlight = some work)
    (regular : 0 ≤ work.effectId) :
    work.params.getD 0 0 = state.data.findEffect work.effectId := by
  rcases sound.addressed work flying with ⟨taken, some, rfl⟩
  rw [FfData.effectId_address] at regular ⊢
  exact FfData.slot_address some regular

/-- An effect is reported destroyed only while the table has a slot of it. -/
def DestroysKnown (state : State) : Event → Prop
  | .answer (some _) => ∀ work, state.inFlight = some work → work.command = destroyEffect →
      0 ≤ work.effectId → work.effectId ∈ state.data.effectIds
  | _ => True

/-- A write leaves the table only for an effect that has no slot in it. -/
theorem applyAnswer_eq_none_iff (sound : state.Sound) (flying : state.inFlight = some work)
    (params : List UInt8) :
    state.data.applyAnswer work (some params) = none ↔
      work.command = destroyEffect ∧ 0 ≤ work.effectId ∧
        work.effectId ∉ state.data.effectIds := by
  have other : destroyEffect ≠ downloadEffect := by decide
  constructor
  · intro outside
    simp only [FfData.applyAnswer] at outside
    split at outside
    · split at outside
      · split at outside
        · cases outside
        · split at outside <;> cases outside
      · cases outside
    · split at outside
      · rename_i destroy
        split at outside
        · rename_i regular
          split at outside
          · cases outside
          · rename_i beyond
            refine ⟨destroy, regular, fun known => beyond ?_⟩
            rw [sound.slot flying regular]
            exact (FfData.findEffect_within_iff sound.slots _).mpr known
        · split at outside <;> cases outside
      · split at outside
        · cases outside
        · split at outside <;> cases outside
  · rintro ⟨destroy, regular, absent⟩
    have upload : work.command ≠ downloadEffect := by
      rw [destroy]
      exact other
    simp only [FfData.applyAnswer, if_neg upload, if_pos destroy, if_pos regular]
    apply if_neg
    rw [sound.slot flying regular, FfData.findEffect_within_iff sound.slots]
    exact absent

theorem corrupted_step (sound : state.Sound) (stepped : state.step event = some next) :
    next.corrupted = false ↔ state.corrupted = false ∧ DestroysKnown state event := by
  rw [State.step.eq_def] at stepped
  split at stepped
  · cases stepped
  · rename_i clean
    have intact : state.corrupted = false := Bool.eq_false_iff.mpr clean
    rw [intact]
    cases event with
    | queue work allocated =>
        simp only [Option.ite_none_left_eq_some, Option.some.injEq] at stepped
        rcases stepped with ⟨-, rfl⟩
        exact iff_of_true intact ⟨rfl, trivial⟩
    | take =>
        simp only at stepped
        split at stepped
        · obtain rfl := Option.some.inj stepped
          exact iff_of_true intact ⟨rfl, trivial⟩
        · cases stepped
    | unbind =>
        simp only [Option.ite_none_right_eq_some, Option.some.injEq] at stepped
        rcases stepped with ⟨-, rfl⟩
        exact iff_of_true intact ⟨rfl, trivial⟩
    | free =>
        simp only [Option.ite_none_right_eq_some, Option.some.injEq] at stepped
        rcases stepped with ⟨-, rfl⟩
        exact iff_of_true intact ⟨rfl, trivial⟩
    | answer params =>
        rcases Option.map_eq_some_iff.mp stepped with ⟨work, flying, rfl⟩
        cases params with
        | none => exact iff_of_true intact ⟨rfl, trivial⟩
        | some params =>
            have outside := applyAnswer_eq_none_iff sound flying params
            rw [State.answer]
            cases applied : state.data.applyAnswer work (some params) with
            | none =>
                rcases outside.mp applied with ⟨destroy, regular, absent⟩
                refine iff_of_false (fun clean => by cases clean) ?_
                rintro ⟨-, known⟩
                exact absent (known work flying destroy regular)
            | some after =>
                refine iff_of_true intact ⟨rfl, ?_⟩
                intro other found destroy regular
                obtain rfl := Option.some.inj (flying.symm.trans found)
                by_contra absent
                rw [outside.mpr ⟨destroy, regular, absent⟩] at applied
                cases applied

/-- A run writes beside the table exactly when the wheel acknowledges at some point of it that it
has destroyed an effect for which the table has no slot. -/
theorem memory_law {numEffects : UInt8} {gain : UInt16} {range : Int16} {events : List Event}
    {last : State}
    (executed : effectQueue.run (.start numEffects gain range) events = some last) :
    last.corrupted = false ↔
      effectQueue.RunMeets DestroysKnown (.start numEffects gain range) events := by
  have kept (state : State) (event : Event) (next : State) (sound : state.Sound)
      (stepped : effectQueue.step state event = some next) : next.Sound :=
    State.sound_step sound stepped
  have one (state : State) (event : Event) (next : State) (sound : state.Sound)
      (stepped : effectQueue.step state event = some next) :
      next.corrupted = false ↔ state.corrupted = false ∧ DestroysKnown state event :=
    corrupted_step sound stepped
  rw [System.holds_run_iff kept one (State.sound_start numEffects gain range) executed]
  exact and_iff_right rfl

/-- The effect is erased although its upload has failed. -/
def erasure : List Event :=
  [.queue ⟨3, downloadEffect, [0, 1]⟩ true, .take, .answer none, .queue (eraseEffect 3) true, .take,
    .answer (some [0])]

theorem memory_law_erasure :
    ¬ effectQueue.RunMeets DestroysKnown (.start 63 0xFFFF 900) erasure := by
  have executed : effectQueue.run (.start 63 0xFFFF 900) erasure = some _ := rfl
  intro meets
  have clean := (memory_law executed).mpr meets
  cases clean

/-- An effect that has a slot is uploaded into it. -/
def KeepsSlot (state : State) : Event → Prop
  | .answer (some answer) => ∀ work, state.inFlight = some work → work.command = downloadEffect →
      0 ≤ work.effectId → 0 < work.params.getD 0 0 →
        answer.getD 0 0 = work.params.getD 0 0
  | _ => True

/-- No effect is in two slots. -/
def OneSlotEach (ids : List ℤ) : Prop :=
  ∀ (first second : ℕ) (id : ℤ), 0 ≤ id → ids[first]? = some id → ids[second]? = some id →
    first = second

theorem oneSlotEach_replicate (count : ℕ) : OneSlotEach (List.replicate count (-1)) := by
  intro first second id regular found
  have known := List.mem_of_getElem? found
  have same := List.eq_of_mem_replicate known
  omega

theorem OneSlotEach.set {ids : List ℤ} (each : OneSlotEach ids) {place : ℕ} {id : ℤ}
    (alone : ∀ other, 0 ≤ id → ids[other]? = some id → other = place) :
    OneSlotEach (ids.set place id) := by
  intro first second other regular atFirst atSecond
  rw [List.getElem?_set] at atFirst atSecond
  split at atFirst
  · rename_i here
    split at atFirst
    · obtain rfl := Option.some.inj atFirst
      split at atSecond
      · rename_i there
        exact here.symm.trans there
      · rw [← here]
        exact (alone second regular atSecond).symm
    · cases atFirst
  · split at atSecond
    · rename_i there
      split at atSecond
      · obtain rfl := Option.some.inj atSecond
        rw [← there]
        exact alone first regular atFirst
      · cases atSecond
    · exact each first second other regular atFirst atSecond

theorem oneSlotEach_answer (sound : state.Sound) (each : OneSlotEach state.data.effectIds)
    (flying : state.inFlight = some work) {params : Option (List UInt8)}
    (keeps : KeepsSlot state (.answer params)) :
    OneSlotEach (state.answer work params).data.effectIds := by
  rw [State.answer]
  cases applied : state.data.applyAnswer work params with
  | none => exact each
  | some after =>
      rcases State.applyAnswer_cases applied with ⟨-, entered⟩
      cases entered with
      | kept same =>
          simp only [same]
          exact each
      | uploaded answer answered command regular within set =>
          rw [answered] at keeps
          rw [set]
          apply each.set
          intro other _ found
          have known := List.mem_of_getElem? found
          rcases FfData.findEffect_of_mem sound.slots known with ⟨index, here, slot, -⟩
          have carried := sound.slot flying regular
          have positive : 0 < work.params.getD 0 0 := by
            rw [carried, UInt8.lt_iff_toNat_lt, slot]
            exact Nat.succ_pos index
          have echoed := keeps work flying command regular positive
          have same := each other index work.effectId regular found here
          rw [echoed, carried, slot]
          omega
      | destroyed answer answered command regular within set =>
          rw [set]
          apply each.set
          intro _ negative
          omega

theorem effectIds_queue (state : State) (work : FfWork) (allocated : Bool) :
    (state.queue work allocated).data.effectIds = state.data.effectIds := by
  rcases state.data.queueWork_cases allocated work with ⟨ret, -, same⟩ | ⟨len, same, -⟩ <;>
    simp only [State.queue, same]

theorem oneSlotEach_step (sound : state.Sound) (each : OneSlotEach state.data.effectIds)
    (keeps : KeepsSlot state event) (stepped : state.step event = some next) :
    OneSlotEach next.data.effectIds := by
  rw [State.step.eq_def] at stepped
  split at stepped
  · cases stepped
  · cases event with
    | queue work allocated =>
        simp only [Option.ite_none_left_eq_some, Option.some.injEq] at stepped
        rcases stepped with ⟨-, rfl⟩
        rw [effectIds_queue]
        exact each
    | take =>
        simp only at stepped
        split at stepped
        · obtain rfl := Option.some.inj stepped
          exact each
        · cases stepped
    | answer params =>
        rcases Option.map_eq_some_iff.mp stepped with ⟨work, flying, rfl⟩
        exact oneSlotEach_answer sound each flying keeps
    | unbind =>
        simp only [Option.ite_none_right_eq_some, Option.some.injEq] at stepped
        rcases stepped with ⟨-, rfl⟩
        exact each
    | free =>
        simp only [Option.ite_none_right_eq_some, Option.some.injEq] at stepped
        rcases stepped with ⟨-, rfl⟩
        exact oneSlotEach_replicate 0

/-- While the wheel uploads an effect into the slot that it has, the table has one slot at most
for each effect, and a command for an effect with a slot carries that slot. -/
theorem slots_law (reachable : effectQueue.ReachableUnder KeepsSlot state) :
    OneSlotEach state.data.effectIds ∧
      ∀ work index, state.inFlight = some work → 0 ≤ work.effectId →
        state.data.effectIds[index]? = some work.effectId →
          (work.params.getD 0 0).toNat = index + 1 := by
  have holds : state.Sound ∧ OneSlotEach state.data.effectIds := by
    apply reachable.invariant
    · rintro start ⟨numEffects, gain, range, rfl⟩
      exact ⟨State.sound_start numEffects gain range, oneSlotEach_replicate _⟩
    · rintro current event next ⟨sound, each⟩ keeps stepped
      exact ⟨State.sound_step sound stepped, oneSlotEach_step sound each keeps stepped⟩
  rcases holds with ⟨sound, each⟩
  refine ⟨each, fun work index flying regular found => ?_⟩
  have known := List.mem_of_getElem? found
  rcases FfData.findEffect_of_mem sound.slots known with ⟨place, here, slot, -⟩
  rw [sound.slot flying regular, slot, each index place work.effectId regular found here]

/-- The wheel has given the effect its first slot. -/
def uploaded : List Event :=
  [.queue ⟨3, downloadEffect, [0, 1]⟩ true, .take, .answer (some [1]),
    .queue (playback 0 3 true) true, .take]

theorem slots_law_uploaded : ∃ state, effectQueue.ReachableUnder KeepsSlot state ∧
    ∃ work, state.inFlight = some work ∧ (work.params.getD 0 0).toNat = 1 := by
  have executed : effectQueue.run (.start 63 0xFFFF 900) uploaded = some _ := rfl
  have meets : effectQueue.RunMeets KeepsSlot (.start 63 0xFFFF 900) uploaded := by
    refine ⟨trivial, trivial, ?_, trivial, trivial, trivial⟩
    intro work flying _ _ positive
    cases flying
    exact absurd positive (by decide)
  have initial : effectQueue.initial (.start 63 0xFFFF 900) := ⟨63, 0xFFFF, 900, rfl⟩
  have reachable := System.ReachableUnder.run (.of_initial initial) executed meets
  have regular : (0 : ℤ) ≤ 3 := by decide
  exact ⟨_, reachable, _, rfl, (slots_law reachable).2 _ 0 rfl regular rfl⟩

end TrueForce.Range.EffectQueue
