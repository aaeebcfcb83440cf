import TrueForce.Classic.Timer
import TrueForce.Classic.Ownership

/-!
# What an idle timer leaves behind

When the timer has run out, every effect is to be stopped and the wheel at rest.  The
last tick has to see that nothing is left: a stop that falls between its sampling and
its decision, and a start that falls after the decision, go unseen.
-/

namespace TrueForce.Classic

open TrueForce.CInt TrueForce.Ffb Transition

variable {entry : Entry} {id : Fin 16} {state : EffectState} {i : Fin 4} {forces : Forces}
  {fixpSin32 : ℤ → ℤ} {instant : Instant} {sampling : Sampling} {parameters : Parameters}

def operations : List ℕ := [opStart, opStop, opRefresh]

/-- The last command sent for a slot says what the slot does, a start for a refresh at most. -/
structure UpToDate (i : Fin 4) (slot : Slot) (sent : Command) : Prop where
  settled : slot.isUpdated = false
  operation : slot.cmdOp ∈ operations
  sent : ∃ op ∈ operations, ∃ payload, sent = head i op :: payload ∧
    slot.currentCmd = head i slot.cmdOp :: payload ∧ (op = opStop ↔ slot.cmdOp = opStop)

theorem nextOp_mem (effectType : Option SlotType) (clip : UInt32) (op : ℕ) :
    nextOp effectType clip op ∈ operations := by
  simp only [nextOp, operations]
  repeat' split
  all_goals simp only [List.mem_cons, true_or, or_true]

/-- The first byte of a command, as it is compared. -/
theorem normalised_head :
    ∀ i : Fin 4, ∀ op ∈ operations, ∀ next ∈ operations, ∀ first,
      first = (if head i op &&& 0xf = opStart.toUInt8 then
        (head i op &&& 0xf0) + opRefresh.toUInt8 else head i op) → first = head i next →
          (op = opStop ↔ next = opStop) := by
  simp only [forall_eq]
  decide

theorem updateSlot_unchanged {slot : Slot} (settled : slot.isUpdated = false)
    (unchanged : (updateSlot i slot parameters).isUpdated = false) :
    normalised slot.currentCmd = (updateSlot i slot parameters).currentCmd := by
  simp only [updateSlot, settled, Bool.false_or, ne_eq, decide_eq_false_iff_not,
    Decidable.not_not] at unchanged ⊢
  exact unchanged

theorem currentCmd_updateSlot (i : Fin 4) (slot : Slot) (parameters : Parameters) :
    ∃ payload, (updateSlot i slot parameters).currentCmd =
      head i (updateSlot i slot parameters).cmdOp :: payload :=
  ⟨_, rfl⟩

theorem upToDate_pushSlot (before : UpToDate i (entry.slots i) (entry.sent i)) :
    UpToDate i ((entry.pushSlot forces i).slots i) ((entry.pushSlot forces i).sent i) := by
  rcases before with ⟨settled, operation, op, member, payload, sent, current, stops⟩
  have next := nextOp_mem (entry.slots i).effectType (forces i).clip (entry.slots i).cmdOp
  rw [pushSlot_slots, Function.update_self]
  refine ⟨rfl, next, ?_⟩
  simp only [Entry.pushSlot]
  split
  · rename_i updated
    simp only [Function.update_self]
    exact ⟨_, next, _, rfl, rfl, Iff.rfl⟩
  · rename_i unchanged
    rw [Bool.not_eq_true] at unchanged
    have same := updateSlot_unchanged settled unchanged
    rcases currentCmd_updateSlot i (entry.slots i) (forces i) with ⟨payload', fresh⟩
    rw [current, fresh, normalised, List.cons.injEq] at same
    rcases same with ⟨first, rfl⟩
    have keeps := normalised_head i _ operation _ next _ rfl first
    exact ⟨op, member, payload, sent, fresh, stops.trans keeps⟩

theorem sent_pushSlot_of_ne {other : Fin 4} (different : other ≠ i) :
    (entry.pushSlot forces i).sent other = entry.sent other := by
  simp only [Entry.pushSlot]
  split
  · exact Function.update_of_ne different _ _
  · rfl

/-- A slot is at rest on the wheel: no force in slot 0, and a stop for the others. -/
def AtRest (i : Fin 4) (sent : Command) : Prop :=
  if i = 0 then sent[2]? = some 0x80 else sent.head? = some (head i opStop)

/-- No force for a slot. -/
def Silent (i : Fin 4) (parameters : Parameters) : Prop :=
  if i = 0 then parameters.level = 0 else parameters.clip = 0

/-- Slot 0 is for constant forces, and only slot 0. -/
def Typed (entry : Entry) : Prop := ∀ i, entry.effectTypes i = some .constant ↔ i = 0

theorem currentCmd_constant {slot : Slot} (type : slot.effectType = some .constant) :
    (updateSlot 0 slot parameters).currentCmd[2]? = some (.ofInt (translateForce parameters.level))
    := by
  have plays : nextOp slot.effectType parameters.clip slot.cmdOp ≠ opStop := by
    simp only [nextOp, type, if_true]
    split
    · decide
    · decide
  rw [type] at plays
  simp only [updateSlot, type, if_neg plays]
  rfl

theorem atRest_pushSlot (before : UpToDate i (entry.slots i) (entry.sent i))
    (typed : Typed entry) (silent : Silent i (forces i)) :
    AtRest i ((entry.pushSlot forces i).sent i) := by
  have after := @upToDate_pushSlot entry i forces before
  rcases after with ⟨_, _, op, _, payload, sent, current, stops⟩
  rw [pushSlot_slots, Function.update_self] at current stops
  by_cases zero : i = 0
  · subst zero
    have type : (entry.slots 0).effectType = some .constant := (typed 0).mpr rfl
    simp only [Silent, if_true] at silent
    have force := @currentCmd_constant (forces 0) _ type
    rw [current, silent] at force
    simp only [AtRest, if_true, sent]
    exact force
  · have type : (entry.slots i).effectType ≠ some .constant := fun constant =>
      zero ((typed i).mp constant)
    simp only [Silent, zero, if_false] at silent
    have stop : (updateSlot i (entry.slots i) (forces i)).cmdOp = opStop := by
      simp only [updateSlot, nextOp, type, if_false, silent, true_or, if_true]
    simp only [AtRest, zero, if_false, sent, List.head?_cons, stops.mpr stop]

def Counted (entry : Entry) : Prop :=
  entry.effectsUsed = tally (fun state => state.flags.started) entry.states

theorem Counted.keep (counted : Counted entry) {after : ℤ}
    (count : after + (if (entry.states id).flags.started then 1 else 0) =
      entry.effectsUsed + if state.flags.started then 1 else 0) :
    after = tally (fun state => state.flags.started) (Function.update entry.states id state) := by
  have tallied := tally_update (fun state => state.flags.started) entry.states id state
  have before : entry.effectsUsed = _ := counted
  grind

theorem counted_uploadEffect {next : Entry} {effect : FfEffect} {now : UInt64}
    (counted : Counted entry) (uploaded : entry.uploadEffect id effect now = some next) :
    Counted next := by
  simp only [Entry.uploadEffect] at uploaded
  split at uploaded
  · cases uploaded
  · split at uploaded
    · cases uploaded
    · split at uploaded
      · cases uploaded
        exact counted.keep rfl
      · cases uploaded
        exact counted.keep rfl

theorem counted_playEffect {value : ℤ} {now : UInt64} (counted : Counted entry) :
    Counted (entry.playEffect id value now) := by
  simp only [Entry.playEffect]
  split
  · split
    · rename_i on
      rw [states_setState_self, setState_setState]
      apply counted.keep
      simp only [on, if_true]
      rfl
    · rename_i off
      rw [Bool.not_eq_true] at off
      rcases takeSlot_cases { entry with effectsUsed := entry.effectsUsed + 1 } id with
        same | ⟨i, effectType, _, _, _, same⟩
      · rw [same]
        apply counted.keep
        simp only [off, Bool.false_eq_true, if_false, EffectState.start, if_true, Entry.setState]
        omega
      · rw [same, setEffectType_setState, states_setState_self, setState_setState]
        apply counted.keep
        simp only [off, Bool.false_eq_true, if_false, EffectState.start, if_true, Entry.setState,
          Entry.setEffectType, Entry.setSlot]
        omega
  · split
    · rename_i on
      split
      · apply counted.keep
        simp only [on, if_true, EffectState.stopEffect, Bool.false_eq_true, if_false,
          Entry.setState]
        omega
      · apply counted.keep
        simp only [on, if_true, EffectState.stopEffect, Bool.false_eq_true, if_false,
          Entry.setState, Entry.setEffectType, Entry.setSlot]
        omega
    · exact counted

theorem counted_sampleEffect (counted : Counted sampling.entry) :
    Counted (sampleEffect fixpSin32 instant sampling id).entry := by
  rcases sampleEffect_cases fixpSin32 instant sampling id with
    same | ⟨on, state, _, _, ⟨goesOn, _, same⟩ | ⟨ended, _, same⟩⟩
  · rw [same]
    exact counted
  · rw [same]
    apply counted.keep
    rw [on, goesOn]
    rfl
  · rw [same]
    apply counted.keep
    simp only [on, ended, if_true, Bool.false_eq_true, if_false]
    omega

theorem counted_foldl (ids : List (Fin 16)) (counted : Counted sampling.entry) :
    Counted (ids.foldl (sampleEffect fixpSin32 instant) sampling).entry := by
  induction ids generalizing sampling with
  | nil => exact counted
  | cons id ids ih => exact ih (counted_sampleEffect counted)

theorem forces_or_started (fixpSin32 : ℤ → ℤ) (instant : Instant) (sampling : Sampling)
    (id : Fin 16) :
    (sampleEffect fixpSin32 instant sampling id).forces = sampling.forces ∨
      ((sampleEffect fixpSin32 instant sampling id).entry.states id).flags.started = true := by
  simp only [sampleEffect]
  split
  · exact .inl rfl
  · split
    · exact .inl rfl
    · split
      · rename_i goesOn
        right
        rw [states_setState_self, (EffectState.updateState_keeps fixpSin32 _ instant.now).2.2]
        exact goesOn
      · exact .inl rfl

theorem states_foldl {ids : List (Fin 16)} (absent : id ∉ ids) (sampling : Sampling) :
    (ids.foldl (sampleEffect fixpSin32 instant) sampling).entry.states id =
      sampling.entry.states id := by
  induction ids generalizing sampling with
  | nil => rfl
  | cons first ids ih =>
      rw [List.mem_cons, not_or] at absent
      rw [List.foldl_cons, ih absent.2]
      exact (sampleEffect_keeps fixpSin32 instant sampling first).2.2 id absent.1

theorem forces_foldl_of_stopped {ids : List (Fin 16)} (nodup : ids.Nodup)
    (stopped : ∀ id, ((ids.foldl (sampleEffect fixpSin32 instant) sampling).entry.states
      id).flags.started = false) :
    (ids.foldl (sampleEffect fixpSin32 instant) sampling).forces = sampling.forces := by
  induction ids generalizing sampling with
  | nil => rfl
  | cons first ids ih =>
      rw [List.nodup_cons] at nodup
      rw [List.foldl_cons, ih nodup.2 stopped]
      rcases forces_or_started fixpSin32 instant sampling first with same | started
      · exact same
      · have off := stopped first
        rw [List.foldl_cons, states_foldl nodup.1, started] at off
        cases off

theorem counted_sample (counted : Counted entry) :
    Counted (sample fixpSin32 instant entry).entry :=
  counted_foldl _ counted

theorem stopped_of_counted (counted : Counted entry) (none : entry.effectsUsed = 0) :
    ∀ id, (entry.states id).flags.started = false := by
  have nobody : tally (fun state : EffectState => state.flags.started) entry.states = 0 := by
    have used : entry.effectsUsed = _ := counted
    omega
  exact tally_eq_zero.mp nobody

/-- A sampling that leaves no effect started finds no force. -/
theorem forces_sample (counted : Counted entry)
    (none : (sample fixpSin32 instant entry).entry.effectsUsed = 0) :
    (sample fixpSin32 instant entry).forces = fun _ => {} :=
  forces_foldl_of_stopped (List.nodup_finRange 16)
    (stopped_of_counted (counted_sample counted) none)

theorem effectTypes_pushSlot : (entry.pushSlot forces i).effectTypes = entry.effectTypes := by
  funext other
  simp only [Entry.effectTypes, pushSlot_slots, Function.update_apply]
  split
  · rename_i same
    rw [same]
    rfl
  · rfl

theorem Typed.setEffectType {effectType : Option SlotType} (typed : Typed entry)
    (notZero : i ≠ 0) (condition : effectType ≠ some .constant) :
    Typed (entry.setEffectType i effectType) := by
  intro other
  rw [effectTypes_setEffectType]
  by_cases same : other = i
  · simp only [same, Function.update_self, condition, notZero]
  · rw [Function.update_of_ne same]
    exact typed other

theorem typed_playEffect {value : ℤ} {now : UInt64} (typed : Typed entry) :
    Typed (entry.playEffect id value now) := by
  simp only [Entry.playEffect]
  split
  · split
    · exact typed
    · rcases takeSlot_cases { entry with effectsUsed := entry.effectsUsed + 1 } id with
        same | ⟨i, effectType, notZero, _, kind, same⟩
      · rw [same]
        exact typed
      · rw [same, setEffectType_setState, setState_setState]
        have condition := slotType_ne_constant (entry.states id).effect.kind
        change slotType (entry.states id).effect.kind = _ at kind
        rw [kind] at condition
        exact typed.setEffectType notZero condition
  · split
    · split
      · exact typed
      · rename_i holds
        exact typed.setEffectType holds (Option.some_ne_none _).symm
    · exact typed

/-- A call changes nothing of a slot but what it is for. -/
theorem slots_playEffect {value : ℤ} {now : UInt64} (i : Fin 4) :
    ∃ effectType, (entry.playEffect id value now).slots i =
      { entry.slots i with effectType } := by
  have set : ∀ (entry : Entry) (j : Fin 4) (type : Option SlotType),
      ∃ effectType, (entry.setEffectType j type).slots i = { entry.slots i with effectType } := by
    intro entry j type
    simp only [Entry.setEffectType, Entry.setSlot, Function.update_apply]
    split
    · rename_i same
      rw [same]
      exact ⟨type, rfl⟩
    · exact ⟨_, rfl⟩
  simp only [Entry.playEffect]
  split
  · split
    · exact ⟨_, rfl⟩
    · rcases takeSlot_cases { entry with effectsUsed := entry.effectsUsed + 1 } id with
        same | ⟨j, type, _, _, _, same⟩
      · rw [same]
        exact ⟨_, rfl⟩
      · rw [same]
        exact set _ j (some type)
  · split
    · split
      · exact ⟨_, rfl⟩
      · exact set entry _ none
    · exact ⟨_, rfl⟩

theorem sent_playEffect {value : ℤ} {now : UInt64} :
    (entry.playEffect id value now).sent = entry.sent := by
  simp only [Entry.playEffect]
  split
  · split
    · rfl
    · rcases takeSlot_cases { entry with effectsUsed := entry.effectsUsed + 1 } id with
        same | ⟨j, type, _, _, _, same⟩
      · rw [same]
        rfl
      · rw [same]
        rfl
  · split
    · split
      · rfl
      · rfl
    · rfl

theorem playEffect_of_stopped {value : ℤ} {now : UInt64}
    (stopped : (entry.states id).flags.started = false)
    (begins : entry.begins id value = false) : entry.playEffect id value now = entry := by
  simp only [Entry.begins, stopped, Bool.not_false, Bool.and_true, decide_eq_false_iff_not]
    at begins
  simp only [Entry.playEffect, begins, if_false, stopped, Bool.false_eq_true]

theorem uploadEffect_keeps {next : Entry} {effect : FfEffect} {now : UInt64}
    (uploaded : entry.uploadEffect id effect now = some next) :
    next.slots = entry.slots ∧ next.sent = entry.sent ∧ next.effectsUsed = entry.effectsUsed := by
  simp only [Entry.uploadEffect] at uploaded
  split at uploaded
  · cases uploaded
  · split at uploaded
    · cases uploaded
    · split at uploaded
      · cases uploaded
        exact ⟨rfl, rfl, rfl⟩
      · cases uploaded
        exact ⟨rfl, rfl, rfl⟩

theorem sent_foldl (ids : List (Fin 16)) (sampling : Sampling) :
    (ids.foldl (sampleEffect fixpSin32 instant) sampling).entry.sent = sampling.entry.sent := by
  induction ids generalizing sampling with
  | nil => rfl
  | cons id ids ih =>
      rw [List.foldl_cons, ih]
      rcases sampleEffect_cases fixpSin32 instant sampling id with
        same | ⟨_, state, _, _, ⟨_, _, same⟩ | ⟨_, _, same⟩⟩
      · rw [same]
      · rw [same]
        rfl
      · rw [same]
        rfl

def Calm (sent : Fin 4 → Command) : Prop := ∀ i, AtRest i (sent i)

/-- What a place in the callback promises: when the sampling found nothing started, the wheel
comes to rest. -/
def Promised (entry : Entry) (queued : Bool) : Option Callback → Prop
  | none => queued = false → entry.effectsUsed = 0 ∧ Calm entry.sent
  | some .entered | some .clear => True
  | some (.scaling forces _ _ used) => used = 0 → ∀ i, Silent i (forces i)
  | some (.sending forces left used) => used = 0 →
      ∀ i, Silent i (forces i) ∧ (i ∉ left → AtRest i (entry.sent i))
  | some (.deciding used) => used = some 0 → Calm entry.sent
  | some (.leaving restart) => restart = false → entry.effectsUsed = 0 ∧ Calm entry.sent

structure Kept (engine : Engine) : Prop where
  counted : Counted engine.entry
  typed : Typed engine.entry
  upToDate : ∀ i, UpToDate i (engine.entry.slots i) (engine.entry.sent i)
  alone : engine.callback.isSome = true → engine.queued = false
  promised : Promised engine.entry engine.queued engine.callback

theorem Promised.congr {next : Entry} {queued : Bool} {callback : Option Callback}
    (promised : Promised entry queued callback) (sent : next.sent = entry.sent)
    (used : next.effectsUsed = entry.effectsUsed) : Promised next queued callback := by
  simp only [Promised, sent, used] at promised ⊢
  exact promised

namespace Callback

/-- The callback will not restart the timer. -/
def stops : Callback → Bool
  | .leaving restart => !restart
  | .entered | .clear | .scaling .. | .sending .. | .deciding _ => false

/-- The callback has sampled, and no effect was started then. -/
def sawNone : Callback → Bool
  | .deciding used => used = some 0
  | .entered | .clear | .scaling .. | .sending .. | .leaving _ => false

end Callback

/-- A callback that reads a zero has seen it in its own sampling, and no effect begins after
that reading before the callback is over. -/
def Timely (engine : Engine) : TimerEvent → Prop
  | .play id value _ => engine.callback.any Callback.stops = true →
      engine.entry.begins id value = false
  | .decide => engine.entry.effectsUsed = 0 → engine.callback.any Callback.sawNone = true
  | _ => True

variable {engine next : Engine}

theorem kept_upload {effect : FfEffect} {now : UInt64} {entry : Entry} (kept : Kept engine)
    (uploaded : engine.entry.uploadEffect id effect now = some entry) :
    Kept { engine with entry } := by
  have same := uploadEffect_keeps uploaded
  refine ⟨counted_uploadEffect kept.counted uploaded, ?_, ?_, kept.alone,
    kept.promised.congr same.2.1 same.2.2⟩
  · simp only [Typed, Entry.effectTypes, same.1]
    exact kept.typed
  · simp only [same.1, same.2.1]
    exact kept.upToDate

theorem kept_play {value : ℤ} {now : UInt64} (kept : Kept engine)
    (meets : Timely engine (.play id value now)) : Kept (engine.play id value now) := by
  refine ⟨counted_playEffect kept.counted, typed_playEffect kept.typed, ?_, ?_, ?_⟩
  · intro i
    rcases @slots_playEffect engine.entry id value now i with ⟨effectType, same⟩
    have before := kept.upToDate i
    simp only [Engine.play, same, sent_playEffect]
    exact ⟨before.settled, before.operation, before.sent⟩
  · intro runs
    simp only [Engine.play] at runs ⊢
    simp only [kept.alone runs, Engine.active, runs, Bool.or_true, Bool.not_true, Bool.and_false,
      Bool.or_false]
  · have promised := kept.promised
    have unchanged : engine.entry.effectsUsed = 0 → engine.entry.begins id value = false →
        engine.entry.playEffect id value now = engine.entry := fun none =>
      playEffect_of_stopped (stopped_of_counted kept.counted none id)
    simp only [Engine.play, Timely] at meets ⊢
    revert promised meets
    cases callback : engine.callback with
    | none =>
        intro meets promised unqueued
        simp only [Engine.active, callback, Option.isSome_none, Bool.or_false, Bool.or_eq_false_iff,
          Bool.and_eq_false_iff, Bool.not_eq_false'] at unqueued
        rcases unqueued with ⟨unqueued, begins | queued⟩
        · have known := promised unqueued
          rw [unchanged known.1 begins]
          exact known
        · cases unqueued.symm.trans queued
    | some place =>
        cases place with
        | entered => exact fun _ _ => trivial
        | clear => exact fun _ _ => trivial
        | scaling forces gain left used => exact fun _ promised => promised
        | sending forces left used =>
            intro _ promised
            simp only [Promised, sent_playEffect]
            exact promised
        | deciding used =>
            intro _ promised
            simp only [Promised, sent_playEffect]
            exact promised
        | leaving restart =>
            intro meets promised stops
            have known := promised stops
            rw [unchanged known.1 (meets (by rw [stops]; rfl))]
            exact known

theorem silent_scaleSlot {gain : ℕ} (silent : ∀ i, Silent i (forces i)) (j : Fin 4) :
    ∀ i, Silent i (entry.scaleSlot gain forces j i) := by
  intro i
  have before := silent i
  simp only [Entry.scaleSlot, Function.update_apply]
  split
  · rename_i same
    subst same
    simp only [Silent, scaleParameters] at before ⊢
    split at before
    · rename_i zero
      rw [if_pos zero]
      exact before
    · rename_i zero
      rw [if_neg zero, before, scaleClip_zero]
  · exact before

theorem silent_scaleLevel (gain : ℕ) : ∀ i, Silent i (scaleLevel gain (fun _ => {}) i) := by
  intro i
  simp only [scaleLevel, Silent, Function.update_apply]
  split
  · simp only [scaleBy, Int.zero_mul, Int.zero_tdiv, s32_zero]
  · rfl

theorem kept_sample (kept : Kept engine) (callback : engine.callback = some .clear) :
    Kept (engine.sample fixpSin32 instant) := by
  have slots := slots_sample fixpSin32 instant engine.entry
  have sent : (sample fixpSin32 instant engine.entry).entry.sent = engine.entry.sent :=
    sent_foldl _ _
  refine ⟨counted_sample kept.counted, ?_, ?_, ?_, ?_⟩
  · simp only [Engine.sample, Typed, Entry.effectTypes, slots]
    exact kept.typed
  · simp only [Engine.sample, slots, sent]
    exact kept.upToDate
  · intro _
    exact kept.alone (by rw [callback]; rfl)
  · intro none
    rw [forces_sample kept.counted none]
    exact silent_scaleLevel _

theorem kept_pushSlot {left : List (Fin 4)} {used : ℤ} (kept : Kept engine)
    (callback : engine.callback = some (.sending forces (i :: left) used)) :
    Kept { engine with
      entry := engine.entry.pushSlot forces i, callback := some (.sending forces left used) } := by
  have promised := kept.promised
  rw [callback] at promised
  refine ⟨?_, ?_, ?_, ?_, ?_⟩
  · simp only [Counted, pushSlot_states, pushSlot_effectsUsed]
    exact kept.counted
  · simp only [Typed, effectTypes_pushSlot]
    exact kept.typed
  · intro j
    by_cases same : j = i
    · subst same
      exact upToDate_pushSlot (kept.upToDate j)
    · rw [pushSlot_slots, Function.update_of_ne same, sent_pushSlot_of_ne same]
      exact kept.upToDate j
  · intro _
    exact kept.alone (by rw [callback]; rfl)
  · intro none j
    have known := promised none
    refine ⟨(known j).1, ?_⟩
    intro pushed
    by_cases same : j = i
    · subst same
      exact atRest_pushSlot (kept.upToDate j) kept.typed (known j).1
    · rw [sent_pushSlot_of_ne same]
      apply (known j).2
      rw [List.mem_cons, not_or]
      exact ⟨same, pushed⟩

theorem kept_step {event : TimerEvent} (kept : Kept engine) (meets : Timely engine event)
    (stepped : timerStep fixpSin32 engine event = some next) : Kept next := by
  cases event with
  | upload id effect now =>
      simp only [timerStep, Option.map_eq_some_iff] at stepped
      rcases stepped with ⟨entry, uploaded, rfl⟩
      exact kept_upload kept uploaded
  | play id value now =>
      cases stepped
      exact kept_play kept meets
  | setGain gain =>
      cases stepped
      exact ⟨kept.counted, kept.typed, kept.upToDate, kept.alone, kept.promised.congr rfl rfl⟩
  | setMasterGain gain =>
      cases stepped
      exact ⟨kept.counted, kept.typed, kept.upToDate, kept.alone, kept.promised.congr rfl rfl⟩
  | configure mode msecs =>
      cases stepped
      exact ⟨kept.counted, kept.typed, kept.upToDate, kept.alone, kept.promised⟩
  | fire =>
      simp only [timerStep] at stepped
      split at stepped
      · cases stepped
        exact ⟨kept.counted, kept.typed, kept.upToDate, fun _ => rfl, trivial⟩
      · cases stepped
  | look busy =>
      simp only [timerStep] at stepped
      split at stepped
      · rename_i callback
        have alone := kept.alone (by rw [callback]; rfl)
        cases stepped
        simp only [Engine.look]
        split
        · refine ⟨kept.counted, kept.typed, kept.upToDate, fun _ => alone, ?_⟩
          simp only
          split
          · rintro ⟨⟩
          · rintro ⟨⟩
        · exact ⟨kept.counted, kept.typed, kept.upToDate, fun _ => alone, trivial⟩
      · cases stepped
  | sample instant =>
      simp only [timerStep] at stepped
      split at stepped
      · rename_i callback
        cases stepped
        exact kept_sample kept callback
      · cases stepped
  | scale =>
      simp only [timerStep] at stepped
      have promised := kept.promised
      split at stepped
      · rename_i callback
        have alone := kept.alone (by rw [callback]; rfl)
        rw [callback] at promised
        cases stepped
        refine ⟨kept.counted, kept.typed, kept.upToDate, fun _ => alone, ?_⟩
        intro none
        exact silent_scaleSlot (promised none) _
      · rename_i callback
        have alone := kept.alone (by rw [callback]; rfl)
        rw [callback] at promised
        cases stepped
        refine ⟨kept.counted, kept.typed, kept.upToDate, fun _ => alone, ?_⟩
        intro none i
        refine ⟨promised none i, ?_⟩
        intro absent
        exfalso
        apply absent
        revert i
        decide
      · cases stepped
  | send =>
      simp only [timerStep] at stepped
      split at stepped
      · rename_i callback
        cases stepped
        exact kept_pushSlot kept callback
      · rename_i callback
        have promised := kept.promised
        have alone := kept.alone (by rw [callback]; rfl)
        rw [callback] at promised
        cases stepped
        refine ⟨kept.counted, kept.typed, kept.upToDate, fun _ => alone, ?_⟩
        intro none i
        exact (promised (Option.some.inj none) i).2 List.not_mem_nil
      · cases stepped
  | decide =>
      simp only [timerStep] at stepped
      split at stepped
      · rename_i callback
        have promised := kept.promised
        have alone := kept.alone (by rw [callback]; rfl)
        rw [callback] at promised
        simp only [Timely, callback, Option.any_some, Callback.sawNone, decide_eq_true_eq] at meets
        cases stepped
        refine ⟨kept.counted, kept.typed, kept.upToDate, fun _ => alone, ?_⟩
        intro stops
        have none : engine.entry.effectsUsed = 0 := by
          simp only [ne_eq, decide_not, Bool.not_eq_false', decide_eq_true_eq] at stops
          exact stops
        exact ⟨none, promised (meets none)⟩
      · cases stepped
  | leave =>
      simp only [timerStep] at stepped
      split at stepped
      · rename_i callback
        have promised := kept.promised
        rw [callback] at promised
        cases stepped
        refine ⟨kept.counted, kept.typed, kept.upToDate, ?_, ?_⟩
        · rintro ⟨⟩
        · intro unqueued
          exact promised (Bool.or_eq_false_iff.mp unqueued).2
      · cases stepped

theorem kept_initial (levels : Levels) : Kept (.initial levels) := by
  refine ⟨?_, ?_, ?_, ?_, ?_⟩
  · have nobody : tally (fun state : EffectState => state.flags.started)
        (Engine.initial levels).entry.states = 0 := tally_eq_zero.mpr fun _ => rfl
    rw [Counted, nobody]
    rfl
  · have typed : ∀ i, (initSlot i).effectType = some .constant ↔ i = 0 := by decide
    exact typed
  · intro i
    have operation := nextOp_mem (emptySlot i).effectType 0 (emptySlot i).cmdOp
    exact ⟨rfl, operation, _, operation, _, rfl, rfl, Iff.rfl⟩
  · rintro ⟨⟩
  · intro _
    refine ⟨rfl, ?_⟩
    have calm : ∀ i, AtRest i (initSlot i).currentCmd := by
      simp only [AtRest]
      decide
    exact calm

/-- Where the timer is idle nothing is started, and the last commands sent are a zero force and
three stops. -/
theorem idle_at_rest (fixpSin32 : ℤ → ℤ)
    (reachable : (timerSystem fixpSin32).ReachableUnder Timely engine)
    (idle : engine.idle = true) :
    (∀ id, (engine.entry.states id).flags.started = false) ∧
      (engine.entry.sent 0)[2]? = some 0x80 ∧
      ∀ i, i ≠ 0 → (engine.entry.sent i).head? = some (head i opStop) := by
  have kept : Kept engine := by
    apply reachable.invariant
    · rintro start ⟨levels, rfl⟩
      exact kept_initial levels
    · intro current event next holds meets stepped
      exact kept_step holds meets stepped
  simp only [Engine.idle, Engine.active, Bool.not_eq_true', Bool.or_eq_false_iff,
    Option.isSome_eq_false_iff, Option.isNone_iff_eq_none] at idle
  have promised := kept.promised
  rw [idle.2] at promised
  have known := promised idle.1
  refine ⟨stopped_of_counted kept.counted known.1, ?_, ?_⟩
  · have rest := known.2 0
    rw [AtRest, if_pos rfl] at rest
    exact rest
  · intro i notZero
    have rest := known.2 i
    rw [AtRest, if_neg notZero] at rest
    exact rest

def push : FfEffect where
  kind := .constant 0x4000 ⟨0, 0, 0, 0⟩
  direction := 0x4000
  replayLength := 0
  replayDelay := 0

/-- The sine of a right angle, the only one a run with this effect asks for. -/
def sinOfRightAngle (_ : ℤ) : ℤ := 0x7fffffff

/-- One turn of the callback, up to its decision. -/
def turn (now : UInt64) : List TimerEvent :=
  [.fire, .look false, .sample ⟨now, fun _ => 0⟩, .scale, .scale, .scale, .scale, .send, .send,
    .send, .send, .send]

def pushOnce : List TimerEvent := [.upload 0 push 0, .play 0 1 0] ++ turn 2

instance (engine : Engine) : ∀ event, Decidable (Timely engine event)
  | .play id value _ => inferInstanceAs (Decidable (engine.callback.any Callback.stops = true →
      engine.entry.begins id value = false))
  | .decide => inferInstanceAs (Decidable (engine.entry.effectsUsed = 0 →
      engine.callback.any Callback.sawNone = true))
  | .upload .. | .setGain _ | .setMasterGain _ | .configure .. | .fire | .look _ | .sample _
  | .scale | .send | .leave => isTrue trivial

theorem idle_at_rest_push :
    ∃ engine : Engine, engine.idle = true ∧ (engine.entry.sent 0)[2]? = some 0x80 ∧
      (∀ id, (engine.entry.states id).flags.started = false) := by
  rcases System.ReachableUnder.of_check (timerSystem sinOfRightAngle) Timely (.initial {})
    (pushOnce ++ [.decide, .leave, .play 0 0 3] ++ turn 4 ++ [.decide, .leave]) Engine.idle
    ⟨{}, rfl⟩ (by decide) (by decide) with ⟨engine, reachable, idle⟩
  have rest := idle_at_rest sinOfRightAngle reachable idle
  exact ⟨engine, idle, rest.2.1, rest.1⟩

/-- The effect is stopped between the sampling and the decision, and its force stays. -/
theorem force_latched :
    ∃ engine, (timerSystem sinOfRightAngle).Reachable engine ∧ engine.idle = true ∧
      (engine.entry.states 0).flags.started = false ∧
        (engine.entry.sent 0)[2]? = some 0xc0 := by
  rcases System.ReachableUnder.of_check (timerSystem sinOfRightAngle) System.anyStep
    (.initial {}) (pushOnce ++ [.play 0 0 3, .decide, .leave])
    (fun engine => engine.idle = true ∧ (engine.entry.states 0).flags.started = false ∧
      (engine.entry.sent 0)[2]? = some 0xc0)
    ⟨{}, rfl⟩ (by decide) (System.runMeets_anyStep _ _) with ⟨engine, reachable, checked⟩
  rw [decide_eq_true_eq] at checked
  exact ⟨engine, reachable, checked⟩

end TrueForce.Classic
