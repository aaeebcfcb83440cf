import TrueForce.Classic.Engine
import TrueForce.Foundation.Transition

/-!
# Who has which slot

A condition effect takes a slot when it starts and gives it back when it is stopped,
but keeps it when a tick ends its last repetition.  Where no effect ends with a slot
of its own, every slot in use belongs to one started effect of its kind.
-/

namespace TrueForce.Classic

open TrueForce.Ffb Transition

namespace EffectState

variable (fixpSin32 : ℤ → ℤ) (state : EffectState) (now : UInt64)

/-- The parts of an effect that a tick does not touch. -/
theorem setAll_keeps :
    (state.setAll fixpSin32).slot = state.slot ∧ (state.setAll fixpSin32).effect = state.effect ∧
      (state.setAll fixpSin32).flags.started = state.flags.started := by
  simp only [setAll]
  split
  · exact ⟨rfl, rfl, rfl⟩
  · exact ⟨rfl, rfl, rfl⟩

theorem takeUpdate_keeps :
    (state.takeUpdate fixpSin32).slot = state.slot ∧
      (state.takeUpdate fixpSin32).effect = state.effect ∧
      (state.takeUpdate fixpSin32).flags.started = state.flags.started := by
  simp only [takeUpdate]
  split
  · exact ⟨rfl, rfl, rfl⟩
  · exact ⟨rfl, rfl, rfl⟩

theorem begin_keeps :
    (state.begin now).slot = state.slot ∧ (state.begin now).effect = state.effect ∧
      (state.begin now).flags.started = state.flags.started := by
  simp only [begin]
  split
  · exact ⟨rfl, rfl, rfl⟩
  · exact ⟨rfl, rfl, rfl⟩

theorem elapse_keeps :
    (state.elapse now).slot = state.slot ∧ (state.elapse now).effect = state.effect ∧
      (state.elapse now).flags.started = state.flags.started := by
  simp only [elapse]
  split
  · exact ⟨rfl, rfl, rfl⟩
  · exact ⟨rfl, rfl, rfl⟩

theorem updateState_keeps :
    (state.updateState fixpSin32 now).slot = state.slot ∧
      (state.updateState fixpSin32 now).effect = state.effect ∧
      (state.updateState fixpSin32 now).flags.started = state.flags.started := by
  simp only [updateState, elapse_keeps, begin_keeps, takeUpdate_keeps, setAll_keeps, and_self]

/-- A tick ends the last repetition. -/
def expires : Bool := state.ends now && state.count = 1

theorem renew_keeps :
    (state.renew now).slot = state.slot ∧ (state.renew now).effect = state.effect := by
  simp only [renew]
  repeat' split
  all_goals exact ⟨rfl, rfl⟩

theorem started_renew (on : state.flags.started = true) :
    (state.renew now).flags.started = !state.expires now := by
  have last : state.count - 1 = 0 ↔ state.count = 1 := by
    rw [UInt32.sub_eq_iff_eq_add, UInt32.zero_add]
  simp only [renew, expires]
  by_cases ends : state.ends now = true
  · simp only [ends, if_true, last, Bool.true_and]
    split
    · rename_i once
      simp only [once, decide_true, Bool.not_true]
      rfl
    · rename_i more
      simp only [more, decide_false, Bool.not_false]
  · simp only [ends, Bool.false_eq_true, if_false, on, Bool.false_and, Bool.not_false]

end EffectState

/-- What the effects say about the slots is what the slots say. -/
structure Owned (states : Fin 16 → EffectState) (types : Fin 4 → Option SlotType) (used : ℤ) :
    Prop where
  used : used = tally (fun state => state.flags.started) states
  holds : ∀ id, (states id).slot ≠ 0 → (states id).flags.started = true ∧
    slotType (states id).effect.kind ≠ none ∧
      types (states id).slot = slotType (states id).effect.kind
  apart : ∀ first second, (states first).slot = (states second).slot →
    (states first).slot ≠ 0 → first = second
  held : ∀ i, i ≠ 0 → types i ≠ none → ∃ id, (states id).slot = i

variable {states : Fin 16 → EffectState} {types : Fin 4 → Option SlotType} {used : ℤ}
  {id : Fin 16} {state : EffectState} {i : Fin 4} {entry next : Entry}

namespace Owned

theorem slot_of_stopped (owned : Owned states types used)
    (off : (states id).flags.started = false) : (states id).slot = 0 := by
  by_cases none : (states id).slot = 0
  · exact none
  · have on := (owned.holds id none).1
    cases off.symm.trans on

/-- An effect changes, but neither its slot nor the kind that goes with it. -/
theorem keep (owned : Owned states types used) {after : ℤ} (slot : state.slot = (states id).slot)
    (kind : state.slot ≠ 0 → slotType state.effect.kind = slotType (states id).effect.kind)
    (on : state.slot ≠ 0 → state.flags.started = true)
    (count : after + (if (states id).flags.started then 1 else 0) =
      used + if state.flags.started then 1 else 0) :
    Owned (Function.update states id state) types after := by
  have slots : ∀ other, (Function.update states id state other).slot = (states other).slot := by
    intro other
    rw [Function.update_apply]
    split
    · rename_i same
      rw [same, slot]
    · rfl
  refine ⟨?_, ?_, ?_, ?_⟩
  · have tallied := tally_update (fun state => state.flags.started) states id state
    have before := owned.used
    grind
  · intro other holds
    rw [slots] at holds ⊢
    have before := owned.holds other holds
    rw [Function.update_apply]
    split
    · rename_i same
      subst same
      rw [← slot] at holds
      rw [kind holds]
      exact ⟨on holds, before.2⟩
    · exact before
  · intro first second same holds
    rw [slots] at holds
    rw [slots, slots] at same
    exact owned.apart first second same holds
  · intro i notZero inUse
    rcases owned.held i notZero inUse with ⟨other, holds⟩
    exact ⟨other, (slots other).trans holds⟩

/-- A stopped condition effect starts in a free slot. -/
theorem take (owned : Owned states types used) (state : EffectState)
    (off : (states id).flags.started = false)
    (notZero : i ≠ 0) (free : types i = none) (slot : state.slot = i)
    (on : state.flags.started = true) (condition : slotType state.effect.kind ≠ none) :
    Owned (Function.update states id state)
      (Function.update types i (slotType state.effect.kind)) (used + 1) := by
  have unheld : ∀ other, (states other).slot ≠ i := by
    intro other same
    have holds := owned.holds other (by rw [same]; exact notZero)
    rw [same, free] at holds
    exact holds.2.1 holds.2.2.symm
  have stopped := owned.slot_of_stopped off
  refine ⟨?_, ?_, ?_, ?_⟩
  · have tallied := tally_update (fun state => state.flags.started) states id state
    simp only [off, on, Bool.false_eq_true, if_false, if_true] at tallied
    have before := owned.used
    omega
  · intro holder holds
    by_cases same : holder = id
    · subst same
      simp only [Function.update_self, slot, on, condition, ne_eq, not_false_eq_true, and_self]
    · rw [Function.update_of_ne same] at holds ⊢
      rw [Function.update_of_ne (unheld holder)]
      exact owned.holds holder holds
  · intro first second same holds
    by_cases isFirst : first = id
    · by_cases isSecond : second = id
      · rw [isFirst, isSecond]
      · rw [isFirst, Function.update_self, Function.update_of_ne isSecond, slot] at same
        exact absurd same.symm (unheld second)
    · rw [Function.update_of_ne isFirst] at same holds
      by_cases isSecond : second = id
      · rw [isSecond, Function.update_self, slot] at same
        exact absurd same (unheld first)
      · rw [Function.update_of_ne isSecond] at same
        exact owned.apart first second same holds
  · intro other notZero' inUse
    by_cases same : other = i
    · refine ⟨id, ?_⟩
      rw [Function.update_self, slot, same]
    · rw [Function.update_of_ne same] at inUse
      rcases owned.held other notZero' inUse with ⟨holder, holds⟩
      have different : holder ≠ id := by
        rintro rfl
        exact notZero' (holds.symm.trans stopped)
      refine ⟨holder, ?_⟩
      rw [Function.update_of_ne different]
      exact holds

/-- A started effect is stopped and gives its slot back. -/
theorem giveBack (owned : Owned states types used) (state : EffectState)
    (on : (states id).flags.started = true)
    (holds : (states id).slot ≠ 0) (slot : state.slot = 0)
    (off : state.flags.started = false) :
    Owned (Function.update states id state) (Function.update types (states id).slot none)
      (used - 1) := by
  have others : ∀ other, (states other).slot ≠ 0 → other ≠ id →
      (states other).slot ≠ (states id).slot := by
    intro other holds different same
    exact different (owned.apart other id same holds)
  refine ⟨?_, ?_, ?_, ?_⟩
  · have tallied := tally_update (fun state => state.flags.started) states id state
    simp only [off, on, Bool.false_eq_true, if_false, if_true] at tallied
    have before := owned.used
    omega
  · intro holder holds'
    by_cases same : holder = id
    · rw [same, Function.update_self] at holds'
      exact absurd slot holds'
    · rw [Function.update_of_ne same] at holds' ⊢
      rw [Function.update_of_ne (others holder holds' same)]
      exact owned.holds holder holds'
  · intro first second same holds'
    by_cases isFirst : first = id
    · rw [isFirst, Function.update_self] at holds'
      exact absurd slot holds'
    · rw [Function.update_of_ne isFirst] at same holds'
      by_cases isSecond : second = id
      · rw [isSecond, Function.update_self, slot] at same
        exact absurd same holds'
      · rw [Function.update_of_ne isSecond] at same
        exact owned.apart first second same holds'
  · intro other notZero inUse
    by_cases same : other = (states id).slot
    · rw [same, Function.update_self] at inUse
      exact absurd rfl inUse
    · rw [Function.update_of_ne same] at inUse
      rcases owned.held other notZero inUse with ⟨holder, holds'⟩
      have different : holder ≠ id := by
        rintro rfl
        exact same holds'.symm
      refine ⟨holder, ?_⟩
      rw [Function.update_of_ne different]
      exact holds'

end Owned

def Entry.effectTypes (entry : Entry) (i : Fin 4) : Option SlotType := (entry.slots i).effectType

def Entry.Sound (entry : Entry) : Prop := Owned entry.states entry.effectTypes entry.effectsUsed

theorem effectTypes_setEffectType (effectType : Option SlotType) :
    (entry.setEffectType i effectType).effectTypes = Function.update entry.effectTypes i effectType := by
  funext other
  simp only [Entry.effectTypes, Entry.setEffectType, Entry.setSlot, Function.update_apply]
  by_cases same : other = i
  · simp only [same, if_true]
  · simp only [same, if_false]

theorem setState_setState (first second : EffectState) :
    (entry.setState id first).setState id second = entry.setState id second := by
  simp only [Entry.setState, Function.update_idem]

theorem setEffectType_setState (effectType : Option SlotType) :
    (entry.setState id state).setEffectType i effectType =
      (entry.setEffectType i effectType).setState id state := rfl

theorem states_setState_self : (entry.setState id state).states id = state := by
  simp only [Entry.setState, Function.update_self]

theorem slotType_of_ffType {first second : EffectKind} (same : ffType first = ffType second) :
    slotType first = slotType second := by
  cases first with
  | _ =>
      cases second with
      | _ => first | rfl | cases same

theorem slotType_ne_constant (kind : EffectKind) : slotType kind ≠ some .constant := by
  cases kind with
  | _ => exact nofun

theorem sound_uploadEffect {effect : FfEffect} {now : UInt64} (sound : entry.Sound)
    (uploaded : entry.uploadEffect id effect now = some next) : next.Sound := by
  simp only [Entry.uploadEffect] at uploaded
  split at uploaded
  · cases uploaded
  · split at uploaded
    · cases uploaded
    · rename_i accepted
      split at uploaded
      · rename_i on
        have type : ffType effect.kind = ffType (entry.states id).effect.kind := by
          by_cases same : ffType effect.kind = ffType (entry.states id).effect.kind
          · exact same
          · exact absurd ⟨on, same⟩ accepted
        cases uploaded
        apply Owned.keep sound
        · rfl
        · intro _
          exact slotType_of_ffType type
        · intro _
          exact on
        · rfl
      · rename_i off
        rw [Bool.not_eq_true] at off
        have free := Owned.slot_of_stopped sound off
        cases uploaded
        apply Owned.keep sound
        · rfl
        · intro holds
          exact absurd free holds
        · intro holds
          exact absurd free holds
        · rfl

theorem mem_freeSlot (free : entry.freeSlot = some i) : i ≠ 0 ∧ entry.effectTypes i = none := by
  have found := List.find?_some free
  have occurs := List.mem_of_find?_eq_some free
  simp only [decide_eq_true_eq] at found
  refine ⟨?_, found⟩
  rintro rfl
  simp only [List.mem_cons, List.not_mem_nil, or_false] at occurs
  omega

theorem freeSlot_eq_none : entry.freeSlot = none ↔ ∀ i, i ≠ 0 → entry.effectTypes i ≠ none := by
  simp only [Entry.freeSlot, List.find?_eq_none, decide_eq_true_eq, Entry.effectTypes]
  constructor
  · intro full i notZero
    apply full
    revert i
    decide
  · intro full i occurs
    apply full
    rintro rfl
    simp only [List.mem_cons, List.not_mem_nil, or_false] at occurs
    omega

/-- What a start does for an effect that was stopped. -/
theorem takeSlot_cases (entry : Entry) (id : Fin 16) :
    entry.takeSlot id = entry ∨
      ∃ i effectType, i ≠ 0 ∧ entry.effectTypes i = none ∧
        slotType (entry.states id).effect.kind = some effectType ∧
        entry.takeSlot id = (entry.setState id { entry.states id with slot := i }).setEffectType i
          (some effectType) := by
  simp only [Entry.takeSlot]
  split
  · rename_i effectType kind
    split
    · split
      · rename_i i free
        have known := mem_freeSlot free
        exact .inr ⟨i, effectType, known.1, known.2, kind, rfl⟩
      · exact .inl rfl
    · exact .inl rfl
  · exact .inl rfl

theorem sound_playEffect {value : ℤ} {now : UInt64} (sound : entry.Sound) :
    (entry.playEffect id value now).Sound := by
  simp only [Entry.playEffect]
  split
  · split
    · rename_i on
      rw [states_setState_self, setState_setState]
      refine Owned.keep sound rfl (fun _ => rfl) (fun _ => rfl) ?_
      simp only [on, if_true]
      rfl
    · rename_i off
      rw [Bool.not_eq_true] at off
      have stopped := Owned.slot_of_stopped sound off
      rcases takeSlot_cases { entry with effectsUsed := entry.effectsUsed + 1 } id with
        same | ⟨i, effectType, notZero, free, kind, same⟩
      · rw [same]
        refine Owned.keep sound rfl (fun _ => rfl) (fun _ => rfl) ?_
        simp only [off, Bool.false_eq_true, if_false, EffectState.start, if_true, Entry.setState]
        omega
      · rw [same, setEffectType_setState, states_setState_self, setState_setState]
        have taken := Owned.take sound ({ entry.states id with slot := i }.start value now) off
          notZero free rfl rfl (by rw [EffectState.start, kind]; exact Option.some_ne_none _)
        simp only [EffectState.start, kind, ← effectTypes_setEffectType] at taken
        exact taken
  · split
    · rename_i on
      split
      · rename_i none
        refine Owned.keep sound rfl (fun _ => rfl) (fun holds => absurd none holds) ?_
        simp only [on, if_true, EffectState.stopEffect, Bool.false_eq_true, if_false,
          Entry.setState]
        omega
      · rename_i holds
        have given := Owned.giveBack sound { (entry.states id).stopEffect with slot := 0 } on holds
          rfl rfl
        simp only [Entry.Sound, ← effectTypes_setEffectType] at given ⊢
        exact given
    · exact sound

/-- A start leaves a condition effect without a slot only if it has none and finds none. -/
theorem slot_playEffect {value : ℤ} {now : UInt64} (positive : 0 < value)
    (condition : slotType (entry.states id).effect.kind ≠ none)
    (without : ((entry.playEffect id value now).states id).slot = 0) :
    (entry.states id).slot = 0 ∧
      ((entry.states id).flags.started = false → entry.freeSlot = none) := by
  simp only [Entry.playEffect, positive, if_true] at without
  split at without
  · rename_i on
    rw [states_setState_self, states_setState_self] at without
    refine ⟨without, ?_⟩
    intro off
    cases off.symm.trans on
  · rename_i off
    rw [states_setState_self] at without
    simp only [Entry.takeSlot] at without
    split at without
    · split at without
      · rename_i none
        split at without
        · rename_i i free
          rw [setEffectType_setState, states_setState_self] at without
          exact absurd without (mem_freeSlot free).1
        · rename_i full
          exact ⟨none, fun _ => full⟩
      · rename_i holds
        exact absurd without holds
    · rename_i none
      exact absurd none condition

variable {fixpSin32 : ℤ → ℤ} {instant : Instant} {sampling : Sampling}

/-- One turn of the loop changes at most the state of one effect, and neither its slot nor what
it is. -/
theorem sampleEffect_cases (fixpSin32 : ℤ → ℤ) (instant : Instant) (sampling : Sampling)
    (id : Fin 16) :
    (sampleEffect fixpSin32 instant sampling id).entry = sampling.entry ∨
      (sampling.entry.states id).flags.started = true ∧
        ∃ state, state.slot = (sampling.entry.states id).slot ∧
          state.effect = (sampling.entry.states id).effect ∧
          (state.flags.started = true ∧
              (sampling.entry.states id).expires instant.now = false ∧
              (sampleEffect fixpSin32 instant sampling id).entry =
                sampling.entry.setState id state ∨
            state.flags.started = false ∧
              (sampling.entry.states id).expires instant.now = true ∧
              (sampleEffect fixpSin32 instant sampling id).entry =
                { sampling.entry.setState id state with
                  effectsUsed := sampling.entry.effectsUsed - 1 }) := by
  simp only [sampleEffect]
  split
  · exact .inl rfl
  · split
    · exact .inl rfl
    · rename_i on
      rw [Bool.not_eq_true, Bool.not_eq_false'] at on
      have renewed := (sampling.entry.states id).started_renew instant.now on
      have kept := (sampling.entry.states id).renew_keeps instant.now
      right
      refine ⟨on, ?_⟩
      split
      · rename_i goesOn
        have updated := ((sampling.entry.states id).renew instant.now).updateState_keeps fixpSin32
          instant.now
        refine ⟨_, updated.1.trans kept.1, updated.2.1.trans kept.2, .inl ⟨?_, ?_, rfl⟩⟩
        · rw [updated.2.2]
          exact goesOn
        · rw [goesOn] at renewed
          exact (Bool.not_eq_true' _).mp renewed.symm
      · rename_i ended
        rw [Bool.not_eq_true] at ended
        refine ⟨_, kept.1, kept.2, .inr ⟨ended, ?_, rfl⟩⟩
        rw [ended] at renewed
        exact (Bool.not_eq_false' _).mp renewed.symm

theorem sound_sampleEffect (sound : sampling.entry.Sound)
    (lasts : (sampling.entry.states id).slot ≠ 0 →
      (sampling.entry.states id).expires instant.now = false) :
    (sampleEffect fixpSin32 instant sampling id).entry.Sound := by
  rcases sampleEffect_cases fixpSin32 instant sampling id with
    same | ⟨on, state, slot, effect, ⟨goesOn, _, same⟩ | ⟨ended, expired, same⟩⟩
  · rw [same]
    exact sound
  · rw [same]
    refine Owned.keep sound slot (fun _ => by rw [effect]) (fun _ => goesOn) ?_
    rw [on, goesOn]
    rfl
  · rw [same]
    have none : (sampling.entry.states id).slot = 0 := by
      by_cases none : (sampling.entry.states id).slot = 0
      · exact none
      · cases (lasts none).symm.trans expired
    refine Owned.keep sound slot (fun holds => absurd (slot.trans none) holds)
      (fun holds => absurd (slot.trans none) holds) ?_
    simp only [on, ended, if_true, Bool.false_eq_true, if_false]
    omega

/-- What a turn of the loop leaves as it is. -/
theorem sampleEffect_keeps (fixpSin32 : ℤ → ℤ) (instant : Instant) (sampling : Sampling)
    (id : Fin 16) :
    (sampleEffect fixpSin32 instant sampling id).entry.slots = sampling.entry.slots ∧
      (∀ other, ((sampleEffect fixpSin32 instant sampling id).entry.states other).slot =
          (sampling.entry.states other).slot ∧
        ((sampleEffect fixpSin32 instant sampling id).entry.states other).effect =
          (sampling.entry.states other).effect) ∧
      ∀ other, other ≠ id → (sampleEffect fixpSin32 instant sampling id).entry.states other =
        sampling.entry.states other := by
  have update : ∀ {state : EffectState}, state.slot = (sampling.entry.states id).slot →
      state.effect = (sampling.entry.states id).effect →
      (∀ other, (Function.update sampling.entry.states id state other).slot =
          (sampling.entry.states other).slot ∧
        (Function.update sampling.entry.states id state other).effect =
          (sampling.entry.states other).effect) ∧
      ∀ other, other ≠ id →
        Function.update sampling.entry.states id state other = sampling.entry.states other := by
    intro state slot effect
    refine ⟨?_, fun other different => Function.update_of_ne different _ _⟩
    intro other
    rw [Function.update_apply]
    split
    · rename_i same
      rw [same, slot, effect]
      exact ⟨rfl, rfl⟩
    · exact ⟨rfl, rfl⟩
  rcases sampleEffect_cases fixpSin32 instant sampling id with
    same | ⟨_, state, slot, effect, ⟨_, _, same⟩ | ⟨_, _, same⟩⟩
  · rw [same]
    exact ⟨rfl, fun _ => ⟨rfl, rfl⟩, fun _ _ => rfl⟩
  · rw [same]
    exact ⟨rfl, update slot effect⟩
  · rw [same]
    exact ⟨rfl, update slot effect⟩

theorem sound_foldl {ids : List (Fin 16)} (nodup : ids.Nodup) (sound : sampling.entry.Sound)
    (lasts : ∀ id ∈ ids, (sampling.entry.states id).slot ≠ 0 →
      (sampling.entry.states id).expires instant.now = false) :
    (ids.foldl (sampleEffect fixpSin32 instant) sampling).entry.Sound := by
  induction ids generalizing sampling with
  | nil => exact sound
  | cons id ids ih =>
      rw [List.nodup_cons] at nodup
      apply ih nodup.2
      · exact sound_sampleEffect sound (lasts id List.mem_cons_self)
      · intro other occurs
        have different : other ≠ id := by
          rintro rfl
          exact nodup.1 occurs
        rw [(sampleEffect_keeps fixpSin32 instant sampling id).2.2 other different]
        exact lasts other (List.mem_cons_of_mem id occurs)

theorem foldl_keeps (fixpSin32 : ℤ → ℤ) (instant : Instant) (ids : List (Fin 16))
    (sampling : Sampling) :
    (ids.foldl (sampleEffect fixpSin32 instant) sampling).entry.slots = sampling.entry.slots ∧
      ∀ other, ((ids.foldl (sampleEffect fixpSin32 instant) sampling).entry.states other).slot =
          (sampling.entry.states other).slot ∧
        ((ids.foldl (sampleEffect fixpSin32 instant) sampling).entry.states other).effect =
          (sampling.entry.states other).effect := by
  induction ids generalizing sampling with
  | nil => exact ⟨rfl, fun _ => ⟨rfl, rfl⟩⟩
  | cons id ids ih =>
      have step := sampleEffect_keeps fixpSin32 instant sampling id
      have rest := ih (sampleEffect fixpSin32 instant sampling id)
      refine ⟨rest.1.trans step.1, fun other => ?_⟩
      exact ⟨(rest.2 other).1.trans (step.2.1 other).1, (rest.2 other).2.trans (step.2.1 other).2⟩

theorem slots_sample (fixpSin32 : ℤ → ℤ) (instant : Instant) (entry : Entry) :
    (sample fixpSin32 instant entry).entry.slots = entry.slots :=
  (foldl_keeps fixpSin32 instant _ _).1

/-- The parameters a condition effect sets. -/
def conditionForce (kind : EffectKind) (parameters : Parameters) : Parameters :=
  match kind with
  | .spring condition => springForce condition parameters
  | .damper condition | .friction condition | .inertia condition =>
      resistance condition parameters
  | .constant .. | .ramp .. | .periodic .. | .rumble .. | .other => parameters

theorem contribute_slot {forces : Forces} {undefined : ℤ} (notZero : i ≠ 0) :
    state.contribute fixpSin32 forces undefined i = forces i ∨
      state.slot = i ∧
        state.contribute fixpSin32 forces undefined i =
          conditionForce state.effect.kind (forces i) := by
  have set : ∀ force : Parameters → Parameters, state.setForce forces force i = forces i ∨
      state.slot = i ∧ state.setForce forces force i = force (forces i) := by
    intro force
    simp only [EffectState.setForce]
    split
    · exact .inl rfl
    · rw [Function.update_apply]
      split
      · rename_i same
        rw [same]
        exact .inr ⟨rfl, rfl⟩
      · exact .inl rfl
  simp only [EffectState.contribute, conditionForce]
  cases state.effect.kind with
  | constant level envelope => exact .inl (Function.update_of_ne notZero _ _)
  | ramp startLevel endLevel envelope => exact .inl (Function.update_of_ne notZero _ _)
  | periodic waveform period magnitude offset phase envelope =>
      exact .inl (Function.update_of_ne notZero _ _)
  | spring condition => exact set _
  | damper condition => exact set _
  | friction condition => exact set _
  | inertia condition => exact set _
  | rumble strong weak => exact .inl rfl
  | other => exact .inl rfl

theorem forces_sampleEffect (notZero : i ≠ 0) :
    (sampleEffect fixpSin32 instant sampling id).forces i = sampling.forces i ∨
      (sampling.entry.states id).slot = i ∧
        (sampleEffect fixpSin32 instant sampling id).forces i =
          conditionForce (sampling.entry.states id).effect.kind (sampling.forces i) := by
  simp only [sampleEffect]
  split
  · exact .inl rfl
  · split
    · exact .inl rfl
    · split
      · simp only
        split
        · have kept := (sampling.entry.states id).renew_keeps instant.now
          have updated := ((sampling.entry.states id).renew instant.now).updateState_keeps fixpSin32
            instant.now
          rw [← kept.1, ← kept.2, ← updated.1, ← updated.2.1]
          exact contribute_slot notZero
        · exact .inl rfl
      · exact .inl rfl

/-- After the loop a slot has no parameters, or those of the effect that holds it. -/
theorem forces_foldl {ids : List (Fin 16)} (nodup : ids.Nodup) (notZero : i ≠ 0)
    (apart : ∀ first second, (sampling.entry.states first).slot =
      (sampling.entry.states second).slot → (sampling.entry.states first).slot ≠ 0 →
        first = second)
    (before : sampling.forces i = {} ∨ ∃ id, id ∉ ids ∧ (sampling.entry.states id).slot = i ∧
      sampling.forces i = conditionForce (sampling.entry.states id).effect.kind {}) :
    (ids.foldl (sampleEffect fixpSin32 instant) sampling).forces i = {} ∨
      ∃ id, (sampling.entry.states id).slot = i ∧
        (ids.foldl (sampleEffect fixpSin32 instant) sampling).forces i =
          conditionForce (sampling.entry.states id).effect.kind {} := by
  induction ids generalizing sampling with
  | nil =>
      rcases before with none | ⟨id, _, holds, given⟩
      · exact .inl none
      · exact .inr ⟨id, holds, given⟩
  | cons id ids ih =>
      rw [List.nodup_cons] at nodup
      have kept := (sampleEffect_keeps fixpSin32 instant sampling id).2.1
      have rest := @ih (sampleEffect fixpSin32 instant sampling id) nodup.2
      simp only [kept] at rest
      apply rest apart
      rcases @forces_sampleEffect id i fixpSin32 instant sampling notZero with same | ⟨holds, given⟩
      · rw [same]
        rcases before with none | ⟨owner, unseen, holds, given⟩
        · exact .inl none
        · exact .inr ⟨owner, fun occurs => unseen (List.mem_cons_of_mem id occurs), holds, given⟩
      · right
        refine ⟨id, nodup.1, holds, ?_⟩
        rw [given]
        rcases before with none | ⟨owner, unseen, holds', _⟩
        · rw [none]
        · have same := apart owner id (holds'.trans holds.symm) (by rw [holds']; exact notZero)
          exact absurd (same ▸ List.mem_cons_self) unseen

variable {forces : Forces}

theorem pushSlot_slots : (entry.pushSlot forces i).slots = Function.update entry.slots i
    { updateSlot i (entry.slots i) (forces i) with isUpdated := false } := by
  simp only [Entry.pushSlot]
  split
  · rfl
  · rename_i same
    rw [Bool.not_eq_true] at same
    simp only [Entry.setSlot, ← same]

theorem pushSlot_states : (entry.pushSlot forces i).states = entry.states := by
  simp only [Entry.pushSlot]
  split
  · rfl
  · rfl

theorem pushSlot_effectsUsed : (entry.pushSlot forces i).effectsUsed = entry.effectsUsed := by
  simp only [Entry.pushSlot]
  split
  · rfl
  · rfl

theorem foldl_pushSlot {indices : List (Fin 4)} (nodup : indices.Nodup) (entry : Entry) :
    let after := indices.foldl (fun entry i => entry.pushSlot forces i) entry
    after.states = entry.states ∧ after.effectsUsed = entry.effectsUsed ∧
      ∀ i, after.slots i = if i ∈ indices then
        { updateSlot i (entry.slots i) (forces i) with isUpdated := false } else entry.slots i := by
  induction indices generalizing entry with
  | nil => exact ⟨rfl, rfl, fun i => rfl⟩
  | cons first indices ih =>
      rw [List.nodup_cons] at nodup
      rcases ih nodup.2 (entry.pushSlot forces first) with ⟨states, used, slots⟩
      refine ⟨states.trans pushSlot_states, used.trans pushSlot_effectsUsed, ?_⟩
      intro i
      refine (slots i).trans ?_
      rw [pushSlot_slots]
      by_cases same : i = first
      · subst same
        simp only [nodup.1, if_false, Function.update_self, List.mem_cons_self, if_true]
      · simp only [Function.update_of_ne same, List.mem_cons, same, false_or]

theorem scale_apply {gain : ℕ} (notZero : i ≠ 0) : entry.scale gain forces i =
    scaleParameters entry.levels gain (entry.effectTypes i) (forces i) := by
  have cases : i = 1 ∨ i = 2 ∨ i = 3 := by
    revert i
    decide
  rcases cases with rfl | rfl | rfl
  · rfl
  · rfl
  · rfl

theorem tick_spec (fixpSin32 : ℤ → ℤ) (instant : Instant) (entry : Entry) :
    let sampling := sample fixpSin32 instant entry
    let forces := sampling.entry.scale entry.totalGain sampling.forces
    (tick fixpSin32 instant entry).states = sampling.entry.states ∧
      (tick fixpSin32 instant entry).effectsUsed = sampling.entry.effectsUsed ∧
      ∀ i, (tick fixpSin32 instant entry).slots i =
        { updateSlot i (entry.slots i) (forces i) with isUpdated := false } := by
  intro sampling forces
  have slots : sampling.entry.slots = entry.slots := slots_sample fixpSin32 instant entry
  rcases @foldl_pushSlot forces [0, 1, 2, 3] (by decide) sampling.entry with
    ⟨states, used, pushed⟩
  refine ⟨states, used, ?_⟩
  intro i
  refine (pushed i).trans ?_
  have occurs : i ∈ [(0 : Fin 4), 1, 2, 3] := by
    revert i
    decide
  rw [if_pos occurs, slots]

theorem sound_tick (sound : entry.Sound)
    (lasts : ∀ id, (entry.states id).slot ≠ 0 →
      (entry.states id).expires instant.now = false) :
    (tick fixpSin32 instant entry).Sound := by
  rcases tick_spec fixpSin32 instant entry with ⟨states, used, slots⟩
  have sampled : (sample fixpSin32 instant entry).entry.Sound :=
    sound_foldl (List.nodup_finRange 16) sound fun id _ => lasts id
  have same : (sample fixpSin32 instant entry).entry.effectTypes = entry.effectTypes := by
    funext i
    simp only [Entry.effectTypes, slots_sample]
  have types : (tick fixpSin32 instant entry).effectTypes = entry.effectTypes := by
    funext i
    simp only [Entry.effectTypes, slots]
    rfl
  simp only [Entry.Sound, states, used, types] at sampled ⊢
  rw [same] at sampled
  exact sampled

/-- The second byte of the commands for a kind of slot. -/
def opcode : SlotType → UInt8
  | .constant => 0
  | .spring => 0x0b
  | .damper => 0x0c
  | .friction => 0x0e

theorem cmd_updateSlot {slot : Slot} {parameters : Parameters} (notZero : i ≠ 0)
    (plays : (updateSlot i slot parameters).cmdOp ≠ opStop) :
    slot.effectType = some .constant ∨ parameters.clip ≠ 0 ∧
      ∃ effectType, slot.effectType = some effectType ∧
        (updateSlot i slot parameters).currentCmd[1]? = some (opcode effectType) := by
  simp only [updateSlot] at plays ⊢
  cases type : slot.effectType with
  | none =>
      simp only [nextOp, type, reduceCtorEq, if_false, or_true, if_true, ne_eq,
        not_true_eq_false] at plays
  | some effectType =>
      rw [type] at plays
      have loud : effectType = .constant ∨ parameters.clip ≠ 0 := by
        by_cases constant : effectType = .constant
        · exact .inl constant
        · right
          intro quiet
          apply plays
          simp only [nextOp, Option.some.injEq, constant, if_false, quiet, true_or, if_true]
      rcases loud with rfl | loud
      · exact .inl rfl
      · refine .inr ⟨loud, effectType, rfl, ?_⟩
        rw [if_neg plays]
        cases effectType with
        | constant =>
            have places : i = 1 ∨ i = 2 ∨ i = 3 := by
              revert i
              decide
            rcases places with rfl | rfl | rfl
            · rfl
            · rfl
            · rfl
        | spring => rfl
        | damper => rfl
        | friction => rfl

theorem scaleClip_zero (levels : Levels) (gain : ℕ) (effectType : Option SlotType) :
    scaleClip levels gain effectType 0 = 0 := by
  simp only [scaleClip]
  split
  · simp only [UInt32.zero_mul, UInt32.zero_div]
  · simp only [UInt32.zero_mul, UInt32.zero_div]

/-- A slot that plays after a tick carries the parameters of the effect that holds it. -/
theorem command_tick (sound : entry.Sound)
    (lasts : ∀ id, (entry.states id).slot ≠ 0 → (entry.states id).expires instant.now = false)
    (notZero : i ≠ 0) (plays : ((tick fixpSin32 instant entry).slots i).cmdOp ≠ opStop) :
    ∃ id effectType, ((tick fixpSin32 instant entry).states id).slot = i ∧
      ((tick fixpSin32 instant entry).states id).flags.started = true ∧
      slotType ((tick fixpSin32 instant entry).states id).effect.kind = some effectType ∧
      (sample fixpSin32 instant entry).forces i =
        conditionForce ((tick fixpSin32 instant entry).states id).effect.kind {} ∧
      ((tick fixpSin32 instant entry).slots i).currentCmd[1]? = some (opcode effectType) := by
  have after := @sound_tick entry fixpSin32 instant sound lasts
  rcases tick_spec fixpSin32 instant entry with ⟨states, _, slots⟩
  have type : (tick fixpSin32 instant entry).effectTypes i = entry.effectTypes i := by
    simp only [Entry.effectTypes, slots]
    rfl
  rw [slots i] at plays ⊢
  rcases cmd_updateSlot notZero plays with constant | ⟨loud, effectType, known, command⟩
  · change entry.effectTypes i = some .constant at constant
    rw [← type] at constant
    rcases after.held i notZero (by rw [constant]; exact Option.some_ne_none _) with ⟨id, holds⟩
    have owned := after.holds id (by rw [holds]; exact notZero)
    rw [holds, constant] at owned
    exact absurd owned.2.2.symm (slotType_ne_constant _)
  · change entry.effectTypes i = some effectType at known
    rw [← type] at known
    rcases after.held i notZero (by rw [known]; exact Option.some_ne_none _) with ⟨id, holds⟩
    have owned := after.holds id (by rw [holds]; exact notZero)
    rw [holds, known] at owned
    refine ⟨id, effectType, holds, owned.1, owned.2.2.symm, ?_, command⟩
    have kept := (foldl_keeps fixpSin32 instant (List.finRange 16)
      { entry, forces := fun _ => {}, count := entry.effectsUsed }).2
    have given := @forces_foldl i fixpSin32 instant
      { entry, forces := fun _ => {}, count := entry.effectsUsed } _ (List.nodup_finRange 16)
      notZero sound.apart (.inl rfl)
    rcases given with none | ⟨owner, holds', given⟩
    · rw [scale_apply notZero] at loud
      have quiet : (sample fixpSin32 instant entry).forces i = {} := none
      rw [quiet] at loud
      exact absurd (scaleClip_zero _ _ _) loud
    · have sameSlot := (kept owner).1
      have sameEffect := (kept owner).2
      rw [← sample, ← states] at sameSlot sameEffect
      have same : owner = id :=
        after.apart owner id ((sameSlot.trans holds').trans holds.symm)
          (by rw [sameSlot, holds']; exact notZero)
      subst same
      rw [sameEffect]
      exact given

inductive Event where
  | upload (id : Fin 16) (effect : FfEffect) (now : UInt64)
  | play (id : Fin 16) (value : ℤ) (now : UInt64)
  | tick (instant : Instant)

/-- An upload that is refused changes nothing, and is no step. -/
def step (fixpSin32 : ℤ → ℤ) (entry : Entry) : Event → Option Entry
  | .upload id effect now => entry.uploadEffect id effect now
  | .play id value now => some (entry.playEffect id value now)
  | .tick instant => some (tick fixpSin32 instant entry)

def system (fixpSin32 : ℤ → ℤ) : System Entry Event where
  initial entry := ∃ levels, entry = .initial levels
  step := step fixpSin32

/-- No tick ends the last repetition of an effect that has a slot, and no effect that is started
without a slot is started again while one is free. -/
def Careful (entry : Entry) : Event → Prop
  | .upload .. => True
  | .play id value _ => 0 < value → (entry.states id).flags.started = true →
      slotType (entry.states id).effect.kind ≠ none → (entry.states id).slot = 0 →
        entry.freeSlot = none
  | .tick instant => ∀ id, (entry.states id).slot ≠ 0 →
      (entry.states id).expires instant.now = false

instance (entry : Entry) : ∀ event, Decidable (Careful entry event)
  | .upload .. => isTrue trivial
  | .play id value _ => inferInstanceAs (Decidable (0 < value →
      (entry.states id).flags.started = true → slotType (entry.states id).effect.kind ≠ none →
        (entry.states id).slot = 0 → entry.freeSlot = none))
  | .tick instant => inferInstanceAs (Decidable (∀ id, (entry.states id).slot ≠ 0 →
      (entry.states id).expires instant.now = false))

/-- Who has the slots, what a start may find, and what a tick sends. -/
structure Attributed (fixpSin32 : ℤ → ℤ) (entry : Entry) : Prop where
  used : entry.effectsUsed = entry.started
  owner : ∀ i effectType, i ≠ 0 → entry.effectTypes i = some effectType →
    ∃ id, (entry.states id).slot = i ∧ (entry.states id).flags.started = true ∧
      slotType (entry.states id).effect.kind = some effectType ∧
        ∀ other, (entry.states other).slot = i → other = id
  start : ∀ id value now, 0 < value → slotType (entry.states id).effect.kind ≠ none →
    Careful entry (.play id value now) →
      ((entry.playEffect id value now).states id).slot = 0 → ∀ i, i ≠ 0 →
        ∃ other, other ≠ id ∧ (entry.states other).slot = i ∧
          (entry.states other).flags.started = true ∧
            slotType (entry.states other).effect.kind ≠ none
  command : ∀ instant i, Careful entry (.tick instant) → i ≠ 0 →
    ((tick fixpSin32 instant entry).slots i).cmdOp = opStop ∨
      ∃ id effectType, ((tick fixpSin32 instant entry).states id).slot = i ∧
        ((tick fixpSin32 instant entry).states id).flags.started = true ∧
        slotType ((tick fixpSin32 instant entry).states id).effect.kind = some effectType ∧
        (sample fixpSin32 instant entry).forces i =
          conditionForce ((tick fixpSin32 instant entry).states id).effect.kind {} ∧
        ((tick fixpSin32 instant entry).slots i).currentCmd[1]? = some (opcode effectType)

theorem attributed_of_sound (sound : entry.Sound) : Attributed fixpSin32 entry := by
  refine ⟨sound.used, ?_, ?_, ?_⟩
  · intro i effectType notZero inUse
    rcases sound.held i notZero (by rw [inUse]; exact Option.some_ne_none _) with ⟨id, holds⟩
    have owned := sound.holds id (by rw [holds]; exact notZero)
    rw [holds, inUse] at owned
    refine ⟨id, holds, owned.1, owned.2.2.symm, ?_⟩
    intro other holds'
    apply sound.apart other id (holds'.trans holds.symm)
    rw [holds']
    exact notZero
  · intro id value now positive condition careful without i notZero
    rcases slot_playEffect positive condition without with ⟨none, stopped⟩
    have full : entry.freeSlot = .none := by
      cases on : (entry.states id).flags.started with
      | false => exact stopped on
      | true => exact careful positive on condition none
    rcases sound.held i notZero (freeSlot_eq_none.mp full i notZero) with ⟨other, holds⟩
    have owned := sound.holds other (by rw [holds]; exact notZero)
    refine ⟨other, ?_, holds, owned.1, owned.2.1⟩
    rintro rfl
    exact notZero (holds.symm.trans none)
  · intro instant i careful notZero
    by_cases stopped : ((tick fixpSin32 instant entry).slots i).cmdOp = opStop
    · exact .inl stopped
    · exact .inr (command_tick sound careful notZero stopped)

theorem sound_initial (levels : Levels) : (Entry.initial levels).Sound := by
  refine ⟨?_, ?_, ?_, ?_⟩
  · have nobody : tally (fun state => state.flags.started) (Entry.initial levels).states = 0 :=
      tally_eq_zero.mpr fun _ => rfl
    rw [nobody]
    rfl
  · intro id holds
    exact absurd rfl holds
  · intro first second _ holds
    exact absurd rfl holds
  · intro i notZero inUse
    have empty : ∀ i : Fin 4, i ≠ 0 → (initSlot i).effectType = none := by decide
    exact absurd (empty i notZero) inUse

theorem slots_attributed (fixpSin32 : ℤ → ℤ)
    (reachable : (system fixpSin32).ReachableUnder Careful entry) :
    Attributed fixpSin32 entry := by
  apply attributed_of_sound
  apply reachable.invariant
  · rintro start ⟨levels, rfl⟩
    exact sound_initial levels
  · intro current event next sound careful stepped
    cases event with
    | upload id effect now => exact sound_uploadEffect sound stepped
    | play id value now =>
        cases stepped
        exact sound_playEffect sound
    | tick instant =>
        cases stepped
        exact sound_tick sound careful

def weakSpring : FfEffect where
  kind := .spring ⟨0xffff, 0xffff, 0x4000, 0x4000, 0, 0⟩
  direction := 0
  replayLength := 10
  replayDelay := 0

def weakDamper : FfEffect where
  kind := .damper ⟨0xffff, 0xffff, 0x4000, 0x4000, 0, 0⟩
  direction := 0
  replayLength := 0
  replayDelay := 0

/-- The sine of the angle 0, the only one a run with these effects asks for. -/
def sinOfZero (_ : ℤ) : ℤ := 0

def springFirst : List Event :=
  [.upload 0 weakSpring 0, .play 0 1 0, .tick ⟨0, fun _ => 0⟩]

theorem slots_attributed_spring :
    ∃ entry, Attributed sinOfZero entry ∧ entry.effectTypes 1 = some .spring ∧
      (entry.slots 1).currentCmd[1]? = some 0x0b := by
  rcases System.ReachableUnder.of_check (system sinOfZero) Careful (.initial {}) springFirst
    (fun entry => entry.effectTypes 1 = some .spring ∧ (entry.slots 1).currentCmd[1]? = some 0x0b)
    ⟨{}, rfl⟩ (by decide) (by decide) with ⟨entry, reachable, checked⟩
  rw [decide_eq_true_eq] at checked
  exact ⟨entry, slots_attributed sinOfZero reachable, checked⟩

/-- A spring expires and keeps its slot; a damper that gets its id then plays as a spring. -/
theorem damper_plays_as_spring :
    ∃ entry, (system sinOfZero).Reachable entry ∧
      (entry.states 0).effect = weakDamper ∧ (entry.states 0).flags.started = true ∧
        (entry.states 0).slot = 1 ∧ entry.effectTypes 1 = some .spring ∧
          (entry.slots 1).currentCmd[1]? = some 0x0b ∧ (entry.slots 1).cmdOp ≠ opStop := by
  rcases System.ReachableUnder.of_check (system sinOfZero) System.anyStep (.initial {})
    (springFirst ++ [.tick ⟨10, fun _ => 0⟩, .play 0 0 20, .upload 0 weakDamper 30, .play 0 1 40,
      .tick ⟨40, fun _ => 0⟩])
    (fun entry => (entry.states 0).effect = weakDamper ∧
      (entry.states 0).flags.started = true ∧ (entry.states 0).slot = 1 ∧
        entry.effectTypes 1 = some .spring ∧ (entry.slots 1).currentCmd[1]? = some 0x0b ∧
          (entry.slots 1).cmdOp ≠ opStop)
    ⟨{}, rfl⟩ (by decide +kernel) (System.runMeets_anyStep _ _) with ⟨entry, reachable, checked⟩
  rw [decide_eq_true_eq] at checked
  exact ⟨entry, reachable, checked⟩

end TrueForce.Classic
