import TrueForce.Foundation.HandleMap
import TrueForce.Foundation.Transition
import TrueForce.LogiFfb.Sink
import Mathlib.Tactic.Common

/-!
# The books of the sink and the effects of the kernel

The sink holds an id for every block whose effect it has uploaded, and is the only
one to upload through its file.  Every id it holds is live, no two blocks hold the
same one, and a block with an id has a kind and parameters, through whatever calls
fail.

A removal that the kernel refuses is not tried again: the sink forgets the id, and
the effect stays live.  These stranded effects are the only ones that live without
being held.
-/

namespace TrueForce.LogiFfb

open TrueForce.Foundation TrueForce.Transition

inductive SinkEvent where
  | apply (op : EffectOp) (answers : Answers)
  | shutdown (answers : Answers)

/-- The block whose effect an operation uploads. -/
def EffectOp.uploads : EffectOp → Option UInt8
  | .setEffect block .. | .setConstant block .. | .setRamp block .. | .setPeriodic block ..
  | .setCondition block .. | .setEnvelope block .. => some block
  | _ => none

def KernelAdmits (sink : Sink) (op : EffectOp) (answers : Answers) : Prop :=
  ∀ block ∈ op.uploads, sink.fd.effects.Admits (sink.idOf block) answers.upload

instance (sink : Sink) (op : EffectOp) (answers : Answers) :
    Decidable (KernelAdmits sink op answers) :=
  inferInstanceAs (Decidable (∀ block ∈ op.uploads, _))

/-- The sink on a file of its own, under every pattern of answers. -/
def sinkSystem : System Sink SinkEvent where
  initial sink := sink = .opened
  step sink
    | .apply op answers =>
        if KernelAdmits sink op answers then some (sink.apply op answers).1 else none
    | .shutdown answers => some (sink.shutdown answers)

namespace Fd

def Live (fd : Fd) (id : ℤ) : Prop := 0 ≤ id ∧ id.toNat ∈ fd.effects.ids

instance (fd : Fd) (id : ℤ) : Decidable (fd.Live id) := inferInstanceAs (Decidable (_ ∧ _))

/-- The ids whose removal the kernel has refused. -/
def stranded (fd : Fd) : List ℤ :=
  fd.calls.filterMap fun
    | .eviocrmff id false => some id
    | _ => none

@[simp]
theorem live_writeFf (fd : Fd) (code : FfCode) (value : ℤ) (writes : Bool) (id : ℤ) :
    (fd.writeFf code value writes).Live id ↔ fd.Live id := by
  simp only [writeFf, Live]
  split
  · rfl
  · cases code <;> simp

@[simp]
theorem stranded_writeFf (fd : Fd) (code : FfCode) (value : ℤ) (writes : Bool) :
    (fd.writeFf code value writes).stranded = fd.stranded := by
  have logged : ({ fd with calls := fd.calls ++ [.writeFf code value writes] } : Fd).stranded =
      fd.stranded := by
    simp [stranded]
  simp only [writeFf]
  split
  · exact logged
  · cases code <;> exact logged

@[simp]
theorem live_eviocrmff (fd : Fd) (id other : ℤ) (removes : Bool) :
    (fd.eviocrmff id removes).Live other ↔ fd.Live other ∧ ¬(other = id ∧ removes) := by
  cases removes with
  | false => simp [eviocrmff, Live]
  | true =>
      simp only [eviocrmff, Live, true_and, and_true]
      by_cases nonneg : 0 ≤ id
      · simp only [nonneg, ↓reduceIte, EffectTable.ids_remove, List.mem_filter, decide_eq_true_eq]
        constructor
        · rintro ⟨otherNonneg, live, ne⟩
          exact ⟨⟨otherNonneg, live⟩, fun same => ne (by rw [same])⟩
        · rintro ⟨⟨otherNonneg, live⟩, ne⟩
          exact ⟨otherNonneg, live, fun same => ne (by omega)⟩
      · simp only [nonneg, ↓reduceIte, iff_self_and, and_imp]
        intro otherNonneg _ same
        exact nonneg (same ▸ otherNonneg)

@[simp]
theorem stranded_eviocrmff (fd : Fd) (id : ℤ) (removes : Bool) :
    (fd.eviocrmff id removes).stranded = fd.stranded ++ if removes then [] else [id] := by
  cases removes <;> simp [eviocrmff, stranded]

/-- A removal of many ids, refused for some. -/
theorem live_foldl_eviocrmff (ids : List ℤ) (fd : Fd) (removes : ℤ → Bool) (other : ℤ) :
    (ids.foldl (fun fd id => fd.eviocrmff id (removes id)) fd).Live other ↔
      fd.Live other ∧ ¬(other ∈ ids ∧ removes other) := by
  induction ids generalizing fd with
  | nil => simp
  | cons id ids ih =>
      rw [List.foldl_cons, ih, live_eviocrmff, List.mem_cons]
      by_cases same : other = id
      · subst same
        tauto
      · simp [same]

theorem stranded_foldl_eviocrmff (ids : List ℤ) (fd : Fd) (removes : ℤ → Bool) :
    (ids.foldl (fun fd id => fd.eviocrmff id (removes id)) fd).stranded =
      fd.stranded ++ ids.filter fun id => !removes id := by
  induction ids generalizing fd with
  | nil => simp
  | cons id ids ih =>
      rw [List.foldl_cons, ih, stranded_eviocrmff, List.filter_cons]
      cases removes id <;> simp

/-- An upload keeps the id it names, or is given one that was not live. -/
theorem eviocsff_cases (fd : Fd) (effect : FfEffect) (reply : UploadReply)
    (admitted : fd.effects.Admits effect.id reply) :
    (fd.eviocsff effect reply).1.stranded = fd.stranded ∧
      match (fd.eviocsff effect reply).2 with
      | none => ∀ id, (fd.eviocsff effect reply).1.Live id ↔ fd.Live id
      | some assigned =>
          0 ≤ assigned ∧ (effect.id < 0 → ¬fd.Live assigned) ∧
          (0 ≤ effect.id → assigned = effect.id ∧ fd.Live assigned) ∧
          ∀ id, (fd.eviocsff effect reply).1.Live id ↔ fd.Live id ∨ id = assigned := by
  cases reply with
  | refused => simp [eviocsff, EffectTable.upload, stranded, Live]
  | accepted fresh =>
      by_cases new : effect.id < 0
      · have notLive := (admitted new).2
        simp only [eviocsff, EffectTable.upload, new, ↓reduceIte, stranded, Live,
          List.filterMap_append, List.filterMap_cons_none, List.filterMap_nil, List.append_nil,
          EffectTable.ids, List.map_append, List.map_cons, List.map_nil, List.mem_append,
          List.mem_singleton, Int.toNat_natCast]
        refine ⟨trivial, by omega, ?_, by omega, ?_⟩
        · intro _ live
          exact notLive live.2
        · intro id
          constructor
          · rintro ⟨nonneg, live | same⟩
            · exact .inl ⟨nonneg, live⟩
            · exact .inr (by omega)
          · rintro (⟨nonneg, live⟩ | rfl)
            · exact ⟨nonneg, .inl live⟩
            · exact ⟨by omega, .inr (by simp)⟩
      · by_cases live : effect.id.toNat ∈ fd.effects.ids
        · simp only [eviocsff, EffectTable.upload, new, ↓reduceIte, live, stranded, Live,
            List.filterMap_append, List.filterMap_cons_none, List.filterMap_nil, List.append_nil,
            EffectTable.ids_update]
          refine ⟨trivial, by omega, by simp, fun nonneg => ⟨trivial, nonneg, trivial⟩, ?_⟩
          intro id
          constructor
          · exact .inl
          · rintro (held | rfl)
            · exact held
            · exact ⟨by omega, live⟩
        · simp [eviocsff, EffectTable.upload, new, live, stranded, Live]

end Fd

namespace Sink

open HandleMap

/-- What the sink notes about its effects agrees with what the kernel has. -/
structure BooksAgree (sink : Sink) : Prop where
  known : ∀ block, (sink.effects block).isSome →
    (sink.kinds block).isSome ∧ (sink.params block).isSome
  distinct : Distinct sink.effects
  live_iff : ∀ id, sink.fd.Live id ↔ Holds sink.effects id ∨ id ∈ sink.fd.stranded
  kept : ∀ id, Holds sink.effects id → id ∉ sink.fd.stranded

theorem mem_heldIds (sink : Sink) (id : ℤ) : id ∈ sink.heldIds ↔ Holds sink.effects id := by
  simp only [heldIds, List.mem_filterMap, Holds]
  constructor
  · rintro ⟨block, -, held⟩
    exact ⟨block, held⟩
  · rintro ⟨block, held⟩
    refine ⟨block, List.mem_map.mpr ⟨block.toNat, ?_, by simp⟩, held⟩
    exact List.mem_range.mpr block.toNat_lt

theorem BooksAgree.opened : BooksAgree .opened where
  known := by simp [Sink.opened]
  distinct := by simp [Sink.opened, Distinct]
  live_iff := by simp [Sink.opened, Holds, Fd.Live, Fd.stranded, EffectTable.ids]
  kept := by simp [Sink.opened, Holds]

/-- Steps that keep the ids, and forget no kind and no parameters. -/
theorem BooksAgree.of_same {sink next : Sink} (agree : sink.BooksAgree)
    (effects : next.effects = sink.effects)
    (kinds : ∀ block, (sink.kinds block).isSome → (next.kinds block).isSome)
    (params : ∀ block, (sink.params block).isSome → (next.params block).isSome)
    (live : ∀ id, next.fd.Live id ↔ sink.fd.Live id)
    (stranded : next.fd.stranded = sink.fd.stranded) : next.BooksAgree where
  known block held := by
    rw [effects] at held
    exact ⟨kinds block (agree.known block held).1, params block (agree.known block held).2⟩
  distinct := effects ▸ agree.distinct
  live_iff id := by
    rw [live, stranded, effects]
    exact agree.live_iff id
  kept id := by
    rw [stranded, effects]
    exact agree.kept id

theorem BooksAgree.withParams {sink : Sink} (agree : sink.BooksAgree) (block : UInt8)
    (change : EffectParams → EffectParams) : (sink.withParams block change).BooksAgree :=
  agree.of_same rfl (fun _ known => known) (fun _ => isSome_insert) (fun _ => Iff.rfl) rfl

theorem BooksAgree.writeFfEvent {sink : Sink} (agree : sink.BooksAgree) (code : FfCode)
    (value : ℤ) (answers : Answers) : (sink.writeFfEvent code value answers).1.BooksAgree := by
  refine BooksAgree.of_same agree ?_ ?_ ?_ (Fd.live_writeFf _ _ _ _) (Fd.stranded_writeFf _ _ _ _)
  · rfl
  · exact fun _ known => known
  · exact fun _ known => known

theorem BooksAgree.held_live {sink : Sink} (agree : sink.BooksAgree) {block : UInt8} {id : ℤ}
    (held : sink.effects block = some id) : sink.fd.Live id :=
  (agree.live_iff id).mpr (.inl ⟨block, held⟩)

section Assignment

variable {sink : Sink} {block : UInt8} {assigned : ℤ}

theorem BooksAgree.assigned_before (agree : sink.BooksAgree)
    (old : 0 ≤ sink.idOf block → assigned = sink.idOf block) (id : ℤ)
    (held : sink.effects block = some id) : id = assigned := by
  have nonneg := (agree.held_live held).1
  have same := old (by simpa [idOf, held] using nonneg)
  simpa [idOf, held] using same.symm

/-- An id that is given out was not live, or was the block's own. -/
theorem BooksAgree.held_or_new (agree : sink.BooksAgree)
    (new : sink.idOf block < 0 → ¬sink.fd.Live assigned)
    (old : 0 ≤ sink.idOf block → assigned = sink.idOf block) :
    ¬sink.fd.Live assigned ∨ sink.effects block = some assigned := by
  cases mine : sink.effects block with
  | none => exact .inl (new (by simp [idOf, mine]))
  | some id => exact .inr (by rw [agree.assigned_before old id mine])

/-- A block is given the id of an effect that was uploaded for it. -/
theorem BooksAgree.assign (agree : sink.BooksAgree)
    (known : (sink.kinds block).isSome ∧ (sink.params block).isSome) {fd : Fd}
    (stranded : fd.stranded = sink.fd.stranded)
    (new : sink.idOf block < 0 → ¬sink.fd.Live assigned)
    (old : 0 ≤ sink.idOf block → assigned = sink.idOf block)
    (live : ∀ id, fd.Live id ↔ sink.fd.Live id ∨ id = assigned) :
    BooksAgree { sink with fd, effects := Function.update sink.effects block (some assigned) } := by
  have holds := holds_insert (agree.assigned_before old)
  have heldOrNew := agree.held_or_new new old
  refine ⟨?_, agree.distinct.insert ?_, ?_, ?_⟩
  · intro other held
    by_cases same : other = block
    · exact same ▸ known
    · simp only [Function.update_of_ne same] at held
      exact agree.known other held
  · intro other held
    rcases heldOrNew with new | mine
    · exact absurd (agree.held_live held) new
    · exact agree.distinct other block assigned held mine
  · intro id
    simp only [holds, live, stranded, agree.live_iff]
    tauto
  · intro id held
    simp only [stranded]
    rcases (holds id).mp held with held | rfl
    · exact agree.kept id held
    · rcases heldOrNew with new | mine
      · exact fun member => new ((agree.live_iff _).mpr (.inr member))
      · exact agree.kept _ ⟨block, mine⟩

end Assignment

theorem BooksAgree.upload {sink : Sink} (agree : sink.BooksAgree) (block : UInt8)
    (answers : Answers)
    (admitted : sink.fd.effects.Admits (sink.idOf block) answers.upload) :
    (sink.upload block answers).1.BooksAgree := by
  simp only [Sink.upload]
  cases known : sink.kinds block with
  | none => exact agree
  | some kind =>
      have kept := agree.withParams block id
      have hasKind : (sink.kinds block).isSome := by rw [known]; rfl
      generalize ready : sink.withParams block id = sink' at kept
      have outcome := Fd.eviocsff_cases sink'.fd (sink'.effectFor block kind) answers.upload
        (by subst ready; exact admitted)
      rcases outcome with ⟨stranded, outcome⟩
      simp only
      cases assigned : (sink'.fd.eviocsff (sink'.effectFor block kind) answers.upload).2 with
      | none =>
          simp only [assigned] at outcome
          refine BooksAgree.of_same kept rfl ?_ ?_ outcome stranded
          · exact fun _ known => known
          · exact fun _ known => known
      | some id =>
          simp only [assigned] at outcome
          rcases outcome with ⟨-, new, old, live⟩
          apply kept.assign _ stranded new (fun nonneg => (old nonneg).1) live
          subst ready
          exact ⟨hasKind, by simp [Sink.withParams]⟩

theorem BooksAgree.drain {sink : Sink} (agree : sink.BooksAgree) (answers : Answers) :
    (sink.drain answers).BooksAgree where
  known := by simp [Sink.drain]
  distinct := by simp [Sink.drain, Distinct]
  live_iff id := by
    have apart := agree.kept id
    have none_held : ¬Holds (sink.drain answers).effects id := by simp [Sink.drain, Holds]
    simp only [none_held, false_or]
    simp only [Sink.drain, Fd.live_foldl_eviocrmff, Fd.stranded_foldl_eviocrmff, agree.live_iff,
      mem_heldIds, List.mem_append, List.mem_filter]
    cases answers.removes id <;> simp <;> tauto
  kept id := by simp [Sink.drain, Holds]

theorem BooksAgree.destroy {sink : Sink} (agree : sink.BooksAgree) (block : UInt8)
    (answers : Answers) : (sink.destroy block answers).BooksAgree := by
  have holds := holds_erase agree.distinct block
  refine ⟨?_, agree.distinct.erase, ?_, ?_⟩
  · intro other held
    by_cases same : other = block
    · subst same
      simp [Sink.destroy] at held
    · simp only [Sink.destroy, Function.update_of_ne same] at held ⊢
      exact agree.known other held
  · intro id
    have apart := agree.kept id
    simp only [Sink.destroy, holds]
    cases mine : sink.effects block with
    | none => simp [agree.live_iff]
    | some old =>
        have held : Holds sink.effects old := ⟨block, mine⟩
        simp only [Fd.live_eviocrmff, Fd.stranded_eviocrmff, agree.live_iff, List.mem_append]
        by_cases same : id = old
        · subst same
          cases answers.removes id <;> simp [held, apart held]
        · cases answers.removes old <;> simp [same, Ne.symm same]
  · intro id held
    rcases (holds id).mp held with ⟨held, ne⟩
    simp only [Sink.destroy]
    cases mine : sink.effects block with
    | none => exact agree.kept id held
    | some old =>
        have other : id ≠ old := fun same => ne (same ▸ mine)
        cases removed : answers.removes old <;> simp [removed, agree.kept id held, other]

theorem BooksAgree.stopAll {sink : Sink} (agree : sink.BooksAgree) (answers : Answers) :
    (sink.stopAll answers).BooksAgree := by
  have same : ∀ (ids : List ℤ) (fd : Fd),
      (∀ id, (ids.foldl (fun fd id =>
        fd.writeFf (.effect id) 0 (answers.writes (.effect id))) fd).Live id ↔ fd.Live id) ∧
      (ids.foldl (fun fd id =>
        fd.writeFf (.effect id) 0 (answers.writes (.effect id))) fd).stranded = fd.stranded := by
    intro ids
    induction ids with
    | nil => simp
    | cons id ids ih =>
        intro fd
        have rest := ih (fd.writeFf (.effect id) 0 (answers.writes (.effect id)))
        simpa using rest
  refine BooksAgree.of_same agree rfl ?_ ?_ (same _ _).1 (same _ _).2
  · exact fun _ known => known
  · exact fun _ known => known

theorem BooksAgree.set {sink : Sink} (agree : sink.BooksAgree) (block : UInt8)
    (change : EffectParams → EffectParams) (answers : Answers)
    (admitted : sink.fd.effects.Admits (sink.idOf block) answers.upload) :
    (sink.set block change answers).1.BooksAgree :=
  (agree.withParams block change).upload block answers admitted

theorem BooksAgree.deviceControl {sink : Sink} (agree : sink.BooksAgree) (op : DeviceControlOp)
    (answers : Answers) : (sink.deviceControl op answers).1.BooksAgree := by
  cases op with
  | enableActuators => exact agree.writeFfEvent _ _ _
  | disableActuators => exact agree.writeFfEvent _ _ _
  | stopAllEffects => exact agree.stopAll answers
  | reset => exact (agree.drain answers).writeFfEvent _ _ _
  | pause => exact agree
  | «continue» => exact agree

theorem BooksAgree.apply {sink : Sink} (agree : sink.BooksAgree) (op : EffectOp)
    (answers : Answers) (admitted : KernelAdmits sink op answers) :
    (sink.apply op answers).1.BooksAgree := by
  cases op with
  | create block kind =>
      refine BooksAgree.of_same (agree.withParams block id) rfl ?_ ?_ (fun _ => Iff.rfl) rfl
      · exact fun _ => isSome_insert
      · exact fun _ known => known
  | setEffect block durationMs direction =>
      exact agree.set block _ answers (admitted block rfl)
  | setConstant block magnitude => exact agree.set block _ answers (admitted block rfl)
  | setRamp block start stop => exact agree.set block _ answers (admitted block rfl)
  | setPeriodic block magnitude offset phase periodMs =>
      exact agree.set block _ answers (admitted block rfl)
  | setCondition block center coeffPos coeffNeg satPos satNeg =>
      exact agree.set block _ answers (admitted block rfl)
  | setEnvelope block attackMs attackLevel fadeMs fadeLevel =>
      exact agree.set block _ answers (admitted block rfl)
  | operation block start loopCount =>
      simp only [Sink.apply]
      cases sink.effects block with
      | none => exact agree
      | some id => exact agree.writeFfEvent _ _ _
  | destroy block => exact agree.destroy block answers
  | gain value => exact agree.writeFfEvent _ _ _
  | deviceControl op => exact agree.deviceControl op answers

theorem BooksAgree.of_reachable {sink : Sink} (reachable : sinkSystem.Reachable sink) :
    sink.BooksAgree := by
  apply System.ReachableUnder.invariant reachable
  · rintro start rfl
    exact BooksAgree.opened
  · intro current event next agree _ stepped
    cases event with
    | apply op answers =>
        simp only [sinkSystem, Option.ite_none_right_eq_some, Option.some.injEq] at stepped
        rcases stepped with ⟨admitted, rfl⟩
        exact agree.apply op answers admitted
    | shutdown answers =>
        simp only [sinkSystem, Option.some.injEq] at stepped
        subst stepped
        exact (agree.drain answers).writeFfEvent _ _ _

/-- The sink holds and knows nothing. -/
def Cleared (sink : Sink) : Prop :=
  ∀ block, sink.effects block = none ∧ sink.kinds block = none ∧ sink.params block = none

theorem drain_cleared (sink : Sink) (answers : Answers) : (sink.drain answers).Cleared :=
  fun _ => ⟨rfl, rfl, rfl⟩

end Sink

open Sink HandleMap

theorem sink_accounts_for_live_effects {sink : Sink} (reachable : sinkSystem.Reachable sink) :
    (∀ block, (sink.effects block).isSome →
      (sink.kinds block).isSome ∧ (sink.params block).isSome) ∧
    Distinct sink.effects ∧
    (∀ id, sink.fd.Live id ↔ Holds sink.effects id ∨ id ∈ sink.fd.stranded) ∧
    (∀ id, Holds sink.effects id → id ∉ sink.fd.stranded) ∧
    (∀ answers, (sink.shutdown answers).Cleared ∧
      (sink.apply (.deviceControl .reset) answers).1.Cleared) := by
  have agree := BooksAgree.of_reachable reachable
  refine ⟨agree.known, agree.distinct, agree.live_iff, agree.kept, ?_⟩
  intro answers
  exact ⟨sink.drain_cleared answers, sink.drain_cleared answers⟩

/-- A kernel that gives the next upload this id and refuses the removals named. -/
def Answers.granting (fresh : ℕ) (refused : List ℤ) : Answers where
  upload := .accepted fresh
  removes id := id ∉ refused
  writes _ := true

/-- Two blocks are uploaded and the first is freed, but the kernel keeps its effect. -/
def strandedRun : List SinkEvent :=
  [.apply (.create 1 .constant) (.granting 0 []),
    .apply (.setConstant 1 8000) (.granting 0 []),
    .apply (.create 2 .spring) (.granting 0 []),
    .apply (.setEffect 2 1000 9000) (.granting 1 []),
    .apply (.setConstant 1 (-8000)) (.granting 0 []),
    .apply (.destroy 1) (.granting 0 [0])]

theorem two_blocks_accounted_for :
    ∃ sink, sinkSystem.Reachable sink ∧ sink.effects 2 = some 1 ∧ sink.fd.stranded = [0] ∧
      (∀ id, sink.fd.Live id ↔ Holds sink.effects id ∨ id ∈ sink.fd.stranded) := by
  obtain ⟨sink, reachable, seen⟩ := System.ReachableUnder.of_check sinkSystem System.anyStep
    .opened strandedRun
    (fun sink => decide (sink.effects 2 = some 1 ∧ sink.fd.stranded = [0])) rfl
    (by decide +kernel) (System.runMeets_anyStep _ _)
  simp only [decide_eq_true_eq] at seen
  exact ⟨sink, reachable, seen.1, seen.2, (sink_accounts_for_live_effects reachable).2.2.1⟩

theorem refused_removal_strands_effect :
    ∃ sink, sinkSystem.Reachable sink ∧ sink.fd.Live 0 ∧ ¬Holds sink.effects 0 := by
  obtain ⟨sink, reachable, seen⟩ := System.ReachableUnder.of_check sinkSystem System.anyStep
    .opened strandedRun (fun sink => decide (sink.fd.Live 0 ∧ 0 ∉ sink.heldIds)) rfl
    (by decide +kernel) (System.runMeets_anyStep _ _)
  simp only [decide_eq_true_eq, mem_heldIds] at seen
  exact ⟨sink, reachable, seen⟩

end TrueForce.LogiFfb
