import TrueForce.LogiFfb.Translators
import Mathlib.Data.List.Induction

/-!
# What the host asked for and what the kernel is handed

An upload hands the kernel all that was set on its block since the block was last free.
What was asked for is what was set since the last Create.  The two differ in what the
last Create found on the block, as far as it has not been set again.
-/

namespace TrueForce.LogiFfb

/-- What a Set report changes. -/
def EffectOp.change : EffectOp → EffectParams → EffectParams
  | .setEffect _ durationMs direction, params => { params with durationMs, direction }
  | .setConstant _ magnitude, params => { params with constantLevel := magnitude }
  | .setRamp _ start stop, params => { params with rampStart := start, rampEnd := stop }
  | .setPeriodic _ magnitude offset phase periodMs, params =>
      { params with
        periodicMagnitude := magnitude
        periodicOffset := offset
        periodicPhase := phase
        periodicPeriodMs := periodMs }
  | .setCondition _ center coeffPos coeffNeg satPos satNeg, params =>
      { params with
        condCenter := center
        condCoeffPos := coeffPos
        condCoeffNeg := coeffNeg
        condSatPos := satPos
        condSatNeg := satNeg }
  | .setEnvelope _ attackMs attackLevel fadeMs fadeLevel, params =>
      { params with attackMs, attackLevel, fadeMs, fadeLevel }
  | _, params => params

def changed (sets : List EffectOp) (params : EffectParams) : EffectParams :=
  sets.foldl (fun params op => op.change params) params

/-- The kind of the last Create of a block, and the default parameters with what was set since. -/
def ask (block : UInt8) (asked : Option (EffectKind × EffectParams)) (op : EffectOp) :
    Option (EffectKind × EffectParams) :=
  match op with
  | .create created kind => if created = block then some (kind, {}) else asked
  | op => if op.uploads = some block then asked.map (Prod.map id op.change) else asked

def asked (ops : List EffectOp) (block : UInt8) : Option (EffectKind × EffectParams) :=
  ops.foldl (ask block) none

/-- The parameters that one kind of Set report carries. -/
inductive ParamGroup where
  | effect
  | constant
  | ramp
  | periodic
  | condition
  | envelope
  deriving DecidableEq, Repr

def EffectOp.group : EffectOp → Option ParamGroup
  | .setEffect .. => some .effect
  | .setConstant .. => some .constant
  | .setRamp .. => some .ramp
  | .setPeriodic .. => some .periodic
  | .setCondition .. => some .condition
  | .setEnvelope .. => some .envelope
  | _ => none

/-- What an effect of the kind is made of. -/
def EffectKind.groups : EffectKind → List ParamGroup
  | .constant => [.effect, .constant, .envelope]
  | .ramp => [.effect, .ramp, .envelope]
  | .square | .sine | .triangle | .sawUp | .sawDown => [.effect, .periodic, .envelope]
  | .spring | .damper | .inertia | .friction => [.effect, .condition]

/-- The parameters of a group come to the same. -/
def ParamGroup.Agrees (params other : EffectParams) : ParamGroup → Prop
  | .effect => params.durationMs = other.durationMs ∧
      evdevDirection params.direction = evdevDirection other.direction
  | .constant => params.constantLevel = other.constantLevel
  | .ramp => params.rampStart = other.rampStart ∧ params.rampEnd = other.rampEnd
  | .periodic => params.periodicMagnitude = other.periodicMagnitude ∧
      params.periodicOffset = other.periodicOffset ∧ params.periodicPhase = other.periodicPhase ∧
      params.periodicPeriodMs = other.periodicPeriodMs
  | .condition => params.condCenter = other.condCenter ∧
      params.condCoeffPos = other.condCoeffPos ∧ params.condCoeffNeg = other.condCoeffNeg ∧
      params.condSatPos = other.condSatPos ∧ params.condSatNeg = other.condSatNeg
  | .envelope => params.attackMs = other.attackMs ∧ params.attackLevel = other.attackLevel ∧
      params.fadeMs = other.fadeMs ∧ params.fadeLevel = other.fadeLevel

variable {params other : EffectParams} {group : ParamGroup} {kind : EffectKind} {block : UInt8}

theorem toFfEffect_eq_iff (kind : EffectKind) (params other : EffectParams) (id : ℤ) :
    toFfEffect kind params id = toFfEffect kind other id ↔
      ∀ group ∈ kind.groups, group.Agrees params other := by
  cases kind <;>
    simp only [toFfEffect, typeAndUnion, EffectParams.envelope, EffectParams.periodic,
      EffectParams.condition, EffectKind.groups, List.forall_mem_cons, List.not_mem_nil,
      ParamGroup.Agrees, FfEffect.mk.injEq, FfReplay.mk.injEq, FfUnion.constant.injEq,
      FfUnion.ramp.injEq, FfUnion.periodic.injEq, FfUnion.condition.injEq, FfEnvelope.mk.injEq,
      true_and, and_true, false_implies, implies_true] <;>
    tauto

/-- A Set report makes its own group agree and leaves the others as they are. -/
theorem agrees_change (op : EffectOp) (group : ParamGroup) (params other : EffectParams) :
    group.Agrees (op.change params) (op.change other) ↔
      op.group = some group ∨ group.Agrees params other := by
  cases op <;> cases group <;>
    simp [EffectOp.change, EffectOp.group, ParamGroup.Agrees]

theorem agrees_changed (sets : List EffectOp) :
    group.Agrees (changed sets params) (changed sets other) ↔
      (∃ set ∈ sets, set.group = some group) ∨ group.Agrees params other := by
  induction sets generalizing params other with
  | nil => simp [changed]
  | cons set sets ih =>
      change group.Agrees (changed sets (set.change params)) (changed sets (set.change other)) ↔ _
      rw [ih, agrees_change, List.exists_mem_cons_iff]
      rw [or_assoc, or_left_comm]

/-- What has been set on a block since it was last free, how much of that the last Create found,
and the Set reports since then. -/
structure Story where
  kept : EffectParams := {}
  leftover : EffectParams := {}
  sets : List EffectOp := []

def Story.tell (block : UInt8) (story : Story) (op : EffectOp) : Story :=
  match op with
  | .create created _ =>
      if created = block then { story with leftover := story.kept, sets := [] } else story
  | .destroy freed => if freed = block then { story with kept := {} } else story
  | .deviceControl .reset => { story with kept := {} }
  | op =>
      if op.uploads = some block then
        { story with kept := op.change story.kept, sets := story.sets ++ [op] }
      else story

def story (block : UInt8) (ops : List EffectOp) : Story := ops.foldl (Story.tell block) {}

theorem Story.tell_of_uploads (story : Story) {op : EffectOp} {set : UInt8}
    (uploads : op.uploads = some set) :
    story.tell block op =
      if set = block then
        { story with kept := op.change story.kept, sets := story.sets ++ [op] }
      else story := by
  cases op <;> simp only [EffectOp.uploads, Option.some.injEq, reduceCtorEq] at uploads <;>
    subst uploads <;> simp only [Story.tell.eq_def, EffectOp.uploads, Option.some.injEq]

/-- Whatever the last Create found on the block and an effect of its kind is made of comes to the
same as the default or has been set again. -/
def SetAgain (ops : List EffectOp) (op : EffectOp) : Prop :=
  ∀ block ∈ op.uploads, ∀ kind ∈ blocksAfter ops block, ∀ group ∈ kind.groups,
    (∃ set ∈ (story block (ops ++ [op])).sets, set.group = some group) ∨
      group.Agrees (story block ops).leftover {}

def Call.uploaded : Call → Option FfEffect
  | .eviocsff effect _ => some effect
  | _ => none

def Fd.uploaded (fd : Fd) : List FfEffect := fd.calls.filterMap Call.uploaded

/-- Every effect that the operation hands to the kernel is what the host has asked for. -/
def HandsWhatWasAsked (sent : List (EffectOp × Answers)) (op : EffectOp) (answers : Answers) :
    Prop :=
  let sink := runSinkWorker .opened sent
  ∀ effect ∈ (sink.apply op answers).1.fd.uploaded.drop sink.fd.uploaded.length,
    ∃ block ∈ op.uploads, ∃ kind params,
      asked (sent.map Prod.fst ++ [op]) block = some (kind, params) ∧
        effect = toFfEffect kind params (sink.idOf block)

/-- The effect that an operation uploads. -/
def Sink.handed (sink : Sink) (op : EffectOp) : Option FfEffect :=
  op.uploads.bind fun block => (sink.kinds block).map fun kind =>
    toFfEffect kind (op.change ((sink.params block).getD {})) (sink.idOf block)

@[simp]
theorem Fd.uploaded_writeFf (fd : Fd) (code : FfCode) (value : ℤ) (writes : Bool) :
    (fd.writeFf code value writes).uploaded = fd.uploaded := by
  simp [Fd.uploaded, Call.uploaded]

theorem Fd.uploaded_foldl {call : Fd → ℤ → Fd} {logged : ℤ → Call}
    (logs : ∀ fd id, (call fd id).calls = fd.calls ++ [logged id])
    (other : ∀ id, (logged id).uploaded = none) (ids : List ℤ) (fd : Fd) :
    (ids.foldl call fd).uploaded = fd.uploaded := by
  have noUploads : (ids.map logged).filterMap Call.uploaded = [] := by
    simp [other]
  rw [Fd.uploaded, Fd.calls_foldl logs, List.filterMap_append, noUploads, List.append_nil,
    Fd.uploaded]

namespace Sink

variable {op : EffectOp}

theorem apply_of_uploads (sink : Sink) (answers : Answers) (uploads : op.uploads = some block) :
    sink.apply op answers = sink.set block op.change answers := by
  cases op <;> simp only [EffectOp.uploads, Option.some.injEq, reduceCtorEq] at uploads <;>
    subst uploads <;> rfl

theorem uploaded_drain (sink : Sink) (answers : Answers) :
    (sink.drain answers).fd.uploaded = sink.fd.uploaded :=
  Fd.uploaded_foldl (fun fd id => (rfl : (fd.eviocrmff id (answers.removes id)).calls =
    fd.calls ++ [.eviocrmff id (answers.removes id)])) (fun _ => rfl) _ _

theorem uploaded_set (sink : Sink) (block : UInt8) (change : EffectParams → EffectParams)
    (answers : Answers) :
    (sink.set block change answers).1.fd.uploaded = sink.fd.uploaded ++
      ((sink.kinds block).map fun kind =>
        toFfEffect kind (change ((sink.params block).getD {})) (sink.idOf block)).toList := by
  cases known : sink.kinds block with
  | none =>
      simp only [set, upload, show (sink.withParams block change).kinds block = none from known,
        Option.map_none, Option.toList_none, List.append_nil]
      rfl
  | some kind =>
      have effect : ((sink.withParams block change).withParams block id).effectFor block kind =
          toFfEffect kind (change ((sink.params block).getD {})) (sink.idOf block) := by
        simp [effectFor, withParams, idOf]
      rcases Fd.calls_eviocsff sink.fd
        (toFfEffect kind (change ((sink.params block).getD {})) (sink.idOf block))
        answers.upload with ⟨assigned, calls⟩
      have logged : (sink.set block change answers).1.fd.calls = sink.fd.calls ++
          [.eviocsff (toFfEffect kind (change ((sink.params block).getD {})) (sink.idOf block))
            assigned] := by
        simp only [set, upload,
          show (sink.withParams block change).kinds block = some kind from known, effect]
        split <;> exact calls
      simp [Fd.uploaded, logged, Call.uploaded]

theorem uploaded_apply (sink : Sink) (op : EffectOp) (answers : Answers) :
    (sink.apply op answers).1.fd.uploaded =
      sink.fd.uploaded ++ (sink.handed op).toList := by
  cases uploads : op.uploads with
  | some block =>
      rw [apply_of_uploads sink answers uploads, uploaded_set]
      simp only [handed, uploads, Option.bind_some]
  | none =>
      simp only [handed, uploads, Option.bind_none, Option.toList_none, List.append_nil]
      cases op with
      | create block kind => rfl
      | operation block start loopCount =>
          simp only [apply]
          split
          · rfl
          · exact Fd.uploaded_writeFf _ _ _ _
      | destroy block =>
          simp only [apply, destroy]
          split
          · simp [Fd.uploaded, Fd.eviocrmff, Call.uploaded]
          · rfl
      | gain value => exact Fd.uploaded_writeFf _ _ _ _
      | deviceControl op =>
          cases op with
          | enableActuators => exact Fd.uploaded_writeFf _ _ _ _
          | disableActuators => exact Fd.uploaded_writeFf _ _ _ _
          | stopAllEffects =>
              exact Fd.uploaded_foldl
                (fun fd id => Fd.calls_writeFf fd (.effect id) 0 (answers.writes (.effect id)))
                (fun _ => rfl) _ _
          | reset => exact (Fd.uploaded_writeFf _ _ _ _).trans (sink.uploaded_drain answers)
          | pause => rfl
          | «continue» => rfl
      | _ => simp only [EffectOp.uploads, reduceCtorEq] at uploads

theorem kept_upload (sink : Sink) (uploaded block : UInt8) (answers : Answers) :
    ((sink.upload uploaded answers).1.params block).getD {} = (sink.params block).getD {} := by
  have noted : ((sink.withParams uploaded id).params block).getD {} =
      (sink.params block).getD {} := by
    by_cases same : block = uploaded
    · simp [withParams, same]
    · simp [withParams, same]
  simp only [upload]
  split
  · rfl
  · split <;> exact noted

theorem kept_set (sink : Sink) (changed block : UInt8) (change : EffectParams → EffectParams)
    (answers : Answers) :
    ((sink.set changed change answers).1.params block).getD {} =
      if changed = block then change ((sink.params block).getD {})
      else (sink.params block).getD {} := by
  rw [set, kept_upload]
  by_cases same : changed = block
  · simp [withParams, same]
  · simp [withParams, same, Ne.symm same]

/-- The parameters of a block are what was set since it was last free. -/
theorem kept_apply (sink : Sink) (block : UInt8) (op : EffectOp) (answers : Answers)
    (story : Story) (kept : (sink.params block).getD {} = story.kept) :
    ((sink.apply op answers).1.params block).getD {} = (story.tell block op).kept := by
  cases uploads : op.uploads with
  | some set =>
      rw [apply_of_uploads sink answers uploads, kept_set, kept, story.tell_of_uploads uploads]
      split <;> rfl
  | none =>
      cases op with
      | create created kind =>
          have noted : ((sink.withParams created id).params block).getD {} = story.kept := by
            rw [← kept]
            by_cases same : block = created
            · simp [withParams, same]
            · simp [withParams, same]
          simp only [Story.tell.eq_def]
          split <;> exact noted
      | operation started start loopCount =>
          simp only [apply]
          split <;> exact kept
      | destroy freed =>
          simp only [apply, destroy, Story.tell.eq_def]
          by_cases same : freed = block
          · simp [same]
          · simp [same, Ne.symm same, kept]
      | gain value => exact kept
      | deviceControl op => cases op <;> first | exact kept | rfl
      | _ => simp only [EffectOp.uploads, reduceCtorEq] at uploads

end Sink

theorem kept_runSinkWorker (block : UInt8) (sent : List (EffectOp × Answers)) :
    ((runSinkWorker .opened sent).params block).getD {} =
      (story block (sent.map Prod.fst)).kept := by
  induction sent using List.reverseRecOn with
  | nil => rfl
  | append_singleton sent last ih =>
      simp only [runSinkWorker, story, List.map_append, List.map_cons, List.map_nil,
        List.foldl_concat]
      exact Sink.kept_apply _ block last.1 last.2 _ ih

theorem ask_of_uploads (wanted : Option (EffectKind × EffectParams)) {op : EffectOp}
    {set : UInt8} (uploads : op.uploads = some set) :
    ask block wanted op = if set = block then wanted.map (Prod.map id op.change) else wanted := by
  cases op <;> simp only [EffectOp.uploads, Option.some.injEq, reduceCtorEq] at uploads <;>
    subst uploads <;> simp only [ask, EffectOp.uploads, Option.some.injEq]

/-- What is kept and what was asked for come from the same reports. -/
def Story.Explains (story : Story) (kind : EffectKind)
    (wanted : Option (EffectKind × EffectParams)) : Prop :=
  wanted = some (kind, changed story.sets {}) ∧ story.kept = changed story.sets story.leftover

theorem Story.Explains.tell {story : Story} {wanted : Option (EffectKind × EffectParams)}
    {blocks : UInt8 → Option EffectKind} (op : EffectOp)
    (explains : ∀ kind, blocks block = some kind → story.Explains kind wanted)
    (known : enterOp blocks op block = some kind) :
    (story.tell block op).Explains kind (ask block wanted op) := by
  cases uploads : op.uploads with
  | some set =>
      have same : enterOp blocks op = blocks := by
        cases op <;> first | rfl | simp only [EffectOp.uploads, reduceCtorEq] at uploads
      rw [same] at known
      have ⟨asked, kept⟩ := explains kind known
      rw [story.tell_of_uploads uploads, ask_of_uploads wanted uploads]
      by_cases mine : set = block
      · simp [mine, Explains, asked, kept, changed]
      · simp only [mine, ↓reduceIte]
        exact ⟨asked, kept⟩
  | none =>
      cases op with
      | create created kind =>
          by_cases mine : created = block
          · simp only [enterOp_create, mine, Function.update_self, Option.some.injEq] at known
            simp [Story.tell.eq_def, ask, mine, Explains, changed, known]
          · simp only [enterOp_create, Function.update_of_ne (Ne.symm mine)] at known
            simp only [Story.tell.eq_def, ask, mine, ↓reduceIte]
            exact explains _ known
      | destroy freed =>
          by_cases mine : freed = block
          · simp [mine] at known
          · simp only [enterOp_destroy, Function.update_of_ne (Ne.symm mine)] at known
            simp only [Story.tell.eq_def, mine, ↓reduceIte]
            exact explains _ known
      | operation started start loopCount => exact explains _ known
      | gain value => exact explains _ known
      | deviceControl op =>
          cases op <;> first | exact explains _ known | simp at known
      | _ => simp only [EffectOp.uploads, reduceCtorEq] at uploads

theorem story_explains (block : UInt8) (ops : List EffectOp)
    (known : blocksAfter ops block = some kind) :
    (story block ops).Explains kind (asked ops block) := by
  induction ops using List.reverseRecOn generalizing kind with
  | nil => simp [blocksAfter] at known
  | append_singleton ops op ih =>
      simp only [blocksAfter, asked, story, List.foldl_concat] at known ih ⊢
      exact Story.Explains.tell op (fun _ known => ih known) known

theorem story_concat (block : UInt8) (ops : List EffectOp) (op : EffectOp) :
    story block (ops ++ [op]) = (story block ops).tell block op := by
  simp only [story, List.foldl_concat]

theorem asked_concat (ops : List EffectOp) (op : EffectOp) (block : UInt8) :
    asked (ops ++ [op]) block = ask block (asked ops block) op := by
  simp only [asked, List.foldl_concat]

theorem changed_concat (sets : List EffectOp) (op : EffectOp) (params : EffectParams) :
    changed (sets ++ [op]) params = op.change (changed sets params) := by
  simp only [changed, List.foldl_concat]

theorem handsWhatWasAsked_iff (sent : List (EffectOp × Answers)) (op : EffectOp)
    (answers : Answers) :
    HandsWhatWasAsked sent op answers ↔ SetAgain (sent.map Prod.fst) op := by
  simp only [HandsWhatWasAsked, Sink.uploaded_apply, List.drop_left, Option.mem_toList]
  generalize worker : runSinkWorker .opened sent = sink
  generalize done : sent.map Prod.fst = ops
  have kinds : sink.kinds = blocksAfter ops := by rw [← worker, ← done, kinds_runSinkWorker]
  cases uploads : op.uploads with
  | none => simp [Sink.handed, SetAgain, uploads]
  | some block =>
      cases known : blocksAfter ops block with
      | none => simp [Sink.handed, SetAgain, uploads, kinds, known]
      | some kind =>
          have told : story block (ops ++ [op]) = _ :=
            (story_concat block ops op).trans ((story block ops).tell_of_uploads uploads)
          have ⟨wanted, kept⟩ := story_explains block ops known
          have onBlock : (sink.params block).getD {} = (story block ops).kept := by
            rw [← worker, ← done, kept_runSinkWorker]
          have handed : sink.handed op =
              some (toFfEffect kind
                (changed ((story block ops).sets ++ [op]) (story block ops).leftover)
                (sink.idOf block)) := by
            simp only [Sink.handed, uploads, Option.bind_some, kinds, known, Option.map_some,
              onBlock, kept, changed_concat]
          have wantedNow : asked (ops ++ [op]) block =
              some (kind, changed ((story block ops).sets ++ [op]) {}) := by
            rw [asked_concat, ask_of_uploads _ uploads, wanted, changed_concat]
            simp
          rw [if_pos rfl] at told
          simp only [SetAgain, uploads, handed, Option.mem_def, Option.some.injEq, forall_eq',
            exists_eq_left', wantedNow, Prod.mk.injEq, known, told, ← agrees_changed]
          rw [← toFfEffect_eq_iff kind _ _ (sink.idOf block)]
          simp

/-- In every step of the run. -/
def UploadsWhatWasAsked (sent : List (EffectOp × Answers)) : Prop :=
  ∀ before op answers after, sent = before ++ (op, answers) :: after →
    HandsWhatWasAsked before op answers

def InheritsNothing (ops : List EffectOp) : Prop :=
  ∀ before op after, ops = before ++ op :: after → SetAgain before op

theorem upload_law (sent : List (EffectOp × Answers)) :
    (∀ op answers, HandsWhatWasAsked sent op answers ↔ SetAgain (sent.map Prod.fst) op) ∧
    (UploadsWhatWasAsked sent ↔ InheritsNothing (sent.map Prod.fst)) := by
  refine ⟨handsWhatWasAsked_iff sent, ?_⟩
  constructor
  · intro asAsked before op after parts
    obtain ⟨first, tail, rfl, rfl, last⟩ := List.map_eq_append_iff.mp parts
    obtain ⟨⟨op, answers⟩, rest, rfl, rfl, rfl⟩ := List.map_eq_cons_iff.mp last
    exact (handsWhatWasAsked_iff first op answers).mp (asAsked first op answers rest rfl)
  · intro clean before op answers after parts
    refine (handsWhatWasAsked_iff before op answers).mpr ?_
    apply clean _ _ (after.map Prod.fst)
    simp [parts]

/-- A level is set before the block is created. -/
def earlySetRun : List (EffectOp × Answers) :=
  [(.setConstant 1 8000, .granting 0 []), (.create 1 .constant, .granting 0 []),
    (.setEffect 1 1000 9000, .granting 0 [])]

theorem early_set_is_uploaded :
    ¬UploadsWhatWasAsked earlySetRun ∧
    (runSinkWorker .opened earlySetRun).fd.uploaded =
      [toFfEffect .constant { durationMs := 1000, direction := 9000, constantLevel := 8000 } (-1)] ∧
    asked (earlySetRun.map Prod.fst) 1 =
      some (.constant, { durationMs := 1000, direction := 9000 }) := by
  refine ⟨?_, by decide, by decide⟩
  intro asAsked
  have handed := asAsked (earlySetRun.take 2) (.setEffect 1 1000 9000) (.granting 0 []) [] rfl
  have again := (handsWhatWasAsked_iff _ _ _).mp handed 1 rfl .constant rfl .constant (by decide)
  rcases again with ⟨set, member, group⟩ | agrees
  · have last : set ∈ [EffectOp.setEffect 1 1000 9000] := member
    rw [List.mem_singleton.mp last] at group
    simp [EffectOp.group] at group
  · exact absurd (show (8000 : Int16) = 0 from agrees) (by decide)

end TrueForce.LogiFfb
