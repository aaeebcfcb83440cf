import TrueForce.LogiFfb.Handshake
import TrueForce.Pid.Slots

/-!
# One host, two translators

The kernel driver and `logi-ffb` both present the PID collection to a host and
translate its reports into evdev effects.  Here the same Create New Effect and Set
Effect reports are fed to both, and the two states are related: the driver's slot
and the sink's block remember what the reports said, each in its own way.

A Create is fed to both if its type is one that `logi-ffb` supports, so that both
count it, and as long as there is a block for it; a Set Effect if it is complete,
names a block that was created, and the real wheel takes the effect.
-/

namespace TrueForce.LogiFfb

open TrueForce.Transition
open TrueForce.Pid (memory le16 sle16)

/-- What a Set Effect said about its block. -/
structure Setting where
  type : UInt8
  durationMs : UInt16
  direction : UInt16
  deriving DecidableEq, Repr

/-- What the host has said about a block. -/
structure Block where
  type : UInt8
  kind : EffectKind
  setting : Option Setting
  deriving DecidableEq, Repr

def blockAt (blocks : List Block) (index : UInt8) : Option Block :=
  if index = 0 then none else blocks[index.toNat - 1]?

def Setting.ofReport (report : List UInt8) : Setting where
  type := memory report 2
  durationMs := le16 (memory report) 3
  direction := le16 (memory report) 14

namespace Block

/-- The driver's record of a block. -/
def slot (block : Block) : Pid.Slot :=
  match block.setting with
  | none => { allocated := true, type := block.type, durationMs := 0x7FFF, direction := 0 }
  | some setting =>
      { allocated := true
        type := setting.type
        durationMs := setting.durationMs
        direction := setting.direction }

/-- The sink's record of a block. -/
def params (block : Block) : EffectParams :=
  match block.setting with
  | none => {}
  | some setting =>
      { durationMs :=
          if setting.durationMs = pidDurationInfinite then 0 else setting.durationMs
        direction := setting.direction }

def withSetting (setting : Setting) (block : Block) : Block :=
  { block with setting := some setting }

end Block

/-- The worker catches up with what the proxy makes of an event. -/
def relay (sink : Sink) (proxy : Proxy) (event : Event) (answers : Answers) : Sink :=
  runSinkWorker sink
    (((proxy.receive event).1.sent.drop proxy.sent.length).map fun op => (op, answers))

/-- One output report, decoded and applied. -/
def Sink.perform (sink : Sink) (report : List UInt8) (answers : Answers) : Sink × Result :=
  match decode report with
  | some op => sink.apply op answers
  | none => (sink, .ok ())

structure Session where
  kernel : Pid.State
  proxy : Proxy
  sink : Sink
  /-- What the host has said so far. -/
  blocks : List Block

inductive SetupEvent where
  | create (type : UInt8) (answers : Answers)
  | setEffect (report : List UInt8) (answers : Answers)

namespace Session

/-- The driver's force feedback is up and `inject_pid` lets it act. -/
def start : Session where
  kernel := { Pid.State.installed true with ffUp := true }
  proxy := .new
  sink := .opened
  blocks := []

def create (session : Session) (type : UInt8) (kind : EffectKind) (answers : Answers) : Session where
  kernel :=
    (session.kernel.receive (.rawRequest Pid.reportCreateNewEffect [0x54, type] .feature
      .setReport)).1
  proxy := (session.proxy.receive (.setReport 0x54 [0x54, type])).1
  sink := relay session.sink session.proxy (.setReport 0x54 [0x54, type]) answers
  blocks := session.blocks ++ [{ type, kind, setting := none }]

def setEffect (session : Session) (report : List UInt8) (answers : Answers) : Session where
  kernel := (session.kernel.receive (.outputReport report)).1
  proxy := (session.proxy.receive (.output report)).1
  sink := relay session.sink session.proxy (.output report) answers
  blocks := session.blocks.modify ((memory report 1).toNat - 1)
    (Block.withSetting (.ofReport report))

/-- A complete Set Effect for a block that was created. -/
def Sets (session : Session) (report : List UInt8) : Prop :=
  memory report 0 = reportSetEffect ∧ 18 ≤ report.length ∧
    (blockAt session.blocks (memory report 1)).isSome

instance (session : Session) (report : List UInt8) : Decidable (session.Sets report) :=
  inferInstanceAs (Decidable (_ ∧ _ ∧ _))

end Session

def sessionSystem : System Session SetupEvent where
  initial session := session = .start
  step session
    | .create type answers =>
        match effectKindFromTypeByte type with
        | some kind =>
            if session.blocks.length < blockIndexMax then some (session.create type kind answers)
            else none
        | none => none
    | .setEffect report answers =>
        if session.Sets report ∧ (session.sink.perform report answers).2.isOk then
          some (session.setEffect report answers)
        else none

/-- What the driver and the sink remember is what the host has said. -/
structure Paired (session : Session) : Prop where
  few : session.blocks.length ≤ blockIndexMax
  up : session.kernel.ffUp = true ∧ session.kernel.actuate = true
  slots : ∀ slot, session.kernel.slots slot =
    (session.blocks[slot]?.map Block.slot).getD
      { allocated := false, type := 0, durationMs := 0, direction := 0 }
  next : session.proxy.nextBlock.toNat = session.blocks.length + 1
  kinds : ∀ index, session.sink.kinds index = (blockAt session.blocks index).map Block.kind
  params : ∀ index, session.sink.params index = (blockAt session.blocks index).map Block.params
  effects : ∀ index, (session.sink.effects index).isSome =
    (blockAt session.blocks index).any fun block => block.setting.isSome

theorem Paired.kind_eq {session : Session} (paired : Paired session) {index : UInt8} {block : Block}
    (found : blockAt session.blocks index = some block) :
    session.sink.kinds index = some block.kind := by
  rw [paired.kinds, found]
  rfl

theorem Paired.params_eq {session : Session} (paired : Paired session) {index : UInt8}
    {block : Block} (found : blockAt session.blocks index = some block) :
    session.sink.params index = some block.params := by
  rw [paired.params, found]
  rfl

theorem Paired.start : Paired .start where
  few := Nat.zero_le _
  up := ⟨rfl, rfl⟩
  slots _ := rfl
  next := rfl
  kinds index := by simp [Session.start, Sink.opened, blockAt]
  params index := by simp [Session.start, Sink.opened, blockAt]
  effects index := by simp [Session.start, Sink.opened, blockAt]

section Blocks

variable {blocks : List Block}

theorem blockAt_append (block : Block) (index : UInt8) :
    blockAt (blocks ++ [block]) index =
      if index.toNat = blocks.length + 1 then some block else blockAt blocks index := by
  simp only [blockAt]
  by_cases zero : index = 0
  · subst zero
    simp
  · have pos : index.toNat ≠ 0 := fun toNat => zero (UInt8.toNat_inj.mp toNat)
    simp only [zero, ↓reduceIte]
    split
    · next last => simp [last]
    · next other =>
        by_cases inside : index.toNat - 1 < blocks.length
        · rw [List.getElem?_append_left inside]
        · rw [List.getElem?_eq_none (by simp; omega), List.getElem?_eq_none (by omega)]

theorem blockAt_modify {index : UInt8} (nonzero : index ≠ 0) (change : Block → Block)
    (other : UInt8) :
    blockAt (blocks.modify (index.toNat - 1) change) other =
      if other = index then (blockAt blocks index).map change else blockAt blocks other := by
  simp only [blockAt]
  have pos : index.toNat ≠ 0 := fun toNat => nonzero (UInt8.toNat_inj.mp toNat)
  by_cases zero : other = 0
  · subst zero
    simp [Ne.symm nonzero]
  · have otherPos : other.toNat ≠ 0 := fun toNat => zero (UInt8.toNat_inj.mp toNat)
    simp only [zero, nonzero, ↓reduceIte, List.getElem?_modify]
    by_cases same : other = index
    · subst same
      simp
    · have apart : index.toNat - 1 ≠ other.toNat - 1 := by
        intro equal
        exact same (UInt8.toNat_inj.mp (by omega))
      simp [same, apart]

theorem blockAt_some {index : UInt8} {block : Block} (found : blockAt blocks index = some block) :
    1 ≤ index.toNat ∧ index.toNat ≤ blocks.length ∧ blocks[index.toNat - 1]? = some block := by
  simp only [blockAt, Option.ite_none_left_eq_some] at found
  rcases found with ⟨nonzero, found⟩
  have pos : index.toNat ≠ 0 := fun toNat => nonzero (UInt8.toNat_inj.mp toNat)
  have inside := (List.getElem?_eq_some_iff.mp found).1
  exact ⟨by omega, by omega, found⟩

end Blocks

section Reading

variable {report : List UInt8} {index : ℕ}

theorem getElem?_memory (inside : index < report.length) :
    report[index]? = some (memory report index) := by
  simp [memory, List.getD_eq_getElem?_getD, List.getElem?_eq_getElem inside]

theorem u16At_memory (inside : index + 1 < report.length) :
    u16At report index = some (le16 (memory report) index) := by
  simp only [u16At, getElem?_memory inside, getElem?_memory (Nat.lt_of_succ_lt inside)]
  rfl

theorem i16At_memory (inside : index + 1 < report.length) :
    i16At report index = some (sle16 (memory report) index) := by
  rw [i16At, u16At_memory inside]
  rfl

theorem head?_memory (long : 0 < report.length) : report.head? = some (memory report 0) := by
  rw [List.head?_eq_getElem?, getElem?_memory long]

theorem decode_setEffect (id : memory report 0 = reportSetEffect) (long : 18 ≤ report.length) :
    decode report = some (.setEffect (memory report 1)
      (if le16 (memory report) 3 = pidDurationInfinite then 0 else le16 (memory report) 3)
      (le16 (memory report) 14)) := by
  simp only [decode, head?_memory (Nat.zero_lt_of_lt long), id]
  simp only [decodeSetEffect, getElem?_memory (show 1 < report.length by omega),
    u16At_memory (show 3 + 1 < report.length by omega),
    u16At_memory (show 14 + 1 < report.length by omega)]
  rfl

end Reading

theorem relay_output (sink : Sink) (proxy : Proxy) (report : List UInt8) (answers : Answers) :
    relay sink proxy (.output report) answers = (sink.perform report answers).1 := by
  simp only [relay, Proxy.receive, Proxy.dispatchDecoded, Sink.perform]
  cases decode report with
  | none => simp [runSinkWorker]
  | some op =>
      simp only [Proxy.dispatch]
      split <;> simp [runSinkWorker]

theorem receive_create {type : UInt8} {kind : EffectKind}
    (known : effectKindFromTypeByte type = some kind) (proxy : Proxy) :
    (proxy.receive (.setReport 0x54 [0x54, type])).1 =
      { nextBlock := proxy.nextBlock + 1
        lastCreatedBlock := proxy.nextBlock
        sent := proxy.sent ++ [.create proxy.nextBlock kind] } := by
  have created : Proxy.createdKind [0x54, type] = some kind := known
  simp [Proxy.receive, Proxy.createNewEffect, created, assignBlock, Proxy.dispatch]

theorem relay_create {type : UInt8} {kind : EffectKind}
    (known : effectKindFromTypeByte type = some kind) (sink : Sink) (proxy : Proxy)
    (answers : Answers) :
    relay sink proxy (.setReport 0x54 [0x54, type]) answers =
      (sink.apply (.create proxy.nextBlock kind) answers).1 := by
  simp [relay, receive_create known, runSinkWorker]

namespace Sink

variable {sink : Sink} {block : UInt8} {answers : Answers}

theorem params_set {kind : EffectKind} (known : sink.kinds block = some kind)
    (change : EffectParams → EffectParams) :
    (sink.set block change answers).1.params =
      Function.update sink.params block (some (change ((sink.params block).getD {}))) := by
  have entry : ((sink.withParams block change).withParams block id).params =
      Function.update sink.params block (some (change ((sink.params block).getD {}))) := by
    simp [withParams]
  simp only [set, upload, withParams, known]
  split <;> exact entry

/-- An accepted upload leaves the block with an id. -/
theorem effects_set (change : EffectParams → EffectParams)
    (accepted : (sink.set block change answers).2.isOk = true) :
    ∃ id, (sink.set block change answers).1.effects =
      Function.update sink.effects block (some id) := by
  cases known : (sink.withParams block change).kinds block with
  | none => exact absurd accepted (by simp [set, upload, known, Except.isOk, Except.toBool])
  | some kind =>
      simp only [set, upload, known] at accepted ⊢
      split at accepted
      · next id assigned => exact ⟨id, rfl⟩
      · exact absurd accepted (by simp [Except.isOk, Except.toBool])

end Sink

namespace Paired

variable {session : Session}

theorem allocated_iff (paired : Paired session) (slot : ℕ) :
    (session.kernel.slots slot).allocated = true ↔ slot < session.blocks.length := by
  rw [paired.slots]
  by_cases inside : slot < session.blocks.length
  · simp only [List.getElem?_eq_getElem inside, Option.map_some, Option.getD_some, inside, iff_true]
    simp only [Block.slot]
    split <;> rfl
  · simp [inside]

theorem allocSlot (paired : Paired session) (room : session.blocks.length < blockIndexMax)
    (type : UInt8) :
    session.kernel.allocSlot type = some (session.blocks.length,
      session.kernel.updateSlot session.blocks.length fun _ =>
        { allocated := true, type, durationMs := 0x7FFF, direction := 0 }) := by
  have first : (List.range Pid.maxEffects).find?
      (fun slot => !(session.kernel.slots slot).allocated) = some session.blocks.length := by
    rw [List.find?_range_eq_some]
    simp only [blockIndexMax] at room
    refine ⟨?_, List.mem_range.mpr (by simp only [Pid.maxEffects]; omega), ?_⟩
    · simp [← Bool.not_eq_true, paired.allocated_iff]
    · intro slot before
      simpa [paired.allocated_iff] using before
  simp [Pid.State.allocSlot, first]

theorem kernel_create (paired : Paired session) (room : session.blocks.length < blockIndexMax)
    (type : UInt8) :
    (session.kernel.receive (.rawRequest Pid.reportCreateNewEffect [0x54, type] .feature
      .setReport)).1 =
      { session.kernel.updateSlot session.blocks.length fun _ =>
          { allocated := true, type, durationMs := 0x7FFF, direction := 0 } with
        lastBlockLoadId := session.blocks.length + 1
        lastBlockLoadStatus := 1 } := by
  have byte : memory [0x54, type] 1 = type := rfl
  simp [Pid.State.receive, Pid.State.rawRequest, Pid.State.createNewEffect, byte,
    paired.allocSlot room]

/-- A block index that was created is a slot of the driver. -/
theorem slotOf_eq (paired : Paired session) {index : UInt8} {block : Block}
    (found : blockAt session.blocks index = some block) :
    Pid.slotOf index = some (index.toNat - 1) := by
  have bounds := blockAt_some found
  have few := paired.few
  simp only [blockIndexMax] at few
  have inRange : ¬(index.toNat < 1 ∨ index.toNat > Pid.maxEffects) := by
    simp only [Pid.maxEffects]
    omega
  simp only [Pid.slotOf, inRange, ↓reduceIte]

theorem kernel_setEffect (paired : Paired session) {report : List UInt8}
    (sets : session.Sets report) :
    (session.kernel.receive (.outputReport report)).1 =
      session.kernel.setEffect (memory report) ((memory report 1).toNat - 1) := by
  rcases sets with ⟨id, long, created⟩
  rcases Option.isSome_iff_exists.mp created with ⟨block, found⟩
  have slot := paired.slotOf_eq found
  have number : memory report 0 = 0x51 := id
  have pid : Pid.State.isPidReport 0x51 = true := by decide
  have atLeast : ¬report.length < 2 := by omega
  have complete : ¬report.length < 18 := by omega
  have nonempty : report.length ≥ 1 := by omega
  simp [Pid.State.receive, Pid.State.outputReport, Pid.State.handleOutput, number, pid, atLeast,
    complete, nonempty, slot, Pid.reportSetEffect, Pid.reportDeviceControl, Pid.reportDeviceGain]

theorem create (paired : Paired session) (room : session.blocks.length < blockIndexMax)
    {type : UInt8} {kind : EffectKind} (known : effectKindFromTypeByte type = some kind)
    (answers : Answers) : Paired (session.create type kind answers) := by
  have blockOf : ∀ index : UInt8, index.toNat = session.blocks.length + 1 ↔
      index = session.proxy.nextBlock := by
    intro index
    rw [← paired.next, UInt8.toNat_inj]
  have unused : blockAt session.blocks session.proxy.nextBlock = none := by
    cases found : blockAt session.blocks session.proxy.nextBlock with
    | none => rfl
    | some block =>
        have bounds := blockAt_some found
        rw [paired.next] at bounds
        omega
  refine ⟨?_, ?_, ?_, ?_, ?_, ?_, ?_⟩
  · simp only [Session.create, List.length_append, List.length_singleton]
    exact room
  · simp only [Session.create, paired.kernel_create room]
    exact paired.up
  · intro slot
    simp only [Session.create, paired.kernel_create room, Pid.State.updateSlot]
    by_cases last : slot = session.blocks.length
    · subst last
      simp [Block.slot]
    · rw [Function.update_of_ne last, paired.slots]
      congr 2
      by_cases inside : slot < session.blocks.length
      · rw [List.getElem?_append_left inside]
      · rw [List.getElem?_eq_none (by omega), List.getElem?_eq_none (by simp; omega)]
  · have fits : session.proxy.nextBlock.toNat + 1 < 256 := by
      rw [paired.next]
      simp only [blockIndexMax] at room
      omega
    simp only [Session.create, receive_create known, List.length_append, List.length_singleton]
    rw [UInt8.toNat_add, UInt8.toNat_one, Nat.mod_eq_of_lt fits, paired.next]
  · intro index
    simp only [Session.create, relay_create known, Sink.apply, blockAt_append, blockOf]
    by_cases same : index = session.proxy.nextBlock
    · simp [same]
    · simp [same, paired.kinds]
  · intro index
    simp only [Session.create, relay_create known, Sink.apply, Sink.withParams, blockAt_append,
      blockOf]
    by_cases same : index = session.proxy.nextBlock
    · simp [same, paired.params, unused, Block.params]
    · simp [same, paired.params]
  · intro index
    simp only [Session.create, relay_create known, Sink.apply, Sink.withParams, blockAt_append,
      blockOf, paired.effects]
    by_cases same : index = session.proxy.nextBlock
    · simp [same, unused]
    · simp [same]

theorem setEffect (paired : Paired session) {report : List UInt8} {answers : Answers}
    (sets : session.Sets report)
    (accepted : (session.sink.perform report answers).2.isOk = true) :
    Paired (session.setEffect report answers) := by
  have decoded := decode_setEffect sets.1 sets.2.1
  rcases Option.isSome_iff_exists.mp sets.2.2 with ⟨block, found⟩
  have bounds := blockAt_some found
  have nonzero : memory report 1 ≠ 0 := by
    intro zero
    rw [zero] at bounds
    exact absurd bounds.1 (by decide)
  have known := paired.kind_eq found
  have recorded := paired.params_eq found
  have performed : session.sink.perform report answers = session.sink.set (memory report 1)
      (fun params =>
        { params with
          durationMs := if le16 (memory report) 3 = pidDurationInfinite then 0
            else le16 (memory report) 3
          direction := le16 (memory report) 14 }) answers := by
    simp only [Sink.perform, decoded]
    rfl
  refine ⟨?_, ?_, ?_, ?_, ?_, ?_, ?_⟩
  · simpa [Session.setEffect] using paired.few
  · simp only [Session.setEffect, paired.kernel_setEffect sets]
    exact paired.up
  · intro slot
    simp only [Session.setEffect, paired.kernel_setEffect sets, Pid.State.setEffect,
      Pid.State.updateSlot, List.getElem?_modify]
    by_cases same : slot = (memory report 1).toNat - 1
    · subst same
      simp [bounds.2.2, Block.slot, Block.withSetting, Setting.ofReport]
    · simp [same, Ne.symm same, paired.slots]
  · simpa [Session.setEffect, Proxy.receive, Proxy.dispatchDecoded, decoded, Proxy.dispatch]
      using paired.next
  · intro index
    simp only [Session.setEffect, relay_output, performed, Sink.set, Sink.kinds_upload,
      blockAt_modify nonzero]
    by_cases same : index = memory report 1
    · simp [same, found, Sink.withParams, known, Block.withSetting]
    · simp [same, Sink.withParams, paired.kinds]
  · intro index
    simp only [Session.setEffect, relay_output, performed, Sink.params_set known, recorded,
      blockAt_modify nonzero]
    by_cases same : index = memory report 1
    · simp only [same, Function.update_self, ↓reduceIte, found, Option.map_some, Option.some.injEq]
      cases block with
      | mk type kind setting => cases setting <;> rfl
    · simp [same, paired.params]
  · intro index
    rw [performed] at accepted
    rcases Sink.effects_set _ accepted with ⟨id, effects⟩
    simp only [Session.setEffect, relay_output, performed, effects, blockAt_modify nonzero]
    by_cases same : index = memory report 1
    · simp [same, found, Block.withSetting]
    · simp [same, paired.effects]

theorem of_reachable (reachable : sessionSystem.Reachable session) : Paired session := by
  apply System.ReachableUnder.invariant reachable
  · rintro start rfl
    exact Paired.start
  · intro current event next paired _ stepped
    cases event with
    | create type answers =>
        simp only [sessionSystem] at stepped
        split at stepped
        · next kind known =>
            simp only [Option.ite_none_right_eq_some, Option.some.injEq] at stepped
            rcases stepped with ⟨room, rfl⟩
            exact paired.create room known answers
        · exact absurd stepped (by simp)
    | setEffect report answers =>
        simp only [sessionSystem, Option.ite_none_right_eq_some, Option.some.injEq] at stepped
        rcases stepped with ⟨⟨sets, accepted⟩, rfl⟩
        exact paired.setEffect sets accepted

end Paired

end TrueForce.LogiFfb
