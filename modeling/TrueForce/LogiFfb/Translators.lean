import TrueForce.LogiFfb.Bookkeeping
import TrueForce.LogiFfb.Session
import TrueForce.Pid.Descriptor

/-!
# Where the two translators agree

After the same Create and Set Effect reports, a further report makes the driver and
`logi-ffb` ask evdev for something: to upload an effect, to play or stop one, or to
erase it.  The requests are compared field by field, under the id that the sink's
block has.  Gain is not compared.

The two differ by design in what they take for an endless duration (0x7FFF in the
driver, 0xFFFF in the sink), in the directions north and south (which the sink turns
onto the axis of the wheel), in where the type of an effect comes from (the last Set
Effect in the driver, the Create in the sink), and in when they act at all: the sink
uploads on every report about a block, while the driver only notes a Set Effect,
drops parameters that do not go with the type, the second axis of a condition and
operations it does not know, and takes Stop All Effects for a reset.
-/

namespace TrueForce.LogiFfb

open TrueForce.Foundation TrueForce.Transition
open TrueForce.Pid (memory le16 sle16)

/-- What is asked of evdev. -/
inductive Request where
  | upload (effect : FfEffect)
  | playback (id value : ℤ)
  | erase (id : ℤ)
  deriving DecidableEq, Repr

def Call.request : Call → Option Request
  | .eviocsff effect _ => some (.upload effect)
  | .eviocrmff id _ => some (.erase id)
  | .writeFf (.effect id) value _ => some (.playback id value)
  | .writeFf .gain _ _ => none

def waveformOf : Pid.FfType → Option Waveform
  | .square => some .square
  | .sine => some .sine
  | .triangle => some .triangle
  | .sawUp => some .sawUp
  | .sawDown => some .sawDown
  | _ => none

def conditionOf : Pid.FfType → Option FfType
  | .spring => some .spring
  | .damper => some .damper
  | .inertia => some .inertia
  | .friction => some .friction
  | _ => none

/-- The type and the union of an effect of the driver, which has no envelopes. -/
def evdevUnion : Pid.Payload → Option (FfType × FfUnion)
  | .constant level => some (.constant, .constant level {})
  | .ramp startLevel endLevel => some (.ramp, .ramp startLevel endLevel {})
  | .periodic waveform magnitude offset phase period =>
      (waveformOf waveform).map fun waveform =>
        (.periodic, .periodic waveform period magnitude.toInt16 offset phase {})
  | .condition type rightSaturation leftSaturation rightCoeff leftCoeff deadband center =>
      (conditionOf type).map fun type =>
        (type, .condition rightSaturation leftSaturation rightCoeff leftCoeff deadband center)

namespace Sink

/-- An effect of the driver under the id that the block of its slot has in the sink. -/
def effectOf (sink : Sink) (effect : Pid.FfEffect) : Option FfEffect :=
  (evdevUnion effect.payload).map fun union =>
    { type := union.1
      id := sink.idOf (UInt8.ofNat (effect.slot + 1))
      direction := UInt16.ofNat effect.direction
      trigger := {}
      replay := { length := UInt16.ofNat effect.replayLength, delay := 0 }
      u := union.2 }

/-- What an action of the driver asks for, unless the sink has no effect for it. -/
def requestOf (sink : Sink) : Pid.Action → Option Request
  | .upload effect => (sink.effectOf effect).map .upload
  | .playback slot value =>
      (sink.effects (UInt8.ofNat (slot + 1))).map fun id => .playback id value
  | .erase slot => (sink.effects (UInt8.ofNat (slot + 1))).map .erase
  | .setGain _ => none

end Sink

namespace Session

def driverRequests (session : Session) (report : List UInt8) : List (Option Request) :=
  (session.kernel.handleOutput (memory report) report.length).2.1.map session.sink.requestOf

def sinkRequests (session : Session) (report : List UInt8) (answers : Answers) : List Request :=
  ((session.sink.perform report answers).1.fd.calls.drop
    session.sink.fd.calls.length).filterMap Call.request

/-- Both ask for the same, in whatever order. -/
def Agree (session : Session) (report : List UInt8) (answers : Answers) : Prop :=
  (session.driverRequests report).Perm ((session.sinkRequests report answers).map some)

end Session

instance (session : Session) (report : List UInt8) (answers : Answers) :
    Decidable (session.Agree report answers) :=
  inferInstanceAs (Decidable (List.Perm _ _))

/-- The reports that both translate, in full. -/
def Complete (report : List UInt8) : Prop :=
  memory report 0 ∈ [reportDeviceControl, reportSetEffect, reportSetCondition, reportSetConstant,
    reportSetPeriodic, reportSetRamp, reportEffectOperation] ∧
  Pid.declaredLength (memory report 0) ≤ report.length

/-- The block of a report about a block was created and set. -/
def Addresses (blocks : List Block) (report : List UInt8) : Prop :=
  memory report 0 ≠ reportDeviceControl →
    ∃ block setting, blockAt blocks (memory report 1) = some block ∧ block.setting = some setting

/-- Bytes that mean the same by both layouts: the sink has no dead band, and the driver wants two
bytes more for a periodic effect than are declared, and two-byte levels for a ramp. -/
def ReadAlike (report : List UInt8) : Prop :=
  (memory report 0 = reportSetCondition → le16 (memory report) 13 = 0) ∧
  (memory report 0 = reportSetPeriodic → 12 ≤ report.length) ∧
  (memory report 0 = reportSetRamp → 6 ≤ report.length ∧
    sle16 (memory report) 2 = rampLevel (memory report 2) ∧
    sle16 (memory report) 4 = rampLevel (memory report 3))

/-- A duration that neither takes for endless and a direction that the sink does not turn. -/
def Setting.Plain (setting : Setting) : Prop :=
  setting.durationMs ≠ 0x7FFF ∧ setting.durationMs ≠ pidDurationInfinite ∧
    setting.direction ≠ 0 ∧ setting.direction ≠ 18000

def EffectKind.pidType : EffectKind → Pid.FfType
  | .constant => .constant
  | .ramp => .ramp
  | .square => .square
  | .sine => .sine
  | .triangle => .triangle
  | .sawUp => .sawUp
  | .sawDown => .sawDown
  | .spring => .spring
  | .damper => .damper
  | .inertia => .inertia
  | .friction => .friction

/-- When a report about a block means the same to both. -/
def SameForBlock (kind : EffectKind) (setting : Setting) (report : List UInt8) : Prop :=
  if memory report 0 = reportSetConstant then kind = .constant ∧ setting.Plain
  else if memory report 0 = reportSetRamp then kind = .ramp ∧ setting.Plain
  else if memory report 0 = reportSetCondition then
    memory report 2 = 0 ∧ kind.pidType.isCondition ∧
      Pid.typeToFf setting.type = some kind.pidType ∧ setting.Plain
  else if memory report 0 = reportSetPeriodic then
    kind.pidType.isPeriodic ∧ Pid.typeToFf setting.type = some kind.pidType ∧ setting.Plain
  else if memory report 0 = reportEffectOperation then
    setting.type ≠ 0 ∧ memory report 2 ∈ ([1, 2, 3] : List UInt8)
  else False

/-- When a report means the same to both.  Stop All Effects does only when there is nothing to stop,
and Device Reset when every block has been set. -/
def SameForBoth (blocks : List Block) (report : List UInt8) : Prop :=
  if memory report 0 = reportDeviceControl then
    (memory report 1 = 3 → blocks = []) ∧
      (memory report 1 = 4 → ∀ block ∈ blocks, block.setting.isSome)
  else
    ∀ block setting, blockAt blocks (memory report 1) = some block →
      block.setting = some setting → SameForBlock block.kind setting report

theorem Fd.calls_eviocsff (fd : Fd) (effect : FfEffect) (reply : UploadReply) :
    ∃ assigned, (fd.eviocsff effect reply).1.calls = fd.calls ++ [.eviocsff effect assigned] := by
  simp only [eviocsff]
  split
  · next id _ => exact ⟨some _, rfl⟩
  · exact ⟨none, rfl⟩

theorem Sink.calls_set {sink : Sink} {index : UInt8} {kind : EffectKind} {params : EffectParams}
    (known : sink.kinds index = some kind) (recorded : sink.params index = some params)
    (change : EffectParams → EffectParams) (answers : Answers) :
    ∃ assigned, (sink.set index change answers).1.fd.calls =
      sink.fd.calls ++ [.eviocsff (toFfEffect kind (change params) (sink.idOf index)) assigned] := by
  have effect : ((sink.withParams index change).withParams index id).effectFor index kind =
      toFfEffect kind (change params) (sink.idOf index) := by
    simp [effectFor, withParams, recorded, idOf]
  rcases Fd.calls_eviocsff sink.fd (toFfEffect kind (change params) (sink.idOf index))
    answers.upload with ⟨assigned, calls⟩
  refine ⟨assigned, ?_⟩
  simp only [set, upload, show (sink.withParams index change).kinds index = some kind from known,
    effect]
  split <;> exact calls

/-- The directions that both translate alike. -/
theorem direction_eq_iff (direction : UInt16) :
    UInt16.ofNat (min (direction.toNat * 65536 / 36000) 65535) = evdevDirection direction ↔
      direction ≠ 0 ∧ direction ≠ 18000 := by
  simp only [evdevDirection]
  by_cases north : direction = 0
  · subst north
    decide
  · by_cases south : direction = 18000
    · subst south
      decide
    · simp [north, south]

/-- The durations that both translate alike. -/
theorem duration_eq_iff (duration : UInt16) :
    UInt16.ofNat (if duration = 0x7FFF then 0 else duration.toNat) =
        (if duration = pidDurationInfinite then 0 else duration) ↔
      duration ≠ 0x7FFF ∧ duration ≠ pidDurationInfinite := by
  by_cases driver : duration = 0x7FFF
  · subst driver
    decide
  · by_cases sink : duration = pidDurationInfinite
    · subst sink
      decide
    · simp [driver, sink]

theorem ofNat_slot {index : UInt8} (pos : 1 ≤ index.toNat) :
    UInt8.ofNat (index.toNat - 1 + 1) = index := by
  rw [Nat.sub_add_cancel pos, UInt8.ofNat_toNat]

theorem union_condition_iff {type : Pid.FfType} (condition : type.isCondition = true)
    (kind : EffectKind) {params : EffectParams} {satPos satNeg : UInt16}
    {coeffPos coeffNeg center : Int16}
    (fields : params.condition = .condition satPos satNeg coeffPos coeffNeg 0 center) :
    evdevUnion (.condition type satPos satNeg coeffPos coeffNeg 0 center) =
        some (typeAndUnion params kind) ↔
      type = kind.pidType := by
  cases type <;> simp only [Pid.FfType.isCondition, Bool.false_eq_true] at condition <;>
    cases kind <;>
      simp [evdevUnion, conditionOf, typeAndUnion, EffectParams.periodic, EffectKind.pidType, fields]

theorem union_periodic_iff {waveform : Pid.FfType} (periodic : waveform.isPeriodic = true)
    (kind : EffectKind) {params : EffectParams} {magnitude phase period : UInt16} {offset : Int16}
    (fields : ∀ waveform, params.periodic waveform =
      .periodic waveform period magnitude.toInt16 offset phase {}) :
    evdevUnion (.periodic waveform magnitude offset phase period) =
        some (typeAndUnion params kind) ↔
      waveform = kind.pidType := by
  cases waveform <;> simp only [Pid.FfType.isPeriodic, Bool.false_eq_true] at periodic <;>
    cases kind <;>
      simp [evdevUnion, waveformOf, typeAndUnion, EffectParams.condition, EffectKind.pidType, fields]

section AboutBlock

variable {session : Session} {report : List UInt8} {answers : Answers} {block : Block}
  {setting : Setting}

/-- A report that sets parameters makes the sink upload the effect. -/
theorem sinkRequests_set (paired : Paired session)
    (found : blockAt session.blocks (memory report 1) = some block)
    {change : EffectParams → EffectParams}
    (performed : session.sink.perform report answers =
      session.sink.set (memory report 1) change answers) :
    session.sinkRequests report answers =
      [.upload (toFfEffect block.kind (change block.params)
        (session.sink.idOf (memory report 1)))] := by
  rcases Sink.calls_set (paired.kind_eq found) (paired.params_eq found) change answers
    with ⟨assigned, calls⟩
  simp [Session.sinkRequests, performed, calls, Call.request]

theorem slot_of_setting (paired : Paired session)
    (found : blockAt session.blocks (memory report 1) = some block)
    (set : block.setting = some setting) :
    session.kernel.slots ((memory report 1).toNat - 1) =
      { allocated := true
        type := setting.type
        durationMs := setting.durationMs
        direction := setting.direction } := by
  rw [paired.slots, (blockAt_some found).2.2]
  simp [Block.slot, set]

/-- The driver uploads an effect of the same fields exactly for a plain setting. -/
theorem effectOf_eq_iff (paired : Paired session)
    (found : blockAt session.blocks (memory report 1) = some block)
    (set : block.setting = some setting) (payload : Pid.Payload) {params : EffectParams}
    (duration : params.durationMs = block.params.durationMs)
    (direction : params.direction = block.params.direction) :
    session.sink.effectOf
        (session.kernel.fillCommon ((memory report 1).toNat - 1) payload) =
        some (toFfEffect block.kind params (session.sink.idOf (memory report 1))) ↔
      evdevUnion payload = some (typeAndUnion params block.kind) ∧ setting.Plain := by
  have bounds := blockAt_some found
  have slot := slot_of_setting paired found set
  simp only [Sink.effectOf, Pid.State.fillCommon, slot, toFfEffect, ofNat_slot bounds.1,
    duration, direction, Block.params, set]
  cases evdevUnion payload with
  | none => simp
  | some union =>
      simp only [Option.map_some, Option.some.injEq, FfEffect.mk.injEq, FfReplay.mk.injEq, true_and,
        and_true, direction_eq_iff, duration_eq_iff, Setting.Plain, Prod.ext_iff]
      tauto

theorem onSlot_block (paired : Paired session)
    (found : blockAt session.blocks (memory report 1) = some block) {least : ℕ}
    (long : least ≤ report.length) (actions : ℕ → List Pid.Action) :
    (session.kernel.onSlot (memory report) report.length least actions).2.1 =
      actions ((memory report 1).toNat - 1) := by
  have complete : ¬report.length < least := by omega
  simp only [Pid.State.onSlot, complete, ↓reduceIte, paired.slotOf_eq found]

theorem actuates_eq (paired : Paired session) (action : Pid.Action) :
    session.kernel.actuates action = [action] := by
  simp [Pid.State.actuates, paired.up]

/-- Both upload: they agree if the unions do and the setting is plain. -/
theorem agree_upload_iff (paired : Paired session)
    (found : blockAt session.blocks (memory report 1) = some block)
    (set : block.setting = some setting) {payload : Pid.Payload}
    (uploaded : (session.kernel.handleOutput (memory report) report.length).2.1 =
      session.kernel.uploadTo ((memory report 1).toNat - 1) payload)
    {change : EffectParams → EffectParams}
    (performed : session.sink.perform report answers =
      session.sink.set (memory report 1) change answers)
    (duration : (change block.params).durationMs = block.params.durationMs)
    (direction : (change block.params).direction = block.params.direction) :
    session.Agree report answers ↔
      evdevUnion payload = some (typeAndUnion (change block.params) block.kind) ∧
        setting.Plain := by
  rw [← effectOf_eq_iff paired found set payload duration direction]
  have allocated := slot_of_setting paired found set
  simp only [Session.Agree, Session.driverRequests, uploaded, Pid.State.uploadTo, allocated,
    ↓reduceIte, actuates_eq paired, sinkRequests_set paired found performed, List.map_cons,
    List.map_nil, List.singleton_perm_singleton, Sink.requestOf]
  simp

/-- Only the sink uploads. -/
theorem not_agree_of_quiet (paired : Paired session)
    (found : blockAt session.blocks (memory report 1) = some block)
    (quiet : (session.kernel.handleOutput (memory report) report.length).2.1 = [])
    {change : EffectParams → EffectParams}
    (performed : session.sink.perform report answers =
      session.sink.set (memory report 1) change answers) :
    ¬session.Agree report answers := by
  simp [Session.Agree, Session.driverRequests, quiet, sinkRequests_set paired found performed]

/-- The driver uploads only what goes with the type of the last Set Effect. -/
theorem agree_typed_iff (paired : Paired session)
    (found : blockAt session.blocks (memory report 1) = some block)
    (set : block.setting = some setting) {belongs : Pid.FfType → Bool}
    {payload : Pid.FfType → Pid.Payload}
    (handled : (session.kernel.handleOutput (memory report) report.length).2.1 =
      match Pid.typeToFf setting.type with
      | some type =>
          if belongs type then
            session.kernel.uploadTo ((memory report 1).toNat - 1) (payload type)
          else []
      | none => [])
    {change : EffectParams → EffectParams}
    (performed : session.sink.perform report answers =
      session.sink.set (memory report 1) change answers)
    (duration : (change block.params).durationMs = block.params.durationMs)
    (direction : (change block.params).direction = block.params.direction)
    (union : ∀ type, belongs type = true →
      (evdevUnion (payload type) = some (typeAndUnion (change block.params) block.kind) ↔
        type = block.kind.pidType)) :
    session.Agree report answers ↔ belongs block.kind.pidType ∧
      Pid.typeToFf setting.type = some block.kind.pidType ∧ setting.Plain := by
  cases typed : Pid.typeToFf setting.type with
  | none =>
      simp only [typed] at handled
      simp [not_agree_of_quiet paired found handled performed]
  | some type =>
      simp only [typed] at handled
      by_cases acts : belongs type = true
      · simp only [acts, ↓reduceIte] at handled
        rw [agree_upload_iff paired found set handled performed duration direction, union type acts,
          Option.some.injEq]
        constructor
        · rintro ⟨rfl, plain⟩
          exact ⟨acts, rfl, plain⟩
        · rintro ⟨-, rfl, plain⟩
          exact ⟨rfl, plain⟩
      · simp only [acts, Bool.false_eq_true, ↓reduceIte] at handled
        simp only [not_agree_of_quiet paired found handled performed, Option.some.injEq, false_iff,
          not_and]
        rintro belonging rfl
        exact absurd belonging acts

theorem agree_setEffect (paired : Paired session)
    (found : blockAt session.blocks (memory report 1) = some block)
    (number : memory report 0 = reportSetEffect) (long : 18 ≤ report.length) :
    ¬session.Agree report answers := by
  have decoded := decode_setEffect number long
  apply not_agree_of_quiet paired found
  · have number : memory report 0 = 0x51 := number
    have atLeast : ¬report.length < 2 := by omega
    have complete : ¬report.length < 18 := by omega
    simp [Pid.State.handleOutput, number, atLeast, complete, paired.slotOf_eq found,
      Pid.reportSetEffect, Pid.reportDeviceControl, Pid.reportDeviceGain]
  · simp only [Sink.perform, decoded]
    rfl

theorem agree_setConstant_iff (paired : Paired session)
    (found : blockAt session.blocks (memory report 1) = some block)
    (set : block.setting = some setting) (number : memory report 0 = reportSetConstant)
    (long : 4 ≤ report.length) :
    session.Agree report answers ↔ block.kind = .constant ∧ setting.Plain := by
  have decoded : decode report =
      some (.setConstant (memory report 1) (sle16 (memory report) 2)) := by
    simp only [decode, head?_memory (Nat.zero_lt_of_lt long), number]
    simp only [decodeSetConstant, getElem?_memory (show 1 < report.length by omega),
      i16At_memory (show 2 + 1 < report.length by omega)]
    rfl
  have uploaded : (session.kernel.handleOutput (memory report) report.length).2.1 =
      session.kernel.uploadTo ((memory report 1).toNat - 1)
        (.constant (sle16 (memory report) 2)) := by
    rw [← onSlot_block paired found long fun slot =>
      session.kernel.uploadTo slot (.constant (sle16 (memory report) 2))]
    have number : memory report 0 = 0x55 := number
    have atLeast : ¬report.length < 2 := by omega
    simp [Pid.State.handleOutput, number, atLeast, Pid.reportSetEffect, Pid.reportDeviceControl,
      Pid.reportDeviceGain, Pid.reportSetConstant]
  have performed : session.sink.perform report answers = session.sink.set (memory report 1)
      (fun params => { params with constantLevel := sle16 (memory report) 2 }) answers := by
    simp only [Sink.perform, decoded]
    rfl
  rw [agree_upload_iff paired found set uploaded performed rfl rfl]
  apply and_congr_left
  intro _
  cases block.kind <;> simp [evdevUnion, typeAndUnion, Block.params, set, EffectParams.envelope]

theorem agree_setRamp_iff (paired : Paired session)
    (found : blockAt session.blocks (memory report 1) = some block)
    (set : block.setting = some setting) (number : memory report 0 = reportSetRamp)
    (long : 6 ≤ report.length)
    (start : sle16 (memory report) 2 = rampLevel (memory report 2))
    (stop : sle16 (memory report) 4 = rampLevel (memory report 3)) :
    session.Agree report answers ↔ block.kind = .ramp ∧ setting.Plain := by
  have decoded : decode report = some (.setRamp (memory report 1) (rampLevel (memory report 2))
      (rampLevel (memory report 3))) := by
    simp only [decode, head?_memory (Nat.zero_lt_of_lt long), number]
    simp only [decodeSetRamp, getElem?_memory (show 1 < report.length by omega),
      getElem?_memory (show 2 < report.length by omega),
      getElem?_memory (show 3 < report.length by omega)]
    rfl
  have uploaded : (session.kernel.handleOutput (memory report) report.length).2.1 =
      session.kernel.uploadTo ((memory report 1).toNat - 1)
        (.ramp (rampLevel (memory report 2)) (rampLevel (memory report 3))) := by
    rw [← onSlot_block paired found long fun slot => session.kernel.uploadTo slot
      (.ramp (rampLevel (memory report 2)) (rampLevel (memory report 3)))]
    have number : memory report 0 = 0x58 := number
    have atLeast : ¬report.length < 2 := by omega
    simp [Pid.State.handleOutput, number, atLeast, start, stop, Pid.reportSetEffect,
      Pid.reportDeviceControl, Pid.reportDeviceGain, Pid.reportSetConstant, Pid.reportSetCondition,
      Pid.reportSetPeriodic, Pid.reportEffectOp, Pid.reportSetRamp]
  have performed : session.sink.perform report answers = session.sink.set (memory report 1)
      (fun params =>
        { params with
          rampStart := rampLevel (memory report 2)
          rampEnd := rampLevel (memory report 3) }) answers := by
    simp only [Sink.perform, decoded]
    rfl
  rw [agree_upload_iff paired found set uploaded performed rfl rfl]
  apply and_congr_left
  intro _
  cases block.kind <;>
    simp [evdevUnion, typeAndUnion, EffectParams.periodic, EffectParams.condition, Block.params, set,
      EffectParams.envelope]

theorem agree_setCondition_iff (paired : Paired session)
    (found : blockAt session.blocks (memory report 1) = some block)
    (set : block.setting = some setting) (number : memory report 0 = reportSetCondition)
    (long : 15 ≤ report.length) (noDeadband : le16 (memory report) 13 = 0) :
    session.Agree report answers ↔ memory report 2 = 0 ∧ block.kind.pidType.isCondition ∧
      Pid.typeToFf setting.type = some block.kind.pidType ∧ setting.Plain := by
  have decoded : decode report = some (.setCondition (memory report 1) (sle16 (memory report) 3)
      (sle16 (memory report) 5) (sle16 (memory report) 7) (le16 (memory report) 9)
      (le16 (memory report) 11)) := by
    simp only [decode, head?_memory (Nat.zero_lt_of_lt long), number]
    simp only [decodeSetCondition, getElem?_memory (show 1 < report.length by omega),
      i16At_memory (show 3 + 1 < report.length by omega),
      i16At_memory (show 5 + 1 < report.length by omega),
      i16At_memory (show 7 + 1 < report.length by omega),
      u16At_memory (show 9 + 1 < report.length by omega),
      u16At_memory (show 11 + 1 < report.length by omega)]
    rfl
  have performed : session.sink.perform report answers = session.sink.set (memory report 1)
      (fun params =>
        { params with
          condCenter := sle16 (memory report) 3
          condCoeffPos := sle16 (memory report) 5
          condCoeffNeg := sle16 (memory report) 7
          condSatPos := le16 (memory report) 9
          condSatNeg := le16 (memory report) 11 }) answers := by
    simp only [Sink.perform, decoded]
    rfl
  have handled : (session.kernel.handleOutput (memory report) report.length).2.1 =
      session.kernel.setCondition (memory report) ((memory report 1).toNat - 1) := by
    rw [← onSlot_block paired found long fun slot =>
      session.kernel.setCondition (memory report) slot]
    have number : memory report 0 = 0x53 := number
    have atLeast : ¬report.length < 2 := by omega
    simp [Pid.State.handleOutput, number, atLeast, Pid.reportSetEffect, Pid.reportDeviceControl,
      Pid.reportDeviceGain, Pid.reportSetConstant, Pid.reportSetCondition]
  simp only [Pid.State.setCondition, slot_of_setting paired found set] at handled
  by_cases axis : memory report 2 = 0
  · simp only [axis, ne_eq, not_true_eq_false, ↓reduceIte, noDeadband] at handled
    rw [agree_typed_iff paired found set handled performed rfl rfl]
    · simp [axis]
    · intro type condition
      apply union_condition_iff condition block.kind
      rfl
  · simp only [axis, ne_eq, not_false_eq_true, ↓reduceIte] at handled
    simp [not_agree_of_quiet paired found handled performed, axis]

theorem agree_setPeriodic_iff (paired : Paired session)
    (found : blockAt session.blocks (memory report 1) = some block)
    (set : block.setting = some setting) (number : memory report 0 = reportSetPeriodic)
    (long : 12 ≤ report.length) :
    session.Agree report answers ↔ block.kind.pidType.isPeriodic ∧
      Pid.typeToFf setting.type = some block.kind.pidType ∧ setting.Plain := by
  have decoded : decode report = some (.setPeriodic (memory report 1) (sle16 (memory report) 2)
      (sle16 (memory report) 4) (le16 (memory report) 6) (le16 (memory report) 8)) := by
    simp only [decode, head?_memory (Nat.zero_lt_of_lt long), number]
    simp only [decodeSetPeriodic, getElem?_memory (show 1 < report.length by omega),
      i16At_memory (show 2 + 1 < report.length by omega),
      i16At_memory (show 4 + 1 < report.length by omega),
      u16At_memory (show 6 + 1 < report.length by omega),
      u16At_memory (show 8 + 1 < report.length by omega)]
    rfl
  have performed : session.sink.perform report answers = session.sink.set (memory report 1)
      (fun params =>
        { params with
          periodicMagnitude := sle16 (memory report) 2
          periodicOffset := sle16 (memory report) 4
          periodicPhase := le16 (memory report) 6
          periodicPeriodMs := le16 (memory report) 8 }) answers := by
    simp only [Sink.perform, decoded]
    rfl
  have handled : (session.kernel.handleOutput (memory report) report.length).2.1 =
      session.kernel.setPeriodic (memory report) ((memory report 1).toNat - 1) := by
    rw [← onSlot_block paired found long fun slot =>
      session.kernel.setPeriodic (memory report) slot]
    have number : memory report 0 = 0x5D := number
    have atLeast : ¬report.length < 2 := by omega
    simp [Pid.State.handleOutput, number, atLeast, Pid.reportSetEffect, Pid.reportDeviceControl,
      Pid.reportDeviceGain, Pid.reportSetConstant, Pid.reportSetCondition, Pid.reportSetPeriodic]
  simp only [Pid.State.setPeriodic, slot_of_setting paired found set] at handled
  apply agree_typed_iff paired found set handled performed rfl rfl
  intro type periodic
  apply union_periodic_iff periodic block.kind
  intro waveform
  simp [EffectParams.periodic, Block.params, set, EffectParams.envelope, sle16]

theorem agree_operation_iff (paired : Paired session)
    (found : blockAt session.blocks (memory report 1) = some block)
    (set : block.setting = some setting) (number : memory report 0 = reportEffectOperation)
    (long : 4 ≤ report.length) :
    session.Agree report answers ↔
      setting.type ≠ 0 ∧ memory report 2 ∈ ([1, 2, 3] : List UInt8) := by
  have held : ∃ id, session.sink.effects (memory report 1) = some id := by
    rw [← Option.isSome_iff_exists, paired.effects, found]
    simp [set]
  rcases held with ⟨id, held⟩
  have decoded : decode report = some (.operation (memory report 1)
      (memory report 2 = 1 ∨ memory report 2 = 2) (memory report 3)) := by
    simp only [decode, head?_memory (Nat.zero_lt_of_lt long), number]
    simp only [decodeEffectOperation, getElem?_memory (show 1 < report.length by omega),
      getElem?_memory (show 2 < report.length by omega),
      getElem?_memory (show 3 < report.length by omega)]
    rfl
  have played : session.sinkRequests report answers = [.playback id
      (if memory report 2 = 1 ∨ memory report 2 = 2 then max (memory report 3).toNat 1 else 0)] := by
    simp only [Session.sinkRequests, Sink.perform, decoded, Sink.apply, held, Sink.writeFfEvent,
      Fd.writeFf]
    split <;> simp [Call.request]
  have handled : (session.kernel.handleOutput (memory report) report.length).2.1 =
      session.kernel.effectOp (memory report) ((memory report 1).toNat - 1) := by
    rw [← onSlot_block paired found long fun slot => session.kernel.effectOp (memory report) slot]
    have number : memory report 0 = 0x5A := number
    have atLeast : ¬report.length < 2 := by omega
    simp [Pid.State.handleOutput, number, atLeast, Pid.reportSetEffect, Pid.reportDeviceControl,
      Pid.reportDeviceGain, Pid.reportSetConstant, Pid.reportSetCondition, Pid.reportSetPeriodic,
      Pid.reportEffectOp]
  have slot := ofNat_slot (blockAt_some found).1
  simp only [Session.Agree, Session.driverRequests, handled, played, Pid.State.effectOp,
    slot_of_setting paired found set, actuates_eq paired, Bool.not_true, Bool.false_or,
    decide_eq_true_eq]
  by_cases typed : setting.type = 0
  · simp [typed]
  · by_cases starts : memory report 2 = 1 ∨ memory report 2 = 2
    · have listed : memory report 2 ∈ ([1, 2, 3] : List UInt8) := by
        rcases starts with starts | starts <;> simp [starts]
      have loops : ((if memory report 3 = 0 then 1 else (memory report 3).toNat : ℕ) : ℤ) =
          max ((memory report 3).toNat : ℤ) 1 := by
        by_cases zero : memory report 3 = 0
        · simp [zero]
        · have pos : (memory report 3).toNat ≠ 0 := fun toNat => zero (UInt8.toNat_inj.mp toNat)
          simp only [zero, ↓reduceIte]
          omega
      simp only [typed, starts, ↓reduceIte, List.map_cons, List.map_nil, Sink.requestOf, slot, held,
        Option.map_some, loops, listed, not_false_eq_true, ne_eq, true_and, iff_true]
      exact List.Perm.refl _
    · by_cases stops : memory report 2 = 3
      · simp [typed, stops, Sink.requestOf, slot, held]
      · have other : memory report 2 ∉ ([1, 2, 3] : List UInt8) := by
          simpa [not_or, stops] using starts
        simp [typed, starts, stops, other]

end AboutBlock

@[simp]
theorem Fd.calls_writeFf (fd : Fd) (code : FfCode) (value : ℤ) (writes : Bool) :
    (fd.writeFf code value writes).calls = fd.calls ++ [.writeFf code value writes] := by
  simp only [writeFf]
  split
  · rfl
  · cases code <;> rfl

/-- A loop of calls logs them in order. -/
theorem Fd.calls_foldl {call : Fd → ℤ → Fd} {logged : ℤ → Call}
    (logs : ∀ fd id, (call fd id).calls = fd.calls ++ [logged id]) (ids : List ℤ) (fd : Fd) :
    (ids.foldl call fd).calls = fd.calls ++ ids.map logged := by
  induction ids generalizing fd with
  | nil => simp
  | cons id ids ih => rw [List.foldl_cons, ih, logs, List.map_cons, List.append_assoc]; rfl

theorem fromWire_eq_some {byte : UInt8} {op : DeviceControlOp}
    (decoded : DeviceControlOp.fromWire byte = some op) :
    (op = .stopAllEffects → byte = 3) ∧ (op = .reset → byte = 4) := by
  simp only [DeviceControlOp.fromWire] at decoded
  constructor <;> rintro rfl <;> split at decoded <;> simp at decoded
  · next value => exact UInt8.toNat_inj.mp value
  · next value => exact UInt8.toNat_inj.mp value

/-- Requests for every index are the requests for those that have an id only if all have one. -/
theorem perm_filterMap_iff {α β γ : Type} (found : α → Option β) (request : β → γ) (list : List α) :
    (list.map fun index => (found index).map request).Perm
        (((list.filterMap found).map request).map some) ↔
      ∀ index ∈ list, (found index).isSome := by
  constructor
  · intro perm index member
    cases missing : found index with
    | some id => rfl
    | none =>
        have inList : none ∈ list.map fun index => (found index).map request :=
          List.mem_map.mpr ⟨index, member, by rw [missing]; rfl⟩
        simpa using perm.mem_iff.mp inList
  · intro all
    apply List.Perm.of_eq
    induction list with
    | nil => rfl
    | cons index list ih =>
        rcases Option.isSome_iff_exists.mp (all index List.mem_cons_self) with ⟨id, present⟩
        rw [List.map_cons, List.filterMap_cons_some present, List.map_cons, List.map_cons, present,
          ih fun other member => all other (List.mem_cons_of_mem _ member)]
        rfl

section Control

variable {session : Session} {report : List UInt8} {answers : Answers}

theorem range_split {short long : ℕ} (le : short ≤ long) :
    List.range long = List.range short ++ (List.range (long - short)).map (short + ·) := by
  rw [← List.range_add, Nat.add_sub_cancel' le]

theorem allocated_slots (paired : Paired session) :
    ((List.range Pid.maxEffects).filter fun slot => (session.kernel.slots slot).allocated) =
      List.range session.blocks.length := by
  have few : session.blocks.length ≤ Pid.maxEffects := paired.few.trans (by decide)
  rw [range_split few, List.filter_append, List.filter_eq_self.mpr, List.filter_eq_nil_iff.mpr,
    List.append_nil]
  · intro slot member
    rcases List.mem_map.mp member with ⟨offset, -, rfl⟩
    rw [paired.allocated_iff]
    omega
  · intro slot member
    rw [paired.allocated_iff]
    exact List.mem_range.mp member

/-- The ids that the sink holds, by slot. -/
theorem heldIds_eq (paired : Paired session) :
    session.sink.heldIds = (List.range session.blocks.length).filterMap fun slot =>
      session.sink.effects (UInt8.ofNat (slot + 1)) := by
  have few := paired.few
  simp only [blockIndexMax] at few
  have unheld : ∀ index < 256, index = 0 ∨ session.blocks.length < index →
      session.sink.effects (UInt8.ofNat index) = none := by
    intro index small outside
    have toNat : (UInt8.ofNat index).toNat = index := UInt8.toNat_ofNat_of_lt' small
    rw [← Option.not_isSome_iff_eq_none, paired.effects]
    cases found : blockAt session.blocks (UInt8.ofNat index) with
    | none => simp
    | some block =>
        have bounds := blockAt_some found
        omega
  simp only [Sink.heldIds, allBlocks, List.filterMap_map]
  have first : (session.sink.effects ∘ UInt8.ofNat) 0 = none := unheld 0 (by omega) (.inl rfl)
  rw [range_split (show session.blocks.length + 1 ≤ 256 by omega), List.filterMap_append,
    List.range_succ_eq_map, List.filterMap_cons_none first, List.filterMap_map]
  have rest : ((List.range (256 - (session.blocks.length + 1))).map
      (session.blocks.length + 1 + ·)).filterMap (session.sink.effects ∘ UInt8.ofNat) = [] := by
    rw [List.filterMap_eq_nil_iff]
    intro index member
    rcases List.mem_map.mp member with ⟨offset, inside, rfl⟩
    rw [List.mem_range] at inside
    exact unheld _ (by omega) (.inr (by omega))
  rw [rest, List.append_nil]
  rfl

/-- A block has an id in the sink once it has been set. -/
theorem held_iff_set (paired : Paired session) :
    (∀ slot ∈ List.range session.blocks.length,
        (session.sink.effects (UInt8.ofNat (slot + 1))).isSome) ↔
      ∀ block ∈ session.blocks, block.setting.isSome := by
  have few := paired.few
  simp only [blockIndexMax] at few
  have effects : ∀ slot (inside : slot < session.blocks.length),
      (session.sink.effects (UInt8.ofNat (slot + 1))).isSome =
        session.blocks[slot].setting.isSome := by
    intro slot inside
    have small : slot + 1 < 256 := by omega
    have toNat : (UInt8.ofNat (slot + 1)).toNat = slot + 1 := UInt8.toNat_ofNat_of_lt' small
    have nonzero : UInt8.ofNat (slot + 1) ≠ 0 := by
      intro zero
      rw [zero] at toNat
      exact absurd toNat (by simp)
    rw [paired.effects, blockAt, if_neg nonzero, toNat, Nat.add_sub_cancel,
      List.getElem?_eq_getElem inside]
    rfl
  constructor
  · intro all block member
    rcases List.getElem_of_mem member with ⟨slot, inside, rfl⟩
    rw [← effects slot inside]
    exact all slot (List.mem_range.mpr inside)
  · intro all slot inside
    rw [List.mem_range] at inside
    rw [effects slot inside]
    exact all _ (List.getElem_mem inside)

theorem decode_deviceControl (number : memory report 0 = reportDeviceControl)
    (long : 2 ≤ report.length) :
    decode report = (DeviceControlOp.fromWire (memory report 1)).map .deviceControl := by
  simp only [decode, head?_memory (Nat.zero_lt_of_lt long), number, ↓reduceIte, decodeDeviceControl,
    getElem?_memory (show 1 < report.length by omega), Option.bind_eq_bind, Option.bind_some]
  cases DeviceControlOp.fromWire (memory report 1) <;> rfl

/-- The driver erases every slot in use, on Stop All Effects as on Device Reset. -/
theorem driverRequests_erase (paired : Paired session)
    (number : memory report 0 = reportDeviceControl) (long : 2 ≤ report.length)
    (erases : memory report 1 = 3 ∨ memory report 1 = 4) :
    session.driverRequests report = (List.range session.blocks.length).map fun slot =>
      (session.sink.effects (UInt8.ofNat (slot + 1))).map .erase := by
  have number : memory report 0 = Pid.reportDeviceControl := number
  have atLeast : ¬report.length < 2 := by omega
  simp only [Session.driverRequests, Pid.State.handleOutput, number, atLeast, erases, ↓reduceIte,
    Pid.State.resetSlots, allocated_slots paired, actuates_eq paired, ← List.map_eq_flatMap,
    List.map_map]
  rfl

theorem agree_stopAll_iff (paired : Paired session)
    (number : memory report 0 = reportDeviceControl) (long : 2 ≤ report.length)
    (stops : memory report 1 = 3) : session.Agree report answers ↔ session.blocks = [] := by
  have stopped : session.sinkRequests report answers =
      session.sink.heldIds.map fun id => .playback id 0 := by
    have calls := Fd.calls_foldl
      (fun fd id => Fd.calls_writeFf fd (.effect id) 0 (answers.writes (.effect id)))
      session.sink.heldIds session.sink.fd
    simp only [Session.sinkRequests, Sink.perform, decode_deviceControl number long, stops]
    simp only [DeviceControlOp.fromWire, Option.map_some, Sink.apply, Sink.deviceControl,
      Sink.stopAll, UInt8.reduceToNat]
    rw [calls, List.drop_left, List.filterMap_map]
    exact congrFun List.filterMap_eq_map _
  simp only [Session.Agree, stopped, driverRequests_erase paired number long (.inl stops),
    heldIds_eq paired]
  cases blocks : session.blocks with
  | nil => simp
  | cons first rest =>
      simp only [reduceCtorEq, iff_false]
      intro perm
      have erased : (session.sink.effects (UInt8.ofNat (0 + 1))).map Request.erase ∈
          (List.range (first :: rest).length).map fun slot =>
            (session.sink.effects (UInt8.ofNat (slot + 1))).map Request.erase :=
        List.mem_map.mpr ⟨0, List.mem_range.mpr (by simp), rfl⟩
      have asked := perm.mem_iff.mp erased
      cases session.sink.effects (UInt8.ofNat (0 + 1)) <;> simp at asked

theorem agree_reset_iff (paired : Paired session)
    (number : memory report 0 = reportDeviceControl) (long : 2 ≤ report.length)
    (resets : memory report 1 = 4) :
    session.Agree report answers ↔ ∀ block ∈ session.blocks, block.setting.isSome := by
  have erased : session.sinkRequests report answers = session.sink.heldIds.map .erase := by
    have calls := Fd.calls_foldl (fun fd id => (rfl : (fd.eviocrmff id (answers.removes id)).calls =
      fd.calls ++ [.eviocrmff id (answers.removes id)])) session.sink.heldIds session.sink.fd
    simp only [Session.sinkRequests, Sink.perform, decode_deviceControl number long, resets]
    simp only [DeviceControlOp.fromWire, Option.map_some, Sink.apply, Sink.deviceControl,
      Sink.drain, Sink.writeFfEvent, Fd.calls_writeFf, UInt8.reduceToNat]
    have gain : [Call.writeFf .gain 0xFFFF (answers.writes .gain)].filterMap Call.request = [] := rfl
    rw [calls, List.append_assoc, List.drop_left, List.filterMap_append, List.filterMap_map, gain,
      List.append_nil]
    exact congrFun List.filterMap_eq_map _
  rw [Session.Agree, erased, driverRequests_erase paired number long (.inr resets),
    heldIds_eq paired, perm_filterMap_iff, held_iff_set paired]

/-- The other operations erase and play nothing on either side. -/
theorem agree_control (number : memory report 0 = reportDeviceControl) (long : 2 ≤ report.length)
    (notStop : memory report 1 ≠ 3) (notReset : memory report 1 ≠ 4) :
    session.Agree report answers := by
  have driver : session.driverRequests report = [] := by
    have number : memory report 0 = Pid.reportDeviceControl := number
    have atLeast : ¬report.length < 2 := by omega
    simp [Session.driverRequests, Pid.State.handleOutput, number, atLeast, notStop, notReset]
  have sink : session.sinkRequests report answers = [] := by
    simp only [Session.sinkRequests, Sink.perform, decode_deviceControl number long]
    cases decoded : DeviceControlOp.fromWire (memory report 1) with
    | none => simp
    | some op =>
        have wire := fromWire_eq_some decoded
        cases op with
        | stopAllEffects => exact absurd (wire.1 rfl) notStop
        | reset => exact absurd (wire.2 rfl) notReset
        | enableActuators =>
            simp [Sink.apply, Sink.deviceControl, Sink.writeFfEvent, Call.request]
        | disableActuators =>
            simp [Sink.apply, Sink.deviceControl, Sink.writeFfEvent, Call.request]
        | pause => simp [Sink.apply, Sink.deviceControl]
        | «continue» => simp [Sink.apply, Sink.deviceControl]
  rw [Session.Agree, driver, sink]
  exact .refl _

end Control

theorem declared_lengths :
    Pid.declaredLength reportDeviceControl = 2 ∧ Pid.declaredLength reportSetEffect = 18 ∧
      Pid.declaredLength reportSetCondition = 15 ∧ Pid.declaredLength reportSetConstant = 4 ∧
      Pid.declaredLength reportEffectOperation = 4 := by
  decide +kernel

theorem agree_block_iff {session : Session} (paired : Paired session) {report : List UInt8}
    (complete : Complete report) (about : memory report 0 ≠ reportDeviceControl)
    (readAlike : ReadAlike report) {block : Block} {setting : Setting}
    (found : blockAt session.blocks (memory report 1) = some block)
    (set : block.setting = some setting) (answers : Answers) :
    session.Agree report answers ↔ SameForBlock block.kind setting report := by
  rcases complete with ⟨listed, long⟩
  rcases readAlike with ⟨noDeadband, padded, levels⟩
  rcases declared_lengths with ⟨-, effectLength, conditionLength, constantLength, operationLength⟩
  simp only [List.mem_cons, List.not_mem_nil, or_false] at listed
  rcases listed with number | number | number | number | number | number | number
  · exact absurd number about
  · rw [number, effectLength] at long
    apply iff_of_false (agree_setEffect paired found number long)
    simp [SameForBlock, number, reportSetEffect, reportSetCondition, reportSetConstant,
      reportSetRamp, reportSetPeriodic, reportEffectOperation]
  · rw [number, conditionLength] at long
    rw [agree_setCondition_iff paired found set number long (noDeadband number)]
    simp [SameForBlock, number, reportSetCondition, reportSetConstant, reportSetRamp]
  · rw [number, constantLength] at long
    rw [agree_setConstant_iff paired found set number long]
    simp [SameForBlock, number]
  · rw [agree_setPeriodic_iff paired found set number (padded number)]
    simp [SameForBlock, number, reportSetCondition, reportSetConstant, reportSetRamp,
      reportSetPeriodic]
  · rcases levels number with ⟨wide, start, stop⟩
    rw [agree_setRamp_iff paired found set number wide start stop]
    simp [SameForBlock, number, reportSetConstant, reportSetRamp]
  · rw [number, operationLength] at long
    rw [agree_operation_iff paired found set number long]
    simp [SameForBlock, number, reportSetCondition, reportSetConstant, reportSetRamp,
      reportSetPeriodic, reportEffectOperation]

theorem translators_agree_iff {session : Session} (reachable : sessionSystem.Reachable session)
    {report : List UInt8} (complete : Complete report)
    (addresses : Addresses session.blocks report) (readAlike : ReadAlike report)
    (answers : Answers) :
    session.Agree report answers ↔ SameForBoth session.blocks report := by
  have paired := Paired.of_reachable reachable
  by_cases control : memory report 0 = reportDeviceControl
  · have long := complete.2
    rw [control, declared_lengths.1] at long
    simp only [SameForBoth, control, ↓reduceIte]
    by_cases stops : memory report 1 = 3
    · simp [agree_stopAll_iff paired control long stops, stops]
    · by_cases resets : memory report 1 = 4
      · simp [agree_reset_iff paired control long resets, resets]
      · simp [agree_control control long stops resets, stops, resets]
  · rcases addresses control with ⟨block, setting, found, set⟩
    rw [agree_block_iff paired complete control readAlike found set]
    simp only [SameForBoth, control, ↓reduceIte, found, Option.some.injEq]
    constructor
    · rintro same _ other rfl otherSet
      rw [set, Option.some.injEq] at otherSet
      exact otherSet ▸ same
    · intro same
      exact same block setting rfl set

/-- A constant force of one second on block 1, in a direction. -/
def constantSetup (directionLow directionHigh : UInt8) : List SetupEvent :=
  [.create 1 (.granting 0 []),
    .setEffect [0x51, 1, 1, 0xE8, 0x03, 0, 0, 0, 0, 0, 0, 100, 0, 1, directionLow, directionHigh,
      0, 0] (.granting 0 [])]

theorem translators_agree_eastward :
    ∃ session, sessionSystem.Reachable session ∧
      session.Agree [0x55, 1, 0x40, 0x1F] (.granting 0 []) := by
  obtain ⟨session, reachable, seen⟩ := System.ReachableUnder.of_check sessionSystem System.anyStep
    .start (constantSetup 0x28 0x23)
    (fun session => decide (session.blocks =
      [{ type := 1
         kind := .constant
         setting := some { type := 1, durationMs := 1000, direction := 9000 } }])) rfl
    (by decide) (System.runMeets_anyStep _ _)
  simp only [decide_eq_true_eq] at seen
  refine ⟨session, reachable, ?_⟩
  have complete : Complete [0x55, 1, 0x40, 0x1F] := ⟨by decide, by decide +kernel⟩
  have addresses : Addresses session.blocks [0x55, 1, 0x40, 0x1F] := by
    rw [seen]
    exact fun _ => ⟨_, _, rfl, rfl⟩
  rw [translators_agree_iff reachable complete addresses ⟨by decide, by decide, by decide⟩]
  rw [seen]
  rintro block setting ⟨rfl⟩ ⟨rfl⟩
  exact ⟨rfl, by decide, by decide, by decide, by decide⟩

/-- The driver leaves a force to the north there, where the wheel cannot play it; the sink turns it
onto the axis. -/
theorem translators_differ_northward :
    ∃ session, sessionSystem.Reachable session ∧ Complete [0x55, 1, 0x40, 0x1F] ∧
      Addresses session.blocks [0x55, 1, 0x40, 0x1F] ∧
      ¬session.Agree [0x55, 1, 0x40, 0x1F] (.granting 0 []) := by
  obtain ⟨session, reachable, seen⟩ := System.ReachableUnder.of_check sessionSystem System.anyStep
    .start (constantSetup 0 0)
    (fun session => decide (session.blocks =
      [{ type := 1
         kind := .constant
         setting := some { type := 1, durationMs := 1000, direction := 0 } }] ∧
      ¬session.Agree [0x55, 1, 0x40, 0x1F] (.granting 0 []))) rfl
    (by decide) (System.runMeets_anyStep _ _)
  simp only [decide_eq_true_eq] at seen
  refine ⟨session, reachable, ⟨by decide, by decide +kernel⟩, ?_, seen.2⟩
  rw [seen.1]
  exact fun _ => ⟨_, _, rfl, rfl⟩

end TrueForce.LogiFfb
