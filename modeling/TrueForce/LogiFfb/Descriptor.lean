import TrueForce.LogiFfb.UploadLaw

/-!
# What the virtual wheel declares and what it does

The PID collection tells a host where each value of a report lies.  The decoder has the
places written out once more, and the sink converts the values to the scales of evdev.

Nothing goes with the gain of an effect and its start delay.  A duration of 0xFFFF is
endless, and the directions north and south are turned onto the axis of the wheel.
-/

namespace TrueForce.LogiFfb

open TrueForce.Foundation
open TrueForce.Pid (memory le16 sle16 byteField wordField physical unsigned8 unsigned16
  read_byteField read_wordField read_signedWordField)

/-- `PID_COLLECTION`, which is the driver's. -/
@[irreducible]
def pidCollection : List UInt8 :=
  [
    0x35, 0x00, 0x45, 0x00, 0x05, 0x0F, 0x09, 0x92, 0xA1, 0x02, 0x85, 0x50,
    0x09, 0x9F, 0x09, 0xA0, 0x09, 0x94, 0x15, 0x00, 0x25, 0x01, 0x75, 0x01,
    0x95, 0x08, 0x81, 0x02, 0x09, 0x22, 0x15, 0x01, 0x25, 0x28, 0x75, 0x07,
    0x95, 0x01, 0x81, 0x02, 0xC0, 0x09, 0x21, 0xA1, 0x02, 0x85, 0x51, 0x09,
    0x22, 0x15, 0x01, 0x25, 0x28, 0x75, 0x08, 0x95, 0x01, 0x91, 0x02, 0x09,
    0x25, 0xA1, 0x02, 0x09, 0x26, 0x09, 0x27, 0x09, 0x28, 0x09, 0x30, 0x09,
    0x31, 0x09, 0x32, 0x09, 0x33, 0x09, 0x34, 0x09, 0x40, 0x09, 0x41, 0x09,
    0x42, 0x09, 0x43, 0x15, 0x01, 0x25, 0x12, 0x75, 0x08, 0x95, 0x01, 0x91,
    0x00, 0xC0, 0x09, 0x50, 0x09, 0x54, 0x09, 0x51, 0x09, 0xA7, 0x15, 0x00,
    0x26, 0xFF, 0x7F, 0x66, 0x03, 0x10, 0x55, 0xFD, 0x75, 0x10, 0x95, 0x04,
    0x91, 0x02, 0x55, 0x00, 0x66, 0x00, 0x00, 0x09, 0x52, 0x15, 0x00, 0x26,
    0x64, 0x00, 0x75, 0x08, 0x95, 0x01, 0x91, 0x02, 0x09, 0x53, 0x15, 0x00,
    0x26, 0xFF, 0x00, 0x75, 0x08, 0x95, 0x01, 0x91, 0x02, 0x09, 0x55, 0xA1,
    0x02, 0x0B, 0x30, 0x00, 0x01, 0x00, 0x0B, 0x31, 0x00, 0x01, 0x00, 0x15,
    0x00, 0x25, 0x01, 0x75, 0x01, 0x95, 0x02, 0x91, 0x02, 0xC0, 0x09, 0x56,
    0x75, 0x01, 0x95, 0x01, 0x91, 0x02, 0x75, 0x05, 0x95, 0x01, 0x91, 0x03,
    0x09, 0x57, 0xA1, 0x02, 0x0B, 0x01, 0x00, 0x0A, 0x00, 0x0B, 0x02, 0x00,
    0x0A, 0x00, 0x66, 0x14, 0x00, 0x55, 0xFE, 0x15, 0x00, 0x27, 0x3C, 0x8C,
    0x00, 0x00, 0x75, 0x10, 0x95, 0x02, 0x91, 0x02, 0x55, 0x00, 0x66, 0x00,
    0x00, 0xC0, 0xC0, 0x05, 0x0F, 0x09, 0x5A, 0xA1, 0x02, 0x85, 0x52, 0x09,
    0x22, 0x15, 0x01, 0x25, 0x28, 0x75, 0x08, 0x95, 0x01, 0x91, 0x02, 0x09,
    0x5B, 0x09, 0x5D, 0x15, 0x00, 0x26, 0xFF, 0x7F, 0x46, 0x10, 0x27, 0x75,
    0x10, 0x95, 0x02, 0x91, 0x02, 0x09, 0x5C, 0x09, 0x5E, 0x66, 0x03, 0x10,
    0x55, 0xFD, 0x26, 0xFF, 0x7F, 0x75, 0x10, 0x95, 0x02, 0x91, 0x02, 0x45,
    0x00, 0x66, 0x00, 0x00, 0x55, 0x00, 0xC0, 0x09, 0x5F, 0xA1, 0x02, 0x85,
    0x53, 0x09, 0x22, 0x15, 0x01, 0x25, 0x28, 0x75, 0x08, 0x95, 0x01, 0x91,
    0x02, 0x09, 0x23, 0x15, 0x00, 0x25, 0x01, 0x75, 0x08, 0x95, 0x01, 0x91,
    0x02, 0x09, 0x60, 0x09, 0x61, 0x09, 0x62, 0x16, 0x00, 0x80, 0x26, 0xFF,
    0x7F, 0x36, 0xF0, 0xD8, 0x46, 0x10, 0x27, 0x75, 0x10, 0x95, 0x03, 0x91,
    0x02, 0x09, 0x63, 0x09, 0x64, 0x09, 0x65, 0x15, 0x00, 0x27, 0xFF, 0xFF,
    0x00, 0x00, 0x35, 0x00, 0x46, 0x10, 0x27, 0x75, 0x10, 0x95, 0x03, 0x91,
    0x02, 0x45, 0x00, 0xC0, 0x09, 0x6E, 0xA1, 0x02, 0x85, 0x5D, 0x09, 0x22,
    0x15, 0x01, 0x25, 0x28, 0x75, 0x08, 0x95, 0x01, 0x91, 0x02, 0x09, 0x70,
    0x15, 0x00, 0x26, 0xFF, 0x7F, 0x35, 0x00, 0x46, 0x10, 0x27, 0x75, 0x10,
    0x95, 0x01, 0x91, 0x02, 0x09, 0x6F, 0x16, 0x00, 0x80, 0x26, 0xFF, 0x7F,
    0x36, 0xF0, 0xD8, 0x46, 0x10, 0x27, 0x75, 0x10, 0x95, 0x01, 0x91, 0x02,
    0x35, 0x00, 0x45, 0x00, 0x09, 0x71, 0x15, 0x00, 0x27, 0x3C, 0x8C, 0x00,
    0x00, 0x66, 0x14, 0x00, 0x55, 0xFE, 0x75, 0x10, 0x95, 0x01, 0x91, 0x02,
    0x09, 0x72, 0x15, 0x00, 0x26, 0xFF, 0x7F, 0x66, 0x03, 0x10, 0x55, 0xFD,
    0x75, 0x10, 0x95, 0x01, 0x91, 0x02, 0x65, 0x00, 0x55, 0x00, 0xC0, 0x09,
    0x73, 0xA1, 0x02, 0x85, 0x55, 0x09, 0x22, 0x15, 0x01, 0x25, 0x28, 0x75,
    0x08, 0x95, 0x01, 0x91, 0x02, 0x09, 0x70, 0x16, 0x00, 0x80, 0x26, 0xFF,
    0x7F, 0x36, 0xF0, 0xD8, 0x46, 0x10, 0x27, 0x75, 0x10, 0x95, 0x01, 0x91,
    0x02, 0x35, 0x00, 0x45, 0x00, 0xC0, 0x05, 0x0F, 0x09, 0x77, 0xA1, 0x02,
    0x85, 0x5A, 0x09, 0x22, 0x15, 0x01, 0x25, 0x28, 0x35, 0x01, 0x45, 0x28,
    0x75, 0x08, 0x95, 0x01, 0x91, 0x02, 0x35, 0x00, 0x45, 0x00, 0x09, 0x78,
    0xA1, 0x02, 0x09, 0x79, 0x09, 0x7A, 0x09, 0x7B, 0x15, 0x01, 0x25, 0x03,
    0x75, 0x08, 0x95, 0x01, 0x91, 0x00, 0xC0, 0x09, 0x7C, 0x15, 0x00, 0x26,
    0xFF, 0x00, 0x46, 0xFF, 0x00, 0x91, 0x02, 0x45, 0x00, 0xC0, 0x09, 0x96,
    0xA1, 0x02, 0x85, 0x50, 0x09, 0x97, 0x09, 0x98, 0x09, 0x99, 0x09, 0x9A,
    0x09, 0x9B, 0x09, 0x9C, 0x15, 0x01, 0x25, 0x06, 0x75, 0x08, 0x95, 0x01,
    0x91, 0x00, 0xC0, 0x09, 0xAB, 0xA1, 0x02, 0x85, 0x54, 0x09, 0x25, 0xA1,
    0x02, 0x09, 0x26, 0x09, 0x27, 0x09, 0x28, 0x09, 0x30, 0x09, 0x31, 0x09,
    0x32, 0x09, 0x33, 0x09, 0x34, 0x09, 0x40, 0x09, 0x41, 0x09, 0x42, 0x09,
    0x43, 0x15, 0x01, 0x25, 0x12, 0x75, 0x08, 0x95, 0x01, 0xB1, 0x00, 0xC0,
    0x05, 0x01, 0x09, 0x3B, 0x15, 0x00, 0x26, 0xFF, 0x01, 0x46, 0xFF, 0x01,
    0x75, 0x0A, 0x95, 0x01, 0xB1, 0x02, 0x75, 0x06, 0xB1, 0x01, 0x45, 0x00,
    0xC0, 0x05, 0x0F, 0x09, 0x89, 0xA1, 0x02, 0x85, 0x56, 0x09, 0x22, 0x25,
    0x28, 0x15, 0x01, 0x35, 0x01, 0x45, 0x28, 0x75, 0x08, 0x95, 0x01, 0xB1,
    0x02, 0x09, 0x8B, 0xA1, 0x02, 0x09, 0x8C, 0x09, 0x8D, 0x09, 0x8E, 0x25,
    0x03, 0x15, 0x01, 0x35, 0x01, 0x45, 0x03, 0x75, 0x08, 0x95, 0x01, 0xB1,
    0x00, 0xC0, 0x09, 0xAC, 0x15, 0x00, 0x27, 0xFF, 0xFF, 0x00, 0x00, 0x35,
    0x00, 0x47, 0xFF, 0xFF, 0x00, 0x00, 0x75, 0x10, 0x95, 0x01, 0xB1, 0x00,
    0x45, 0x00, 0xC0, 0x09, 0x7F, 0xA1, 0x02, 0x85, 0x57, 0x09, 0x80, 0x75,
    0x10, 0x95, 0x01, 0x15, 0x00, 0x27, 0xFF, 0xFF, 0x00, 0x00, 0xB1, 0x02,
    0x09, 0x83, 0x26, 0xFF, 0x00, 0x75, 0x08, 0x95, 0x01, 0xB1, 0x02, 0x09,
    0xA9, 0x09, 0xAA, 0x75, 0x01, 0x95, 0x02, 0x15, 0x00, 0x25, 0x01, 0xB1,
    0x02, 0x75, 0x06, 0x95, 0x01, 0xB1, 0x03, 0xC0, 0x09, 0x7D, 0xA1, 0x02,
    0x85, 0x59, 0x09, 0x7E, 0x26, 0xFF, 0x00, 0x75, 0x08, 0x95, 0x01, 0x91,
    0x02, 0xC0, 0x09, 0x74, 0xA1, 0x02, 0x85, 0x58, 0x09, 0x22, 0x15, 0x01,
    0x25, 0x28, 0x75, 0x08, 0x95, 0x01, 0x91, 0x02, 0x09, 0x75, 0x09, 0x76,
    0x15, 0x00, 0x26, 0xFF, 0x00, 0x75, 0x08, 0x95, 0x02, 0x91, 0x02, 0xC0]

theorem pidCollection_eq : pidCollection = Pid.hidppDdPidRdesc := by
  with_unfolding_all rfl

/-- The field of an output report that carries a usage. -/
def outputField (reportId usage : ℕ) : Option Hid.Field :=
  (Hid.layout pidCollection).find? fun field =>
    field.kind = .output ∧ field.reportId = reportId ∧ field.usage = usage

/-- The value of the field of a report that carries a usage. -/
def fieldValue (report : List UInt8) (usage : ℕ) : ℤ :=
  match outputField (memory report 0).toNat usage with
  | some field => field.read (memory report)
  | none => 0

/-- A report with a declared number and of exactly the length declared for it. -/
def Declared (report : List UInt8) : Prop :=
  (∃ field ∈ Hid.layout pidCollection,
    field.kind = .output ∧ field.reportId = (memory report 0).toNat) ∧
  report.length = Hid.reportLength (Hid.layout pidCollection) .output (memory report 0).toNat

theorem declared_cases {report : List UInt8} (declared : Declared report) :
    (memory report 0, report.length) ∈
      [(0x50, 2), (0x51, 18), (0x52, 10), (0x53, 15), (0x55, 4), (0x58, 4), (0x59, 2), (0x5A, 4),
        (0x5D, 10)] := by
  simp only [Declared, pidCollection_eq] at declared
  have listed := Pid.declared_cases declared.1
  rw [declared.2]
  exact listed

def decodedFields : List Hid.Field :=
  [byteField 0x50 (physical 0x96) 0, byteField 0x51 (physical 0x22) 0,
    wordField 0x51 (physical 0x50) 2 false, wordField 0x51 0x000A0001 13 false,
    byteField 0x52 (physical 0x22) 0, wordField 0x52 (physical 0x5B) 1 false,
    wordField 0x52 (physical 0x5D) 3 false, wordField 0x52 (physical 0x5C) 5 false,
    wordField 0x52 (physical 0x5E) 7 false, byteField 0x53 (physical 0x22) 0,
    byteField 0x53 (physical 0x23) 1, wordField 0x53 (physical 0x60) 2 true,
    wordField 0x53 (physical 0x61) 4 true, wordField 0x53 (physical 0x62) 6 true,
    wordField 0x53 (physical 0x63) 8 false, wordField 0x53 (physical 0x64) 10 false,
    byteField 0x55 (physical 0x22) 0, wordField 0x55 (physical 0x70) 1 true,
    byteField 0x58 (physical 0x22) 0, byteField 0x58 (physical 0x75) 1,
    byteField 0x58 (physical 0x76) 2, byteField 0x5D (physical 0x22) 0,
    wordField 0x5D (physical 0x70) 1 false, wordField 0x5D (physical 0x6F) 3 true,
    wordField 0x5D (physical 0x72) 7 false]

theorem outputField_decoded :
    ∀ field ∈ decodedFields, outputField field.reportId field.usage = some field := by
  simp only [outputField, pidCollection_eq]
  decide +kernel

section Values

variable {report : List UInt8} {reportId usage first : ℕ}

theorem fieldValue_decoded {field : Hid.Field} (number : (memory report 0).toNat = field.reportId)
    (listed : field ∈ decodedFields) :
    fieldValue report field.usage = field.read (memory report) := by
  simp only [fieldValue, number, outputField_decoded field listed]

theorem fieldValue_byte (number : (memory report 0).toNat = reportId)
    (listed : byteField reportId usage first ∈ decodedFields) :
    fieldValue report usage = (memory report (1 + first)).toNat :=
  (fieldValue_decoded number listed).trans (read_byteField _ reportId usage first)

theorem fieldValue_word (number : (memory report 0).toNat = reportId)
    (listed : wordField reportId usage first false ∈ decodedFields) :
    unsigned16 (fieldValue report usage) = le16 (memory report) (1 + first) := by
  rw [← read_wordField _ reportId usage first]
  exact congrArg unsigned16 (fieldValue_decoded number listed)

theorem fieldValue_signedWord (number : (memory report 0).toNat = reportId)
    (listed : wordField reportId usage first true ∈ decodedFields) :
    Int16.ofInt (fieldValue report usage) = sle16 (memory report) (1 + first) := by
  rw [← read_signedWordField _ reportId usage first]
  exact congrArg Int16.ofInt (fieldValue_decoded number listed)

theorem fieldValue_block (number : (memory report 0).toNat = reportId)
    (listed : byteField reportId (physical 0x22) 0 ∈ decodedFields) :
    unsigned8 (fieldValue report (physical 0x22)) = memory report 1 := by
  rw [fieldValue_byte number listed, unsigned8, Int.toNat_natCast, UInt8.ofNat_toNat]

end Values

/-- Hundredths of a degree on the full circle of 16 bits, north and south turned onto the axis. -/
def onAxis (hundredths : ℕ) : ℕ :=
  if hundredths = 0 then 0x4000
  else if hundredths = 18000 then 0xC000
  else min (hundredths * 0x10000 / 36000) 0xFFFF

def FfUnion.envelope : FfUnion → Option FfEnvelope
  | .constant _ envelope | .ramp _ _ envelope | .periodic _ _ _ _ _ envelope => some envelope
  | .condition .. => none

/-- An effect has the values of the fields of a Set report on the scales of evdev. -/
def Carries (report : List UInt8) (effect : FfEffect) : Prop :=
  let number := memory report 0
  let word usage := unsigned16 (fieldValue report usage)
  let signed usage := Int16.ofInt (fieldValue report usage)
  let level usage := Int16.ofNat ((fieldValue report usage).toNat * 32767 / 255)
  if number = reportSetEffect then
    effect.replay.length =
        (if word (physical 0x50) = pidDurationInfinite then 0 else word (physical 0x50)) ∧
      effect.replay.delay = 0 ∧
      effect.direction.toNat = onAxis (word 0x000A0001).toNat
  else if number = reportSetEnvelope then
    ∀ envelope ∈ effect.u.envelope,
      envelope.attackLevel = word (physical 0x5B) ∧ envelope.fadeLevel = word (physical 0x5D) ∧
        envelope.attackLength = word (physical 0x5C) ∧ envelope.fadeLength = word (physical 0x5E)
  else if number = reportSetCondition then
    fieldValue report (physical 0x23) = 0 →
      match effect.u with
      | .condition rightSaturation leftSaturation rightCoeff leftCoeff _ center =>
          center = signed (physical 0x60) ∧ rightCoeff = signed (physical 0x61) ∧
            leftCoeff = signed (physical 0x62) ∧ rightSaturation = word (physical 0x63) ∧
            leftSaturation = word (physical 0x64)
      | _ => True
  else if number = reportSetConstant then
    match effect.u with
    | .constant magnitude _ => magnitude = signed (physical 0x70)
    | _ => True
  else if number = reportSetRamp then
    match effect.u with
    | .ramp start stop _ => start = level (physical 0x75) ∧ stop = level (physical 0x76)
    | _ => True
  else
    match effect.u with
    | .periodic _ period magnitude offset _ _ =>
        magnitude = (word (physical 0x70)).toInt16 ∧ offset = signed (physical 0x6F) ∧
          period = word (physical 0x72)
    | _ => True

def setReports : List UInt8 :=
  [reportSetEffect, reportSetEnvelope, reportSetCondition, reportSetConstant, reportSetRamp,
    reportSetPeriodic]

section Reports

variable {report : List UInt8}

/-- The report changes the parameters so that every effect made of them carries its values. -/
def Translates (report : List UInt8) : Prop :=
  ∃ op, decode report = some op ∧
    op.uploads = some (unsigned8 (fieldValue report (physical 0x22))) ∧
    ∀ kind params id, Carries report (toFfEffect kind (op.change params) id)

theorem evdevDirection_toNat (direction : UInt16) :
    (evdevDirection direction).toNat = onAxis direction.toNat := by
  have north : direction = 0 ↔ direction.toNat = 0 := UInt16.toNat_inj.symm
  have south : direction = 18000 ↔ direction.toNat = 18000 := UInt16.toNat_inj.symm
  simp only [evdevDirection, onAxis, north, south]
  split
  · rfl
  · split
    · rfl
    · exact UInt16.toNat_ofNat_of_lt' (by simp)

theorem translates_setEffect (number : memory report 0 = 0x51) (long : report.length = 18) :
    Translates report := by
  have number' : (memory report 0).toNat = 0x51 := by rw [number]; rfl
  have duration := fieldValue_word number'
    (by decide : wordField 0x51 (physical 0x50) 2 false ∈ decodedFields)
  have direction := fieldValue_word number'
    (by decide : wordField 0x51 0x000A0001 13 false ∈ decodedFields)
  refine ⟨_, decode_setEffect number (by omega), ?_, ?_⟩
  · rw [fieldValue_block number' (by decide)]
    rfl
  · intro kind params id
    simp only [Carries, number, reportSetEffect, ↓reduceIte, duration, direction]
    exact ⟨rfl, rfl, evdevDirection_toNat _⟩

theorem decode_setEnvelope (number : memory report 0 = reportSetEnvelope)
    (long : 10 ≤ report.length) :
    decode report = some (.setEnvelope (memory report 1) (le16 (memory report) 6)
      (le16 (memory report) 2) (le16 (memory report) 8) (le16 (memory report) 4)) := by
  simp only [decode, head?_memory (Nat.zero_lt_of_lt long), number]
  simp only [decodeSetEnvelope, getElem?_memory (show 1 < report.length by omega),
    u16At_memory (show 2 + 1 < report.length by omega),
    u16At_memory (show 4 + 1 < report.length by omega),
    u16At_memory (show 6 + 1 < report.length by omega),
    u16At_memory (show 8 + 1 < report.length by omega)]
  rfl

theorem translates_setEnvelope (number : memory report 0 = 0x52) (long : report.length = 10) :
    Translates report := by
  have number' : (memory report 0).toNat = 0x52 := by rw [number]; rfl
  have attackLevel := fieldValue_word number'
    (by decide : wordField 0x52 (physical 0x5B) 1 false ∈ decodedFields)
  have fadeLevel := fieldValue_word number'
    (by decide : wordField 0x52 (physical 0x5D) 3 false ∈ decodedFields)
  have attackTime := fieldValue_word number'
    (by decide : wordField 0x52 (physical 0x5C) 5 false ∈ decodedFields)
  have fadeTime := fieldValue_word number'
    (by decide : wordField 0x52 (physical 0x5E) 7 false ∈ decodedFields)
  refine ⟨_, decode_setEnvelope number (by omega), ?_, ?_⟩
  · rw [fieldValue_block number' (by decide)]
    rfl
  · intro kind params id
    cases kind <;>
      simp [Carries, number, reportSetEffect, reportSetEnvelope, attackLevel, fadeLevel, attackTime,
        fadeTime, toFfEffect, typeAndUnion, FfUnion.envelope, EffectOp.change,
        EffectParams.envelope, EffectParams.periodic, EffectParams.condition]

theorem decode_setCondition (number : memory report 0 = reportSetCondition)
    (long : 13 ≤ report.length) :
    decode report = some (.setCondition (memory report 1) (sle16 (memory report) 3)
      (sle16 (memory report) 5) (sle16 (memory report) 7) (le16 (memory report) 9)
      (le16 (memory report) 11)) := by
  simp only [decode, head?_memory (Nat.zero_lt_of_lt long), number]
  simp only [decodeSetCondition, getElem?_memory (show 1 < report.length by omega),
    i16At_memory (show 3 + 1 < report.length by omega),
    i16At_memory (show 5 + 1 < report.length by omega),
    i16At_memory (show 7 + 1 < report.length by omega),
    u16At_memory (show 9 + 1 < report.length by omega),
    u16At_memory (show 11 + 1 < report.length by omega)]
  rfl

theorem translates_setCondition (number : memory report 0 = 0x53) (long : report.length = 15) :
    Translates report := by
  have number' : (memory report 0).toNat = 0x53 := by rw [number]; rfl
  have center := fieldValue_signedWord number'
    (by decide : wordField 0x53 (physical 0x60) 2 true ∈ decodedFields)
  have coeffPos := fieldValue_signedWord number'
    (by decide : wordField 0x53 (physical 0x61) 4 true ∈ decodedFields)
  have coeffNeg := fieldValue_signedWord number'
    (by decide : wordField 0x53 (physical 0x62) 6 true ∈ decodedFields)
  have satPos := fieldValue_word number'
    (by decide : wordField 0x53 (physical 0x63) 8 false ∈ decodedFields)
  have satNeg := fieldValue_word number'
    (by decide : wordField 0x53 (physical 0x64) 10 false ∈ decodedFields)
  refine ⟨_, decode_setCondition number (by omega), ?_, ?_⟩
  · rw [fieldValue_block number' (by decide)]
    rfl
  · intro kind params id
    cases kind <;>
      simp [Carries, number, reportSetEffect, reportSetEnvelope, reportSetCondition, center,
        coeffPos, coeffNeg, satPos, satNeg, toFfEffect, typeAndUnion, EffectOp.change,
        EffectParams.periodic, EffectParams.condition]

theorem decode_setConstant (number : memory report 0 = reportSetConstant)
    (long : 4 ≤ report.length) :
    decode report = some (.setConstant (memory report 1) (sle16 (memory report) 2)) := by
  simp only [decode, head?_memory (Nat.zero_lt_of_lt long), number]
  simp only [decodeSetConstant, getElem?_memory (show 1 < report.length by omega),
    i16At_memory (show 2 + 1 < report.length by omega)]
  rfl

theorem translates_setConstant (number : memory report 0 = 0x55) (long : report.length = 4) :
    Translates report := by
  have number' : (memory report 0).toNat = 0x55 := by rw [number]; rfl
  have magnitude := fieldValue_signedWord number'
    (by decide : wordField 0x55 (physical 0x70) 1 true ∈ decodedFields)
  refine ⟨_, decode_setConstant number (by omega), ?_, ?_⟩
  · rw [fieldValue_block number' (by decide)]
    rfl
  · intro kind params id
    cases kind <;>
      simp [Carries, number, reportSetEffect, reportSetEnvelope, reportSetCondition,
        reportSetConstant, magnitude, toFfEffect, typeAndUnion, EffectOp.change,
        EffectParams.periodic, EffectParams.condition]

theorem decode_setRamp (number : memory report 0 = reportSetRamp) (long : 4 ≤ report.length) :
    decode report = some (.setRamp (memory report 1) (rampLevel (memory report 2))
      (rampLevel (memory report 3))) := by
  simp only [decode, head?_memory (Nat.zero_lt_of_lt long), number]
  simp only [decodeSetRamp, getElem?_memory (show 1 < report.length by omega),
    getElem?_memory (show 2 < report.length by omega),
    getElem?_memory (show 3 < report.length by omega)]
  rfl

theorem translates_setRamp (number : memory report 0 = 0x58) (long : report.length = 4) :
    Translates report := by
  have number' : (memory report 0).toNat = 0x58 := by rw [number]; rfl
  have start := fieldValue_byte number'
    (by decide : byteField 0x58 (physical 0x75) 1 ∈ decodedFields)
  have stop := fieldValue_byte number'
    (by decide : byteField 0x58 (physical 0x76) 2 ∈ decodedFields)
  refine ⟨_, decode_setRamp number (by omega), ?_, ?_⟩
  · rw [fieldValue_block number' (by decide)]
    rfl
  · intro kind params id
    cases kind <;>
      simp [Carries, number, reportSetEffect, reportSetEnvelope, reportSetCondition,
        reportSetConstant, reportSetRamp, start, stop, Int.toNat_natCast, toFfEffect, typeAndUnion,
        EffectOp.change, EffectParams.periodic, EffectParams.condition, rampLevel]

theorem decode_setPeriodic (number : memory report 0 = reportSetPeriodic)
    (long : 10 ≤ report.length) :
    decode report = some (.setPeriodic (memory report 1) (sle16 (memory report) 2)
      (sle16 (memory report) 4) (le16 (memory report) 6) (le16 (memory report) 8)) := by
  simp only [decode, head?_memory (Nat.zero_lt_of_lt long), number]
  simp only [decodeSetPeriodic, getElem?_memory (show 1 < report.length by omega),
    i16At_memory (show 2 + 1 < report.length by omega),
    i16At_memory (show 4 + 1 < report.length by omega),
    u16At_memory (show 6 + 1 < report.length by omega),
    u16At_memory (show 8 + 1 < report.length by omega)]
  rfl

theorem translates_setPeriodic (number : memory report 0 = 0x5D) (long : report.length = 10) :
    Translates report := by
  have number' : (memory report 0).toNat = 0x5D := by rw [number]; rfl
  have magnitude := fieldValue_word number'
    (by decide : wordField 0x5D (physical 0x70) 1 false ∈ decodedFields)
  have offset := fieldValue_signedWord number'
    (by decide : wordField 0x5D (physical 0x6F) 3 true ∈ decodedFields)
  have period := fieldValue_word number'
    (by decide : wordField 0x5D (physical 0x72) 7 false ∈ decodedFields)
  refine ⟨_, decode_setPeriodic number (by omega), ?_, ?_⟩
  · rw [fieldValue_block number' (by decide)]
    rfl
  · intro kind params id
    cases kind <;>
      simp [Carries, number, reportSetEffect, reportSetEnvelope, reportSetCondition,
        reportSetConstant, reportSetRamp, magnitude, offset, period, toFfEffect, typeAndUnion,
        EffectOp.change, EffectParams.periodic, EffectParams.condition, sle16]

theorem translates_of_declared (declared : Declared report)
    (setReport : memory report 0 ∈ setReports) : Translates report := by
  have cases := declared_cases declared
  simp only [List.mem_cons, Prod.mk.injEq, List.not_mem_nil, or_false] at cases
  rcases cases with ⟨number, length⟩ | ⟨number, length⟩ | ⟨number, length⟩ | ⟨number, length⟩ |
    ⟨number, length⟩ | ⟨number, length⟩ | ⟨number, length⟩ | ⟨number, length⟩ | ⟨number, length⟩
  · exact absurd (number ▸ setReport) (by decide)
  · exact translates_setEffect number length
  · exact translates_setEnvelope number length
  · exact translates_setCondition number length
  · exact translates_setConstant number length
  · exact translates_setRamp number length
  · exact absurd (number ▸ setReport) (by decide)
  · exact absurd (number ▸ setReport) (by decide)
  · exact translates_setPeriodic number length

theorem fromWire_eq_none_iff (selector : UInt8) :
    DeviceControlOp.fromWire selector = none ↔ selector.toNat < 1 ∨ 6 < selector.toNat := by
  simp only [DeviceControlOp.fromWire]
  split
  case h_7 one two three four five six =>
    have outside : selector.toNat ≠ 1 ∧ selector.toNat ≠ 2 ∧ selector.toNat ≠ 3 ∧
        selector.toNat ≠ 4 ∧ selector.toNat ≠ 5 ∧ selector.toNat ≠ 6 :=
      ⟨one, two, three, four, five, six⟩
    simp only [true_iff]
    omega
  all_goals
    simp only [reduceCtorEq, false_iff]
    omega

theorem setReport_or_plain (declared : Declared report) :
    memory report 0 ∈ setReports ∨ memory report 0 = reportDeviceControl ∧ report.length = 2 ∨
      memory report 0 = reportDeviceGain ∧ report.length = 2 ∨
      memory report 0 = reportEffectOperation ∧ report.length = 4 := by
  have cases := declared_cases declared
  simp only [List.mem_cons, Prod.mk.injEq, List.not_mem_nil, or_false] at cases
  simp only [setReports, reportSetEffect, reportSetEnvelope, reportSetCondition,
    reportSetConstant, reportSetRamp, reportSetPeriodic, reportDeviceControl, reportDeviceGain,
    reportEffectOperation, List.mem_cons, List.not_mem_nil, or_false]
  tauto

theorem decode_eq_none_iff (declared : Declared report) :
    decode report = none ↔ memory report 0 = reportDeviceControl ∧
      (fieldValue report (physical 0x96) < 1 ∨ 6 < fieldValue report (physical 0x96)) := by
  rcases setReport_or_plain declared with setReport | ⟨number, length⟩ | ⟨number, length⟩ |
    ⟨number, length⟩
  · obtain ⟨op, decoded, -⟩ := translates_of_declared declared setReport
    have other : memory report 0 ≠ reportDeviceControl := fun same =>
      absurd (same ▸ setReport) (by decide)
    simp [decoded, other]
  · have number' : (memory report 0).toNat = 0x50 := by rw [number]; rfl
    have selector := fieldValue_byte number'
      (by decide : byteField 0x50 (physical 0x96) 0 ∈ decodedFields)
    rw [decode_deviceControl number (by omega), Option.map_eq_none_iff, fromWire_eq_none_iff,
      selector]
    simp only [number, true_and, Nat.add_zero]
    omega
  · simp [decode, head?_memory (show 0 < report.length by omega), number,
      getElem?_memory (show 1 < report.length by omega), reportDeviceControl, reportSetEffect,
      reportSetEnvelope, reportSetCondition, reportSetConstant, reportSetRamp, reportDeviceGain]
  · simp [decode, head?_memory (show 0 < report.length by omega), number,
      getElem?_memory (show 1 < report.length by omega),
      getElem?_memory (show 2 < report.length by omega),
      getElem?_memory (show 3 < report.length by omega), reportDeviceControl, reportSetEffect,
      reportSetEnvelope, reportSetCondition, reportSetConstant, reportSetRamp, reportDeviceGain,
      reportBlockFree, reportEffectOperation, decodeEffectOperation]

end Reports

theorem descriptor_law :
    (∀ report, Declared report → (decode report = none ↔
      memory report 0 = reportDeviceControl ∧
        (fieldValue report (physical 0x96) < 1 ∨ 6 < fieldValue report (physical 0x96)))) ∧
    ∀ (sink : Sink) (answers : Answers) (report : List UInt8) (kind : EffectKind),
      Declared report → memory report 0 ∈ setReports →
      sink.kinds (unsigned8 (fieldValue report (physical 0x22))) = some kind →
      ∃ op params effect, decode report = some op ∧
        (sink.apply op answers).1.fd.uploaded = sink.fd.uploaded ++ [effect] ∧
        effect = toFfEffect kind params
          (sink.idOf (unsigned8 (fieldValue report (physical 0x22)))) ∧
        Carries report effect := by
  refine ⟨fun report declared => decode_eq_none_iff declared, ?_⟩
  intro sink answers report kind declared setReport known
  obtain ⟨op, decoded, uploads, carries⟩ := translates_of_declared declared setReport
  refine ⟨op, op.change ((sink.params (unsigned8 (fieldValue report (physical 0x22)))).getD {}), _,
    decoded, ?_, rfl, carries kind _ _⟩
  rw [sink.uploaded_apply op answers, Sink.handed, uploads, Option.bind_some, known]
  rfl

/-- A Device Control of a selector that does not exist. -/
theorem undeclared_selector_not_decoded :
    (Declared [0x50, 7] ∧ decode [0x50, 7] = none) ∧
    ¬∀ report, Declared report → (decode report).isSome := by
  have declared : Declared [0x50, 7] := by
    simp only [Declared, pidCollection_eq]
    decide +kernel
  refine ⟨⟨declared, rfl⟩, ?_⟩
  intro every
  exact absurd (every _ declared) (by decide)

end TrueForce.LogiFfb
