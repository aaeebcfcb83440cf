import TrueForce.Foundation.HidDescriptor
import TrueForce.Pid.Injector

/-!
# The injected descriptor and the report handler

The byte layout of the PID output reports is declared once in the descriptor that
the driver splices into interface 0, and written out once more as length checks
and byte offsets in `hidpp_dd_pid_handle_output`.  `described` says what a report
means by the descriptor alone, reading every value through the field that carries
its usage, and the handler is compared with it.

The handler leaves some well-formed reports without effect on purpose: Device
Control only knows stop-all and reset, since the actuators are always enabled, a
condition is taken for the one axis of the wheel only, and an effect operation is
start, solo start or stop.
-/

namespace TrueForce.Pid

open TrueForce.Foundation

@[irreducible]
def hidppDdPidRdesc : List UInt8 :=
  [
    0x35, 0x00, 0x45, 0x00, 0x05, 0x0F, 0x09, 0x92, 0xA1, 0x02,
    -- Report ID (STATE/DEVICE_CONTROL) input
    0x85, 0x50, 0x09, 0x9F, 0x09, 0xA0, 0x09, 0x94,
    0x15, 0x00, 0x25, 0x01, 0x75, 0x01, 0x95, 0x08, 0x81, 0x02,
    0x09, 0x22, 0x15, 0x01, 0x25, 0x28, 0x75, 0x07, 0x95, 0x01, 0x81, 0x02, 0xC0,
    0x09, 0x21, 0xA1, 0x02,
    -- Report ID (SET_EFFECT)
    0x85, 0x51, 0x09, 0x22, 0x15, 0x01, 0x25, 0x28, 0x75, 0x08, 0x95, 0x01, 0x91, 0x02,
    0x09, 0x25, 0xA1, 0x02,
    0x09, 0x26, 0x09, 0x27, 0x09, 0x28, 0x09, 0x30, 0x09, 0x31, 0x09, 0x32,
    0x09, 0x33, 0x09, 0x34, 0x09, 0x40, 0x09, 0x41, 0x09, 0x42, 0x09, 0x43,
    0x15, 0x01, 0x25, 0x12, 0x75, 0x08, 0x95, 0x01, 0x91, 0x00, 0xC0,
    0x09, 0x50, 0x09, 0x54, 0x09, 0x51, 0x09, 0xA7, 0x15, 0x00, 0x26, 0xFF, 0x7F,
    0x66, 0x03, 0x10, 0x55, 0xFD, 0x75, 0x10, 0x95, 0x04, 0x91, 0x02,
    0x55, 0x00, 0x66, 0x00, 0x00,
    0x09, 0x52, 0x15, 0x00, 0x26, 0x64, 0x00, 0x75, 0x08, 0x95, 0x01, 0x91, 0x02,
    0x09, 0x53, 0x15, 0x00, 0x26, 0xFF, 0x00, 0x75, 0x08, 0x95, 0x01, 0x91, 0x02,
    0x09, 0x55, 0xA1, 0x02, 0x0B, 0x30, 0x00, 0x01, 0x00, 0x0B, 0x31, 0x00, 0x01, 0x00,
    0x15, 0x00, 0x25, 0x01, 0x75, 0x01, 0x95, 0x02, 0x91, 0x02, 0xC0,
    0x09, 0x56, 0x75, 0x01, 0x95, 0x01, 0x91, 0x02, 0x75, 0x05, 0x95, 0x01, 0x91, 0x03,
    0x09, 0x57, 0xA1, 0x02, 0x0B, 0x01, 0x00, 0x0A, 0x00, 0x0B, 0x02, 0x00, 0x0A, 0x00,
    0x66, 0x14, 0x00, 0x55, 0xFE, 0x15, 0x00, 0x27, 0x3C, 0x8C, 0x00, 0x00,
    0x75, 0x10, 0x95, 0x02, 0x91, 0x02, 0x55, 0x00, 0x66, 0x00, 0x00, 0xC0, 0xC0,
    0x05, 0x0F, 0x09, 0x5A, 0xA1, 0x02,
    -- Report ID (SET_ENVELOPE)
    0x85, 0x52, 0x09, 0x22, 0x15, 0x01, 0x25, 0x28, 0x75, 0x08, 0x95, 0x01, 0x91, 0x02,
    0x09, 0x5B, 0x09, 0x5D, 0x15, 0x00, 0x26, 0xFF, 0x7F, 0x46, 0x10, 0x27,
    0x75, 0x10, 0x95, 0x02, 0x91, 0x02, 0x09, 0x5C, 0x09, 0x5E,
    0x66, 0x03, 0x10, 0x55, 0xFD, 0x26, 0xFF, 0x7F, 0x75, 0x10, 0x95, 0x02, 0x91, 0x02,
    0x45, 0x00, 0x66, 0x00, 0x00, 0x55, 0x00, 0xC0, 0x09, 0x5F, 0xA1, 0x02,
    -- Report ID (SET_CONDITION)
    0x85, 0x53, 0x09, 0x22, 0x15, 0x01, 0x25, 0x28, 0x75, 0x08, 0x95, 0x01, 0x91, 0x02,
    0x09, 0x23, 0x15, 0x00, 0x25, 0x01, 0x75, 0x08, 0x95, 0x01, 0x91, 0x02,
    0x09, 0x60, 0x09, 0x61, 0x09, 0x62, 0x16, 0x00, 0x80, 0x26, 0xFF, 0x7F,
    0x36, 0xF0, 0xD8, 0x46, 0x10, 0x27, 0x75, 0x10, 0x95, 0x03, 0x91, 0x02,
    0x09, 0x63, 0x09, 0x64, 0x09, 0x65, 0x15, 0x00, 0x27, 0xFF, 0xFF, 0x00, 0x00,
    0x35, 0x00, 0x46, 0x10, 0x27, 0x75, 0x10, 0x95, 0x03, 0x91, 0x02, 0x45, 0x00, 0xC0,
    0x09, 0x6E, 0xA1, 0x02,
    -- Report ID (SET_PERIODIC)
    0x85, 0x5D, 0x09, 0x22, 0x15, 0x01, 0x25, 0x28, 0x75, 0x08, 0x95, 0x01, 0x91, 0x02,
    0x09, 0x70, 0x15, 0x00, 0x26, 0xFF, 0x7F, 0x35, 0x00, 0x46, 0x10, 0x27,
    0x75, 0x10, 0x95, 0x01, 0x91, 0x02, 0x09, 0x6F, 0x16, 0x00, 0x80, 0x26, 0xFF, 0x7F,
    0x36, 0xF0, 0xD8, 0x46, 0x10, 0x27, 0x75, 0x10, 0x95, 0x01, 0x91, 0x02,
    0x35, 0x00, 0x45, 0x00, 0x09, 0x71, 0x15, 0x00, 0x27, 0x3C, 0x8C, 0x00, 0x00,
    0x66, 0x14, 0x00, 0x55, 0xFE, 0x75, 0x10, 0x95, 0x01, 0x91, 0x02,
    0x09, 0x72, 0x15, 0x00, 0x26, 0xFF, 0x7F, 0x66, 0x03, 0x10, 0x55, 0xFD,
    0x75, 0x10, 0x95, 0x01, 0x91, 0x02, 0x65, 0x00, 0x55, 0x00, 0xC0, 0x09, 0x73,
    0xA1, 0x02,
    -- Report ID (SET_CONSTANT)
    0x85, 0x55, 0x09, 0x22, 0x15, 0x01, 0x25, 0x28, 0x75, 0x08, 0x95, 0x01, 0x91, 0x02,
    0x09, 0x70, 0x16, 0x00, 0x80, 0x26, 0xFF, 0x7F, 0x36, 0xF0, 0xD8, 0x46, 0x10, 0x27,
    0x75, 0x10, 0x95, 0x01, 0x91, 0x02, 0x35, 0x00, 0x45, 0x00, 0xC0, 0x05, 0x0F,
    0x09, 0x77, 0xA1, 0x02,
    -- Report ID (EFFECT_OP)
    0x85, 0x5A, 0x09, 0x22, 0x15, 0x01, 0x25, 0x28, 0x35, 0x01, 0x45, 0x28,
    0x75, 0x08, 0x95, 0x01, 0x91, 0x02, 0x35, 0x00, 0x45, 0x00, 0x09, 0x78, 0xA1, 0x02,
    0x09, 0x79, 0x09, 0x7A, 0x09, 0x7B,
    0x15, 0x01, 0x25, 0x03, 0x75, 0x08, 0x95, 0x01, 0x91, 0x00, 0xC0,
    0x09, 0x7C, 0x15, 0x00, 0x26, 0xFF, 0x00, 0x46, 0xFF, 0x00, 0x91, 0x02, 0x45, 0x00,
    0xC0, 0x09, 0x96, 0xA1, 0x02,
    -- Report ID (DEVICE_CONTROL output)
    0x85, 0x50, 0x09, 0x97, 0x09, 0x98, 0x09, 0x99, 0x09, 0x9A, 0x09, 0x9B, 0x09, 0x9C,
    0x15, 0x01, 0x25, 0x06, 0x75, 0x08, 0x95, 0x01, 0x91, 0x00, 0xC0, 0x09, 0xAB,
    0xA1, 0x02,
    -- Report ID (CREATE_NEW_EFFECT)
    0x85, 0x54, 0x09, 0x25, 0xA1, 0x02,
    0x09, 0x26, 0x09, 0x27, 0x09, 0x28, 0x09, 0x30, 0x09, 0x31, 0x09, 0x32,
    0x09, 0x33, 0x09, 0x34, 0x09, 0x40, 0x09, 0x41, 0x09, 0x42, 0x09, 0x43,
    0x15, 0x01, 0x25, 0x12, 0x75, 0x08, 0x95, 0x01, 0xB1, 0x00, 0xC0, 0x05, 0x01,
    0x09, 0x3B, 0x15, 0x00, 0x26, 0xFF, 0x01, 0x46, 0xFF, 0x01,
    0x75, 0x0A, 0x95, 0x01, 0xB1, 0x02, 0x75, 0x06, 0xB1, 0x01, 0x45, 0x00, 0xC0,
    0x05, 0x0F, 0x09, 0x89, 0xA1, 0x02,
    -- Report ID (BLOCK_LOAD)
    0x85, 0x56, 0x09, 0x22, 0x25, 0x28, 0x15, 0x01, 0x35, 0x01, 0x45, 0x28,
    0x75, 0x08, 0x95, 0x01, 0xB1, 0x02, 0x09, 0x8B, 0xA1, 0x02,
    0x09, 0x8C, 0x09, 0x8D, 0x09, 0x8E, 0x25, 0x03, 0x15, 0x01, 0x35, 0x01, 0x45, 0x03,
    0x75, 0x08, 0x95, 0x01, 0xB1, 0x00, 0xC0, 0x09, 0xAC,
    0x15, 0x00, 0x27, 0xFF, 0xFF, 0x00, 0x00, 0x35, 0x00, 0x47, 0xFF, 0xFF, 0x00, 0x00,
    0x75, 0x10, 0x95, 0x01, 0xB1, 0x00, 0x45, 0x00, 0xC0, 0x09, 0x7F, 0xA1, 0x02,
    -- Report ID (PID_POOL)
    0x85, 0x57, 0x09, 0x80,
    0x75, 0x10, 0x95, 0x01, 0x15, 0x00, 0x27, 0xFF, 0xFF, 0x00, 0x00, 0xB1, 0x02,
    0x09, 0x83, 0x26, 0xFF, 0x00, 0x75, 0x08, 0x95, 0x01, 0xB1, 0x02,
    0x09, 0xA9, 0x09, 0xAA, 0x75, 0x01, 0x95, 0x02, 0x15, 0x00, 0x25, 0x01, 0xB1, 0x02,
    0x75, 0x06, 0x95, 0x01, 0xB1, 0x03, 0xC0, 0x09, 0x7D, 0xA1, 0x02,
    -- Report ID (DEVICE_GAIN)
    0x85, 0x59, 0x09, 0x7E, 0x26, 0xFF, 0x00, 0x75, 0x08, 0x95, 0x01, 0x91, 0x02, 0xC0,
    0x09, 0x74, 0xA1, 0x02,
    -- Report ID (SET_RAMP)
    0x85, 0x58, 0x09, 0x22, 0x15, 0x01, 0x25, 0x28, 0x75, 0x08, 0x95, 0x01, 0x91, 0x02,
    0x09, 0x75, 0x09, 0x76, 0x15, 0x00, 0x26, 0xFF, 0x00,
    0x75, 0x08, 0x95, 0x02, 0x91, 0x02, 0xC0]

/-- The field of an output report that carries a usage. -/
def fieldOf (reportId usage : ℕ) : Option Hid.Field :=
  (Hid.layout hidppDdPidRdesc).find? fun field =>
    field.kind = .output ∧ field.reportId = reportId ∧ field.usage = usage

def Declared (reportId : UInt8) : Prop :=
  ∃ field ∈ Hid.layout hidppDdPidRdesc, field.kind = .output ∧ field.reportId = reportId.toNat

instance (reportId : UInt8) : Decidable (Declared reportId) :=
  inferInstanceAs (Decidable (∃ field ∈ Hid.layout hidppDdPidRdesc, _))

def declaredLength (reportId : UInt8) : ℕ :=
  Hid.reportLength (Hid.layout hidppDdPidRdesc) .output reportId.toNat

def physical (usage : ℕ) : ℕ := 0x0F * 65536 + usage

/-- The value of the field of a report that carries a usage. -/
def value (report : ℕ → UInt8) (usage : ℕ) : ℤ :=
  match fieldOf (report 0).toNat usage with
  | some field => field.read report
  | none => 0

def unsigned8 (value : ℤ) : UInt8 := UInt8.ofNat value.toNat

def unsigned16 (value : ℤ) : UInt16 := UInt16.ofNat value.toNat

def describedSlot (report : ℕ → UInt8) : ℕ := (value report (physical 0x22)).toNat - 1

/-- Usages 0x25, 0x50 and ordinal 1: effect type, duration and direction. -/
def describedSetEffect (state : State) (report : ℕ → UInt8) : State :=
  state.updateSlot (describedSlot report) fun _ =>
    { allocated := true
      type := unsigned8 (value report (physical 0x25))
      durationMs := unsigned16 (value report (physical 0x50))
      direction := unsigned16 (value report 0x000A0001) }

/-- Usages 0x60 to 0x65: centre, coefficients, saturations and dead band. -/
def describedCondition (report : ℕ → UInt8) (type : FfType) : Payload :=
  .condition type (unsigned16 (value report (physical 0x63)))
    (unsigned16 (value report (physical 0x64))) (Int16.ofInt (value report (physical 0x61)))
    (Int16.ofInt (value report (physical 0x62))) (unsigned16 (value report (physical 0x65)))
    (Int16.ofInt (value report (physical 0x60)))

/-- Usages 0x78 and 0x7C: operation and loop count. -/
def describedOperation (report : ℕ → UInt8) : List Action :=
  let slot := describedSlot report
  let operation := value report (physical 0x78)
  let loops := (value report (physical 0x7C)).toNat
  if operation = 1 ∨ operation = 2 then [.playback slot (if loops = 0 then 1 else loops)]
  else if operation = 3 then [.playback slot 0]
  else []

/-- What the descriptor makes of a report, as far as the wheel has a use for it. -/
def described (state : State) (report : ℕ → UInt8) : State × List Action :=
  let slot := describedSlot report
  let upload (payload : Payload) := Action.upload (state.fillCommon slot payload)
  if report 0 = reportDeviceControl then
    let control := value report (physical 0x96)
    if control = 3 ∨ control = 4 then state.resetSlots else (state, [])
  else if report 0 = reportDeviceGain then
    (state, [.setGain ((value report (physical 0x7E)).toNat * 0xFFFF / 255)])
  else if report 0 = reportSetEffect then (describedSetEffect state report, [])
  else if report 0 = reportSetConstant then
    (state, [upload (.constant (Int16.ofInt (value report (physical 0x70))))])
  else if report 0 = reportSetCondition then
    match typeToFf (state.slots slot).type with
    | some type =>
        if value report (physical 0x23) = 0 then
          (state, [upload (describedCondition report type)])
        else (state, [])
    | none => (state, [])
  else (state, describedOperation report)

/-- The effect types that a report about a block goes with. -/
def TypeMatches (reportId : UInt8) (type : UInt8) : Prop :=
  if reportId = reportSetEffect then True
  else if reportId = reportSetConstant then typeToFf type = some .constant
  else if reportId = reportSetCondition then (typeToFf type).any FfType.isCondition = true
  else typeToFf type ≠ none

/-- The block index of a report, if it has one, is an allocated slot of a matching type. -/
def Matching (state : State) (report : ℕ → UInt8) : Prop :=
  fieldOf (report 0).toNat (physical 0x22) ≠ none →
    ∃ slot < maxEffects, value report (physical 0x22) = slot + 1 ∧
      (state.slots slot).allocated = true ∧ TypeMatches (report 0) (state.slots slot).type

def byteField (reportId usage first : ℕ) : Hid.Field where
  kind := .output
  reportId := reportId
  usage := usage
  offset := 8 * first
  size := 8
  signed := false

def wordField (reportId usage first : ℕ) (signed : Bool) : Hid.Field where
  kind := .output
  reportId := reportId
  usage := usage
  offset := 8 * first
  size := 16
  signed := signed

/-- The fields that `handleOutput` reads, as the descriptor lays them out. -/
def handledFields : List Hid.Field :=
  [byteField 0x50 (physical 0x96) 0, byteField 0x51 (physical 0x22) 0,
    byteField 0x51 (physical 0x25) 1, wordField 0x51 (physical 0x50) 2 false,
    wordField 0x51 0x000A0001 13 false, byteField 0x53 (physical 0x22) 0,
    byteField 0x53 (physical 0x23) 1, wordField 0x53 (physical 0x60) 2 true,
    wordField 0x53 (physical 0x61) 4 true, wordField 0x53 (physical 0x62) 6 true,
    wordField 0x53 (physical 0x63) 8 false, wordField 0x53 (physical 0x64) 10 false,
    wordField 0x53 (physical 0x65) 12 false, byteField 0x55 (physical 0x22) 0,
    wordField 0x55 (physical 0x70) 1 true, byteField 0x59 (physical 0x7E) 0,
    byteField 0x5A (physical 0x22) 0, byteField 0x5A (physical 0x78) 1,
    byteField 0x5A (physical 0x7C) 2]

theorem fieldOf_handled :
    ∀ field ∈ handledFields, fieldOf field.reportId field.usage = some field := by
  decide +kernel

theorem declared_cases {reportId : UInt8} (declared : Declared reportId) :
    (reportId, declaredLength reportId) ∈
      [(0x50, 2), (0x51, 18), (0x52, 10), (0x53, 15), (0x55, 4), (0x58, 4), (0x59, 2), (0x5A, 4),
        (0x5D, 10)] := by
  have reports : ∀ field ∈ Hid.layout hidppDdPidRdesc, field.kind = .output →
      field.reportId ∈ [0x50, 0x51, 0x52, 0x53, 0x55, 0x58, 0x59, 0x5A, 0x5D] := by
    decide +kernel
  have lengths : ∀ number ∈ [0x50, 0x51, 0x52, 0x53, 0x55, 0x58, 0x59, 0x5A, 0x5D],
      (UInt8.ofNat number, declaredLength (UInt8.ofNat number)) ∈
        [(0x50, 2), (0x51, 18), (0x52, 10), (0x53, 15), (0x55, 4), (0x58, 4), (0x59, 2),
          (0x5A, 4), (0x5D, 10)] := by
    decide +kernel
  rcases declared with ⟨field, listed, output, same⟩
  have found := lengths _ (reports field listed output)
  rw [same, UInt8.ofNat_toNat] at found
  exact found

section Values

variable {report : ℕ → UInt8} {reportId usage first : ℕ}

theorem value_of_handled {field : Hid.Field} (number : (report 0).toNat = field.reportId)
    (listed : field ∈ handledFields) :
    value report field.usage = field.read report := by
  have found := fieldOf_handled field listed
  simp only [value, number, found]

theorem read_byteField (report : ℕ → UInt8) (reportId usage first : ℕ) :
    (byteField reportId usage first).read report = (report (1 + first)).toNat := by
  have size : (byteField reportId usage first).size = 8 * 1 := rfl
  have read := Hid.Field.read_bytes report rfl size
  simpa [byteField, Hid.littleEndian] using read

theorem littleEndian_word (report : ℕ → UInt8) (index : ℕ) :
    Hid.littleEndian report index 2 = (report index).toNat + 256 * (report (index + 1)).toNat := by
  simp [Hid.littleEndian]

theorem read_wordField (report : ℕ → UInt8) (reportId usage first : ℕ) :
    unsigned16 ((wordField reportId usage first false).read report) = le16 report (1 + first) := by
  rw [Hid.Field.read_bytes report rfl (rfl : _ = 8 * 2), littleEndian_word]
  simp only [wordField, Bool.false_eq_true, false_and, ↓reduceIte]
  rw [unsigned16, le16, Int.toNat_natCast]

theorem read_signedWordField (report : ℕ → UInt8) (reportId usage first : ℕ) :
    Int16.ofInt ((wordField reportId usage first true).read report) = sle16 report (1 + first) := by
  rw [Hid.Field.read_bytes report rfl (rfl : _ = 8 * 2), littleEndian_word]
  simp only [wordField, true_and]
  rw [sle16, le16, UInt16.toInt16_ofNat', ← Int16.toInt_inj, Int16.toInt_ofInt,
    Int16.toInt_ofNat']
  split_ifs
  · exact Int.sub_bmod_right ..
  · rfl

theorem value_byte (number : (report 0).toNat = reportId)
    (listed : byteField reportId usage first ∈ handledFields) :
    value report usage = (report (1 + first)).toNat :=
  (value_of_handled number listed).trans (read_byteField report reportId usage first)

theorem value_word (number : (report 0).toNat = reportId)
    (listed : wordField reportId usage first false ∈ handledFields) :
    unsigned16 (value report usage) = le16 report (1 + first) := by
  rw [← read_wordField report reportId usage first]
  exact congrArg unsigned16 (value_of_handled number listed)

theorem value_signedWord (number : (report 0).toNat = reportId)
    (listed : wordField reportId usage first true ∈ handledFields) :
    Int16.ofInt (value report usage) = sle16 report (1 + first) := by
  rw [← read_signedWordField report reportId usage first]
  exact congrArg Int16.ofInt (value_of_handled number listed)

end Values

theorem le16_congr {report other : ℕ → UInt8} {count index : ℕ}
    (agree : ∀ position < count, other position = report position) (inside : index + 1 < count) :
    le16 other index = le16 report index := by
  rw [le16, le16, agree index (by omega), agree (index + 1) inside]

theorem sle16_congr {report other : ℕ → UInt8} {count index : ℕ}
    (agree : ∀ position < count, other position = report position) (inside : index + 1 < count) :
    sle16 other index = sle16 report index := by
  rw [sle16, sle16, le16_congr agree inside]

theorem onSlot_congr {state : State} {report other : ℕ → UInt8} {count least : ℕ}
    {actions others : ℕ → List Action}
    (agree : ∀ position < count, other position = report position) (long : 2 ≤ count)
    (same : least ≤ count → ∀ slot, others slot = actions slot) :
    state.onSlot other count least others = state.onSlot report count least actions := by
  by_cases short : count < least
  · simp only [State.onSlot, short, ↓reduceIte]
  · have equal : others = actions := funext (same (by omega))
    simp only [State.onSlot, short, ↓reduceIte, agree 1 (by omega), equal]

/-- What the handler does depends on the bytes of the report only. -/
theorem handleOutput_congr (state : State) {report other : ℕ → UInt8} {count : ℕ}
    (agree : ∀ position < count, other position = report position) :
    state.handleOutput other count = state.handleOutput report count := by
  by_cases short : count < 2
  · simp only [State.handleOutput, short, ↓reduceIte]
  have long : 2 ≤ count := by omega
  have number := agree 0 (by omega)
  have block := agree 1 (by omega)
  have constant := @onSlot_congr state report other count 4
    (fun slot => state.uploadTo slot (.constant (sle16 report 2)))
    (fun slot => state.uploadTo slot (.constant (sle16 other 2))) agree long (by
      intro enough slot
      rw [sle16_congr agree (by omega)])
  have condition := @onSlot_congr state report other count 15
    (fun slot => state.setCondition report slot) (fun slot => state.setCondition other slot)
    agree long (by
      intro enough slot
      simp only [State.setCondition, agree 2 (by omega),
        le16_congr agree (by omega : 9 + 1 < count),
        le16_congr agree (by omega : 11 + 1 < count), sle16_congr agree (by omega : 5 + 1 < count),
        sle16_congr agree (by omega : 7 + 1 < count), le16_congr agree (by omega : 13 + 1 < count),
        sle16_congr agree (by omega : 3 + 1 < count)])
  have periodic := @onSlot_congr state report other count 12
    (fun slot => state.setPeriodic report slot) (fun slot => state.setPeriodic other slot)
    agree long (by
      intro enough slot
      simp only [State.setPeriodic, le16_congr agree (by omega : 2 + 1 < count),
        sle16_congr agree (by omega : 4 + 1 < count), le16_congr agree (by omega : 6 + 1 < count),
        le16_congr agree (by omega : 8 + 1 < count)])
  have operation := @onSlot_congr state report other count 4
    (fun slot => state.effectOp report slot) (fun slot => state.effectOp other slot)
    agree long (by
      intro enough slot
      simp only [State.effectOp, agree 2 (by omega), agree 3 (by omega)])
  have ramp := @onSlot_congr state report other count 6
    (fun slot => state.uploadTo slot (.ramp (sle16 report 2) (sle16 report 4)))
    (fun slot => state.uploadTo slot (.ramp (sle16 other 2) (sle16 other 4))) agree long (by
      intro enough slot
      rw [sle16_congr agree (by omega), sle16_congr agree (by omega)])
  simp only [State.handleOutput, short, ↓reduceIte, number, block, constant, condition, periodic,
    operation, ramp]
  by_cases few : count < 18
  · simp only [few, ↓reduceIte]
  · have effect (slot : ℕ) : state.setEffect other slot = state.setEffect report slot := by
      simp only [State.setEffect, agree 2 (by omega), le16_congr agree (by omega : 3 + 1 < count),
        le16_congr agree (by omega : 14 + 1 < count)]
    simp only [few, ↓reduceIte, effect]

section Reports

variable {state : State} {report : ℕ → UInt8}

theorem block_of_matching {reportId : UInt8} (number : report 0 = reportId)
    (listed : byteField reportId.toNat (physical 0x22) 0 ∈ handledFields)
    (matching : Matching state report) :
    ∃ slot, slotOf (report 1) = some slot ∧ describedSlot report = slot ∧
      (state.slots slot).allocated = true ∧ TypeMatches reportId (state.slots slot).type := by
  have number' : (report 0).toNat = reportId.toNat := by rw [number]
  have found : fieldOf (report 0).toNat (physical 0x22) ≠ none := by
    rw [number']
    have field := fieldOf_handled _ listed
    simp only [byteField] at field
    rw [field]
    exact Option.some_ne_none _
  have index := value_byte number' listed
  rcases matching found with ⟨slot, inRange, named, allocated, typed⟩
  refine ⟨slot, ?_, ?_, allocated, number ▸ typed⟩
  · rw [index, Nat.add_zero] at named
    rw [slotOf, if_neg (by omega)]
    congr 1
    omega
  · rw [describedSlot, named]
    omega

theorem described_deviceControl (number : report 0 = 0x50) :
    state.handleOutput report 2 =
      ((described state report).1, (described state report).2, 2) := by
  have number' : (report 0).toNat = 0x50 := by rw [number]; rfl
  have control := value_byte number' (by decide : byteField 0x50 (physical 0x96) 0 ∈ handledFields)
  have three : report 1 = 3 ↔ value report (physical 0x96) = 3 := by
    rw [control, ← UInt8.toNat_inj]
    norm_cast
  have four : report 1 = 4 ↔ value report (physical 0x96) = 4 := by
    rw [control, ← UInt8.toNat_inj]
    norm_cast
  simp only [State.handleOutput, described, number, reportDeviceControl, three, four,
    Nat.lt_irrefl, ↓reduceIte]
  split_ifs <;> rfl

theorem described_deviceGain (up : state.ffUp = true) (on : state.actuate = true)
    (number : report 0 = 0x59) :
    state.handleOutput report 2 =
      ((described state report).1, (described state report).2, 2) := by
  have number' : (report 0).toNat = 0x59 := by rw [number]; rfl
  have gain := value_byte number' (by decide : byteField 0x59 (physical 0x7E) 0 ∈ handledFields)
  simp [State.handleOutput, described, number, reportDeviceControl, reportDeviceGain, gain,
    State.actuates, up, on]

theorem described_setEffect (number : report 0 = 0x51) (matching : Matching state report) :
    state.handleOutput report 18 =
      ((described state report).1, (described state report).2, 18) := by
  have number' : (report 0).toNat = 0x51 := by rw [number]; rfl
  rcases block_of_matching number (by decide) matching with ⟨slot, named, same, _, _⟩
  have type := value_byte number' (by decide : byteField 0x51 (physical 0x25) 1 ∈ handledFields)
  have duration := value_word number'
    (by decide : wordField 0x51 (physical 0x50) 2 false ∈ handledFields)
  have direction := value_word number'
    (by decide : wordField 0x51 0x000A0001 13 false ∈ handledFields)
  have typeByte : unsigned8 (value report (physical 0x25)) = report 2 := by
    rw [unsigned8, type, Int.toNat_natCast, UInt8.ofNat_toNat]
  simp [State.handleOutput, described, number, reportDeviceControl, reportDeviceGain,
    reportSetEffect, named, State.setEffect, describedSetEffect, same, typeByte, duration,
    direction]

theorem described_setConstant (up : state.ffUp = true) (on : state.actuate = true)
    (number : report 0 = 0x55) (matching : Matching state report) :
    state.handleOutput report 4 =
      ((described state report).1, (described state report).2, 4) := by
  have number' : (report 0).toNat = 0x55 := by rw [number]; rfl
  rcases block_of_matching number (by decide) matching with ⟨slot, named, same, allocated, _⟩
  have level := value_signedWord number'
    (by decide : wordField 0x55 (physical 0x70) 1 true ∈ handledFields)
  simp [State.handleOutput, described, number, reportDeviceControl, reportDeviceGain,
    reportSetEffect, reportSetConstant, State.onSlot, named, State.uploadTo, allocated,
    State.actuates, up, on, same, level]

theorem described_setCondition (up : state.ffUp = true) (on : state.actuate = true)
    (number : report 0 = 0x53) (matching : Matching state report) :
    state.handleOutput report 15 =
      ((described state report).1, (described state report).2, 15) := by
  have number' : (report 0).toNat = 0x53 := by rw [number]; rfl
  rcases block_of_matching number (by decide) matching with ⟨slot, named, same, allocated, typed⟩
  have block := value_byte number' (by decide : byteField 0x53 (physical 0x23) 1 ∈ handledFields)
  have firstBlock : value report (physical 0x23) = 0 ↔ report 2 = 0 := by
    rw [block, ← UInt8.toNat_inj]
    norm_cast
  have condition (type : FfType) : describedCondition report type =
      .condition type (le16 report 9) (le16 report 11) (sle16 report 5) (sle16 report 7)
        (le16 report 13) (sle16 report 3) := by
    rw [describedCondition,
      value_word number' (by decide : wordField 0x53 (physical 0x63) 8 false ∈ handledFields),
      value_word number' (by decide : wordField 0x53 (physical 0x64) 10 false ∈ handledFields),
      value_word number' (by decide : wordField 0x53 (physical 0x65) 12 false ∈ handledFields),
      value_signedWord number' (by decide : wordField 0x53 (physical 0x61) 4 true ∈ handledFields),
      value_signedWord number' (by decide : wordField 0x53 (physical 0x62) 6 true ∈ handledFields),
      value_signedWord number' (by decide : wordField 0x53 (physical 0x60) 2 true ∈ handledFields)]
  have conditional : (typeToFf (state.slots slot).type).any FfType.isCondition = true := by
    simpa [TypeMatches, reportSetEffect, reportSetConstant, reportSetCondition] using typed
  rcases (Option.any_eq_true _ _).mp conditional with ⟨type, mapped, isCondition⟩
  by_cases first : report 2 = 0
  · simp [State.handleOutput, described, number, reportDeviceControl, reportDeviceGain,
      reportSetEffect, reportSetConstant, reportSetCondition, State.onSlot, named,
      State.setCondition, first, firstBlock, same, mapped, isCondition, condition,
      State.uploadTo, allocated, State.actuates, up, on]
  · simp [State.handleOutput, described, number, reportDeviceControl, reportDeviceGain,
      reportSetEffect, reportSetConstant, reportSetCondition, State.onSlot, named,
      State.setCondition, first, firstBlock, same, mapped]

theorem described_effectOp (up : state.ffUp = true) (on : state.actuate = true)
    (number : report 0 = 0x5A) (matching : Matching state report) :
    state.handleOutput report 4 =
      ((described state report).1, (described state report).2, 4) := by
  have number' : (report 0).toNat = 0x5A := by rw [number]; rfl
  rcases block_of_matching number (by decide) matching with ⟨slot, named, same, allocated, typed⟩
  have operation := value_byte number'
    (by decide : byteField 0x5A (physical 0x78) 1 ∈ handledFields)
  have loops := value_byte number' (by decide : byteField 0x5A (physical 0x7C) 2 ∈ handledFields)
  have typeSet : (state.slots slot).type ≠ 0 := by
    intro untyped
    simp [TypeMatches, reportSetEffect, reportSetConstant, reportSetCondition, untyped,
      typeToFf] at typed
  have is (code : UInt8) : value report (physical 0x78) = code.toNat ↔ report 2 = code := by
    rw [operation, ← UInt8.toNat_inj]
    norm_cast
  have one : value report (physical 0x78) = 1 ↔ report 2 = 1 := is 1
  have two : value report (physical 0x78) = 2 ↔ report 2 = 2 := is 2
  have three : value report (physical 0x78) = 3 ↔ report 2 = 3 := is 3
  have noLoops : (report 3).toNat = 0 ↔ report 3 = 0 := by
    rw [← UInt8.toNat_inj]
    rfl
  have operated : state.effectOp report slot = describedOperation report := by
    simp [State.effectOp, describedOperation, allocated, typeSet, one, two, three, loops, noLoops,
      same, State.actuates, up, on]
  simp [State.handleOutput, described, number, reportDeviceControl, reportDeviceGain,
    reportSetEffect, reportSetConstant, reportSetCondition, reportSetPeriodic, reportEffectOp,
    State.onSlot, named, operated]

end Reports

/--
Every declared output report is handled by its own bytes alone.  With the
force-feedback side up and actuating, a Device Control, Device Gain, Set Effect,
Set Constant, Set Condition or Effect Operation report of exactly the declared
length, about an allocated block of a matching type, has the effect that the
descriptor's fields describe.
-/
theorem handler_follows_descriptor (state : State) (report : ℕ → UInt8)
    (declared : Declared (report 0)) (matching : Matching state report) :
    (∀ other, (∀ position < declaredLength (report 0), other position = report position) →
      state.handleOutput other (declaredLength (report 0)) =
        state.handleOutput report (declaredLength (report 0))) ∧
      (state.ffUp = true → state.actuate = true →
        report 0 ∉ [reportSetEnvelope, reportSetRamp, reportSetPeriodic] →
        state.handleOutput report (declaredLength (report 0)) =
          ((described state report).1, (described state report).2,
            (declaredLength (report 0) : ℤ))) := by
  refine ⟨fun other agree => handleOutput_congr state agree, ?_⟩
  intro up on covered
  have cases := declared_cases declared
  simp only [List.mem_cons, Prod.mk.injEq, List.not_mem_nil, or_false] at cases
  simp only [reportSetEnvelope, reportSetRamp, reportSetPeriodic, List.mem_cons,
    List.not_mem_nil, or_false, not_or] at covered
  rcases cases with ⟨number, length⟩ | ⟨number, length⟩ | ⟨number, _⟩ | ⟨number, length⟩ |
    ⟨number, length⟩ | ⟨number, _⟩ | ⟨number, length⟩ | ⟨number, length⟩ | ⟨number, _⟩
  · rw [length]
    exact described_deviceControl number
  · rw [length]
    exact described_setEffect number matching
  · exact absurd number covered.1
  · rw [length]
    exact described_setCondition up on number matching
  · rw [length]
    exact described_setConstant up on number matching
  · exact absurd number covered.2.1
  · rw [length]
    exact described_deviceGain up on number
  · rw [length]
    exact described_effectOp up on number matching
  · exact absurd number covered.2.2

/-- A state in which the first block is an allocated spring. -/
def springSlot : State where
  slots := fun slot =>
    { allocated := slot = 0, type := 9, durationMs := 0x7FFF, direction := 0 }
  lastBlockLoadId := 1
  lastBlockLoadStatus := 1
  ffUp := true
  actuate := true

def conditionReport (offset : UInt8) (index : ℕ) : UInt8 :=
  [0x53, 1, offset, 0x00, 0x00, 0x00, 0x10, 0x00, 0x10, 0xFF, 0x7F, 0xFF, 0x7F].getD index 0

theorem springSlot_matching (offset : UInt8) (indexed : value (conditionReport offset)
    (physical 0x22) = 1) :
    Matching springSlot (conditionReport offset) := by
  intro _
  refine ⟨0, by decide, by simpa using indexed, rfl, ?_⟩
  have number : conditionReport offset 0 = 0x53 := rfl
  rw [number, TypeMatches]
  decide

theorem handler_follows_descriptor_spring :
    springSlot.handleOutput (conditionReport 0) 15 =
      ((described springSlot (conditionReport 0)).1, (described springSlot (conditionReport 0)).2,
        15) := by
  have declared : Declared (conditionReport 0 0) := by decide +kernel
  have length : declaredLength (conditionReport 0 0) = 15 := by decide +kernel
  have follows := (handler_follows_descriptor springSlot (conditionReport 0) declared
    (springSlot_matching 0 (by decide +kernel))).2 rfl rfl (by decide)
  rw [length] at follows
  exact follows

/--
A condition report of the declared length for the second parameter block of an
allocated spring has no effect: the wheel has one axis.
-/
theorem handler_skips_second_axis :
    Declared (conditionReport 1 0) ∧ declaredLength (conditionReport 1 0) = 15 ∧
      Matching springSlot (conditionReport 1) ∧
      springSlot.handleOutput (conditionReport 1) 15 = (springSlot, [], 15) := by
  refine ⟨by decide +kernel, by decide +kernel, ?_, rfl⟩
  exact springSlot_matching 1 (by decide +kernel)

end TrueForce.Pid
