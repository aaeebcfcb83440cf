import TrueForce.LogiFfb.Descriptor
import TrueForce.LogiFfb.Source
import TrueForce.LogiFfb.UhidLaw
import Mathlib.Data.Nat.Bitwise

/-!
# The input as the host reads it

The input report goes to the kernel as bytes, and the host takes it apart by the descriptor.
Field by field it finds where the axes, the buttons and the hat of the real wheel are.
-/

namespace TrueForce.LogiFfb

open ByteBuffer
open TrueForce.Foundation
open TrueForce.Pid (memory)

def inputReportId : UInt8 := 1

def inputReportLen : ℕ := 18

/-- `u64::to_le_bytes` -/
def le64 (value : BitVec 64) : Bytes :=
  (List.range 8).map fun index => UInt8.ofNat (value.toNat / 256 ^ index)

def InputReport.toBytes (report : InputReport) : Bytes :=
  [inputReportId] ++ le16 report.steering ++ le16 report.throttle ++ le16 report.brake ++
    le16 report.clutch ++ le64 report.buttons ++ [report.hat]

/-- `JOYSTICK_PREFIX` -/
def joystickPrefix : List UInt8 :=
  [
    -- Joystick, report 1
    0x05, 0x01, 0x09, 0x04, 0xA1, 0x01, 0x85, inputReportId,
    -- steering, throttle, brake and clutch
    0x09, 0x01, 0xA1, 0x00, 0x09, 0x30, 0x09, 0x31, 0x09, 0x32, 0x09, 0x35,
    0x15, 0x00, 0x27, 0xFF, 0xFF, 0x00, 0x00, 0x75, 0x10, 0x95, 0x04, 0x81, 0x02, 0xC0,
    -- buttons 1 to 64
    0x05, 0x09, 0x19, 0x01, 0x29, 0x40, 0x15, 0x00, 0x25, 0x01, 0x75, 0x01, 0x95, 0x40, 0x81, 0x02,
    -- hat switch
    0x05, 0x01, 0x09, 0x39, 0x15, 0x00, 0x25, 0x07, 0x75, 0x08, 0x95, 0x01, 0x81, 0x42]

def blockFreeCollection : List UInt8 :=
  [0x05, 0x0F, 0x09, 0x90, 0xA1, 0x02, 0x85, 0x5B, 0x09, 0x22, 0x15, 0x01, 0x25, 0x28, 0x75, 0x08,
    0x95, 0x01, 0x91, 0x02, 0xC0]

def appEnd : List UInt8 := [0xC0]

def reportDescriptor : List UInt8 :=
  joystickPrefix ++ pidCollection ++ blockFreeCollection ++ appEnd

/-- The fields of the input report, in their order. -/
def inputFields : List Hid.Field :=
  (Hid.layout reportDescriptor).filter fun field =>
    field.kind = .input ∧ field.reportId = inputReportId.toNat

section Bytes

variable {first second bytes : Bytes}

theorem littleEndian_append (first second : Bytes) :
    littleEndian (first ++ second) =
      littleEndian first + 256 ^ first.length * littleEndian second := by
  induction first with
  | nil => simp [littleEndian]
  | cons byte first ih =>
      rw [List.cons_append, littleEndian, ih, littleEndian, List.length_cons, pow_succ]
      ring

theorem littleEndian_digits (value count : ℕ) :
    littleEndian ((List.range count).map fun index => UInt8.ofNat (value / 256 ^ index)) =
      value % 256 ^ count := by
  induction count with
  | zero => simp [littleEndian, Nat.mod_one]
  | succ count ih =>
      rw [List.range_succ, List.map_append, littleEndian_append, ih, List.length_map,
        List.length_range, Nat.pow_succ, Nat.mod_mul]
      simp [littleEndian]

theorem littleEndian_le64 (value : BitVec 64) : littleEndian (le64 value) = value.toNat := by
  rw [le64, littleEndian_digits]
  exact Nat.mod_eq_of_lt value.isLt

theorem length_le64 (value : BitVec 64) : (le64 value).length = 8 := by
  rw [le64, List.length_map, List.length_range]

/-- The bytes of a list, read off the memory that it fills. -/
theorem littleEndian_memory (bytes : Bytes) (start : ℕ) {count : ℕ}
    (whole : bytes.length = start + count) :
    Hid.littleEndian (memory bytes) start count = littleEndian (bytes.drop start) := by
  induction count generalizing start with
  | zero =>
      rw [List.drop_of_length_le (by omega)]
      rfl
  | succ count ih =>
      have inside : start < bytes.length := by omega
      rw [Hid.littleEndian, ih (start + 1) (by omega), List.drop_eq_getElem_cons inside,
        littleEndian, memory, List.getD_eq_getElem _ _ inside]
      rfl

end Bytes

/-- A field without a sign is a part of the number that the whole report is. -/
theorem read_of_whole {field : Hid.Field} {report : ℕ → UInt8} {count : ℕ}
    (plain : field.signed = false) (inside : field.offset + field.size ≤ 8 * count) :
    field.read report =
      (Hid.littleEndian report 1 count / 2 ^ field.offset % 2 ^ field.size : ℕ) := by
  have short : (field.offset + field.size + 7) / 8 ≤ count := by omega
  rcases Nat.exists_eq_add_of_le short with ⟨rest, rfl⟩
  have power (exponent : ℕ) : (256 : ℕ) ^ exponent = 2 ^ (8 * exponent) := by
    rw [pow_mul]
    norm_num
  have room : field.offset + field.size ≤ 8 * ((field.offset + field.size + 7) / 8) := by omega
  simp only [Hid.Field.read, plain, Bool.false_eq_true, false_and, if_false]
  generalize (field.offset + field.size + 7) / 8 = covered at room ⊢
  rcases Nat.exists_eq_add_of_le room with ⟨slack, slackEq⟩
  have cut : Hid.littleEndian report 1 (covered + rest) % 2 ^ (field.offset + field.size) =
      Hid.littleEndian report 1 covered % 2 ^ (field.offset + field.size) := by
    rw [Hid.littleEndian_add, power, slackEq, pow_add, Nat.mul_assoc, Nat.add_mul_mod_self_left]
  rw [← Nat.mod_mul_right_div_self, ← Nat.mod_mul_right_div_self, ← pow_add, cut]

section Report

variable (report : InputReport)

theorem length_toBytes : report.toBytes.length = inputReportLen := by
  simp only [InputReport.toBytes, List.length_append, List.length_singleton, length_le16,
    length_le64]
  rfl

/-- The number that the report is behind its id. -/
theorem littleEndian_toBytes :
    Hid.littleEndian (memory report.toBytes) 1 17 =
      report.steering.toNat + 2 ^ 16 * report.throttle.toNat + 2 ^ 32 * report.brake.toNat +
        2 ^ 48 * report.clutch.toNat + 2 ^ 64 * report.buttons.toNat +
          2 ^ 128 * report.hat.toNat := by
  have whole : report.toBytes.length = 1 + 17 := length_toBytes report
  rw [littleEndian_memory report.toBytes 1 whole]
  simp only [InputReport.toBytes, List.cons_append, List.nil_append, List.drop_one, List.tail_cons,
    littleEndian_append, littleEndian_le16, littleEndian_le64, List.length_append, length_le16,
    length_le64, littleEndian]
  ring

def axisFields : List Hid.Field :=
  [⟨.input, 1, 0x10030, 0, 16, false⟩, ⟨.input, 1, 0x10031, 16, 16, false⟩,
    ⟨.input, 1, 0x10032, 32, 16, false⟩, ⟨.input, 1, 0x10035, 48, 16, false⟩]

def buttonFields : List Hid.Field :=
  (List.range 64).map fun button => ⟨.input, 1, 0, 64 + button, 1, false⟩

/-- The fields of the descriptor's input report. -/
def declaredInputs : List Hid.Field :=
  axisFields ++ buttonFields ++ [⟨.input, 1, 0x10039, 128, 8, false⟩]

theorem inputFields_eq : inputFields = declaredInputs := by
  rw [inputFields, reportDescriptor, pidCollection_eq]
  decide +kernel

/-- What lies below a field and above it does not show in it. -/
theorem slice_digit {low word high start width offset : ℕ} (below : low < 2 ^ start)
    (inside : offset < width) :
    (low + 2 ^ start * (word + 2 ^ width * high)) / 2 ^ (start + offset) % 2 =
      word / 2 ^ offset % 2 := by
  have positive (exponent : ℕ) : 0 < 2 ^ exponent := Nat.pow_pos (by decide)
  rcases Nat.exists_eq_add_of_lt inside with ⟨rest, rfl⟩
  have above : 2 ^ (offset + rest + 1) * high = 2 ^ offset * (2 * (2 ^ rest * high)) := by
    rw [Nat.add_assoc, pow_add, pow_succ]
    ring
  rw [pow_add 2 start offset, ← Nat.div_div_eq_div_mul, Nat.add_mul_div_left _ _ (positive start),
    Nat.div_eq_of_lt below, Nat.zero_add, above, Nat.add_mul_div_left _ _ (positive offset),
    Nat.add_mul_mod_self_left]

theorem buttons_digit {button : ℕ} (inside : button < 64) :
    (report.steering.toNat + 2 ^ 16 * report.throttle.toNat + 2 ^ 32 * report.brake.toNat +
        2 ^ 48 * report.clutch.toNat + 2 ^ 64 * report.buttons.toNat + 2 ^ 128 * report.hat.toNat) /
          2 ^ (64 + button) % 2 = if report.buttons.getLsbD button then 1 else 0 := by
  have steering := report.steering.toNat_lt
  have throttle := report.throttle.toNat_lt
  have brake := report.brake.toNat_lt
  have clutch := report.clutch.toNat_lt
  have below : report.steering.toNat + 2 ^ 16 * report.throttle.toNat +
      2 ^ 32 * report.brake.toNat + 2 ^ 48 * report.clutch.toNat < 2 ^ 64 := by omega
  have digit := @slice_digit _ report.buttons.toNat report.hat.toNat _ _ _ below inside
  have same : report.steering.toNat + 2 ^ 16 * report.throttle.toNat +
      2 ^ 32 * report.brake.toNat + 2 ^ 48 * report.clutch.toNat +
        2 ^ 64 * report.buttons.toNat + 2 ^ 128 * report.hat.toNat =
      report.steering.toNat + 2 ^ 16 * report.throttle.toNat +
        2 ^ 32 * report.brake.toNat + 2 ^ 48 * report.clutch.toNat +
          2 ^ 64 * (report.buttons.toNat + 2 ^ 64 * report.hat.toNat) := by ring
  rw [same, digit, BitVec.getLsbD, Nat.testBit_eq_decide_div_mod_eq]
  have parity := Nat.mod_two_eq_zero_or_one (report.buttons.toNat / 2 ^ button)
  rcases parity with even | odd
  · rw [even]
    rfl
  · rw [odd]
    rfl

/-- The host's reading of the report, field by field. -/
theorem read_inputFields :
    inputFields.map (fun field => field.read (memory report.toBytes)) =
      [(report.steering.toNat : ℤ), report.throttle.toNat, report.brake.toNat,
        report.clutch.toNat] ++
      (List.range 64).map (fun button => if report.buttons.getLsbD button then 1 else 0) ++
      [(report.hat.toNat : ℤ)] := by
  have steering := report.steering.toNat_lt
  have throttle := report.throttle.toNat_lt
  have brake := report.brake.toNat_lt
  have clutch := report.clutch.toNat_lt
  have whole := littleEndian_toBytes report
  generalize number : Hid.littleEndian (memory report.toBytes) 1 17 = value at whole
  have part (usage offset size : ℕ) (inside : offset + size ≤ 8 * 17) :
      (⟨.input, 1, usage, offset, size, false⟩ : Hid.Field).read (memory report.toBytes) =
        (value / 2 ^ offset % 2 ^ size : ℕ) := by
    rw [← number]
    exact read_of_whole rfl inside
  have words : axisFields.map (fun field => field.read (memory report.toBytes)) =
      [(report.steering.toNat : ℤ), report.throttle.toNat, report.brake.toNat,
        report.clutch.toNat] := by
    have first : value / 2 ^ 0 % 2 ^ 16 = report.steering.toNat := by omega
    have second : value / 2 ^ 16 % 2 ^ 16 = report.throttle.toNat := by omega
    have third : value / 2 ^ 32 % 2 ^ 16 = report.brake.toNat := by omega
    have fourth : value / 2 ^ 48 % 2 ^ 16 = report.clutch.toNat := by omega
    simp (disch := decide) only [axisFields, List.map_cons, List.map_nil, part, first, second,
      third, fourth]
  have buttons : buttonFields.map (fun field => field.read (memory report.toBytes)) =
      (List.range 64).map fun button => if report.buttons.getLsbD button then 1 else 0 := by
    rw [buttonFields, List.map_map]
    apply List.map_congr_left
    intro button known
    have inside := List.mem_range.mp known
    have digit := buttons_digit report inside
    rw [← whole] at digit
    rw [Function.comp_apply, part 0 (64 + button) 1 (by omega), pow_one, digit]
    split <;> rfl
  have hat : (⟨.input, 1, 0x10039, 128, 8, false⟩ : Hid.Field).read (memory report.toBytes) =
      report.hat.toNat := by
    have small := report.hat.toNat_lt
    have word := report.buttons.isLt
    have last : value / 2 ^ 128 % 2 ^ 8 = report.hat.toNat := by omega
    rw [part 0x10039 128 8 (by decide), last]
  rw [inputFields_eq, declaredInputs, List.map_append, List.map_append, words, buttons,
    List.map_singleton, hat]

end Report

section Controls

variable {events : List InputEvent} {event : InputEvent} {bit : ℕ}

/-- The last value for a button's place in the report. -/
def lastButton (bit : ℕ) (events : List InputEvent) : Option Int32 :=
  (events.reverse.find? fun event =>
    decide (event.type = evKey ∧ Representable event.code ∧ buttonBit event.code = bit)).map
      InputEvent.value

theorem lastButton_append : lastButton bit (events ++ [event]) =
    if event.type = evKey ∧ Representable event.code ∧ buttonBit event.code = bit then
      some event.value
    else lastButton bit events := by
  rw [lastButton, List.reverse_append, List.reverse_singleton, List.singleton_append,
    List.find?_cons]
  by_cases named : event.type = evKey ∧ Representable event.code ∧ buttonBit event.code = bit
  · rw [decide_eq_true named, if_pos named]
    rfl
  · rw [decide_eq_false named, if_neg named]
    rfl

theorem buttons_fold (events : List InputEvent) (bit : ℕ) :
    (InputReport.fold events).buttons.getLsbD bit = (lastButton bit events).any (· != 0) := by
  induction events using List.reverseRecOn with
  | nil =>
      apply Bool.eq_false_of_not_eq_true
      intro set
      rw [InputReport.fold, List.foldl_nil, InputReport.default] at set
      simp at set
  | append_singleton events event ih =>
      rw [fold_append, buttons_mapEvent, lastButton_append]
      by_cases key : event.type = evKey ∧ Representable event.code
      · rw [if_pos key]
        by_cases pressed : event.value ≠ 0
        · rw [if_pos pressed, getLsbD_press _ _ key.2.2, ih]
          by_cases here : buttonBit event.code = bit
          · rw [if_pos ⟨key.1, key.2, here⟩, decide_eq_true here.symm, Bool.or_true,
              Option.any_some]
            exact (bne_iff_ne.mpr pressed).symm
          · rw [if_neg (fun all => here all.2.2), decide_eq_false (Ne.symm here), Bool.or_false]
        · have released := not_not.mp pressed
          rw [if_neg pressed, getLsbD_release _ _ key.2.2, ih]
          by_cases here : buttonBit event.code = bit
          · rw [if_pos ⟨key.1, key.2, here⟩, decide_eq_false (not_not_intro here.symm),
              Bool.and_false, Option.any_some, released]
            rfl
          · rw [if_neg (fun all => here all.2.2), decide_eq_true (Ne.symm here), Bool.and_true]
      · rw [if_neg key, ih, if_neg (fun all => key ⟨all.1, all.2.1⟩)]

/-- Where a control of the wheel is. -/
def position {Value : Type} (events : List InputEvent) (code : UInt16) (convert : Int32 → Value)
    (rest : Value) : Value :=
  ((lastValue evAbs code events).map convert).getD rest

def heldAt (events : List InputEvent) (bit : ℕ) : Bool := (lastButton bit events).any (· != 0)

/-- What the host should see of the wheel. -/
def wheelState (events : List InputEvent) : List ℤ :=
  [absX, absRx, absRy, absRz].map (fun code => ((position events code axisValue 0).toNat : ℤ)) ++
    (List.range 64).map (fun bit => if heldAt events bit then 1 else 0) ++
    [((hatDirection (position events absHat0X hatValue 0)
      (position events absHat0Y hatValue 0)).toNat : ℤ)]

/-- The report of the wheel's events gets through the kernel whole, and by the descriptor the
host sees in it the wheel as the events left it. -/
theorem wheel_input_law (events : List InputEvent) :
    ∃ report, (Uhid.encodeInput2 (InputReport.fold events).toBytes).bind Uhid.readInput2 =
        some report ∧
      8 * (report.length - 1) = (inputFields.map Hid.Field.size).sum ∧
      inputFields.map (fun field => field.read (memory report)) = wheelState events := by
  have mirror := axesMirror events
  have length := length_toBytes (InputReport.fold events)
  refine ⟨(InputReport.fold events).toBytes, ?_, ?_, ?_⟩
  · have law := Uhid.input2_law (InputReport.fold events).toBytes
    rw [if_pos] at law
    · exact law
    · rw [length]
      decide
  · rw [length, inputFields_eq]
    rfl
  · rw [read_inputFields, wheelState, mirror.steering, mirror.throttle, mirror.brake,
      mirror.clutch, mirror.hat]
    simp only [buttons_fold]
    rfl

end Controls

end TrueForce.LogiFfb
