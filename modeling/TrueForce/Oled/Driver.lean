import Mathlib.Algebra.GroupWithZero.Nat
import TrueForce.Foundation.CString

/-!
# The driver's frame parser

What a write to `wheel_oled` becomes: a layout and its fields, packed into the
payload that the wheel draws.
-/

namespace TrueForce.Oled

open TrueForce.CString

abbrev hidppDdOledMaxLayouts : ℕ := 10

abbrev hidppDdOledFrame : ℕ := 60

/-- The longest accepted write, with separators. -/
abbrev hidppDdOledText : ℕ := 96

def hidppDdOledNum : ℤ := -1

/-- A width of 0 ends the field list, and `hidppDdOledNum` is one byte that takes a number. -/
structure SchemaEntry where
  letter : UInt8
  field : List ℤ
  deriving DecidableEq, Repr

def hidppDdOledSchema : List SchemaEntry := [
  { letter := 0x41, field := [] },
  { letter := 0x42, field := [] },
  { letter := 0x43, field := [hidppDdOledNum] },
  { letter := 0x44, field := [hidppDdOledNum, hidppDdOledNum, 11] },
  { letter := 0x45, field := [hidppDdOledNum, hidppDdOledNum, 3, 7] },
  { letter := 0x46, field := [1, 3] },
  { letter := 0x47, field := [1, 3] },
  { letter := 0x48, field := [21, 10] },
  { letter := 0x49, field := [19, 10, 19, 10] },
  { letter := 0x4A, field := [19, 10, 19, 10] }]

def schemaField (layout : ℕ) : List ℤ :=
  ((hidppDdOledSchema[layout]?).map SchemaEntry.field).getD []

inductive OledError where
  /-- `EINVAL` -/
  | invalid
  /-- `EMSGSIZE` -/
  | messageSize
  /-- `ENOENT` -/
  | noEntry
  /-- `E2BIG` -/
  | tooBig
  deriving DecidableEq, Repr

def separator : UInt8 := 0x7C

/-- The layout that the first token names. -/
def layoutOf (token : Bytes) : Option ℕ :=
  let letter :=
    match token with
    | [byte] =>
        if (0x41 ≤ byte ∧ byte ≤ 0x4A) ∨ (0x61 ≤ byte ∧ byte ≤ 0x6A) then
          some ((byte ||| 0x20).toNat - 0x61)
        else none
    | _ => none
  match letter with
  | some layout => some layout
  | none =>
      match kstrtoint 10 token with
      | .ok layout => if layout < 0 ∨ 9 < layout then none else some layout.toNat
      | .error _ => none

def fieldBytes (width : ℤ) (token : Bytes) : Except OledError Bytes :=
  if width = 0 then .error .tooBig
  else if width = hidppDdOledNum then
    match kstrtouint 10 token with
    | .ok value => if 255 < value then .error .invalid else .ok [UInt8.ofNat value]
    | .error _ => .error .invalid
  else if width.toNat < token.length then .error .messageSize
  else .ok (token.rightpad width.toNat 0x20)

/-- The bytes that the fields write, one field after another. -/
def parseFields : List ℤ → List Bytes → Except OledError Bytes
  | _, [] => .ok []
  | widths, token :: tokens => do
      let block ← fieldBytes (widths.headD 0) token
      let rest ← parseFields widths.tail tokens
      .ok (block ++ rest)

def parseTokens (countMax : ℕ) : List Bytes → Except OledError Bytes
  | [] => .error .invalid
  | head :: tokens =>
      if head = [] then .error .invalid
      else
        match layoutOf head with
        | none => .error .invalid
        | some layout =>
            if countMax ≤ layout then .error .noEntry
            else (parseFields (schemaField layout) tokens).map fun fields =>
              (UInt8.ofNat layout :: fields).rightpad hidppDdOledFrame 0

/-- `hidpp_dd_oled_parse`, on a write of all the bytes of `buffer`. -/
def hidppDdOledParse (buffer : Bytes) (countMax : ℕ) : Except OledError Bytes :=
  if hidppDdOledText ≤ buffer.length then .error .messageSize
  else parseTokens countMax ((strim (contents buffer)).splitOn separator)

theorem fieldBytes_length {width : ℤ} {token block : Bytes}
    (accepted : fieldBytes width token = .ok block) :
    block.length ≤ width.natAbs := by
  simp only [fieldBytes] at accepted
  split_ifs at accepted with ended number long
  · split at accepted
    · split_ifs at accepted
      cases accepted
      simp [number, hidppDdOledNum]
    · cases accepted
  · cases accepted
    simp only [List.rightpad, List.length_append, List.length_replicate]
    omega

theorem parseFields_cons {widths : List ℤ} {token : Bytes} {tokens : List Bytes} {fields : Bytes} :
    parseFields widths (token :: tokens) = .ok fields ↔
      ∃ block rest, fieldBytes (widths.headD 0) token = .ok block ∧
        parseFields widths.tail tokens = .ok rest ∧ fields = block ++ rest := by
  simp only [parseFields, bind, Except.bind]
  cases fieldBytes (widths.headD 0) token with
  | error => simp
  | ok block =>
      cases parseFields widths.tail tokens with
      | error => simp
      | ok rest => simp [eq_comm]

theorem parseFields_length {widths : List ℤ} {tokens : List Bytes} {fields : Bytes}
    (accepted : parseFields widths tokens = .ok fields) :
    fields.length ≤ (widths.map Int.natAbs).sum := by
  induction tokens generalizing widths fields with
  | nil =>
      cases accepted
      simp
  | cons token tokens ih =>
      rcases parseFields_cons.mp accepted with ⟨block, rest, first, others, rfl⟩
      have blockLength := fieldBytes_length first
      have restLength := ih others
      cases widths with
      | nil => simp [fieldBytes] at first
      | cons width widths =>
          simp only [List.headD_cons] at blockLength
          simp only [List.tail_cons] at restLength
          simp only [List.length_append, List.map_cons, List.sum_cons]
          omega

theorem schemaField_sum (layout : ℕ) :
    ((schemaField layout).map Int.natAbs).sum < hidppDdOledFrame := by
  simp only [schemaField]
  cases found : hidppDdOledSchema[layout]? with
  | none => decide
  | some entry =>
      have every : ∀ entry ∈ hidppDdOledSchema,
          (entry.field.map Int.natAbs).sum < hidppDdOledFrame := by
        decide
      exact every entry (List.mem_of_getElem? found)

/-- An accepted write never writes past the report, and fills it. -/
theorem hidppDdOledParse_length {buffer frame : Bytes} {countMax : ℕ}
    (accepted : hidppDdOledParse buffer countMax = .ok frame) :
    frame.length = hidppDdOledFrame := by
  simp only [hidppDdOledParse] at accepted
  split_ifs at accepted
  cases tokens : (strim (contents buffer)).splitOn separator with
  | nil => simp [tokens, parseTokens] at accepted
  | cons head rest =>
      rw [tokens, parseTokens] at accepted
      split_ifs at accepted
      cases named : layoutOf head with
      | none => simp [named] at accepted
      | some layout =>
          simp only [named] at accepted
          split_ifs at accepted
          cases parsed : parseFields (schemaField layout) rest with
          | error => simp [parsed, Except.map] at accepted
          | ok fields =>
              simp only [parsed, Except.map, Except.ok.injEq] at accepted
              have within := parseFields_length parsed
              have room := schemaField_sum layout
              rw [← accepted]
              simp only [List.rightpad, List.length_append, List.length_cons,
                List.length_replicate]
              omega

end TrueForce.Oled
