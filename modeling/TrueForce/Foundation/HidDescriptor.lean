import Mathlib.Data.Int.Notation
import Mathlib.Data.Nat.Notation
import Mathlib.Tactic.Ring

/-!
# HID report descriptors

A report descriptor is a sequence of short items: a prefix byte that holds the
size, type and tag, and up to four bytes of data.  Global items set parameters
that stay in force, local items describe the next main item, and an Input, Output
or Feature item lays out as many fields as the report count says, one behind the
other within its report.

`layout` interprets a descriptor as the list of fields it declares, and
`Field.read` is the value of a field in a numbered report: the little-endian bits
at its offset behind the number, signed when the logical minimum is negative.  A
variable field is named by its own usage, an array field by the usage of the
collection that encloses it.
-/

namespace TrueForce.Foundation.Hid

/-- The number that some bytes of a memory spell, least significant first. -/
def littleEndian (memory : ℕ → UInt8) (start : ℕ) : ℕ → ℕ
  | 0 => 0
  | count + 1 => (memory start).toNat + 256 * littleEndian memory (start + 1) count

theorem littleEndian_lt (memory : ℕ → UInt8) (start count : ℕ) :
    littleEndian memory start count < 256 ^ count := by
  induction count generalizing start with
  | zero => exact Nat.one_pos
  | succ count ih =>
      have first := (memory start).toNat_lt
      have rest := ih (start + 1)
      rw [littleEndian, pow_succ]
      omega

theorem littleEndian_add (memory : ℕ → UInt8) (start first second : ℕ) :
    littleEndian memory start (first + second) =
      littleEndian memory start first +
        256 ^ first * littleEndian memory (start + first) second := by
  induction first generalizing start with
  | zero => simp [littleEndian]
  | succ first ih =>
      rw [Nat.succ_add, littleEndian, ih (start + 1), littleEndian, pow_succ, Nat.add_assoc start 1,
        Nat.add_comm 1 first]
      ring

/-- The bytes from `first` on, as a slice of the bits of the whole. -/
theorem littleEndian_slice (memory : ℕ → UInt8) (start first second : ℕ) :
    littleEndian memory start (first + second) / 256 ^ first % 256 ^ second =
      littleEndian memory (start + first) second := by
  have low := littleEndian_lt memory start first
  have high := littleEndian_lt memory (start + first) second
  rw [littleEndian_add, Nat.add_mul_div_left _ _ (Nat.pow_pos (by decide)), Nat.div_eq_of_lt low,
    Nat.zero_add, Nat.mod_eq_of_lt high]

inductive ItemType where
  | main
  | global
  | localItem
  | reserved
  deriving DecidableEq, Repr

structure Item where
  type : ItemType
  tag : ℕ
  size : ℕ
  data : ℕ
  deriving DecidableEq, Repr

/-- The data as a two's-complement number of the item's size. -/
def Item.signed (item : Item) : ℤ :=
  if item.size ≠ 0 ∧ 2 ^ (8 * item.size - 1) ≤ item.data then
    (item.data : ℤ) - 2 ^ (8 * item.size)
  else item.data

def itemType : ℕ → ItemType
  | 0 => .main
  | 1 => .global
  | 2 => .localItem
  | _ => .reserved

/-- Split a descriptor into its short items, with as much fuel as it has bytes. -/
def items : ℕ → List UInt8 → List Item
  | 0, _ => []
  | _, [] => []
  | fuel + 1, lead :: rest =>
      let size := if lead.toNat % 4 = 3 then 4 else lead.toNat % 4
      let item : Item :=
        { type := itemType (lead.toNat / 4 % 4)
          tag := lead.toNat / 16
          size := size
          data := littleEndian (fun index => rest.getD index 0) 0 size }
      item :: items fuel (rest.drop size)

inductive Kind where
  | input
  | output
  | feature
  deriving DecidableEq, Repr

structure Field where
  kind : Kind
  reportId : ℕ
  usage : ℕ
  /-- In bits behind the report number. -/
  offset : ℕ
  size : ℕ
  signed : Bool
  deriving DecidableEq, Repr

structure Globals where
  usagePage : ℕ
  logicalMinimum : ℤ
  reportSize : ℕ
  reportCount : ℕ
  reportId : ℕ
  deriving DecidableEq, Repr

structure Parser where
  globals : Globals
  stack : List Globals
  usages : List ℕ
  /-- The usages of the open collections, innermost first. -/
  collections : List ℕ
  fields : List Field
  deriving DecidableEq, Repr

def Parser.start : Parser where
  globals :=
    { usagePage := 0, logicalMinimum := 0, reportSize := 0, reportCount := 0, reportId := 0 }
  stack := []
  usages := []
  collections := []
  fields := []

def bits (fields : List Field) (kind : Kind) (reportId : ℕ) : ℕ :=
  ((fields.filter fun field => field.kind = kind ∧ field.reportId = reportId).map
    Field.size).sum

/-- A usage of one or two bytes is on the current page; one of four bytes names its own. -/
def Parser.usage (parser : Parser) (item : Item) : ℕ :=
  if item.size = 4 then item.data else parser.globals.usagePage * 65536 + item.data

def Parser.fieldUsage (parser : Parser) (flags index : ℕ) : ℕ :=
  if flags % 2 = 1 then 0
  else if flags / 2 % 2 = 0 then parser.collections.headD 0
  else parser.usages.getD (min index (parser.usages.length - 1)) 0

/-- Lay out the fields of an Input, Output or Feature item. -/
def Parser.declare (parser : Parser) (kind : Kind) (flags : ℕ) : Parser :=
  let globals := parser.globals
  let base := bits parser.fields kind globals.reportId
  let fields := (List.range globals.reportCount).map fun index =>
    { kind := kind
      reportId := globals.reportId
      usage := parser.fieldUsage flags index
      offset := base + index * globals.reportSize
      size := globals.reportSize
      signed := globals.logicalMinimum < 0 : Field }
  { parser with fields := parser.fields ++ fields, usages := [] }

def Parser.item (parser : Parser) (item : Item) : Parser :=
  let globals := parser.globals
  match item.type, item.tag with
  | .main, 0x8 => parser.declare .input item.data
  | .main, 0x9 => parser.declare .output item.data
  | .main, 0xB => parser.declare .feature item.data
  | .main, 0xA =>
      { parser with collections := parser.usages.headD 0 :: parser.collections, usages := [] }
  | .main, 0xC => { parser with collections := parser.collections.tail, usages := [] }
  | .global, 0x0 => { parser with globals := { globals with usagePage := item.data } }
  | .global, 0x1 => { parser with globals := { globals with logicalMinimum := item.signed } }
  | .global, 0x7 => { parser with globals := { globals with reportSize := item.data } }
  | .global, 0x8 => { parser with globals := { globals with reportId := item.data } }
  | .global, 0x9 => { parser with globals := { globals with reportCount := item.data } }
  | .global, 0xA => { parser with stack := globals :: parser.stack }
  | .global, 0xB =>
      { parser with globals := parser.stack.headD globals, stack := parser.stack.tail }
  | .localItem, 0x0 => { parser with usages := parser.usages ++ [parser.usage item] }
  | _, _ => parser

def layout (descriptor : List UInt8) : List Field :=
  ((items descriptor.length descriptor).foldl Parser.item Parser.start).fields

/-- The bytes of a numbered report: its number and its fields. -/
def reportLength (fields : List Field) (kind : Kind) (reportId : ℕ) : ℕ :=
  1 + (bits fields kind reportId + 7) / 8

def Field.read (field : Field) (report : ℕ → UInt8) : ℤ :=
  let raw := littleEndian report 1 ((field.offset + field.size + 7) / 8) / 2 ^ field.offset %
    2 ^ field.size
  if field.signed ∧ 2 ^ (field.size - 1) ≤ raw then (raw : ℤ) - 2 ^ field.size else raw

/-- The value of a field that starts and ends at byte boundaries. -/
theorem Field.read_bytes {field : Field} {first count : ℕ} (report : ℕ → UInt8)
    (offset : field.offset = 8 * first) (size : field.size = 8 * count) :
    field.read report =
      if field.signed ∧ 2 ^ (8 * count - 1) ≤ littleEndian report (1 + first) count then
        (littleEndian report (1 + first) count : ℤ) - 2 ^ (8 * count)
      else littleEndian report (1 + first) count := by
  have whole : (field.offset + field.size + 7) / 8 = first + count := by omega
  have power (exponent : ℕ) : (2 : ℕ) ^ (8 * exponent) = 256 ^ exponent := by
    rw [pow_mul]
    norm_num
  simp only [Field.read, whole]
  rw [offset, size, power, power, littleEndian_slice]

end TrueForce.Foundation.Hid
