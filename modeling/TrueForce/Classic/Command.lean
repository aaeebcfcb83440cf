import TrueForce.Foundation.CInt
import Mathlib.Algebra.Group.Int.Defs
import Mathlib.Algebra.Group.Nat.Defs
import Mathlib.Data.Fin.Basic

/-!
# The commands of the classic wheel

A slot of the wheel is started, refreshed and stopped by a command of seven bytes.
`dd_lg4ff_update_slot` packs it from the slot's kind and the forces of a tick, and
marks it for sending when it says something new.
-/

namespace TrueForce.Classic

open TrueForce.CInt

/-- The kinds of effect a slot plays; `effect_type` is 0 for none. -/
inductive SlotType where
  | constant
  | spring
  | damper
  | friction
  deriving DecidableEq, Repr

/-- `struct dd_lg4ff_effect_parameters` -/
structure Parameters where
  level : ℤ := 0
  d1 : ℤ := 0
  d2 : ℤ := 0
  k1 : ℤ := 0
  k2 : ℤ := 0
  clip : UInt32 := 0
  deriving DecidableEq, Repr

abbrev Command := List UInt8

structure Slot where
  currentCmd : Command
  cmdOp : ℕ
  isUpdated : Bool
  effectType : Option SlotType
  deriving DecidableEq, Repr

/-- `DD_LG4FF_CLAMP_VALUE_U16` -/
def clampValueU16 (x : ℤ) : ℤ := if 0xffff < x then 0xffff else x % 0x10000

/-- `DD_LG4FF_SCALE_VALUE_U16` -/
def scaleValueU16 (x : ℤ) (bits : ℕ) : ℤ := clampValueU16 x / 2 ^ (16 - bits)

/-- `DD_LG4FF_SCALE_COEFF` -/
def scaleCoeff (x : ℤ) (bits : ℕ) : ℤ := scaleValueU16 (x.natAbs * 2) bits

/-- `DD_LG4FF_TRANSLATE_FORCE` -/
def translateForce (x : ℤ) : ℤ := (clampS16 x % 0x10000 + 0x8000) / 2 ^ 8

def signBit (x : ℤ) : ℤ := if x < 0 then 1 else 0

def opStart : ℕ := 1

def opStop : ℕ := 3

def opRefresh : ℕ := 0xc

/-- The operation that follows another. -/
def nextOp (effectType : Option SlotType) (clip : UInt32) (op : ℕ) : ℕ :=
  if effectType = some .constant then
    if op = 0 then opStart else opRefresh
  else if clip = 0 ∨ effectType = none then opStop
  else if op = opStop then opStart
  else opRefresh

/-- The first byte: the slot and the operation. -/
def head (id : Fin 4) (op : ℕ) : UInt8 := .ofNat (0x10 * 2 ^ id.val + op)

/-- The edges and coefficients of a spring, as they are sent. -/
def springPayload (parameters : Parameters) : List ℤ :=
  let d1 := scaleValueU16 ((parameters.d1 + 0x8000) % 0x10000) 11
  let d2 := scaleValueU16 ((parameters.d2 + 0x8000) % 0x10000) 11
  let k1 : ℤ := parameters.k1.natAbs
  let k2 : ℤ := parameters.k2.natAbs
  let d1 := if k1 < 2048 then 0 else d1
  let k1 := if k1 < 2048 then k1 else k1 - 2048
  let d2 := if k2 < 2048 then 2047 else d2
  let k2 := if k2 < 2048 then k2 else k2 - 2048
  [0x0b, d1 / 2 ^ 3, d2 / 2 ^ 3, scaleCoeff k2 4 * 2 ^ 4 + scaleCoeff k1 4,
    d2 % 8 * 2 ^ 5 + d1 % 8 * 2 + signBit parameters.k2 * 2 ^ 4 + signBit parameters.k1,
    scaleValueU16 parameters.clip.toNat 8]

/-- The six bytes after the first, for a slot that plays. -/
def payload (id : Fin 4) (parameters : Parameters) : SlotType → List ℤ
  | .constant => [0, 0, 0, 0, 0, 0].set (1 + id) (translateForce parameters.level)
  | .spring => springPayload parameters
  | .damper =>
      [0x0c, scaleCoeff parameters.k1 4, signBit parameters.k1, scaleCoeff parameters.k2 4,
        signBit parameters.k2, scaleValueU16 parameters.clip.toNat 8]
  | .friction =>
      [0x0e, scaleCoeff parameters.k1 8, scaleCoeff parameters.k2 8,
        scaleValueU16 parameters.clip.toNat 8, signBit parameters.k2 * 2 ^ 4 + signBit parameters.k1,
        0]

def idlePayload : List UInt8 := [0, 0, 0, 0, 0, 0]

/-- A start is compared as the refresh it amounts to. -/
def normalised : Command → Command
  | [] => []
  | head :: payload =>
      (if head &&& 0xf = opStart.toUInt8 then (head &&& 0xf0) + opRefresh.toUInt8 else head) ::
        payload

/-- `dd_lg4ff_update_slot` -/
def updateSlot (id : Fin 4) (slot : Slot) (parameters : Parameters) : Slot :=
  let cmdOp := nextOp slot.effectType parameters.clip slot.cmdOp
  let currentCmd := head id cmdOp ::
    if cmdOp = opStop then idlePayload
    else
      match slot.effectType with
      | some effectType => (payload id parameters effectType).map .ofInt
      | none => slot.currentCmd.tail
  { slot with
    cmdOp, currentCmd
    isUpdated := slot.isUpdated || normalised slot.currentCmd ≠ currentCmd }

end TrueForce.Classic
