import TrueForce.Foundation.Binary32

/-!
# Double precision numbers as bit patterns

A number is the 64 bits that store it, with its magnitude counted in units of the
smallest one, `2 ^ -1074`.  Widening a single or an integer of 32 bits is exact,
narrowing to a single and multiplying round to nearest and ties to even, and a
conversion to an integer truncates and saturates.
-/

namespace TrueForce.Binary64

abbrev F64 := UInt64

open Binary32 (F32)

/-- The bits below the sign: exponent and fraction. -/
def code (bits : F64) : ℕ := bits.toNat % 2 ^ 63

def negative (bits : F64) : Bool := 2 ^ 63 ≤ bits.toNat

def infinity : ℕ := 2047 * 2 ^ 52

def isNan (bits : F64) : Bool := infinity < code bits

def nan : F64 := 0x7FF8000000000000

/-- Where a number that is not NaN stands among the others. -/
def rank (bits : F64) : ℤ := if negative bits then -(code bits) else code bits

def lt (a b : F64) : Bool := !isNan a && !isNan b && rank a < rank b

/-- The magnitude of a finite code. -/
def units (code : ℕ) : ℕ :=
  if code < 2 ^ 52 then code else (2 ^ 52 + code % 2 ^ 52) * 2 ^ (code / 2 ^ 52 - 1)

def signed (negative : Bool) (code : ℕ) : F64 :=
  UInt64.ofNat (code + if negative then 2 ^ 63 else 0)

/-- The code nearest to `num / den` units. -/
def roundCode (num den : ℕ) : ℕ :=
  let shift := Nat.log2 (num / den) - 52
  min infinity (shift * 2 ^ 52 + Binary32.halfEven num (den * 2 ^ shift))

def mul (a b : F64) : F64 :=
  let sign := negative a != negative b
  if isNan a || isNan b then nan
  else if code a = infinity ∨ code b = infinity then
    if code a = 0 ∨ code b = 0 then nan else signed sign infinity
  else signed sign (roundCode (units (code a) * units (code b)) (2 ^ 1074))

/-- The code of a magnitude that is one of a number. -/
def exactCode (magnitude : ℕ) : ℕ :=
  let shift := Nat.log2 magnitude - 52
  shift * 2 ^ 52 + magnitude / 2 ^ shift

/-- `f64::from` of a single. -/
def ofF32 (bits : F32) : F64 :=
  if Binary32.isNan bits then nan
  else if Binary32.code bits = Binary32.infinity then signed (Binary32.negative bits) infinity
  else
    signed (Binary32.negative bits)
      (exactCode (Binary32.units (Binary32.code bits) * 2 ^ 925))

/-- `f64::from` of an integer of 32 bits. -/
def ofInt (value : ℤ) : F64 := signed (value < 0) (exactCode (value.natAbs * 2 ^ 1074))

/-- `as f32` -/
def toF32 (bits : F64) : F32 :=
  if isNan bits then Binary32.nan
  else if code bits = infinity then Binary32.signed (negative bits) Binary32.infinity
  else Binary32.signed (negative bits) (Binary32.roundCode (units (code bits)) (2 ^ 925))

/-- `as i32` -/
def toI32 (bits : F64) : ℤ :=
  if isNan bits then 0
  else
    let whole := if code bits = infinity then 2 ^ 31 else units (code bits) / 2 ^ 1074
    if negative bits then -(min whole (2 ^ 31) : ℕ) else (min whole (2 ^ 31 - 1) : ℕ)

section Signed

variable {value : ℕ}

theorem code_signed (sign : Bool) (small : value ≤ infinity) : code (signed sign value) = value := by
  simp only [infinity] at small
  cases sign with
  | false =>
      simp only [code, signed, UInt64.toNat_ofNat', Bool.false_eq_true, if_false]
      omega
  | true =>
      simp only [code, signed, UInt64.toNat_ofNat', if_true]
      omega

theorem negative_signed (sign : Bool) (small : value ≤ infinity) :
    negative (signed sign value) = sign := by
  simp only [infinity] at small
  cases sign with
  | false =>
      simp only [negative, signed, UInt64.toNat_ofNat', Bool.false_eq_true, if_false,
        decide_eq_false_iff_not]
      omega
  | true =>
      simp only [negative, signed, UInt64.toNat_ofNat', if_true, decide_eq_true_eq]
      omega

end Signed

example : toF32 (ofF32 0x45C1C000) = 0x45C1C000 ∧ toI32 (ofInt (-7)) = -7 := by decide +kernel

end TrueForce.Binary64
