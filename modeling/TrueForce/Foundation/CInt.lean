import Mathlib.Data.Int.Notation
import Mathlib.Data.Nat.Notation
import Mathlib.Tactic.Common

/-!
# C integers as mathematical integers

Signed C values are integers together with the wrap onto their width; a wrap is
written only where the C expression can leave its type.  Division truncates
(`Int.tdiv`) and a right shift by `k` is the floor division by `2 ^ k`, which is
`Int` division for a positive divisor.
-/

namespace TrueForce.CInt

def s16 (value : ℤ) : ℤ := (value + 0x8000) % 0x10000 - 0x8000

def s32 (value : ℤ) : ℤ := (value + 0x80000000) % 0x100000000 - 0x80000000

def clamp (value low high : ℤ) : ℤ := min (max value low) high

def clampS16 (value : ℤ) : ℤ := clamp value (-0x8000) 0x7fff

@[simp]
theorem s32_zero : s32 0 = 0 := rfl

@[simp]
theorem clampS16_zero : clampS16 0 = 0 := rfl

end TrueForce.CInt
