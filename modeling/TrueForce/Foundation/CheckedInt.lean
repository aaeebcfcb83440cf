import TrueForce.Foundation.CInt

/-!
# Checked C integers

The result of a C operation as a value of its type.  A result that the type does not
hold, a conversion that would change the number, and a division by zero have no value,
so an expression that has one was evaluated without any of them.
-/

namespace TrueForce.CInt

inductive CType where
  | s32
  | s64
  | u32
  | u64
  deriving DecidableEq, Repr

namespace CType

def low : CType → ℤ
  | .s32 => -0x80000000
  | .s64 => -0x8000000000000000
  | .u32 | .u64 => 0

def high : CType → ℤ
  | .s32 => 0x7fffffff
  | .s64 => 0x7fffffffffffffff
  | .u32 => 0xffffffff
  | .u64 => 0xffffffffffffffff

def Holds (type : CType) (value : ℤ) : Prop := type.low ≤ value ∧ value ≤ type.high

instance (type : CType) (value : ℤ) : Decidable (type.Holds value) :=
  inferInstanceAs (Decidable (_ ∧ _))

end CType

open CType

/-- A number as a value of the type. -/
def fit (type : CType) (value : ℤ) : Option ℤ := if type.Holds value then some value else none

/-- The quotient in a signed or unsigned type. -/
def quotient (type : CType) (dividend divisor : ℤ) : Option ℤ :=
  if divisor = 0 then none else fit type (dividend.tdiv divisor)

variable {type : CType} {value result dividend divisor : ℤ}

theorem fit_of_holds (holds : type.Holds value) : fit type value = some value := if_pos holds

theorem fit_eq_some_iff : fit type value = some result ↔ type.Holds value ∧ value = result := by
  simp only [fit, Option.ite_none_right_eq_some, Option.some.injEq]

theorem quotient_of_holds (nonzero : divisor ≠ 0) (holds : type.Holds (dividend.tdiv divisor)) :
    quotient type dividend divisor = some (dividend.tdiv divisor) := by
  rw [quotient, if_neg nonzero, fit_of_holds holds]

theorem tdiv_between (positive : 0 < divisor) :
    min 0 dividend ≤ dividend.tdiv divisor ∧ dividend.tdiv divisor ≤ max 0 dividend := by
  rcases Int.le_total 0 dividend with nonneg | nonpos
  · rw [Int.tdiv_eq_ediv_of_nonneg nonneg]
    have least := Int.ediv_nonneg nonneg (Int.le_of_lt positive)
    have greatest := Int.ediv_le_self divisor nonneg
    omega
  · have turned : 0 ≤ -dividend := by omega
    have share : dividend.tdiv divisor = -(-dividend / divisor) := by
      rw [← Int.tdiv_eq_ediv_of_nonneg turned, Int.neg_tdiv, Int.neg_neg]
    have least := Int.ediv_nonneg turned (Int.le_of_lt positive)
    have greatest := Int.ediv_le_self divisor turned
    omega

/-- A share of a value is a value of its type. -/
theorem quotient_of_pos (positive : 0 < divisor) (holds : type.Holds dividend) :
    quotient type dividend divisor = some (dividend.tdiv divisor) := by
  have between := @tdiv_between dividend divisor positive
  apply quotient_of_holds (Int.ne_of_gt positive)
  cases type <;> simp only [CType.Holds, CType.low, CType.high] at holds ⊢ <;> omega

theorem quotient_eq_some_iff :
    quotient type dividend divisor = some result ↔
      divisor ≠ 0 ∧ type.Holds (dividend.tdiv divisor) ∧ dividend.tdiv divisor = result := by
  simp only [quotient, Option.ite_none_left_eq_some, fit_eq_some_iff, ne_eq]

theorem bind_of_eq {α β : Type} {step : Option α} {found : α} {rest : α → Option β}
    (computed : step = some found) : (step >>= rest) = rest found := by
  rw [computed]
  rfl

theorem fit_bind {α : Type} {rest : ℤ → Option α} (holds : type.Holds value) :
    (fit type value >>= rest) = rest value :=
  bind_of_eq (fit_of_holds holds)

theorem CType.holds_s32 (range : -0x80000000 ≤ value ∧ value ≤ 0x7fffffff) :
    CType.s32.Holds value := range

theorem CType.holds_s64 (range : -0x8000000000000000 ≤ value ∧ value ≤ 0x7fffffffffffffff) :
    CType.s64.Holds value := range

theorem CType.holds_u32 (range : 0 ≤ value ∧ value ≤ 0xffffffff) : CType.u32.Holds value := range

theorem CType.holds_u64 (range : 0 ≤ value ∧ value ≤ 0xffffffffffffffff) :
    CType.u64.Holds value := range

theorem s32_of_holds (holds : CType.s32.Holds value) : s32 value = value := by
  simp only [CType.Holds, CType.low, CType.high] at holds
  simp only [s32]
  omega

end TrueForce.CInt
