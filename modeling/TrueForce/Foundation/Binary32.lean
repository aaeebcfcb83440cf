import Mathlib.Algebra.Order.Group.Nat
import Mathlib.Algebra.Group.Nat.Defs
import Mathlib.Data.Int.Notation
import Mathlib.Data.Nat.Log
import Mathlib.Data.Nat.Notation
import Mathlib.Tactic.Common

/-!
# Single precision numbers as bit patterns

A number is the 32 bits that store it.  Below the sign stands its code, and
codes are ordered as the magnitudes they stand for, so comparing is done on the
bits.  Magnitudes are counted in units of the smallest one, `2 ^ -149`, and an
operation rounds the exact result to the nearest code, ties to even.
-/

namespace TrueForce.Binary32

abbrev F32 := UInt32

/-- The bits below the sign: exponent and fraction. -/
def code (bits : F32) : ℕ := bits.toNat % 2 ^ 31

def negative (bits : F32) : Bool := 2 ^ 31 ≤ bits.toNat

def infinity : ℕ := 255 * 2 ^ 23

def isNan (bits : F32) : Bool := infinity < code bits

def isFinite (bits : F32) : Bool := code bits < infinity

/-- Where a number that is not NaN stands among the others. -/
def rank (bits : F32) : ℤ := if negative bits then -(code bits) else code bits

def le (a b : F32) : Bool := !isNan a && !isNan b && rank a ≤ rank b

def lt (a b : F32) : Bool := !isNan a && !isNan b && rank a < rank b

def zero : F32 := 0

def one : F32 := 0x3F800000

def nan : F32 := 0x7FC00000

/-- `f32::max`, which prefers a number to NaN. -/
def max (a b : F32) : F32 := if isNan a then b else if isNan b then a else if lt a b then b else a

/-- `f32::clamp`, which lets NaN through. -/
def clamp (low high bits : F32) : F32 :=
  if lt bits low then low else if lt high bits then high else bits

/-- The magnitude of a finite code. -/
def units (code : ℕ) : ℕ :=
  if code < 2 ^ 23 then code else (2 ^ 23 + code % 2 ^ 23) * 2 ^ (code / 2 ^ 23 - 1)

/-- The whole number nearest to a fraction, the even one of two. -/
def halfEven (num den : ℕ) : ℕ :=
  let floor := num / den
  let rest := num % den
  if 2 * rest < den ∨ (2 * rest = den ∧ floor % 2 = 0) then floor else floor + 1

/-- The code nearest to `num / den` units. -/
def roundCode (num den : ℕ) : ℕ :=
  let shift := Nat.log2 (num / den) - 23
  min infinity (shift * 2 ^ 23 + halfEven num (den * 2 ^ shift))

def signed (negative : Bool) (code : ℕ) : F32 :=
  UInt32.ofNat (code + if negative then 2 ^ 31 else 0)

def ofNat (value : ℕ) : F32 := signed false (roundCode (value * 2 ^ 149) 1)

/-- `as f32` of an integer. -/
def ofInt (value : ℤ) : F32 := signed (value < 0) (roundCode (value.natAbs * 2 ^ 149) 1)

def mul (a b : F32) : F32 :=
  let sign := negative a != negative b
  if isNan a || isNan b then nan
  else if code a = infinity ∨ code b = infinity then
    if code a = 0 ∨ code b = 0 then nan else signed sign infinity
  else signed sign (roundCode (units (code a) * units (code b)) (2 ^ 149))

def div (a b : F32) : F32 :=
  let sign := negative a != negative b
  if isNan a || isNan b || (code a = infinity && code b = infinity) ||
      (code a = 0 && code b = 0) then nan
  else if code a = infinity ∨ code b = 0 then signed sign infinity
  else if code b = infinity then signed sign 0
  else signed sign (roundCode (units (code a) * 2 ^ 149) (units (code b)))

/-- Above the smallest binade a power of two is reached with the exponent. -/
theorem two_pow_le_units_iff (code power : ℕ) :
    2 ^ (23 + power) ≤ units code ↔ power < code / 2 ^ 23 := by
  have fraction : code % 2 ^ 23 < 2 ^ 23 := Nat.mod_lt _ (by decide)
  rw [units]
  split
  · rename_i subnormal
    have bound : 2 ^ 23 ≤ 2 ^ (23 + power) := Nat.pow_le_pow_right (by decide) (by omega)
    omega
  · constructor
    · intro reached
      by_contra low
      have top : (2 ^ 23 + code % 2 ^ 23) * 2 ^ (code / 2 ^ 23 - 1) <
          2 ^ 24 * 2 ^ (code / 2 ^ 23 - 1) :=
        Nat.mul_lt_mul_of_pos_right (by omega) (Nat.two_pow_pos _)
      rw [← Nat.pow_add] at top
      have bound : 2 ^ (24 + (code / 2 ^ 23 - 1)) ≤ 2 ^ (23 + power) :=
        Nat.pow_le_pow_right (by decide) (by omega)
      omega
    · intro high
      rw [Nat.pow_add]
      exact Nat.mul_le_mul (Nat.le_add_right _ _) (Nat.pow_le_pow_right (by decide) (by omega))

section Comparing

variable {a b low high bits : F32}

@[simp]
theorem le_iff : le a b = true ↔ (isNan a = false ∧ isNan b = false) ∧ rank a ≤ rank b := by
  simp [le]

@[simp]
theorem lt_iff : lt a b = true ↔ (isNan a = false ∧ isNan b = false) ∧ rank a < rank b := by
  simp [lt]

theorem natAbs_rank (bits : F32) : (rank bits).natAbs = code bits := by
  rw [rank]
  split
  · rw [Int.natAbs_neg, Int.natAbs_natCast]
  · rw [Int.natAbs_natCast]

theorem isNan_of_isFinite (finite : isFinite bits = true) : isNan bits = false := by
  simp only [isFinite, decide_eq_true_eq] at finite
  simp only [isNan, decide_eq_false_iff_not]
  omega

theorem not_lt_of_not_isNan (left : isNan a = false) (right : isNan b = false) :
    lt a b = false ↔ rank b ≤ rank a := by
  rw [← Bool.not_eq_true, lt_iff]
  simp [left, right]

protected theorem le_of_not_lt (left : isNan a = false) (right : isNan b = false)
    (notLess : lt a b = false) : le b a = true := by
  rw [le_iff]
  exact ⟨⟨right, left⟩, (not_lt_of_not_isNan left right).mp notLess⟩

protected theorem lt_of_not_le (left : isNan a = false) (right : isNan b = false)
    (notLe : le a b = false) : lt b a = true := by
  rw [← Bool.not_eq_true, le_iff] at notLe
  rw [lt_iff]
  refine ⟨⟨right, left⟩, ?_⟩
  by_contra more
  exact notLe ⟨⟨left, right⟩, Int.not_lt.mp more⟩

protected theorem le_of_lt (less : lt a b = true) : le a b = true := by
  rw [lt_iff] at less
  rw [le_iff]
  exact ⟨less.1, less.2.le⟩

protected theorem lt_of_lt_of_le {c : F32} (first : lt a b = true) (second : le b c = true) :
    lt a c = true := by
  rw [lt_iff] at first ⊢
  rw [le_iff] at second
  exact ⟨⟨first.1.1, second.1.2⟩, first.2.trans_le second.2⟩

/-- A number between two finite ones is finite. -/
theorem isFinite_of_le (above : le low bits = true) (below : le bits high = true)
    (lowFinite : isFinite low = true) (highFinite : isFinite high = true) :
    isFinite bits = true := by
  have lowest := natAbs_rank low
  have here := natAbs_rank bits
  have highest := natAbs_rank high
  rw [le_iff] at above below
  simp only [isFinite, decide_eq_true_eq] at lowFinite highFinite ⊢
  omega

protected theorem max_cases (a b : F32) : max a b = a ∨ max a b = b := by
  rw [max]
  split
  · exact Or.inr rfl
  · split
    · exact Or.inl rfl
    · split
      · exact Or.inr rfl
      · exact Or.inl rfl

protected theorem le_max_left (left : isNan a = false) (right : isNan b = false) :
    le a (max a b) = true := by
  rw [max, left, right]
  by_cases less : lt a b = true
  · simp only [less, Bool.false_eq_true, if_false, if_true]
    rw [lt_iff] at less
    rw [le_iff]
    exact ⟨less.1, less.2.le⟩
  · simp [less, left]

protected theorem le_max_right (left : isNan a = false) (right : isNan b = false) :
    le b (max a b) = true := by
  rw [max, left, right]
  by_cases less : lt a b = true
  · simp [less, right]
  · have more := (not_lt_of_not_isNan left right).mp (Bool.not_eq_true _ ▸ less)
    simp [less, left, right, more]

theorem max_of_isNan_right (number : isNan a = false) (nan : isNan b = true) : max a b = a := by
  simp [max, number, nan]

protected theorem le_trans {c : F32} (first : le a b = true) (second : le b c = true) :
    le a c = true := by
  rw [le_iff] at first second ⊢
  exact ⟨⟨first.1.1, second.1.2⟩, first.2.trans second.2⟩

/-- Clamping a number puts it between the bounds. -/
theorem clamp_between (ordered : le low high = true) (number : isNan bits = false) :
    le low (clamp low high bits) = true ∧ le (clamp low high bits) high = true := by
  rw [le_iff] at ordered
  rcases ordered with ⟨⟨lowNumber, highNumber⟩, ordered⟩
  rw [clamp]
  split
  · simp [lowNumber, highNumber, ordered]
  · rename_i above
    split
    · simp [lowNumber, highNumber, ordered]
    · rename_i below
      have above := (not_lt_of_not_isNan number lowNumber).mp (Bool.not_eq_true _ ▸ above)
      have below := (not_lt_of_not_isNan highNumber number).mp (Bool.not_eq_true _ ▸ below)
      simp [lowNumber, highNumber, number, above, below]

theorem clamp_of_isNan (nan : isNan bits = true) : clamp low high bits = bits := by
  simp [clamp, lt, nan]

theorem clamp_of_between (above : le low bits = true) (below : le bits high = true) :
    clamp low high bits = bits := by
  rw [le_iff] at above below
  simp [clamp, above.2.not_gt, below.2.not_gt]

end Comparing

theorem halfEven_le (num den : ℕ) : halfEven num den ≤ num / den + 1 := by
  simp only [halfEven]
  split <;> omega

theorem halfEven_mul (value : ℕ) {den : ℕ} (positive : 0 < den) :
    halfEven (value * den) den = value := by
  simp [halfEven, Nat.mul_div_cancel _ positive, positive]

theorem log2_lt_of_lt {value bound : ℕ} (less : value < 2 ^ (bound + 1)) :
    Nat.log2 value < bound + 1 := by
  rcases Nat.eq_zero_or_pos value with rfl | positive
  · simp
  · exact (Nat.log2_lt (Nat.pos_iff_ne_zero.mp positive)).mpr less

/-- What is at most a power of two rounds to at most that power. -/
theorem roundCode_le {num den bound : ℕ} (positive : 0 < den) (large : 23 ≤ bound)
    (small : num ≤ den * 2 ^ bound) : roundCode num den ≤ (bound - 22) * 2 ^ 23 := by
  have top : num / den ≤ 2 ^ bound := Nat.div_le_of_le_mul small
  apply (Nat.min_le_right _ _).trans
  rcases Nat.lt_or_eq_of_le top with below | exactly
  · have shifted : Nat.log2 (num / den) - 23 ≤ bound - 24 := by
      obtain ⟨rest, rfl⟩ : ∃ rest, bound = rest + 1 := ⟨bound - 1, by omega⟩
      have := log2_lt_of_lt below
      omega
    have rounded := halfEven_le num (den * 2 ^ (Nat.log2 (num / den) - 23))
    rw [← Nat.div_div_eq_div_mul] at rounded
    have mantissa : num / den / 2 ^ (Nat.log2 (num / den) - 23) < 2 ^ 24 := by
      apply Nat.div_lt_of_lt_mul
      rw [← Nat.pow_add]
      exact Nat.lt_log2_self.trans_le (Nat.pow_le_pow_right (by decide) (by omega))
    rcases Nat.lt_or_ge bound 24 with least | more
    · have whole : Nat.log2 (num / den) - 23 = 0 := by omega
      have exact23 : bound = 23 := by omega
      subst exact23
      simp only [whole, Nat.pow_zero, Nat.div_one] at rounded ⊢
      omega
    · omega
  · have whole : num = 2 ^ bound * den := by
      apply Nat.le_antisymm
      · rwa [Nat.mul_comm]
      · rw [← exactly]
        exact Nat.div_mul_le_self num den
    rw [whole, Nat.mul_div_cancel _ positive, Nat.log2_two_pow]
    have split : 2 ^ bound * den = 2 ^ 23 * (den * 2 ^ (bound - 23)) := by
      rw [Nat.mul_left_comm, ← Nat.pow_add, Nat.mul_comm, Nat.add_sub_cancel' large]
    rw [split, halfEven_mul _ (Nat.mul_pos positive (Nat.two_pow_pos _))]
    omega

theorem roundCode_le_infinity (num den : ℕ) : roundCode num den ≤ infinity := Nat.min_le_left _ _

section Signed

variable {value : ℕ}

theorem code_signed (sign : Bool) (small : value ≤ infinity) : code (signed sign value) = value := by
  simp only [infinity] at small
  cases sign with
  | false =>
      simp only [code, signed, UInt32.toNat_ofNat', Bool.false_eq_true, if_false]
      omega
  | true =>
      simp only [code, signed, UInt32.toNat_ofNat', if_true]
      omega

theorem negative_signed (sign : Bool) (small : value ≤ infinity) :
    negative (signed sign value) = sign := by
  simp only [infinity] at small
  cases sign with
  | false =>
      simp only [negative, signed, UInt32.toNat_ofNat', Bool.false_eq_true, if_false,
        decide_eq_false_iff_not]
      omega
  | true =>
      simp only [negative, signed, UInt32.toNat_ofNat', if_true, decide_eq_true_eq]
      omega

end Signed

section OfNat

variable {value : ℕ}

theorem code_ofNat (value : ℕ) : code (ofNat value) = roundCode (value * 2 ^ 149) 1 :=
  code_signed false (roundCode_le_infinity _ _)

theorem negative_ofNat (value : ℕ) : negative (ofNat value) = false :=
  negative_signed false (roundCode_le_infinity _ _)

theorem rank_ofNat (value : ℕ) : rank (ofNat value) = roundCode (value * 2 ^ 149) 1 := by
  simp [rank, negative_ofNat, code_ofNat]

theorem log2_mul_two_pow {value : ℕ} (positive : 0 < value) (power : ℕ) :
    Nat.log2 (value * 2 ^ power) = Nat.log2 value + power := by
  have nonzero : value * 2 ^ power ≠ 0 :=
    Nat.pos_iff_ne_zero.mp (Nat.mul_pos positive (Nat.two_pow_pos power))
  rw [Nat.log2_eq_iff nonzero, Nat.pow_add, Nat.add_right_comm, Nat.pow_add]
  have below := Nat.log2_self_le (Nat.pos_iff_ne_zero.mp positive)
  have above := Nat.lt_log2_self (n := value)
  exact ⟨Nat.mul_le_mul_right _ below, Nat.mul_lt_mul_of_pos_right above (Nat.two_pow_pos power)⟩

/-- The code of a whole number that needs no rounding. -/
theorem roundCode_whole (positive : 0 < value) (small : value < 2 ^ 24) :
    roundCode (value * 2 ^ 149) 1 =
      (Nat.log2 value + 126) * 2 ^ 23 + value * 2 ^ (23 - Nat.log2 value) := by
  have top : Nat.log2 value < 24 := log2_lt_of_lt small
  have shift : Nat.log2 (value * 2 ^ 149 / 1) - 23 = Nat.log2 value + 126 := by
    rw [Nat.div_one, log2_mul_two_pow positive]
    omega
  have split : value * 2 ^ 149 =
      value * 2 ^ (23 - Nat.log2 value) * (1 * 2 ^ (Nat.log2 value + 126)) := by
    rw [Nat.one_mul, Nat.mul_assoc, ← Nat.pow_add]
    congr 2
    omega
  have mantissa : value * 2 ^ (23 - Nat.log2 value) < 2 ^ 24 := by
    have power : 2 ^ 24 = 2 ^ (Nat.log2 value + 1) * 2 ^ (23 - Nat.log2 value) := by
      rw [← Nat.pow_add]
      congr 1
      omega
    rw [power]
    exact Nat.mul_lt_mul_of_pos_right Nat.lt_log2_self (Nat.two_pow_pos _)
  simp only [roundCode]
  have scale : 0 < 1 * 2 ^ (Nat.log2 value + 126) := by
    rw [Nat.one_mul]
    exact Nat.two_pow_pos _
  rw [shift, split, halfEven_mul _ scale, infinity]
  omega

theorem isFinite_ofNat (small : value < 2 ^ 24) : isFinite (ofNat value) = true := by
  have bound : roundCode (value * 2 ^ 149) 1 ≤ (173 - 22) * 2 ^ 23 := by
    apply roundCode_le Nat.one_pos (by decide)
    rw [Nat.one_mul]
    exact (Nat.mul_le_mul_right _ small.le).trans_eq (Nat.pow_add 2 24 149).symm
  rw [isFinite, code_ofNat, decide_eq_true_eq, infinity]
  omega

theorem le_zero_ofNat (small : value < 2 ^ 24) : le zero (ofNat value) = true := by
  rw [le_iff, rank_ofNat]
  refine ⟨⟨rfl, isNan_of_isFinite (isFinite_ofNat small)⟩, ?_⟩
  exact Int.natCast_nonneg _

/-- A whole number below `2 ^ 24` is stored exactly. -/
theorem units_ofNat (small : value < 2 ^ 24) :
    units (code (ofNat value)) = value * 2 ^ 149 := by
  rw [code_ofNat]
  rcases Nat.eq_zero_or_pos value with rfl | positive
  · decide
  · rw [roundCode_whole positive small]
    have top : Nat.log2 value < 24 := log2_lt_of_lt small
    have below := Nat.log2_self_le (Nat.pos_iff_ne_zero.mp positive)
    have above := Nat.lt_log2_self (n := value)
    generalize scale : Nat.log2 value = power at *
    have lower : 2 ^ 23 ≤ value * 2 ^ (23 - power) := by
      calc 2 ^ 23 = 2 ^ power * 2 ^ (23 - power) := by
            rw [← Nat.pow_add]
            congr 1
            omega
        _ ≤ value * 2 ^ (23 - power) := Nat.mul_le_mul_right _ below
    have upper : value * 2 ^ (23 - power) < 2 ^ 24 := by
      calc value * 2 ^ (23 - power) < 2 ^ (power + 1) * 2 ^ (23 - power) :=
            Nat.mul_lt_mul_of_pos_right above (Nat.two_pow_pos _)
        _ = 2 ^ 24 := by
            rw [← Nat.pow_add]
            congr 1
            omega
    have product : value * 2 ^ (23 - power) * 2 ^ (power + 126) = value * 2 ^ 149 := by
      rw [Nat.mul_assoc, ← Nat.pow_add]
      congr 2
      omega
    generalize value * 2 ^ (23 - power) = mantissa at *
    have large : ¬(power + 126) * 2 ^ 23 + mantissa < 2 ^ 23 := by omega
    have exponent : ((power + 126) * 2 ^ 23 + mantissa) / 2 ^ 23 - 1 = power + 126 := by omega
    have fraction : 2 ^ 23 + ((power + 126) * 2 ^ 23 + mantissa) % 2 ^ 23 = mantissa := by omega
    rw [units, if_neg large, exponent, fraction, product]

end OfNat

section Quotient

variable {a b : F32} {bound : ℕ}

/-- A product of numbers bounded by powers of two. -/
theorem code_mul_le {other : ℕ} (left : isFinite a = true) (right : isFinite b = true)
    (leftSmall : units (code a) ≤ 2 ^ bound) (rightSmall : units (code b) ≤ 2 ^ other)
    (large : 172 ≤ bound + other) : code (mul a b) ≤ (bound + other - 171) * 2 ^ 23 := by
  have leftNumber := isNan_of_isFinite left
  have rightNumber := isNan_of_isFinite right
  simp only [isFinite, decide_eq_true_eq] at left right
  have finite : ¬(code a = infinity ∨ code b = infinity) := by omega
  simp only [mul, leftNumber, rightNumber, Bool.or_self, Bool.false_eq_true, if_false,
    if_neg finite]
  rw [code_signed _ (roundCode_le_infinity _ _)]
  have product : units (code a) * units (code b) ≤ 2 ^ 149 * 2 ^ (bound + other - 149) := by
    have sum : bound + other = 149 + (bound + other - 149) := by omega
    apply (Nat.mul_le_mul leftSmall rightSmall).trans_eq
    rw [← Nat.pow_add, sum, Nat.pow_add, Nat.add_sub_cancel_left]
  have rounded := roundCode_le (Nat.two_pow_pos 149) (by omega) product
  omega

/-- A quotient that is at most one. -/
theorem le_one_div_ofNat {value whole : ℕ} (positive : 0 < whole) (small : whole < 2 ^ 24)
    (below : value ≤ whole) :
    isFinite (div (ofNat value) (ofNat whole)) = true ∧
      le zero (div (ofNat value) (ofNat whole)) = true ∧
      le (div (ofNat value) (ofNat whole)) one = true := by
  have valueFinite := isFinite_ofNat (below.trans_lt small)
  have wholeFinite := isFinite_ofNat small
  have valueUnits := units_ofNat (below.trans_lt small)
  have wholeUnits := units_ofNat small
  have valueNumber := isNan_of_isFinite valueFinite
  have wholeNumber := isNan_of_isFinite wholeFinite
  have unitsPositive : 0 < units (code (ofNat whole)) := by
    rw [wholeUnits]
    exact Nat.mul_pos positive (Nat.two_pow_pos 149)
  have nonzero : code (ofNat whole) ≠ 0 := by
    intro zero
    rw [zero] at unitsPositive
    cases unitsPositive
  simp only [isFinite, decide_eq_true_eq] at valueFinite wholeFinite
  have finiteValue : code (ofNat value) ≠ infinity := valueFinite.ne
  have finiteWhole : code (ofNat whole) ≠ infinity := wholeFinite.ne
  have ratio : roundCode (units (code (ofNat value)) * 2 ^ 149) (units (code (ofNat whole))) ≤
      (149 - 22) * 2 ^ 23 := by
    apply roundCode_le unitsPositive (by decide)
    apply Nat.mul_le_mul_right
    rw [valueUnits, wholeUnits]
    exact Nat.mul_le_mul_right _ below
  have quotient : div (ofNat value) (ofNat whole) =
      signed false
        (roundCode (units (code (ofNat value)) * 2 ^ 149) (units (code (ofNat whole)))) := by
    simp [div, valueNumber, wholeNumber, finiteValue, finiteWhole, nonzero, negative_ofNat]
  rw [quotient]
  generalize roundCode _ _ = rounded at ratio
  have inside : rounded ≤ infinity := by
    rw [infinity]
    omega
  have rankSigned : rank (signed false rounded) = rounded := by
    simp [rank, negative_signed _ inside, code_signed _ inside]
  have number : isNan (signed false rounded) = false := by
    rw [isNan, code_signed _ inside, decide_eq_false_iff_not]
    omega
  have oneRank : rank one = ((149 - 22) * 2 ^ 23 : ℕ) := by decide
  refine ⟨?_, ?_, ?_⟩
  · rw [isFinite, code_signed _ inside, decide_eq_true_eq, infinity]
    omega
  · rw [le_iff, rankSigned]
    exact ⟨⟨rfl, number⟩, Int.natCast_nonneg _⟩
  · rw [le_iff, rankSigned, oneRank]
    exact ⟨⟨number, rfl⟩, Int.ofNat_le.mpr ratio⟩

end Quotient

end TrueForce.Binary32
