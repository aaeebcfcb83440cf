import TrueForce.Foundation.Binary64

/-!
# Rounding to a number of binary digits

The codes of a binary format stand in the order of their magnitudes: below the
exponent come the digits of the fraction.  A whole number of units rounds to the
nearest code, ties to even.  Rounding keeps the order, and a number with few enough
digits is a magnitude itself, so what lies between two such numbers stays there.  A
product by a whole number is rounded once.
-/

namespace TrueForce.Rounding

open Binary32 (halfEven halfEven_le halfEven_mul log2_lt_of_lt log2_mul_two_pow)

/-- The magnitude of a finite code. -/
def units (fraction code : ℕ) : ℕ :=
  if code < 2 ^ fraction then code
  else (2 ^ fraction + code % 2 ^ fraction) * 2 ^ (code / 2 ^ fraction - 1)

/-- The code nearest to a whole number of units. -/
def nearest (fraction number : ℕ) : ℕ :=
  let shift := Nat.log2 number - fraction
  shift * 2 ^ fraction + halfEven number (2 ^ shift)

theorem le_halfEven (num den : ℕ) : num / den ≤ halfEven num den := by
  simp only [halfEven]
  split <;> omega

theorem halfEven_mono {num more den : ℕ} (ordered : num ≤ more) :
    halfEven num den ≤ halfEven more den := by
  rcases Nat.lt_or_ge (num / den) (more / den) with below | above
  · exact (halfEven_le num den).trans ((Nat.succ_le_of_lt below).trans (le_halfEven more den))
  · have same : num / den = more / den := le_antisymm (Nat.div_le_div_right ordered) above
    have whole := Nat.div_add_mod num den
    have wholeMore := Nat.div_add_mod more den
    rw [← same] at wholeMore
    have rest : num % den ≤ more % den := by omega
    simp only [halfEven, ← same]
    split <;> split <;> omega

section Codes

variable {fraction shift later mantissa other number more : ℕ}

/-- A code as its exponent and the digits that go with it. -/
theorem units_of_shift (low : shift = 0 ∨ 2 ^ fraction ≤ mantissa)
    (high : mantissa ≤ 2 ^ (fraction + 1)) :
    units fraction (shift * 2 ^ fraction + mantissa) = mantissa * 2 ^ shift := by
  have step := Nat.two_pow_pos fraction
  have double : 2 ^ (fraction + 1) = 2 * 2 ^ fraction := by omega
  rw [units]
  split
  · rename_i small
    have none : shift = 0 := by
      rcases low with none | reached
      · exact none
      · omega
    rw [none, Nat.zero_mul, Nat.zero_add, Nat.pow_zero, Nat.mul_one]
  · rename_i large
    have reached : 2 ^ fraction ≤ mantissa := by
      rcases low with rfl | reached
      · omega
      · exact reached
    rcases Nat.lt_or_eq_of_le high with below | carried
    · obtain ⟨digits, rfl⟩ := Nat.exists_eq_add_of_le reached
      have code : shift * 2 ^ fraction + (2 ^ fraction + digits) =
          digits + 2 ^ fraction * (shift + 1) := by
        rw [Nat.mul_add, Nat.mul_comm (2 ^ fraction) shift]
        omega
      rw [code, Nat.add_mul_mod_self_left, Nat.add_mul_div_left _ _ step,
        Nat.mod_eq_of_lt (by omega), Nat.div_eq_of_lt (by omega), Nat.zero_add,
        Nat.add_sub_cancel]
    · have code : shift * 2 ^ fraction + mantissa = 0 + 2 ^ fraction * (shift + 2) := by
        rw [carried, double, Nat.mul_add, Nat.mul_comm (2 ^ fraction) shift]
        omega
      rw [code, Nat.add_mul_mod_self_left, Nat.add_mul_div_left _ _ step, Nat.zero_mod,
        Nat.zero_div, carried, Nat.zero_add, Nat.add_zero, Nat.pow_succ, Nat.mul_assoc,
        Nat.mul_comm 2, ← Nat.pow_succ]
      rfl

/-- The smaller exponent stays behind the greater one. -/
theorem shifted_le (before : shift < later) (high : mantissa ≤ 2 ^ (fraction + 1))
    (reached : 2 ^ fraction ≤ other) :
    shift * 2 ^ fraction + mantissa ≤ later * 2 ^ fraction + other ∧
      mantissa * 2 ^ shift ≤ other * 2 ^ later := by
  constructor
  · have next : (shift + 1) * 2 ^ fraction ≤ later * 2 ^ fraction := Nat.mul_le_mul_right _ before
    rw [Nat.pow_succ] at high
    rw [Nat.add_mul] at next
    omega
  · calc mantissa * 2 ^ shift ≤ 2 ^ (fraction + 1) * 2 ^ shift := Nat.mul_le_mul_right _ high
      _ = 2 ^ fraction * 2 ^ (shift + 1) := by
        rw [← Nat.pow_add, ← Nat.pow_add]
        congr 1
        omega
      _ ≤ other * 2 ^ later :=
        Nat.mul_le_mul reached (Nat.pow_le_pow_right (by decide) before)

theorem exists_shift (fraction code : ℕ) : ∃ shift mantissa,
    code = shift * 2 ^ fraction + mantissa ∧ (shift = 0 ∨ 2 ^ fraction ≤ mantissa) ∧
      mantissa < 2 ^ (fraction + 1) := by
  have step := Nat.two_pow_pos fraction
  have whole := Nat.div_add_mod code (2 ^ fraction)
  have rest := Nat.mod_lt code step
  rw [Nat.mul_comm] at whole
  rw [Nat.pow_succ]
  cases exponent : code / 2 ^ fraction with
  | zero =>
      rw [exponent, Nat.zero_mul, Nat.zero_add] at whole
      exact ⟨0, code, by omega, .inl rfl, by omega⟩
  | succ shift =>
      rw [exponent, Nat.add_mul] at whole
      exact ⟨shift, 2 ^ fraction + code % 2 ^ fraction, by omega, .inr (by omega), by omega⟩

theorem units_mono {code next : ℕ} (ordered : code ≤ next) :
    units fraction code ≤ units fraction next := by
  rcases exists_shift fraction code with ⟨shift, mantissa, rfl, low, high⟩
  rcases exists_shift fraction next with ⟨later, other, rfl, lowNext, highNext⟩
  rw [units_of_shift low high.le, units_of_shift lowNext highNext.le]
  rcases Nat.lt_trichotomy shift later with before | rfl | after
  · exact (shifted_le before high.le (lowNext.resolve_left (by omega))).2
  · exact Nat.mul_le_mul_right _ (by omega)
  · have back := shifted_le after highNext.le (low.resolve_left (by omega))
    have equal : later * 2 ^ fraction + other = shift * 2 ^ fraction + mantissa := by omega
    rw [← units_of_shift low high.le, ← units_of_shift lowNext highNext.le, equal]

/-- The digits that rounding leaves. -/
theorem rounded_digits (fraction number : ℕ) :
    (Nat.log2 number - fraction = 0 ∨
      2 ^ fraction ≤ halfEven number (2 ^ (Nat.log2 number - fraction))) ∧
      halfEven number (2 ^ (Nat.log2 number - fraction)) ≤ 2 ^ (fraction + 1) := by
  generalize scale : Nat.log2 number - fraction = shift
  constructor
  · rcases Nat.eq_zero_or_pos shift with none | positive
    · exact .inl none
    · right
      apply le_trans _ (le_halfEven number _)
      rw [Nat.le_div_iff_mul_le (Nat.two_pow_pos _), ← Nat.pow_add]
      have nonzero : number ≠ 0 := by
        rintro rfl
        rw [Nat.log2_zero, Nat.zero_sub] at scale
        omega
      have exponent : fraction + shift = Nat.log2 number := by omega
      rw [exponent]
      exact Nat.log2_self_le nonzero
  · have below : number / 2 ^ shift < 2 ^ (fraction + 1) := by
      apply Nat.div_lt_of_lt_mul
      rw [← Nat.pow_add]
      exact Nat.lt_log2_self.trans_le (Nat.pow_le_pow_right (by decide) (by omega))
    have rounded := halfEven_le number (2 ^ shift)
    omega

theorem units_nearest (fraction number : ℕ) :
    units fraction (nearest fraction number) =
      halfEven number (2 ^ (Nat.log2 number - fraction)) * 2 ^ (Nat.log2 number - fraction) :=
  units_of_shift (rounded_digits fraction number).1 (rounded_digits fraction number).2

theorem nearest_mono (ordered : number ≤ more) :
    nearest fraction number ≤ nearest fraction more := by
  have digits := rounded_digits fraction number
  have digitsMore := rounded_digits fraction more
  have logs : Nat.log2 number ≤ Nat.log2 more := by
    rw [Nat.log2_eq_log_two, Nat.log2_eq_log_two]
    exact Nat.log_mono_right ordered
  simp only [nearest]
  rcases Nat.lt_or_eq_of_le (Nat.sub_le_sub_right logs fraction) with before | same
  · exact (shifted_le before digits.2 (digitsMore.1.resolve_left (by omega))).1
  · rw [same]
    exact Nat.add_le_add_left (halfEven_mono ordered) _

theorem units_nearest_mono (ordered : number ≤ more) :
    units fraction (nearest fraction number) ≤ units fraction (nearest fraction more) :=
  units_mono (nearest_mono ordered)

/-- A number of few digits, whatever power of two it is scaled by, needs no rounding. -/
theorem units_nearest_whole {value : ℕ} (few : value < 2 ^ (fraction + 1)) (scale : ℕ) :
    units fraction (nearest fraction (value * 2 ^ scale)) = value * 2 ^ scale := by
  rw [units_nearest]
  rcases Nat.eq_zero_or_pos value with rfl | positive
  · simp [halfEven]
  · have top := log2_lt_of_lt few
    rw [log2_mul_two_pow positive]
    generalize power : Nat.log2 value + scale - fraction = shift
    have split : value * 2 ^ scale = value * 2 ^ (scale - shift) * 2 ^ shift := by
      rw [Nat.mul_assoc, ← Nat.pow_add]
      congr 2
      omega
    rw [split, halfEven_mul _ (Nat.two_pow_pos shift)]

/-- Rounding does not pass a number of few digits on the way up. -/
theorem units_nearest_le {value scale : ℕ} (few : value < 2 ^ (fraction + 1))
    (below : number ≤ value * 2 ^ scale) :
    units fraction (nearest fraction number) ≤ value * 2 ^ scale := by
  rw [← units_nearest_whole few scale]
  exact units_nearest_mono below

/-- Nor on the way down. -/
theorem le_units_nearest {value scale : ℕ} (few : value < 2 ^ (fraction + 1))
    (above : value * 2 ^ scale ≤ number) :
    value * 2 ^ scale ≤ units fraction (nearest fraction number) := by
  rw [← units_nearest_whole few scale]
  exact units_nearest_mono above

end Codes

section Formats

variable (number : ℕ)

end Formats

end TrueForce.Rounding
