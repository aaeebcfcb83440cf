import TrueForce.Foundation.Rounding
import Mathlib.Algebra.Order.Field.Basic
import Mathlib.Algebra.Order.Field.Rat
import Mathlib.Order.WithBot
import Mathlib.Tactic.FieldSimp
import Mathlib.Tactic.Linarith
import Mathlib.Tactic.Ring

/-!
# Samples in five formats

The calls that take samples as floating-point numbers or as integers turn them into
sixteen bits, chunk by chunk, and push each chunk.  What C leaves undefined, a cast of
what does not fit or a counter past `INT_MAX`, has no result here.
-/

namespace TrueForce.Stream

open Binary32 (F32)
open Binary64 (F64)

/-- What a conversion uses of a floating-point format; `one` is `2 ^ scale` units. -/
structure Arithmetic (Bits : Type) where
  fraction : ℕ
  scale : ℕ
  infinity : ℕ
  negative : Bits → Bool
  code : Bits → ℕ
  lt : Bits → Bits → Bool
  mul : Bits → Bits → Bits
  one : Bits
  minusOne : Bits
  fullScale : Bits

def single : Arithmetic F32 where
  fraction := 23
  scale := 149
  infinity := Binary32.infinity
  negative := Binary32.negative
  code := Binary32.code
  lt := Binary32.lt
  mul := Binary32.mul
  one := 0x3F800000
  minusOne := 0xBF800000
  fullScale := 0x46FFFE00

def double : Arithmetic F64 where
  fraction := 52
  scale := 1074
  infinity := Binary64.infinity
  negative := Binary64.negative
  code := Binary64.code
  lt := Binary64.lt
  mul := Binary64.mul
  one := 0x3FF0000000000000
  minusOne := 0xBFF0000000000000
  fullScale := 0x40DFFFC000000000

/-- `(int16_t)` of a whole number. -/
def castS16 (value : ℤ) : Option Int16 :=
  if -32768 ≤ value ∧ value ≤ 32767 then some (Int16.ofInt value) else none

namespace Arithmetic

variable {Bits : Type} (arithmetic : Arithmetic Bits)

def magnitude (v : Bits) : ℕ := Rounding.units arithmetic.fraction (arithmetic.code v)

/-- `(int16_t)` of a floating-point number, which truncates. -/
def toS16 (v : Bits) : Option Int16 :=
  if arithmetic.infinity ≤ arithmetic.code v then none
  else
    let whole : ℤ := (arithmetic.magnitude v / 2 ^ arithmetic.scale : ℕ)
    castS16 (if arithmetic.negative v then -whole else whole)

def limit (v : Bits) : Bits :=
  let v := if arithmetic.lt arithmetic.one v then arithmetic.one else v
  if arithmetic.lt v arithmetic.minusOne then arithmetic.minusOne else v

def convert (v : Bits) : Option Int16 :=
  arithmetic.toS16 (arithmetic.mul (arithmetic.limit v) arithmetic.fullScale)

end Arithmetic

def convertInt32 (sample : Int32) : Option Int16 :=
  let v := sample.toInt
  let v := if 32767 < v then 32767 else v
  let v := if v < -32768 then -32768 else v
  castS16 v

def convertInt8 (sample : Int8) : Option Int16 := castS16 (sample.toInt * 256)

def tfConvertChunk : ℕ := 512

def intMax : ℕ := 2147483647

/-- The loop of the conversions from an offset on: what it pushes. -/
def convertChunks {Sample : Type} (convert : Sample → Option Int16) (off : ℕ) :
    List Sample → Option (List (List Int16))
  | [] => some []
  | sample :: samples => do
      let buf ← ((sample :: samples).take tfConvertChunk).mapM convert
      guard (off + tfConvertChunk ≤ intMax)
      let pushes ← convertChunks convert (off + tfConvertChunk)
        ((sample :: samples).drop tfConvertChunk)
      return buf :: pushes
termination_by samples => samples.length
decreasing_by
  simp only [tfConvertChunk, List.length_drop, List.length_cons]
  omega

def setTorqueTFfloat (samples : List F32) : Option (List (List Int16)) :=
  convertChunks single.convert 0 samples

def setTorqueTFdouble (samples : List F64) : Option (List (List Int16)) :=
  convertChunks double.convert 0 samples

def setTorqueTFint16 (samples : List Int16) : Option (List (List Int16)) := some [samples]

def setTorqueTFint32 (samples : List Int32) : Option (List (List Int16)) :=
  convertChunks convertInt32 0 samples

def setTorqueTFint8 (samples : List Int8) : Option (List (List Int16)) :=
  convertChunks convertInt8 0 samples

inductive Format where
  | float
  | double
  | int32
  | int16
  | int8
  deriving DecidableEq

namespace Format

abbrev Sample : Format → Type
  | float => F32
  | double => F64
  | int32 => Int32
  | int16 => Int16
  | int8 => Int8

def convert : (format : Format) → format.Sample → Option Int16
  | float => Stream.single.convert
  | double => Stream.double.convert
  | int32 => convertInt32
  | int16 => some
  | int8 => convertInt8

def isNan : (format : Format) → format.Sample → Bool
  | float => Binary32.isNan
  | double => Binary64.isNan
  | int32 | int16 | int8 => fun _ => false

def setTorqueTF : (format : Format) → List format.Sample → Option (List (List Int16))
  | float => setTorqueTFfloat
  | double => setTorqueTFdouble
  | int32 => setTorqueTFint32
  | int16 => setTorqueTFint16
  | int8 => setTorqueTFint8

end Format

/-- The rational numbers between the infinite ones. -/
abbrev Extended := WithBot (WithTop ℚ)

def Extended.of (value : ℚ) : Extended := ((value : WithTop ℚ) : WithBot (WithTop ℚ))

namespace Arithmetic

variable {Bits : Type} (arithmetic : Arithmetic Bits)

/-- A number in units. -/
def position (v : Bits) : ℤ :=
  if arithmetic.negative v then -arithmetic.magnitude v else arithmetic.magnitude v

def value (v : Bits) : Option Extended :=
  if arithmetic.infinity < arithmetic.code v then none
  else if arithmetic.code v = arithmetic.infinity then
    some (if arithmetic.negative v then ⊥ else ⊤)
  else some (.of (arithmetic.position v / 2 ^ arithmetic.scale))

end Arithmetic

/-- The value of a sample, unless it is NaN; `full` is what the integers of sixteen bits, and
those of 32, take as one. -/
def Format.value (full : ℚ) : (format : Format) → format.Sample → Option Extended
  | float => Stream.single.value
  | double => Stream.double.value
  | int32 => fun sample => some (.of (sample.toInt / full))
  | int16 => fun sample => some (.of (sample.toInt / full))
  | int8 => fun sample => some (.of (sample.toInt * 256 / full))

/-- What a call makes of its samples. -/
structure Format.Lawful (full : ℚ) (format : Format) (samples : List format.Sample) : Prop where
  /-- Nothing is undefined, and every sample is converted once and pushed in its turn. -/
  pushed : ∃ pushes, format.setTorqueTF samples = some pushes ∧
    (∀ push ∈ pushes, push ≠ [] ∧ (format ≠ .int16 → push.length ≤ tfConvertChunk)) ∧
      samples.map format.convert = pushes.flatten.map some
  rising : ∀ first ∈ samples, ∀ second ∈ samples, ∀ value ∈ format.value full first,
    ∀ next ∈ format.value full second, value ≤ next →
      ∀ low ∈ format.convert first, ∀ high ∈ format.convert second, low.toInt ≤ high.toInt
  clamped : ∀ sample ∈ samples, ∀ value ∈ format.value full sample,
    ∀ result ∈ format.convert sample, (.of 1 ≤ value → result.toInt = 32767) ∧
      (value ≤ .of (-1) → result.toInt ≤ -32767)
  silent : ∀ sample ∈ samples, format.isNan sample = true → format.convert sample = some 0
  close : ∀ sample ∈ samples, ∀ value ∈ format.value full sample,
    ∀ (other : Format) (same : other.Sample), other.value full same = some value →
      ∃ result again, format.convert sample = some result ∧ other.convert same = some again ∧
        |result.toInt - again.toInt| ≤ 1

section Chunks

variable {Sample : Type} {convert : Sample → Option Int16} {off : ℕ} {samples : List Sample}

end Chunks

section Values

variable {value : Extended} {result again : ℤ} {a b : ℚ}

@[simp]
theorem Extended.of_le_of : Extended.of a ≤ Extended.of b ↔ a ≤ b := by
  simp [of]

@[simp]
theorem Extended.of_inj : Extended.of a = Extended.of b ↔ a = b := by
  simp [of]

theorem Extended.not_top_le : ¬(⊤ : Extended) ≤ .of a := by
  simp [of]

theorem Extended.not_le_bot : ¬Extended.of a ≤ ⊥ := by
  simp [of]

theorem Extended.cases (value : Extended) : value = ⊥ ∨ value = ⊤ ∨ ∃ a, value = .of a := by
  cases value using WithBot.recBotCoe with
  | bot => exact .inl rfl
  | coe value =>
      cases value using WithTop.recTopCoe with
      | top => exact .inr (.inl rfl)
      | coe a => exact .inr (.inr ⟨a, rfl⟩)

/-- Less than one step off, and at an end of the range for a value that is not within it. -/
structure Near (value : Extended) (result : ℤ) : Prop where
  high : .of 1 ≤ value → result = 32767
  low : value ≤ .of (-1) → result = -32767 ∨ result = -32768
  inside : ∀ a, value = .of a → -1 < a → a < 1 → |result - 32767 * a| < 1

theorem Near.close (near : Near value result) (other : Near value again) :
    |result - again| ≤ 1 := by
  by_cases up : .of 1 ≤ value
  · rw [near.high up, other.high up]
    decide
  by_cases down : value ≤ .of (-1)
  · rcases near.low down with rfl | rfl <;> rcases other.low down with rfl | rfl <;> decide
  · rcases Extended.cases value with rfl | rfl | ⟨a, rfl⟩
    · exact absurd bot_le down
    · exact absurd le_top up
    · rw [Extended.of_le_of, not_le] at up down
      have first := abs_lt.mp (near.inside a rfl down up)
      have second := abs_lt.mp (other.inside a rfl down up)
      have less : |((result - again : ℤ) : ℚ)| < 2 := by
        push_cast
        rw [abs_lt]
        constructor <;> linarith
      have whole : |result - again| < 2 := by exact_mod_cast less
      omega

end Values

section Integers

variable {Sample : Type} {count : Sample → ℤ} {convert : Sample → Option Int16} {full : ℚ}

def clampS16 (value : ℤ) : ℤ := max (-32768) (min 32767 value)

end Integers

namespace Arithmetic

variable {Bits : Type} (arithmetic : Arithmetic Bits)

/-- Where a number that is not NaN stands among the others. -/
def rank (v : Bits) : ℤ :=
  if arithmetic.negative v then -arithmetic.code v else arithmetic.code v

/-- What the conversions rely on: comparisons go by rank, and a product with the full scale is
rounded to nearest. -/
structure Sound : Prop where
  few : 32767 < 2 ^ (arithmetic.fraction + 1)
  one : arithmetic.magnitude arithmetic.one = 2 ^ arithmetic.scale
  oneNegative : arithmetic.negative arithmetic.one = false
  minusOne : arithmetic.code arithmetic.minusOne = arithmetic.code arithmetic.one
  minusOneNegative : arithmetic.negative arithmetic.minusOne = true
  top : arithmetic.code arithmetic.one < arithmetic.infinity
  fits : Rounding.nearest arithmetic.fraction (2 ^ arithmetic.scale * 32767) < arithmetic.infinity
  lt : ∀ a b, arithmetic.lt a b = true ↔
    (arithmetic.code a ≤ arithmetic.infinity ∧ arithmetic.code b ≤ arithmetic.infinity) ∧
      arithmetic.rank a < arithmetic.rank b
  mul : ∀ v, arithmetic.code v ≤ arithmetic.code arithmetic.one →
    arithmetic.code (arithmetic.mul v arithmetic.fullScale) = min arithmetic.infinity
      (Rounding.nearest arithmetic.fraction (arithmetic.magnitude v * 32767)) ∧
      arithmetic.negative (arithmetic.mul v arithmetic.fullScale) = arithmetic.negative v
  nan : ∀ v, arithmetic.infinity < arithmetic.code v →
    arithmetic.infinity ≤ arithmetic.code (arithmetic.mul v arithmetic.fullScale)

/-- What is left of a magnitude, in steps of the sixteen bits. -/
def level (magnitude : ℕ) : ℕ :=
  Rounding.units arithmetic.fraction (Rounding.nearest arithmetic.fraction
    (min magnitude (2 ^ arithmetic.scale) * 32767)) / 2 ^ arithmetic.scale

def signedLevel (position : ℤ) : ℤ :=
  if position < 0 then -arithmetic.level position.natAbs else arithmetic.level position.natAbs

variable {arithmetic} {magnitude more : ℕ}

namespace Sound

variable (sound : arithmetic.Sound) {v : Bits}
include sound

theorem limit (number : arithmetic.code v ≤ arithmetic.infinity) :
    arithmetic.code (arithmetic.limit v) = min (arithmetic.code v) (arithmetic.code arithmetic.one) ∧
      arithmetic.negative (arithmetic.limit v) = arithmetic.negative v := by
  have top := sound.top
  have above := sound.lt arithmetic.one v
  have under := sound.lt v arithmetic.minusOne
  have back := sound.lt arithmetic.one arithmetic.minusOne
  simp only [rank, sound.oneNegative, sound.minusOne, sound.minusOneNegative, if_true,
    Bool.false_eq_true, if_false] at above under back
  have ordered : arithmetic.lt arithmetic.one arithmetic.minusOne = false := by
    rw [← Bool.not_eq_true, back]
    omega
  simp only [Arithmetic.limit]
  by_cases high : arithmetic.lt arithmetic.one v = true
  · rw [if_pos high, ordered]
    rw [above] at high
    cases sign : arithmetic.negative v with
    | true =>
        rw [sign, if_pos rfl] at high
        omega
    | false =>
        rw [sign] at high
        simp only [Bool.false_eq_true, if_false] at high ⊢
        exact ⟨by omega, sound.oneNegative⟩
  · rw [if_neg high]
    rw [above] at high
    by_cases low : arithmetic.lt v arithmetic.minusOne = true
    · rw [if_pos low, sound.minusOne, sound.minusOneNegative]
      rw [under] at low
      cases sign : arithmetic.negative v with
      | true =>
          rw [sign, if_pos rfl] at low
          exact ⟨by omega, rfl⟩
      | false =>
          rw [sign] at low
          simp only [Bool.false_eq_true, if_false] at low
          omega
    · rw [if_neg low]
      rw [under] at low
      refine ⟨?_, rfl⟩
      cases sign : arithmetic.negative v with
      | true =>
          rw [sign, if_pos rfl] at low high
          omega
      | false =>
          rw [sign] at low high
          simp only [Bool.false_eq_true, if_false] at low high
          omega

theorem level_full (reached : 2 ^ arithmetic.scale ≤ magnitude) :
    arithmetic.level magnitude = 32767 := by
  rw [level, min_eq_right reached, Nat.mul_comm, Rounding.units_nearest_whole sound.few,
    Nat.mul_div_cancel _ (Nat.two_pow_pos _)]

/-- The level is the product or next to it. -/
theorem level_near (less : magnitude < 2 ^ arithmetic.scale) :
    arithmetic.level magnitude * 2 ^ arithmetic.scale <
        magnitude * 32767 + 2 ^ arithmetic.scale ∧
      magnitude * 32767 < arithmetic.level magnitude * 2 ^ arithmetic.scale +
        2 ^ arithmetic.scale := by
  have few := sound.few
  have step := Nat.two_pow_pos arithmetic.scale
  have whole := Nat.div_add_mod (magnitude * 32767) (2 ^ arithmetic.scale)
  have rest := Nat.mod_lt (magnitude * 32767) step
  have below : magnitude * 32767 / 2 ^ arithmetic.scale < 32767 :=
    Nat.div_lt_of_lt_mul (Nat.mul_lt_mul_of_pos_right less (by decide))
  rw [level, min_eq_left less.le]
  rw [Nat.mul_comm (2 ^ arithmetic.scale)] at whole
  generalize magnitude * 32767 / 2 ^ arithmetic.scale = floor at whole below
  generalize magnitude * 32767 % 2 ^ arithmetic.scale = remainder at whole rest
  generalize magnitude * 32767 = product at whole ⊢
  have up : floor ≤ Rounding.units arithmetic.fraction
      (Rounding.nearest arithmetic.fraction product) / 2 ^ arithmetic.scale := by
    rw [Nat.le_div_iff_mul_le step]
    exact Rounding.le_units_nearest (by omega) (by omega)
  rcases Nat.eq_zero_or_pos remainder with none | some
  · have down : Rounding.units arithmetic.fraction
        (Rounding.nearest arithmetic.fraction product) / 2 ^ arithmetic.scale ≤ floor := by
      apply Nat.div_le_of_le_mul
      rw [Nat.mul_comm]
      exact Rounding.units_nearest_le (by omega) (by omega)
    rw [le_antisymm down up]
    omega
  · have next : (floor + 1) * 2 ^ arithmetic.scale =
        floor * 2 ^ arithmetic.scale + 2 ^ arithmetic.scale := Nat.succ_mul _ _
    have down : Rounding.units arithmetic.fraction
        (Rounding.nearest arithmetic.fraction product) / 2 ^ arithmetic.scale ≤ floor + 1 := by
      apply Nat.div_le_of_le_mul
      rw [Nat.mul_comm]
      exact Rounding.units_nearest_le (by omega) (by omega)
    rcases Nat.lt_or_eq_of_le down with least | most
    · rw [le_antisymm (Nat.le_of_lt_succ least) up]
      omega
    · rw [most]
      omega

/-- An infinite number is at an end of the range. -/
theorem signedLevel_full {position : ℤ} (far : 2 ^ arithmetic.scale ≤ position.natAbs) :
    arithmetic.signedLevel position = if position < 0 then -32767 else 32767 := by
  rw [signedLevel, sound.level_full far]
  rfl

/-- A number inside the range is off by less than one step. -/
theorem signedLevel_near {place : ℤ} (less : place.natAbs < 2 ^ arithmetic.scale) :
    |arithmetic.signedLevel place * (2 ^ arithmetic.scale : ℕ) - 32767 * place| <
      (2 ^ arithmetic.scale : ℕ) := by
  have close := sound.level_near less
  rw [abs_lt, signedLevel]
  split
  · rw [Int.neg_mul]
    zify at close
    rw [abs_of_neg (by assumption)] at close
    push_cast
    omega
  · zify at close
    rw [abs_of_nonneg (by omega)] at close
    push_cast
    omega

theorem near_position (place : ℤ) :
    Near (.of (place / 2 ^ arithmetic.scale)) (arithmetic.signedLevel place) := by
  have scale : (0 : ℚ) < 2 ^ arithmetic.scale := by positivity
  have units : ((2 ^ arithmetic.scale : ℕ) : ℚ) = 2 ^ arithmetic.scale := by push_cast; rfl
  have some := Nat.two_pow_pos arithmetic.scale
  refine ⟨?_, ?_, ?_⟩
  · intro up
    rw [Extended.of_le_of, one_le_div scale, ← units] at up
    have far : ((2 ^ arithmetic.scale : ℕ) : ℤ) ≤ place := by exact_mod_cast up
    rw [sound.signedLevel_full (by omega), if_neg (by omega)]
  · intro down
    rw [Extended.of_le_of, div_le_iff₀ scale, ← units] at down
    have far : place ≤ -((2 ^ arithmetic.scale : ℕ) : ℤ) := by
      have bound : (place : ℚ) ≤ ((-(2 ^ arithmetic.scale : ℕ) : ℤ) : ℚ) := by
        push_cast
        push_cast at down
        linarith
      exact_mod_cast bound
    left
    rw [sound.signedLevel_full (by omega), if_pos (by omega)]
  · intro a same above below
    rw [Extended.of_inj] at same
    rw [← same, lt_div_iff₀ scale, ← units] at above
    rw [← same, div_lt_one scale, ← units] at below
    have low : -((2 ^ arithmetic.scale : ℕ) : ℤ) < place := by
      have bound : ((-(2 ^ arithmetic.scale : ℕ) : ℤ) : ℚ) < place := by
        push_cast
        push_cast at above
        linarith
      exact_mod_cast bound
    have high : place < ((2 ^ arithmetic.scale : ℕ) : ℤ) := by exact_mod_cast below
    have less : place.natAbs < 2 ^ arithmetic.scale := by omega
    have product : (arithmetic.signedLevel place : ℚ) - 32767 * a =
        ((arithmetic.signedLevel place * (2 ^ arithmetic.scale : ℕ) - 32767 * place : ℤ) : ℚ) /
          2 ^ arithmetic.scale := by
      rw [← same]
      push_cast
      field_simp
    rw [product, abs_div, abs_of_pos scale, div_lt_one scale, ← units]
    exact_mod_cast sound.signedLevel_near less

theorem near_infinite (infinite : arithmetic.code v = arithmetic.infinity) :
    Near (if arithmetic.negative v then ⊥ else ⊤)
      (arithmetic.signedLevel (arithmetic.position v)) := by
  have most : 2 ^ arithmetic.scale ≤ arithmetic.magnitude v := by
    rw [← sound.one, magnitude, magnitude, infinite]
    exact Rounding.units_mono sound.top.le
  have some := Nat.two_pow_pos arithmetic.scale
  cases sign : arithmetic.negative v with
  | true =>
      have level : arithmetic.signedLevel (arithmetic.position v) = -32767 := by
        simp only [position, sign, if_true]
        rw [sound.signedLevel_full (by omega), if_pos (by omega)]
      refine ⟨fun up => absurd up Extended.not_le_bot, fun _ => .inl level, ?_⟩
      intro a same
      exact absurd same (by simp [Extended.of])
  | false =>
      have level : arithmetic.signedLevel (arithmetic.position v) = 32767 := by
        simp only [position, sign, Bool.false_eq_true, if_false]
        rw [sound.signedLevel_full (by omega), if_neg (by omega)]
      refine ⟨fun _ => level, fun down => absurd down Extended.not_top_le, ?_⟩
      intro a same
      exact absurd same (by simp [Extended.of])

theorem near {number : Extended} (known : arithmetic.value v = some number) :
    Near number (arithmetic.signedLevel (arithmetic.position v)) := by
  simp only [value] at known
  split at known
  · cases known
  split at known
  · rename_i infinite
    cases known
    exact sound.near_infinite infinite
  · cases known
    exact sound.near_position (arithmetic.position v)

end Sound

end Arithmetic

namespace Format

variable {full : ℚ} {format : Format}

variable {samples : List format.Sample}

end Format

end TrueForce.Stream
