import Mathlib.Data.Int.Notation
import Mathlib.Data.Nat.Notation

/-!
# Setting kinds

A setting's kind turns the text of its sysfs attribute into a value and back.
The text appears here as the tokens both sides read it as: a numeral, a pair of
numerals, a list of `in:out` points, the word `reset`, or the point count that
a curve attribute shows instead of its points.  Only the kinds of the settings
modelled in this development are kept.
-/

namespace TrueForce.Settings

inductive Mode where
  | desktop
  | onboard
  deriving DecidableEq

/-- The models differ in their light strip: a G PRO has only the brightness. -/
inductive Model where
  | rs50
  | gpro
  deriving DecidableEq

inductive Error where
  | wrongMode (needed : Mode)
  | unsupported
  | outOfRange
  | invalid
  | parse
  | io
  deriving DecidableEq

/-- The text of an attribute, by tokens. -/
inductive Raw where
  | number (value : ℤ)
  | numbers (lower upper : ℕ)
  | reset
  | points (list : List (ℕ × ℕ))
  | pointsLoaded (loaded max : ℕ)
  deriving DecidableEq

inductive Value where
  | percent (value : ℕ)
  | int (value : ℤ)
  | bool (value : Bool)
  | curve (points : List (ℕ × ℕ))
  | curveLoaded (loaded : ℕ)
  | pair (lower upper : ℕ)
  deriving DecidableEq

inductive Kind where
  | percent
  | intRange (min max : ℤ)
  | toggle
  | curve
  | pair (max : ℕ)
  deriving DecidableEq

namespace Kind

def parse : Kind → Raw → Except Error Value
  | percent, .number value =>
      if 0 ≤ value ∧ value ≤ 100 then .ok (.percent value.toNat) else .error .outOfRange
  | intRange min max, .number value =>
      if value < min ∨ max < value then .error .outOfRange else .ok (.int value)
  | toggle, .number value =>
      if value = 0 then .ok (.bool false)
      else if value = 1 then .ok (.bool true)
      else .error .parse
  -- The count is what has to be read: the legend names the built-in curve either way.
  | curve, .pointsLoaded loaded _ =>
      if loaded = 0 then .ok (.curve []) else .ok (.curveLoaded loaded)
  | curve, .reset => .ok (.curve [])
  | curve, .points list =>
      if list.all fun point => point.1 ≤ 0xFFFF ∧ point.2 ≤ 0xFFFF then .ok (.curve list)
      else .error .parse
  | pair max, .numbers lower upper =>
      if 0xFF < lower ∨ 0xFF < upper then .error .parse
      else if max < lower + upper then .error .outOfRange
      else .ok (.pair lower upper)
  | _, _ => .error .parse

def format : Kind → Value → Except Error Raw
  | percent, .percent value => .ok (.number value)
  | intRange _ _, .int value => .ok (.number value)
  | toggle, .bool value => .ok (.number (if value then 1 else 0))
  -- The points of a loaded curve cannot be read back, so there is no text that reproduces it.
  | curve, .curveLoaded _ => .error .parse
  | curve, .curve points => if points.isEmpty then .ok .reset else .ok (.points points)
  | pair _, .pair lower upper => .ok (.numbers lower upper)
  | _, _ => .error .invalid

/-- A value satisfies the constraints of a kind when its own text parses. -/
def validate (kind : Kind) (value : Value) : Except Error Unit := do
  let raw ← kind.format value
  let _ ← kind.parse raw
  return ()

theorem parse_percent {value : ℕ} (bound : value ≤ 100) :
    percent.parse (.number value) = .ok (.percent value) := by
  have upper : (value : ℤ) ≤ 100 := by omega
  simp [parse, upper]

theorem parse_pair {max lower upper : ℕ} (small : max ≤ 0xFF) (bound : lower + upper ≤ max) :
    (pair max).parse (.numbers lower upper) = .ok (.pair lower upper) := by
  have inBytes : ¬ (0xFF < lower ∨ 0xFF < upper) := by omega
  have within : ¬ max < lower + upper := by omega
  simp [parse, inBytes, within]

end Kind

end TrueForce.Settings
