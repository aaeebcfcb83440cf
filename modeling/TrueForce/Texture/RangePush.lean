import TrueForce.Foundation.Binary32
import TrueForce.Texture.Merge

/-!
# The degrees of a range push

The driver reads the rotation range of a type-0x0e packet off the bits of its float.
`session.c` puts the range of the wheel into such a packet before it is sent.
-/

namespace TrueForce.Texture

open TrueForce.Binary32 TrueForce.ByteBuffer

namespace RangePush

def typeOffset : ℕ := 4

def typeRange : UInt8 := 0x0e

def rangeOffset : ℕ := 6

/-- `patch_range_packet`, given what the two attributes read as. -/
def patchRangePacket (wheelRange range : Option ℤ) (packet : Bytes) : Bytes :=
  if packet[typeOffset]? ≠ some typeRange then packet
  else
    match wheelRange.or range with
    | none => packet
    | some degrees =>
        if degrees ≤ 0 ∨ 2700 < degrees then packet
        else write packet rangeOffset (le32 (ofNat degrees.toNat))

/-- The float of a push. -/
def pushBits (buffer : Bytes) : F32 :=
  UInt32.ofNat (littleEndian
    [buffer.getD 6 0, buffer.getD 7 0, buffer.getD 8 0, buffer.getD 9 0])

/-- The size of the number is at least one and below 4096. -/
def InCoverage (bits : F32) : Prop :=
  isFinite bits = true ∧ 2 ^ 149 ≤ units (code bits) ∧ units (code bits) < 4096 * 2 ^ 149

instance (bits : F32) : Decidable (InCoverage bits) := inferInstanceAs (Decidable (_ ∧ _))

/-- The integer part of a number from one to 4096, and 0 for all others. -/
def wholeDegrees (bits : F32) : ℕ :=
  if negative bits = false ∧ InCoverage bits then units (code bits) / 2 ^ 149 else 0

variable {buffer packet : Bytes} {bits : F32}

theorem inCoverage_iff :
    InCoverage bits ↔ 127 ≤ code bits / 2 ^ 23 ∧ code bits / 2 ^ 23 ≤ 138 := by
  have least := two_pow_le_units_iff (code bits) 126
  have most := two_pow_le_units_iff (code bits) 138
  have finite : isFinite bits = true ↔ code bits < 255 * 2 ^ 23 := decide_eq_true_iff
  rw [InCoverage, finite]
  omega

/-- Within the coverage the decoder shifts the fraction down to the integer part. -/
theorem units_div (covered : InCoverage bits) :
    units (code bits) / 2 ^ 149 =
      (code bits % 2 ^ 23 + 2 ^ 23) / 2 ^ (23 - (code bits / 2 ^ 23 - 127)) := by
  rw [inCoverage_iff] at covered
  have normal : ¬code bits < 2 ^ 23 := by omega
  have scale : 2 ^ 149 =
      2 ^ (23 - (code bits / 2 ^ 23 - 127)) * 2 ^ (code bits / 2 ^ 23 - 1) := by
    rw [← Nat.pow_add]
    congr 1
    omega
  rw [units, if_neg normal, scale, Nat.mul_div_mul_right _ _ (Nat.two_pow_pos _), Nat.add_comm]

theorem one_le_units_div (covered : InCoverage bits) : 1 ≤ units (code bits) / 2 ^ 149 :=
  (Nat.one_le_div_iff (Nat.two_pow_pos 149)).mpr covered.2.1

theorem toNat_pushBits (buffer : Bytes) :
    (pushBits buffer).toNat =
      (buffer.getD 6 0).toNat + (buffer.getD 7 0).toNat * 2 ^ 8 +
        (buffer.getD 8 0).toNat * 2 ^ 16 + (buffer.getD 9 0).toNat * 2 ^ 24 := by
  have := (buffer.getD 6 0).toNat_lt
  have := (buffer.getD 7 0).toNat_lt
  have := (buffer.getD 8 0).toNat_lt
  have := (buffer.getD 9 0).toNat_lt
  rw [pushBits, UInt32.toNat_ofNat']
  simp only [littleEndian]
  omega

/-- The decoder gives the integer part of the size, whatever the sign. -/
theorem decodePushDeg_eq (buffer : Bytes) :
    Texmerge.decodePushDeg buffer =
      if InCoverage (pushBits buffer) then units (code (pushBits buffer)) / 2 ^ 149 else 0 := by
  have exponent : (pushBits buffer).toNat / 2 ^ 23 % 2 ^ 8 = code (pushBits buffer) / 2 ^ 23 := by
    rw [code]
    omega
  have fraction : (pushBits buffer).toNat % 2 ^ 23 = code (pushBits buffer) % 2 ^ 23 := by
    rw [code]
    omega
  simp only [Texmerge.decodePushDeg]
  rw [← toNat_pushBits, exponent, fraction]
  by_cases covered : InCoverage (pushBits buffer)
  · have range := inCoverage_iff.mp covered
    rw [if_pos covered, if_neg (by omega), units_div covered]
  · have range := mt inCoverage_iff.mpr covered
    rw [if_neg covered, if_pos (by omega)]

theorem decodePushDeg_eq_iff (buffer : Bytes) :
    Texmerge.decodePushDeg buffer = wholeDegrees (pushBits buffer) ↔
      ¬(negative (pushBits buffer) = true ∧ InCoverage (pushBits buffer)) := by
  rw [decodePushDeg_eq, wholeDegrees]
  by_cases covered : InCoverage (pushBits buffer)
  · have least := one_le_units_div covered
    rw [if_pos covered]
    cases negative (pushBits buffer) with
    | false => simp [covered]
    | true =>
        simp only [Bool.true_eq_false, if_false, covered, and_true, not_true_eq_false,
          iff_false]
        omega
  · simp [covered]

theorem pushBits_write (room : 10 ≤ packet.length) (bits : F32) :
    pushBits (write packet rangeOffset (le32 bits)) = bits := by
  have byte {index : ℕ} (inside : index < 4) :
      (write packet rangeOffset (le32 bits)).getD (6 + index) 0 = (le32 bits).getD index 0 := by
    have fits : rangeOffset + (le32 bits).length ≤ packet.length := room
    rw [List.getD_eq_getElem?_getD, List.getD_eq_getElem?_getD]
    exact congrArg (Option.getD · 0) (getElem?_write_inside inside fits)
  have whole := littleEndian_le32 bits
  rw [pushBits, byte (by decide : 0 < 4), byte (by decide : 1 < 4), byte (by decide : 2 < 4),
    byte (by decide : 3 < 4)]
  change UInt32.ofNat (littleEndian (le32 bits)) = bits
  rw [whole, UInt32.ofNat_toNat]

theorem decodePushDeg_patch {degrees : ℕ} {wheelRange range : Option ℤ}
    (kind : packet[typeOffset]? = some typeRange) (room : 10 ≤ packet.length)
    (read : wheelRange.or range = some (degrees : ℤ)) (positive : 0 < degrees)
    (most : degrees ≤ 2700) :
    Texmerge.decodePushDeg (patchRangePacket wheelRange range packet) = degrees := by
  have sent : patchRangePacket wheelRange range packet =
      write packet rangeOffset (le32 (ofNat degrees)) := by
    rw [patchRangePacket, if_neg (not_not_intro kind), read]
    exact if_neg (by omega)
  have exact := @units_ofNat degrees (by omega)
  have covered : InCoverage (ofNat degrees) := by
    refine ⟨isFinite_ofNat (by omega), ?_, ?_⟩ <;> omega
  rw [sent, decodePushDeg_eq, pushBits_write room, if_pos covered, exact,
    Nat.mul_div_cancel _ (Nat.two_pow_pos 149)]

end RangePush

open RangePush

/-- The decoder gives the integer part of the float exactly where that is not a covered size
under a minus sign; and what the session patches in, it gives back. -/
theorem range_push_law (buffer : Bytes) :
    (Texmerge.decodePushDeg buffer = wholeDegrees (pushBits buffer) ↔
      ¬(negative (pushBits buffer) = true ∧ InCoverage (pushBits buffer))) ∧
    ∀ degrees : ℕ, 90 ≤ degrees → degrees ≤ 2700 →
      ∀ wheelRange range : Option ℤ, wheelRange.or range = some (degrees : ℤ) →
        buffer[typeOffset]? = some typeRange → 10 ≤ buffer.length →
          Texmerge.decodePushDeg (patchRangePacket wheelRange range buffer) = degrees := by
  refine ⟨decodePushDeg_eq_iff buffer, ?_⟩
  intro degrees least most wheelRange range read kind room
  exact decodePushDeg_patch kind room read (by omega) most

/-- Minus ninety degrees, as a push. -/
def minusNinety : Bytes := [1, 0, 0, 0, 0x0e, 0, 0, 0, 0xb4, 0xc2] ++ List.replicate 54 0

theorem decodePushDeg_ignores_sign :
    Texmerge.decodePushDeg minusNinety = 90 ∧ wholeDegrees (pushBits minusNinety) = 0 := by
  decide

end TrueForce.Texture
