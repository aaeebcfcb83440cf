import TrueForce.Foundation.Binary32
import TrueForce.Foundation.ByteBuffer

/-!
# Telemetry samples

What every decoder turns its datagrams into, and the reads that the decoders
share.
-/

namespace TrueForce.Udp

open Binary32 ByteBuffer

structure Telemetry where
  rpm : F32
  maxRpm : F32
  throttle : F32
  speed : F32
  pitLimiter : Bool := false
  gear : Int8 := 0
  brake : F32 := zero
  clutch : F32 := zero
  absActive : Bool := false
  tractionControl : Bool := false
  wheelSlip : F32 := zero
  airborne : Bool := false
  surfaceRoughness : F32 := zero
  impactG : F32 := zero
  drsActive : Bool := false
  deriving DecidableEq

def IsPedal (position : F32) : Prop :=
  isFinite position = true ∧ le zero position = true ∧ le position one = true

instance (position : F32) : Decidable (IsPedal position) := inferInstanceAs (Decidable (_ ∧ _ ∧ _))

structure Telemetry.Sane (sample : Telemetry) : Prop where
  rpmFinite : isFinite sample.rpm = true
  rpmNonneg : le zero sample.rpm = true
  maxRpmFinite : isFinite sample.maxRpm = true
  maxRpmPositive : lt zero sample.maxRpm = true
  speedFinite : isFinite sample.speed = true
  throttle : IsPedal sample.throttle
  brake : IsPedal sample.brake
  clutch : IsPedal sample.clutch

theorem isPedal_zero : IsPedal zero := by decide

theorem isPedal_clamp {position : F32} (number : isNan position = false) :
    IsPedal (clamp zero one position) := by
  have ordered : le zero one = true := by decide
  have between := clamp_between ordered number
  exact ⟨isFinite_of_le between.1 between.2 (by decide) (by decide), between⟩

theorem isPedal_clamp_iff {position : F32} :
    IsPedal (clamp zero one position) ↔ isNan position = false := by
  constructor
  · intro pedal
    by_contra nan
    rw [Bool.not_eq_false] at nan
    rw [clamp_of_isNan nan] at pedal
    have number := isNan_of_isFinite pedal.1
    rw [nan] at number
    cases number
  · exact isPedal_clamp

def u16At (pkt : Bytes) (off : ℕ) : Option UInt16 :=
  (slice pkt off 2).map fun bytes => UInt16.ofNat (littleEndian bytes)

def u32At (pkt : Bytes) (off : ℕ) : Option UInt32 :=
  (slice pkt off 4).map fun bytes => UInt32.ofNat (littleEndian bytes)

def f32At (pkt : Bytes) (off : ℕ) : Option F32 := u32At pkt off

/-- The field at `off` of a packet long enough to have it. -/
def field (pkt : Bytes) (off : ℕ) : F32 := UInt32.ofNat (littleEndian ((pkt.drop off).take 4))

theorem f32At_of_le {pkt : Bytes} {off : ℕ} (fits : off + 4 ≤ pkt.length) :
    f32At pkt off = some (field pkt off) := by
  rw [f32At, u32At, slice_of_le fits]
  rfl

theorem f32At_eq_some {pkt : Bytes} {off : ℕ} {value : F32} (read : f32At pkt off = some value) :
    off + 4 ≤ pkt.length ∧ value = field pkt off := by
  rw [f32At, u32At, Option.map_eq_some_iff] at read
  rcases read with ⟨bytes, read, rfl⟩
  rcases slice_eq_some read with ⟨fits, rfl⟩
  exact ⟨fits, rfl⟩

end TrueForce.Udp
