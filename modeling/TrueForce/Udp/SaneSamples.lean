import TrueForce.Udp.Decoders
import Mathlib.Data.Option.Basic

/-!
# When accepted telemetry is sane

Gates are comparisons, and what NaN does to a comparison depends on how it is
phrased.  The datagrams that slip through are told apart by their fields, and a
run of datagrams and resets is sound exactly when none of them occurs.
-/

namespace TrueForce.Udp

open Binary32 ByteBuffer RustText

/-- The highest engine speed seen, and nothing below one. -/
def Greatest (maxRpm : F32) (rpms : List F32) : Prop :=
  maxRpm ∈ one :: rpms ∧ ∀ rpm ∈ one :: rpms, le rpm maxRpm = true

namespace Wrc

/-- An engine speed that is NaN passes every gate that it does not fail. -/
def Slips (pkt : Bytes) : Prop :=
  pkt.length = packetLen ∧ isFinite (field pkt offSpeed) = true ∧
    isFinite (field pkt offThrottle) = true ∧
    (isNan (field pkt offRpm) = true ∨ isNan (field pkt offMaxRpm) = true) ∧
    lt (field pkt offRpm) zero = false ∧ le (field pkt offMaxRpm) zero = false ∧
    lt rpmCeiling (field pkt offRpm) = false ∧ lt rpmCeiling (field pkt offMaxRpm) = false

instance (pkt : Bytes) : Decidable (Slips pkt) := inferInstanceAs (Decidable (_ ∧ _))

end Wrc

namespace Beamng

/-- An engine speed that is NaN passes its gates, and two pedals have none. -/
def Slips (pkt : Bytes) : Prop :=
  (pkt.length = lenNoId ∨ pkt.length = lenWithId) ∧ isFinite (field pkt offSpeed) = true ∧
    isFinite (field pkt offThrottle) = true ∧ le (field pkt offRpm) zero = false ∧
    lt rpmCeiling (field pkt offRpm) = false ∧
    (isNan (field pkt offRpm) = true ∨ isNan (field pkt offBrake) = true ∨
      isNan (field pkt offClutch) = true)

instance (pkt : Bytes) : Decidable (Slips pkt) := inferInstanceAs (Decidable (_ ∧ _))

end Beamng

namespace Relay

/-- Nothing keeps out an engine that turns backwards. -/
def Slips (pkt : Bytes) : Prop :=
  packetLen ≤ pkt.length ∧ pkt.take 4 = magic ∧ pkt[4]? = some version ∧
    isFinite (field pkt 14) = true ∧ isFinite (field pkt 18) = true ∧
    isFinite (field pkt 22) = true ∧ le (field pkt 18) zero = false ∧
    lt (field pkt 14) zero = true

instance (pkt : Bytes) : Decidable (Slips pkt) := inferInstanceAs (Decidable (_ ∧ _))

end Relay

def Slips (pkt : Bytes) : Parser → Prop
  | .wrc => Wrc.Slips pkt
  | .beamng => Beamng.Slips pkt
  | .relay => Relay.Slips pkt
  | .codemasters | .f1 | .pcars => False

instance (pkt : Bytes) : ∀ parser, Decidable (Slips pkt parser)
  | .wrc => inferInstanceAs (Decidable (Wrc.Slips pkt))
  | .beamng => inferInstanceAs (Decidable (Beamng.Slips pkt))
  | .relay => inferInstanceAs (Decidable (Relay.Slips pkt))
  | .codemasters | .f1 | .pcars => inferInstanceAs (Decidable False)

namespace Decoder

/-- The decoder holds the highest of the engine speeds that it accepted. -/
structure Learned (decoder : Decoder) (rpms : List F32) : Prop where
  finite : isFinite decoder.runningMaxRpm = true
  seen : decoder.runningMaxRpm = zero ∨ decoder.runningMaxRpm ∈ rpms
  highest : ∀ rpm ∈ rpms, le rpm decoder.runningMaxRpm = true

variable {decoder : Decoder} {rpms : List F32} {rpm : F32}

theorem Learned.fresh (decoder : Decoder) : decoder.reset.Learned [] where
  finite := rfl
  seen := Or.inl rfl
  highest := fun _ none => absurd none List.not_mem_nil

theorem Learned.learn (learned : decoder.Learned rpms) (finite : isFinite rpm = true) :
    (decoder.learn rpm).Learned (rpm :: rpms) := by
  have number := isNan_of_isFinite learned.finite
  have rpmNumber := isNan_of_isFinite finite
  refine ⟨?_, ?_, ?_⟩
  · rcases Binary32.max_cases decoder.runningMaxRpm rpm with same | same
    · rw [Decoder.learn, same]
      exact learned.finite
    · rw [Decoder.learn, same]
      exact finite
  · rcases Binary32.max_cases decoder.runningMaxRpm rpm with same | same
    · rw [Decoder.learn, same]
      exact learned.seen.imp_right (List.mem_cons_of_mem rpm)
    · rw [Decoder.learn, same]
      exact Or.inr List.mem_cons_self
  · intro earlier seen
    rcases List.mem_cons.mp seen with rfl | seen
    · exact Binary32.le_max_right number rpmNumber
    · exact Binary32.le_trans (learned.highest earlier seen) (Binary32.le_max_left number rpmNumber)

/-- A decoder that has met NaN still holds a number. -/
theorem maxRpm_sane (finite : isFinite decoder.runningMaxRpm = true) :
    isFinite decoder.maxRpm = true ∧ lt zero decoder.maxRpm = true := by
  have above := Binary32.le_max_right (b := one) (isNan_of_isFinite finite) rfl
  refine ⟨?_, Binary32.lt_of_lt_of_le (by decide) above⟩
  rcases Binary32.max_cases decoder.runningMaxRpm one with same | same
  · rw [maxRpm, same]
    exact finite
  · rw [maxRpm, same]
    rfl

theorem Learned.greatest (learned : decoder.Learned rpms) : Greatest decoder.maxRpm rpms := by
  have number := isNan_of_isFinite learned.finite
  constructor
  · rcases Binary32.max_cases decoder.runningMaxRpm one with same | same
    · rcases learned.seen with fresh | seen
      · rw [maxRpm, fresh]
        exact List.mem_cons_self
      · rw [maxRpm, same]
        exact List.mem_cons_of_mem one seen
    · rw [maxRpm, same]
      exact List.mem_cons_self
  · intro rpm seen
    rcases List.mem_cons.mp seen with rfl | seen
    · exact Binary32.le_max_right number rfl
    · exact Binary32.le_trans (learned.highest rpm seen) (Binary32.le_max_left number rfl)

theorem learn_finite (finite : isFinite decoder.runningMaxRpm = true)
    (bounded : isNan rpm = false → isFinite rpm = true) :
    isFinite (decoder.learn rpm).runningMaxRpm = true := by
  cases number : isNan rpm with
  | true =>
      rw [learn, max_of_isNan_right (isNan_of_isFinite finite) number]
      exact finite
  | false =>
      rcases Binary32.max_cases decoder.runningMaxRpm rpm with same | same
      · rw [learn, same]
        exact finite
      · rw [learn, same]
        exact bounded number

end Decoder

theorem isFinite_of_gates {rpm : F32} (number : isNan rpm = false) (notNegative : lt rpm zero = false)
    (notAbsurd : lt rpmCeiling rpm = false) : isFinite rpm = true := by
  have ceilingFinite : isFinite rpmCeiling = true := isFinite_ofNat (by decide)
  exact isFinite_of_le (Binary32.le_of_not_lt number rfl notNegative)
    (Binary32.le_of_not_lt (isNan_of_isFinite ceilingFinite) number notAbsurd) rfl ceilingFinite

theorem not_lt_of_not_le {rpm : F32} (notLe : le rpm zero = false) : lt rpm zero = false := by
  by_contra less
  rw [Binary32.le_of_lt (Bool.not_eq_false _ ▸ less)] at notLe
  cases notLe

variable {pkt : Bytes} {id : Text} {sample : Telemetry} {decoder next : Decoder}

theorem Codemasters.parse_sane (accepted : Codemasters.parse pkt = some (id, sample)) :
    sample.Sane := by
  simp only [parse, bind, pure, Option.bind_eq_some_iff, Option.guard_eq_some', exists_and_left,
    exists_const, Bool.and_eq_true, Bool.not_eq_true', Bool.or_eq_false_iff] at accepted
  rcases accepted with ⟨-, speed, -, throttle, -, rpm, -, maxRpm, -, finite, gates, made⟩
  rcases finite with ⟨⟨⟨rpmFinite, maxRpmFinite⟩, throttleFinite⟩, speedFinite⟩
  rcases gates with ⟨⟨⟨notNegative, notZero⟩, -⟩, -⟩
  cases made
  exact {
    rpmFinite := rpmFinite
    rpmNonneg := Binary32.le_of_not_lt (isNan_of_isFinite rpmFinite) rfl notNegative
    maxRpmFinite := maxRpmFinite
    maxRpmPositive := Binary32.lt_of_not_le (isNan_of_isFinite maxRpmFinite) rfl notZero
    speedFinite := speedFinite
    throttle := isPedal_clamp (isNan_of_isFinite throttleFinite)
    brake := isPedal_zero
    clutch := isPedal_zero }

theorem F1.speed_finite (kmh : UInt16) : isFinite (mul (ofNat kmh.toNat) kmhToMs) = true := by
  have small : kmh.toNat < 2 ^ 16 := kmh.toNat_lt
  have less : kmh.toNat < 2 ^ 24 := small.trans (by decide)
  have factor : isFinite kmhToMs = true ∧ units (code kmhToMs) ≤ 2 ^ 149 := by decide
  have whole : units (code (ofNat kmh.toNat)) ≤ 2 ^ 165 := by
    rw [units_ofNat less]
    exact (Nat.mul_le_mul_right _ small.le).trans_eq (Nat.pow_add 2 16 149).symm
  have bound := code_mul_le (isFinite_ofNat less) factor.1 whole factor.2 (by decide)
  rw [isFinite, decide_eq_true_eq, infinity]
  omega

theorem F1.parse_sane (finite : isFinite decoder.runningMaxRpm = true)
    (accepted : F1.parse decoder pkt = some ((id, sample), next)) :
    sample.Sane ∧ isFinite sample.rpm = true ∧ next = decoder.learn sample.rpm ∧
      sample.maxRpm = next.maxRpm := by
  simp only [parse, bind, pure, Option.bind_eq_some_iff, Option.guard_eq_some', exists_and_left,
    exists_const, Bool.not_eq_true', Bool.or_eq_false_iff, Bool.not_eq_false'] at accepted
  rcases accepted with
    ⟨header, -, -, -, speed, -, throttle, -, rpm, -, ⟨⟨throttleFinite, notZero⟩, -⟩, made⟩
  cases made
  have small : rpm.toNat < 2 ^ 24 := rpm.toNat_lt.trans (by decide)
  have rpmFinite := isFinite_ofNat small
  have redline := Decoder.maxRpm_sane
    (Decoder.learn_finite finite fun _ => rpmFinite)
  refine ⟨?_, rpmFinite, rfl, rfl⟩
  exact {
    rpmFinite := rpmFinite
    rpmNonneg := le_zero_ofNat small
    maxRpmFinite := redline.1
    maxRpmPositive := redline.2
    speedFinite := speed_finite speed
    throttle := isPedal_clamp (isNan_of_isFinite throttleFinite)
    brake := isPedal_zero
    clutch := isPedal_zero }

theorem Pcars.parse_sane (accepted : Pcars.parse pkt = some (id, sample)) : sample.Sane := by
  simp only [parse, bind, pure, Option.bind_eq_some_iff, Option.guard_eq_some', exists_and_left,
    exists_const, Bool.not_eq_true', Bool.or_eq_false_iff, Bool.not_eq_false'] at accepted
  rcases accepted with
    ⟨-, _, -, -, throttle, -, speed, -, rpm, -, maxRpm, -, ⟨notZero, speedFinite⟩, made⟩
  cases made
  have rpmSmall : rpm.toNat < 2 ^ 24 := rpm.toNat_lt.trans (by decide)
  have maxRpmSmall : maxRpm.toNat < 2 ^ 24 := maxRpm.toNat_lt.trans (by decide)
  have maxRpmFinite := isFinite_ofNat maxRpmSmall
  have full : throttle.toNat ≤ 255 := Nat.le_of_lt_succ throttle.toNat_lt
  exact {
    rpmFinite := isFinite_ofNat rpmSmall
    rpmNonneg := le_zero_ofNat rpmSmall
    maxRpmFinite := maxRpmFinite
    maxRpmPositive := Binary32.lt_of_not_le (isNan_of_isFinite maxRpmFinite) rfl notZero
    speedFinite := speedFinite
    throttle := le_one_div_ofNat (by decide) (by decide) full
    brake := isPedal_zero
    clutch := isPedal_zero }

theorem Wrc.sane_iff : (∀ id sample, Wrc.parse pkt = some (id, sample) → sample.Sane) ↔
    ¬Wrc.Slips pkt := by
  constructor
  · rintro sane ⟨long, speed, throttle, nan, notNegative, notZero, notAbsurd, notAbsurdMax⟩
    have reads : ∀ off, off + 4 ≤ 16 → f32At pkt off = some (field pkt off) := by
      intro off inside
      exact f32At_of_le (inside.trans_eq long.symm)
    have accepted := sane idText {
      rpm := field pkt offRpm, maxRpm := field pkt offMaxRpm,
      throttle := clamp zero one (field pkt offThrottle), speed := field pkt offSpeed } (by
        simp [parse, long, reads offSpeed (by decide), reads offRpm (by decide),
          reads offMaxRpm (by decide), reads offThrottle (by decide), speed, throttle, notNegative,
          notZero, notAbsurd, notAbsurdMax, guard])
    rcases nan with nan | nan
    · exact absurd nan (by rw [isNan_of_isFinite accepted.rpmFinite]; decide)
    · exact absurd nan (by rw [isNan_of_isFinite accepted.maxRpmFinite]; decide)
  · intro clean id sample accepted
    simp only [parse, bind, pure, Option.bind_eq_some_iff, Option.guard_eq_some', exists_and_left,
      exists_const, Bool.and_eq_true, Bool.not_eq_true', Bool.or_eq_false_iff] at accepted
    rcases accepted with
      ⟨long, speed, readSpeed, rpm, readRpm, maxRpm, readMaxRpm, throttle, readThrottle,
        ⟨speedFinite, throttleFinite⟩, ⟨⟨⟨notNegative, notZero⟩, notAbsurd⟩, notAbsurdMax⟩, made⟩
    cases made
    rcases f32At_eq_some readSpeed with ⟨-, rfl⟩
    rcases f32At_eq_some readRpm with ⟨-, rfl⟩
    rcases f32At_eq_some readMaxRpm with ⟨-, rfl⟩
    rcases f32At_eq_some readThrottle with ⟨-, rfl⟩
    have numbers : isNan (field pkt offRpm) = false ∧ isNan (field pkt offMaxRpm) = false := by
      constructor
      · by_contra nan
        exact clean ⟨long, speedFinite, throttleFinite, Or.inl (Bool.not_eq_false _ ▸ nan),
          notNegative, notZero, notAbsurd, notAbsurdMax⟩
      · by_contra nan
        exact clean ⟨long, speedFinite, throttleFinite, Or.inr (Bool.not_eq_false _ ▸ nan),
          notNegative, notZero, notAbsurd, notAbsurdMax⟩
    exact {
      rpmFinite := isFinite_of_gates numbers.1 notNegative notAbsurd
      rpmNonneg := Binary32.le_of_not_lt numbers.1 rfl notNegative
      maxRpmFinite := isFinite_of_gates numbers.2 (not_lt_of_not_le notZero) notAbsurdMax
      maxRpmPositive := Binary32.lt_of_not_le numbers.2 rfl notZero
      speedFinite := speedFinite
      throttle := isPedal_clamp (isNan_of_isFinite throttleFinite)
      brake := isPedal_zero
      clutch := isPedal_zero }

namespace Beamng

/-- What an accepted datagram says, field by field. -/
theorem parse_eq_some_iff {out : (Text × Telemetry) × Decoder} :
    parse decoder pkt = some out ↔
      (pkt.length = lenNoId ∨ pkt.length = lenWithId) ∧ isFinite (field pkt offSpeed) = true ∧
        isFinite (field pkt offThrottle) = true ∧ le (field pkt offRpm) zero = false ∧
        lt rpmCeiling (field pkt offRpm) = false ∧
        ((idText, {
          rpm := field pkt offRpm, speed := field pkt offSpeed
          maxRpm := (decoder.learn (field pkt offRpm)).maxRpm
          throttle := clamp zero one (field pkt offThrottle)
          pitLimiter := field pkt offShowLights &&& dlPitspeed ≠ 0
          gear := (pkt[offGear]?).elim 0 gearOf
          brake := clamp zero one (field pkt offBrake)
          clutch := clamp zero one (field pkt offClutch)
          absActive := field pkt offShowLights &&& dlAbs ≠ 0
          tractionControl := field pkt offShowLights &&& dlTc ≠ 0 }),
          decoder.learn (field pkt offRpm)) = out := by
  by_cases long : pkt.length = lenNoId ∨ pkt.length = lenWithId
  · have reads : ∀ off, off + 4 ≤ 92 → f32At pkt off = some (field pkt off) := by
      intro off inside
      apply f32At_of_le (inside.trans _)
      rcases long with long | long
      · exact long.ge
      · exact (by decide : 92 ≤ lenWithId).trans long.ge
    have lamps : u32At pkt offShowLights = some (field pkt offShowLights) :=
      reads offShowLights (by decide)
    simp only [parse, long, reads offSpeed (by decide), reads offRpm (by decide),
      reads offThrottle (by decide), reads offBrake (by decide), reads offClutch (by decide), lamps,
      bind, pure, Option.bind_eq_some_iff, Option.guard_eq_some', exists_and_left, exists_const,
      Bool.not_eq_true', Bool.or_eq_false_iff, Bool.not_eq_false', Option.some.injEq,
      exists_eq_left', Option.getD_some, true_and, and_assoc]
  · simp [parse, guard, long]

theorem sane_iff (finite : isFinite decoder.runningMaxRpm = true) :
    (∀ id sample next, parse decoder pkt = some ((id, sample), next) → sample.Sane) ↔
      ¬Slips pkt := by
  constructor
  · rintro sane ⟨long, speed, throttle, notZero, notAbsurd, nan⟩
    have accepted := sane _ _ _
      (parse_eq_some_iff.mpr ⟨long, speed, throttle, notZero, notAbsurd, rfl⟩)
    rcases nan with nan | nan | nan
    · exact absurd nan (by rw [isNan_of_isFinite accepted.rpmFinite]; decide)
    · exact absurd nan (by rw [isPedal_clamp_iff.mp accepted.brake]; decide)
    · exact absurd nan (by rw [isPedal_clamp_iff.mp accepted.clutch]; decide)
  · intro clean id sample next accepted
    rcases parse_eq_some_iff.mp accepted with
      ⟨long, speed, throttle, notZero, notAbsurd, made⟩
    have numbers : isNan (field pkt offRpm) = false ∧ isNan (field pkt offBrake) = false ∧
        isNan (field pkt offClutch) = false := by
      refine ⟨?_, ?_, ?_⟩
      · by_contra nan
        exact clean ⟨long, speed, throttle, notZero, notAbsurd,
          Or.inl (Bool.not_eq_false _ ▸ nan)⟩
      · by_contra nan
        exact clean ⟨long, speed, throttle, notZero, notAbsurd,
          Or.inr (Or.inl (Bool.not_eq_false _ ▸ nan))⟩
      · by_contra nan
        exact clean ⟨long, speed, throttle, notZero, notAbsurd,
          Or.inr (Or.inr (Bool.not_eq_false _ ▸ nan))⟩
    have rpmFinite := isFinite_of_gates numbers.1 (not_lt_of_not_le notZero) notAbsurd
    have redline := Decoder.maxRpm_sane (Decoder.learn_finite finite fun _ => rpmFinite)
    cases made
    exact {
      rpmFinite := rpmFinite
      rpmNonneg := Binary32.le_of_lt (Binary32.lt_of_not_le numbers.1 rfl notZero)
      maxRpmFinite := redline.1
      maxRpmPositive := redline.2
      speedFinite := speed
      throttle := isPedal_clamp (isNan_of_isFinite throttle)
      brake := isPedal_clamp numbers.2.1
      clutch := isPedal_clamp numbers.2.2 }

end Beamng

namespace Relay

/-- What an accepted datagram says, field by field. -/
theorem parse_eq_some_iff {out : Text × Telemetry} :
    parse pkt = some out ↔
      packetLen ≤ pkt.length ∧ pkt.take 4 = magic ∧ pkt[4]? = some version ∧
        isFinite (field pkt 14) = true ∧ isFinite (field pkt 18) = true ∧
        isFinite (field pkt 22) = true ∧ le (field pkt 18) zero = false ∧
        ∃ gear flags, u16At pkt 26 = some gear ∧ pkt[5]? = some flags ∧
          (gameIdFromWire ((pkt.drop 6).take gameIdLen), RelayTelemetry.toTelemetry {
            gameId := gameIdFromWire ((pkt.drop 6).take gameIdLen)
            rpm := field pkt 14, maxRpm := field pkt 18, throttle := field pkt 22
            gear := gear.toInt16
            speed := appendedF32 pkt 32, brake := appendedF32 pkt 36
            airborne := flags &&& flagAirborne ≠ 0 }) = out := by
  by_cases long : packetLen ≤ pkt.length
  · have reads : ∀ off, off + 4 ≤ 28 → f32At pkt off = some (field pkt off) := by
      intro off inside
      exact f32At_of_le (inside.trans long)
    simp only [parse, decode, long, reads 14 (by decide), reads 18 (by decide),
      reads 22 (by decide), bind, pure, Option.bind_eq_some_iff, Option.guard_eq_some',
      Bool.and_eq_true, Bool.not_eq_true', Option.some.injEq, exists_and_left, exists_const,
      exists_eq_left', true_and, and_assoc]
    constructor
    · rintro ⟨shape, known, _, ⟨gear, readGear, rpm, maxRpm, throttle, flags, readFlags, rfl⟩,
        notZero, rfl⟩
      exact ⟨shape, known, rpm, maxRpm, throttle, notZero, gear, readGear, flags, readFlags, rfl⟩
    · rintro ⟨shape, known, rpm, maxRpm, throttle, notZero, gear, readGear, flags, readFlags, rfl⟩
      exact ⟨shape, known, _, ⟨gear, readGear, rpm, maxRpm, throttle, flags, readFlags, rfl⟩,
        notZero, rfl⟩
  · simp [parse, decode, guard, long]

theorem toTelemetry_sane {sample : RelayTelemetry} (rpm : isFinite sample.rpm = true)
    (maxRpm : isFinite sample.maxRpm = true) (throttle : isFinite sample.throttle = true)
    (notZero : le sample.maxRpm zero = false) (forwards : lt sample.rpm zero = false) :
    sample.toTelemetry.Sane where
  rpmFinite := rpm
  rpmNonneg := Binary32.le_of_not_lt (isNan_of_isFinite rpm) rfl forwards
  maxRpmFinite := maxRpm
  maxRpmPositive := Binary32.lt_of_not_le (isNan_of_isFinite maxRpm) rfl notZero
  speedFinite := by
    simp only [RelayTelemetry.toTelemetry]
    split
    · rename_i finite
      rcases Binary32.max_cases sample.speed zero with same | same
      · rw [same]
        exact finite
      · rw [same]
        rfl
    · rfl
  throttle := isPedal_clamp (isNan_of_isFinite throttle)
  brake := by
    simp only [RelayTelemetry.toTelemetry]
    split
    · rename_i finite
      exact isPedal_clamp (isNan_of_isFinite finite)
    · exact isPedal_zero
  clutch := isPedal_zero

theorem sane_iff : (∀ id sample, parse pkt = some (id, sample) → sample.Sane) ↔ ¬Slips pkt := by
  constructor
  · rintro sane ⟨long, shape, known, rpm, maxRpm, throttle, notZero, backwards⟩
    obtain ⟨gear, readGear⟩ : ∃ gear, u16At pkt 26 = some gear := by
      rw [u16At, slice_of_le long]
      exact ⟨_, rfl⟩
    have flags : 5 < pkt.length := (by decide : 5 < packetLen).trans_le long
    have accepted := sane _ _ (parse_eq_some_iff.mpr ⟨long, shape, known, rpm, maxRpm, throttle,
      notZero, gear, _, readGear, List.getElem?_eq_getElem flags, rfl⟩)
    have forwards := accepted.rpmNonneg
    rw [RelayTelemetry.toTelemetry, le_iff] at forwards
    rw [lt_iff] at backwards
    exact absurd backwards.2 (Int.not_lt.mpr forwards.2)
  · intro clean id sample accepted
    rcases parse_eq_some_iff.mp accepted with
      ⟨long, shape, known, rpm, maxRpm, throttle, notZero, gear, flags, -, -, made⟩
    cases made
    refine toTelemetry_sane ?_ ?_ ?_ ?_ ?_
    · exact rpm
    · exact maxRpm
    · exact throttle
    · exact notZero
    by_contra backwards
    exact clean ⟨long, shape, known, rpm, maxRpm, throttle, notZero,
      Bool.not_eq_false _ ▸ backwards⟩

end Relay

inductive Event where
  | packet (pkt : Bytes) (parser : Parser)
  | resetF1
  | resetBeamng
  deriving DecidableEq

/-- The decoders, with the engine speeds that each accepted since it was reset. -/
structure Trace where
  decoders : Decoders := {}
  f1Rpms : List F32 := []
  beamngRpms : List F32 := []

namespace Trace

def rpms (trace : Trace) : Parser → List F32
  | .f1 => trace.f1Rpms
  | .beamng => trace.beamngRpms
  | .codemasters | .wrc | .pcars | .relay => []

/-- `decoders` after a sample was accepted. -/
def accept (trace : Trace) (decoders : Decoders) (rpm : F32) : Parser → Trace
  | .f1 => { trace with decoders, f1Rpms := rpm :: trace.f1Rpms }
  | .beamng => { trace with decoders, beamngRpms := rpm :: trace.beamngRpms }
  | .codemasters | .wrc | .pcars | .relay => { trace with decoders }

def take (trace : Trace) : Event → Trace
  | .packet pkt parser =>
      match trace.decoders.parse pkt parser with
      | none => trace
      | some (sample, decoders) => trace.accept decoders sample.2.rpm parser
  | .resetF1 =>
      { trace with
        decoders := { trace.decoders with f1 := trace.decoders.f1.reset }, f1Rpms := [] }
  | .resetBeamng =>
      { trace with
        decoders := { trace.decoders with beamng := trace.decoders.beamng.reset },
        beamngRpms := [] }

/-- What is asked of a sample that the event leads to. -/
def SoundAt (trace : Trace) : Event → Prop
  | .packet pkt parser => ∀ sample decoders,
      trace.decoders.parse pkt parser = some (sample, decoders) → sample.2.Sane ∧
        (parser = .f1 ∨ parser = .beamng →
          Greatest sample.2.maxRpm (sample.2.rpm :: trace.rpms parser))
  | .resetF1 | .resetBeamng => True

def Sound : Trace → List Event → Prop
  | _, [] => True
  | trace, event :: events => trace.SoundAt event ∧ Sound (trace.take event) events

structure Learned (trace : Trace) : Prop where
  f1 : trace.decoders.f1.Learned trace.f1Rpms
  beamng : trace.decoders.beamng.Learned trace.beamngRpms

variable {trace : Trace} {parser : Parser} {event : Event}

theorem Learned.initial : Learned {} := ⟨.fresh {}, .fresh {}⟩

/-- A parser that keeps nothing is judged by its samples alone. -/
theorem soundAt_of_pure {parse : Bytes → Option (Text × Telemetry)}
    (pure : trace.decoders.parse pkt parser = (parse pkt).map (·, trace.decoders))
    (notF1 : parser ≠ .f1) (notBeamng : parser ≠ .beamng) :
    trace.SoundAt (.packet pkt parser) ↔
      ∀ id sample, parse pkt = some (id, sample) → sample.Sane := by
  simp only [SoundAt, pure, Option.map_eq_some_iff]
  constructor
  · intro sound id sample accepted
    exact (sound (id, sample) _ ⟨_, accepted, rfl⟩).1
  · rintro sane ⟨id, sample⟩ decoders ⟨_, accepted, made⟩
    cases made
    exact ⟨sane id sample accepted, by simp [notF1, notBeamng]⟩

theorem Learned.soundAt_f1 (learned : trace.Learned) : trace.SoundAt (.packet pkt .f1) := by
  rintro ⟨id, sample⟩ decoders parsed
  rw [Decoders.parse, Option.map_eq_some_iff] at parsed
  rcases parsed with ⟨⟨_, _⟩, accepted, made⟩
  cases made
  rcases F1.parse_sane learned.f1.finite accepted with ⟨sane, finite, rfl, maxRpm⟩
  refine ⟨sane, fun _ => ?_⟩
  rw [maxRpm]
  exact (learned.f1.learn finite).greatest

theorem Learned.soundAt_beamng (learned : trace.Learned) :
    trace.SoundAt (.packet pkt .beamng) ↔ ¬Beamng.Slips pkt := by
  rw [← Beamng.sane_iff learned.beamng.finite]
  constructor
  · intro sound id sample next accepted
    have parsed : trace.decoders.parse pkt .beamng =
        some ((id, sample), { trace.decoders with beamng := next }) := by
      rw [Decoders.parse, accepted]
      rfl
    exact (sound _ _ parsed).1
  · rintro sane ⟨id, sample⟩ decoders parsed
    rw [Decoders.parse, Option.map_eq_some_iff] at parsed
    rcases parsed with ⟨⟨_, next⟩, accepted, made⟩
    cases made
    have sound := sane id sample next accepted
    refine ⟨sound, fun _ => ?_⟩
    rcases Beamng.parse_eq_some_iff.mp accepted with ⟨-, -, -, -, -, parsed⟩
    cases parsed
    exact (learned.beamng.learn sound.rpmFinite).greatest

/-- A datagram is judged by its fields, whatever the decoders have learned. -/
theorem Learned.soundAt_packet (learned : trace.Learned) :
    trace.SoundAt (.packet pkt parser) ↔ ¬Slips pkt parser := by
  cases parser with
  | codemasters =>
      rw [soundAt_of_pure rfl (by decide) (by decide)]
      exact ⟨fun _ => id, fun _ _ _ accepted => Codemasters.parse_sane accepted⟩
  | f1 => exact ⟨fun _ => id, fun _ => learned.soundAt_f1⟩
  | wrc =>
      rw [soundAt_of_pure rfl (by decide) (by decide)]
      exact Wrc.sane_iff
  | pcars =>
      rw [soundAt_of_pure rfl (by decide) (by decide)]
      exact ⟨fun _ => id, fun _ _ _ accepted => Pcars.parse_sane accepted⟩
  | beamng => exact learned.soundAt_beamng
  | relay =>
      rw [soundAt_of_pure rfl (by decide) (by decide)]
      exact Relay.sane_iff

theorem Learned.take_packet (learned : trace.Learned)
    (sound : trace.SoundAt (.packet pkt parser)) :
    (trace.take (.packet pkt parser)).Learned := by
  rw [Trace.take]
  split
  · exact learned
  · rename_i sample decoders parsed
    have sane := (sound sample decoders parsed).1
    cases parser with
    | f1 =>
        rw [Decoders.parse, Option.map_eq_some_iff] at parsed
        rcases parsed with ⟨⟨⟨_, _⟩, next⟩, accepted, made⟩
        cases made
        rcases F1.parse_sane learned.f1.finite accepted with ⟨-, finite, rfl, -⟩
        exact ⟨learned.f1.learn finite, learned.beamng⟩
    | beamng =>
        rw [Decoders.parse, Option.map_eq_some_iff] at parsed
        rcases parsed with ⟨⟨⟨_, _⟩, next⟩, accepted, made⟩
        cases made
        rcases Beamng.parse_eq_some_iff.mp accepted with ⟨-, -, -, -, -, parsed⟩
        cases parsed
        exact ⟨learned.f1, learned.beamng.learn sane.rpmFinite⟩
    | codemasters | wrc | pcars | relay =>
        simp only [Decoders.parse, Option.map_eq_some_iff, Prod.mk.injEq] at parsed
        rcases parsed with ⟨_, -, -, rfl⟩
        exact learned

theorem Learned.take (learned : trace.Learned) (sound : trace.SoundAt event) :
    (trace.take event).Learned := by
  cases event with
  | packet pkt parser => exact learned.take_packet sound
  | resetF1 => exact ⟨.fresh trace.decoders.f1, learned.beamng⟩
  | resetBeamng => exact ⟨learned.f1, .fresh trace.decoders.beamng⟩

theorem Learned.sound_iff (learned : trace.Learned) (events : List Event) :
    trace.Sound events ↔ ∀ pkt parser, .packet pkt parser ∈ events → ¬Slips pkt parser := by
  induction events generalizing trace with
  | nil => simp [Sound]
  | cons event events ih =>
      have here : trace.SoundAt event ↔
          ∀ pkt parser, .packet pkt parser = event → ¬Slips pkt parser := by
        cases event with
        | packet pkt parser => simpa using learned.soundAt_packet
        | resetF1 => simp [SoundAt]
        | resetBeamng => simp [SoundAt]
      simp only [Sound, List.mem_cons]
      constructor
      · rintro ⟨sound, later⟩ pkt parser occurs
        rcases occurs with same | occurs
        · exact here.mp sound pkt parser same
        · exact (ih (learned.take sound)).mp later pkt parser occurs
      · intro clean
        have sound := here.mpr fun pkt parser same => clean pkt parser (Or.inl same)
        refine ⟨sound, (ih (learned.take sound)).mpr ?_⟩
        intro pkt parser occurs
        exact clean pkt parser (Or.inr occurs)

end Trace

theorem Codemasters.length_of_parse {sample : Text × Telemetry}
    (accepted : Codemasters.parse pkt = some sample) :
    baseLen ≤ pkt.length ∧ pkt.length ≤ maxLen := by
  simp only [parse, bind, Option.bind_eq_some_iff, Option.guard_eq_some', exists_const] at accepted
  exact ⟨accepted.1.1, accepted.1.2.1⟩

theorem F1.length_of_parse {out : (Text × Telemetry) × Decoder}
    (accepted : F1.parse decoder pkt = some out) : numCars * entryLen ≤ pkt.length := by
  simp only [parse, bind, Option.bind_eq_some_iff, Option.guard_eq_some', exists_const] at accepted
  rcases accepted with ⟨header, -, -, long, -⟩
  exact (Nat.le_add_left _ _).trans long

theorem Wrc.length_of_parse {sample : Text × Telemetry} (accepted : Wrc.parse pkt = some sample) :
    pkt.length = packetLen := by
  simp only [parse, bind, Option.bind_eq_some_iff, Option.guard_eq_some', exists_const] at accepted
  exact accepted.1

/-- The three parsers of the shared port tell their datagrams apart by length. -/
theorem one_parser_accepts (decoder : Decoder) (pkt : Bytes) :
    ¬((Codemasters.parse pkt).isSome ∧ (F1.parse decoder pkt).isSome) ∧
      ¬((Codemasters.parse pkt).isSome ∧ (Wrc.parse pkt).isSome) ∧
      ¬((F1.parse decoder pkt).isSome ∧ (Wrc.parse pkt).isSome) := by
  have apart : Codemasters.maxLen < F1.numCars * F1.entryLen ∧
      Wrc.packetLen < Codemasters.baseLen ∧ Wrc.packetLen < F1.numCars * F1.entryLen := by decide
  simp only [Option.isSome_iff_exists]
  refine ⟨?_, ?_, ?_⟩
  · rintro ⟨⟨_, codemasters⟩, ⟨_, f1⟩⟩
    have := Codemasters.length_of_parse codemasters
    have := F1.length_of_parse f1
    omega
  · rintro ⟨⟨_, codemasters⟩, ⟨_, wrc⟩⟩
    have := Codemasters.length_of_parse codemasters
    have := Wrc.length_of_parse wrc
    omega
  · rintro ⟨⟨_, f1⟩, ⟨_, wrc⟩⟩
    have := F1.length_of_parse f1
    have := Wrc.length_of_parse wrc
    omega

/-- Runs are sound exactly when nothing slips through, and the formats of the shared port are
never confused. -/
theorem samples_sane_iff (events : List Event) :
    (Trace.Sound {} events ↔
      ∀ pkt parser, .packet pkt parser ∈ events → ¬Slips pkt parser) ∧
    ∀ decoder pkt, ¬((Codemasters.parse pkt).isSome ∧ (F1.parse decoder pkt).isSome) ∧
      ¬((Codemasters.parse pkt).isSome ∧ (Wrc.parse pkt).isSome) ∧
      ¬((F1.parse decoder pkt).isSome ∧ (Wrc.parse pkt).isSome) :=
  ⟨Trace.Learned.initial.sound_iff events, one_parser_accepts⟩

/-- A rally stage whose engine speed is not a number. -/
def nanStage : Bytes := le32 zero ++ le32 nan ++ le32 (ofNat 7500) ++ le32 zero

theorem nanStage_accepted : ¬Trace.Sound {} [.packet nanStage .wrc] := by
  rintro ⟨sound, -⟩
  have accepted : Decoders.parse {} nanStage .wrc =
      some ((Wrc.idText, {
        rpm := nan, maxRpm := ofNat 7500, throttle := zero, speed := zero }), {}) := by
    decide
  have finite := (sound _ _ accepted).1.rpmFinite
  cases finite

end TrueForce.Udp
