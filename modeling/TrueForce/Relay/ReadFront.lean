import TrueForce.Relay.Games
import Mathlib.Data.List.Find
import Mathlib.Data.Option.Basic

/-!
# Decoding the front of a section

The decoders at fixed offsets read nothing behind the size of their format, so that
a copy of that much of a section is decoded as the section is.
-/

namespace TrueForce.Relay

open RFactor2 (Bytes Rounding slice u32At i32At f64At)
open AssettoCorsa (AirborneGate)

variable {buf : Bytes} {limit off size : ℕ}

theorem readSection_eq (content : Bytes) (limit : ℕ) :
    readSection content limit = content.take limit := by
  rw [readSection, List.take_eq_take_iff]
  omega

theorem le_length_take (short : size ≤ limit) :
    size ≤ (buf.take limit).length ↔ size ≤ buf.length := by
  rw [List.length_take]
  omega

theorem slice_take (inside : off + size ≤ limit) :
    slice (buf.take limit) off size = slice buf off size := by
  simp only [slice, le_length_take inside]
  split
  · rw [List.drop_take, List.take_take, Nat.min_eq_left (by omega)]
  · rfl

theorem u32At_take (inside : off + 4 ≤ limit) : u32At (buf.take limit) off = u32At buf off := by
  rw [u32At, u32At, slice_take inside]

theorem i32At_take (inside : off + 4 ≤ limit) : i32At (buf.take limit) off = i32At buf off := by
  rw [i32At, i32At, slice_take inside]

theorem f64At_take (inside : off + 8 ≤ limit) : f64At (buf.take limit) off = f64At buf off := by
  rw [f64At, f64At, slice_take inside]

theorem RaceRoom.decode_take (fits : RaceRoom.minLen ≤ limit) :
    RaceRoom.decode (buf.take limit) = RaceRoom.decode buf := by
  have wide : 1504 ≤ limit := fits
  simp only [RaceRoom.decode, le_length_take fits, RaceRoom.f32At, RaceRoom.offVersionMajor,
    RaceRoom.offCarSpeed, RaceRoom.offEngineRps, RaceRoom.offMaxEngineRps, RaceRoom.offGear,
    RaceRoom.offThrottle]
  simp (disch := omega) only [u32At_take, i32At_take]

namespace AssettoCorsa

theorem staticLayoutLooksRight_take (fits : minStaticLen ≤ limit) :
    staticLayoutLooksRight (buf.take limit) = staticLayoutLooksRight buf := by
  have wide : 416 ≤ limit := fits
  rw [staticLayoutLooksRight, staticLayoutLooksRight, slice_take (by omega)]

theorem headInputs_take (fits : minPhysicsLen ≤ limit) :
    headInputs (buf.take limit) = headInputs buf := by
  have wide : 24 ≤ limit := fits
  simp only [headInputs, f32At, offGas, offGear]
  simp (disch := omega) only [u32At_take, i32At_take]

theorem headScreenFields_take (fits : minPhysicsAirborneLen ≤ limit) :
    headScreenFields (buf.take limit) = headScreenFields buf := by
  have wide : 88 ≤ limit := fits
  simp only [headScreenFields, f32At, offSpeedKmh, offBrake]
  simp (disch := omega) only [u32At_take]

theorem loadedWheels_take (fits : minPhysicsAirborneLen ≤ limit) :
    loadedWheels (buf.take limit) = loadedWheels buf := by
  have wide : 88 ≤ limit := fits
  simp only [loadedWheels, f32At, offWheelLoad]
  simp only [List.range_succ, List.range_zero, List.nil_append, List.cons_append, List.foldlM_cons,
    List.foldlM_nil]
  simp (disch := omega) only [u32At_take]

theorem airborneWith_take (gate : AirborneGate) (fits : minPhysicsAirborneLen ≤ limit) :
    airborneWith gate (buf.take limit) = airborneWith gate buf := by
  have short : (buf.take limit).length < minPhysicsAirborneLen ↔
      buf.length < minPhysicsAirborneLen := by
    rw [← Nat.not_le, ← Nat.not_le, le_length_take fits]
  simp only [airborneWith, short, loadedWheels_take fits]

theorem decode_take (fits : minPhysicsAirborneLen ≤ limit) {statics : Bytes} {staticLimit : ℕ}
    (staticFits : minStaticLen ≤ staticLimit) (gameId : String) (gate : AirborneGate) :
    decode (buf.take limit) (statics.take staticLimit) gameId gate =
      decode buf statics gameId gate := by
  have wide : 88 ≤ limit := fits
  have staticWide : 416 ≤ staticLimit := staticFits
  have head : minPhysicsLen ≤ limit := by
    simp only [minPhysicsLen, offRpms]
    omega
  have ground : decodeOnGround (buf.take limit) (statics.take staticLimit) gameId =
      decodeOnGround buf statics gameId := by
    simp only [decodeOnGround, le_length_take head, le_length_take staticFits,
      staticLayoutLooksRight_take staticFits, headInputs_take head, headScreenFields_take fits,
      offMaxRpm, offRpms]
    simp (disch := omega) only [i32At_take]
  simp only [decode, ground, airborneWith_take _ fits]

theorem decodeEvo_take (fits : minPhysicsEvoLen ≤ limit) :
    decodeEvo (buf.take limit) = decodeEvo buf := by
  have wide : 592 ≤ limit := fits
  have head : minPhysicsLen ≤ limit := by
    simp only [minPhysicsLen, offRpms]
    omega
  have airborne : minPhysicsAirborneLen ≤ limit := by
    simp only [minPhysicsAirborneLen, offWheelLoad]
    omega
  simp only [decodeEvo, le_length_take fits, headInputs_take head, headScreenFields_take airborne,
    offRpms, offCurrentMaxRpm]
  simp (disch := omega) only [i32At_take]

end AssettoCorsa

namespace RFactor2

theorem readWasClean_take (fits : 8 ≤ limit) :
    readWasClean (buf.take limit) = readWasClean buf := by
  rw [readWasClean, readWasClean, u32At_take (by omega), u32At_take (by omega)]

theorem vehicleCount_take (fits : off + 4 ≤ limit) :
    vehicleCount (buf.take limit) off = vehicleCount buf off := by
  rw [vehicleCount, vehicleCount, i32At_take fits]

theorem lt_of_mem_range_vehicleCount {i : ℕ} (member : i ∈ List.range (vehicleCount buf off)) :
    i < 128 := by
  have few : i < min ((i32At buf off).getD 0).toNat 128 := List.mem_range.mp member
  omega

theorem playerSlotId_take {scoring : Bytes} (fits : scoringLen ≤ limit) :
    playerSlotId (scoring.take limit) = playerSlotId scoring := by
  have wide : 75312 ≤ limit := fits
  rw [playerSlotId, playerSlotId, vehicleCount_take (by simp only [scoNumVehicles]; omega),
    ← List.head?_filterMap, ← List.head?_filterMap]
  congr 1
  apply List.filterMap_congr
  intro i member
  have few := lt_of_mem_range_vehicleCount member
  have flag : scoVehicles + i * scoStride + scoIsPlayer < limit := by
    simp only [scoVehicles, scoStride, scoIsPlayer]
    omega
  have slot : scoVehicles + i * scoStride + scoId + 4 ≤ limit := by
    simp only [scoVehicles, scoStride, scoId]
    omega
  simp only [List.getElem?_take_of_lt flag, i32At_take slot]

theorem speedAt_take (unit : Rounding) {base : ℕ} (row : base + telStride ≤ limit) :
    speedAt unit (buf.take limit) base = speedAt unit buf base := by
  have wide : base + 1888 ≤ limit := row
  rw [speedAt, speedAt]
  congr 3
  apply List.map_congr_left
  intro i member
  have few := List.mem_range.mp member
  rw [f64At_take]
  simp only [vehLocalVel]
  omega

theorem decode_take (unit : Rounding) {telemetry scoring : Bytes} {scoringLimit : ℕ}
    (fits : telemetryLen ≤ limit) (scoringFits : scoringLen ≤ scoringLimit) (gameId : String) :
    decode unit (telemetry.take limit) (scoring.take scoringLimit) gameId =
      decode unit telemetry scoring gameId := by
  have wide : 241680 ≤ limit := fits
  have scoringWide : 75312 ≤ scoringLimit := scoringFits
  have rows : ∀ base ∈ (List.range (vehicleCount telemetry telNumVehicles)).map
      (fun i => telVehicles + i * telStride), base + 1888 ≤ limit := by
    intro base member
    obtain ⟨i, inRange, rfl⟩ := List.mem_map.mp member
    have few := lt_of_mem_range_vehicleCount inRange
    simp only [telVehicles, telStride]
    omega
  have ids (playerId : ℤ) : ∀ base ∈ (List.range (vehicleCount telemetry telNumVehicles)).map
      (fun i => telVehicles + i * telStride),
      decide (i32At (telemetry.take limit) (base + vehId) = some playerId) =
        decide (i32At telemetry (base + vehId) = some playerId) := by
    intro base member
    have row := rows base member
    rw [i32At_take (by simp only [vehId]; omega)]
  simp only [decode, readWasClean_take (by omega : 8 ≤ limit),
    readWasClean_take (by omega : 8 ≤ scoringLimit), playerSlotId_take scoringFits,
    vehicleCount_take (by simp only [telNumVehicles]; omega : telNumVehicles + 4 ≤ limit),
    List.find?_congr (ids _)]
  refine bind_congr fun _ => bind_congr fun playerId => ?_
  cases found : ((List.range (vehicleCount telemetry telNumVehicles)).map
      fun i => telVehicles + i * telStride).find?
      fun base => i32At telemetry (base + vehId) = some playerId with
  | none => rfl
  | some base =>
      have row := rows base (List.mem_of_find?_eq_some found)
      simp only [Option.bind_eq_bind, Option.bind_some, speedAt_take unit row, vehEngineRpm,
        vehEngineMaxRpm, vehThrottle, vehBrake, vehGear]
      simp (disch := omega) only [f64At_take, i32At_take]

end RFactor2

section Dispatch

variable (unit : Rounding) (gate : AirborneGate) (content : Bytes) (aux : Option Bytes)
  {game : String} {auxLimit : ℕ}

theorem sampleFrom_take_assettoCorsa (either : game = AssettoCorsa.id ∨ game = AssettoCorsa.idAcc)
    (fits : AssettoCorsa.minPhysicsAirborneLen ≤ limit)
    (auxFits : AssettoCorsa.minStaticLen ≤ auxLimit) :
    sampleFrom unit game gate (content.take limit) (aux.map fun bytes => bytes.take auxLimit) =
      sampleFrom unit game gate content aux := by
  rw [sampleFrom_assettoCorsa _ _ _ _ either, sampleFrom_assettoCorsa _ _ _ _ either]
  cases aux with
  | none => rfl
  | some statics => exact AssettoCorsa.decode_take fits auxFits game gate

theorem sampleFrom_take_rFactor2 (either : game = RFactor2.idRf2 ∨ game = RFactor2.idLmu)
    (fits : RFactor2.telemetryLen ≤ limit) (auxFits : RFactor2.scoringLen ≤ auxLimit) :
    sampleFrom unit game gate (content.take limit) (aux.map fun bytes => bytes.take auxLimit) =
      sampleFrom unit game gate content aux := by
  rw [sampleFrom_rFactor2 _ _ _ _ either, sampleFrom_rFactor2 _ _ _ _ either]
  cases aux with
  | none => rfl
  | some scoring =>
      simp only [Option.map_some, Option.bind_some, RFactor2.decode_take unit fits auxFits game]

end Dispatch

end TrueForce.Relay
