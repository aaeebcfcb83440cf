import TrueForce.Udp.RelayWire
import Mathlib.Data.Option.Basic

/-!
# The relay's codec

What the relay executable encodes, the daemon decodes; and a packet means the same to a
decoder that knows fewer of its fields, whichever end of it is missing.
-/

namespace TrueForce.Udp.Relay

open Binary32 ByteBuffer RustText

def packetLenFull : ℕ := 40

def encode (sample : RelayTelemetry) : Bytes :=
  let buf := List.replicate packetLenFull 0
  let buf := write buf 0 magic
  let buf := write buf 4 [version]
  let buf := write buf 5 [if sample.airborne then flagAirborne else 0]
  let buf := write buf 6 ((utf8 sample.gameId).take gameIdLen)
  let buf := write buf 14 (le32 sample.rpm)
  let buf := write buf 18 (le32 sample.maxRpm)
  let buf := write buf 22 (le32 sample.throttle)
  let buf := write buf 26 (le16 sample.gear.toUInt16)
  let buf := write buf 32 (le32 sample.speed)
  write buf 36 (le32 sample.brake)

/-- The field of an id. -/
def padded (id : Text) : Bytes := utf8 id ++ List.replicate (gameIdLen - (utf8 id).length) 0

/-- The packet with the bytes of its id field. -/
def packet (id : Bytes) (sample : RelayTelemetry) : Bytes :=
  magic ++ [version, if sample.airborne then flagAirborne else 0] ++ id ++ le32 sample.rpm ++
    le32 sample.maxRpm ++ le32 sample.throttle ++ le16 sample.gear.toUInt16 ++ le32 0 ++
    le32 sample.speed ++ le32 sample.brake

variable {sample : RelayTelemetry} {pkt : Bytes} {off size count : ℕ}

theorem length_utf8_gameIds : ∀ id ∈ gameIds, (utf8 id).length ≤ gameIdLen := by decide

theorem gameIdFromWire_padded : ∀ id ∈ gameIds, gameIdFromWire (padded id) = id := by decide

theorem length_padded (known : sample.gameId ∈ gameIds) :
    (padded sample.gameId).length = gameIdLen := by
  have fits := length_utf8_gameIds _ known
  rw [padded, List.length_append, List.length_replicate]
  omega

theorem exists_of_length_eight {bytes : Bytes} (eight : bytes.length = 8) :
    ∃ a b c d e f g h, bytes = [a, b, c, d, e, f, g, h] := by
  have front : (bytes.take 4).length = 4 := by
    rw [List.length_take]
    omega
  have back : (bytes.drop 4).length = 4 := by
    rw [List.length_drop]
    omega
  rcases List.length_eq_four.mp front with ⟨a, b, c, d, first⟩
  rcases List.length_eq_four.mp back with ⟨e, f, g, h, second⟩
  refine ⟨a, b, c, d, e, f, g, h, ?_⟩
  rw [← List.take_append_drop 4 bytes, first, second]
  rfl

/-- A write right behind what is written already. -/
theorem write_zeros {front data : Bytes} {room : ℕ} (here : front.length = off) :
    write (front ++ List.replicate room 0) off data =
      front ++ data ++ List.replicate (room - data.length) 0 := by
  rw [write, List.take_left' here, ← List.drop_drop, List.drop_left' here, List.drop_replicate]

theorem encode_eq (known : sample.gameId ∈ gameIds) :
    encode sample = packet (padded sample.gameId) sample := by
  have short := length_utf8_gameIds _ known
  have eight := length_padded known
  rw [gameIdLen] at eight
  generalize flags : (if sample.airborne then flagAirborne else 0) = flag
  have four : magic.length = 4 := rfl
  have six : (magic ++ [version, flag]).length = 6 := rfl
  have head : write (write (write (List.replicate packetLenFull 0) 0 magic) 4 [version]) 5 [flag] =
      magic ++ [version, flag] ++ List.replicate 34 0 := rfl
  have name : write (magic ++ [version, flag] ++ List.replicate 34 0) 6
      ((utf8 sample.gameId).take gameIdLen) =
        magic ++ [version, flag] ++ padded sample.gameId ++ List.replicate 26 0 := by
    have room : 34 - (utf8 sample.gameId).length = gameIdLen - (utf8 sample.gameId).length + 26 := by
      rw [gameIdLen] at short ⊢
      omega
    rw [List.take_of_length_le short, write_zeros six, room,
      List.replicate_add, padded]
    simp only [List.append_assoc]
  have gap (front : Bytes) :
      front ++ List.replicate 12 0 = front ++ le32 0 ++ List.replicate 8 0 := by
    rw [List.append_assoc]
    rfl
  simp only [encode, packet, flags]
  rw [head, name, write_zeros (by simp [four, eight]), write_zeros (by simp [four, eight]),
    write_zeros (by simp [four, eight]), write_zeros (by simp [four, eight])]
  simp only [length_le32, length_le16, Nat.reduceSub]
  rw [gap, write_zeros (by simp [four, eight]), write_zeros (by simp [four, eight])]
  simp

/-- A field that is only read when it holds a number. -/
def heard (bits : F32) : F32 := if isFinite bits then bits else zero

theorem heard_of_isFinite {bits : F32} (finite : isFinite bits = true) : heard bits = bits :=
  if_pos finite

/-- A packet is taken when the first three numbers are finite. -/
theorem decode_packet_eq {id : Bytes} (whole : id.length = gameIdLen) :
    decode (packet id sample) =
      if (isFinite sample.rpm && isFinite sample.maxRpm && isFinite sample.throttle) = true then
        some { sample with
          gameId := gameIdFromWire id
          speed := heard sample.speed
          brake := heard sample.brake }
      else none := by
  have float (value : F32) : UInt32.ofNat (littleEndian (le32 value)) = value := by
    rw [littleEndian_le32, UInt32.ofNat_toNat]
  have gear : (UInt16.ofNat (littleEndian (le16 sample.gear.toUInt16))).toInt16 = sample.gear := by
    rw [littleEndian_le16, UInt16.ofNat_toNat]
    rfl
  rcases exists_of_length_eight whole with ⟨a, b, c, d, e, f, g, h, rfl⟩
  generalize bytes : packet [a, b, c, d, e, f, g, h] sample = pkt
  have long : pkt.length = 40 := by
    rw [← bytes]
    rfl
  have rpmField : field pkt 14 = sample.rpm := by
    rw [← bytes]
    exact float _
  have maxRpmField : field pkt 18 = sample.maxRpm := by
    rw [← bytes]
    exact float _
  have throttleField : field pkt 22 = sample.throttle := by
    rw [← bytes]
    exact float _
  have speedField : field pkt 32 = sample.speed := by
    rw [← bytes]
    exact float _
  have brakeField : field pkt 36 = sample.brake := by
    rw [← bytes]
    exact float _
  have gearField : u16At pkt 26 = some (UInt16.ofNat (littleEndian (le16 sample.gear.toUInt16))) := by
    rw [u16At, slice_of_le (by omega), ← bytes]
    rfl
  have start : pkt.take 4 = magic ∧ pkt[4]? = some version := by
    rw [← bytes]
    exact ⟨rfl, rfl⟩
  have flags : pkt[5]? = some (if sample.airborne then flagAirborne else 0) := by
    rw [← bytes]
    rfl
  have name : (pkt.drop 6).take gameIdLen = [a, b, c, d, e, f, g, h] := by
    rw [← bytes]
    rfl
  have airborne : decide ((if sample.airborne then flagAirborne else 0) &&& flagAirborne ≠ 0) =
      sample.airborne := by
    cases sample.airborne <;> rfl
  have head : packetLen ≤ pkt.length := by
    rw [long]
    decide
  have read {off : ℕ} (within : off + 4 ≤ 40) : f32At pkt off = some (field pkt off) :=
    f32At_of_le (by omega)
  have appended {off : ℕ} (within : off + 4 ≤ 40) :
      appendedF32 pkt off = heard (field pkt off) := by
    rw [appendedF32, read within, Option.filter_some, heard]
    split <;> rfl
  have speedRead := appended (by decide : 32 + 4 ≤ 40)
  have brakeRead := appended (by decide : 36 + 4 ≤ 40)
  have rpmRead := read (by decide : 14 + 4 ≤ 40)
  have maxRpmRead := read (by decide : 18 + 4 ≤ 40)
  have throttleRead := read (by decide : 22 + 4 ≤ 40)
  rw [decode]
  simp only [guard, head, start, if_true, and_self, name, rpmRead, maxRpmRead, throttleRead,
    speedRead, brakeRead, gearField, flags, rpmField, maxRpmField, throttleField, speedField,
    brakeField, Option.bind_eq_bind, Option.bind_some, Option.pure_def, gear, airborne]
  split <;> rfl

theorem decode_packet {id : Bytes} (whole : id.length = gameIdLen)
    (rpm : isFinite sample.rpm = true) (maxRpm : isFinite sample.maxRpm = true)
    (throttle : isFinite sample.throttle = true) (speed : isFinite sample.speed = true)
    (brake : isFinite sample.brake = true) :
    decode (packet id sample) = some { sample with gameId := gameIdFromWire id } := by
  rw [decode_packet_eq whole, rpm, maxRpm, throttle, heard_of_isFinite speed,
    heard_of_isFinite brake]
  rfl

/-- What the daemon makes of what a sender encodes. -/
theorem decode_encode_eq (known : sample.gameId ∈ gameIds) :
    decode (encode sample) =
      if (isFinite sample.rpm && isFinite sample.maxRpm && isFinite sample.throttle) = true then
        some { sample with speed := heard sample.speed, brake := heard sample.brake }
      else none := by
  rw [encode_eq known, decode_packet_eq (length_padded known), gameIdFromWire_padded _ known]

/-- What is left of a sample when the packet ends early. -/
def RelayTelemetry.cut (sample : RelayTelemetry) (count : ℕ) : RelayTelemetry :=
  { sample with
    speed := if 36 ≤ count then sample.speed else zero
    brake := if 40 ≤ count then sample.brake else zero }

theorem slice_take :
    slice (pkt.take count) off size = if off + size ≤ count then slice pkt off size else none := by
  simp only [slice, List.length_take, List.drop_take, List.take_take]
  by_cases within : off + size ≤ count
  · have same : min size (count - off) = size := by omega
    simp only [within, if_true, same, le_inf_iff, true_and]
  · simp only [within, if_false, le_inf_iff, false_and]

theorem f32At_take (within : off + 4 ≤ count) : f32At (pkt.take count) off = f32At pkt off := by
  rw [f32At, u32At, slice_take, if_pos within]
  rfl

theorem u16At_take (within : off + 2 ≤ count) : u16At (pkt.take count) off = u16At pkt off := by
  rw [u16At, slice_take, if_pos within]
  rfl

theorem appendedF32_take :
    appendedF32 (pkt.take count) off = if off + 4 ≤ count then appendedF32 pkt off else zero := by
  split
  · rename_i within
    rw [appendedF32, f32At_take within]
    rfl
  · rename_i beyond
    rw [appendedF32, f32At, u32At, slice_take, if_neg beyond]
    rfl

/-- A packet cut short behind its head loses the fields that no longer fit, and nothing else. -/
theorem decode_take (head : packetLen ≤ count) :
    decode (pkt.take count) = (decode pkt).map (·.cut count) := by
  have longer : packetLen ≤ (pkt.take count).length ↔ packetLen ≤ pkt.length := by
    rw [List.length_take]
    omega
  rw [packetLen] at head
  have start : (pkt.take count).take 4 = pkt.take 4 := by
    rw [List.take_take, Nat.min_eq_left (by omega)]
  have name : ((pkt.take count).drop 6).take gameIdLen = (pkt.drop 6).take gameIdLen := by
    rw [List.drop_take, List.take_take, gameIdLen, Nat.min_eq_left (by omega)]
  have byte {index : ℕ} (within : index < 28) : (pkt.take count)[index]? = pkt[index]? :=
    List.getElem?_take_of_lt (by omega)
  rw [decode, decode]
  simp only [longer, start, name, byte (by decide : 4 < 28), byte (by decide : 5 < 28),
    f32At_take (by omega : 14 + 4 ≤ count), f32At_take (by omega : 18 + 4 ≤ count),
    f32At_take (by omega : 22 + 4 ≤ count), u16At_take (by omega : 26 + 2 ≤ count),
    appendedF32_take, Option.bind_eq_bind, Option.map_bind, Function.comp_def, Option.pure_def,
    Option.map_some, RelayTelemetry.cut]

/-- The fields of the head agree, and so do the appended ones that a packet has. -/
structure Agrees (pkt : Bytes) (sample other : RelayTelemetry) : Prop where
  gameId : other.gameId = sample.gameId
  rpm : other.rpm = sample.rpm
  maxRpm : other.maxRpm = sample.maxRpm
  throttle : other.throttle = sample.throttle
  gear : other.gear = sample.gear
  airborne : other.airborne = sample.airborne
  speed : 36 ≤ pkt.length → other.speed = sample.speed
  brake : 40 ≤ pkt.length → other.brake = sample.brake

theorem head_of_decode (accepted : decode pkt = some sample) : packetLen ≤ pkt.length := by
  by_contra short
  simp only [decode, guard, short, if_false, Option.bind_eq_bind] at accepted
  cases accepted

/-- Every sample with a known id and finite numbers survives the wire; bytes behind a packet change
none of its fields; and a packet cut short behind its head loses only the fields that it no longer
has, which are zero. -/
theorem relay_codec_law :
    (∀ sample : RelayTelemetry, sample.gameId ∈ gameIds → isFinite sample.rpm = true →
      isFinite sample.maxRpm = true → isFinite sample.throttle = true →
      isFinite sample.speed = true → isFinite sample.brake = true →
        decode (encode sample) = some sample) ∧
    (∀ pkt more sample, decode pkt = some sample →
      ∃ other, decode (pkt ++ more) = some other ∧ Agrees pkt sample other) ∧
    ∀ pkt count sample, decode pkt = some sample → 28 ≤ count → count ≤ pkt.length →
      decode (pkt.take count) = some { sample with
        speed := if 36 ≤ count then sample.speed else zero
        brake := if 40 ≤ count then sample.brake else zero } := by
  refine ⟨?_, ?_, ?_⟩
  · intro sample known rpm maxRpm throttle speed brake
    rw [encode_eq known, decode_packet (length_padded known) rpm maxRpm throttle speed brake,
      gameIdFromWire_padded _ known]
  · intro pkt more sample accepted
    have front := @decode_take (pkt ++ more) pkt.length (head_of_decode accepted)
    rw [List.take_left' rfl, accepted, eq_comm, Option.map_eq_some_iff] at front
    rcases front with ⟨other, decoded, rfl⟩
    refine ⟨other, decoded, rfl, rfl, rfl, rfl, rfl, rfl, ?_, ?_⟩
    · intro whole
      exact (if_pos whole).symm
    · intro whole
      exact (if_pos whole).symm
  · intro pkt count sample accepted head _
    rw [decode_take head, accepted]
    rfl

end TrueForce.Udp.Relay
