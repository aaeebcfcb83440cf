import TrueForce.Udp.Telemetry
import Mathlib.Algebra.Group.Int.Defs
import Mathlib.Data.Option.Basic

/-!
# Captured TrueForce on the wire

The proxy library cuts the samples a game hands over into datagrams, and the
daemon joins what it accepts of them again.  The two sides are written in two
languages and share nothing but the layout.
-/

namespace TrueForce.Udp.Captured

open Binary32 ByteBuffer

def tfMaxSamples : ℕ := 256

def tfVersion : UInt8 := 1

/-- `TF_MAGIC0` to `TF_MAGIC3` -/
def tfMagic : Bytes := [0x4C, 0x54, 0x46, 0x54]

/-- What one `sendto` is given for the first `n` samples. -/
def tfDatagram (samples : List F32) (n : ℕ) : Bytes :=
  tfMagic ++ [tfVersion, 0] ++ [UInt8.ofNat (n % 256), UInt8.ofNat (n / 256 % 256)] ++
    (samples.take n).flatMap le32

/-- The datagrams of the loop of `tf_send`. -/
def tfSendLoop (samples : List F32) (count : ℕ) : List Bytes :=
  if count = 0 then []
  else
    let n := min count tfMaxSamples
    tfDatagram samples n :: tfSendLoop (samples.drop n) (count - n)
termination_by count
decreasing_by
  simp only [tfMaxSamples]
  omega

/-- `tf_send`; no samples stand for a null pointer. -/
def tfSend (socketOpen : Bool) (samples : Option (List F32)) (count : ℤ) : List Bytes :=
  match samples with
  | some samples => if socketOpen ∧ 0 < count then tfSendLoop samples count.toNat else []
  | none => []

/-- `LOGI_ERR_BAD_PARAM`, as the `int` it is returned as. -/
def logiErrBadParam : ℤ := 0x80000001 - 2 ^ 32

/-- The datagrams sent, and what the game is told. -/
def logiTrueForceSetTorqueTFfloat (real : Option (ℤ → Option (List F32) → ℤ → ℤ))
    (socketOpen : Bool) (index : ℤ) (v : Option (List F32)) (count : ℤ) : List Bytes × ℤ :=
  (if v.isSome ∧ 0 < count then tfSend socketOpen v count else [],
    match real with
    | some call => call index v count
    | none => logiErrBadParam)

/-- `LTFT` -/
def magic : Bytes := [0x4C, 0x54, 0x46, 0x54]

def version : UInt8 := 1

def headerLen : ℕ := 8

def maxSamples : ℕ := 256

def negOne : F32 := 0xBF800000

def encode (samples : List F32) : Option Bytes :=
  if samples = [] ∨ maxSamples < samples.length then none
  else
    some (magic ++ [version] ++ [0] ++ le16 (UInt16.ofNat samples.length) ++ samples.flatMap le32)

def decode (pkt : Bytes) : Option (List F32) := do
  guard (headerLen ≤ pkt.length ∧ pkt.take 4 = magic ∧ pkt[4]? = some version)
  let count := (← u16At pkt 6).toNat
  guard (¬(count = 0 ∨ maxSamples < count ∨ pkt.length ≠ headerLen + count * 4))
  (List.range count).mapM fun i => do
    let v ← f32At pkt (headerLen + i * 4)
    guard (isFinite v)
    return clamp negOne one v

/-- The length of the daemon's receive buffer. -/
def bufLen : ℕ := 2048

/-- Takes the datagrams that wait in the socket, each cut to the buffer. -/
def drainCapturedTf : List Bytes → List F32
  | [] => []
  | datagram :: waiting =>
      let received := datagram.take bufLen
      let samples := (decode received).getD []
      if received.length = 0 then samples else samples ++ drainCapturedTf waiting

def frame (flags : UInt8) (samples : List F32) : Bytes :=
  magic ++ [version, flags] ++ le16 (UInt16.ofNat samples.length) ++ samples.flatMap le32

/-- What a datagram with these samples comes to. -/
def received (samples : List F32) : Option (List F32) :=
  if samples.all isFinite then some (samples.map (clamp negOne one)) else none

/-- The samples of a datagram with `count` of them. -/
def samplesOf (pkt : Bytes) (count : ℕ) : List F32 :=
  (List.range count).map fun i => field pkt (headerLen + i * 4)

/-- Finite, and within what the wheel takes. -/
def Tame (samples : List F32) : Prop :=
  ∀ sample ∈ samples, isFinite sample = true ∧ le negOne sample = true ∧ le sample one = true

instance (samples : List F32) : Decidable (Tame samples) := List.decidableBAll _ samples

variable {samples : List F32} {pkt : Bytes} {count : ℕ}

theorem length_frame (flags : UInt8) (samples : List F32) :
    (frame flags samples).length = headerLen + samples.length * 4 := by
  simp only [frame, List.length_append, length_le16, length_flatMap length_le32, List.length_cons,
    List.length_nil, magic, headerLen]
  omega

theorem drop_frame (flags : UInt8) (samples : List F32) :
    (frame flags samples).drop headerLen = samples.flatMap le32 := List.drop_left' rfl

theorem mapM_gate (samples : List F32) :
    (samples.mapM fun v => do
      guard (isFinite v)
      return clamp negOne one v) = received samples := by
  induction samples with
  | nil => rfl
  | cons sample samples ih =>
      rw [List.mapM_cons, ih, received, received, List.all_cons, List.map_cons]
      cases isFinite sample with
      | false => rfl
      | true =>
          cases samples.all isFinite with
          | false => rfl
          | true => rfl

theorem mapM_congr {α β : Type} {f g : α → Option β} {list : List α}
    (same : ∀ value ∈ list, f value = g value) : list.mapM f = list.mapM g := by
  induction list with
  | nil => rfl
  | cons value list ih =>
      rw [List.mapM_cons, List.mapM_cons, same value List.mem_cons_self,
        ih fun other occurs => same other (List.mem_cons_of_mem value occurs)]

theorem mapM_fields (long : pkt.length = headerLen + count * 4) :
    ((List.range count).mapM fun i => do
      let v ← f32At pkt (headerLen + i * 4)
      guard (isFinite v)
      return clamp negOne one v) = received (samplesOf pkt count) := by
  rw [← mapM_gate, samplesOf, List.mapM_map]
  apply mapM_congr
  intro i inside
  have fits : headerLen + i * 4 + 4 ≤ pkt.length := by
    have := List.mem_range.mp inside
    omega
  rw [f32At_of_le fits]
  rfl

/-- Reading past the header of a datagram is reading it in runs of four bytes. -/
theorem chunks_eq (pkt : Bytes) (count : ℕ) :
    (samplesOf pkt count) =
      (chunks pkt headerLen 4 count).map fun bytes => UInt32.ofNat (littleEndian bytes) := by
  rw [samplesOf, chunks, List.map_map]
  apply List.map_congr_left
  intro i _
  simp only [field, Function.comp_apply, Nat.mul_comm 4 i]

theorem samplesOf_frame (flags : UInt8) (samples : List F32) :
    samplesOf (frame flags samples) samples.length = samples := by
  rw [chunks_eq, chunks_flatMap length_le32 (drop_frame flags samples), List.map_map]
  refine (List.map_congr_left ?_).trans (List.map_id samples)
  intro sample _
  simp only [Function.comp_apply, littleEndian_le32, UInt32.ofNat_toNat, id]

theorem flatMap_samplesOf (long : pkt.length = headerLen + count * 4) :
    (samplesOf pkt count).flatMap le32 = pkt.drop headerLen := by
  have whole : (chunks pkt headerLen 4 count).flatten = pkt.drop headerLen := by
    rw [flatten_chunks]
    apply List.take_of_length_le
    rw [List.length_drop]
    omega
  rw [chunks_eq, List.flatMap_map, ← whole, List.flatten_eq_flatMap]
  apply List.flatMap_congr
  intro run mem
  exact le32_littleEndian (length_of_mem_chunks (by omega) mem)

/-- The count field of a datagram. -/
theorem u16At_count {front : Bytes} {count : UInt16} (six : front.length = 6) (rest : Bytes) :
    u16At (front ++ le16 count ++ rest) 6 = some count := by
  have fits : 6 + 2 ≤ (front ++ le16 count ++ rest).length := by
    simp only [List.length_append, length_le16, six]
    omega
  rw [u16At, slice_of_le fits, List.append_assoc, List.drop_left' six,
    List.take_left' (length_le16 count), Option.map_some, littleEndian_le16, UInt16.ofNat_toNat]

/-- A datagram with a good header comes to what its samples come to. -/
theorem decode_of_header (shape : pkt.take 4 = magic) (known : pkt[4]? = some version)
    {field : UInt16} (counted : u16At pkt 6 = some field) (some : field.toNat ≠ 0)
    (few : field.toNat ≤ maxSamples) (long : pkt.length = headerLen + field.toNat * 4) :
    decode pkt = received (samplesOf pkt field.toNat) := by
  have header : headerLen ≤ pkt.length := by omega
  have fits : ¬(field.toNat = 0 ∨ maxSamples < field.toNat ∨
      pkt.length ≠ headerLen + field.toNat * 4) := by omega
  rw [← mapM_fields long, decode]
  simp only [header, shape, known, counted, fits, guard, if_true, and_self, not_false_eq_true,
    Option.bind_eq_bind, Option.bind_some, Option.pure_def]

theorem decode_frame (flags : UInt8) (some : samples ≠ []) (few : samples.length ≤ maxSamples) :
    decode (frame flags samples) = received samples := by
  have whole : (UInt16.ofNat samples.length).toNat = samples.length := by
    rw [UInt16.toNat_ofNat']
    exact Nat.mod_eq_of_lt (few.trans_lt (by decide))
  have counted : u16At (frame flags samples) 6 = Option.some (UInt16.ofNat samples.length) :=
    u16At_count rfl _
  have nonempty : samples.length ≠ 0 := fun none => some (List.length_eq_zero_iff.mp none)
  rw [decode_of_header rfl rfl counted (by rwa [whole]) (by rwa [whole])
    (by rw [whole, length_frame]), whole, samplesOf_frame]

theorem isSome_received : (received samples).isSome ↔ samples.all isFinite = true := by
  rw [received]
  split
  · rename_i finite
    simp [finite]
  · rename_i broken
    simp [broken]

/-- A datagram that is accepted has a good header. -/
theorem header_of_decode {out : List F32} (accepted : decode pkt = some out) :
    pkt.take 4 = magic ∧ pkt[4]? = some version ∧ ∃ field, u16At pkt 6 = some field ∧
      field.toNat ≠ 0 ∧ field.toNat ≤ maxSamples ∧
      pkt.length = headerLen + field.toNat * 4 := by
  simp only [decode, bind, Option.bind_eq_some_iff, Option.guard_eq_some', exists_and_left,
    exists_const] at accepted
  rcases accepted with ⟨⟨-, shape, known⟩, field, counted, fits, -⟩
  refine ⟨shape, known, field, counted, ?_⟩
  omega

/-- A datagram is its header and its samples. -/
theorem eq_frame (shape : pkt.take 4 = magic) (known : pkt[4]? = some version) {field : UInt16}
    (counted : u16At pkt 6 = some field) (long : pkt.length = headerLen + field.toNat * 4) :
    ∃ flags, pkt = frame flags (samplesOf pkt field.toNat) := by
  have long8 : 8 ≤ pkt.length := Nat.le.intro long.symm
  have count : le16 field = (pkt.drop 6).take 2 := by
    rw [u16At, slice_of_le long8, Option.map_some, Option.some.injEq] at counted
    rw [← counted]
    apply le16_littleEndian
    rw [List.length_take, List.length_drop]
    omega
  have four : 4 < pkt.length := by omega
  have five : 5 < pkt.length := by omega
  have fourth : pkt[4] = version := by
    rwa [List.getElem?_eq_getElem four, Option.some.injEq] at known
  have whole : UInt16.ofNat (samplesOf pkt field.toNat).length = field := by
    rw [samplesOf, List.length_map, List.length_range, UInt16.ofNat_toNat]
  have tail : pkt.drop 6 = (pkt.drop 6).take 2 ++ pkt.drop headerLen := by
    have later : pkt.drop headerLen = (pkt.drop 6).drop 2 := by
      rw [List.drop_drop]
      rfl
    rw [later, List.take_append_drop]
  refine ⟨pkt[5], ?_⟩
  calc pkt = pkt.take 4 ++ pkt.drop 4 := (List.take_append_drop 4 pkt).symm
    _ = magic ++ version :: pkt[5] :: pkt.drop 6 := by
        rw [shape, List.drop_eq_getElem_cons four, List.drop_eq_getElem_cons five, fourth]
    _ = magic ++ version :: pkt[5] :: ((pkt.drop 6).take 2 ++ pkt.drop headerLen) := by rw [← tail]
    _ = frame pkt[5] (samplesOf pkt field.toNat) := by
        rw [frame, flatMap_samplesOf long, whole, count]
        simp only [List.append_assoc, List.cons_append, List.nil_append]

theorem length_samplesOf (pkt : Bytes) (count : ℕ) : (samplesOf pkt count).length = count := by
  rw [samplesOf, List.length_map, List.length_range]

/-- Flags apart, what is accepted is what `encode` makes of finite samples. -/
theorem isSome_decode_iff : (decode pkt).isSome ↔
    ∃ samples bytes flags, samples.length ≤ maxSamples ∧ samples.all isFinite = true ∧
      encode samples = some bytes ∧ pkt = bytes.set 5 flags := by
  constructor
  · intro accepted
    rcases Option.isSome_iff_exists.mp accepted with ⟨out, decoded⟩
    rcases header_of_decode decoded with ⟨shape, known, field, counted, some, few, long⟩
    rcases eq_frame shape known counted long with ⟨flags, framed⟩
    rw [decode_of_header shape known counted some few long, isSome_received] at accepted
    have length := length_samplesOf pkt field.toNat
    have nonempty : samplesOf pkt field.toNat ≠ [] := by
      intro none
      rw [none] at length
      exact some length.symm
    have fits : ¬(samplesOf pkt field.toNat = [] ∨
        maxSamples < (samplesOf pkt field.toNat).length) := by
      rintro (none | many)
      · exact nonempty none
      · omega
    refine ⟨samplesOf pkt field.toNat, _, flags, by rwa [length], accepted, if_neg fits, ?_⟩
    exact framed
  · rintro ⟨samples, bytes, flags, few, finite, encoded, rfl⟩
    rw [encode] at encoded
    split at encoded
    · cases encoded
    · rename_i fits
      cases encoded
      have some : samples ≠ [] := fun none => fits (Or.inl none)
      have framed := decode_frame flags some few
      rw [← isSome_received, ← framed] at finite
      exact finite

/-- The runs of samples that go out, one to a datagram. -/
def runs (samples : List F32) : List (List F32) :=
  if samples = [] then []
  else samples.take tfMaxSamples :: runs (samples.drop tfMaxSamples)
termination_by samples.length
decreasing_by
  have := List.length_pos_iff.mpr ‹_›
  simp only [List.length_drop, tfMaxSamples]
  omega

theorem flatten_runs (samples : List F32) : (runs samples).flatten = samples := by
  induction samples using runs.induct with
  | case1 => simp [runs]
  | case2 samples some ih =>
      rw [runs, if_neg some, List.flatten_cons, ih, List.take_append_drop]

theorem length_of_mem_runs {run : List F32} (mem : run ∈ runs samples) :
    run ≠ [] ∧ run.length ≤ maxSamples := by
  induction samples using runs.induct with
  | case1 => simp [runs] at mem
  | case2 samples some ih =>
      rw [runs, if_neg some, List.mem_cons] at mem
      rcases mem with rfl | mem
      · constructor
        · intro none
          rcases List.take_eq_nil_iff.mp none with zero | empty
          · cases zero
          · exact some empty
        · exact List.length_take_le _ _
      · exact ih mem

theorem count_bytes (n : ℕ) :
    le16 (UInt16.ofNat n) = [UInt8.ofNat (n % 256), UInt8.ofNat (n / 256 % 256)] := by
  have shift8 : UInt16.toNat 8 % 16 = 8 := rfl
  simp only [le16, List.cons.injEq, and_true]
  constructor
  · apply UInt8.toNat_inj.mp
    rw [UInt16.toNat_toUInt8, UInt16.toNat_ofNat', UInt8.toNat_ofNat']
    omega
  · apply UInt8.toNat_inj.mp
    rw [UInt16.toNat_toUInt8, UInt16.toNat_shiftRight, UInt16.toNat_ofNat', shift8,
      Nat.shiftRight_eq_div_pow, UInt8.toNat_ofNat']
    omega

/-- The two sides agree on the layout. -/
theorem tfDatagram_eq (samples : List F32) {n : ℕ} (enough : n ≤ samples.length) :
    tfDatagram samples n = frame 0 (samples.take n) := by
  rw [tfDatagram, frame, List.length_take, Nat.min_eq_left enough, count_bytes]
  rfl

theorem tfSendLoop_eq (samples : List F32) :
    tfSendLoop samples samples.length = (runs samples).map (frame 0) := by
  induction samples using runs.induct with
  | case1 =>
      rw [tfSendLoop, runs]
      rfl
  | case2 samples some ih =>
      have nonempty : samples.length ≠ 0 := fun none => some (List.length_eq_zero_iff.mp none)
      have cut : samples.take (min samples.length tfMaxSamples) = samples.take tfMaxSamples := by
        rw [Nat.min_comm, ← List.take_take, List.take_length]
      have rest : samples.drop (min samples.length tfMaxSamples) = samples.drop tfMaxSamples := by
        rcases Nat.le_total samples.length tfMaxSamples with few | many
        · rw [Nat.min_eq_left few, List.drop_length, List.drop_of_length_le few]
        · rw [Nat.min_eq_right many]
      have left : samples.length - min samples.length tfMaxSamples =
          (samples.drop tfMaxSamples).length := by
        rw [List.length_drop]
        omega
      rw [tfSendLoop, if_neg nonempty, runs, if_neg some, List.map_cons, ← ih]
      simp only [tfDatagram_eq samples (Nat.min_le_left _ _), cut, rest, left]

/-- A datagram of the sender, as the daemon receives it. -/
theorem decode_of_mem_runs {run : List F32} (mem : run ∈ runs samples) :
    (frame 0 run).length ≤ bufLen ∧ decode ((frame 0 run).take bufLen) = received run := by
  have few := length_of_mem_runs mem
  have short : (frame 0 run).length ≤ bufLen := by
    rw [length_frame]
    have := few.2
    simp only [maxSamples, headerLen, bufLen] at *
    omega
  refine ⟨short, ?_⟩
  rw [List.take_of_length_le short]
  exact decode_frame 0 few.1 few.2

theorem drain_frames {sent : List (List F32)}
    (fit : ∀ run ∈ sent, (frame 0 run).length ≤ bufLen ∧
      decode ((frame 0 run).take bufLen) = received run) :
    drainCapturedTf (sent.map (frame 0)) = sent.flatMap fun run => (received run).getD [] := by
  induction sent with
  | nil => rfl
  | cons run sent ih =>
      rcases fit run List.mem_cons_self with ⟨short, decoded⟩
      have some : ((frame 0 run).take bufLen).length ≠ 0 := by
        rw [List.take_of_length_le short, length_frame, headerLen]
        omega
      rw [List.map_cons, drainCapturedTf, List.flatMap_cons,
        ← ih fun other mem => fit other (List.mem_cons_of_mem run mem)]
      simp only [decoded, if_neg some]

theorem received_of_tame {run : List F32} (tame : Tame run) : received run = some run := by
  have finite : run.all isFinite = true := List.all_eq_true.mpr fun sample mem => (tame sample mem).1
  rw [received, if_pos finite]
  congr 1
  refine (List.map_congr_left ?_).trans (List.map_id run)
  intro sample mem
  rcases tame sample mem with ⟨-, above, below⟩
  exact clamp_of_between above below

theorem sent_eq (real : Option (ℤ → Option (List F32) → ℤ → ℤ)) (index : ℤ)
    (samples : List F32) :
    (logiTrueForceSetTorqueTFfloat real true index (some samples) samples.length).1 =
      (runs samples).map (frame 0) := by
  simp only [logiTrueForceSetTorqueTFfloat]
  cases samples with
  | nil =>
      rw [runs]
      rfl
  | cons sample samples =>
      have positive : (0 : ℤ) < ((sample :: samples).length : ℤ) := by
        rw [List.length_cons]
        exact Int.natCast_pos.mpr (Nat.succ_pos _)
      simp only [Option.isSome_some, positive, and_self, if_true, tfSend, Int.toNat_natCast]
      exact tfSendLoop_eq (sample :: samples)

theorem flatMap_received_of_tame {sent : List (List F32)} (tame : Tame sent.flatten) :
    (sent.flatMap fun run => (received run).getD []) = sent.flatten := by
  rw [List.flatten_eq_flatMap]
  apply List.flatMap_congr
  intro run mem
  have here : Tame run := fun sample inside =>
    tame sample (List.mem_flatten.mpr ⟨run, mem, inside⟩)
  rw [received_of_tame here]
  rfl

theorem flatMap_received (sent : List (List F32)) :
    (sent.flatMap fun run => (received run).getD []) =
      (sent.filter fun run => run.all isFinite).flatten.map (clamp negOne one) := by
  induction sent with
  | nil => rfl
  | cons run sent ih =>
      rw [List.flatMap_cons, ih, received, List.filter_cons]
      cases run.all isFinite with
      | false => rfl
      | true => simp

/-- What the daemon makes of the datagrams of one call. -/
theorem captured_samples_survive (real : Option (ℤ → Option (List F32) → ℤ → ℤ)) (index : ℤ)
    (samples : List F32) (pkt : Bytes) :
    let sent := (logiTrueForceSetTorqueTFfloat real true index (some samples) samples.length).1
    (∀ datagram ∈ sent, datagram.length ≤ bufLen) ∧
    (Tame samples →
      (∀ datagram ∈ sent, (decode datagram).isSome) ∧
      (sent.flatMap fun datagram => (decode datagram).getD []) = samples ∧
      drainCapturedTf sent = samples) ∧
    (∃ runs : List (List F32), runs.flatten = samples ∧
      (∀ run ∈ runs, run ≠ [] ∧ run.length ≤ 256) ∧
      sent.map decode = runs.map (fun run =>
        if run.all isFinite then some (run.map (clamp negOne one)) else none) ∧
      drainCapturedTf sent =
        (runs.filter fun run => run.all isFinite).flatten.map (clamp negOne one)) ∧
    ((decode pkt).isSome ↔
      ∃ samples bytes flags, samples.length ≤ 256 ∧ samples.all isFinite = true ∧
        encode samples = some bytes ∧ pkt = bytes.set 5 flags) := by
  intro sent
  have cut : sent = (runs samples).map (frame 0) := sent_eq real index samples
  have fit : ∀ run ∈ runs samples, (frame 0 run).length ≤ bufLen ∧
      decode ((frame 0 run).take bufLen) = received run := fun run mem => decode_of_mem_runs mem
  have decoded : ∀ run ∈ runs samples, decode (frame 0 run) = received run := by
    intro run mem
    have few := length_of_mem_runs mem
    exact decode_frame 0 few.1 few.2
  have drained := drain_frames fit
  rw [← cut] at drained
  have whole := flatten_runs samples
  refine ⟨?_, ?_, ⟨runs samples, whole, fun run mem => length_of_mem_runs mem, ?_, ?_⟩,
    isSome_decode_iff⟩
  · intro datagram mem
    rw [cut, List.mem_map] at mem
    rcases mem with ⟨run, mem, rfl⟩
    exact (fit run mem).1
  · intro tame
    rw [← whole] at tame
    have joined := (flatMap_received_of_tame tame).trans whole
    refine ⟨?_, ?_, drained.trans joined⟩
    · intro datagram mem
      rw [cut, List.mem_map] at mem
      rcases mem with ⟨run, mem, rfl⟩
      have here : Tame run := fun sample inside =>
        tame sample (List.mem_flatten.mpr ⟨run, mem, inside⟩)
      rw [decoded run mem, received_of_tame here]
      rfl
    · rw [cut, List.flatMap_map]
      refine (List.flatMap_congr ?_).trans joined
      intro run mem
      rw [decoded run mem]
  · rw [cut, List.map_map]
    apply List.map_congr_left
    intro run mem
    exact decoded run mem
  · exact drained.trans (flatMap_received (runs samples))

/-- Half a torque to one side and all of it to the other. -/
theorem captured_samples_survive_pair :
    drainCapturedTf
      (logiTrueForceSetTorqueTFfloat none true 0 (some [0x3F000000, negOne]) 2).1 =
        [0x3F000000, negOne] :=
  ((captured_samples_survive none 0 [0x3F000000, negOne] []).2.1 (by decide)).2.2

end TrueForce.Udp.Captured
