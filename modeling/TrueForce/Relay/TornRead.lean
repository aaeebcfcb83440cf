import TrueForce.Foundation.Transition
import TrueForce.Foundation.VersionedBuffer
import TrueForce.Relay.RFactor2

/-!
# One tick of the relay beside the plugin

A tick copies the telemetry section and then the scoring section, byte by byte in
address order, while the plugin may update either.  The version words come first,
so they are compared as they were before any of the data was copied.
-/

namespace TrueForce.Relay.RFactor2

open TrueForce.Transition TrueForce.VersionedBuffer

inductive Mapping where
  | telemetry
  | scoring
deriving DecidableEq

/-- What `run_stream` asks `read_section` for at most. -/
def Mapping.readLen : Mapping → ℕ
  | .telemetry => telemetryLen
  | .scoring => scoringLen

/-- What `read_section` returns of a mapping: `info.RegionSize.min(limit)`. -/
def copyLength (regionSize : Mapping → ℕ) (mapping : Mapping) : ℕ :=
  min (regionSize mapping) mapping.readLen

abbrev State := Mapping → Buffer

/-- The section the tick is copying. -/
def copying (regionSize : Mapping → ℕ) (state : State) : Option Mapping :=
  if (state .telemetry).copied.length < copyLength regionSize .telemetry then some .telemetry
  else if (state .scoring).copied.length < copyLength regionSize .scoring then some .scoring
  else none

inductive Event where
  | beginUpdate (mapping : Mapping)
  | store (mapping : Mapping) (offset : ℕ) (value : UInt8)
  | endUpdate (mapping : Mapping)
  | copyByte

/-- The buffer that an event accesses, and how. -/
def Event.target (regionSize : Mapping → ℕ) (state : State) : Event → Option (Mapping × Access)
  | .beginUpdate mapping => some (mapping, .beginUpdate)
  | .store mapping offset value => some (mapping, .store offset value)
  | .endUpdate mapping => some (mapping, .endUpdate)
  | .copyByte => (copying regionSize state).map fun mapping => (mapping, .copyByte)

def step (regionSize : Mapping → ℕ) (state : State) (event : Event) : Option State := do
  let (mapping, access) ← event.target regionSize state
  let buffer ← (state mapping).access (regionSize mapping) (copyLength regionSize mapping) access
  return Function.update state mapping buffer

/-- The tick begins between two updates; what is in memory is of update zero. -/
def Initial (state : State) : Prop :=
  ∀ mapping, (state mapping).copied = [] ∧ (state mapping).underway = false ∧
    (state mapping).begun = (state mapping).ended ∧ (state mapping).updates = 0 ∧
    ∀ offset, ((state mapping).data offset).update = 0

def system (regionSize : Mapping → ℕ) : System State Event where
  initial := Initial
  step := step regionSize

def bytes (buffer : Buffer) : Bytes := buffer.copied.map Cell.value

/-- What the tick sends, once both sections are copied. -/
def sample (unit : Rounding) (regionSize : Mapping → ℕ) (gameId : String) (state : State) :
    Option RelayTelemetry :=
  match copying regionSize state with
  | none => decode unit (bytes (state .telemetry)) (bytes (state .scoring)) gameId
  | some _ => none

/-- A tick that sends something has copied each section from one completed update. -/
def NeverTorn (unit : Rounding) (regionSize : Mapping → ℕ) (gameId : String)
    (state : State) : Prop :=
  ∀ sent, sample unit regionSize gameId state = some sent →
    ∀ mapping, (state mapping).OfOneUpdate

/-- Where the copied version words agree, no update disturbs the copy of the data. -/
def Undisturbed (regionSize : Mapping → ℕ) (state : State) (event : Event) : Prop :=
  ∀ mapping access, event.target regionSize state = some (mapping, access) →
    readWasClean (bytes (state mapping)) = true →
      (state mapping).Undisturbed (regionSize mapping) access

variable {regionSize : Mapping → ℕ} {state next : State} {event : Event}

theorem step_cases (stepped : step regionSize state event = some next) :
    ∃ mapping access buffer, event.target regionSize state = some (mapping, access) ∧
      (state mapping).access (regionSize mapping) (copyLength regionSize mapping) access =
        some buffer ∧
      next = Function.update state mapping buffer := by
  simp only [step, bind, Option.bind_eq_some_iff, pure, Option.some.injEq] at stepped
  rcases stepped with ⟨⟨mapping, access⟩, target, buffer, accessed, rfl⟩
  exact ⟨mapping, access, buffer, target, accessed, rfl⟩

theorem copyLength_le (mapping : Mapping) : copyLength regionSize mapping ≤ regionSize mapping :=
  Nat.min_le_left _ _

/-- An access keeps what is copied and adds at most one byte. -/
theorem copied_of_access {size length : ℕ} {buffer after : Buffer} {access : Access}
    (accessed : buffer.access size length access = some after) :
    ∃ added, after.copied = buffer.copied ++ added ∧ added.length ≤ 1 := by
  cases access with
  | beginUpdate =>
      simp only [Buffer.access, Option.ite_none_left_eq_some, Option.some.injEq] at accessed
      rcases accessed with ⟨-, rfl⟩
      exact ⟨[], (List.append_nil _).symm, Nat.zero_le _⟩
  | store | endUpdate =>
      simp only [Buffer.access, Option.ite_none_right_eq_some, Option.some.injEq] at accessed
      rcases accessed with ⟨-, rfl⟩
      exact ⟨[], (List.append_nil _).symm, Nat.zero_le _⟩
  | copyByte =>
      simp only [Buffer.access, Option.ite_none_right_eq_some, Option.some.injEq] at accessed
      rcases accessed with ⟨-, rfl⟩
      exact ⟨_, rfl, Nat.le_refl _⟩

/-- What is so of a section at any moment of an undisturbed tick. -/
structure Kept (size : ℕ) (buffer : Buffer) : Prop where
  tagged : buffer.WellTagged size
  reading : readWasClean (bytes buffer) = true → headerLength < buffer.copied.length →
    buffer.OneUpdateAhead size

theorem Kept.access {size length : ℕ} {buffer after : Buffer} {access : Access}
    (kept : Kept size buffer) (fits : length ≤ size)
    (undisturbed : readWasClean (bytes buffer) = true → buffer.Undisturbed size access)
    (accessed : buffer.access size length access = some after) : Kept size after := by
  refine ⟨kept.tagged.access accessed, ?_⟩
  intro clean reading
  rcases copied_of_access accessed with ⟨added, grown, short⟩
  have words : headerLength ≤ buffer.copied.length := by
    rw [grown, List.length_append] at reading
    omega
  have before : readWasClean (bytes buffer) = true := by
    rw [bytes, grown, List.map_append] at clean
    rwa [readWasClean_append (by rwa [List.length_map])] at clean
  rcases Nat.eq_or_lt_of_le words with first | later
  · cases access with
    | copyByte =>
        exact .start kept.tagged fits first.symm (undisturbed before) accessed
    | beginUpdate =>
        simp only [Buffer.access, Option.ite_none_left_eq_some, Option.some.injEq] at accessed
        rcases accessed with ⟨-, rfl⟩
        exact absurd reading (by simp [first])
    | store | endUpdate =>
        simp only [Buffer.access, Option.ite_none_right_eq_some, Option.some.injEq] at accessed
        rcases accessed with ⟨-, rfl⟩
        exact absurd reading (by simp [first])
  · exact (kept.reading before later).access fits later (undisturbed before) accessed

theorem kept_of_initial (initial : Initial state) (mapping : Mapping) :
    Kept (regionSize mapping) (state mapping) := by
  rcases initial mapping with ⟨empty, idle, -, none, tags⟩
  refine ⟨⟨fun _ offset _ _ => ?_, fun busy => ?_⟩, fun _ reading => ?_⟩
  · rw [tags, none]
  · rw [idle] at busy
    cases busy
  · rw [empty] at reading
    exact absurd reading (Nat.not_lt_zero _)

theorem kept_of_step (kept : ∀ mapping, Kept (regionSize mapping) (state mapping))
    (undisturbed : Undisturbed regionSize state event)
    (stepped : step regionSize state event = some next) :
    ∀ mapping, Kept (regionSize mapping) (next mapping) := by
  rcases step_cases stepped with ⟨target, access, buffer, aimed, accessed, rfl⟩
  intro mapping
  by_cases same : mapping = target
  · subst same
    rw [Function.update_self]
    exact (kept mapping).access (copyLength_le mapping) (undisturbed mapping access aimed) accessed
  · rw [Function.update_of_ne same]
    exact kept mapping

theorem kept_of_reachable
    (reachable : (system regionSize).ReachableUnder (Undisturbed regionSize) state) :
    ∀ mapping, Kept (regionSize mapping) (state mapping) := by
  exact reachable.invariant (fun _ initial => kept_of_initial initial)
    fun _ _ _ kept undisturbed stepped => kept_of_step kept undisturbed stepped

theorem decoded_of_sample {unit : Rounding} {gameId : String} {sent : RelayTelemetry}
    (sampled : sample unit regionSize gameId state = some sent) :
    copying regionSize state = none ∧
      decode unit (bytes (state .telemetry)) (bytes (state .scoring)) gameId = some sent := by
  rw [sample] at sampled
  split at sampled
  · rename_i finished
    exact ⟨finished, sampled⟩
  · cases sampled

theorem clean_of_sample {unit : Rounding} {gameId : String} {sent : RelayTelemetry}
    (sampled : sample unit regionSize gameId state = some sent) (mapping : Mapping) :
    readWasClean (bytes (state mapping)) = true := by
  have clean := decode_clean (decoded_of_sample sampled).2
  cases mapping with
  | telemetry => exact clean.1
  | scoring => exact clean.2

/-- The buffer after `count` more bytes are copied from it as it stands. -/
def copyMany (buffer : Buffer) (count : ℕ) : Buffer :=
  { buffer with copied := buffer.copied ++
      (List.range count).map fun index => buffer.cellAt (buffer.copied.length + index) }

theorem length_copyMany (buffer : Buffer) (count : ℕ) :
    (copyMany buffer count).copied.length = buffer.copied.length + count := by
  rw [copyMany, List.length_append, List.length_map, List.length_range]

theorem getElem?_copyMany {buffer : Buffer} {count offset : ℕ}
    (uncopied : buffer.copied.length ≤ offset) (inside : offset < buffer.copied.length + count) :
    (copyMany buffer count).copied[offset]? = some (buffer.cellAt offset) := by
  rw [copyMany, List.getElem?_append_right uncopied, List.getElem?_map,
    List.getElem?_range (by omega), Option.map_some, Nat.add_sub_cancel' uncopied]

theorem access_copyMany (size : ℕ) {length count : ℕ} (buffer : Buffer)
    (room : buffer.copied.length + count < length) :
    (copyMany buffer count).access size length .copyByte = some (copyMany buffer (count + 1)) := by
  rw [Buffer.access, if_pos (by rwa [length_copyMany]), length_copyMany]
  simp only [copyMany, List.range_succ, List.map_append, List.append_assoc]
  rfl

theorem step_copyByte {mapping : Mapping} {buffer : Buffer}
    (current : copying regionSize state = some mapping)
    (accessed : (state mapping).access (regionSize mapping) (copyLength regionSize mapping)
      .copyByte = some buffer) :
    step regionSize state .copyByte = some (Function.update state mapping buffer) := by
  simp [step, Event.target, current, accessed]

def both (telemetry scoring : Buffer) : State
  | .telemetry => telemetry
  | .scoring => scoring

theorem update_both_telemetry (telemetry scoring buffer : Buffer) :
    Function.update (both telemetry scoring) .telemetry buffer = both buffer scoring := by
  funext mapping
  cases mapping <;> rfl

theorem update_both_scoring (telemetry scoring buffer : Buffer) :
    Function.update (both telemetry scoring) .scoring buffer = both telemetry buffer := by
  funext mapping
  cases mapping <;> rfl

theorem copyMany_zero (buffer : Buffer) : copyMany buffer 0 = buffer := by
  rw [copyMany, List.range_zero, List.map_nil, List.append_nil]

section Stretches

variable {guard : State → Event → Prop} {telemetry scoring : Buffer}

theorem reachable_telemetry (count : ℕ)
    (reachable : (system regionSize).ReachableUnder guard (both telemetry scoring))
    (room : telemetry.copied.length + count ≤ copyLength regionSize .telemetry)
    (meets : ∀ fewer, guard (both (copyMany telemetry fewer) scoring) .copyByte) :
    (system regionSize).ReachableUnder guard (both (copyMany telemetry count) scoring) := by
  induction count with
  | zero => rwa [copyMany_zero]
  | succ count ih =>
      refine (ih (by omega)).tail (meets count) ?_
      have current : copying regionSize (both (copyMany telemetry count) scoring) =
          some .telemetry := by
        apply if_pos
        rw [both, length_copyMany]
        omega
      have accessed := access_copyMany (regionSize .telemetry) telemetry
        (Nat.lt_of_lt_of_le (Nat.lt_succ_self _) room)
      rw [← update_both_telemetry _ scoring (copyMany telemetry (count + 1))]
      exact step_copyByte current accessed

theorem reachable_scoring (count : ℕ)
    (reachable : (system regionSize).ReachableUnder guard (both telemetry scoring))
    (done : copyLength regionSize .telemetry ≤ telemetry.copied.length)
    (room : scoring.copied.length + count ≤ copyLength regionSize .scoring)
    (meets : ∀ fewer, guard (both telemetry (copyMany scoring fewer)) .copyByte) :
    (system regionSize).ReachableUnder guard (both telemetry (copyMany scoring count)) := by
  induction count with
  | zero => rwa [copyMany_zero]
  | succ count ih =>
      refine (ih (by omega)).tail (meets count) ?_
      have current : copying regionSize (both telemetry (copyMany scoring count)) =
          some .scoring := by
        simp only [copying, both, length_copyMany]
        rw [if_neg (by omega), if_pos (by omega)]
      have accessed := access_copyMany (regionSize .scoring) scoring
        (Nat.lt_of_lt_of_le (Nat.lt_succ_self _) room)
      rw [← update_both_scoring telemetry _ (copyMany scoring (count + 1))]
      exact step_copyByte current accessed

end Stretches

theorem undisturbed_of_idle (idle : ∀ mapping, (state mapping).underway = false) :
    Undisturbed regionSize state .copyByte := by
  intro mapping access target _
  rw [Event.target, Option.map_eq_some_iff] at target
  rcases target with ⟨_, -, same⟩
  cases same
  intro _ busy
  rw [idle] at busy
  cases busy

/-- One car at 6400 rpm; two bytes of its redline are given. -/
def telemetryByte (redline : UInt8 × UInt8) (offset : ℕ) : UInt8 :=
  if offset = 12 then 1
  else if offset = 378 then 0xB9
  else if offset = 379 then 0x40
  else if offset = 553 then redline.1
  else if offset = 554 then redline.2
  else if offset = 555 then 0x40
  else 0

/-- The car is the player's. -/
def scoringByte (offset : ℕ) : UInt8 :=
  if offset = 116 then 1 else if offset = 756 then 1 else 0

/-- The bytes of 8200.0 and 9000.0 that differ. -/
def redline8200 : UInt8 × UInt8 := (0x04, 0xC0)

def redline9000 : UInt8 × UInt8 := (0x94, 0xC1)

/-- The floating point unit, as far as a car at rest needs it. -/
def standing : Rounding where
  mul _ _ := 0
  add _ _ := 0
  sqrt _ := 0
  toF32 bits := UInt32.ofNat (if bits = 0 then 0 else bits.toNat / 2 ^ 29 - 896 * 2 ^ 23)

theorem playerSlotId_session : playerSlotId (view scoringLen scoringByte) = some 0 := by
  have one : vehicleCount (view scoringLen scoringByte) scoNumVehicles = 1 := by
    rw [vehicleCount, i32At_view scoringByte (by decide)]
    rfl
  have flag : (view scoringLen scoringByte)[scoVehicles + 0 * scoStride + scoIsPlayer]? =
      some 1 := getElem?_view scoringByte (by decide)
  have slot : i32At (view scoringLen scoringByte) (scoVehicles + 0 * scoStride + scoId) = some 0 :=
    i32At_view scoringByte (by decide)
  exact playerSlotId_of_first one flag slot

theorem decode_session (unit : Rounding) (gameId : String) (redline : UInt8 × UInt8)
    (maxRpm : F64)
    (value : UInt64.ofNat (littleEndian [0, 0, 0, 0, 0, redline.1, redline.2, 0x40]) = maxRpm)
    (finite : F64.isFinite maxRpm = true)
    (sensible : ¬(F64.rank maxRpm ≤ F64.rank F64.zero) ∧
      ¬F64.rank maxPlausibleRpm < F64.rank maxRpm) :
    ∃ sent, decode unit (view telemetryLen (telemetryByte redline)) (view scoringLen scoringByte)
      gameId = some sent ∧ sent.rpm = unit.toF32 0x40B9000000000000 ∧
      sent.maxRpm = unit.toF32 maxRpm := by
  have engine : view 8 (fun index => telemetryByte redline (telVehicles + vehEngineRpm + index)) =
      [0, 0, 0, 0, 0, 0, 0xB9, 0x40] := rfl
  have limit : view 8 (fun index => telemetryByte redline (telVehicles + vehEngineMaxRpm + index)) =
      [0, 0, 0, 0, 0, redline.1, redline.2, 0x40] := rfl
  have released : view 8 (fun index => telemetryByte redline (telVehicles + vehThrottle + index)) =
      List.replicate 8 0 := rfl
  have rpm : f64At (view telemetryLen (telemetryByte redline)) (telVehicles + vehEngineRpm) =
      some 0x40B9000000000000 := by
    rw [f64At_view _ (by decide), engine]
    decide
  have maxRpmRead : f64At (view telemetryLen (telemetryByte redline))
      (telVehicles + vehEngineMaxRpm) = some maxRpm := by
    rw [f64At_view _ (by decide), limit, value]
  have throttle : f64At (view telemetryLen (telemetryByte redline)) (telVehicles + vehThrottle) =
      some 0 := by
    rw [f64At_view _ (by decide), released]
    decide
  have slot : i32At (view telemetryLen (telemetryByte redline)) telVehicles = some 0 := by
    rw [i32At_view _ (by decide)]
    rfl
  have gear : i32At (view telemetryLen (telemetryByte redline)) (telVehicles + vehGear) =
      some 0 := by
    rw [i32At_view _ (by decide)]
    rfl
  refine decode_of_one_car unit gameId ⟨?_, ?_⟩ playerSlotId_session ?_ slot rpm maxRpmRead
    throttle gear ?_ ⟨sensible.1, sensible.2, by decide, by decide⟩
  · rw [readWasClean, u32At_view _ (by decide), u32At_view _ (by decide)]
    rfl
  · rw [readWasClean, u32At_view _ (by decide), u32At_view _ (by decide)]
    rfl
  · rw [vehicleCount, i32At_view _ (by decide)]
    rfl
  · rw [finite]
    rfl

/-- A buffer between two updates. -/
def settled (memory : ℕ → UInt8) : Buffer where
  begun := 0
  ended := 0
  data offset := ⟨memory offset, 0⟩
  updates := 0
  underway := false
  copied := []

theorem bytes_copyMany (buffer : Buffer) (count : ℕ) :
    bytes (copyMany buffer count) = bytes buffer ++
      view count fun index => (buffer.cellAt (buffer.copied.length + index)).value := by
  rw [bytes, copyMany, List.map_append, List.map_map]
  rfl

theorem byteOfWord_zero (index : ℕ) : byteOfWord 0 index = 0 := by
  rw [byteOfWord, UInt32.toNat_zero, Nat.zero_div]
  rfl

theorem cellAt_settled {memory : ℕ → UInt8} (blank : ∀ offset < headerLength, memory offset = 0)
    (offset : ℕ) : ((settled memory).cellAt offset).value = memory offset := by
  simp only [Buffer.cellAt, settled]
  split
  · rw [byteOfWord_zero, blank offset (by simp only [headerLength]; omega)]
  · split
    · rename_i inside
      rw [byteOfWord_zero, blank offset inside]
    · rfl

theorem bytes_copyMany_settled {memory : ℕ → UInt8}
    (blank : ∀ offset < headerLength, memory offset = 0) (count : ℕ) :
    bytes (copyMany (settled memory) count) = view count memory := by
  rw [bytes_copyMany]
  simp only [settled, bytes, List.map_nil, List.nil_append, List.length_nil, Nat.zero_add]
  exact congrArg (view count) (funext (cellAt_settled blank))

theorem telemetryByte_blank (redline : UInt8 × UInt8) :
    ∀ offset < headerLength, telemetryByte redline offset = 0 := by
  intro offset inside
  simp only [headerLength] at inside
  simp only [telemetryByte]
  repeat rw [if_neg (by omega)]

theorem scoringByte_blank : ∀ offset < headerLength, scoringByte offset = 0 := by
  intro offset inside
  simp only [headerLength] at inside
  simp only [scoringByte]
  repeat rw [if_neg (by omega)]

def sessionStart : State := both (settled (telemetryByte redline8200)) (settled scoringByte)

theorem initial_sessionStart : Initial sessionStart := by
  intro mapping
  cases mapping <;> exact ⟨rfl, rfl, rfl, rfl, fun _ => rfl⟩

theorem sample_copied (unit : Rounding) (gameId : String) {telemetry : Buffer}
    (copied : telemetry.copied.length = telemetryLen) :
    sample unit Mapping.readLen gameId
        (both telemetry (copyMany (settled scoringByte) scoringLen)) =
      decode unit (bytes telemetry) (view scoringLen scoringByte) gameId := by
  have finished : copying Mapping.readLen
      (both telemetry (copyMany (settled scoringByte) scoringLen)) = none := by
    simp only [copying, copyLength, both, length_copyMany, Mapping.readLen, Nat.min_self, copied]
    rw [if_neg (Nat.lt_irrefl _), if_neg (by simp [settled])]
  rw [sample, finished]
  simp only [both, bytes_copyMany_settled scoringByte_blank]

/-- The telemetry buffer while the next update has set the redline, `count` bytes being copied. -/
def redlineChanged (count : ℕ) : Buffer :=
  { copyMany (settled (telemetryByte redline8200)) count with
    begun := 1
    updates := 1
    underway := true
    data := Function.update (Function.update (settled (telemetryByte redline8200)).data
      553 ⟨redline9000.1, 1⟩) 554 ⟨redline9000.2, 1⟩ }

theorem bytes_redlineChanged :
    bytes (copyMany (redlineChanged 548) (telemetryLen - 548)) =
      view telemetryLen (telemetryByte redline9000) := by
  have length : (redlineChanged 548).copied.length = 548 := length_copyMany _ 548
  have front : bytes (redlineChanged 548) = view 548 (telemetryByte redline8200) :=
    bytes_copyMany_settled (telemetryByte_blank _) 548
  have back : ∀ index, ((redlineChanged 548).cellAt (548 + index)).value =
      telemetryByte redline9000 (548 + index) := by
    intro index
    rw [Buffer.cellAt, if_neg (by omega), if_neg (by simp only [headerLength]; omega)]
    simp only [redlineChanged, Function.update_apply]
    by_cases high : 548 + index = 554
    · rw [if_pos high, high]
      rfl
    · by_cases low : 548 + index = 553
      · rw [if_neg high, if_pos low, low]
        rfl
      · rw [if_neg high, if_neg low]
        simp only [settled, telemetryByte, if_neg high, if_neg low]
  rw [bytes_copyMany, length, front, funext back, view_append]
  apply congrArg (view telemetryLen)
  funext offset
  split
  · rename_i before
    simp only [telemetryByte, show offset ≠ 553 by omega, show offset ≠ 554 by omega, if_false]
  · rfl

/-- Updating the redline while 548 bytes are copied. -/
theorem run_redlineChanged (scoring : Buffer) :
    (system Mapping.readLen).run
        (both (copyMany (settled (telemetryByte redline8200)) 548) scoring)
        [.beginUpdate .telemetry, .store .telemetry 553 redline9000.1,
          .store .telemetry 554 redline9000.2] =
      some (both (redlineChanged 548) scoring) := by
  simp [System.run, system, step, Event.target, Buffer.access, both, settled, copyMany,
    headerLength, Mapping.readLen, telemetryLen, redlineChanged, update_both_telemetry]

/-- A tick that no update disturbs behind equal version words is never torn. -/
theorem undisturbed_tick_is_never_torn (unit : Rounding) (gameId : String)
    (reachable : (system regionSize).ReachableUnder (Undisturbed regionSize) state) :
    NeverTorn unit regionSize gameId state := by
  intro sent sampled mapping
  have clean := clean_of_sample sampled mapping
  by_cases reading : headerLength < (state mapping).copied.length
  · exact ((kept_of_reachable reachable mapping).reading clean reading).ofOneUpdate
  · refine ⟨0, Nat.zero_le _, ?_⟩
    intro offset cell behind found
    have inside := (List.getElem?_eq_some_iff.mp found).1
    omega

/-- A tick between two updates sends what it copied. -/
theorem quiet_tick_is_sent :
    ∃ state, (∃ sent, sample standing Mapping.readLen idRf2 state = some sent) ∧
      NeverTorn standing Mapping.readLen idRf2 state := by
  have telemetry : (system Mapping.readLen).ReachableUnder (Undisturbed Mapping.readLen)
      (both (copyMany (settled (telemetryByte redline8200)) telemetryLen) (settled scoringByte)) :=
    reachable_telemetry telemetryLen (.of_initial initial_sessionStart) (by decide)
      fun _ => undisturbed_of_idle (fun mapping => by cases mapping <;> rfl)
  have whole : (copyMany (settled (telemetryByte redline8200)) telemetryLen).copied.length =
      telemetryLen := by
    rw [length_copyMany, settled, List.length_nil, Nat.zero_add]
  have last := reachable_scoring scoringLen telemetry (by rw [whole]; decide) (by decide)
    fun _ => undisturbed_of_idle (fun mapping => by cases mapping <;> rfl)
  refine ⟨_, ?_, undisturbed_tick_is_never_torn standing idRf2 last⟩
  rcases decode_session standing idRf2 redline8200 0x40C0040000000000
    (by decide) (by decide) (by decide) with ⟨sent, decoded, -⟩
  rw [← bytes_copyMany_settled (telemetryByte_blank redline8200) telemetryLen,
    ← sample_copied standing idRf2 whole] at decoded
  exact ⟨sent, decoded⟩

theorem overtaken_of_step {mapping : Mapping}
    (tagged : (state mapping).WellTagged (regionSize mapping))
    (overtaken : (state mapping).Overtaken (copyLength regionSize mapping))
    (stepped : step regionSize state event = some next) :
    (next mapping).WellTagged (regionSize mapping) ∧
      (next mapping).Overtaken (copyLength regionSize mapping) := by
  rcases step_cases stepped with ⟨target, access, buffer, -, accessed, rfl⟩
  by_cases same : mapping = target
  · subst same
    rw [Function.update_self]
    exact ⟨tagged.access accessed, overtaken.access tagged (copyLength_le mapping) accessed⟩
  · rw [Function.update_of_ne same]
    exact ⟨tagged, overtaken⟩

theorem overtaken_of_run (mapping : Mapping) {last : State}
    (tagged : (state mapping).WellTagged (regionSize mapping))
    (overtaken : (state mapping).Overtaken (copyLength regionSize mapping))
    (run : Relation.ReflTransGen ((system regionSize).StepUnder System.anyStep) state last) :
    (last mapping).Overtaken (copyLength regionSize mapping) := by
  suffices both : (last mapping).WellTagged (regionSize mapping) ∧
      (last mapping).Overtaken (copyLength regionSize mapping) from both.2
  induction run with
  | refl => exact ⟨tagged, overtaken⟩
  | tail _ stepped ih =>
      rcases stepped with ⟨event, -, stepped⟩
      exact overtaken_of_step ih.1 ih.2 stepped

theorem finished_of_sample {unit : Rounding} {gameId : String} {sent : RelayTelemetry}
    (sampled : sample unit regionSize gameId state = some sent) (mapping : Mapping) :
    copyLength regionSize mapping ≤ (state mapping).copied.length := by
  have finished := (decoded_of_sample sampled).1
  simp only [copying] at finished
  split at finished
  · cases finished
  · rename_i telemetry
    split at finished
    · cases finished
    · rename_i scoring
      cases mapping with
      | telemetry => exact Nat.le_of_not_lt telemetry
      | scoring => exact Nat.le_of_not_lt scoring

/-- Once an update stores ahead of the copy, whatever the tick still sends is torn. -/
theorem store_ahead_tears {unit : Rounding} {gameId : String} {mapping : Mapping} {offset : ℕ}
    {value : UInt8} {last : State} {sent : RelayTelemetry}
    (reachable : (system regionSize).ReachableUnder (Undisturbed regionSize) state)
    (clean : readWasClean (bytes (state mapping)) = true)
    (reading : headerLength < (state mapping).copied.length)
    (uncopied : (state mapping).copied.length ≤ offset)
    (inside : offset < copyLength regionSize mapping)
    (stepped : step regionSize state (.store mapping offset value) = some next)
    (run : Relation.ReflTransGen ((system regionSize).StepUnder System.anyStep) next last)
    (sampled : sample unit regionSize gameId last = some sent) :
    ¬(last mapping).OfOneUpdate := by
  have kept := kept_of_reachable reachable mapping
  rcases step_cases stepped with ⟨target, access, buffer, aimed, accessed, rfl⟩
  cases aimed
  have overtaken := (kept.reading clean reading).store_ahead kept.tagged reading uncopied inside
    accessed
  have later := overtaken_of_run mapping (by
    rw [Function.update_self]
    exact kept.tagged.access accessed) (by rwa [Function.update_self]) run
  exact later.not_ofOneUpdate (finished_of_sample sampled mapping)

/-- A redline that an update sets while the tick copies is sent with the engine speed of the
update before. -/
theorem redline_of_another_update :
    ¬∀ (unit : Rounding) (regionSize : Mapping → ℕ) (gameId : String) (state : State),
      (system regionSize).Reachable state → NeverTorn unit regionSize gameId state := by
  intro law
  have front : (system Mapping.readLen).Reachable
      (both (copyMany (settled (telemetryByte redline8200)) 548) (settled scoringByte)) :=
    reachable_telemetry 548 (.of_initial initial_sessionStart) (by decide) fun _ => trivial
  have changed := front.run (run_redlineChanged (settled scoringByte))
    (System.runMeets_anyStep _ _)
  have length : (redlineChanged 548).copied.length = 548 := length_copyMany _ 548
  have telemetry := reachable_telemetry (telemetryLen - 548) changed
    (by rw [length]; decide) fun _ => trivial
  have whole : (copyMany (redlineChanged 548) (telemetryLen - 548)).copied.length =
      telemetryLen := by
    rw [length_copyMany, length]
    exact Nat.add_sub_cancel' (by decide)
  have last := reachable_scoring scoringLen telemetry (by rw [whole]; decide) (by decide)
    fun _ => trivial
  rcases decode_session standing idRf2 redline9000 0x40C1940000000000
    (by decide) (by decide) (by decide) with ⟨sent, decoded, -⟩
  rw [← bytes_redlineChanged, ← sample_copied standing idRf2 whole] at decoded
  rcases law standing _ idRf2 _ last sent decoded .telemetry with ⟨update, completed, copied⟩
  have redline := copied 553 ((redlineChanged 548).cellAt 553) (by decide)
    (getElem?_copyMany (by rw [length]; decide) (by rw [length]; decide))
  have early : update ≤ 0 := completed
  have torn : 1 = update := redline
  omega

end TrueForce.Relay.RFactor2
