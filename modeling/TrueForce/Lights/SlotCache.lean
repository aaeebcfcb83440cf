import TrueForce.Foundation.CString
import TrueForce.Foundation.Transition
import Mathlib.Logic.Function.Basic
import Mathlib.Tactic.IntervalCases

/-!
# The slot cache of the light strip

The wheel keeps a direction and ten colours for each of five custom slots; the driver
keeps a copy in `led_slots` and says with `config_cached` that the copy is the wheel's.
A store reads the slot from the wheel if it has to, stages the new value in the copy,
sends the copy and takes the value back if the wheel refuses it.

A HID++ command that fails changes nothing on the wheel.  Of the commands that
`hidpp_dd_lightsync_apply_slot` sends, only the upload of the configuration is kept:
the others select, commit and refresh what the strip shows, and their results are
ignored.
-/

namespace TrueForce.Lights.SlotCache

open TrueForce.CString TrueForce.Transition

abbrev numSlots : ℕ := 5

abbrev numLeds : ℕ := 10

abbrev LedBytes := Fin (numLeds * 3) → UInt8

inductive Errno where
  | inval
  | range
  | opNotSupp
  | proto
  | io
  | transport (code : ℕ)
  deriving DecidableEq, Repr

/-- What a HID++ command returns besides success. -/
inductive HidppError where
  | hidpp (code : UInt8)
  | transport (code : ℕ)
  deriving DecidableEq, Repr

def hidppErrno : HidppError → Errno
  | .hidpp _ => .io
  | .transport code => .transport code

def numberErrno : NumberError → Errno
  | .invalid => .inval
  | .range => .range

def dirToWire (dir : ℕ) : ℕ :=
  match dir with
  | 0 => 3
  | 1 => 4
  | 2 => 1
  | 3 => 2
  | _ => 3

def wireToDir (wire : ℕ) : ℕ :=
  match wire with
  | 1 => 2
  | 2 => 3
  | 3 => 0
  | 4 => 1
  | _ => 0

theorem dirToWire_valid (dir : ℕ) : 1 ≤ dirToWire dir ∧ dirToWire dir ≤ 4 := by
  simp only [dirToWire]
  split <;> decide

theorem wireToDir_lt (wire : ℕ) : wireToDir wire < 4 := by
  simp only [wireToDir]
  split <;> decide

theorem wireToDir_dirToWire {dir : ℕ} (valid : dir < 4) : wireToDir (dirToWire dir) = dir := by
  interval_cases dir <;> rfl

theorem dirToWire_wireToDir {wire : ℕ} (valid : 1 ≤ wire ∧ wire ≤ 4) :
    dirToWire (wireToDir wire) = wire := by
  rcases valid with ⟨low, high⟩
  interval_cases wire <;> rfl

/-- The ten colours in the other order, as both directions of the wire copy them. -/
def reverseLeds (colors : LedBytes) : LedBytes := fun byte =>
  colors ⟨(numLeds - 1 - byte.val / 3) * 3 + byte.val % 3, by omega⟩

theorem reverseLeds_reverseLeds (colors : LedBytes) : reverseLeds (reverseLeds colors) = colors := by
  funext byte
  simp only [reverseLeds]
  congr 1
  apply Fin.ext
  simp only
  omega

/-- A slot as the wheel stores it, its colours from the last LED to the first. -/
structure WheelSlot where
  direction : ℕ
  colors : LedBytes
  valid : 1 ≤ direction ∧ direction ≤ 4

structure Slot where
  direction : ℕ
  colors : LedBytes
  configCached : Bool

/-- The driver's default, which is not the wheel's. -/
def Slot.white : Slot := ⟨0, fun _ => 0xFF, false⟩

structure State where
  /-- The wheel has the feature that holds the slots. -/
  rgbConfig : Bool
  lightsync : Bool
  slots : Fin numSlots → Slot
  activeSlot : ℕ
  ledEffect : ℤ
  wheel : Fin numSlots → WheelSlot

/-- The reply to the query of a slot: the slot as stored, that of another frame, or none. -/
inductive GetReply where
  | echoed
  | mismatched
  | failed (error : HidppError)
  deriving DecidableEq, Repr

/-- The replies to the commands of one store. -/
structure Replies where
  get : GetReply
  setEffect : Option HidppError
  setConfig : Option HidppError
  commit : Option HidppError
  deriving DecidableEq, Repr

abbrev Result := State × Except Errno Unit

namespace State

def setSlot (state : State) (slot : Fin numSlots) (value : Slot) : State :=
  { state with slots := Function.update state.slots slot value }

def fetched (state : State) (slot : Fin numSlots) : Slot where
  direction := wireToDir (state.wheel slot).direction
  colors := reverseLeds (state.wheel slot).colors
  configCached := true

/-- `hidpp_dd_lightsync_get_slot_config` -/
def getSlotConfig (state : State) (slot : ℕ) (reply : GetReply) : Result :=
  if inRange : slot < numSlots then
    if !state.rgbConfig then (state, .error .opNotSupp)
    else
      match reply with
      | .failed error => (state, .error (hidppErrno error))
      | .mismatched => (state, .error .proto)
      | .echoed => (state.setSlot ⟨slot, inRange⟩ (state.fetched ⟨slot, inRange⟩), .ok ())
  else (state, .error .inval)

def ensureSlotCached (state : State) (slot : ℕ) (reply : GetReply) : State :=
  if inRange : slot < numSlots then
    if (state.slots ⟨slot, inRange⟩).configCached then state
    else (state.getSlotConfig slot reply).1
  else state

/-- The wheel takes the slot's copy over. -/
def upload (state : State) (slot : Fin numSlots) : State :=
  let current := state.slots slot
  { state.setSlot slot { current with configCached := true } with
    wheel := Function.update state.wheel slot
      ⟨dirToWire current.direction, reverseLeds current.colors, dirToWire_valid _⟩ }

/-- `hidpp_dd_lightsync_apply_slot` -/
def applySlot (state : State) (slot : ℕ) (reply : Option HidppError) : Result :=
  if inRange : slot < numSlots then
    if !state.rgbConfig then (state, .error .opNotSupp)
    else
      match reply with
      | some error => (state, .error (hidppErrno error))
      | none => (state.upload ⟨slot, inRange⟩, .ok ())
  else (state, .error .inval)

/-- Stage a value in the slot's copy, send the copy, and take the value back on an error. -/
def applyStaged (state : State) (slot : Fin numSlots) (stage : Slot → Slot)
    (restore : Slot → Slot → Slot) (replies : Replies) : Result :=
  let cached := state.ensureSlotCached slot replies.get
  let previous := cached.slots slot
  match (cached.setSlot slot (stage previous)).applySlot slot replies.setConfig with
  | (next, .ok ()) => (next, .ok ())
  | (next, .error error) =>
      (next.setSlot slot (restore previous (next.slots slot)), .error error)

/-- What a store does with the slot that `led_active_slot` names. -/
def onActiveSlot (state : State) (store : Fin numSlots → Result) : Result :=
  if inRange : state.activeSlot < numSlots then store ⟨state.activeSlot, inRange⟩
  else (state, .error .range)

def slotStore (state : State) (text : Bytes) (replies : Replies) : Result :=
  match kstrtouint 10 (contents text) with
  | .error error => (state, .error (numberErrno error))
  | .ok slot =>
      if slot < numSlots then
        match (state.ensureSlotCached slot replies.get).applySlot slot replies.setConfig with
        | (next, .ok ()) => ({ next with activeSlot := slot }, .ok ())
        | (next, .error error) => (next, .error error)
      else (state, .error .inval)

def directionStore (state : State) (text : Bytes) (replies : Replies) : Result :=
  match kstrtouint 10 (contents text) with
  | .error error => (state, .error (numberErrno error))
  | .ok dir =>
      if 3 < dir then (state, .error .inval)
      else
        state.onActiveSlot fun slot =>
          state.applyStaged slot (fun staged => { staged with direction := dir })
            (fun previous failed => { failed with direction := previous.direction }) replies

end State

def isBlank (byte : UInt8) : Bool := byte == 0x20 || byte == 0x09

def isSeparator (byte : UInt8) : Bool := isBlank byte || byte == 0x0A

/-- One colour of six hexadecimal digits, and what follows it. -/
def parseColor (text : Bytes) : Except Errno (ℕ × Bytes) :=
  match text.dropWhile isBlank with
  | [] => .error .inval
  | first :: rest =>
      let hex := ((first :: rest).take 6).takeWhile fun byte => !isSeparator byte
      if first = 0x0A ∨ hex.length ≠ 6 then .error .inval
      else
        match kstrtouint 16 hex with
        | .error error => .error (numberErrno error)
        | .ok color => .ok (color, (first :: rest).drop hex.length)

def parseColors : ℕ → Bytes → Except Errno (List ℕ)
  | 0, _ => .ok []
  | count + 1, text =>
      match parseColor text with
      | .error error => .error error
      | .ok (color, rest) =>
          match parseColors count rest with
          | .error error => .error error
          | .ok colors => .ok (color :: colors)

/-- Red, green and blue of each colour in turn. -/
def colorBytes (colors : List ℕ) : LedBytes := fun byte =>
  UInt8.ofNat (colors.getD (byte.val / 3) 0 >>> (16 - 8 * (byte.val % 3)))

namespace State

def colorsStore (state : State) (text : Bytes) (replies : Replies) : Result :=
  match parseColors numLeds (contents text) with
  | .error error => (state, .error error)
  | .ok colors =>
      state.onActiveSlot fun slot =>
        state.applyStaged slot (fun staged => { staged with colors := colorBytes colors })
          (fun previous failed => { failed with colors := previous.colors }) replies

def applyStore (state : State) (replies : Replies) : Result :=
  state.onActiveSlot fun slot =>
    (state.ensureSlotCached slot replies.get).applySlot slot replies.setConfig

/-- The effects 6 to 9 are the slots 1 to 4. -/
def selectSlot (state : State) (effect : ℤ) (reply : GetReply) : State :=
  if 6 ≤ effect ∧ effect ≤ 4 + numSlots then
    (getSlotConfig { state with activeSlot := (effect - 5).toNat } (effect - 5).toNat reply).1
  else state

/-- `wheel_led_effect_store` behind its SET_EFFECT: the effect 5 shows the active slot, and the
others are committed. -/
def showEffect (state : State) (effect : ℤ) (replies : Replies) : Result :=
  let selected := state.selectSlot effect replies.get
  if effect = 5 then
    if selected.activeSlot < numSlots then
      (selected.ensureSlotCached selected.activeSlot replies.get).applySlot selected.activeSlot
        replies.setConfig
    else (selected, .ok ())
  else
    match replies.commit with
    | some error => (selected, .error (hidppErrno error))
    | none => (selected, .ok ())

def effectStore (state : State) (text : Bytes) (replies : Replies) : Result :=
  match kstrtoint 10 (contents text) with
  | .error error => (state, .error (numberErrno error))
  | .ok requested =>
      if !state.lightsync then (state, .error .opNotSupp)
      else
        let effect := min (max requested 1) 9
        match replies.setEffect with
        | some error => (state, .error (hidppErrno error))
        | none => showEffect { state with ledEffect := effect } effect replies

/-- The wheel announces an effect of its own choice. -/
def effectBroadcast (state : State) (effect : ℕ) : State :=
  if 1 ≤ effect ∧ effect ≤ 9 then
    { state with
      ledEffect := effect
      activeSlot := if 6 ≤ effect then effect - 5 else state.activeSlot }
  else state

end State

inductive Event where
  | slotStore (text : Bytes) (replies : Replies)
  | directionStore (text : Bytes) (replies : Replies)
  | colorsStore (text : Bytes) (replies : Replies)
  | applyStore (replies : Replies)
  | effectStore (text : Bytes) (replies : Replies)
  /-- One slot of `hidpp_dd_lightsync_query_slot_configs`. -/
  | query (slot : ℕ) (reply : GetReply)
  /-- The initial upload of the active slot. -/
  | initialApply (reply : Option HidppError)
  | effectBroadcast (effect : ℕ)

namespace State

def perform (state : State) : Event → Result
  | .slotStore text replies => state.slotStore text replies
  | .directionStore text replies => state.directionStore text replies
  | .colorsStore text replies => state.colorsStore text replies
  | .applyStore replies => state.applyStore replies
  | .effectStore text replies => state.effectStore text replies
  | .query slot reply => state.getSlotConfig slot reply
  | .initialApply reply => state.applySlot state.activeSlot reply
  | .effectBroadcast effect => (state.effectBroadcast effect, .ok ())

def start (rgbConfig lightsync : Bool) (wheel : Fin numSlots → WheelSlot) : State where
  rgbConfig := rgbConfig
  lightsync := lightsync
  slots := fun _ => .white
  activeSlot := 0
  ledEffect := 5
  wheel := wheel

/-- The copy of a slot is what the wheel stores, read and written through the wire. -/
structure CachesWheel (state : State) (slot : Fin numSlots) : Prop where
  direction : (state.slots slot).direction = wireToDir (state.wheel slot).direction
  wire : dirToWire (state.slots slot).direction = (state.wheel slot).direction
  colors : (state.slots slot).colors = reverseLeds (state.wheel slot).colors

def Coherent (state : State) : Prop :=
  ∀ slot, (state.slots slot).configCached = true → state.CachesWheel slot

/-- An event that ends in an error leaves every copy as it was, or as the wheel stores it. -/
def FailsClean (state : State) (event : Event) : Prop :=
  ∀ error, (state.perform event).2 = .error error → ∀ slot,
    (((state.perform event).1.slots slot).direction = (state.slots slot).direction ∧
      ((state.perform event).1.slots slot).colors = (state.slots slot).colors) ∨
    (state.perform event).1.CachesWheel slot

end State

def slotCache : System State Event where
  initial state := ∃ rgbConfig lightsync wheel, state = State.start rgbConfig lightsync wheel
  step state event := some (state.perform event).1

namespace State

variable {state middle next : State} {slot : Fin numSlots} {value : Slot}

/-- Queries have filled copies from the wheel, which is as it was. -/
structure Fetched (state next : State) : Prop where
  wheel : next.wheel = state.wheel
  slots : ∀ slot, next.slots slot = state.slots slot ∨ next.slots slot = state.fetched slot

theorem Fetched.refl (state : State) : Fetched state state := ⟨rfl, fun _ => Or.inl rfl⟩

/-- What every run keeps. -/
structure Sound (state : State) : Prop where
  coherent : state.Coherent
  directions : ∀ slot, (state.slots slot).direction < 4

theorem fetched_cachesWheel (wheel : next.wheel = state.wheel)
    (slots : next.slots slot = state.fetched slot) : next.CachesWheel slot where
  direction := by rw [slots, wheel, fetched]
  wire := by
    rw [slots, wheel]
    exact dirToWire_wireToDir (state.wheel slot).valid
  colors := by rw [slots, wheel, fetched]

theorem CachesWheel.of_same (caches : state.CachesWheel slot)
    (slots : next.slots slot = state.slots slot) (wheel : next.wheel slot = state.wheel slot) :
    next.CachesWheel slot where
  direction := by
    rw [slots, wheel]
    exact caches.direction
  wire := by
    rw [slots, wheel]
    exact caches.wire
  colors := by
    rw [slots, wheel]
    exact caches.colors

theorem Fetched.sound (fetched : Fetched state next) (sound : state.Sound) : next.Sound := by
  constructor
  · intro slot cached
    rcases fetched.slots slot with same | read
    · rw [same] at cached
      exact (sound.coherent slot cached).of_same same (by rw [fetched.wheel])
    · exact fetched_cachesWheel fetched.wheel read
  · intro slot
    rcases fetched.slots slot with same | read
    · rw [same]
      exact sound.directions slot
    · rw [read]
      exact wireToDir_lt _

theorem Fetched.trans (first : Fetched state middle) (second : Fetched middle next) :
    Fetched state next := by
  refine ⟨second.wheel.trans first.wheel, fun slot => ?_⟩
  have same : middle.fetched slot = state.fetched slot := by simp only [fetched, first.wheel]
  rcases second.slots slot with kept | read
  · rw [kept]
    exact first.slots slot
  · right
    rw [read, same]

theorem Sound.of_frame (sound : state.Sound) (slots : next.slots = state.slots)
    (wheel : next.wheel = state.wheel) : next.Sound := by
  constructor
  · intro slot cached
    rw [slots] at cached
    exact (sound.coherent slot cached).of_same (by rw [slots]) (by rw [wheel])
  · rw [slots]
    exact sound.directions

theorem getSlotConfig_fetched (state : State) (slot : ℕ) (reply : GetReply) :
    Fetched state (state.getSlotConfig slot reply).1 := by
  simp only [getSlotConfig]
  split
  · rename_i inRange
    split
    · exact .refl state
    · split
      · exact .refl state
      · exact .refl state
      · refine ⟨rfl, fun other => ?_⟩
        by_cases same : other = ⟨slot, inRange⟩
        · subst same
          right
          simp [setSlot]
        · left
          simp [setSlot, same]
  · exact .refl state

theorem ensureSlotCached_fetched (state : State) (slot : ℕ) (reply : GetReply) :
    Fetched state (state.ensureSlotCached slot reply) := by
  simp only [ensureSlotCached]
  split
  · split
    · exact .refl state
    · exact state.getSlotConfig_fetched slot reply
  · exact .refl state

/-- The upload of a staged copy makes it the wheel's. -/
theorem upload_sound (sound : state.Sound) (valid : value.direction < 4) :
    ((state.setSlot slot value).upload slot).Sound := by
  constructor
  · intro other cached
    by_cases same : other = slot
    · subst same
      constructor
      · simp [upload, setSlot, wireToDir_dirToWire valid]
      · simp [upload, setSlot]
      · simp [upload, setSlot, reverseLeds_reverseLeds]
    · have sameSlots : ((state.setSlot slot value).upload slot).slots other = state.slots other := by
        simp [upload, setSlot, same]
      rw [sameSlots] at cached
      refine (sound.coherent other cached).of_same sameSlots ?_
      simp [upload, setSlot, same]
  · intro other
    by_cases same : other = slot
    · subst same
      simpa [upload, setSlot] using valid
    · simpa [upload, setSlot, same] using sound.directions other

/-- What an event comes to: queries at most, or an upload behind them that succeeds. -/
inductive Outcome (state : State) : Result → Prop where
  | read (next : State) (answer : Except Errno Unit) : Fetched state next →
      Outcome state (next, answer)
  | sent (middle next : State) (slot : Fin numSlots) (value : Slot) : Fetched state middle →
      value.direction < 4 → next.slots = ((middle.setSlot slot value).upload slot).slots →
      next.wheel = ((middle.setSlot slot value).upload slot).wheel → Outcome state (next, .ok ())

theorem Outcome.sound {result : Result} (outcome : Outcome state result) (sound : state.Sound) :
    result.1.Sound := by
  cases outcome with
  | read next answer fetched => exact fetched.sound sound
  | sent middle next slot value fetched valid slots wheel =>
      have uploaded : ((middle.setSlot slot value).upload slot).Sound :=
        upload_sound (fetched.sound sound) valid
      exact uploaded.of_frame slots wheel

theorem applySlot_outcome (sound : state.Sound) (fetched : Fetched state middle) (slot : ℕ)
    (reply : Option HidppError) : Outcome state (middle.applySlot slot reply) := by
  simp only [applySlot]
  split
  · rename_i inRange
    split
    · exact .read _ _ fetched
    · split
      · exact .read _ _ fetched
      · apply Outcome.sent middle _ ⟨slot, inRange⟩ (middle.slots ⟨slot, inRange⟩) fetched
        · exact (fetched.sound sound).directions _
        · simp [setSlot]
        · simp [setSlot]
  · exact .read _ _ fetched

theorem setSlot_restored (state : State) (slot : Fin numSlots) (staged : Slot) :
    (state.setSlot slot staged).setSlot slot (state.slots slot) = state := by
  simp [setSlot]

/-- The value that a failed upload had staged is taken back. -/
theorem applyStaged_outcome {stage : Slot → Slot} {restore : Slot → Slot → Slot}
    (replies : Replies) (sound : state.Sound)
    (valid : ∀ previous : Slot, previous.direction < 4 → (stage previous).direction < 4)
    (restores : ∀ previous, restore previous (stage previous) = previous) (slot : Fin numSlots) :
    Outcome state (state.applyStaged slot stage restore replies) := by
  have fetched := state.ensureSlotCached_fetched slot replies.get
  have refused (error : Errno) : Outcome state
      (((state.ensureSlotCached slot replies.get).setSlot slot
          (stage ((state.ensureSlotCached slot replies.get).slots slot))).setSlot slot
        (restore ((state.ensureSlotCached slot replies.get).slots slot)
          (stage ((state.ensureSlotCached slot replies.get).slots slot))), .error error) := by
    rw [restores, setSlot_restored]
    exact .read _ _ fetched
  simp only [applyStaged, applySlot, Fin.is_lt, ↓reduceDIte]
  split
  · rename_i next outcome
    split at outcome
    · cases outcome
    · split at outcome
      · cases outcome
      · cases outcome
        apply Outcome.sent _ _ slot _ fetched
        · exact valid _ ((fetched.sound sound).directions slot)
        · rfl
        · rfl
  · rename_i next error outcome
    have staged : next = (state.ensureSlotCached slot replies.get).setSlot slot
        (stage ((state.ensureSlotCached slot replies.get).slots slot)) := by
      split at outcome
      · cases outcome
        rfl
      · split at outcome
        · cases outcome
          rfl
        · cases outcome
    subst staged
    simpa [setSlot] using refused error

theorem onActiveSlot_outcome {store : Fin numSlots → Result}
    (stores : ∀ slot, Outcome state (store slot)) : Outcome state (state.onActiveSlot store) := by
  simp only [onActiveSlot]
  split
  · exact stores _
  · exact .read _ _ (.refl state)

/-- Which slot is active and which effect is shown do not matter. -/
theorem Outcome.of_frame {shown : State} {result : Result} (outcome : Outcome shown result)
    (slots : shown.slots = state.slots) (wheel : shown.wheel = state.wheel) :
    Outcome state result := by
  have fetched (next : State) (fetched : Fetched shown next) : Fetched state next := by
    constructor
    · rw [fetched.wheel, wheel]
    · intro slot
      have read := fetched.slots slot
      simpa [State.fetched, slots, wheel] using read
  cases outcome with
  | read next answer read => exact .read next answer (fetched next read)
  | sent middle next slot value read valid nextSlots nextWheel =>
      exact .sent middle next slot value (fetched middle read) valid nextSlots nextWheel

theorem slotStore_outcome (sound : state.Sound) (text : Bytes) (replies : Replies) :
    Outcome state (state.slotStore text replies) := by
  simp only [slotStore]
  split
  · exact .read _ _ (.refl state)
  · rename_i slot parsed
    split
    · have applied := applySlot_outcome sound (state.ensureSlotCached_fetched slot replies.get) slot
        replies.setConfig
      split
      · rename_i next outcome
        rw [outcome] at applied
        cases applied with
        | read _ _ fetched => exact .read _ _ ⟨fetched.wheel, fetched.slots⟩
        | sent middle _ slot value fetched valid slots wheel =>
            exact .sent middle _ slot value fetched valid slots wheel
      · rename_i next error outcome
        rw [outcome] at applied
        exact applied
    · exact .read _ _ (.refl state)

theorem showEffect_outcome (sound : state.Sound) (effect : ℤ) (replies : Replies) :
    Outcome state (state.showEffect effect replies) := by
  have selected : Fetched state (state.selectSlot effect replies.get) := by
    simp only [selectSlot]
    split
    · have read := getSlotConfig_fetched { state with activeSlot := (effect - 5).toNat }
        (effect - 5).toNat replies.get
      exact ⟨read.wheel, read.slots⟩
    · exact .refl state
  simp only [showEffect]
  split
  · split
    · apply applySlot_outcome sound
      exact selected.trans (ensureSlotCached_fetched _ _ replies.get)
    · exact .read _ _ selected
  · split <;> exact .read _ _ selected

theorem perform_outcome (sound : state.Sound) (event : Event) :
    Outcome state (state.perform event) := by
  cases event with
  | slotStore text replies => exact slotStore_outcome sound text replies
  | directionStore text replies =>
      simp only [perform, directionStore]
      split
      · exact .read _ _ (.refl state)
      · split
        · exact .read _ _ (.refl state)
        · rename_i inRange
          apply onActiveSlot_outcome
          apply applyStaged_outcome replies sound
          · intro previous _
            simp only
            omega
          · intro previous
            rfl
  | colorsStore text replies =>
      simp only [perform, colorsStore]
      split
      · exact .read _ _ (.refl state)
      · apply onActiveSlot_outcome
        apply applyStaged_outcome replies sound
        · intro previous valid
          exact valid
        · intro previous
          rfl
  | applyStore replies =>
      simp only [perform, applyStore]
      apply onActiveSlot_outcome
      intro slot
      exact applySlot_outcome sound (state.ensureSlotCached_fetched slot replies.get) slot
        replies.setConfig
  | effectStore text replies =>
      simp only [perform, effectStore]
      split
      · exact .read _ _ (.refl state)
      · split
        · exact .read _ _ (.refl state)
        · split
          · exact .read _ _ (.refl state)
          · refine Outcome.of_frame (showEffect_outcome ?_ _ replies) rfl rfl
            exact sound.of_frame rfl rfl
  | query slot reply => exact .read _ _ (state.getSlotConfig_fetched slot reply)
  | initialApply reply => exact applySlot_outcome sound (.refl state) _ reply
  | effectBroadcast effect =>
      simp only [perform, effectBroadcast]
      split
      · exact .read _ _ ⟨rfl, fun _ => Or.inl rfl⟩
      · exact .read _ _ (.refl state)

/-- An error comes with queries at most. -/
theorem Outcome.failsClean {event : Event} (outcome : Outcome state (state.perform event)) :
    state.FailsClean event := by
  intro error failed slot
  cases performed : state.perform event with
  | mk next answer =>
      rw [performed] at outcome failed
      cases outcome with
      | read _ _ fetched =>
          rcases fetched.slots slot with same | read
          · left
            simp [same]
          · right
            exact fetched_cachesWheel fetched.wheel read
      | sent => cases failed

end State

/-- In every run, each copy that is said to be the wheel's is the wheel's, and a store that fails
leaves every copy as it was or as the wheel stores it. -/
theorem slot_cache_coherent {state : State} (reachable : slotCache.Reachable state) :
    state.Coherent ∧ ∀ event, state.FailsClean event := by
  have sound : state.Sound := by
    apply System.ReachableUnder.invariant reachable
    · rintro start ⟨rgbConfig, lightsync, wheel, rfl⟩
      constructor
      · intro slot cached
        cases cached
      · intro slot
        exact Nat.zero_lt_succ 3
    · intro current event next sound _ stepped
      cases stepped
      exact (State.perform_outcome sound event).sound sound
  exact ⟨sound.coherent, fun event => (State.perform_outcome sound event).failsClean⟩

def Replies.ok : Replies := ⟨.echoed, none, none, none⟩

def WheelSlot.dark : WheelSlot := ⟨1, fun _ => 0, by decide⟩

/-- A direction is stored, and a colour store behind it is refused: the copy holds the direction
and the wheel's colours. -/
theorem slot_cache_coherent_refused : ∃ state : State,
    (state.Coherent ∧ ∀ event, state.FailsClean event) ∧
      (state.slots 0).direction = 3 ∧ (state.slots 0).configCached = true := by
  have reached := System.ReachableUnder.of_check slotCache System.anyStep
    (State.start true true fun _ => .dark)
    [.directionStore [0x33] .ok,
      .colorsStore [0x46, 0x46, 0x46, 0x46, 0x46, 0x46] .ok,
      .applyStore { Replies.ok with setConfig := some (.hidpp 5) }]
    (fun state => (state.slots 0).direction == 3 && (state.slots 0).configCached)
    ⟨true, true, _, rfl⟩ (by decide) (System.runMeets_anyStep _ _)
  rcases reached with ⟨state, reachable, checked⟩
  simp only [Bool.and_eq_true, beq_iff_eq] at checked
  exact ⟨state, slot_cache_coherent reachable, checked⟩

end TrueForce.Lights.SlotCache
