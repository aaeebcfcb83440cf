import TrueForce.Foundation.ByteBuffer
import TrueForce.Stream.Provenance
import TrueForce.Stream.Tick

/-!
# What the packets of a stream say

The wire shapes of the stream's packets, and what a score of the ticks shows of
them: which window a tick found, which samples it drained, what it handed to the
wheel and which window it left.  A packet with samples declares exactly those its
tick drained, so that the declared samples and the silent blocks are the drained
samples again.
-/

namespace TrueForce.Stream

open TrueForce.Foundation TrueForce.Transition TrueForce.ByteBuffer

/-- One window slot, or the force: a sample in both halves. -/
def duplicated (sample : UInt16) : Bytes := le16 sample ++ le16 sample

def packetHeader (type seq : UInt8) : Bytes := [0x01, 0, 0, 0, type, seq]

/-- `logitf_build_stream_packet`. -/
def buildStreamPacket (seq : UInt8) (current : UInt16) (window : List UInt16)
    (newCount : UInt8) : Bytes :=
  packetHeader 0x01 seq ++ duplicated current ++ [newCount, 0x0d] ++ window.flatMap duplicated

/-- `logitf_build_idle_packet`. -/
def buildIdlePacket (seq : UInt8) (current : UInt16) : Bytes :=
  packetHeader 0x01 seq ++ duplicated current ++ List.replicate 54 0

/-- `logitf_build_ctrl_packet`. -/
def buildCtrlPacket (type seq : UInt8) : Bytes := packetHeader type seq ++ List.replicate 58 0

/-- The 64 bytes of a packet; the init packets come from a table of their own. -/
def Packet.build : Packet → Option Bytes
  | .init _ => none
  | .stream seq current window newCount => some (buildStreamPacket seq current window newCount)
  | .idle seq current => some (buildIdlePacket seq current)
  | .ctrl type seq => some (buildCtrlPacket type seq)

def Packet.isControl : Packet → Bool
  | .ctrl _ _ => true
  | _ => false

/-- The window in a packet, oldest slot first. -/
def windowSlots (bytes : Bytes) : List Bytes := chunks bytes 12 4 logitfTfWindow

/-- How many of the newest slots a packet declares as new. -/
def newCountOf (bytes : Bytes) : ℕ := (bytes.getD 10 0).toNat

def declaredNew (bytes : Bytes) : List UInt16 :=
  ((windowSlots bytes).drop (logitfTfWindow - newCountOf bytes)).map readLe16

theorem length_duplicated (sample : UInt16) : (duplicated sample).length = 4 := rfl

theorem readLe16_duplicated (sample : UInt16) : readLe16 (duplicated sample) = sample :=
  readLe16_le16 sample _

section Built

variable {seq newCount type : UInt8} {current : UInt16} {window : List UInt16}

theorem windowSlots_stream (full : window.length = logitfTfWindow) :
    windowSlots (buildStreamPacket seq current window newCount) = window.map duplicated := by
  rw [windowSlots, ← full]
  exact chunks_flatMap length_duplicated rfl

theorem length_stream (full : window.length = logitfTfWindow) :
    (buildStreamPacket seq current window newCount).length = 64 := by
  rw [buildStreamPacket, List.length_append, length_flatMap length_duplicated, full]
  rfl

theorem declaredNew_stream (full : window.length = logitfTfWindow) :
    declaredNew (buildStreamPacket seq current window newCount) =
      window.drop (logitfTfWindow - newCount.toNat) := by
  have count : newCountOf (buildStreamPacket seq current window newCount) = newCount.toNat := rfl
  have read : readLe16 ∘ duplicated = id := funext readLe16_duplicated
  rw [declaredNew, windowSlots_stream full, count, ← List.map_drop, List.map_map, read, List.map_id]

theorem declaredNew_of_zero {bytes : Bytes} (zero : newCountOf bytes = 0) :
    declaredNew bytes = [] := by
  rw [declaredNew, zero, List.drop_eq_nil_of_le, List.map_nil]
  simp [windowSlots, chunks]

end Built

/-- What one tick found, drained, handed to the wheel and left. -/
structure TickNote where
  window : List UInt16
  drained : List UInt16
  packets : List Packet
  left : List UInt16
  deriving DecidableEq, Repr

structure Score where
  /-- The ticks so far, newest first. -/
  ticks : List TickNote
  /-- What the ticks have taken from the ring. -/
  drained : List UInt16
  deriving DecidableEq, Repr

def Score.empty : Score := ⟨[], []⟩

/-- Note a section of a tick.  The packets are the ones handed to `write`, whether or
not the wheel takes them; a tick that a pause has asked for a teardown drains nothing. -/
def Score.record (score : Score) (before after : State) : Event → Score
  | .tick _ =>
      if before.device.tfTeardownPending then
        { score with
          ticks :=
            { window := before.device.tfWindow
              drained := []
              packets := (before.device.stopClear .accepted).2.1
              left := after.device.tfWindow } :: score.ticks }
      else score
  | .tickDrain _ =>
      match after.thread with
      | .emitting _ _ newSamples => { score with drained := score.drained ++ newSamples }
      | _ => score
  | .tickEmit _ =>
      match before.thread with
      | .emitting paused armedIdle newSamples =>
          { score with
            ticks :=
              { window := before.device.tfWindow
                drained := newSamples
                packets := (before.device.tickEmit paused armedIdle newSamples .accepted).2.1
                left := after.device.tfWindow } :: score.ticks }
      | _ => score
  | .tickArm _ =>
      match score.ticks with
      | note :: earlier =>
          { score with
            ticks :=
              { note with packets := note.packets ++ (before.device.stopArm .accepted).2.1 } ::
                earlier }
      | [] => score
  | _ => score

/-- A stream in play: its thread waits for the timer and no pause holds it. -/
structure State.Streaming (state : State) : Prop where
  reachable : stream.Reachable state
  polling : state.thread = .polling
  isOpen : state.device.hidrawOpen = true
  unpaused : state.device.tfPaused = false

/-- The score kept from some moment of a stream on. -/
def scored : System (State × Score) Event where
  initial view := view.1.Streaming ∧ view.2 = Score.empty
  step view event :=
    (view.1.step event).map fun next => (next, view.2.record view.1 next event)

def Event.ofPush : Event → Bool
  | .push _ | .pushCopy _ => true
  | _ => false

/-- Pushes and ticks, section by section. -/
def Event.plays (event : Event) : Prop := event.ofPush = true ∨ event.ofTick = true

instance (event : Event) : Decidable event.plays :=
  inferInstanceAs (Decidable (_ ∨ _))

/-- The samples a tick under way has drained and not sent yet. -/
def State.inFlight (state : State) : List UInt16 :=
  match state.thread with
  | .emitting _ _ newSamples => newSamples
  | _ => []

namespace TickNote

def declared (note : TickNote) : List UInt16 :=
  note.packets.flatMap fun packet => (packet.build.map declaredNew).getD []

/-- The declared samples, or else the silent block in their place. -/
def accounted (note : TickNote) : List UInt16 :=
  if note.declared = [] then List.replicate note.drained.length centre else note.declared

/-- What a packet of this tick says, byte by byte. -/
structure Reads (note : TickNote) (bytes : Bytes) : Prop where
  length : bytes.length = 64
  /-- No new samples, nothing to play. -/
  none : newCountOf bytes = 0 → bytes.drop 10 = List.replicate 54 0
  some : newCountOf bytes ≠ 0 →
    newCountOf bytes = note.drained.length ∧ note.drained.length ≤ 12 ∧
      windowSlots bytes =
        (note.window.drop note.drained.length ++ note.drained).map duplicated ∧
      Option.some ((bytes.drop 6).take 4) = (windowSlots bytes).getLast?

structure Lawful (note : TickNote) : Prop where
  full : note.window.length = logitfTfWindow
  single : note.packets.length ≤ 1 ∨ ∀ packet ∈ note.packets, packet.isControl = true
  reads : ∀ packet ∈ note.packets, ∃ bytes, packet.build = some bytes ∧ note.Reads bytes
  accounted : note.accounted = note.drained

end TickNote

structure Score.Lawful (score : Score) (inFlight : List UInt16) : Prop where
  ticks : ∀ note ∈ score.ticks, note.Lawful
  /-- A tick finds the window as the tick before it left it. -/
  chain : List.IsChain (fun later earlier : TickNote => later.window = earlier.left) score.ticks
  drained : score.drained = score.ticks.reverse.flatMap TickNote.accounted ++ inFlight

namespace TickNote

variable {note : TickNote}

theorem Reads.of_silent {bytes : Bytes} (length : bytes.length = 64)
    (quiet : bytes.drop 10 = List.replicate 54 0) : note.Reads bytes := by
  have zero : newCountOf bytes = 0 := by
    have first : (bytes.drop 10)[0]? = Option.some 0 := by
      rw [quiet]
      rfl
    rw [List.getElem?_drop] at first
    rw [newCountOf, List.getD_eq_getElem?_getD, first]
    rfl
  exact ⟨length, fun _ => quiet, fun nonzero => absurd zero nonzero⟩

theorem reads_idle (seq : UInt8) (current : UInt16) : note.Reads (buildIdlePacket seq current) :=
  .of_silent rfl rfl

theorem reads_ctrl (type seq : UInt8) : note.Reads (buildCtrlPacket type seq) :=
  .of_silent rfl rfl

theorem reads_stream (full : note.window.length = logitfTfWindow) (some : note.drained ≠ [])
    (few : note.drained.length ≤ logitfTfCatchupMax) (seq : UInt8) :
    note.Reads (buildStreamPacket seq
      ((note.window.drop note.drained.length ++ note.drained).getLast?.getD centre)
      (note.window.drop note.drained.length ++ note.drained)
      (UInt8.ofNat note.drained.length)) := by
  have cap : logitfTfCatchupMax = 12 := rfl
  have width : logitfTfWindow = 13 := rfl
  have window : (note.window.drop note.drained.length ++ note.drained).length =
      logitfTfWindow := by
    rw [List.length_append, List.length_drop, full]
    omega
  have nonempty : note.window.drop note.drained.length ++ note.drained ≠ [] :=
    List.append_ne_nil_of_right_ne_nil _ some
  have count : (UInt8.ofNat note.drained.length).toNat = note.drained.length := by
    rw [UInt8.toNat_ofNat']
    omega
  refine ⟨length_stream window, ?_, ?_⟩
  · intro zero
    have same : (UInt8.ofNat note.drained.length).toNat = 0 := zero
    rw [count, List.length_eq_zero_iff] at same
    exact absurd same some
  · intro _
    refine ⟨count, few, windowSlots_stream window, ?_⟩
    rw [windowSlots_stream window, List.getLast?_map, List.getLast?_eq_some_getLast nonempty]
    rfl

theorem declaredNew_block {window newSamples : List UInt16}
    (full : window.length = logitfTfWindow) (few : newSamples.length ≤ logitfTfCatchupMax)
    (seq : UInt8) (current : UInt16) :
    declaredNew (buildStreamPacket seq current (window.drop newSamples.length ++ newSamples)
      (UInt8.ofNat newSamples.length)) = newSamples := by
  have cap : logitfTfCatchupMax = 12 := rfl
  have width : logitfTfWindow = 13 := rfl
  have count : (UInt8.ofNat newSamples.length).toNat = newSamples.length := by
    rw [UInt8.toNat_ofNat']
    omega
  have older : (window.drop newSamples.length).length = logitfTfWindow - newSamples.length := by
    rw [List.length_drop, full]
  rw [declaredNew_stream, count, ← older, List.drop_left]
  rw [List.length_append, older]
  omega

theorem declared_append (packets : List Packet) :
    ({ note with packets := note.packets ++ packets } : TickNote).declared =
      note.declared ++ packets.flatMap fun packet => (packet.build.map declaredNew).getD [] :=
  List.flatMap_append

theorem declared_control {packets : List Packet}
    (control : ∀ packet ∈ packets, packet.isControl = true) :
    (packets.flatMap fun packet => (packet.build.map declaredNew).getD []) = [] := by
  rw [List.flatMap_eq_nil_iff]
  intro packet member
  cases packet with
  | ctrl type seq => exact declaredNew_of_zero rfl
  | init | stream | idle => exact absurd (control _ member) Bool.false_ne_true

theorem accounted_of_silent (silent : Device.blockIsSilent note.drained = true)
    (none : note.declared = []) : note.accounted = note.drained := by
  rw [accounted, if_pos none]
  symm
  rw [List.eq_replicate_iff]
  refine ⟨rfl, ?_⟩
  intro sample member
  simpa using List.all_eq_true.mp silent sample member

end TickNote

namespace Device

/-- What a tick of an open stream hands over: at most one packet, and samples only
when its block is not silent. -/
inductive Handed (device : Device) (newSamples : List UInt16) : List Packet → Prop where
  | nothing (silent : blockIsSilent newSamples = true) : device.Handed newSamples []
  | idle (silent : blockIsSilent newSamples = true) (seq : UInt8) (current : UInt16) :
      device.Handed newSamples [.idle seq current]
  | stopClear (silent : blockIsSilent newSamples = true) (seq : UInt8) :
      device.Handed newSamples [.ctrl 0x04 seq]
  | stream (some : newSamples ≠ []) (seq : UInt8) :
      device.Handed newSamples
        [.stream seq
          ((device.tfWindow.drop newSamples.length ++ newSamples).getLast?.getD centre)
          (device.tfWindow.drop newSamples.length ++ newSamples)
          (UInt8.ofNat newSamples.length)]

theorem stopClear_handed {device : Device} {newSamples : List UInt16}
    (isOpen : device.hidrawOpen = true) (other : Device)
    (silent : blockIsSilent newSamples = true) :
    other.Handed newSamples (device.stopClear .accepted).2.1 := by
  simp only [stopClear, write, isOpen, ↓reduceIte]
  split
  · exact .nothing silent
  · exact .stopClear silent _

theorem emitIdle_handed {device : Device} {newSamples : List UInt16}
    (isOpen : device.hidrawOpen = true) (armedIdle : Bool) (other : Device)
    (silent : blockIsSilent newSamples = true) :
    other.Handed newSamples (device.emitIdle armedIdle .accepted).2.1 := by
  simp only [emitIdle, emitPacket, write, isOpen, ↓reduceIte]
  split_ifs
  · exact .nothing silent
  · apply stopClear_handed _ other silent
    rfl
  · exact .idle silent _ _
  · exact .idle silent _ _

theorem tickEmit_handed {device : Device} (isOpen : device.hidrawOpen = true) (armedIdle : Bool)
    (newSamples : List UInt16) :
    device.Handed newSamples (device.tickEmit false armedIdle newSamples .accepted).2.1 := by
  have opened : (device.advance newSamples).hidrawOpen = true := by
    rw [advance_hidrawOpen, isOpen]
  by_cases quiet : newSamples.isEmpty || blockIsSilent newSamples
  · have silent : blockIsSilent newSamples = true := by
      rcases Bool.or_eq_true_iff.mp quiet with empty | silent
      · rw [List.isEmpty_iff.mp empty]
        rfl
      · exact silent
    simp only [tickEmit, Bool.false_eq_true, ↓reduceIte, quiet]
    exact emitIdle_handed opened armedIdle device silent
  · have some : newSamples ≠ [] := by
      rintro rfl
      exact quiet rfl
    simp only [tickEmit, Bool.false_eq_true, ↓reduceIte, quiet, emitPacket, write, opened]
    simp only [advance, some, ne_eq, not_false_eq_true, ↓reduceIte]
    exact .stream some _

theorem stopClear_control {device : Device} {result : WriteResult} {packet : Packet}
    (member : packet ∈ (device.stopClear result).2.1) : packet.isControl = true := by
  simp only [stopClear] at member
  split_ifs at member
  · cases member
  · cases member
  · rw [mem_write member]
    rfl
  · rw [mem_write member]
    rfl

theorem stopArm_control {device : Device} {result : WriteResult} {packet : Packet}
    (member : packet ∈ (device.stopArm result).2.1) : packet.isControl = true := by
  simp only [stopArm] at member
  split at member
  · rw [mem_write member]
    rfl
  · rw [mem_write member]
    rfl

/-- Between the packets of a pair a tick has handed over nothing but the first of them. -/
theorem emitIdle_arming {device : Device} {armedIdle : Bool} {result : WriteResult}
    (arming : (device.emitIdle armedIdle result).2.2 = .armPending) :
    ∀ packet ∈ (device.emitIdle armedIdle .accepted).2.1, packet.isControl = true := by
  intro packet member
  simp only [emitIdle] at arming member
  split_ifs at arming member
  · exact stopClear_control member
  · cases arming
  · cases arming

theorem tickEmit_arming {device : Device} {armedIdle : Bool} {newSamples : List UInt16}
    {result : WriteResult}
    (arming : (device.tickEmit false armedIdle newSamples result).2.2 = .armPending) :
    ∀ packet ∈ (device.tickEmit false armedIdle newSamples .accepted).2.1,
      packet.isControl = true := by
  simp only [tickEmit, Bool.false_eq_true, ↓reduceIte] at arming ⊢
  split_ifs at arming ⊢
  · exact emitIdle_arming arming
  · cases arming

end Device

theorem TickNote.lawful_of_handed {device : Device} {newSamples : List UInt16}
    {packets : List Packet} (left : List UInt16)
    (full : device.tfWindow.length = logitfTfWindow)
    (few : newSamples.length ≤ logitfTfCatchupMax)
    (handed : device.Handed newSamples packets) :
    TickNote.Lawful ⟨device.tfWindow, newSamples, packets, left⟩ := by
  cases handed with
  | nothing silent =>
      exact ⟨full, Or.inl (by simp), by simp, accounted_of_silent silent rfl⟩
  | idle silent seq current =>
      refine ⟨full, Or.inl (by simp), ?_, accounted_of_silent silent ?_⟩
      · intro packet member
        rw [List.mem_singleton.mp member]
        exact ⟨_, rfl, reads_idle seq current⟩
      · rw [declared, List.flatMap_singleton]
        exact declaredNew_of_zero rfl
  | stopClear silent seq =>
      refine ⟨full, Or.inl (by simp), ?_, accounted_of_silent silent ?_⟩
      · intro packet member
        rw [List.mem_singleton.mp member]
        exact ⟨_, rfl, reads_ctrl 0x04 seq⟩
      · rw [declared, List.flatMap_singleton]
        exact declaredNew_of_zero rfl
  | stream some seq =>
      refine ⟨full, Or.inl (by simp), ?_, ?_⟩
      · intro packet member
        rw [List.mem_singleton.mp member]
        refine ⟨_, rfl, ?_⟩
        apply reads_stream full some few
      · have declares : TickNote.declared ⟨device.tfWindow, newSamples, [.stream seq
            ((device.tfWindow.drop newSamples.length ++ newSamples).getLast?.getD centre)
            (device.tfWindow.drop newSamples.length ++ newSamples)
            (UInt8.ofNat newSamples.length)], left⟩ = newSamples := by
          rw [declared, List.flatMap_singleton]
          exact declaredNew_block full few seq _
        rw [accounted, declares, if_neg some]

theorem Device.length_advance {device : Device} {newSamples : List UInt16}
    (full : device.tfWindow.length = logitfTfWindow)
    (few : newSamples.length ≤ logitfTfCatchupMax) :
    (device.advance newSamples).tfWindow.length = logitfTfWindow := by
  have cap : logitfTfCatchupMax = 12 := rfl
  have width : logitfTfWindow = 13 := rfl
  have block : logitfTfNew = 4 := rfl
  simp only [advance]
  split_ifs
  · rw [List.length_append, List.length_drop, full]
    omega
  · exact full
  · rw [List.length_append, List.length_drop, List.length_replicate, full]
    omega
  · rw [List.length_append, List.length_drop, List.length_replicate, full]
    omega

theorem Device.length_tickDrain (device : Device) (expiries : ℕ) :
    (device.tickDrain expiries).1.length ≤ logitfTfCatchupMax := by
  have budget : sampleBudget expiries ≤ logitfTfCatchupMax := by
    have few : expiries < 3 → expiries * logitfTfNew ≤ logitfTfCatchupMax := by
      intro few
      exact Nat.mul_le_mul_right logitfTfNew (by omega : expiries ≤ 3)
    simp only [sampleBudget]
    split
    · split
      · exact le_rfl
      · rename_i small
        exact few (Nat.lt_of_not_ge small)
    · decide
  rw [(device.tickDrain_spec expiries).1, List.length_take]
  exact (Nat.min_le_left _ _).trans budget

theorem State.pushCopy_window (state : State) (index : ℕ) (samples : List Int16) :
    (state.pushCopy index samples).device.tfWindow = state.device.tfWindow := by
  simp only [pushCopy]
  split
  · exact (state.device.pushCopy_window samples).1
  · rfl

structure State.WindowFull (state : State) : Prop where
  window : state.device.tfWindow.length = logitfTfWindow
  block : ∀ paused armedIdle newSamples, state.thread = .emitting paused armedIdle newSamples →
    newSamples.length ≤ logitfTfCatchupMax

namespace State.WindowFull

variable {state next : State}

theorem of_same (full : state.WindowFull)
    (window : next.device.tfWindow.length = logitfTfWindow)
    (thread : next.thread = state.thread ∨
      ∀ paused armedIdle newSamples, next.thread ≠ .emitting paused armedIdle newSamples) :
    next.WindowFull := by
  refine ⟨window, ?_⟩
  intro paused armedIdle newSamples emitting
  rcases thread with same | other
  · rw [same] at emitting
    exact full.block paused armedIdle newSamples emitting
  · exact absurd emitting (other paused armedIdle newSamples)

theorem tickDrain (full : state.WindowFull) (paused armedIdle : Bool) (expiries : ℕ) :
    (state.tickDrain paused armedIdle expiries).WindowFull := by
  refine ⟨full.window, ?_⟩
  intro otherPaused otherIdle newSamples emitting
  simp only [State.tickDrain, ThreadPhase.emitting.injEq] at emitting
  rcases emitting with ⟨_, _, rfl⟩
  exact state.device.length_tickDrain expiries

theorem tickEmit (full : state.WindowFull) {paused armedIdle : Bool} {newSamples : List UInt16}
    (emitting : state.thread = .emitting paused armedIdle newSamples) (result : WriteResult) :
    (state.tickEmit paused armedIdle newSamples result).WindowFull := by
  rcases state.tickEmit_settles paused armedIdle newSamples result with ⟨sound, _, other⟩
  apply full.of_same _ (Or.inr other)
  rw [sound.2.1]
  exact Device.length_advance full.window (full.block _ _ _ emitting)

theorem step {event : Event} (full : state.WindowFull) (stepped : state.step event = some next) :
    next.WindowFull := by
  cases State.step_cases stepped with
  | streamStart spawned =>
      simp only [State.streamStart]
      split_ifs
      · exact full
      · exact full.of_same List.length_replicate (Or.inr (by simp))
      · exact full.of_same List.length_replicate (Or.inl rfl)
  | pushCopy =>
      exact full.of_same (by rw [State.pushCopy_window, full.window]) (Or.inl rfl)
  | clear => exact full.of_same full.window (Or.inl rfl)
  | clearWindow => exact full.of_same List.length_replicate (Or.inl rfl)
  | tickDrain _ expiries => exact full.tickDrain _ _ expiries
  | tickEmit emitting result => exact full.tickEmit emitting result
  | _ =>
      have unheard := State.unheard rfl stepped
      exact full.of_same (by rw [unheard.sound.2.1, full.window]) unheard.thread

theorem of_reachable (reachable : stream.Reachable state) : state.WindowFull := by
  apply System.ReachableUnder.invariant reachable
  · intro start discovered
    cases discovered
    exact ⟨by decide, by simp [State.discovered]⟩
  · intro current event next full _ stepped
    exact full.step stepped

end State.WindowFull

/-- The wheel is connected and no pause holds the stream. -/
def Device.Live (device : Device) : Prop := device.hidrawOpen = true ∧ device.tfPaused = false

namespace Device.Live

variable {device : Device} (live : device.Live)

include live

theorem streamRecordError (rc : ℤ) : (device.streamRecordError rc).Live := by
  simp only [Device.streamRecordError]
  split <;> exact live

theorem stopClear (result : WriteResult) : (device.stopClear result).1.Live := by
  simp only [Device.stopClear]
  repeat' split
  all_goals exact live

theorem stopArm (result : WriteResult) : (device.stopArm result).1.Live := by
  simp only [Device.stopArm]
  split <;> exact live

theorem pushCopy (samples : List Int16) : (device.pushCopy samples).Live := by
  refine ⟨?_, by rw [pushCopy_tfPaused, live.2]⟩
  rw [pushCopy_eq, shedBacklog]
  split <;> simp only [noteDropped, copied, live.1]

theorem advance (newSamples : List UInt16) : (device.advance newSamples).Live :=
  ⟨by rw [advance_hidrawOpen, live.1], by rw [advance_tfPaused, live.2]⟩

theorem emitIdle (armedIdle : Bool) (result : WriteResult) :
    (device.emitIdle armedIdle result).1.Live := by
  simp only [Device.emitIdle]
  split_ifs
  · exact live
  · apply stopClear
    exact live
  · exact live
  · exact live

theorem tickEmit (armedIdle : Bool) (newSamples : List UInt16) (result : WriteResult) :
    (device.tickEmit false armedIdle newSamples result).1.Live := by
  simp only [Device.tickEmit, Bool.false_eq_true, ↓reduceIte]
  split
  · exact (live.advance newSamples).emitIdle armedIdle result
  · exact live.advance newSamples

end Device.Live

theorem State.tickReturn_live {state : State} (live : state.device.Live) (rc : ℤ) :
    (state.tickReturn rc).device.Live := by
  simp only [tickReturn]
  split
  · exact live.streamRecordError rc
  · exact live

theorem State.pairReturn_live {state : State} (live : state.device.Live) (requested : Bool)
    (rc : ℤ) : (state.pairReturn requested rc).device.Live := by
  simp only [pairReturn]
  apply tickReturn_live
  split <;> exact live

namespace Score.Lawful

variable {score : Score}

theorem drain (lawful : score.Lawful []) (newSamples : List UInt16) :
    Lawful { score with drained := score.drained ++ newSamples } newSamples where
  ticks := lawful.ticks
  chain := lawful.chain
  drained := by rw [lawful.drained, List.append_nil]

theorem cons {note : TickNote} (lawful : score.Lawful note.drained) (noted : note.Lawful)
    (found : ∀ earlier ticks, score.ticks = earlier :: ticks → note.window = earlier.left) :
    Lawful { score with ticks := note :: score.ticks } [] where
  ticks := by
    intro other member
    rcases List.mem_cons.mp member with rfl | old
    · exact noted
    · exact lawful.ticks other old
  chain := by
    have chain := lawful.chain
    cases earlier : score.ticks with
    | nil => exact .singleton note
    | cons other ticks =>
        rw [earlier] at chain
        exact .cons_cons (found other ticks earlier) chain
  drained := by
    rw [lawful.drained, List.reverse_cons, List.flatMap_append, List.flatMap_singleton,
      noted.accounted, List.append_nil]

/-- The second packet of a pair goes to the note of the tick that sent the first. -/
theorem arm {note : TickNote} {earlier : List TickNote} (lawful : score.Lawful [])
    (latest : score.ticks = note :: earlier)
    (control : ∀ packet ∈ note.packets, packet.isControl = true)
    {packets : List Packet} (more : ∀ packet ∈ packets, packet.isControl = true) :
    Lawful { score with ticks := { note with packets := note.packets ++ packets } :: earlier }
      [] := by
  have noted := lawful.ticks note (by rw [latest]; exact List.mem_cons_self)
  have all : ∀ packet ∈ note.packets ++ packets, packet.isControl = true := by
    intro packet member
    rcases List.mem_append.mp member with old | new
    · exact control packet old
    · exact more packet new
  have same : TickNote.accounted { note with packets := note.packets ++ packets } =
      note.accounted := by
    rw [TickNote.accounted, TickNote.declared_append, TickNote.declared_control more,
      List.append_nil]
    rfl
  refine ⟨?_, ?_, ?_⟩
  · intro other member
    rcases List.mem_cons.mp member with rfl | old
    · refine ⟨noted.full, Or.inr all, ?_, same.trans noted.accounted⟩
      intro packet member
      cases packet with
      | ctrl type seq => exact ⟨_, rfl, TickNote.reads_ctrl type seq⟩
      | init | stream | idle => exact absurd (all _ member) Bool.false_ne_true
    · exact lawful.ticks other (by rw [latest]; exact List.mem_cons_of_mem _ old)
  · have chain := lawful.chain
    rw [latest] at chain
    cases earlier with
    | nil => exact .singleton _
    | cons other ticks =>
        rw [List.isChain_cons_cons] at chain ⊢
        exact chain
  · rw [lawful.drained, latest, List.reverse_cons, List.reverse_cons, List.flatMap_append,
      List.flatMap_append, List.flatMap_singleton, List.flatMap_singleton, same]

end Score.Lawful

theorem State.tick_requested {state : State} (live : state.device.Live)
    (requested : state.device.tfTeardownPending = true) (result : WriteResult) :
    (state.tick result).device.Live ∧
      ((state.tick result).thread = .polling ∨ (state.tick result).thread = .exited ∨
        (state.tick result).thread = .arming true) := by
  have cleared := live.stopClear result
  simp only [tick, requested, ↓reduceIte]
  split
  · exact ⟨cleared, Or.inr (Or.inr rfl)⟩
  · rename_i rc _
    have settled := pairReturn_settled
      { state with
        device := (state.device.stopClear result).1
        wire := state.wire ++ (state.device.stopClear result).2.1 } true rc
    refine ⟨?_, settled.thread.imp_right Or.inl⟩
    apply pairReturn_live
    exact cleared

theorem State.tickEmit_live {state : State} (live : state.device.Live) (armedIdle : Bool)
    (newSamples : List UInt16) (result : WriteResult) :
    (state.tickEmit false armedIdle newSamples result).device.Live ∧
      ((state.tickEmit false armedIdle newSamples result).thread = .polling ∨
        (state.tickEmit false armedIdle newSamples result).thread = .exited ∨
        (state.tickEmit false armedIdle newSamples result).thread = .arming false ∧
          (state.device.tickEmit false armedIdle newSamples result).2.2 = .armPending) := by
  have sent := live.tickEmit armedIdle newSamples result
  simp only [tickEmit]
  split
  · rename_i pending
    exact ⟨sent, Or.inr (Or.inr ⟨rfl, pending⟩)⟩
  · rename_i rc _
    have settled := tickReturn_settled
      { state with
        device := (state.device.tickEmit false armedIdle newSamples result).1
        wire := state.wire ++
          (state.device.tickEmit false armedIdle newSamples result).2.1 } rc
    refine ⟨?_, settled.thread.imp_right Or.inl⟩
    apply tickReturn_live
    exact sent

/-- What holds of a stream in play and of its score after every section. -/
structure Scoring (state : State) (score : Score) : Prop where
  live : state.device.Live
  full : state.WindowFull
  draining : ∀ paused armedIdle, state.thread = .draining paused armedIdle → paused = false
  emitting : ∀ paused armedIdle newSamples,
    state.thread = .emitting paused armedIdle newSamples → paused = false
  lawful : score.Lawful state.inFlight
  latest : ∀ note earlier, score.ticks = note :: earlier → note.left = state.device.tfWindow
  arming : ∀ requested, state.thread = .arming requested →
    ∀ note earlier, score.ticks = note :: earlier →
      ∀ packet ∈ note.packets, packet.isControl = true

namespace Scoring

variable {state next : State} {score : Score}

theorem of_streaming (streaming : state.Streaming) : Scoring state Score.empty := by
  have flight : state.inFlight = [] := by rw [State.inFlight, streaming.polling]
  refine ⟨⟨streaming.isOpen, streaming.unpaused⟩, .of_reachable streaming.reachable, ?_, ?_, ?_,
    ?_, ?_⟩
  · simp [streaming.polling]
  · simp [streaming.polling]
  · rw [flight]
    exact ⟨by simp [Score.empty], .nil, rfl⟩
  · simp [Score.empty]
  · simp [streaming.polling]

/-- A section that leaves the thread and the window alone. -/
theorem of_same (scoring : Scoring state score) (live : next.device.Live)
    (window : next.device.tfWindow = state.device.tfWindow) (thread : next.thread = state.thread) :
    Scoring next score := by
  refine ⟨live, scoring.full.of_same (by rw [window, scoring.full.window]) (Or.inl thread), ?_, ?_,
    ?_, ?_, ?_⟩
  · rw [thread]
    exact scoring.draining
  · rw [thread]
    exact scoring.emitting
  · rw [State.inFlight, thread]
    exact scoring.lawful
  · rw [window]
    exact scoring.latest
  · rw [thread]
    exact scoring.arming

theorem push (scoring : Scoring state score) (samples : List Int16) :
    Scoring (state.push samples) score := by
  simp only [State.push]
  split
  · exact scoring
  · exact scoring.of_same scoring.live rfl rfl

theorem pushCopy (scoring : Scoring state score) (index : ℕ) (samples : List Int16) :
    Scoring (state.pushCopy index samples) score := by
  have live : (state.pushCopy index samples).device.Live := by
    simp only [State.pushCopy]
    split
    · exact scoring.live.pushCopy samples
    · exact scoring.live
  exact scoring.of_same live (state.pushCopy_window index samples) rfl

/-- After its note a tick is over, or stands between the packets of a pair. -/
theorem of_noted (live : next.device.Live) (full : next.WindowFull)
    (thread : next.thread = .polling ∨ next.thread = .exited ∨
      (∃ requested, next.thread = .arming requested) ∧ ∀ note earlier,
        score.ticks = note :: earlier → ∀ packet ∈ note.packets, packet.isControl = true)
    (lawful : score.Lawful [])
    (latest : ∀ note earlier, score.ticks = note :: earlier → note.left = next.device.tfWindow) :
    Scoring next score := by
  have flight : next.inFlight = [] := by
    rcases thread with rest | rest | ⟨⟨requested, rest⟩, _⟩ <;> rw [State.inFlight, rest]
  refine ⟨live, full, ?_, ?_, by rw [flight]; exact lawful, latest, ?_⟩
  · rcases thread with rest | rest | ⟨⟨requested, rest⟩, _⟩ <;> simp [rest]
  · rcases thread with rest | rest | ⟨⟨requested, rest⟩, _⟩ <;> simp [rest]
  · rcases thread with rest | rest | ⟨_, control⟩
    · simp [rest]
    · simp [rest]
    · exact fun _ _ => control

theorem tick (scoring : Scoring state score) (polling : state.thread = .polling)
    (result : WriteResult) :
    Scoring (state.tick result) (score.record state (state.tick result) (.tick result)) := by
  have flight : state.inFlight = [] := by rw [State.inFlight, polling]
  have lawful := scoring.lawful
  rw [flight] at lawful
  by_cases requested : state.device.tfTeardownPending
  · rcases State.tick_requested scoring.live requested result with ⟨live, thread⟩
    have stepped : state.step (.tick result) = some (state.tick result) := by
      simp only [State.step, polling, ↓reduceIte]
    have handed : state.device.Handed [] (state.device.stopClear .accepted).2.1 :=
      Device.stopClear_handed scoring.live.1 state.device rfl
    have noted := TickNote.lawful_of_handed (state.tick result).device.tfWindow scoring.full.window
      (Nat.zero_le _) handed
    simp only [Score.record, requested, ↓reduceIte]
    refine of_noted live (scoring.full.step stepped) ?_ (lawful.cons noted ?_) ?_
    · rcases thread with rest | rest | rest
      · exact Or.inl rest
      · exact Or.inr (Or.inl rest)
      · refine Or.inr (Or.inr ⟨⟨true, rest⟩, ?_⟩)
        rintro note earlier same packet member
        cases same
        exact Device.stopClear_control member
    · intro earlier ticks same
      exact (scoring.latest earlier ticks same).symm
    · rintro note earlier same
      cases same
      rfl
  · have begun : state.tick result =
        { state with thread := .draining state.device.tfPaused state.device.tfArmedIdle } := by
      simp only [State.tick, requested, Bool.false_eq_true, ↓reduceIte]
    have same : score.record state (state.tick result) (.tick result) = score := by
      simp only [Score.record, requested, Bool.false_eq_true, ↓reduceIte]
    rw [same, begun]
    refine ⟨scoring.live, scoring.full.of_same scoring.full.window (Or.inr (by simp)), ?_, by simp,
      lawful, scoring.latest, by simp⟩
    intro paused armedIdle draining
    cases draining
    exact scoring.live.2

theorem tickDrain (scoring : Scoring state score) {paused armedIdle : Bool}
    (draining : state.thread = .draining paused armedIdle) (expiries : ℕ) :
    Scoring (state.tickDrain paused armedIdle expiries)
      (score.record state (state.tickDrain paused armedIdle expiries) (.tickDrain expiries)) := by
  have flight : state.inFlight = [] := by rw [State.inFlight, draining]
  have lawful := scoring.lawful
  rw [flight] at lawful
  refine ⟨scoring.live, scoring.full.tickDrain paused armedIdle expiries, ?_, ?_, ?_,
    scoring.latest, ?_⟩
  · simp [State.tickDrain]
  · intro otherPaused otherIdle newSamples emitting
    cases emitting
    exact scoring.draining paused armedIdle draining
  · exact lawful.drain _
  · simp [State.tickDrain]

theorem tickEmit (scoring : Scoring state score) {paused armedIdle : Bool}
    {newSamples : List UInt16} (emitting : state.thread = .emitting paused armedIdle newSamples)
    (result : WriteResult) :
    Scoring (state.tickEmit paused armedIdle newSamples result)
      (score.record state (state.tickEmit paused armedIdle newSamples result)
        (.tickEmit result)) := by
  have lawful := scoring.lawful
  simp only [State.inFlight, emitting] at lawful
  have unpaused := scoring.emitting paused armedIdle newSamples emitting
  subst unpaused
  rcases State.tickEmit_live scoring.live armedIdle newSamples result with ⟨live, thread⟩
  have noted := TickNote.lawful_of_handed
    (state.tickEmit false armedIdle newSamples result).device.tfWindow scoring.full.window
    (scoring.full.block _ _ _ emitting)
    (state.device.tickEmit_handed scoring.live.1 armedIdle newSamples)
  simp only [Score.record, emitting]
  refine of_noted live (scoring.full.tickEmit emitting result) ?_ (lawful.cons noted ?_) ?_
  · rcases thread with rest | rest | ⟨rest, arming⟩
    · exact Or.inl rest
    · exact Or.inr (Or.inl rest)
    · refine Or.inr (Or.inr ⟨⟨false, rest⟩, ?_⟩)
      rintro note earlier same packet member
      cases same
      exact Device.tickEmit_arming arming packet member
  · intro earlier ticks same
    exact (scoring.latest earlier ticks same).symm
  · rintro note earlier same
    cases same
    rfl

theorem tickArm (scoring : Scoring state score) {requested : Bool}
    (arming : state.thread = .arming requested) (result : WriteResult) :
    Scoring (state.tickArm requested result)
      (score.record state (state.tickArm requested result) (.tickArm result)) := by
  have flight : state.inFlight = [] := by rw [State.inFlight, arming]
  have lawful := scoring.lawful
  rw [flight] at lawful
  have settled := State.pairReturn_settled
    { state with
      device := (state.device.stopArm result).1
      wire := state.wire ++ (state.device.stopArm result).2.1 } requested
    (state.device.stopArm result).2.2
  have unheard := State.tickArm_unheard arming result
  have live : (state.tickArm requested result).device.Live := by
    simp only [State.tickArm]
    exact State.pairReturn_live (scoring.live.stopArm result) requested _
  have full : (state.tickArm requested result).WindowFull :=
    scoring.full.of_same (by rw [unheard.sound.2.1, scoring.full.window]) unheard.thread
  have thread : (state.tickArm requested result).thread = .polling ∨
      (state.tickArm requested result).thread = .exited := settled.thread
  cases earlier : score.ticks with
  | nil =>
      simp only [Score.record, earlier]
      refine of_noted live full (thread.imp_right Or.inl) lawful ?_
      simp [earlier]
  | cons note ticks =>
      have control := scoring.arming requested arming note ticks earlier
      simp only [Score.record, earlier]
      refine of_noted live full (thread.imp_right Or.inl)
        (lawful.arm earlier control fun packet => Device.stopArm_control) ?_
      rintro other rest same
      cases same
      rw [unheard.sound.2.1]
      exact scoring.latest note ticks earlier

theorem step {event : Event} (scoring : Scoring state score) (plays : event.plays)
    (stepped : state.step event = some next) :
    Scoring next (score.record state next event) := by
  cases State.step_cases stepped with
  | push => exact scoring.push _
  | pushCopy => exact scoring.pushCopy _ _
  | tick polling result => exact scoring.tick polling result
  | tickDrain draining expiries => exact scoring.tickDrain draining expiries
  | tickEmit emitting result => exact scoring.tickEmit emitting result
  | tickArm arming result => exact scoring.tickArm arming result
  | _ => exact absurd plays (by simp [Event.plays, Event.ofPush, Event.ofTick])

end Scoring

theorem scoring_of_reachable {view : State × Score}
    (reachable : scored.ReachableUnder (fun _ event => event.plays) view) :
    Scoring view.1 view.2 := by
  apply System.ReachableUnder.invariant reachable
  · rintro ⟨start, score⟩ ⟨streaming, empty⟩
    cases empty
    exact .of_streaming streaming
  · intro current event next scoring plays stepped
    simp only [scored, Option.map_eq_some_iff] at stepped
    rcases stepped with ⟨state, stepped, rfl⟩
    exact scoring.step plays stepped

/--
Whatever pushes and ticks of a stream interleave, every tick hands over at most one
packet outside a teardown, every packet says what its tick drained and found, and the
declared samples with the silent blocks are the drained samples.
-/
theorem packets_say_what_was_drained {state : State} {score : Score}
    (reachable : scored.ReachableUnder (fun _ event => event.plays) (state, score)) :
    score.Lawful state.inFlight :=
  (scoring_of_reachable reachable).lawful

/-- A full block, a starved tick and a partial block. -/
theorem five_samples_say_what_was_drained :
    ∃ state score, scored.ReachableUnder (fun _ event => event.plays) (state, score) ∧
      score.drained = [0x8001, 0x8002, 0x8003, 0x8004, 0x8005] ∧
      score.ticks.map (fun note => note.declared) =
        [[0x8005], [], [0x8001, 0x8002, 0x8003, 0x8004]] ∧
      score.Lawful state.inFlight := by
  have streaming : ((State.discovered.sessionEnsure .opened).streamStart true).Streaming :=
    ⟨System.Reachable.of_run State.discovered [.sessionEnsure .opened, .streamStart true] rfl rfl,
      rfl, rfl, rfl⟩
  have executed := System.ReachableUnder.of_check scored (fun _ event => event.plays)
    ((State.discovered.sessionEnsure .opened).streamStart true, Score.empty)
    [.push [1, 2, 3, 4], .tick .accepted, .pushCopy 0, .tickDrain 1, .tickEmit .accepted,
      .tick .accepted, .tickDrain 1, .push [5], .pushCopy 0, .tickEmit .accepted,
      .tick .accepted, .tickDrain 7, .tickEmit (.failed EIO)]
    (fun view => view.2.drained = [0x8001, 0x8002, 0x8003, 0x8004, 0x8005] ∧
      view.2.ticks.map (fun note => note.declared) =
        [[0x8005], [], [0x8001, 0x8002, 0x8003, 0x8004]]) ⟨streaming, rfl⟩
    (by decide) (by decide)
  rcases executed with ⟨⟨state, score⟩, reachable, seen⟩
  simp only [decide_eq_true_eq] at seen
  exact ⟨state, score, reachable, seen.1, seen.2, packets_say_what_was_drained reachable⟩

end TrueForce.Stream
