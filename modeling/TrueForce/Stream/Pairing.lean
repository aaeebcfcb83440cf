import TrueForce.Stream.RingLaw
import Mathlib.Data.List.Chain

/-!
# The teardown pair on the wire

Four places send the pair of a 0x04 and a 0x03: the idle gate, the tick that
serves a pause, the stop and the session close.  Each lets go of the device lock
between the two packets.  The thread is the only writer while it runs, and the
stop keeps `stream_running` set across its gap so that no thread can be spawned
there.  The session close does not: its gap is open to a stream start.

The wire is in order when every packet may stand behind the one before it.  The
invariant ties the last packet to the flags of the device: a 0x04 is last exactly
while some party is in the gap of a pair, and a 0x03 is last only while
`tf_armed_idle` keeps the next pair from being sent.
-/

namespace TrueForce.Stream

open TrueForce.Transition

namespace Packet

def seq : Packet → UInt8
  | .init seq | .stream seq _ _ _ | .idle seq _ | .ctrl _ seq => seq

/-- The packets of type 0x01 that the stream thread builds. -/
def isSample : Packet → Bool
  | .stream .. | .idle .. => true
  | _ => false

def isInit : Packet → Bool
  | .init _ => true
  | _ => false

/-- What may stand directly behind a packet. -/
structure Follows (first second : Packet) : Prop where
  armed : ∀ seq, first = .ctrl 0x04 seq → second = .ctrl 0x03 (seq + 1)
  fed : ∀ seq, first = .ctrl 0x03 seq → second.isSample ∨ second.isInit
  consecutive : second.isInit = false → second.seq = first.seq + 1

theorem Follows.sample {first second : Packet} (notClear : ∀ seq, first ≠ .ctrl 0x04 seq)
    (sample : second.isSample) (consecutive : second.seq = first.seq + 1) :
    first.Follows second where
  armed := fun seq clear => absurd clear (notClear seq)
  fed := fun _ _ => .inl sample
  consecutive := fun _ => consecutive

theorem Follows.init {first : Packet} (notClear : ∀ seq, first ≠ .ctrl 0x04 seq) (seq : UInt8) :
    first.Follows (.init seq) where
  armed := fun seq clear => absurd clear (notClear seq)
  fed := fun _ _ => .inr rfl
  consecutive := by simp [isInit]

theorem Follows.clear {first : Packet} (notClear : ∀ seq, first ≠ .ctrl 0x04 seq)
    (notArm : ∀ seq, first ≠ .ctrl 0x03 seq) :
    first.Follows (.ctrl 0x04 (first.seq + 1)) where
  armed := fun seq clear => absurd clear (notClear seq)
  fed := fun seq arm => absurd arm (notArm seq)
  consecutive := fun _ => rfl

theorem Follows.arm (seq : UInt8) :
    (Packet.ctrl 0x04 seq).Follows (.ctrl 0x03 (seq + 1)) where
  armed := by
    intro other clear
    cases clear
    rfl
  fed := by
    intro other arm
    cases arm
  consecutive := fun _ => rfl

end Packet

/-- What the last packet is when the node is open. -/
structure EndsWith (last : Packet) (armedIdle : Bool) (tfSeq : UInt8) (pairOpen : Bool) :
    Prop where
  seq : tfSeq = last.seq + 1
  gap : pairOpen = true → armedIdle = false ∧ ∃ seq, last = .ctrl 0x04 seq
  settled : pairOpen = false → ∀ seq, last ≠ .ctrl 0x04 seq
  unarmed : pairOpen = false → armedIdle = false → ∀ seq, last ≠ .ctrl 0x03 seq

structure Orderly (wire : List Packet) (hidrawOpen armedIdle : Bool) (tfSeq : UInt8)
    (pairOpen : Bool) : Prop where
  chain : wire.IsChain Packet.Follows
  closed : hidrawOpen = false → pairOpen = false ∧ ∀ seq, wire.getLast? ≠ some (.ctrl 0x04 seq)
  opened : hidrawOpen = true → ∃ last, wire.getLast? = some last ∧
    EndsWith last armedIdle tfSeq pairOpen

namespace Orderly

variable {wire : List Packet} {hidrawOpen armedIdle pairOpen : Bool} {tfSeq : UInt8}

theorem append_one (chain : wire.IsChain Packet.Follows) {last packet : Packet}
    (ends : wire.getLast? = some last) (follows : last.Follows packet) :
    (wire ++ [packet]).IsChain Packet.Follows := by
  apply chain.append (List.isChain_singleton packet)
  intro first isLast second isHead
  rw [ends] at isLast
  cases isLast
  cases isHead
  exact follows

/-- Nothing on the wire depends on the counters of a closed node. -/
theorem of_closed (orderly : Orderly wire false armedIdle tfSeq pairOpen) (newArmed : Bool)
    (newSeq : UInt8) :
    Orderly wire false newArmed newSeq pairOpen :=
  ⟨orderly.chain, orderly.closed, nofun⟩

theorem sample (orderly : Orderly wire true armedIdle tfSeq false) {packet : Packet}
    (isSample : packet.isSample) (seq : packet.seq = tfSeq) (newArmed : Bool) :
    Orderly (wire ++ [packet]) true newArmed (tfSeq + 1) false := by
  rcases orderly.opened rfl with ⟨last, ends, ending⟩
  have consecutive : packet.seq = last.seq + 1 := seq.trans ending.seq
  refine ⟨append_one orderly.chain ends (.sample (ending.settled rfl) isSample consecutive),
    nofun, fun _ => ⟨packet, by simp, ?_⟩⟩
  refine ⟨by rw [seq], nofun, ?_, ?_⟩
  · rintro _ seq rfl
    cases isSample
  · rintro _ _ seq rfl
    cases isSample

theorem clear (orderly : Orderly wire true false tfSeq false) :
    Orderly (wire ++ [.ctrl 0x04 tfSeq]) true false (tfSeq + 1) true := by
  rcases orderly.opened rfl with ⟨last, ends, ending⟩
  have follows : last.Follows (.ctrl 0x04 tfSeq) := by
    rw [ending.seq]
    exact .clear (ending.settled rfl) (ending.unarmed rfl rfl)
  refine ⟨append_one orderly.chain ends follows, nofun, fun _ => ⟨_, List.getLast?_concat, ?_⟩⟩
  exact ⟨rfl, fun _ => ⟨rfl, tfSeq, rfl⟩, nofun, nofun⟩

theorem arm (orderly : Orderly wire true armedIdle tfSeq true) :
    Orderly (wire ++ [.ctrl 0x03 tfSeq]) true true (tfSeq + 1) false := by
  rcases orderly.opened rfl with ⟨last, ends, ending⟩
  rcases ending.gap rfl with ⟨_, seq, rfl⟩
  have follows : (Packet.ctrl 0x04 seq).Follows (.ctrl 0x03 tfSeq) := by
    rw [ending.seq]
    exact .arm seq
  refine ⟨append_one orderly.chain ends follows, nofun, fun _ => ⟨_, List.getLast?_concat, ?_⟩⟩
  refine ⟨rfl, nofun, ?_, nofun⟩
  rintro _ other clear
  cases clear

theorem close (orderly : Orderly wire hidrawOpen armedIdle tfSeq false) :
    Orderly wire false false tfSeq false := by
  refine ⟨orderly.chain, fun _ => ⟨rfl, ?_⟩, nofun⟩
  cases hidrawOpen with
  | false => exact (orderly.closed rfl).2
  | true =>
      rcases orderly.opened rfl with ⟨last, ends, ending⟩
      intro seq clear
      rw [ends] at clear
      cases clear
      exact ending.settled rfl seq rfl

theorem mem_initPackets {packet : Packet} (member : packet ∈ Device.initPackets) :
    ∃ seq, packet = .init seq := by
  simp only [Device.initPackets, List.mem_append, or_self, List.mem_map] at member
  rcases member with ⟨index, _, rfl⟩
  exact ⟨_, rfl⟩

theorem initPackets_isChain : Device.initPackets.IsChain Packet.Follows := by
  apply List.Pairwise.isChain
  apply List.pairwise_of_forall_mem_list
  intro first firstMember second secondMember
  rcases mem_initPackets firstMember with ⟨_, rfl⟩
  rcases mem_initPackets secondMember with ⟨seq, rfl⟩
  exact .init (by simp) seq

theorem init (orderly : Orderly wire false armedIdle tfSeq pairOpen) :
    Orderly (wire ++ Device.initPackets) true false (UInt8.ofNat (tfInitPacketCount + 1))
      pairOpen := by
  rcases orderly.closed rfl with ⟨rfl, notClear⟩
  have last : Device.initPackets.getLast? = some (.init 68) := by decide
  refine ⟨?_, nofun, fun _ => ⟨.init 68, ?_, ?_⟩⟩
  · apply orderly.chain.append initPackets_isChain
    intro first isLast second isHead
    rcases mem_initPackets (List.mem_of_head? isHead) with ⟨seq, rfl⟩
    refine .init ?_ seq
    rintro other rfl
    exact notClear other isLast
  · rw [List.getLast?_append, last, Option.some_or]
  · exact ⟨by decide, nofun, by simp, by simp⟩

end Orderly

def ThreadPhase.running : ThreadPhase → Bool
  | .absent | .exited => false
  | _ => true

def ThreadPhase.isArming : ThreadPhase → Bool
  | .arming _ => true
  | _ => false

def CallPhase.isArming : CallPhase → Bool
  | .stopArming | .closeArming => true
  | _ => false

/-- A 0x04 is out whose 0x03 is not. -/
def State.pairOpen (state : State) : Bool := state.thread.isArming || state.call.isArming

structure Paired (state : State) : Prop where
  session : state.device.tfInitialized = state.device.hidrawOpen
  alone : state.call.isArming = true → state.thread.running = false
  orderly : Orderly state.wire state.device.hidrawOpen state.device.tfArmedIdle
    state.device.tfSeq state.pairOpen

def Event.writesAccepted : Event → Bool
  | .sessionEnsure (.initRefused _) => false
  | .tick result | .tickEmit result | .tickArm result | .stopJoin result | .stopArm result
  | .sessionClose result | .closeArm result => result = .accepted
  | _ => true

/-- The test of `logitf_session_close` for a pair of its own. -/
def State.closesWithPair (state : State) : Bool :=
  state.device.hidrawOpen && state.device.tfInitialized && !state.device.tfArmedIdle

/--
The session close sends no pair while a stream thread runs and none is spawned in
its gap, and no stream starts on an open session with the sequence byte at zero.
-/
def State.ThreadOwnsWire (state : State) : Event → Prop
  | .sessionClose _ => state.closesWithPair = true → state.thread.running = false
  | .streamStart spawned => state.device.streamRunning = false →
      (spawned = true → state.call ≠ .closeArming) ∧
        (state.device.hidrawOpen = true → state.device.tfSeq ≠ 0)
  | _ => True

def State.PairGuard (state : State) (event : Event) : Prop :=
  event.writesAccepted = true ∧ state.ThreadOwnsWire event

instance (state : State) (event : Event) : Decidable (state.PairGuard event) := by
  simp only [State.PairGuard]
  cases event <;> simp only [State.ThreadOwnsWire] <;> infer_instance

namespace Device

theorem write_accepted {device : Device} (opened : device.hidrawOpen = true) (packet : Packet) :
    device.write packet .accepted = ([packet], 0) := by
  simp [write, opened, WriteResult.rc]

theorem stopClear_accepted {device : Device} (opened : device.hidrawOpen = true)
    (unarmed : device.tfArmedIdle = false) :
    device.stopClear .accepted =
      (device.nextSeq, [.ctrl 0x04 device.tfSeq], .armPending) := by
  simp [stopClear, unarmed, opened, write_accepted opened]

theorem stopArm_accepted {device : Device} (opened : device.hidrawOpen = true) :
    device.stopArm .accepted =
      ({ device.nextSeq with tfArmedIdle := true }, [.ctrl 0x03 device.tfSeq], 0) := by
  simp [stopArm, write_accepted opened]

def SameSession (device next : Device) : Prop :=
  next.hidrawOpen = device.hidrawOpen ∧ next.tfInitialized = device.tfInitialized

/-- What a tick after its drain puts on the wire. -/
inductive Emission (device next : Device) : List Packet → Progress → Prop where
  | silent (armed : next.tfArmedIdle = device.tfArmedIdle) (seq : next.tfSeq = device.tfSeq)
      (rc : ℤ) : Emission device next [] (.returned rc)
  | lost (closed : device.hidrawOpen = false) (rc : ℤ) : Emission device next [] (.returned rc)
  | sample {packet : Packet} (opened : device.hidrawOpen = true) (isSample : packet.isSample)
      (packetSeq : packet.seq = device.tfSeq) (seq : next.tfSeq = device.tfSeq + 1) (rc : ℤ) :
      Emission device next [packet] (.returned rc)
  | clear (opened : device.hidrawOpen = true) (unarmed : device.tfArmedIdle = false)
      (stillUnarmed : next.tfArmedIdle = false) (seq : next.tfSeq = device.tfSeq + 1) :
      Emission device next [.ctrl 0x04 device.tfSeq] .armPending

theorem Emission.of_same {device moved next : Device} {packets : List Packet}
    {progress : Progress} (opened : moved.hidrawOpen = device.hidrawOpen)
    (armed : moved.tfArmedIdle = device.tfArmedIdle) (seq : moved.tfSeq = device.tfSeq)
    (emission : Emission moved next packets progress) :
    Emission device next packets progress := by
  cases emission with
  | silent sameArmed sameSeq rc => exact .silent (sameArmed.trans armed) (sameSeq.trans seq) rc
  | lost closed rc => exact .lost (opened ▸ closed) rc
  | sample isOpen isSample packetSeq nextSeq rc =>
      exact .sample (opened ▸ isOpen) isSample (seq ▸ packetSeq) (seq ▸ nextSeq) rc
  | clear isOpen unarmed stillUnarmed nextSeq =>
      rw [seq]
      exact .clear (opened ▸ isOpen) (armed ▸ unarmed) stillUnarmed (seq ▸ nextSeq)

theorem emitPacket_emission {device moved : Device} {packet : Packet}
    (opened : moved.hidrawOpen = device.hidrawOpen) (seq : moved.tfSeq = device.tfSeq)
    (isSample : packet.isSample) (packetSeq : packet.seq = device.tfSeq) :
    Emission device (moved.emitPacket packet .accepted).1
      (moved.emitPacket packet .accepted).2.1 (moved.emitPacket packet .accepted).2.2 := by
  cases isOpen : device.hidrawOpen with
  | false =>
      simp only [emitPacket, write, opened, isOpen, Bool.false_eq_true, ↓reduceIte]
      exact .lost isOpen _
  | true =>
      simp only [emitPacket, write_accepted (opened.trans isOpen)]
      exact .sample isOpen isSample packetSeq (congrArg (· + 1) seq) 0

theorem stopClear_emission (device : Device) :
    Emission device (device.stopClear .accepted).1
      (device.stopClear .accepted).2.1 (device.stopClear .accepted).2.2 := by
  cases armed : device.tfArmedIdle with
  | true =>
      simp only [stopClear, armed, ↓reduceIte]
      exact .silent rfl rfl 0
  | false =>
      cases opened : device.hidrawOpen with
      | false =>
          simp only [stopClear, armed, opened, Bool.false_eq_true, ↓reduceIte, Bool.not_false]
          exact .lost opened _
      | true =>
          rw [stopClear_accepted opened armed]
          exact .clear opened armed armed rfl

theorem advance_session (device : Device) (newSamples : List UInt16) :
    device.SameSession (device.advance newSamples) ∧
      (device.advance newSamples).tfArmedIdle = device.tfArmedIdle ∧
      (device.advance newSamples).tfSeq = device.tfSeq := by
  simp only [advance]
  repeat' split
  all_goals exact ⟨⟨rfl, rfl⟩, rfl, rfl⟩

theorem stopClear_session (device : Device) (result : WriteResult) :
    device.SameSession (device.stopClear result).1 := by
  simp only [stopClear]
  repeat' split
  all_goals exact ⟨rfl, rfl⟩

theorem emitIdle_emission (device : Device) (armedIdle : Bool) :
    device.SameSession (device.emitIdle armedIdle .accepted).1 ∧
      Emission device (device.emitIdle armedIdle .accepted).1
        (device.emitIdle armedIdle .accepted).2.1 (device.emitIdle armedIdle .accepted).2.2 := by
  simp only [emitIdle]
  repeat' split
  · exact ⟨⟨rfl, rfl⟩, .silent rfl rfl 0⟩
  · have cleared := stopClear_emission { device with tfIdleTicks := 0 }
    refine ⟨stopClear_session _ _, .of_same ?_ ?_ ?_ cleared⟩ <;> rfl
  · exact ⟨⟨rfl, rfl⟩, emitPacket_emission rfl rfl rfl rfl⟩
  · exact ⟨⟨rfl, rfl⟩, emitPacket_emission rfl rfl rfl rfl⟩

theorem tickEmit_emission (device : Device) (paused armedIdle : Bool)
    (newSamples : List UInt16) :
    device.SameSession (device.tickEmit paused armedIdle newSamples .accepted).1 ∧
      Emission device (device.tickEmit paused armedIdle newSamples .accepted).1
        (device.tickEmit paused armedIdle newSamples .accepted).2.1
        (device.tickEmit paused armedIdle newSamples .accepted).2.2 := by
  rcases device.advance_session newSamples with ⟨session, armed, seq⟩
  simp only [tickEmit]
  split
  · exact ⟨session, .silent armed seq 0⟩
  · split
    · rcases (device.advance newSamples).emitIdle_emission armedIdle with ⟨same, emission⟩
      refine ⟨?_, emission.of_same session.1 armed seq⟩
      exact ⟨same.1.trans session.1, same.2.trans session.2⟩
    · exact ⟨session, emitPacket_emission session.1 seq rfl seq⟩

theorem pushCopy_session (device : Device) (samples : List Int16) :
    device.SameSession (device.pushCopy samples) ∧
      (device.pushCopy samples).tfArmedIdle = device.tfArmedIdle ∧
      (device.pushCopy samples).tfSeq = device.tfSeq := by
  rw [pushCopy_eq, shedBacklog]
  split <;> simp [SameSession, noteDropped, copied]

theorem streamRecordError_session (device : Device) (rc : ℤ) :
    device.SameSession (device.streamRecordError rc) ∧
      (device.streamRecordError rc).tfArmedIdle = device.tfArmedIdle ∧
      (device.streamRecordError rc).tfSeq = device.tfSeq := by
  simp only [streamRecordError]
  split <;> exact ⟨⟨rfl, rfl⟩, rfl, rfl⟩

end Device

/-- The thread is back at its poll, or has left, and the session is as it was. -/
structure State.Settled (state next : State) : Prop where
  session : state.device.SameSession next.device
  armed : next.device.tfArmedIdle = state.device.tfArmedIdle
  seq : next.device.tfSeq = state.device.tfSeq
  call : next.call = state.call
  wire : next.wire = state.wire
  thread : next.thread = .polling ∨ next.thread = .exited

theorem State.tickReturn_settled (state : State) (rc : ℤ) :
    state.Settled (state.tickReturn rc) := by
  rcases state.device.streamRecordError_session rc with ⟨session, armed, seq⟩
  simp only [State.tickReturn]
  split
  · exact ⟨session, armed, seq, rfl, rfl, .inr rfl⟩
  · exact ⟨⟨rfl, rfl⟩, rfl, rfl, rfl, rfl, .inl rfl⟩

theorem State.pairReturn_settled (state : State) (requested : Bool) (rc : ℤ) :
    state.Settled (state.pairReturn requested rc) := by
  simp only [State.pairReturn]
  cases requested with
  | false => exact state.tickReturn_settled rc
  | true =>
      have settled := State.tickReturn_settled
        { state with device := { state.device with tfTeardownPending := false } } rc
      exact ⟨settled.session, settled.armed, settled.seq, settled.call, settled.wire,
        settled.thread⟩

namespace Paired

variable {state next : State}

theorem call_isArming (paired : Paired state) (live : state.thread.running = true) :
    state.call.isArming = false := by
  cases arming : state.call.isArming with
  | false => rfl
  | true =>
      have stopped := paired.alone arming
      rw [live] at stopped
      cases stopped

/-- A step of the running thread, which writes alone. -/
theorem of_thread (paired : Paired state) (live : state.thread.running = true)
    (session : state.device.SameSession next.device) (call : next.call = state.call)
    (orderly : Orderly next.wire next.device.hidrawOpen next.device.tfArmedIdle
      next.device.tfSeq next.thread.isArming) :
    Paired next := by
  have free := paired.call_isArming live
  refine ⟨?_, ?_, ?_⟩
  · rw [session.1, session.2]
    exact paired.session
  · intro arming
    rw [call, free] at arming
    cases arming
  · rw [State.pairOpen, call, free, Bool.or_false]
    exact orderly

theorem orderly_live (paired : Paired state) (live : state.thread.running = true) :
    Orderly state.wire state.device.hidrawOpen state.device.tfArmedIdle state.device.tfSeq
      state.thread.isArming := by
  have orderly := paired.orderly
  rw [State.pairOpen, paired.call_isArming live, Bool.or_false] at orderly
  exact orderly

/-- The thread returns from a tick after which the wire is in order. -/
theorem of_settled {between : State} (paired : Paired state) (live : state.thread.running = true)
    (session : state.device.SameSession between.device) (call : between.call = state.call)
    (orderly : Orderly between.wire between.device.hidrawOpen between.device.tfArmedIdle
      between.device.tfSeq false)
    (settled : between.Settled next) :
    Paired next := by
  apply paired.of_thread live
  · exact ⟨settled.session.1.trans session.1, settled.session.2.trans session.2⟩
  · exact settled.call.trans call
  · have notArming : next.thread.isArming = false := by
      rcases settled.thread with rest | rest <;> rw [rest] <;> rfl
    rw [notArming, settled.wire, settled.session.1, settled.armed, settled.seq]
    exact orderly

end Paired

/-- What the thread's write leaves on the wire, in the gap of a pair or not. -/
theorem Orderly.emission {wire packets : List Packet} {device next : Device}
    {progress : Progress}
    (orderly : Orderly wire device.hidrawOpen device.tfArmedIdle device.tfSeq false)
    (session : device.SameSession next) (emission : device.Emission next packets progress) :
    Orderly (wire ++ packets) next.hidrawOpen next.tfArmedIdle next.tfSeq
      (progress = .armPending) := by
  rw [session.1]
  cases emission with
  | silent armed seq rc =>
      rw [armed, seq, List.append_nil]
      exact orderly
  | lost closed rc =>
      rw [closed] at orderly ⊢
      rw [List.append_nil]
      exact orderly.of_closed _ _
  | sample opened isSample packetSeq seq rc =>
      rw [opened] at orderly ⊢
      rw [seq]
      exact orderly.sample isSample packetSeq _
  | clear opened unarmed stillUnarmed seq =>
      rw [opened, unarmed] at orderly
      rw [opened, stillUnarmed, seq]
      exact orderly.clear

namespace Paired

variable {state next : State}

theorem tick (paired : Paired state) (polling : state.thread = .polling) :
    Paired (state.tick .accepted) := by
  have live : state.thread.running = true := by rw [polling]; rfl
  have orderly := paired.orderly_live live
  have idle : state.thread.isArming = false := by rw [polling]; rfl
  rw [idle] at orderly
  simp only [State.tick]
  split
  · have session := state.device.stopClear_session .accepted
    have written := orderly.emission session state.device.stopClear_emission
    split
    · rename_i armPending
      rw [armPending] at written
      exact paired.of_thread live session rfl written
    · rename_i rc returned
      rw [returned] at written
      refine paired.of_settled live session ?_ written (State.pairReturn_settled _ true rc)
      rfl
  · exact paired.of_thread live ⟨rfl, rfl⟩ rfl orderly

theorem tickDrain (paired : Paired state) {paused armedIdle : Bool}
    (draining : state.thread = .draining paused armedIdle) (expiries : ℕ) :
    Paired (state.tickDrain paused armedIdle expiries) := by
  have live : state.thread.running = true := by rw [draining]; rfl
  have orderly := paired.orderly_live live
  rw [draining] at orderly
  exact paired.of_thread live ⟨rfl, rfl⟩ rfl orderly

theorem tickEmit (paired : Paired state) {paused armedIdle : Bool} {newSamples : List UInt16}
    (emitting : state.thread = .emitting paused armedIdle newSamples) :
    Paired (state.tickEmit paused armedIdle newSamples .accepted) := by
  have live : state.thread.running = true := by rw [emitting]; rfl
  have orderly := paired.orderly_live live
  have idle : state.thread.isArming = false := by rw [emitting]; rfl
  rw [idle] at orderly
  rcases state.device.tickEmit_emission paused armedIdle newSamples with ⟨session, emission⟩
  have written := orderly.emission session emission
  simp only [State.tickEmit]
  split
  · rename_i armPending
    rw [armPending] at written
    exact paired.of_thread live session rfl written
  · rename_i rc returned
    rw [returned] at written
    refine paired.of_settled live session ?_ written (State.tickReturn_settled _ rc)
    rfl

theorem tickArm (paired : Paired state) {requested : Bool}
    (arming : state.thread = .arming requested) :
    Paired (state.tickArm requested .accepted) := by
  have live : state.thread.running = true := by rw [arming]; rfl
  have orderly := paired.orderly_live live
  have inGap : state.thread.isArming = true := by rw [arming]; rfl
  rw [inGap] at orderly
  have opened : state.device.hidrawOpen = true := by
    cases isOpen : state.device.hidrawOpen with
    | true => rfl
    | false => exact absurd (orderly.closed isOpen).1 (by simp)
  rw [opened] at orderly
  simp only [State.tickArm, Device.stopArm_accepted opened]
  refine paired.of_settled live ?_ ?_ ?_ (State.pairReturn_settled _ requested 0)
  · exact ⟨rfl, rfl⟩
  · rfl
  · simp only [Device.nextSeq, opened]
    exact orderly.arm

theorem of_same (paired : Paired state) (session : state.device.SameSession next.device)
    (armed : next.device.tfArmedIdle = state.device.tfArmedIdle)
    (seq : next.device.tfSeq = state.device.tfSeq) (thread : next.thread = state.thread)
    (call : next.call = state.call) (wire : next.wire = state.wire) :
    Paired next := by
  refine ⟨?_, ?_, ?_⟩
  · rw [session.1, session.2]
    exact paired.session
  · rw [call, thread]
    exact paired.alone
  · rw [State.pairOpen, thread, call, wire, session.1, armed, seq]
    exact paired.orderly

theorem sessionEnsure (paired : Paired state) {opening : Device.Opening}
    (accepted : (Event.sessionEnsure opening).writesAccepted = true) :
    Paired (state.sessionEnsure opening) := by
  cases opened : state.device.hidrawOpen with
  | true =>
      have kept : state.device.sessionEnsure opening = (state.device, []) := by
        simp [Device.sessionEnsure, paired.session, opened]
      simp only [State.sessionEnsure, kept, List.append_nil]
      exact paired.of_same ⟨rfl, rfl⟩ rfl rfl rfl rfl rfl
  | false =>
      cases opening with
      | notOpened =>
          simp only [State.sessionEnsure, Device.sessionEnsure, opened, Bool.and_false,
            Bool.false_eq_true, ↓reduceIte, List.append_nil]
          exact paired.of_same ⟨rfl, rfl⟩ rfl rfl rfl rfl rfl
      | initRefused sent => cases accepted
      | opened =>
          have orderly := paired.orderly
          rw [opened] at orderly
          simp only [State.sessionEnsure, Device.sessionEnsure, opened, Bool.and_false,
            Bool.false_eq_true, ↓reduceIte]
          exact ⟨rfl, paired.alone, orderly.init⟩

theorem streamStart (paired : Paired state) (lifecycle : Lifecycle state) {spawned : Bool}
    (owned : state.ThreadOwnsWire (.streamStart spawned)) :
    Paired (state.streamStart spawned) := by
  simp only [State.streamStart]
  split
  · exact paired
  · rename_i notRunning
    rw [Bool.not_eq_true] at notRunning
    rcases owned notRunning with ⟨noGap, seqSet⟩
    have absent := lifecycle.absent notRunning
    have notStopping : state.call.isStopping = false := by
      by_contra stopping
      rw [Bool.not_eq_false] at stopping
      rw [lifecycle.stopping stopping] at notRunning
      cases notRunning
    have orderly : Orderly state.wire state.device.hidrawOpen state.device.tfArmedIdle
        state.device.streamReset.tfSeq state.pairOpen := by
      have orderly := paired.orderly
      cases opened : state.device.hidrawOpen with
      | false =>
          rw [opened] at orderly
          exact orderly.of_closed _ _
      | true =>
          rw [opened] at orderly
          simp only [Device.streamReset, seqSet opened, ↓reduceIte]
          exact orderly
    split
    · rename_i spawns
      have free : state.call.isArming = false := by
        have noGap := noGap spawns
        cases call : state.call <;> simp_all [CallPhase.isArming, CallPhase.isStopping]
      rw [State.pairOpen, absent, free] at orderly
      refine ⟨paired.session, ?_, ?_⟩
      · intro arming
        rw [free] at arming
        cases arming
      · simp only [State.pairOpen, free]
        exact orderly
    · exact ⟨paired.session, paired.alone, orderly⟩

theorem hidrawOpen (paired : Paired state) (inGap : state.pairOpen = true) :
    state.device.hidrawOpen = true := by
  cases isOpen : state.device.hidrawOpen with
  | true => rfl
  | false => simp [(paired.orderly.closed isOpen).1] at inGap

/-- In the gap of a pair a session close would want a pair of its own. -/
theorem closesWithPair (paired : Paired state) (inGap : state.pairOpen = true) :
    state.closesWithPair = true := by
  have opened := paired.hidrawOpen inGap
  rcases paired.orderly.opened opened with ⟨_, _, ending⟩
  simp [State.closesWithPair, paired.session, opened, (ending.gap inGap).1]

theorem of_stopReturn (session : state.device.tfInitialized = state.device.hidrawOpen)
    (absent : state.thread = .absent)
    (settled : Orderly state.wire state.device.hidrawOpen state.device.tfArmedIdle
      state.device.tfSeq false) :
    Paired state.stopReturn := by
  refine ⟨session, nofun, ?_⟩
  simp only [State.stopReturn, State.pairOpen, absent]
  exact settled

theorem of_closeReturn {hidrawOpen armedIdle : Bool}
    (notArming : state.thread.isArming = false)
    (settled : Orderly state.wire hidrawOpen armedIdle state.device.tfSeq false) :
    Paired state.closeReturn := by
  refine ⟨rfl, nofun, ?_⟩
  simp only [State.closeReturn, State.pairOpen, notArming]
  exact settled.close

theorem stopJoin (paired : Paired state) (refusing : state.call = .stopRefusing)
    (answers : state.thread = .polling ∨ state.thread = .exited) :
    Paired (state.stopJoin .accepted) := by
  have settled : state.pairOpen = false := by
    rcases answers with thread | thread <;> rw [State.pairOpen, thread, refusing] <;> rfl
  have orderly := paired.orderly
  rw [settled] at orderly
  simp only [State.stopJoin]
  split
  · rename_i sends
    simp only [Bool.and_eq_true, Bool.not_eq_true'] at sends
    have opened : state.device.hidrawOpen = true := paired.session ▸ sends.1
    rw [opened, sends.2] at orderly
    simp only [Device.stopClear_accepted opened sends.2]
    refine ⟨paired.session, fun _ => rfl, ?_⟩
    simp only [Device.nextSeq, opened, sends.2]
    exact orderly.clear
  · exact of_stopReturn paired.session rfl orderly

theorem stopArm (paired : Paired state) (lifecycle : Lifecycle state)
    (arming : state.call = .stopArming) :
    Paired (state.stopArm .accepted) := by
  have absent := lifecycle.joined arming
  have inGap : state.pairOpen = true := by rw [State.pairOpen, arming, absent]; rfl
  have opened := paired.hidrawOpen inGap
  have orderly := paired.orderly
  rw [inGap, opened] at orderly
  simp only [State.stopArm, Device.stopArm_accepted opened]
  refine of_stopReturn paired.session absent ?_
  simp only [Device.nextSeq, opened]
  exact orderly.arm

theorem sessionClose (paired : Paired state) (free : state.call = .free)
    (owned : state.ThreadOwnsWire (.sessionClose .accepted)) :
    Paired (state.sessionClose .accepted) := by
  have orderly := paired.orderly
  simp only [State.sessionClose]
  split
  · rename_i sends
    have stopped := owned sends
    have settled : state.pairOpen = false := by
      rw [State.pairOpen, free]
      cases thread : state.thread <;> simp_all [ThreadPhase.running, ThreadPhase.isArming,
        CallPhase.isArming]
    simp only [Bool.and_eq_true, Bool.not_eq_true'] at sends
    rcases sends with ⟨⟨opened, _⟩, unarmed⟩
    rw [settled, opened, unarmed] at orderly
    simp only [Device.stopClear_accepted opened unarmed]
    refine ⟨paired.session, fun _ => stopped, ?_⟩
    simp only [Device.nextSeq, opened, unarmed, State.pairOpen, CallPhase.isArming, Bool.or_true]
    exact orderly.clear
  · rename_i skips
    have settled : state.pairOpen = false := by
      by_contra inGap
      exact skips (paired.closesWithPair (by simpa using inGap))
    have notArming : state.thread.isArming = false := by
      simp only [State.pairOpen, Bool.or_eq_false_iff] at settled
      exact settled.1
    rw [settled] at orderly
    exact of_closeReturn notArming orderly

theorem closeArm (paired : Paired state) (arming : state.call = .closeArming) :
    Paired (state.closeArm .accepted) := by
  have inGap : state.pairOpen = true := by simp [State.pairOpen, arming, CallPhase.isArming]
  have stopped : state.thread.running = false := by
    apply paired.alone
    rw [arming]
    rfl
  have notArming : state.thread.isArming = false := by
    cases thread : state.thread <;> simp_all [ThreadPhase.running, ThreadPhase.isArming]
  have opened := paired.hidrawOpen inGap
  have orderly := paired.orderly
  rw [inGap, opened] at orderly
  simp only [State.closeArm, Device.stopArm_accepted opened]
  exact of_closeReturn notArming orderly.arm

theorem step {event : Event} (paired : Paired state) (lifecycle : Lifecycle state)
    (guarded : state.PairGuard event)
    (stepped : state.step event = some next) :
    Paired next := by
  rcases guarded with ⟨accepted, owned⟩
  cases State.step_cases stepped with
  | sessionEnsure opening => exact paired.sessionEnsure accepted
  | streamStart spawned => exact paired.streamStart lifecycle owned
  | push =>
      simp only [State.push]
      split
      · exact paired
      · exact paired.of_same ⟨rfl, rfl⟩ rfl rfl rfl rfl rfl
  | @pushCopy _ samples _ =>
      rcases state.device.pushCopy_session samples with ⟨session, armed, seq⟩
      simp only [State.pushCopy]
      split
      · apply paired.of_same
        · simpa only using session
        · simpa only using armed
        · simpa only using seq
        · rfl
        · rfl
        · rfl
      · exact paired.of_same ⟨rfl, rfl⟩ rfl rfl rfl rfl rfl
  | pause =>
      simp only [State.pause]
      repeat' split
      · exact paired
      · exact paired.of_same ⟨rfl, rfl⟩ rfl rfl rfl rfl rfl
      · exact paired.of_same ⟨rfl, rfl⟩ rfl rfl rfl rfl rfl
  | clear | clearWindow | pauseEnd | resume =>
      exact paired.of_same ⟨rfl, rfl⟩ rfl rfl rfl rfl rfl
  | tick polling result =>
      cases of_decide_eq_true accepted
      exact paired.tick polling
  | tickDrain draining expiries => exact paired.tickDrain draining expiries
  | tickEmit emitting result =>
      cases of_decide_eq_true accepted
      exact paired.tickEmit emitting
  | tickArm arming result =>
      cases of_decide_eq_true accepted
      exact paired.tickArm arming
  | threadFail polling rc =>
      rcases state.device.streamRecordError_session rc with ⟨session, armed, seq⟩
      have live : state.thread.running = true := by rw [polling]; rfl
      have orderly := paired.orderly_live live
      rw [polling, ← session.1, ← armed, ← seq] at orderly
      exact paired.of_thread live session rfl orderly
  | streamStop free =>
      have orderly := paired.orderly
      rw [State.pairOpen, free] at orderly
      exact ⟨paired.session, by simp [CallPhase.isArming], orderly⟩
  | streamStopIdle => exact paired
  | stopRefuse captured =>
      have orderly := paired.orderly
      rw [State.pairOpen, captured] at orderly
      exact ⟨paired.session, by simp [CallPhase.isArming], orderly⟩
  | stopJoin refusing answers result =>
      cases of_decide_eq_true accepted
      exact paired.stopJoin refusing answers
  | stopArm arming result =>
      cases of_decide_eq_true accepted
      exact paired.stopArm lifecycle arming
  | sessionClose free result =>
      cases of_decide_eq_true accepted
      exact paired.sessionClose free owned
  | closeArm arming result =>
      cases of_decide_eq_true accepted
      exact paired.closeArm arming

theorem of_reachable (reachable : stream.ReachableUnder State.PairGuard state) :
    Lifecycle state ∧ Paired state := by
  apply System.ReachableUnder.invariant reachable
  · intro start discovered
    cases discovered
    exact ⟨.discovered, rfl, nofun, List.isChain_nil, fun _ => ⟨rfl, nofun⟩, nofun⟩
  · intro current event next held guarded stepped
    rcases held with ⟨lifecycle, paired⟩
    exact ⟨lifecycle.step stepped, paired.step lifecycle guarded stepped⟩

end Paired

/-- The pairs on the wire are whole, up to a last 0x04 in the gap of its pair. -/
structure WirePaired (wire : List Packet) (pairOpen : Bool) : Prop where
  armed : ∀ before seq after, wire = before ++ .ctrl 0x04 seq :: after →
    (after = [] ∧ pairOpen = true) ∨ ∃ rest, after = .ctrl 0x03 (seq + 1) :: rest
  fed : ∀ before first middle second after,
    wire = before ++ .ctrl 0x04 first :: (middle ++ .ctrl 0x04 second :: after) →
    ∃ packet ∈ middle, packet.isSample ∨ packet.isInit
  consecutive : ∀ before first second after, wire = before ++ first :: second :: after →
    second.isInit = false → second.seq = first.seq + 1

theorem follows_of_chain {wire before after : List Packet} {first second : Packet}
    (chain : wire.IsChain Packet.Follows) (split : wire = before ++ first :: second :: after) :
    first.Follows second := by
  rw [split] at chain
  exact (List.isChain_append_cons_cons.mp chain).2.1

theorem fed_of_chain {wire before middle after : List Packet} {first second : UInt8}
    (chain : wire.IsChain Packet.Follows)
    (split : wire = before ++ .ctrl 0x04 first :: (middle ++ .ctrl 0x04 second :: after)) :
    ∃ packet ∈ middle, packet.isSample ∨ packet.isInit := by
  rcases middle with _ | ⟨arm, _ | ⟨feed, middle⟩⟩
  · cases (follows_of_chain chain split).armed first rfl
  · have armed := (follows_of_chain chain split).armed first rfl
    subst armed
    have split : wire = (before ++ [.ctrl 0x04 first]) ++
        .ctrl 0x03 (first + 1) :: .ctrl 0x04 second :: after := by
      rw [split]
      simp
    have fed := (follows_of_chain chain split).fed _ rfl
    simp [Packet.isSample, Packet.isInit] at fed
  · have armed := (follows_of_chain chain split).armed first rfl
    subst armed
    have split : wire = (before ++ [.ctrl 0x04 first]) ++
        .ctrl 0x03 (first + 1) :: feed :: (middle ++ .ctrl 0x04 second :: after) := by
      rw [split]
      simp
    exact ⟨feed, by simp, (follows_of_chain chain split).fed _ rfl⟩

theorem Orderly.wirePaired {wire : List Packet} {hidrawOpen armedIdle pairOpen : Bool}
    {tfSeq : UInt8} (orderly : Orderly wire hidrawOpen armedIdle tfSeq pairOpen) :
    WirePaired wire pairOpen where
  armed := by
    intro before seq after split
    cases after with
    | nil =>
        have last : wire.getLast? = some (.ctrl 0x04 seq) := by
          rw [split, List.getLast?_concat]
        refine .inl ⟨rfl, ?_⟩
        cases opened : hidrawOpen with
        | false => exact absurd last ((orderly.closed opened).2 seq)
        | true =>
            rcases orderly.opened opened with ⟨packet, ends, ending⟩
            rw [last, Option.some.injEq] at ends
            by_contra settled
            rw [Bool.not_eq_true] at settled
            exact ending.settled settled seq ends.symm
    | cons next rest =>
        have armed := (follows_of_chain orderly.chain split).armed seq rfl
        exact .inr ⟨rest, by rw [armed]⟩
  fed := fun _ _ _ _ _ split => fed_of_chain orderly.chain split
  consecutive := fun _ _ _ _ split notInit =>
    (follows_of_chain orderly.chain split).consecutive notInit

/--
In every interleaving with its writes accepted in which no session close sends
its pair beside a running thread, no thread is spawned in the gap of that pair
and no stream starts on an open session with the sequence byte at zero, each 0x04
is directly followed by its 0x03, two pairs have a sample packet or an init
packet between them, and the sequence bytes are consecutive between inits.
-/
theorem teardown_pairs_whole_when_thread_owns_wire {state : State}
    (reachable : stream.ReachableUnder State.PairGuard state) :
    WirePaired state.wire state.pairOpen :=
  (Paired.of_reachable reachable).2.orderly.wirePaired

/-- A push that races a close: the stream starts in the gap of the close's pair. -/
theorem close_pair_split_by_stream_start :
    ∃ state, stream.ReachableUnder (fun _ event => event.writesAccepted = true) state ∧
      ¬ WirePaired state.wire state.pairOpen := by
  have executed := System.ReachableUnder.of_check stream
    (fun _ event => event.writesAccepted = true) State.discovered
    [.sessionEnsure .opened, .streamStop, .sessionClose .accepted, .streamStart true,
      .tick .accepted, .tickDrain 1, .tickEmit .accepted, .closeArm .accepted]
    (fun state => state.wire =
      Device.initPackets ++ [.ctrl 0x04 69, .idle 70 0x8000, .ctrl 0x03 71]) rfl
    (by decide) (by decide)
  rcases executed with ⟨state, reachable, seen⟩
  simp only [decide_eq_true_eq] at seen
  refine ⟨state, reachable, ?_⟩
  intro paired
  rcases paired.armed _ _ _ seen with ⟨more, _⟩ | ⟨rest, arm⟩
  · cases more
  · cases arm

/-- A stream with a sample, its stop with a pair, a second stream and the close. -/
theorem two_streams_have_whole_pairs :
    ∃ state, stream.ReachableUnder State.PairGuard state ∧
      (state.wire.filter fun packet => !packet.isInit) =
        [.stream 69 0x8001 (List.replicate 12 0x8000 ++ [0x8001]) 1, .ctrl 0x04 70,
          .ctrl 0x03 71, .stream 72 0x8002 (List.replicate 12 0x8000 ++ [0x8002]) 1,
          .ctrl 0x04 73, .ctrl 0x03 74] ∧
      WirePaired state.wire state.pairOpen := by
  have executed := System.ReachableUnder.of_check stream State.PairGuard State.discovered
    [.sessionEnsure .opened, .streamStart true, .push [1], .pushCopy 0, .tick .accepted,
      .tickDrain 1, .tickEmit .accepted, .streamStop, .stopRefuse, .stopJoin .accepted,
      .stopArm .accepted, .streamStart true, .push [2], .pushCopy 0, .tick .accepted,
      .tickDrain 1, .tickEmit .accepted, .pause, .tick .accepted, .tickArm .accepted, .pauseEnd,
      .streamStop, .stopRefuse, .stopJoin .accepted, .sessionClose .accepted]
    (fun state => (state.wire.filter fun packet => !packet.isInit) =
        [.stream 69 0x8001 (List.replicate 12 0x8000 ++ [0x8001]) 1, .ctrl 0x04 70,
          .ctrl 0x03 71, .stream 72 0x8002 (List.replicate 12 0x8000 ++ [0x8002]) 1,
          .ctrl 0x04 73, .ctrl 0x03 74]) rfl
    (by decide) (by decide)
  rcases executed with ⟨state, reachable, seen⟩
  simp only [decide_eq_true_eq] at seen
  exact ⟨state, reachable, seen, teardown_pairs_whole_when_thread_owns_wire reachable⟩

end TrueForce.Stream
