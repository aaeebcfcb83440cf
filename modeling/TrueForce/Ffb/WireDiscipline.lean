import TrueForce.Ffb.Contract

/-!
# The wire discipline of the texture channel

The TrueForce packets of a run, in a log that also marks the end of each tick, the
end of the init and each try at a recentre packet.  The ticks are arbitrary: any
texture activity, samples, forces and settings, and any pattern of drops.  No other
process owns the stream.

The flags of the wind-down outlive it in four ways, and each has a guard.  A recentre
packet that is tried again may come after the `0x04`; a dropped one leaves a window
that the wheel never saw; the flag of a sent one survives into a texture that needs
no new start; and the attempts at the teardown pair are counted across other ticks.
-/

namespace TrueForce.Ffb

open TrueForce.Transition

inductive Phase where
  | texture
  | windDown
  | rest
  deriving DecidableEq, Repr

inductive Entry where
  | init
  /-- A recentre packet is tried. -/
  | recentre
  | control (phase : Phase) (command : TfCommand) (seq : UInt8)
  | stream (phase : Phase) (seq : UInt8) (window : List ℕ)
  /-- The end of a tick, and whether it has tried the teardown pair and not completed it. -/
  | tickEnd (failed : Bool)
  deriving DecidableEq, Repr

/-- Newest first. -/
abbrev WireLog := List Entry

namespace WireLog

def nextSeq : WireLog → Option UInt8
  | [] => none
  | .init :: _ => some tfSeqAfterInit
  | .control _ _ seq :: _ => some (seq + 1)
  | .stream _ seq _ :: _ => some (seq + 1)
  | .recentre :: earlier => nextSeq earlier
  | .tickEnd _ :: earlier => nextSeq earlier

/-- The last control packet since the init. -/
def lastControl : WireLog → Option TfCommand
  | [] => none
  | .init :: _ => none
  | .control _ command _ :: _ => some command
  | .stream _ _ _ :: earlier => lastControl earlier
  | .recentre :: earlier => lastControl earlier
  | .tickEnd _ :: earlier => lastControl earlier

def lastWindow : WireLog → Option (List ℕ)
  | [] => none
  | .stream _ _ window :: _ => some window
  | .init :: earlier => lastWindow earlier
  | .control _ _ _ :: earlier => lastWindow earlier
  | .recentre :: earlier => lastWindow earlier
  | .tickEnd _ :: earlier => lastWindow earlier

/-- A recentre packet has been tried since the last stream packet. -/
def recentreLost : WireLog → Bool
  | [] => false
  | .recentre :: _ => true
  | .stream _ _ _ :: _ => false
  | .init :: earlier => recentreLost earlier
  | .control _ _ _ :: earlier => recentreLost earlier
  | .tickEnd _ :: earlier => recentreLost earlier

/-- New samples have been queued since the last try at a recentre packet. -/
def textured : WireLog → Bool
  | [] => false
  | .recentre :: _ => false
  | .stream phase _ _ :: earlier => phase == .texture || textured earlier
  | .init :: earlier => textured earlier
  | .control _ _ _ :: earlier => textured earlier
  | .tickEnd _ :: earlier => textured earlier

/-- The number of failed ticks since the last other tick. -/
def failStreak : WireLog → ℕ
  | [] => 0
  | .tickEnd failed :: earlier => if failed then failStreak earlier + 1 else 0
  | .init :: earlier => failStreak earlier
  | .recentre :: earlier => failStreak earlier
  | .control _ _ _ :: earlier => failStreak earlier
  | .stream _ _ _ :: earlier => failStreak earlier

/-- Since the last control packet a tick has been the last of so many consecutive failed ones. -/
def gaveUp : WireLog → Bool
  | [] => false
  | .control _ _ _ :: _ => false
  | .tickEnd failed :: earlier =>
      decide (tfStopMaxAttempts ≤ failStreak (.tickEnd failed :: earlier)) || gaveUp earlier
  | .init :: earlier => gaveUp earlier
  | .recentre :: earlier => gaveUp earlier
  | .stream _ _ _ :: earlier => gaveUp earlier

end WireLog

open WireLog

/-- The nine oldest slots repeat the nine newest of the packet before. -/
def Continues (window last : List ℕ) : Prop :=
  window.take (tfWindowSlots - tfNewSamples) = last.drop tfNewSamples

def Centred (window : List ℕ) : Prop := ∀ slot ∈ window, slot = centre

instance : DecidablePred Centred :=
  fun window => inferInstanceAs (Decidable (∀ slot ∈ window, slot = centre))

/-- What may follow the log so far. -/
def Entry.Allowed : Entry → WireLog → Prop
  | .control phase command seq, earlier =>
      (∀ next ∈ nextSeq earlier, seq = next) ∧
        (command = .stop →
          (phase = .windDown → textured earlier = false) ∧
            (lastControl earlier = some .stop → gaveUp earlier = true))
  | .stream _ seq window, earlier =>
      (∀ next ∈ nextSeq earlier, seq = next) ∧ lastControl earlier = some .start ∧
        ∀ last ∈ lastWindow earlier, Centred window ∨ Continues window last
  | .init, _ => True
  | .recentre, _ => True
  | .tickEnd _, _ => True

def Disciplined : WireLog → Prop
  | [] => True
  | entry :: earlier => entry.Allowed earlier ∧ Disciplined earlier

instance (entry : Entry) (earlier : WireLog) : Decidable (entry.Allowed earlier) := by
  cases entry <;> simp only [Entry.Allowed, Continues] <;> infer_instance

instance decidableDisciplined : ∀ log, Decidable (Disciplined log)
  | [] => isTrue trivial
  | entry :: earlier =>
      have := decidableDisciplined earlier
      inferInstanceAs (Decidable (entry.Allowed earlier ∧ Disciplined earlier))

def Entry.of (phase : Phase) : Packet → Option Entry
  | .force _ => none
  | .control command seq => some (.control phase command seq)
  | .stream seq _ window => some (.stream phase seq window)

def Entry.isStart : Entry → Bool
  | .control _ .start _ => true
  | _ => false

/-- The packets of the texture channel that `next` has queued since `carrier`, newest first. -/
def newEntries (phase : Phase) (carrier next : Carrier) : WireLog :=
  (next.queued.take (next.queued.length - carrier.queued.length)).filterMap (Entry.of phase)

namespace Carrier

/-- A running engine whose next tick sends on this carrier. -/
def running (carrier : Carrier) (tunables : Tunables) : State :=
  { State.start tunables with carrier := carrier, initialized := true }

def sendTick (carrier : Carrier) (tunables : Tunables) (tick : Tick) (env : SendEnv) : Carrier :=
  ((carrier.running tunables).sendTick tick env).carrier

def phase (carrier : Carrier) (tick : Tick) : Phase :=
  if tick.anyTexture then .texture else if carrier.tfStreaming then .windDown else .rest

def triesRecentre (carrier : Carrier) (tick : Tick) : Bool :=
  decide (carrier.phase tick = .windDown) && !carrier.tfRecentreSent

/-- The tick tries the teardown pair, to wind the stream down or to close the idle gate. -/
def triesPair (carrier : Carrier) (tunables : Tunables) (tick : Tick) : Bool :=
  match carrier.phase tick with
  | .texture => false
  | .windDown => true
  | .rest => (carrier.running tunables).idleTick tick &&
      decide (kfIdleGraceTicks ≤ carrier.kfIdleTicks) && !carrier.kfGated

end Carrier

structure Wired where
  carrier : Carrier
  log : WireLog
  deriving DecidableEq, Repr

inductive WireEvent where
  /-- The init has succeeded, and the sequence continues from it. -/
  | init
  | workDone
  | tick (tunables : Tunables) (tick : Tick) (env : SendEnv)

namespace Wired

def tick (wired : Wired) (tunables : Tunables) (tick : Tick) (env : SendEnv) : Wired :=
  let carrier := wired.carrier
  let next := carrier.sendTick tunables tick env
  let entries := newEntries (carrier.phase tick) carrier next
  let marks := if carrier.triesRecentre tick then [Entry.recentre] else []
  { carrier := next
    log := .tickEnd (carrier.triesPair tunables tick && !entries.any Entry.isStart) ::
      (entries ++ (marks ++ wired.log)) }

def step (wired : Wired) : WireEvent → Option Wired
  | .init =>
      if wired.carrier.tfStreaming then none
      else some
        { carrier := { wired.carrier with tfSeq := tfSeqAfterInit }, log := .init :: wired.log }
  | .workDone =>
      some { wired with
        carrier := { wired.carrier with pendingWork := wired.carrier.pendingWork - 1 } }
  | .tick tunables tick env =>
      if tick.samples.length = tfNewSamples ∧ env.foreignStream = false then
        some (wired.tick tunables tick env)
      else none

end Wired

/-- All runs of ticks of a driver whose stream nobody else owns. -/
def wire : System Wired WireEvent where
  initial wired := wired = ⟨.zero, []⟩
  step := Wired.step

namespace Carrier

/-- The `0x04` of the pair is out after this try and its `0x03` is refused. -/
def HalfSends (carrier : Carrier) (env : SendEnv) : Prop :=
  (carrier.sendStopHalf env).tfStopSent = true ∧
    (carrier.sendStopHalf env).RefusesRaw env.start

/-- The attempts count the failed ticks just before, if this try gives up with half the pair
out. -/
def CountsInARow (carrier : Carrier) (env : SendEnv) (log : WireLog) : Prop :=
  carrier.HalfSends env → tfStopMaxAttempts ≤ carrier.tfStopAttempts + 1 →
    carrier.tfStopAttempts ≤ failStreak log

instance (carrier : Carrier) (env : SendEnv) : Decidable (carrier.HalfSends env) :=
  inferInstanceAs (Decidable ((carrier.sendStopHalf env).tfStopSent = true ∧
    (carrier.sendStopHalf env).RefusesRaw env.start))

instance (carrier : Carrier) (env : SendEnv) (log : WireLog) :
    Decidable (carrier.CountsInARow env log) :=
  inferInstanceAs (Decidable (carrier.HalfSends env →
    tfStopMaxAttempts ≤ carrier.tfStopAttempts + 1 → carrier.tfStopAttempts ≤ failStreak log))

end Carrier

namespace Wired

/-- A texture that gets its packet out finds no recentre packet behind it: none was sent since the
start, and none was lost unless it leaves no trace in the windows. -/
def ResumesClean (wired : Wired) (tunables : Tunables) (tick : Tick) (env : SendEnv) : Prop :=
  match wired.carrier.tfOpen env with
  | (opened, true) => opened.RefusesRaw env.stream ∨
      ¬(wired.carrier.tfStreaming = true ∧ wired.carrier.tfStopSent = false ∧
        wired.carrier.tfRecentreSent = true) ∧
      (recentreLost wired.log = true → ∀ last ∈ lastWindow wired.log,
        Centred (tick.samples.map (Carrier.textureSlot tunables)) ∨
          Centred (last.drop tfNewSamples))
  | (_, false) => True

/-- A recentre packet that is tried behind a `0x04` is refused. -/
def RecentresFirst (wired : Wired) (env : SendEnv) : Prop :=
  wired.carrier.tfStopSent = true → wired.carrier.tfRecentreSent = false →
    wired.carrier.RefusesRaw env.stream

instance (wired : Wired) (env : SendEnv) : Decidable (wired.RecentresFirst env) :=
  inferInstanceAs (Decidable (wired.carrier.tfStopSent = true →
    wired.carrier.tfRecentreSent = false → wired.carrier.RefusesRaw env.stream))

def Meets (wired : Wired) : WireEvent → Prop
  | .init => True
  | .workDone => True
  | .tick tunables tick env =>
      match wired.carrier.phase tick with
      | .texture => wired.ResumesClean tunables tick env
      | .windDown => wired.RecentresFirst env ∧
          Carrier.CountsInARow (wired.carrier.sendRecentre env tick.force).1 env wired.log
      | .rest => wired.carrier.triesPair tunables tick = true →
          wired.carrier.CountsInARow env wired.log

theorem resumesClean_iff {wired : Wired} {tunables : Tunables} {tick : Tick} {env : SendEnv} :
    wired.ResumesClean tunables tick env ↔
      ((wired.carrier.tfOpen env).2 = true →
        (wired.carrier.tfOpen env).1.RefusesRaw env.stream ∨
          ¬(wired.carrier.tfStreaming = true ∧ wired.carrier.tfStopSent = false ∧
            wired.carrier.tfRecentreSent = true) ∧
          (recentreLost wired.log = true → ∀ last ∈ lastWindow wired.log,
            Centred (tick.samples.map (Carrier.textureSlot tunables)) ∨
              Centred (last.drop tfNewSamples))) := by
  simp only [ResumesClean]
  split
  · rename_i opened outcome
    simp [outcome]
  · rename_i opened outcome
    simp [outcome]

theorem meets_tick_iff {wired : Wired} {tunables : Tunables} {tick : Tick} {env : SendEnv} :
    wired.Meets (.tick tunables tick env) ↔
      (wired.carrier.phase tick = .texture → wired.ResumesClean tunables tick env) ∧
      (wired.carrier.phase tick = .windDown → wired.RecentresFirst env ∧
        Carrier.CountsInARow (wired.carrier.sendRecentre env tick.force).1 env wired.log) ∧
      (wired.carrier.phase tick = .rest → wired.carrier.triesPair tunables tick = true →
        wired.carrier.CountsInARow env wired.log) := by
  simp only [Meets]
  cases wired.carrier.phase tick <;> simp

instance decidableResumesClean (wired : Wired) (tunables : Tunables) (tick : Tick)
    (env : SendEnv) : Decidable (wired.ResumesClean tunables tick env) :=
  decidable_of_iff _ resumesClean_iff.symm

instance decidableMeets (wired : Wired) : DecidablePred wired.Meets
  | .init => isTrue trivial
  | .workDone => isTrue trivial
  | .tick _ _ _ => decidable_of_iff _ meets_tick_iff.symm

end Wired

/-- `next` has queued exactly these packets of the texture channel since `carrier`. -/
def Emits (phase : Phase) (carrier next : Carrier) (entries : WireLog) : Prop :=
  ∃ packets, next.queued = packets ++ carrier.queued ∧
    packets.filterMap (Entry.of phase) = entries

namespace Emits

variable {phase : Phase} {carrier middle next : Carrier} {entries more : WireLog}

theorem same (queued : next.queued = carrier.queued) : Emits phase carrier next [] :=
  ⟨[], queued, rfl⟩

theorem trans (first : Emits phase carrier middle entries) (second : Emits phase middle next more) :
    Emits phase carrier next (more ++ entries) := by
  rcases first with ⟨packets, queued, rfl⟩
  rcases second with ⟨others, moreQueued, rfl⟩
  exact ⟨others ++ packets, by rw [moreQueued, queued, List.append_assoc],
    List.filterMap_append⟩

theorem newEntries_eq (emits : Emits phase carrier next entries) :
    newEntries phase carrier next = entries := by
  rcases emits with ⟨packets, queued, rfl⟩
  simp [newEntries, queued]

end Emits

/-- What the discipline of a tick leaves behind. -/
structure Orderly (carrier : Carrier) (log : WireLog) : Prop where
  seq : ∀ next ∈ nextSeq log, carrier.tfSeq = next
  armed : carrier.tfStreaming = true → carrier.tfStopSent = false →
    lastControl log = some .start
  recentred : carrier.tfRecentreSent = true → textured log = false
  window : recentreLost log = false → ∀ last ∈ lastWindow log, carrier.tfWindow = last
  lost : recentreLost log = true → carrier.tfWindow = List.replicate tfWindowSlots centre
  slots : carrier.tfWindow.length = tfWindowSlots
  whole : ∀ last ∈ lastWindow log, last.length = tfWindowSlots
  disciplined : Disciplined log

/-- A `0x04` is due only behind a start, or behind a tick that has given up. -/
def Halted (carrier : Carrier) (log : WireLog) : Prop :=
  carrier.tfStopSent = false → lastControl log = some .stop → gaveUp log = true

/-- `next` has queued nothing on the texture channel and moved none of its flags. -/
structure Silent (carrier next : Carrier) : Prop where
  emits : ∀ phase, Emits phase carrier next []
  tfStreaming : next.tfStreaming = carrier.tfStreaming
  tfStopSent : next.tfStopSent = carrier.tfStopSent
  tfRecentreSent : next.tfRecentreSent = carrier.tfRecentreSent
  tfWindow : next.tfWindow = carrier.tfWindow
  tfSeq : next.tfSeq = carrier.tfSeq

namespace Silent

variable {carrier next last : Carrier} {log : WireLog}

theorem refl (carrier : Carrier) : Silent carrier carrier :=
  ⟨fun _ => .same rfl, rfl, rfl, rfl, rfl, rfl⟩

theorem orderly (silent : Silent carrier next) (orderly : Orderly carrier log) :
    Orderly next log where
  seq := by
    rw [silent.tfSeq]
    exact orderly.seq
  armed := by
    rw [silent.tfStreaming, silent.tfStopSent]
    exact orderly.armed
  recentred := by
    rw [silent.tfRecentreSent]
    exact orderly.recentred
  window := by
    rw [silent.tfWindow]
    exact orderly.window
  lost := by
    rw [silent.tfWindow]
    exact orderly.lost
  slots := by
    rw [silent.tfWindow]
    exact orderly.slots
  whole := orderly.whole
  disciplined := orderly.disciplined

theorem halted (silent : Silent carrier next) (halted : Halted carrier log) :
    Halted next log := by
  simp only [Halted, silent.tfStopSent]
  exact halted

end Silent

namespace Orderly

variable {carrier next : Carrier} {log : WireLog} {phase : Phase}

/-- A start is queued. -/
theorem started (orderly : Orderly carrier log) (seq : next.tfSeq = carrier.tfSeq + 1)
    (recentred : next.tfRecentreSent = true → carrier.tfRecentreSent = true)
    (window : next.tfWindow = carrier.tfWindow) :
    Orderly next (.control phase .start carrier.tfSeq :: log) where
  seq := by simp [nextSeq, seq]
  armed _ _ := rfl
  recentred sent := orderly.recentred (recentred sent)
  window := by
    rw [window]
    exact orderly.window
  lost := by
    rw [window]
    exact orderly.lost
  slots := by
    rw [window]
    exact orderly.slots
  whole := orderly.whole
  disciplined := ⟨⟨orderly.seq, by simp⟩, orderly.disciplined⟩

/-- A stop is queued. -/
theorem stopped (orderly : Orderly carrier log) (halted : Halted carrier log)
    (calm : phase = .windDown → textured log = false) (owed : carrier.tfStopSent = false)
    (seq : next.tfSeq = carrier.tfSeq + 1) (stopSent : next.tfStopSent = true)
    (recentred : next.tfRecentreSent = carrier.tfRecentreSent)
    (window : next.tfWindow = carrier.tfWindow) :
    Orderly next (.control phase .stop carrier.tfSeq :: log) where
  seq := by simp [nextSeq, seq]
  armed := by simp [stopSent]
  recentred := by
    rw [recentred]
    exact orderly.recentred
  window := by
    rw [window]
    exact orderly.window
  lost := by
    rw [window]
    exact orderly.lost
  slots := by
    rw [window]
    exact orderly.slots
  whole := orderly.whole
  disciplined := ⟨⟨orderly.seq, fun _ => ⟨calm, halted owed⟩⟩, orderly.disciplined⟩

/-- A stream packet is queued. -/
theorem streamed (orderly : Orderly carrier log) {window : List ℕ}
    (armed : lastControl log = some .start)
    (continues : ∀ last ∈ lastWindow log, Centred window ∨ Continues window last)
    (slots : window.length = tfWindowSlots) (seq : next.tfSeq = carrier.tfSeq + 1)
    (recentred : next.tfRecentreSent = true →
      textured (.stream phase carrier.tfSeq window :: log) = false)
    (advanced : next.tfWindow = window) :
    Orderly next (.stream phase carrier.tfSeq window :: log) where
  seq := by simp [nextSeq, seq]
  armed _ _ := armed
  recentred := recentred
  window := by simp [lastWindow, advanced]
  lost := by simp [recentreLost]
  slots := by rw [advanced, slots]
  whole := by simp [lastWindow, slots]
  disciplined := ⟨⟨orderly.seq, armed, continues⟩, orderly.disciplined⟩

/-- The window is reset for a try at a recentre packet. -/
theorem reset (orderly : Orderly carrier log) :
    Orderly { carrier with tfWindow := List.replicate tfWindowSlots centre }
      (.recentre :: log) where
  seq := orderly.seq
  armed := orderly.armed
  recentred _ := rfl
  window := by simp [recentreLost]
  lost _ := rfl
  slots := List.length_replicate ..
  whole := orderly.whole
  disciplined := ⟨trivial, orderly.disciplined⟩

theorem tickEnd (orderly : Orderly carrier log) (failed : Bool) :
    Orderly carrier (.tickEnd failed :: log) :=
  { orderly with disciplined := ⟨trivial, orderly.disciplined⟩ }

end Orderly

theorem Halted.tickEnd {carrier : Carrier} {log : WireLog} (halted : Halted carrier log)
    (failed : Bool) : Halted carrier (.tickEnd failed :: log) := by
  intro owed stopped
  simp [gaveUp, halted owed stopped]

/-- What a tick logs from `carrier` to `next` keeps the log in order up to the tick's end. -/
def Closes (phase : Phase) (carrier next : Carrier) (log : WireLog) (tries : Bool) : Prop :=
  ∃ entries, Emits phase carrier next entries ∧ Orderly next (entries ++ log) ∧
    Halted next (.tickEnd (tries && !entries.any Entry.isStart) :: (entries ++ log))

theorem Closes.silent {phase : Phase} {carrier next last : Carrier} {log : WireLog} {tries : Bool}
    (closes : Closes phase carrier next log tries) (silent : Silent next last) :
    Closes phase carrier last log tries := by
  rcases closes with ⟨entries, emits, orderly, halted⟩
  exact ⟨entries, emits.trans (silent.emits phase), silent.orderly orderly, silent.halted halted⟩

namespace Carrier

theorem sendForce_silent (carrier : Carrier) (tunables : Tunables) (env : SendEnv) (force : ℤ) :
    Silent carrier (carrier.sendForce tunables env force) := by
  simp only [Carrier.sendForce]
  split
  · exact ⟨fun _ => .same rfl, rfl, rfl, rfl, rfl, rfl⟩
  · rcases carrier.queue_cases env.force maxPendingWork
      (.force (forceToOffsetBinary
        (if tunables.g920 then scaleU16 force tunables.strength else force))) with
      ⟨outcome, _⟩ | ⟨outcome, _⟩
    · rw [outcome]
      exact ⟨fun _ => ⟨[_], rfl, rfl⟩, rfl, rfl, rfl, rfl, rfl⟩
    · rw [outcome]
      exact ⟨fun _ => .same rfl, rfl, rfl, rfl, rfl, rfl⟩

end Carrier

namespace Carrier

variable {carrier : Carrier} {env : SendEnv} {log : WireLog} {phase : Phase}

theorem sendStopHalf_frame (carrier : Carrier) (env : SendEnv) :
    (carrier.sendStopHalf env).tfStreaming = carrier.tfStreaming ∧
      (carrier.sendStopHalf env).tfStopAttempts = carrier.tfStopAttempts := by
  simp only [Carrier.sendStopHalf]
  split
  · exact ⟨rfl, rfl⟩
  · rcases carrier.tfQueueCtrl_cases env.stop .stop with ⟨outcome, _⟩ | ⟨outcome, _⟩ <;>
      rw [outcome] <;> exact ⟨rfl, rfl⟩

theorem sendStopPair_tfStreaming (carrier : Carrier) (env : SendEnv) :
    (carrier.sendStopPair env).1.tfStreaming = carrier.tfStreaming := by
  have half := (carrier.sendStopHalf_frame env).1
  have started : ((carrier.sendStopHalf env).tfQueueCtrl env.start .start).1.tfStreaming =
      carrier.tfStreaming := by
    rcases (carrier.sendStopHalf env).tfQueueCtrl_cases env.start .start with
      ⟨outcome, _⟩ | ⟨outcome, _⟩ <;> rw [outcome] <;> exact half
  simp only [Carrier.sendStopPair]
  split
  · split
    · exact started
    · split <;> exact started
  · split
    · exact half
    · split <;> exact half

/-- The first half of the pair is out, or owed behind the log as it was. -/
theorem sendStopHalf_spec (env : SendEnv) (phase : Phase) (orderly : Orderly carrier log)
    (halted : Halted carrier log)
    (calm : phase = .windDown → carrier.tfStopSent = false → textured log = false) :
    ∃ entries, Emits phase carrier (carrier.sendStopHalf env) entries ∧
      Orderly (carrier.sendStopHalf env) (entries ++ log) ∧
      entries.any Entry.isStart = false ∧ failStreak (entries ++ log) = failStreak log ∧
      Halted (carrier.sendStopHalf env) (entries ++ log) := by
  simp only [Carrier.sendStopHalf]
  split
  · exact ⟨[], .same rfl, orderly, rfl, rfl, halted⟩
  · rename_i owed
    rw [Bool.not_eq_true] at owed
    rcases carrier.tfQueueCtrl_cases env.stop .stop with ⟨outcome, _⟩ | ⟨outcome, _⟩
    · rw [outcome]
      refine ⟨[.control phase .stop carrier.tfSeq], ⟨[.control .stop carrier.tfSeq], rfl, rfl⟩,
        ?_, rfl, rfl, fun sent => by cases sent⟩
      exact orderly.stopped halted (fun windDown => calm windDown owed) owed rfl rfl rfl rfl
    · rw [outcome]
      refine ⟨[], .same rfl, ?_, rfl, rfl, fun _ => halted owed⟩
      exact { orderly with armed := fun streaming _ => orderly.armed streaming owed }

/-- The pair at the end of a tick. -/
theorem sendStopPair_spec (phase : Phase) (orderly : Orderly carrier log)
    (halted : Halted carrier log)
    (calm : phase = .windDown → carrier.tfStopSent = false → textured log = false)
    (counts : carrier.CountsInARow env log) :
    ∃ entries, Emits phase carrier (carrier.sendStopPair env).1 entries ∧
      ((carrier.sendStopPair env).2 = true ∨
        Orderly (carrier.sendStopPair env).1 (entries ++ log)) ∧
      Orderly { (carrier.sendStopPair env).1 with tfStreaming := false } (entries ++ log) ∧
      Halted (carrier.sendStopPair env).1
        (.tickEnd (!entries.any Entry.isStart) :: (entries ++ log)) := by
  rcases carrier.sendStopHalf_spec env phase orderly halted calm with
    ⟨entries, emits, half, noStart, streak, halfHalted⟩
  have attempts := (carrier.sendStopHalf_frame env).2
  simp only [Carrier.sendStopPair]
  cases stopSent : (carrier.sendStopHalf env).tfStopSent with
  | false =>
      have quiet (next : Carrier) (owed : next.tfStopSent = false) :
          Halted next (.tickEnd (!entries.any Entry.isStart) :: (entries ++ log)) := by
        apply Halted.tickEnd
        intro _
        exact halfHalted stopSent
      simp only [Bool.false_eq_true, ↓reduceIte]
      split
      · refine ⟨entries, emits, Or.inl rfl, ?_, quiet _ rfl⟩
        exact { half with armed := by simp }
      · refine ⟨entries, emits, Or.inr ?_, ?_, quiet _ stopSent⟩
        · exact { half with }
        · exact { half with armed := by simp }
  | true =>
      simp only [↓reduceIte]
      rcases (carrier.sendStopHalf env).tfQueueCtrl_cases env.start .start with
        ⟨outcome, _⟩ | ⟨outcome, refused⟩
      · rw [outcome]
        simp only [↓reduceIte]
        refine ⟨.control phase .start (carrier.sendStopHalf env).tfSeq :: entries,
          emits.trans ⟨[.control .start (carrier.sendStopHalf env).tfSeq], rfl, rfl⟩,
          Or.inl trivial, half.started rfl id rfl, ?_⟩
        intro _ stopped
        cases stopped
      · rw [outcome]
        simp only [Bool.false_eq_true, ↓reduceIte]
        split
        · rename_i limit
          refine ⟨entries, emits, Or.inl rfl, { half with armed := by simp }, ?_⟩
          intro _ _
          rw [attempts] at limit
          have row := counts ⟨stopSent, refused⟩ limit
          simp only [gaveUp, noStart, Bool.not_false, failStreak, ↓reduceIte, streak,
            Bool.or_eq_true, decide_eq_true_eq]
          left
          omega
        · refine ⟨entries, emits, Or.inr { half with }, { half with armed := by simp }, ?_⟩
          intro owed
          rw [stopSent] at owed
          cases owed

end Carrier

namespace Carrier

variable {carrier : Carrier} {env : SendEnv} {log : WireLog}

def recentreMarks (carrier : Carrier) : WireLog :=
  if carrier.tfRecentreSent then [] else [.recentre]

/-- Behind the recentre part of a wind-down a recentre packet has been tried, at this tick or at
an earlier one that sent it. -/
theorem sendRecentre_spec (force : ℤ) (orderly : Orderly carrier log) (halted : Halted carrier log)
    (foreign : env.foreignStream = false) (streaming : carrier.tfStreaming = true)
    (first : carrier.tfStopSent = true → carrier.tfRecentreSent = false →
      carrier.RefusesRaw env.stream) :
    ∃ entries, Emits .windDown carrier (carrier.sendRecentre env force).1 entries ∧
      Orderly (carrier.sendRecentre env force).1 (entries ++ (carrier.recentreMarks ++ log)) ∧
      Halted (carrier.sendRecentre env force).1 (entries ++ (carrier.recentreMarks ++ log)) ∧
      textured (entries ++ (carrier.recentreMarks ++ log)) = false ∧
      entries.any Entry.isStart = false ∧
      failStreak (entries ++ (carrier.recentreMarks ++ log)) = failStreak log := by
  simp only [Carrier.sendRecentre, recentreMarks]
  split
  · rename_i sent
    exact ⟨[], .same rfl, orderly, halted, orderly.recentred sent, rfl, rfl⟩
  · rename_i due
    rw [Bool.not_eq_true] at due
    have reset := orderly.reset
    rcases Carrier.tfQueueStream_cases
      { carrier with tfWindow := List.replicate tfWindowSlots centre } force env.foreignStream
      env.stream none with ⟨owned, _⟩ | ⟨_, room, outcome⟩ | ⟨_, _, outcome⟩
    · rw [foreign] at owned
      cases owned
    · rw [outcome]
      have owed : carrier.tfStopSent = false := by
        rw [← Bool.not_eq_true]
        intro sent
        exact room (first sent due)
      refine ⟨[.stream .windDown carrier.tfSeq (List.replicate tfWindowSlots centre)],
        ⟨[.stream carrier.tfSeq (forceToOffsetBinary force)
          (List.replicate tfWindowSlots centre)], rfl, rfl⟩, ?_, halted, rfl, rfl, rfl⟩
      apply reset.streamed
      · exact orderly.armed streaming owed
      · intro last _
        left
        intro slot member
        exact List.eq_of_mem_replicate member
      · exact List.length_replicate ..
      · rfl
      · intro _
        rfl
      · rfl
    · rw [outcome]
      exact ⟨[], .same rfl, { reset with recentred := by simp }, halted, rfl, rfl, rfl⟩

/-- A wind-down tick logs a disciplined teardown. -/
theorem tfWindDown_spec (force : ℤ) (orderly : Orderly carrier log) (halted : Halted carrier log)
    (foreign : env.foreignStream = false) (streaming : carrier.tfStreaming = true)
    (first : carrier.tfStopSent = true → carrier.tfRecentreSent = false →
      carrier.RefusesRaw env.stream)
    (counts : Carrier.CountsInARow (carrier.sendRecentre env force).1 env log) :
    Closes .windDown carrier (carrier.tfWindDown env force).1 (carrier.recentreMarks ++ log)
      true := by
  rcases carrier.sendRecentre_spec force orderly halted foreign streaming first with
    ⟨recentre, recentred, centred, stillHalted, calm, noStart, streak⟩
  have countsOn : Carrier.CountsInARow (carrier.sendRecentre env force).1 env
      (recentre ++ (carrier.recentreMarks ++ log)) := by
    simp only [CountsInARow, streak]
    exact counts
  rcases sendStopPair_spec .windDown centred stillHalted (fun _ _ => calm) countsOn with
    ⟨pair, paired, kept, closed, quiet⟩
  simp only [Carrier.tfWindDown, streaming, ↓reduceIte]
  refine ⟨pair ++ recentre, recentred.trans paired, ?_, ?_⟩
  · rw [List.append_assoc]
    cases completed : ((carrier.sendRecentre env force).1.sendStopPair env).2 with
    | true => exact { closed with armed := by simp }
    | false =>
        rw [completed] at kept
        rcases kept with contradictory | kept
        · cases contradictory
        · exact { kept with armed := by simpa using kept.armed }
  · rw [Bool.true_and, List.any_append, noStart, Bool.or_false, List.append_assoc]
    exact quiet

theorem textureWindow_length {samples : List ℤ} (tunables : Tunables)
    (slots : carrier.tfWindow.length = tfWindowSlots) (four : samples.length = tfNewSamples) :
    (carrier.nextWindow (some (samples.map (textureSlot tunables)))).length = tfWindowSlots := by
  simp [Carrier.nextWindow, slots, four, tfWindowSlots, tfNewSamples]

/-- A window that has advanced continues the one before, unless a lost recentre packet lies between
them and leaves a trace. -/
theorem nextWindow_continues {samples : List ℤ} (tunables : Tunables)
    (orderly : Orderly carrier log)
    (traceless : recentreLost log = true → ∀ last ∈ lastWindow log,
      Centred (samples.map (textureSlot tunables)) ∨ Centred (last.drop tfNewSamples)) :
    ∀ last ∈ lastWindow log,
      Centred (carrier.nextWindow (some (samples.map (textureSlot tunables)))) ∨
        Continues (carrier.nextWindow (some (samples.map (textureSlot tunables)))) last := by
  intro last seen
  have oldest : (carrier.tfWindow.drop tfNewSamples).length = tfWindowSlots - tfNewSamples := by
    rw [List.length_drop, orderly.slots]
  have taken : (carrier.nextWindow (some (samples.map (textureSlot tunables)))).take
      (tfWindowSlots - tfNewSamples) = carrier.tfWindow.drop tfNewSamples := by
    simp only [Carrier.nextWindow]
    exact List.take_left' oldest
  simp only [Continues, taken]
  cases lost : recentreLost log with
  | false =>
      right
      rw [orderly.window lost last seen]
  | true =>
      have centred := orderly.lost lost
      rcases traceless lost last seen with newCentred | oldCentred
      · left
        intro slot member
        simp only [Carrier.nextWindow, centred, List.mem_append] at member
        rcases member with member | member
        · exact List.eq_of_mem_replicate (List.mem_of_mem_drop member)
        · exact newCentred slot member
      · right
        rw [centred, List.drop_replicate, eq_comm, List.eq_replicate_iff]
        exact ⟨by rw [List.length_drop, orderly.whole last seen], oldCentred⟩

/-- The start of a texture tick: the stream is armed behind it, or the tick ends. -/
theorem tfOpen_spec (env : SendEnv) (orderly : Orderly carrier log)
    (halted : Halted carrier log) :
    ∃ entries, Emits .texture carrier (carrier.tfOpen env).1 entries ∧
      Orderly (carrier.tfOpen env).1 (entries ++ log) ∧
      Halted (carrier.tfOpen env).1 (entries ++ log) ∧
      lastWindow (entries ++ log) = lastWindow log ∧
      recentreLost (entries ++ log) = recentreLost log ∧
      ((carrier.tfOpen env).2 = true → lastControl (entries ++ log) = some .start ∧
        (¬(carrier.tfStreaming = true ∧ carrier.tfStopSent = false ∧
          carrier.tfRecentreSent = true) → (carrier.tfOpen env).1.tfRecentreSent = false)) := by
  simp only [Carrier.tfOpen]
  split
  · rename_i armed
    simp only [Bool.and_eq_true, Bool.not_eq_true'] at armed
    refine ⟨[], .same rfl, orderly, halted, rfl, rfl, fun _ => ?_⟩
    refine ⟨orderly.armed armed.1 armed.2, fun clean => ?_⟩
    rw [← Bool.not_eq_true]
    intro sent
    exact clean ⟨armed.1, armed.2, sent⟩
  · rcases carrier.tfQueueCtrl_cases env.start .start with ⟨outcome, _⟩ | ⟨outcome, _⟩
    · rw [outcome]
      refine ⟨[.control .texture .start carrier.tfSeq], ⟨[.control .start carrier.tfSeq], rfl, rfl⟩,
        ?_, fun _ stopped => ?_, rfl, rfl, fun _ => ⟨rfl, fun _ => rfl⟩⟩
      · exact orderly.started rfl (by simp) rfl
      · cases stopped
    · rw [outcome]
      exact ⟨[], .same rfl, { orderly with }, halted, rfl, rfl, by simp⟩

/-- A texture tick streams behind a start and continues the window. -/
theorem tfTexture_spec (force : ℤ) (tunables : Tunables) {samples : List ℤ}
    (orderly : Orderly carrier log) (halted : Halted carrier log)
    (foreign : env.foreignStream = false) (four : samples.length = tfNewSamples)
    (clean : (carrier.tfOpen env).2 = true → ¬(carrier.tfOpen env).1.RefusesRaw env.stream →
      ¬(carrier.tfStreaming = true ∧ carrier.tfStopSent = false ∧
        carrier.tfRecentreSent = true) ∧
      (recentreLost log = true → ∀ last ∈ lastWindow log,
        Centred (samples.map (textureSlot tunables)) ∨ Centred (last.drop tfNewSamples))) :
    ∃ entries, Emits .texture carrier (carrier.tfTick tunables env true samples force).1 entries ∧
      Orderly (carrier.tfTick tunables env true samples force).1 (entries ++ log) ∧
      Halted (carrier.tfTick tunables env true samples force).1 (entries ++ log) := by
  rcases carrier.tfOpen_spec env orderly halted with
    ⟨entries, opens, open', openHalted, sameWindow, sameLost, armed⟩
  simp only [Carrier.tfTick, ↓reduceIte]
  split
  · rename_i opened outcome
    rw [outcome] at opens open' openHalted armed clean
    rcases armed rfl with ⟨started, dropped⟩
    rcases opened.tfQueueStream_cases force env.foreignStream env.stream
      (some (samples.map (textureSlot tunables))) with
      ⟨owned, _⟩ | ⟨_, room, streamed⟩ | ⟨_, _, streamed⟩
    · rw [foreign] at owned
      cases owned
    · rcases clean rfl room with ⟨resumed, traceless⟩
      rw [← sameWindow, ← sameLost] at traceless
      rw [streamed]
      refine ⟨.stream .texture opened.tfSeq
          (opened.nextWindow (some (samples.map (textureSlot tunables)))) :: entries,
        opens.trans ⟨[.stream opened.tfSeq (forceToOffsetBinary force)
          (opened.nextWindow (some (samples.map (textureSlot tunables))))], rfl, rfl⟩,
        ?_, openHalted⟩
      apply open'.streamed started
      · exact nextWindow_continues tunables open' traceless
      · exact textureWindow_length tunables open'.slots four
      · rfl
      · intro sent
        rw [dropped resumed] at sent
        cases sent
      · rfl
    · rw [streamed]
      exact ⟨entries, opens, { open' with }, openHalted⟩
  · rename_i next outcome
    rw [outcome] at opens open' openHalted
    exact ⟨entries, opens, open', openHalted⟩

/-- The idle gate of a tick that has left the stream alone. -/
theorem idleGate_spec (idle : Bool) (orderly : Orderly carrier log) (halted : Halted carrier log)
    (stopped : carrier.tfStreaming = false)
    (counts : (idle && decide (kfIdleGraceTicks ≤ carrier.kfIdleTicks) && !carrier.kfGated) = true →
      carrier.CountsInARow env log) :
    Closes .rest carrier (carrier.idleGate env idle) log
      (idle && decide (kfIdleGraceTicks ≤ carrier.kfIdleTicks) && !carrier.kfGated) := by
  simp only [Carrier.idleGate]
  split
  · rename_i isIdle
    split
    · exact ⟨[], .same rfl, { orderly with }, halted.tickEnd _⟩
    · rename_i expired
      split
      · exact ⟨[], .same rfl, orderly, halted.tickEnd _⟩
      · rename_i ungated
        have tries : (idle && decide (kfIdleGraceTicks ≤ carrier.kfIdleTicks) &&
            !carrier.kfGated) = true := by
          simp [isIdle, Nat.not_lt.mp expired, ungated]
        rcases sendStopPair_spec .rest orderly halted (by simp)
          (counts tries) with ⟨entries, emits, _, closed, final⟩
        have streaming := (carrier.sendStopPair_tfStreaming env).trans stopped
        refine ⟨entries, emits, ?_, ?_⟩
        · exact { closed with armed := by simp [streaming] }
        · rw [tries, Bool.true_and]
          exact final
  · exact ⟨[], .same rfl, { orderly with }, halted.tickEnd _⟩

theorem idleGate_busy_silent (carrier : Carrier) (env : SendEnv) :
    Silent carrier (carrier.idleGate env false) :=
  ⟨fun _ => .same rfl, rfl, rfl, rfl, rfl, rfl⟩

/-- The force packet at the end of a tick leaves no trace on the texture channel. -/
theorem sendTick_silent (carrier : Carrier) (tunables : Tunables) (tick : Tick) (env : SendEnv) :
    Silent ((carrier.running tunables).beforeForce tick env).1
      (carrier.sendTick tunables tick env) := by
  have live : (carrier.running tunables).sendEnv env = env := rfl
  simp only [Carrier.sendTick, State.sendTick_carrier, live]
  split
  · exact .refl _
  · exact Carrier.sendForce_silent _ _ _ _

theorem beforeForce_stream {tunables : Tunables} {tick : Tick}
    (streams : (tick.anyTexture || carrier.tfStreaming) = true) :
    ((carrier.running tunables).beforeForce tick env).1 =
      (carrier.tfTick tunables env tick.anyTexture tick.samples tick.force).1.idleGate env false := by
  have busy : (carrier.running tunables).idleTick tick = false := by
    simp only [Bool.or_eq_true] at streams
    rcases streams with texture | streaming
    · simp [State.idleTick, texture]
    · simp [State.idleTick, running, streaming]
  simp only [State.beforeForce, running, streams, ↓reduceIte]
  simp only [running] at busy
  rw [busy]
  rfl

section BeforeForce

variable {tunables : Tunables} {tick : Tick} (orderly : Orderly carrier log)
  (halted : Halted carrier log)

include orderly halted

theorem beforeForce_texture (four : tick.samples.length = tfNewSamples)
    (foreign : env.foreignStream = false) (texture : tick.anyTexture = true)
    (clean : Wired.ResumesClean ⟨carrier, log⟩ tunables tick env) :
    Closes .texture carrier ((carrier.running tunables).beforeForce tick env).1 log false := by
  rw [beforeForce_stream (by simp [texture]), texture]
  have mayStream (opens : (carrier.tfOpen env).2 = true)
      (room : ¬(carrier.tfOpen env).1.RefusesRaw env.stream) :=
    (Wired.resumesClean_iff.mp clean opens).resolve_left room
  rcases carrier.tfTexture_spec tick.force tunables orderly halted foreign four mayStream with
    ⟨entries, emits, kept, final⟩
  have closes : Closes .texture carrier
      (carrier.tfTick tunables env true tick.samples tick.force).1 log false :=
    ⟨entries, emits, kept, final.tickEnd _⟩
  exact closes.silent (Carrier.idleGate_busy_silent _ env)

theorem beforeForce_windDown (foreign : env.foreignStream = false)
    (winding : tick.anyTexture = false ∧ carrier.tfStreaming = true)
    (first : Wired.RecentresFirst ⟨carrier, log⟩ env)
    (counts : Carrier.CountsInARow (carrier.sendRecentre env tick.force).1 env log) :
    Closes .windDown carrier ((carrier.running tunables).beforeForce tick env).1
      (carrier.recentreMarks ++ log) true := by
  rw [beforeForce_stream (by simp [winding]), winding.1]
  have closes := carrier.tfWindDown_spec tick.force orderly halted foreign winding.2 first counts
  exact closes.silent (Carrier.idleGate_busy_silent _ env)

theorem beforeForce_rest (resting : tick.anyTexture = false ∧ carrier.tfStreaming = false)
    (counts : carrier.triesPair tunables tick = true → carrier.CountsInARow env log)
    (rest : carrier.phase tick = .rest) :
    Closes .rest carrier ((carrier.running tunables).beforeForce tick env).1 log
      (carrier.triesPair tunables tick) := by
  have alone : ((carrier.running tunables).beforeForce tick env).1 =
      carrier.idleGate env ((carrier.running tunables).idleTick tick) := by
    simp [State.beforeForce, running, resting]
  rw [alone]
  simp only [triesPair, rest] at counts ⊢
  exact carrier.idleGate_spec _ orderly halted resting.2 counts

end BeforeForce

/-- A tick keeps the log disciplined. -/
theorem sendTick_spec {tunables : Tunables} {tick : Tick} (orderly : Orderly carrier log)
    (halted : Halted carrier log) (four : tick.samples.length = tfNewSamples)
    (foreign : env.foreignStream = false)
    (meets : Wired.Meets ⟨carrier, log⟩ (.tick tunables tick env)) :
    Closes (carrier.phase tick) carrier (carrier.sendTick tunables tick env)
      ((if carrier.triesRecentre tick then [Entry.recentre] else []) ++ log)
      (carrier.triesPair tunables tick) := by
  apply Closes.silent _ (carrier.sendTick_silent tunables tick env)
  rcases Wired.meets_tick_iff.mp meets with ⟨texture, windDown, rest⟩
  cases phased : carrier.phase tick with
  | texture =>
      have textured : tick.anyTexture = true := by
        simp only [phase] at phased
        grind
      simp only [triesRecentre, triesPair, phased]
      exact beforeForce_texture orderly halted four foreign textured (texture phased)
  | windDown =>
      have winding : tick.anyTexture = false ∧ carrier.tfStreaming = true := by
        simp only [phase] at phased
        grind
      have marks : (if carrier.triesRecentre tick then [Entry.recentre] else []) =
          carrier.recentreMarks := by
        simp only [triesRecentre, phased, recentreMarks]
        cases carrier.tfRecentreSent <;> rfl
      rw [marks]
      simp only [triesPair, phased]
      rcases windDown phased with ⟨first, counts⟩
      exact beforeForce_windDown orderly halted foreign winding first counts
  | rest =>
      have resting : tick.anyTexture = false ∧ carrier.tfStreaming = false := by
        simp only [phase] at phased
        grind
      have unmarked : carrier.triesRecentre tick = false := by
        simp [triesRecentre, phased]
      rw [unmarked]
      exact beforeForce_rest orderly halted resting (rest phased) phased

end Carrier

namespace Wired

theorem start_orderly : Orderly Carrier.zero [] where
  seq := by simp [nextSeq]
  armed := by simp [Carrier.zero]
  recentred := by simp [Carrier.zero]
  window := by simp [lastWindow]
  lost := by simp [recentreLost]
  slots := List.length_replicate ..
  whole := by simp [lastWindow]
  disciplined := trivial

theorem step_orderly {wired next : Wired} {event : WireEvent}
    (orderly : Orderly wired.carrier wired.log ∧ Halted wired.carrier wired.log)
    (meets : wired.Meets event) (stepped : wired.step event = some next) :
    Orderly next.carrier next.log ∧ Halted next.carrier next.log := by
  rcases orderly with ⟨orderly, halted⟩
  cases event with
  | init =>
      simp only [Wired.step] at stepped
      split at stepped
      · cases stepped
      · rename_i stopped
        cases stepped
        refine ⟨?_, fun _ stop => by cases stop⟩
        exact { orderly with
          seq := by simp [nextSeq]
          armed := by simp [stopped]
          disciplined := ⟨trivial, orderly.disciplined⟩ }
  | workDone =>
      cases stepped
      exact ⟨{ orderly with }, halted⟩
  | tick tunables tick env =>
      simp only [Wired.step] at stepped
      split at stepped
      · rename_i enabled
        cases stepped
        rcases Carrier.sendTick_spec orderly halted enabled.1 enabled.2 meets with
          ⟨entries, emits, kept, final⟩
        simp only [Wired.tick, emits.newEntries_eq]
        exact ⟨kept.tickEnd _, final⟩
      · cases stepped

end Wired

/-- In every run in which no flag of the wind-down outlives it, what reaches the queue keeps the
wire discipline. -/
theorem wire_disciplined {wired : Wired} (reachable : wire.ReachableUnder Wired.Meets wired) :
    Disciplined wired.log := by
  have orderly : Orderly wired.carrier wired.log ∧ Halted wired.carrier wired.log := by
    apply reachable.invariant
    · rintro start rfl
      exact ⟨Wired.start_orderly, fun _ stop => by cases stop⟩
    · intro current event next orderly meets stepped
      exact Wired.step_orderly orderly meets stepped
  exact orderly.1.disciplined

def textureTick : Tick := ⟨0, [400, 300, 200, 100], true, true, 0⟩

def quietTick : Tick := ⟨0, [0, 0, 0, 0], false, false, 0⟩

def SendEnv.dropping (stream stop start : Bool) : SendEnv :=
  { SendEnv.clear with stream := ⟨0, !stream⟩, stop := ⟨0, !stop⟩, start := ⟨0, !start⟩ }

def logged (tick : Tick) (env : SendEnv) : WireEvent := .tick defaultTunables tick env

/-- Two texture ticks, a wind-down whose `0x03` is a tick late, and a texture that starts anew. -/
theorem wire_disciplined_session : ∃ wired : Wired, Disciplined wired.log ∧
    lastControl wired.log = some .start ∧ wired.log.length = 15 := by
  have reached := System.ReachableUnder.of_check wire Wired.Meets ⟨.zero, []⟩
    [.init, logged textureTick .clear, logged textureTick .clear,
      logged quietTick (.dropping false false true), .workDone, .workDone, .workDone,
      logged quietTick .clear, logged textureTick .clear]
    (fun wired => lastControl wired.log == some .start && wired.log.length == 15)
    rfl (by decide) (by decide)
  rcases reached with ⟨wired, reachable, checked⟩
  simp only [Bool.and_eq_true, beq_iff_eq] at checked
  exact ⟨wired, wire_disciplined reachable, checked⟩

theorem undisciplined_of_run (events : List WireEvent)
    (executed : (wire.run ⟨.zero, []⟩ events).any (fun wired => !decide (Disciplined wired.log)) =
      true) :
    ∃ wired, wire.run ⟨.zero, []⟩ events = some wired ∧ wire.Reachable wired ∧
      ¬Disciplined wired.log := by
  rcases (Option.any_eq_true _ _).mp executed with ⟨wired, reached, checked⟩
  simp only [Bool.not_eq_true', decide_eq_false_iff_not] at checked
  exact ⟨wired, reached, System.Reachable.of_run _ _ rfl reached, checked⟩

/-- A recentre packet behind a `0x04`, a window that the wheel never saw, and a `0x04` behind new
samples. -/
theorem wire_undisciplined :
    (∃ wired, wire.run ⟨.zero, []⟩ [.init, logged textureTick .clear,
        logged quietTick (.dropping true false true), logged quietTick .clear] = some wired ∧
      wire.Reachable wired ∧ ¬Disciplined wired.log) ∧
    (∃ wired, wire.run ⟨.zero, []⟩ [.init, logged textureTick .clear,
        logged quietTick (.dropping true true false), logged textureTick .clear] = some wired ∧
      wire.Reachable wired ∧ ¬Disciplined wired.log) ∧
    ∃ wired, wire.run ⟨.zero, []⟩ [.init, logged textureTick .clear,
        logged quietTick (.dropping false true false), logged textureTick .clear,
        logged quietTick .clear] = some wired ∧
      wire.Reachable wired ∧ ¬Disciplined wired.log := by
  refine ⟨undisciplined_of_run _ ?_, undisciplined_of_run _ ?_, undisciplined_of_run _ ?_⟩
  · decide +kernel
  · decide +kernel
  · decide +kernel

theorem SampleContext.sampleSlot_samples (context : SampleContext) (slot : EffectSlot) :
    (context.sampleSlot slot).2.samples.length = tfNewSamples := by
  have contribution (slot : EffectSlot) (elapsed : ℕ) :
      (context.contribution slot elapsed).samples.length = tfNewSamples := by
    simp only [SampleContext.contribution]
    split <;> simp
  simp only [SampleContext.sampleSlot]
  split
  · exact List.length_replicate ..
  · split
    · exact List.length_replicate ..
    · split
      · split
        · exact contribution _ _
        · exact List.length_replicate ..
      · exact contribution _ _

theorem zipWith_sums_length {slots : List SlotSample} {sums : List ℤ}
    (four : sums.length = tfNewSamples)
    (each : ∀ slot ∈ slots, slot.samples.length = tfNewSamples) :
    (slots.foldl (fun sums slot => List.zipWith (· + ·) sums slot.samples) sums).length =
      tfNewSamples := by
  induction slots generalizing sums with
  | nil => exact four
  | cons slot slots ih =>
      apply ih
      · rw [List.length_zipWith, four, each slot (by simp), Nat.min_self]
      · intro other member
        exact each other (by simp [member])

namespace State

variable {kernel : Kernel} {state next : State} {event : Event}

/-- The tick under way carries a sample for each slot of its packet. -/
def FourSamples (state : State) : Prop :=
  match state.callback with
  | .sampled sample => sample.samples.length = tfNewSamples
  | .summed tick => tick.samples.length = tfNewSamples
  | _ => True

theorem sampleSection_fourSamples (state : State) (now : UInt64) :
    (state.sampleSection kernel now).FourSamples := by
  apply zipWith_sums_length (List.length_replicate ..)
  intro slot member
  rcases List.mem_map.mp member with ⟨i, _, rfl⟩
  exact SampleContext.sampleSlot_samples _ _

/-- Nobody else owns the stream, and the init is over before it opens. -/
def OwnsStream (state : State) : Event → Prop
  | .send env => env.foreignStream = false
  | .tfInitDone _ => state.carrier.tfStreaming = false
  | _ => True

theorem step_fourSamples (four : state.FourSamples)
    (stepped : state.step kernel event = some next) : next.FourSamples := by
  have kept (same : next.callback = state.callback) : next.FourSamples := by
    simp only [FourSamples, same]
    exact four
  cases step_timerStep stepped with
  | same same => exact kept same.callback
  | initDone eq | stop eq =>
      subst eq
      exact kept rfl
  | kick operations eq =>
      subst eq
      apply kept
      simp only [State.timerKick]
      split <;> rfl
  | callback called =>
      cases called with
      | sample now sampling => exact state.sampleSection_fourSamples now
      | readAutocenter sample sampled =>
          simp only [FourSamples, sampled] at four
          exact four
      | _ => trivial

/-- What a step does to the carrier and to a log of its packets. -/
inductive WireStep (carrier : Carrier) (log : WireLog) (next : Carrier) : Prop where
  | same : next = carrier → WireStep carrier log next
  | wired (event : WireEvent) (after : WireLog) :
      wire.step ⟨carrier, log⟩ event = some ⟨next, after⟩ → WireStep carrier log next

theorem step_wireStep (four : state.FourSamples) (owns : state.OwnsStream event)
    (stepped : state.step kernel event = some next) (log : WireLog) :
    WireStep state.carrier log next.carrier := by
  cases event with
  | upload index effect old =>
      cases stepped
      simp only [State.upload]
      split
      · exact .same rfl
      · split <;> exact .same rfl
  | erase index =>
      cases stepped
      simp only [State.erase]
      split <;> exact .same rfl
  | playback index value now =>
      cases stepped
      simp only [State.playback]
      split
      · exact .same rfl
      · split <;> exact .same rfl
  | setAutocenter magnitude =>
      cases stepped
      simp only [State.setAutocenter]
      split <;> exact .same rfl
  | autocenterStore value =>
      cases stepped
      simp only [State.autocenterStore]
      split
      · exact .same rfl
      · split <;> exact .same rfl
  | tune | report | stop =>
      cases stepped
      exact .same rfl
  | workDone =>
      cases stepped
      exact .wired .workDone log rfl
  | tfInitDone outcome =>
      simp only [State.step] at stepped
      split at stepped
      · cases stepped
        cases outcome with
        | ready =>
            apply WireStep.wired .init (.init :: log)
            have stopped : state.carrier.tfStreaming = false := owns
            simp [wire, Wired.step, stopped, State.tfInitWork]
        | noMemory | failed => exact .same rfl
      · cases stepped
  | initDone =>
      simp only [State.step] at stepped
      split at stepped <;> cases stepped
      exact .same rfl
  | resume index =>
      simp only [State.step, State.resume] at stepped
      split at stepped
      · cases stepped
      · cases stepped
        simp only [State.timerKick]
        split <;> exact .same rfl
      · split at stepped <;> cases stepped <;> exact .same rfl
  | send env =>
      simp only [State.step] at stepped
      cases stepCallback_cases stepped with
      | send tick env summed =>
          simp only [FourSamples, summed] at four
          have foreign : (state.sendEnv env).foreignStream = false := by
            simp only [sendEnv]
            split <;> exact owns
          have ticked : (state.sendTick tick env).carrier =
              state.carrier.sendTick state.tunables tick (state.sendEnv env) := rfl
          apply WireStep.wired (.tick state.tunables tick (state.sendEnv env))
            (Wired.tick ⟨state.carrier, log⟩ state.tunables tick (state.sendEnv env)).log
          simp [wire, Wired.step, four, foreign, ticked, Wired.tick]
  | fire | check | leave | sample | readAutocenter | rearm | finish =>
      simp only [State.step] at stepped
      cases stepCallback_cases stepped <;> exact .same rfl

end State

/-- What the engine queues in a run is what some run of the wire queues. -/
theorem engine_reachable_wired {kernel : Kernel} {state : State}
    (reachable : (engine kernel).ReachableUnder State.OwnsStream state) :
    ∃ log, wire.Reachable ⟨state.carrier, log⟩ := by
  suffices simulated : state.FourSamples ∧ ∃ log, wire.Reachable ⟨state.carrier, log⟩ from
    simulated.2
  apply reachable.invariant
  · rintro start ⟨tunables, rfl⟩
    exact ⟨trivial, [], .of_initial rfl⟩
  · rintro current event next ⟨four, log, wired⟩ owns stepped
    refine ⟨State.step_fourSamples four stepped, ?_⟩
    cases State.step_wireStep four owns stepped log with
    | same same => exact ⟨log, by rw [same]; exact wired⟩
    | wired event after executed => exact ⟨after, wired.tail trivial executed⟩

end TrueForce.Ffb
