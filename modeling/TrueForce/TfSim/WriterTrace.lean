import TrueForce.TfSim.Writer
import Mathlib.Data.List.Infix

/-!
# The packets of a G923 stream, from its opening to its end

Logs are read newest first, so that what precedes an entry is the list behind it.
Each law about the packets is a law about one entry and what precedes it; a tick
adds a few entries and keeps the laws of the others.  The closing stop packet is
the newest entry of a finished log, and what holds of idle stops is said of the
log without it.
-/

namespace TrueForce.TfSim.G923

/-- Two complete passes of accepted init packets. -/
def initRun : List Entry := (initPackets.map (Entry.write · true)).reverse

def Entry.isNumbered : Entry → Bool
  | .write packet _ => packet.number.isSome
  | .tick _ _ => false

/-- An init packet that went out. -/
def Entry.isInit : Entry → Bool
  | .write (.init _) ok => ok
  | _ => false

/-- The last packet is a stop packet and every tick since has been silent. -/
def justStopped : List Entry → Bool
  | .write (.stop _) _ :: _ => true
  | .tick _ true :: older => justStopped older
  | _ => false

/-- Since a stop packet there have been two complete init passes. -/
def Resumed (older : List Entry) : Prop :=
  ∀ recent seq ok rest, older = recent ++ .write (.stop seq) ok :: rest → initRun <:+: recent

/-- The tick under way is silent, and so is every tick back to one that lies the
whole idle time before it. -/
def SilentLong (older : List Entry) : Prop :=
  ∃ now since recent rest, older.head? = some (.tick now true) ∧
    older = recent ++ .tick since true :: rest ∧
    (∀ time silent, Entry.tick time silent ∈ recent → silent = true) ∧
    idleTimeout ≤ now - since

/-- The sequence byte counts on from the end of the last complete init sequence. -/
def Continues (older : List Entry) (seq : UInt8) : Prop :=
  ∀ recent rest, older = recent ++ rest → initRun <+: rest → ¬initRun <:+: recent →
    seq = firstSeq + UInt8.ofNat (recent.countP Entry.isNumbered)

/-- The laws of a log whose stop packets, those of `idling`, are idle stops. -/
structure Kept (log idling : List Entry) : Prop where
  opens : initRun <:+ log
  resumes : ∀ seq window ok older,
    .write (.sample seq window) ok :: older <:+ log → Resumed older
  idles : ∀ seq ok older, .write (.stop seq) ok :: older <:+ idling → SilentLong older
  sequence : ∀ packet ok older seq, packet.number = some seq →
    .write packet ok :: older <:+ log → Continues older seq

/-- After a stop packet nothing is written until a tick that is not silent. -/
def QuietUntilActive (log : List Entry) : Prop :=
  ∀ packet ok older, .write packet ok :: older <:+ log → justStopped older = false

/-- The last thing the writer attempts is a stop packet. -/
def Closed (log : List Entry) : Prop := ∃ seq ok, log.head? = some (.write (.stop seq) ok)

theorem writeAll_cases (host : Host) (packets : List Packet) (writer : Writer) :
    writer.writeAll host packets =
        ({ writer with log := (packets.map (Entry.write · true)).reverse ++ writer.log }, true) ∨
      ∃ sent packet, sent ++ [packet] <+: packets ∧ writer.writeAll host packets =
        ({ writer with
            log := .write packet false :: (sent.map (Entry.write · true)).reverse ++ writer.log },
          false) := by
  induction packets generalizing writer with
  | nil => exact Or.inl rfl
  | cons first packets ih =>
      cases accepted : host.accepts (writer.log.countP Entry.isWrite) with
      | false =>
          refine Or.inr ⟨[], first, ⟨packets, rfl⟩, ?_⟩
          simp only [Writer.writeAll, Writer.write, Writer.note, accepted]
          rfl
      | true =>
          simp only [Writer.writeAll, Writer.write, Writer.note, accepted]
          rcases ih { writer with log := .write first true :: writer.log } with done |
            ⟨sent, packet, front, refused⟩
          · left
            rw [done]
            simp
          · refine Or.inr ⟨first :: sent, packet, ?_, ?_⟩
            · exact List.cons_prefix_cons.mpr ⟨rfl, front⟩
            · rw [refused]
              simp

theorem length_initRun : initRun.length = 2 * tfInitPacketCount := by
  simp [initRun, initPackets, Nat.two_mul]

theorem mem_initPackets {packet : Packet} (member : packet ∈ initPackets) :
    ∃ index, packet = .init index := by
  rcases List.mem_append.mp member with first | second
  · rcases List.mem_map.mp first with ⟨index, _, rfl⟩
    exact ⟨index, rfl⟩
  · rcases List.mem_map.mp second with ⟨index, _, rfl⟩
    exact ⟨index, rfl⟩

theorem mem_initRun {entry : Entry} (member : entry ∈ initRun) : entry.isInit = true := by
  rcases List.mem_map.mp (List.mem_reverse.mp member) with ⟨packet, sent, rfl⟩
  rcases mem_initPackets sent with ⟨index, rfl⟩
  rfl

section Cons

variable {entry : Entry} {older log idling : List Entry} {seq : UInt8}

theorem Resumed.cons (resumed : Resumed older)
    (other : ∀ seq ok, entry ≠ .write (.stop seq) ok) : Resumed (entry :: older) := by
  intro recent seq ok rest same
  cases recent with
  | nil =>
      rw [List.nil_append, List.cons.injEq] at same
      exact absurd same.1 (other seq ok)
  | cons first recent =>
      rw [List.cons_append, List.cons.injEq] at same
      exact (resumed recent seq ok rest same.2).trans (List.suffix_cons first recent).isInfix

/-- No init sequence ends in the middle of one, nor in any other entry. -/
theorem initRun_not_start {block : List Entry} (short : block.length < initRun.length)
    (other : entry.isInit = false) : ¬initRun <+: block ++ entry :: older := by
  intro front
  have found := front.getElem short
  rw [List.getElem_append_right (le_refl _)] at found
  simp only [Nat.sub_self, List.getElem_cons_zero] at found
  have isInit := mem_initRun (List.getElem_mem short)
  rw [found, other] at isInit
  cases isInit

theorem Continues.cons (continues : Continues older seq) (entry : Entry)
    (other : entry.isInit = false) :
    Continues (entry :: older)
      (seq + UInt8.ofNat (if entry.isNumbered then 1 else 0)) := by
  intro recent rest same front fresh
  cases recent with
  | nil =>
      rw [List.nil_append] at same
      rw [← same] at front
      have short : ([] : List Entry).length < initRun.length := by
        rw [length_initRun]
        decide
      exact absurd front (initRun_not_start short other)
  | cons first recent =>
      rw [List.cons_append, List.cons.injEq] at same
      rcases same with ⟨rfl, same⟩
      have older := continues recent rest same front fun inside =>
        fresh (inside.trans (List.suffix_cons entry recent).isInfix)
      rw [older, List.countP_cons, UInt8.ofNat_add, UInt8.add_assoc]

theorem Continues.cons_other (continues : Continues older seq) (entry : Entry)
    (other : entry.isInit = false) (unnumbered : entry.isNumbered = false) :
    Continues (entry :: older) seq := by
  have counted := continues.cons entry other
  rw [unnumbered] at counted
  exact (UInt8.add_zero seq) ▸ counted

/-- Init packets short of a complete sequence leave the count where it is. -/
theorem Continues.init {block : List Entry} (continues : Continues (entry :: older) seq)
    (other : entry.isInit = false) (short : block.length < initRun.length)
    (inits : ∀ entry ∈ block, entry.isInit = true) :
    Continues (block ++ entry :: older) seq := by
  intro recent rest same front fresh
  rcases List.append_eq_append_iff.mp same with ⟨middle, recentIs, olderIs⟩ |
    ⟨middle, blockIs, restIs⟩
  · have none : block.countP Entry.isNumbered = 0 := by
      rw [List.countP_eq_zero]
      intro entry member
      have isInit := inits entry member
      cases entry with
      | tick => cases isInit
      | write packet =>
          cases packet with
          | init => simp [Entry.isNumbered, Packet.number]
          | sample | stop => cases isInit
    have counted := continues middle rest olderIs front fun inside =>
      fresh (recentIs ▸ inside.trans (List.suffix_append block middle).isInfix)
    rw [recentIs, List.countP_append, none, Nat.zero_add]
    exact counted
  · have shorter : middle.length < initRun.length := by
      rw [blockIs, List.length_append] at short
      omega
    rw [restIs] at front
    exact absurd front (initRun_not_start shorter other)

/-- A complete init sequence starts the count again. -/
theorem Continues.restart (other : entry.isInit = false) :
    Continues (initRun ++ entry :: older) firstSeq := by
  intro recent rest same front fresh
  rcases List.append_eq_append_iff.mp same with ⟨middle, recentIs, _⟩ | ⟨middle, runIs, restIs⟩
  · exact absurd (recentIs ▸ (List.prefix_append initRun middle).isInfix) fresh
  · cases recent with
    | nil => rfl
    | cons first recent =>
        have shorter : middle.length < initRun.length := by
          have lengths := congrArg List.length runIs
          rw [List.length_append, List.length_cons] at lengths
          omega
        rw [restIs] at front
        exact absurd front (initRun_not_start shorter other)

theorem Continues.of_initRun : Continues initRun firstSeq := by
  intro recent rest same front _
  have lengths := congrArg List.length same
  rw [List.length_append] at lengths
  have none : recent = [] := by
    have longer := front.length_le
    apply List.length_eq_zero_iff.mp
    omega
  rw [none]
  rfl

theorem Resumed.of_initRun (older : List Entry) : Resumed (initRun ++ older) := by
  intro recent seq ok rest same
  rcases List.append_eq_append_iff.mp same with ⟨middle, recentIs, _⟩ | ⟨middle, runIs, restIs⟩
  · exact recentIs ▸ (List.prefix_append initRun middle).isInfix
  · cases middle with
    | nil =>
        rw [List.append_nil] at runIs
        exact runIs ▸ List.infix_rfl
    | cons first middle =>
        rw [List.cons_append, List.cons.injEq] at restIs
        have member : first ∈ initRun := by
          rw [runIs]
          exact List.mem_append_right _ List.mem_cons_self
        have isInit := mem_initRun member
        rw [← restIs.1] at isInit
        cases isInit

end Cons

section Kept

variable {entry : Entry} {log idling : List Entry}

theorem Kept.cons (kept : Kept log idling)
    (sample : ∀ seq window ok, entry = .write (.sample seq window) ok → Resumed log)
    (numbered : ∀ packet ok seq, entry = .write packet ok → packet.number = some seq →
      Continues log seq) :
    Kept (entry :: log) idling where
  opens := kept.opens.trans (List.suffix_cons entry log)
  resumes := by
    intro seq window ok older suffix
    rcases List.suffix_cons_iff.mp suffix with same | inside
    · rw [List.cons.injEq] at same
      rw [same.2]
      exact sample seq window ok same.1.symm
    · exact kept.resumes seq window ok older inside
  idles := kept.idles
  sequence := by
    intro packet ok older seq number suffix
    rcases List.suffix_cons_iff.mp suffix with same | inside
    · rw [List.cons.injEq] at same
      rw [same.2]
      exact numbered packet ok seq same.1.symm number
    · exact kept.sequence packet ok older seq number inside

theorem Kept.idle (kept : Kept (entry :: log) log)
    (stop : ∀ seq ok, entry = .write (.stop seq) ok → SilentLong log) :
    Kept (entry :: log) (entry :: log) where
  opens := kept.opens
  resumes := kept.resumes
  idles := by
    intro seq ok older suffix
    rcases List.suffix_cons_iff.mp suffix with same | inside
    · rw [List.cons.injEq] at same
      rw [same.2]
      exact stop seq ok same.1.symm
    · exact kept.idles seq ok older inside
  sequence := kept.sequence

theorem QuietUntilActive.cons (quiet : QuietUntilActive log)
    (active : entry.isWrite = true → justStopped log = false) : QuietUntilActive (entry :: log) := by
  intro packet ok older suffix
  rcases List.suffix_cons_iff.mp suffix with same | inside
  · rw [List.cons.injEq] at same
    rw [same.2]
    apply active
    rw [← same.1]
    rfl
  · exact quiet packet ok older inside

theorem justStopped_inits {block : List Entry} (inits : ∀ entry ∈ block, entry.isInit = true)
    (awake : justStopped log = false) : justStopped (block ++ log) = false := by
  cases block with
  | nil => exact awake
  | cons first block =>
      have isInit := inits first List.mem_cons_self
      cases first with
      | tick => cases isInit
      | write packet =>
          cases packet with
          | init => rfl
          | sample | stop => cases isInit

/-- Init packets keep the laws of what is on the log. -/
theorem Kept.inits {block : List Entry} (kept : Kept log log) (quiet : QuietUntilActive log)
    (awake : justStopped log = false) (inits : ∀ entry ∈ block, entry.isInit = true) :
    Kept (block ++ log) (block ++ log) ∧ QuietUntilActive (block ++ log) := by
  induction block with
  | nil => exact ⟨kept, quiet⟩
  | cons first block ih =>
      have others : ∀ entry ∈ block, entry.isInit = true := fun entry member =>
        inits entry (List.mem_cons_of_mem _ member)
      rcases ih others with ⟨kept, quiet⟩
      have isInit := inits first List.mem_cons_self
      refine ⟨(kept.cons ?_ ?_).idle ?_, quiet.cons fun _ => justStopped_inits others awake⟩
      · rintro seq window ok rfl
        cases isInit
      · rintro packet ok seq rfl number
        cases packet with
        | init => cases number
        | sample | stop => cases isInit
      · rintro seq ok rfl
        cases isInit

end Kept

namespace Writer

/-- The silence that the policy has measured lies on the log. -/
def SilentSince (log : List Entry) (since : ℕ) : Prop :=
  ∃ recent rest, log = recent ++ .tick since true :: rest ∧
    ∀ time silent, Entry.tick time silent ∈ recent → silent = true

theorem SilentSince.cons {log : List Entry} {since : ℕ} (silent : SilentSince log since)
    {entry : Entry} (quiet : ∀ time, entry ≠ .tick time false) :
    SilentSince (entry :: log) since := by
  rcases silent with ⟨recent, rest, same, silent⟩
  refine ⟨entry :: recent, rest, by rw [same]; rfl, ?_⟩
  intro time loud member
  rcases List.mem_cons.mp member with rfl | old
  · cases loud with
    | true => rfl
    | false => exact absurd rfl (quiet time)
  · exact silent time loud old

/-- The laws hold so far, and the next sequence byte goes on from them. -/
structure Fit (writer : Writer) : Prop where
  kept : Kept writer.log writer.log
  quiet : QuietUntilActive writer.log
  next : Continues writer.log writer.seq

/-- A writer that waits for its next tick. -/
structure Alive (writer : Writer) : Prop extends Fit writer where
  active : writer.idle.idle = false → Resumed writer.log ∧ justStopped writer.log = false
  silent : ∀ since, writer.idle.silentSince = some since → SilentSince writer.log since

variable {writer : Writer} {host : Host}

theorem Fit.of_same {other : Writer} (fit : writer.Fit) (log : other.log = writer.log)
    (seq : other.seq = writer.seq) : other.Fit :=
  ⟨by rw [log]; exact fit.kept, by rw [log]; exact fit.quiet, by rw [log, seq]; exact fit.next⟩

theorem Fit.note_tick (fit : writer.Fit) (now : ℕ) (silent : Bool) :
    (writer.note (.tick now silent)).Fit where
  kept := (fit.kept.cons (by simp) (by simp)).idle (by simp)
  quiet := fit.quiet.cons (by simp [Entry.isWrite])
  next := fit.next.cons_other _ rfl rfl

theorem Fit.sendSample (fit : writer.Fit) (resumed : Resumed writer.log)
    (awake : justStopped writer.log = false) (chunk : List Sample) (ffbRaw : Int32) :
    (writer.sendSample host chunk ffbRaw).1.Fit ∧
      Resumed (writer.sendSample host chunk ffbRaw).1.log ∧
      justStopped (writer.sendSample host chunk ffbRaw).1.log = false := by
  refine ⟨⟨?_, ?_, ?_⟩, ?_, rfl⟩
  · refine (fit.kept.cons ?_ ?_).idle (by simp)
    · exact fun _ _ _ _ => resumed
    · rintro packet ok seq same number
      cases same
      cases number
      exact fit.next
  · exact fit.quiet.cons fun _ => awake
  · exact fit.next.cons _ rfl
  · exact resumed.cons (by simp)

theorem Fit.sendStop (fit : writer.Fit) (host : Host) (silent : SilentLong writer.log)
    (awake : justStopped writer.log = false) : (writer.sendStop host).1.Fit := by
  refine ⟨(fit.kept.cons (by simp) ?_).idle fun _ _ _ => silent, fit.quiet.cons fun _ => awake,
    fit.next.cons _ rfl⟩
  rintro packet ok seq same number
  cases same
  cases number
  exact fit.next

/-- The laws of a finished log. -/
theorem Fit.close (fit : writer.Fit) :
    ∃ last earlier, (writer.sendStop host).1.log = last :: earlier ∧
      Kept (last :: earlier) earlier ∧ QuietUntilActive earlier ∧ Closed (last :: earlier) := by
  refine ⟨_, writer.log, rfl, fit.kept.cons (by simp) ?_, fit.quiet, writer.seq, _, rfl⟩
  rintro packet ok seq same number
  cases same
  cases number
  exact fit.next

/-- What the idle policy does with a tick. -/
inductive Decided (policy : IdlePolicy) (now : ℕ) : Bool → IdlePolicy → IdleAction → Prop where
  | sound (awake : policy.idle = false) : Decided policy now false ⟨none, false⟩ .stream
  | resume (asleep : policy.idle = true) : Decided policy now false ⟨none, false⟩ .resume
  | stay (asleep : policy.idle = true) : Decided policy now true policy .stayIdle
  | wait (awake : policy.idle = false) :
      Decided policy now true ⟨some (policy.silentSince.getD now), false⟩ .stream
  | sleep (awake : policy.idle = false)
      (long : idleTimeout ≤ now - policy.silentSince.getD now) :
      Decided policy now true ⟨some (policy.silentSince.getD now), true⟩ .enterIdle

theorem decided (policy : IdlePolicy) (now : ℕ) (silent : Bool) :
    Decided policy now silent (policy.tick now silent).1 (policy.tick now silent).2 := by
  simp only [IdlePolicy.tick]
  cases silent with
  | false =>
      cases asleep : policy.idle with
      | false => exact .sound asleep
      | true => exact .resume asleep
  | true =>
      cases asleep : policy.idle with
      | true => exact .stay asleep
      | false =>
          simp only [↓reduceIte, Bool.false_eq_true]
          split
          · rename_i long
            exact .sleep asleep long
          · exact .wait asleep

theorem SilentSince.silentLong {log : List Entry} {now since : ℕ}
    (silent : SilentSince (.tick now true :: log) since) (long : idleTimeout ≤ now - since) :
    SilentLong (.tick now true :: log) := by
  rcases silent with ⟨recent, rest, same, silent⟩
  exact ⟨now, since, recent, rest, rfl, same, silent, long⟩

/-- The tick with which a silence begins or goes on. -/
theorem Alive.silentSince (alive : writer.Alive) (now : ℕ) :
    SilentSince (.tick now true :: writer.log) (writer.idle.silentSince.getD now) := by
  cases measured : writer.idle.silentSince with
  | none => exact ⟨[], writer.log, rfl, by simp⟩
  | some since => exact (alive.silent since measured).cons (by simp)

theorem map_write_isInit {packets : List Packet} (inits : packets <+: initPackets) {entry : Entry}
    (member : entry ∈ (packets.map (Entry.write · true)).reverse) : entry.isInit = true := by
  rcases List.mem_map.mp (List.mem_reverse.mp member) with ⟨packet, sent, rfl⟩
  rcases mem_initPackets (inits.subset sent) with ⟨index, rfl⟩
  rfl

/-- A full init sequence starts the stream anew; a refused one keeps the laws. -/
theorem Fit.sendInit {before : List Entry} {entry : Entry} (fit : writer.Fit) (host : Host)
    (log : writer.log = entry :: before) (other : entry.isInit = false)
    (awake : justStopped writer.log = false) :
    (writer.sendInit host).1.Fit ∧ (writer.sendInit host).1.idle = writer.idle ∧
      ((writer.sendInit host).2 = true → Resumed (writer.sendInit host).1.log ∧
        justStopped (writer.sendInit host).1.log = false) := by
  rcases writeAll_cases host initPackets writer with done | ⟨sent, packet, front, refused⟩
  · have laws := fit.kept.inits fit.quiet awake fun entry => mem_initRun
    simp only [Writer.sendInit, done]
    refine ⟨⟨laws.1, laws.2, ?_⟩, trivial, fun _ => ⟨.of_initRun _, ?_⟩⟩
    · simp only [log]
      exact Continues.restart other
    · exact justStopped_inits (fun entry => mem_initRun) awake
  · have inits : ∀ entry ∈ (sent.map (Entry.write · true)).reverse, entry.isInit = true :=
      fun entry => map_write_isInit ((List.prefix_append sent [packet]).trans front)
    have member : packet ∈ initPackets := front.subset (by simp)
    rcases mem_initPackets member with ⟨index, rfl⟩
    have laws := fit.kept.inits fit.quiet awake inits
    have short : (sent.map (Entry.write · true)).reverse.length < initRun.length := by
      have lengths := front.length_le
      rw [List.length_append, List.length_singleton] at lengths
      simp only [initRun, List.length_reverse, List.length_map]
      omega
    have next := fit.next
    simp only [log] at next
    simp only [Writer.sendInit, refused]
    refine ⟨⟨?_, ?_, ?_⟩, trivial, by simp⟩
    · refine (laws.1.cons (by simp) ?_).idle (by simp)
      rintro packet ok seq same number
      cases same
      cases number
    · exact laws.2.cons fun _ => justStopped_inits inits awake
    · simp only [log]
      exact (next.init other short inits).cons_other _ rfl rfl

/-- One tick keeps the laws; after a tick that went well the writer waits for the next. -/
theorem Alive.tick (alive : writer.Alive) (host : Host) (now : ℕ) (ffbRaw : Int32) :
    (writer.tick host now ffbRaw).1.Fit ∧
      ((writer.tick host now ffbRaw).2 = true → (writer.tick host now ffbRaw).1.Alive) := by
  simp only [Writer.tick]
  generalize (ffbRaw == 0 && writer.takeChunk.1.all Sample.isZero) = silent
  have choice := decided writer.takeChunk.2.idle now silent
  generalize (writer.takeChunk.2.idle.tick now silent).1 = policy at choice ⊢
  generalize (writer.takeChunk.2.idle.tick now silent).2 = action at choice ⊢
  have begun : ({ writer.takeChunk.2 with idle := policy }.note (.tick now silent)).Fit := by
    apply Fit.note_tick
    exact alive.toFit.of_same rfl rfl
  cases choice with
  | sound awake =>
      rcases alive.active awake with ⟨resumed, _⟩
      rcases begun.sendSample (resumed.cons (by simp)) rfl writer.takeChunk.1 ffbRaw with
        ⟨fit, stillResumed, stillAwake⟩
      refine ⟨fit, fun _ => ⟨fit, fun _ => ⟨stillResumed, stillAwake⟩, ?_⟩⟩
      intro since measured
      cases measured
  | wait awake =>
      rcases alive.active awake with ⟨resumed, notStopped⟩
      rcases begun.sendSample (resumed.cons (by simp)) notStopped writer.takeChunk.1 ffbRaw with
        ⟨fit, stillResumed, stillAwake⟩
      refine ⟨fit, fun _ => ⟨fit, fun _ => ⟨stillResumed, stillAwake⟩, ?_⟩⟩
      intro since measured
      cases measured
      exact (alive.silentSince now).cons (by simp)
  | sleep awake long =>
      have fit := begun.sendStop host ((alive.silentSince now).silentLong long) (alive.active awake).2
      refine ⟨fit, fun _ => ⟨fit, by simp [Writer.sendStop, Writer.write, note, nextSeq], ?_⟩⟩
      intro since measured
      cases measured
      exact (alive.silentSince now).cons (by simp)
  | stay asleep =>
      refine ⟨begun, fun _ => ⟨begun, ?_, ?_⟩⟩
      · intro awake
        exact absurd awake (by simp [note, asleep])
      · intro since measured
        exact (alive.silent since measured).cons (by simp)
  | resume asleep =>
      have inited := begun.sendInit host rfl rfl rfl
      simp only
      split
      · rename_i next started
        rw [started] at inited
        rcases inited with ⟨fit, idle, resumed⟩
        rcases resumed rfl with ⟨resumed, notStopped⟩
        rcases fit.sendSample resumed notStopped writer.takeChunk.1 ffbRaw with
          ⟨fit, stillResumed, stillAwake⟩
        refine ⟨fit, fun _ => ⟨fit, fun _ => ⟨stillResumed, stillAwake⟩, ?_⟩⟩
        intro since measured
        have policy : next.idle.silentSince = some since := measured
        rw [idle] at policy
        cases policy
      · rename_i next refused
        rw [refused] at inited
        exact ⟨inited.1, by simp⟩

theorem Kept.of_initRun : Kept initRun initRun ∧ QuietUntilActive initRun := by
  have inits : ∀ packet ok older, Entry.write packet ok :: older <:+ initRun →
      (∃ index, packet = .init index) ∧ justStopped older = false := by
    intro packet ok older suffix
    have all : ∀ entry ∈ Entry.write packet ok :: older, entry.isInit = true := fun entry member =>
      mem_initRun (suffix.subset member)
    have none : justStopped (older ++ []) = false :=
      justStopped_inits (fun entry member => all entry (List.mem_cons_of_mem _ member)) rfl
    rw [List.append_nil] at none
    refine ⟨?_, none⟩
    cases packet with
    | init index => exact ⟨index, rfl⟩
    | sample | stop => cases all _ List.mem_cons_self
  refine ⟨⟨List.suffix_rfl, ?_, ?_, ?_⟩, fun packet ok older suffix => (inits _ _ _ suffix).2⟩
  · intro seq window ok older suffix
    rcases (inits _ _ _ suffix).1 with ⟨index, same⟩
    cases same
  · intro seq ok older suffix
    rcases (inits _ _ _ suffix).1 with ⟨index, same⟩
    cases same
  · intro packet ok older seq number suffix
    rcases (inits _ _ _ suffix).1 with ⟨index, rfl⟩
    cases number

/-- A stream that has opened waits for its first tick. -/
theorem Alive.of_open {next : Writer} (started : Writer.new.sendInit host = (next, true)) :
    next.Alive := by
  rcases writeAll_cases host initPackets Writer.new with done | ⟨sent, packet, _, refused⟩
  · simp only [Writer.sendInit, done, Prod.mk.injEq, and_true] at started
    subst started
    have log : (initPackets.map (Entry.write · true)).reverse ++ Writer.new.log = initRun :=
      List.append_nil _
    rw [log]
    refine ⟨⟨Kept.of_initRun.1, Kept.of_initRun.2, ?_⟩, fun _ => ⟨?_, ?_⟩, ?_⟩
    · exact Continues.of_initRun
    · have resumed := Resumed.of_initRun []
      rw [List.append_nil] at resumed
      exact resumed
    · have awake : justStopped (initRun ++ []) = false :=
        justStopped_inits (fun _ => mem_initRun) rfl
      rw [List.append_nil] at awake
      exact awake
    · intro since measured
      cases measured
  · simp [Writer.sendInit, refused] at started

theorem drain_same (commands : List Cmd) (writer : Writer) :
    (writer.drain commands).log = writer.log ∧ (writer.drain commands).seq = writer.seq ∧
      (writer.drain commands).idle = writer.idle := by
  induction commands generalizing writer with
  | nil => exact ⟨rfl, rfl, rfl⟩
  | cons command commands ih =>
      cases command with
      | push samples =>
          have same := ih (writer.pushPending samples)
          simp only [Writer.drain, List.foldl_cons, Writer.pushPending] at same ⊢
          exact same
      | stop => exact ih writer

theorem Alive.drain (alive : writer.Alive) (commands : List Cmd) :
    (writer.drain commands).Alive := by
  rcases drain_same commands writer with ⟨log, seq, idle⟩
  refine ⟨alive.toFit.of_same log seq, ?_, ?_⟩
  · rw [idle, log]
    exact alive.active
  · rw [idle, log]
    exact alive.silent

/-- The run of a writer that waits for its first tick. -/
theorem Alive.run (alive : writer.Alive) (host : Host) (rounds : List Round) :
    ∃ last earlier, (writer.run host rounds).log = last :: earlier ∧
      Kept (last :: earlier) earlier ∧ QuietUntilActive earlier ∧ Closed (last :: earlier) := by
  induction rounds generalizing writer with
  | nil => exact alive.toFit.close
  | cons round rounds ih =>
      have drained := alive.drain round.commands
      have ticked := drained.tick host round.now round.ffbRaw
      simp only [Writer.run]
      split
      · exact drained.toFit.close
      · split
        · rename_i next went
          rw [went] at ticked
          exact ih (ticked.2 rfl)
        · rename_i next failed
          rw [failed] at ticked
          exact ticked.1.close

end Writer

/--
However pushes, stop requests, forces, clocks and refused writes come, a stream opens
with two init passes, takes up samples after a stop only behind two more, stops idly
only after the whole idle time in silence and then sends nothing before sound returns
or the writer ends, counts its sequence bytes on, and ends by attempting a stop.
-/
theorem trace_lawful {host : Host} {rounds : List Round} {log : List Entry}
    (opened : trace host rounds = some log) :
    Kept log log.tail ∧ QuietUntilActive log.tail ∧ Closed log := by
  simp only [trace] at opened
  split at opened
  · rename_i writer started
    cases opened
    rcases (Writer.Alive.of_open started).run host rounds with ⟨last, earlier, log, laws⟩
    rw [log]
    exact laws
  · cases opened

/-- Idle after five seconds, awake again, and stopped. -/
theorem trace_lawful_of_resumed :
    ∃ log, trace ⟨fun _ => true, fun _ => 0, .inverted⟩
        [⟨0, [], false, 0⟩, ⟨5000000000, [], false, 0⟩, ⟨6000000000, [], false, 7⟩,
          ⟨6001000000, [.stop], false, 7⟩] = some log ∧
      log.take 3 = [.write (.stop 70) true,
        .write (.sample 69 (List.replicate 9 0x8000 ++ List.replicate 4 0x7ff9)) true,
        .write (.init 67) true] ∧
      Kept log log.tail ∧ QuietUntilActive log.tail ∧ Closed log := by
  have executed : (trace ⟨fun _ => true, fun _ => 0, .inverted⟩
      [⟨0, [], false, 0⟩, ⟨5000000000, [], false, 0⟩, ⟨6000000000, [], false, 7⟩,
        ⟨6001000000, [.stop], false, 7⟩]).map (List.take 3) =
      some [.write (.stop 70) true,
        .write (.sample 69 (List.replicate 9 0x8000 ++ List.replicate 4 0x7ff9)) true,
        .write (.init 67) true] := by
    decide
  rcases Option.map_eq_some_iff.mp executed with ⟨log, opened, newest⟩
  exact ⟨log, opened, newest, trace_lawful opened⟩

/-- A stop request sends a second stop packet into the silence after an idle stop. -/
theorem closing_stop_breaks_silence :
    ¬∀ host rounds log, trace host rounds = some log →
      Kept log log.tail ∧ QuietUntilActive log ∧ Closed log := by
  intro claimed
  have executed : (trace ⟨fun _ => true, fun _ => 0, .normal⟩
      [⟨0, [], false, 0⟩, ⟨5000000000, [], false, 0⟩, ⟨5001000000, [.stop], false, 0⟩]).map
        (List.take 2) = some [.write (.stop 71) true, .write (.stop 70) true] := by
    decide
  rcases Option.map_eq_some_iff.mp executed with ⟨log, opened, newest⟩
  rcases claimed _ _ log opened with ⟨_, quiet, _⟩
  rcases log with _ | ⟨last, _ | ⟨idle, older⟩⟩
  · cases newest
  · cases newest
  · simp only [List.take_succ_cons, List.take_zero, List.cons.injEq, and_true] at newest
    rcases newest with ⟨rfl, rfl⟩
    exact absurd (quiet _ _ _ List.suffix_rfl) (by simp [justStopped])

end TrueForce.TfSim.G923
