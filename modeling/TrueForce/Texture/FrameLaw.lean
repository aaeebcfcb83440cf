import TrueForce.Texture.Interceptor

/-!
# What the interceptor does to a report

A report changes in two places only: the force field of a foreign stream packet
while an effect of ours plays, and the sample field of a packet that is spliced.
The window runs on from one spliced packet to the next, whatever passes between
them, because nothing but a splice moves the window or the phases.
-/

namespace TrueForce.Texture

open TrueForce.ByteBuffer

namespace Texmerge

/-- The window of a packet, oldest slot first, each slot with both its halves. -/
def windowSlots (buffer : Bytes) : List Bytes := chunks buffer 12 4 windowSize

theorem length_slotBytes (sample : ℤ) : (slotBytes sample).length = 4 := rfl

@[simp]
theorem length_windowBytes (window : Window) : (windowBytes window).length = 52 := by
  rw [windowBytes, length_flatMap length_slotBytes, window.full]
  rfl

theorem stamp_room (window : Window) {buffer : Bytes} (whole : buffer.length = 64) :
    12 + (windowBytes window).length ≤ (write buffer 10 [4, 0x0d]).length := by
  rw [length_write (by simp [whole]), length_windowBytes, whole]

/-- What the splice wrote can be read back slot by slot. -/
theorem windowSlots_stamp (window : Window) {buffer : Bytes} (whole : buffer.length = 64) :
    windowSlots (stamp window buffer) = window.slots.map slotBytes := by
  have back : (stamp window buffer).drop 12 = window.slots.flatMap slotBytes := by
    rw [stamp, drop_write (stamp_room window whole), length_windowBytes, List.drop_eq_nil_of_le,
      List.append_nil]
    · rfl
    · rw [length_write (by simp [whole])]
      omega
  rw [windowSlots, ← window.full]
  exact chunks_flatMap length_slotBytes back

theorem stamp_header (window : Window) {buffer : Bytes} (whole : buffer.length = 64) :
    (stamp window buffer)[10]? = some 4 ∧ (stamp window buffer)[11]? = some 0x0d := by
  have fits : 10 + ([4, 0x0d] : Bytes).length ≤ buffer.length := by simp [whole]
  have room := stamp_room window whole
  constructor
  · rw [stamp, getElem?_write_before (by omega) room]
    exact getElem?_write_inside (by decide : 0 < [(4 : UInt8), 0x0d].length) fits
  · rw [stamp, getElem?_write_before (by omega) room]
    exact getElem?_write_inside (by decide : 1 < [(4 : UInt8), 0x0d].length) fits

theorem length_stamp (window : Window) {buffer : Bytes} (whole : buffer.length = 64) :
    (stamp window buffer).length = buffer.length := by
  rw [stamp, length_write (stamp_room window whole), length_write (by simp [whole])]

theorem changed_by_stamp (window : Window) {buffer : Bytes} (whole : buffer.length = 64)
    {index : ℕ} (changed : (stamp window buffer)[index]? ≠ buffer[index]?) :
    10 ≤ index ∧ index ≤ 63 := by
  have fits : 10 + ([4, 0x0d] : Bytes).length ≤ buffer.length := by simp [whole]
  have room := stamp_room window whole
  by_cases outer : (stamp window buffer)[index]? = (write buffer 10 [4, 0x0d])[index]?
  · rw [outer] at changed
    have inside := changed_by_write fits changed
    simp only [List.length_cons, List.length_nil] at inside
    omega
  · have inside := changed_by_write room outer
    rw [length_windowBytes] at inside
    omega

/-- The two outcomes of the splice: either nothing moves but the pacing, or the
window and the phases run on by one block. -/
theorem splice_cases (texmerge : Texmerge) (buffer : Bytes) (now : UInt64) :
    (∃ debtQ8 lastNs,
      texmerge.splice buffer now = ({ texmerge with debtQ8, lastNs }, buffer, 0)) ∨
    (eligible buffer = true ∧ ∃ debtQ8 lastNs,
      texmerge.splice buffer now =
        ({ texmerge with
            debtQ8, lastNs
            phase := texmerge.nextPhase
            window := texmerge.window.append texmerge.nextBlock },
          stamp (texmerge.window.append texmerge.nextBlock) buffer, blockSize)) := by
  simp only [splice]
  split_ifs with gate live poor
  · exact Or.inl ⟨texmerge.debtQ8, texmerge.lastNs, rfl⟩
  · exact Or.inl ⟨texmerge.debtQ8, texmerge.lastNs, rfl⟩
  · exact Or.inl ⟨(texmerge.pace now).debtQ8, now, rfl⟩
  · refine Or.inr ⟨?_, (texmerge.pace now).play.debtQ8, now, rfl⟩
    simpa using (not_or.mp gate).2

end Texmerge

namespace Shim

open Texmerge

variable {shim : Shim} {report : Report} {force : UInt16}

/-- A stream packet of a user's process has room for a force, and an effect of ours plays. -/
structure Carries (shim : Shim) (report : Report) : Prop where
  linked : shim.linked = true
  stream : report.bytes[0]? = some 1 ∧ report.bytes[4]? = some 1
  user : report.context = .process
  room : 10 ≤ report.bytes.length
  playing : shim.ff.anyEffectPlaying = true

theorem carriedForce_eq_some_iff :
    shim.carriedForce report = some force ↔ shim.Carries report ∧ force = shim.ff.yieldForce := by
  simp only [carriedForce, Report.foreignStream, Bool.and_eq_true, beq_iff_eq,
    Option.ite_none_right_eq_some, Option.some.injEq]
  constructor
  · rintro ⟨⟨linked, ⟨stream, user⟩, room, playing⟩, same⟩
    exact ⟨⟨linked, stream, user, room, playing⟩, same.symm⟩
  · rintro ⟨carries, same⟩
    exact ⟨⟨carries.linked, ⟨carries.stream, carries.user⟩, carries.room, carries.playing⟩,
      same.symm⟩

theorem Carries.carriedForce (carries : shim.Carries report) :
    shim.carriedForce report = some shim.ff.yieldForce :=
  carriedForce_eq_some_iff.mpr ⟨carries, rfl⟩

theorem carriedForce_of_not_carries (quiet : ¬shim.Carries report) :
    shim.carriedForce report = none := by
  apply Option.eq_none_iff_forall_ne_some.mpr
  intro force carried
  exact quiet (carriedForce_eq_some_iff.mp carried).1

theorem carriedForce_room (carried : shim.carriedForce report = some force) :
    10 ≤ report.bytes.length := by
  exact (carriedForce_eq_some_iff.mp carried).1.room

theorem carry_of_some (carried : shim.carriedForce report = some force) :
    shim.carry report = write (write report.bytes 6 (le16 force)) 8 (le16 force) := by
  simp only [carry, carried]

theorem carry_of_none (quiet : shim.carriedForce report = none) :
    shim.carry report = report.bytes := by
  simp only [carry, quiet]

@[simp]
theorem length_carry : (shim.carry report).length = report.bytes.length := by
  cases carried : shim.carriedForce report with
  | none => rw [carry_of_none carried]
  | some force =>
      have room := carriedForce_room carried
      have fits : 6 + (le16 force).length ≤ report.bytes.length := by
        rw [length_le16]
        omega
      rw [carry_of_some carried, length_write, length_write fits]
      rw [length_write fits, length_le16]
      omega

theorem changed_by_carry {index : ℕ} (changed : (shim.carry report)[index]? ≠ report.bytes[index]?) :
    6 ≤ index ∧ index ≤ 9 ∧ shim.Carries report := by
  cases carried : shim.carriedForce report with
  | none =>
      rw [carry_of_none carried] at changed
      exact absurd rfl changed
  | some force =>
      have carries := (carriedForce_eq_some_iff.mp carried).1
      have room := carries.room
      have fits : 6 + (le16 force).length ≤ report.bytes.length := by
        rw [length_le16]
        omega
      have again : 8 + (le16 force).length ≤ (write report.bytes 6 (le16 force)).length := by
        rw [length_write fits, length_le16]
        omega
      rw [carry_of_some carried] at changed
      by_cases outer : (write (write report.bytes 6 (le16 force)) 8 (le16 force))[index]? =
          (write report.bytes 6 (le16 force))[index]?
      · rw [outer] at changed
        have inside := changed_by_write fits changed
        rw [length_le16] at inside
        exact ⟨inside.1, by omega, carries⟩
      · have inside := changed_by_write again outer
        rw [length_le16] at inside
        exact ⟨by omega, by omega, carries⟩

theorem carry_force (carried : shim.carriedForce report = some force) {half : ℕ}
    (inside : half < 2) :
    (shim.carry report)[6 + half]? = (le16 force)[half]? ∧
      (shim.carry report)[8 + half]? = (le16 force)[half]? := by
  have room := carriedForce_room carried
  have fits : 6 + (le16 force).length ≤ report.bytes.length := by
    rw [length_le16]
    omega
  have again : 8 + (le16 force).length ≤ (write report.bytes 6 (le16 force)).length := by
    rw [length_write fits, length_le16]
    omega
  rw [carry_of_some carried]
  constructor
  · rw [getElem?_write_before (by omega) again]
    exact getElem?_write_inside (by simpa using inside) fits
  · exact getElem?_write_inside (by simpa using inside) again

/-- The gates of the splice read bytes that the carry leaves alone. -/
theorem eligible_carry : eligible (shim.carry report) = eligible report.bytes := by
  have same (index : ℕ) (outside : index < 6 ∨ 9 < index) :
      (shim.carry report)[index]? = report.bytes[index]? := by
    by_contra changed
    have inside := changed_by_carry changed
    omega
  simp only [eligible, length_carry, same 0 (by omega), same 4 (by omega), same 10 (by omega)]

/-- The synthesiser stays where it is, the pacing and the settings apart. -/
def Holds (shim next : Shim) : Prop :=
  next.texmerge.window = shim.texmerge.window ∧ next.texmerge.phase = shim.texmerge.phase

@[simp]
theorem noteForeign_texmerge : (shim.noteForeign report).texmerge = shim.texmerge := by
  simp only [noteForeign]
  split <;> rfl

theorem dispatch_cases (shim : Shim) (buffer : Bytes) (now : UInt64) :
    (∃ next, shim.Holds next ∧ shim.dispatch buffer now = (next, buffer, 0)) ∨
    (eligible buffer = true ∧ ∃ next : Shim,
      next.texmerge.window = shim.texmerge.window.append shim.texmerge.nextBlock ∧
      next.texmerge.phase = shim.texmerge.nextPhase ∧
      shim.dispatch buffer now = (next, stamp next.texmerge.window buffer, blockSize)) := by
  simp only [dispatch]
  split_ifs with push linked enabled
  · refine Or.inl ⟨_, ?_, rfl⟩
    exact ⟨rfl, rfl⟩
  · refine Or.inl ⟨_, ?_, rfl⟩
    exact ⟨rfl, rfl⟩
  · rcases splice_cases shim.texmerge buffer now with ⟨debtQ8, lastNs, same⟩ |
      ⟨fits, debtQ8, lastNs, spliced⟩
    · rw [same]
      refine Or.inl ⟨_, ?_, rfl⟩
      exact ⟨rfl, rfl⟩
    · rw [spliced]
      exact Or.inr ⟨fits, _, rfl, rfl, rfl⟩
  · exact Or.inl ⟨_, ⟨rfl, rfl⟩, rfl⟩

/-- A report is either forwarded with nothing but the carried force in it, or
spliced with the window one block further on. -/
theorem classify_cases (shim : Shim) (report : Report) :
    (∃ next, shim.Holds next ∧ shim.classify report = (next, shim.carry report, 0)) ∨
    (eligible report.bytes = true ∧ ∃ next : Shim,
      next.texmerge.window = shim.texmerge.window.append shim.texmerge.nextBlock ∧
      next.texmerge.phase = shim.texmerge.nextPhase ∧
      shim.classify report =
        (next, stamp next.texmerge.window (shim.carry report), blockSize)) := by
  simp only [classify]
  split_ifs with own
  · exact Or.inl ⟨_, ⟨by rw [noteForeign_texmerge], by rw [noteForeign_texmerge]⟩, rfl⟩
  · have cases := dispatch_cases (shim.noteForeign report) (shim.carry report) report.now
    simp only [Holds, noteForeign_texmerge, eligible_carry] at cases
    exact cases

/-- What may happen to one report on its way through. -/
structure FrameLaw (shim : Shim) (report : Report) : Prop where
  length : (shim.forwarded report).length = report.bytes.length
  /-- A changed byte is the carried force or the sample field of a splice. -/
  changed : ∀ index, (shim.forwarded report)[index]? ≠ report.bytes[index]? →
    (6 ≤ index ∧ index ≤ 9 ∧ shim.Carries report) ∨
      (10 ≤ index ∧ index ≤ 63 ∧ shim.Splices report)
  /-- The force of ours stands in the force field twice. -/
  carried : shim.Carries report → ∀ half < 2,
    (shim.forwarded report)[6 + half]? = (le16 shim.ff.yieldForce)[half]? ∧
      (shim.forwarded report)[8 + half]? = (le16 shim.ff.yieldForce)[half]?
  /-- A splice takes a stream packet without samples and gives it a window of them. -/
  spliced : shim.Splices report →
    report.bytes.length = 64 ∧ report.bytes[0]? = some 1 ∧ report.bytes[4]? = some 1 ∧
      report.bytes[10]? = some 0 ∧ (shim.forwarded report)[10]? = some 4 ∧
      (shim.forwarded report)[11]? = some 0x0d ∧
      ∀ slot ∈ windowSlots (shim.forwarded report), ∃ value, slot = le16 value ++ le16 value
  rest : ¬shim.Carries report → ¬shim.Splices report →
    shim.forwarded report = report.bytes

theorem eligible_iff {buffer : Bytes} : eligible buffer = true ↔
    buffer.length = 64 ∧ buffer[0]? = some 1 ∧ buffer[4]? = some 1 ∧ buffer[10]? = some 0 := by
  simp [eligible, and_assoc]

theorem not_splices {next : Shim} {bytes : Bytes}
    (outcome : shim.classify report = (next, bytes, 0)) : ¬shim.Splices report := by
  rw [Splices, outcome]
  exact (by decide : ¬0 = blockSize)

theorem frameLaw (shim : Shim) (report : Report) : shim.FrameLaw report := by
  rcases classify_cases shim report with ⟨next, _, outcome⟩ | ⟨fits, next, _, _, outcome⟩
  · have unspliced := not_splices outcome
    have out : shim.forwarded report = shim.carry report := by rw [forwarded, outcome]
    refine ⟨by rw [out, length_carry], ?_, ?_, fun spliced => absurd spliced unspliced, ?_⟩
    · intro index changed
      rw [out] at changed
      exact Or.inl (changed_by_carry changed)
    · intro carries half inside
      rw [out]
      exact carry_force carries.carriedForce inside
    · intro quiet _
      rw [out, carry_of_none (carriedForce_of_not_carries quiet)]
  · have splices : shim.Splices report := by rw [Splices, outcome]
    have out : shim.forwarded report = stamp next.texmerge.window (shim.carry report) := by
      rw [forwarded, outcome]
    have gates := eligible_iff.mp fits
    have whole : (shim.carry report).length = 64 := by rw [length_carry, gates.1]
    have behind (index : ℕ) (early : index < 10) :
        (shim.forwarded report)[index]? = (shim.carry report)[index]? := by
      rw [out]
      by_contra changed
      have inside := changed_by_stamp _ whole changed
      omega
    refine ⟨by rw [out, length_stamp _ whole, length_carry], ?_, ?_, ?_,
      fun _ unspliced => absurd splices unspliced⟩
    · intro index changed
      by_cases early : index < 10
      · rw [behind index early] at changed
        exact Or.inl (changed_by_carry changed)
      · right
        rw [out] at changed
        by_cases stamped : (stamp next.texmerge.window (shim.carry report))[index]? =
            (shim.carry report)[index]?
        · rw [stamped] at changed
          have inside := changed_by_carry changed
          omega
        · have inside := changed_by_stamp _ whole stamped
          exact ⟨inside.1, inside.2, splices⟩
    · intro carries half inside
      rw [behind (6 + half) (by omega), behind (8 + half) (by omega)]
      exact carry_force carries.carriedForce inside
    · intro _
      have header := stamp_header next.texmerge.window whole
      refine ⟨gates.1, gates.2.1, gates.2.2.1, gates.2.2.2, ?_, ?_, ?_⟩
      · rw [out, header.1]
      · rw [out, header.2]
      · intro slot member
        rw [out, windowSlots_stamp _ whole] at member
        rcases List.mem_map.mp member with ⟨sample, _, rfl⟩
        exact ⟨UInt16.ofInt (sample + 32768), rfl⟩

/-- A spliced packet together with the synthesiser as the splice found it. -/
structure Spliced where
  found : Texmerge
  bytes : Bytes

/-- The packet that a step splices, if it splices one. -/
def spliced (shim : Shim) : Event → Option Spliced
  | .packet report =>
      if shim.Splices report then some ⟨shim.texmerge, shim.forwarded report⟩ else none
  | _ => none

/-- The spliced packets of a run, in order. -/
def splicedRun : Shim → List Event → List Spliced
  | _, [] => []
  | shim, event :: events => (shim.spliced event).toList ++ (shim.step event).splicedRun events

/-- The later window is the earlier one moved on by the next four samples. -/
def Spliced.Continues (earlier later : Spliced) : Prop :=
  windowSlots later.bytes =
      (windowSlots earlier.bytes).drop blockSize ++ later.found.nextBlock.samples.map slotBytes ∧
    later.found.phase = earlier.found.nextPhase

/-- The shim still holds what a splice left behind. -/
def Remembers (shim : Shim) (earlier : Spliced) : Prop :=
  windowSlots earlier.bytes = shim.texmerge.window.slots.map slotBytes ∧
    shim.texmerge.phase = earlier.found.nextPhase

theorem Remembers.of_holds {next : Shim} {earlier : Spliced} (remembers : shim.Remembers earlier)
    (holds : shim.Holds next) : next.Remembers earlier := by
  rw [Remembers, holds.1, holds.2]
  exact remembers

theorem store_holds (valid : Bool) (change : Texmerge → Texmerge)
    (window : ∀ texmerge, (change texmerge).window = texmerge.window)
    (phase : ∀ texmerge, (change texmerge).phase = texmerge.phase) :
    shim.Holds (shim.settle (shim.store valid change)) := by
  simp only [store]
  split_ifs
  · exact ⟨rfl, rfl⟩
  · exact ⟨rfl, rfl⟩
  · exact ⟨rfl, rfl⟩
  · exact ⟨window _, phase _⟩

/-- Nothing but a splice moves the window or the phases. -/
theorem step_cases (shim : Shim) (event : Event) :
    (shim.spliced event = none ∧ shim.Holds (shim.step event)) ∨
    (∃ bytes, shim.spliced event = some ⟨shim.texmerge, bytes⟩ ∧
      windowSlots bytes =
        (shim.texmerge.window.append shim.texmerge.nextBlock).slots.map slotBytes ∧
      (shim.step event).Remembers ⟨shim.texmerge, bytes⟩) := by
  cases event with
  | packet report =>
      rcases classify_cases shim report with ⟨next, holds, outcome⟩ |
        ⟨fits, next, window, phase, outcome⟩
      · left
        exact ⟨if_neg (not_splices outcome), by rw [step, outcome]; exact holds⟩
      · right
        have splices : shim.Splices report := by rw [Splices, outcome]
        have whole : (shim.carry report).length = 64 := by
          rw [length_carry, (eligible_iff.mp fits).1]
        have slots : windowSlots (shim.forwarded report) =
            next.texmerge.window.slots.map slotBytes := by
          rw [forwarded, outcome, windowSlots_stamp _ whole]
        refine ⟨shim.forwarded report, if_pos splices, ?_, ?_, ?_⟩
        · rw [slots, window]
        · rw [step, outcome, slots]
        · rw [step, outcome, phase]
  | storeMerge on => exact Or.inl ⟨rfl, store_holds _ _ (fun _ => rfl) fun _ => rfl⟩
  | storeRpm rpm maxRpm now => exact Or.inl ⟨rfl, store_holds _ _ (fun _ => rfl) fun _ => rfl⟩
  | storeIntensity value => exact Or.inl ⟨rfl, store_holds _ _ (fun _ => rfl) fun _ => rfl⟩
  | storeCylinders value => exact Or.inl ⟨rfl, store_holds _ _ (fun _ => rfl) fun _ => rfl⟩
  | driver ff => exact Or.inl ⟨rfl, rfl, rfl⟩
  | uninstall => exact Or.inl ⟨rfl, rfl, rfl⟩

theorem Remembers.continues {earlier : Spliced} {bytes : Bytes}
    (remembers : shim.Remembers earlier)
    (slots : windowSlots bytes =
      (shim.texmerge.window.append shim.texmerge.nextBlock).slots.map slotBytes) :
    earlier.Continues ⟨shim.texmerge, bytes⟩ := by
  refine ⟨?_, remembers.2⟩
  rw [slots, remembers.1, Window.append, List.map_append, List.map_drop]

/-- A run from a shim that holds an earlier splice goes on from there. -/
theorem splicedRun_continues {earlier : Spliced} (events : List Event)
    (remembers : shim.Remembers earlier) :
    List.IsChain Spliced.Continues (earlier :: shim.splicedRun events) := by
  induction events generalizing shim earlier with
  | nil => exact .singleton earlier
  | cons event events ih =>
      rcases step_cases shim event with ⟨none, holds⟩ | ⟨bytes, some, slots, held⟩
      · rw [splicedRun, none]
        exact ih (remembers.of_holds holds)
      · rw [splicedRun, some]
        exact .cons_cons (remembers.continues slots) (ih held)

theorem splicedRun_chain (shim : Shim) (events : List Event) :
    List.IsChain Spliced.Continues (shim.splicedRun events) := by
  induction events generalizing shim with
  | nil => exact .nil
  | cons event events ih =>
      rcases step_cases shim event with ⟨none, _⟩ | ⟨bytes, some, _, held⟩
      · rw [splicedRun, none]
        exact ih _
      · rw [splicedRun, some]
        exact splicedRun_continues events held

/-- Every report keeps to the frame law, and the spliced packets of a run carry one
unbroken stream of samples. -/
theorem interceptor_law (shim : Shim) (events : List Event) :
    (∀ report, shim.FrameLaw report) ∧
      List.IsChain Spliced.Continues (shim.splicedRun events) :=
  ⟨frameLaw shim, splicedRun_chain shim events⟩

/-- The merge runs while an effect of ours plays. -/
def merging : Shim where
  texmerge := Example.running
  ff :=
    { foreignStreamAt := 0, anyEffectPlaying := true, yieldForce := 0x9000, selfInflight := 0,
      stopping := false, rangeRestore := true, range := 900, tmPushSeen := false,
      tmRestoreDeg := 0, tmRestoreGen := 0, tmRestoreWork := false }
  linked := true

/-- A game's packet at a time. -/
def gamePacket (now : UInt64) : Report := ⟨Example.packet, .process, 0, now⟩

/-- Two packets of a game a few milliseconds apart, with the intensity changed in between. -/
def twoPackets : List Event :=
  [.packet (gamePacket 2000000), .storeIntensity 50, .packet (gamePacket 4000000)]

theorem interceptor_law_two_packets :
    (merging.forwarded (gamePacket 2000000))[6]? = some 0x00 ∧
      (merging.forwarded (gamePacket 2000000))[7]? = some 0x90 ∧
      ∃ earlier later, merging.splicedRun twoPackets = [earlier, later] ∧
        earlier.Continues later := by
  have law := interceptor_law merging twoPackets
  have carries : merging.Carries (gamePacket 2000000) := by
    constructor <;> decide
  have force := (law.1 (gamePacket 2000000)).carried carries
  have chain := law.2
  have run : merging.splicedRun twoPackets = [_, _] := rfl
  rw [run] at chain
  exact ⟨(force 0 (by decide)).1, (force 1 (by decide)).1, _, _, run,
    (List.isChain_cons_cons.mp chain).1⟩

end Shim

end TrueForce.Texture
