import TrueForce.Relay.IRacingLaw
import TrueForce.Relay.ReadFront

/-!
# What the read limit costs

Only the mapping that describes itself can place what is read behind the limit of its
game.  Its sample is kept where the entries of the wanted names and the newest buffer
end before the limit.
-/

namespace TrueForce.Relay

open RFactor2 (Bytes RelayTelemetry Rounding slice i32At)
open AssettoCorsa (AirborneGate)
open RustText (Text utf8)

variable {limit off : ℕ}

namespace IRacing

variable {map : Bytes}

/-- The entries of wanted names end in the first `limit` bytes. -/
def EntriesWithin (limit : ℕ) (map : Bytes) : Prop :=
  ∀ numVars tableOff : ℕ, i32At map 24 = some (numVars : ℤ) →
    i32At map 28 = some (tableOff : ℤ) → ∀ i < numVars, ∀ want ∈ wanted,
      tableOff + i * varheaderLen + varheaderLen ≤ map.length →
      nameAt map (tableOff + i * varheaderLen + varheaderNameOff) = some (utf8 want) →
      tableOff + i * varheaderLen + varheaderLen ≤ limit

/-- Nothing that a sample is made of ends behind the first `limit` bytes. -/
structure Within (limit : ℕ) (map : Bytes) : Prop where
  entries : EntriesWithin limit map
  buffer : ∀ off len, newestBuffer map = some (off, len) → off + len ≤ limit

theorem within_of_length (short : map.length ≤ limit) : Within limit map where
  entries := fun _ _ _ _ _ _ _ _ fits _ => Nat.le_trans fits short
  buffer := fun _ _ found =>
    Nat.le_trans (inside_of_isNewest (isNewest_of_newestBuffer found)) short

theorem entryAt_take {entry : ℕ} (inside : entry + varheaderLen ≤ limit) :
    entryAt (map.take limit) entry = entryAt map entry := by
  rw [entryAt, entryAt, List.drop_take, List.take_take, Nat.min_eq_left (by omega)]

theorem mem_entriesFrom {tableOff remaining i : ℕ} {entry : Bytes}
    (member : entry ∈ entriesFrom map tableOff remaining i) :
    ∃ j, i ≤ j ∧ j < i + remaining ∧ entry = entryAt map (tableOff + j * varheaderLen) ∧
      tableOff + j * varheaderLen + varheaderLen ≤ map.length := by
  induction remaining generalizing i with
  | zero => cases member
  | succ remaining ih =>
      simp only [entriesFrom] at member
      split at member
      · cases member
      · next fits =>
          rcases List.mem_cons.mp member with rfl | later
          · exact ⟨i, by omega, by omega, rfl, by omega⟩
          · obtain ⟨j, after, before, same, inside⟩ := ih later
            exact ⟨j, by omega, by omega, same, inside⟩

/-- The entries that the front of a mapping leaves out are all behind those that it has. -/
theorem entriesFrom_take (map : Bytes) (limit tableOff remaining i : ℕ) :
    ∃ beyond, entriesFrom map tableOff remaining i =
        entriesFrom (map.take limit) tableOff remaining i ++ beyond ∧
      ∀ entry ∈ beyond, ∃ j, i ≤ j ∧ j < i + remaining ∧
        entry = entryAt map (tableOff + j * varheaderLen) ∧
        tableOff + j * varheaderLen + varheaderLen ≤ map.length ∧
        limit < tableOff + j * varheaderLen + varheaderLen := by
  induction remaining generalizing i with
  | zero => exact ⟨[], rfl, by simp⟩
  | succ remaining ih =>
      have length := List.length_take (i := limit) (l := map)
      by_cases cut : limit < tableOff + i * varheaderLen + varheaderLen
      · refine ⟨entriesFrom map tableOff (remaining + 1) i, ?_, ?_⟩
        · simp only [entriesFrom, if_pos (by omega : (map.take limit).length <
            tableOff + i * varheaderLen + varheaderLen), List.nil_append]
        · intro entry member
          obtain ⟨j, after, before, same, inside⟩ := mem_entriesFrom member
          have further : i * varheaderLen ≤ j * varheaderLen := Nat.mul_le_mul_right _ after
          exact ⟨j, after, before, same, inside, by omega⟩
      · by_cases short : map.length < tableOff + i * varheaderLen + varheaderLen
        · refine ⟨[], ?_, by simp⟩
          simp only [entriesFrom, if_pos short, if_pos (by omega : (map.take limit).length <
            tableOff + i * varheaderLen + varheaderLen), List.append_nil]
        · obtain ⟨beyond, parts, behind⟩ := ih (i + 1)
          refine ⟨beyond, ?_, ?_⟩
          · simp only [entriesFrom, if_neg short, if_neg (by omega : ¬(map.take limit).length <
              tableOff + i * varheaderLen + varheaderLen), parts, List.cons_append,
              entryAt_take (Nat.le_of_not_lt cut)]
          · intro entry member
            obtain ⟨j, after, before, rest⟩ := behind entry member
            exact ⟨j, by omega, by omega, rest⟩

theorem declared_take (header : headerLen ≤ limit) (within : EntriesWithin limit map) {want : Text}
    (listed : want ∈ wanted) : declared (map.take limit) want = declared map want := by
  have wide : 112 ≤ limit := header
  simp only [declared, table, i32At_take (by omega : 24 + 4 ≤ limit),
    i32At_take (by omega : 28 + 4 ≤ limit)]
  cases counted : i32At map 24 with
  | none => rfl
  | some numVars =>
      cases placed : i32At map 28 with
      | none => rfl
      | some tableOff =>
          by_cases corrupt : numVars ≤ 0 ∨ tableOff < 0
          · simp only [if_pos corrupt]
          · simp only [if_neg corrupt]
            obtain ⟨beyond, parts, behind⟩ :=
              entriesFrom_take map limit tableOff.toNat numVars.toNat 0
            rw [parts, KeyedTable.last_append_of_other]
            intro entry member named
            obtain ⟨j, -, before, rfl, inside, cut⟩ := behind entry member
            rw [nameOf_entryAt inside] at named
            have countBack : ((numVars.toNat : ℕ) : ℤ) = numVars := by omega
            have offsetBack : ((tableOff.toNat : ℕ) : ℤ) = tableOff := by omega
            have bound := within numVars.toNat tableOff.toNat (by rw [counted, countBack])
              (by rw [placed, offsetBack]) j (by omega) want listed inside named
            omega

theorem argmax_filter {α : Type} {value : α → ℤ} {keep : α → Bool} {list : List α} {best : α}
    (found : list.argmax value = some best) (kept : keep best = true) :
    (list.filter keep).argmax value = some best := by
  induction list using List.reverseRecOn generalizing best with
  | nil => simp at found
  | append_singleton list last ih =>
      rw [List.argmax_concat] at found
      rw [List.filter_append]
      cases earlier : list.argmax value with
      | none =>
          rw [earlier] at found
          obtain rfl := Option.some.inj found
          rw [List.argmax_eq_none.mp earlier, List.filter_nil, List.nil_append,
            List.filter_cons_of_pos kept, List.filter_nil, List.argmax_singleton]
      | some first =>
          simp only [earlier] at found
          split at found
          · next later =>
              obtain rfl := Option.some.inj found
              rw [List.filter_cons_of_pos kept, List.filter_nil, List.argmax_concat]
              cases before : (list.filter keep).argmax value with
              | none => rfl
              | some other =>
                  have member : other ∈ list := (List.mem_filter.mp (List.argmax_mem before)).1
                  have less := Int.lt_of_le_of_lt (List.le_of_mem_argmax member earlier) later
                  simp only [less, ↓reduceIte]
          · next notLater =>
              obtain rfl := Option.some.inj found
              by_cases lastKept : keep last = true
              · rw [List.filter_cons_of_pos lastKept, List.filter_nil, List.argmax_concat,
                  ih earlier kept]
                simp only [notLater, ↓reduceIte]
              · rw [List.filter_cons_of_neg lastKept, List.filter_nil, List.append_nil,
                  ih earlier kept]

theorem bufferAt_take (header : headerLen ≤ limit) {i : ℕ} (few : i < 4) (bufLen : ℕ) :
    bufferAt (map.take limit) bufLen i =
      (bufferAt map bufLen i).filter fun buffer => buffer.2 + bufLen ≤ limit := by
  have wide : 112 ≤ limit := header
  have tick : 48 + i * varbufLen + 4 ≤ limit := by simp only [varbufLen]; omega
  have offset : 48 + i * varbufLen + 4 + 4 ≤ limit := by simp only [varbufLen]; omega
  simp only [bufferAt, i32At_take tick, i32At_take offset, List.length_take]
  split
  · next tickRead offRead _ _ =>
      by_cases outside : offRead < 0 ∨ map.length < offRead.toNat + bufLen
      · rw [if_pos outside, if_pos (by omega), Option.filter_none]
      · rw [if_neg outside, Option.filter_some]
        by_cases fits : offRead.toNat + bufLen ≤ limit
        · rw [if_neg (by omega), if_pos (by simpa using fits)]
        · rw [if_pos (by omega), if_neg (by simpa using fits)]
  · rfl

theorem buffers_take (header : headerLen ≤ limit) (numBuf : ℤ) (bufLen : ℕ) :
    buffers (map.take limit) numBuf bufLen =
      (buffers map numBuf bufLen).filter fun buffer => buffer.2 + bufLen ≤ limit := by
  rw [buffers, buffers, List.filter_filterMap]
  apply List.filterMap_congr
  intro i inRange
  apply bufferAt_take header
  have := List.mem_range.mp inRange
  simp only [maxBufs] at this
  omega

theorem newestBuffer_take (header : headerLen ≤ limit)
    (fits : ∀ off len, newestBuffer map = some (off, len) → off + len ≤ limit) :
    newestBuffer (map.take limit) = newestBuffer map := by
  have wide : 112 ≤ limit := header
  rw [newestBuffer_eq] at fits
  rw [newestBuffer_eq, newestBuffer_eq, i32At_take (by omega), i32At_take (by omega)]
  cases count : i32At map 32 with
  | none => rfl
  | some numBuf =>
      cases length : i32At map 36 with
      | none => rfl
      | some bufLen =>
          simp only [count, length, Option.bind_some] at fits ⊢
          by_cases empty : bufLen ≤ 0
          · rw [if_pos empty, if_pos empty]
          · rw [if_neg empty] at fits
            rw [if_neg empty, if_neg empty, buffers_take header]
            cases found : (buffers map numBuf bufLen.toNat).argmax Prod.fst with
            | none => rw [List.argmax_eq_none.mp found, List.filter_nil, List.argmax_nil]
            | some best =>
                have inside := fits best.2 bufLen.toNat (by rw [found, Option.map_some])
                rw [argmax_filter found (by simpa using inside)]

theorem length_le_of_newestBuffer_take
    (same : newestBuffer (map.take limit) = newestBuffer map) {len : ℕ}
    (found : newestBuffer map = some (off, len)) : off + len ≤ limit := by
  have inside := inside_of_isNewest (isNewest_of_newestBuffer (same.trans found))
  rw [List.length_take] at inside
  omega

theorem decode_take (header : headerLen ≤ limit) (within : Within limit map) :
    decode (map.take limit) = decode map := by
  have wide : 112 ≤ limit := header
  have slots : wanted.map (declared (map.take limit)) = wanted.map (declared map) :=
    List.map_congr_left fun _ listed => declared_take header within.entries listed
  have buffer : newest (map.take limit) = newest map := by
    rw [newest, newest, newestBuffer_take header within.buffer]
    exact Option.bind_congr fun found same => slice_take (within.buffer found.1 found.2 same)
  have short : (map.take limit).length < headerLen ↔ map.length < headerLen := by
    rw [← Nat.not_le, ← Nat.not_le, le_length_take header]
  simp only [decode_eq, short, i32At_take (by omega : 4 + 4 ≤ limit), slots, buffer]

theorem slice_append_append (before values after : Bytes) :
    slice (before ++ (values ++ after)) before.length values.length = some values := by
  rw [slice, if_pos (by simp only [List.length_append]; omega), List.drop_left, List.take_left]

def plainEntry (name : String) (varType off : ℕ) : Bytes :=
  word varType ++ word off ++ word 1 ++ word 0 ++ padded 32 (utf8 name.toList) ++ padded 96 []

/-- A header and a table whose one buffer has 8 bytes at 65529. -/
def farFront : Bytes :=
  padded 112 (word 1 ++ word 1 ++ padded 16 [] ++ word 4 ++ word 112 ++ word 1 ++ word 8 ++
    padded 8 [] ++ word 7 ++ word 65529) ++
  (plainEntry "RPM" 2 0 ++ plainEntry "PlayerCarSLBlinkRPM" 2 4 ++ plainEntry "Throttle" 1 1 ++
    plainEntry "Gear" 1 1)

def farValues : Bytes := word 6000 ++ word 8000

def farBuffer (size : ℕ) : Bytes :=
  farFront ++ (List.replicate (65529 - 688) 0 ++ (farValues ++ List.replicate (size - 65537) 0))

theorem length_farFront : farFront.length = 688 := by decide +kernel

theorem length_farValues : farValues.length = 8 := by decide

theorem length_farBuffer {size : ℕ} (long : 65537 ≤ size) : (farBuffer size).length = size := by
  simp only [farBuffer, List.length_append, List.length_replicate, length_farFront,
    length_farValues]
  omega

theorem i32At_farFront (rest : Bytes) (inside : off + 4 ≤ 688) :
    i32At (farFront ++ rest) off = i32At farFront off := by
  rw [i32At, i32At, RFactor2.slice_append rest (by rwa [length_farFront])]

theorem newest_farFront (rest : Bytes) :
    newest (farFront ++ rest) =
      if (farFront ++ rest).length < 65537 then none else slice (farFront ++ rest) 65529 8 := by
  have count : i32At farFront 32 = some 1 := by decide +kernel
  have length : i32At farFront 36 = some 8 := by decide +kernel
  have tick : i32At farFront 48 = some 7 := by decide +kernel
  have offset : i32At farFront 52 = some 65529 := by decide +kernel
  have one : (List.range (max 0 (min maxBufs 1)).toNat) = [0] := by decide
  have only : bufferAt (farFront ++ rest) 8 0 =
      if (farFront ++ rest).length < 65537 then none else some (7, 65529) := by
    simp [bufferAt, i32At_farFront rest (by decide : 48 + 4 ≤ 688),
      i32At_farFront rest (by decide : 52 + 4 ≤ 688), tick, offset]
  rw [newest, newestBuffer_eq, i32At_farFront rest (by decide), i32At_farFront rest (by decide),
    count, length]
  have eight : (8 : ℤ).toNat = 8 := rfl
  have positive : ¬(8 : ℤ) ≤ 0 := by decide
  simp only [Option.bind_some, buffers, one, eight, positive, List.filterMap_cons,
    List.filterMap_nil, only]
  by_cases short : (farFront ++ rest).length < 65537
  · simp only [short, ↓reduceIte, List.argmax_nil, Option.map_none, Option.bind_none]
  · simp only [short, ↓reduceIte, List.argmax_singleton, Option.map_some, Option.bind_some]

theorem declared_farFront (rest : Bytes) {want : Text} (listed : want ∈ wanted) :
    declared (farFront ++ rest) want = declared farFront want := by
  have count : i32At farFront 24 = some 4 := by decide +kernel
  have place : i32At farFront 28 = some 112 := by decide +kernel
  have entries : EntriesWithin 688 (farFront ++ rest) := by
    intro numVars tableOff counted placed i few _ _ _ _
    rw [i32At_farFront rest (by decide), count, Option.some.injEq] at counted
    rw [i32At_farFront rest (by decide), place, Option.some.injEq] at placed
    simp only [varheaderLen]
    omega
  rw [← declared_take (by decide) entries listed, ← length_farFront, List.take_left]

theorem decode_farFront (rest : Bytes) :
    decode (farFront ++ rest) =
      (newest (farFront ++ rest)).bind (sampleOf (findVars farFront wanted)) := by
  have connected : i32At farFront 4 = some 1 := by decide +kernel
  have slots : wanted.map (declared (farFront ++ rest)) = wanted.map (declared farFront) :=
    List.map_congr_left fun _ listed => declared_farFront rest listed
  have long : ¬(farFront ++ rest).length < headerLen := by
    simp only [List.length_append, length_farFront, headerLen]
    omega
  rw [decode_eq, if_neg long, i32At_farFront rest (by decide), connected, slots,
    findVars_eq distinct_wanted, Option.bind_some, if_neg (by decide)]

theorem decode_farBuffer {size : ℕ} (long : 65537 ≤ size) :
    (decode (farBuffer size)).map RelayTelemetry.rpm = some (Binary32.ofNat 6000) := by
  have notShort : ¬(farBuffer size).length < 65537 := by rwa [length_farBuffer long, Nat.not_lt]
  have read : slice (farBuffer size) 65529 8 = some farValues := by
    have behind : (farFront ++ List.replicate (65529 - 688) (0 : UInt8)).length = 65529 := by
      rw [List.length_append, length_farFront, List.length_replicate]
    have middle := slice_append_append (farFront ++ List.replicate (65529 - 688) 0) farValues
      (List.replicate (size - 65537) 0)
    rwa [behind, length_farValues, List.append_assoc, ← farBuffer] at middle
  have sampled : (sampleOf (findVars farFront wanted) farValues).map RelayTelemetry.rpm =
      some (Binary32.ofNat 6000) := by
    decide +kernel
  rw [farBuffer, decode_farFront, newest_farFront, ← farBuffer, if_neg notShort, read,
    Option.bind_some, sampled]

theorem decode_take_farBuffer (size : ℕ) : decode ((farBuffer size).take 65536) = none := by
  rw [farBuffer, List.take_append, List.take_of_length_le (by rw [length_farFront]; decide),
    decode_farFront, newest_farFront, if_pos, Option.bind_none]
  rw [List.length_append, length_farFront, List.length_take]
  omega

end IRacing

theorem streamTick_eq (unit : Rounding) {game : Game} (listed : game ∈ games) (gate : AirborneGate)
    {content : Bytes} (aux : Option Bytes)
    (within : game.id = iracing.id → IRacing.Within game.readLen content) :
    streamTick unit game gate content aux = completeTick unit game gate content aux := by
  simp only [streamTick, completeTick, readSection_eq]
  simp only [games, List.mem_cons, List.not_mem_nil, or_false] at listed
  rcases listed with rfl | rfl | rfl | rfl | rfl | rfl | rfl
  · rw [sampleFrom_iracing, sampleFrom_iracing, IRacing.decode_take (by decide) (within rfl)]
  · change sampleFrom unit RaceRoom.id gate _ _ = sampleFrom unit RaceRoom.id gate _ _
    rw [sampleFrom_raceRoom, sampleFrom_raceRoom, RaceRoom.decode_take (by decide)]
  · exact sampleFrom_take_assettoCorsa unit gate content aux (Or.inl rfl) (by decide) (by decide)
  · exact sampleFrom_take_assettoCorsa unit gate content aux (Or.inr rfl) (by decide) (by decide)
  · change sampleFrom unit AssettoCorsa.idEvo gate _ _ = sampleFrom unit AssettoCorsa.idEvo gate _ _
    rw [sampleFrom_evo, sampleFrom_evo, AssettoCorsa.decodeEvo_take (by decide)]
  · exact sampleFrom_take_rFactor2 unit gate content aux (Or.inr rfl) (by decide) (by decide)
  · exact sampleFrom_take_rFactor2 unit gate content aux (Or.inl rfl) (by decide) (by decide)

/-- A content of any size behind the limit whose sample is lost. -/
theorem streamTick_farBuffer (unit : Rounding) (gate : AirborneGate) (aux : Option Bytes) {size : ℕ}
    (long : 65537 ≤ size) :
    (streamTick unit iracing gate (IRacing.farBuffer size) aux).1 = none ∧
      (completeTick unit iracing gate (IRacing.farBuffer size) aux).1.map RelayTelemetry.rpm =
        some (Binary32.ofNat 6000) := by
  constructor
  · rw [streamTick, readSection_eq, sampleFrom_iracing]
    exact IRacing.decode_take_farBuffer size
  · rw [completeTick, sampleFrom_iracing]
    exact IRacing.decode_farBuffer long

theorem samples_congr {tick other : AirborneGate → Bytes → Option Bytes →
    Option RelayTelemetry × AirborneGate} {turns : List (Bytes × Option Bytes)}
    (same : ∀ turn ∈ turns, ∀ gate, tick gate turn.1 turn.2 = other gate turn.1 turn.2)
    (gate : AirborneGate) : samples tick gate turns = samples other gate turns := by
  induction turns generalizing gate with
  | nil => rfl
  | cons turn turns ih =>
      have later := ih fun other member => same other (List.mem_cons_of_mem _ member)
      simp only [samples, same turn List.mem_cons_self, later]

theorem length_le_of_streamTick_eq (unit : Rounding) {game : Game} (listed : game ∈ games)
    (isIRacing : game.id = iracing.id) (gate : AirborneGate) {size : ℕ}
    (same : ∀ content aux, content.length = size →
      streamTick unit game gate content aux = completeTick unit game gate content aux) :
    size ≤ game.readLen := by
  have only : ∀ other ∈ games, other.id = iracing.id → other = iracing := by decide
  obtain rfl := only game listed isIRacing
  by_contra long
  have behind : 65537 ≤ size := Nat.lt_of_not_le long
  have lost := streamTick_farBuffer unit gate none behind
  rw [same _ _ (IRacing.length_farBuffer behind)] at lost
  rw [lost.1] at lost
  cases lost.2

theorem read_limit_law (unit : Rounding) :
    (∀ game ∈ games, ∀ gate content aux,
      (game.id = iracing.id → IRacing.Within game.readLen content) →
      streamTick unit game gate content aux = completeTick unit game gate content aux) ∧
    (∀ game ∈ games, ∀ gate turns,
      (∀ turn ∈ turns, game.id = iracing.id → IRacing.Within game.readLen turn.1) →
      samples (streamTick unit game) gate turns = samples (completeTick unit game) gate turns) ∧
    (∀ game ∈ games, ∀ size,
      (∀ gate content aux, content.length = size →
        streamTick unit game gate content aux = completeTick unit game gate content aux) ↔
      (game.id = iracing.id → size ≤ game.readLen)) ∧
    ∀ limit map, IRacing.headerLen ≤ limit →
      (IRacing.newestBuffer (map.take limit) = IRacing.newestBuffer map ↔
        ∀ off len, IRacing.newestBuffer map = some (off, len) → off + len ≤ limit) := by
  refine ⟨?_, ?_, ?_, ?_⟩
  · intro game listed gate content aux within
    exact streamTick_eq unit listed gate aux within
  · intro game listed gate turns within
    apply samples_congr
    intro turn member gate
    exact streamTick_eq unit listed gate turn.2 (within turn member)
  · intro game listed size
    constructor
    · intro same isIRacing
      exact length_le_of_streamTick_eq unit listed isIRacing { loadedCredit := 0 }
        (same { loadedCredit := 0 })
    · intro short gate content aux length
      apply streamTick_eq unit listed
      intro isIRacing
      exact IRacing.within_of_length (length ▸ short isIRacing)
  · intro limit map header
    constructor
    · intro same off len found
      exact IRacing.length_le_of_newestBuffer_take same found
    · exact IRacing.newestBuffer_take header

/-- The one buffer ends a byte behind the limit, and its sample is not sent. -/
theorem far_buffer_not_read :
    iracing ∈ games ∧ (IRacing.farBuffer 65537).length = 65537 ∧
    ∀ unit gate aux,
      (streamTick unit iracing gate (IRacing.farBuffer 65537) aux).1 = none ∧
      (completeTick unit iracing gate (IRacing.farBuffer 65537) aux).1.map RelayTelemetry.rpm =
        some (Binary32.ofNat 6000) :=
  ⟨List.mem_cons_self, IRacing.length_farBuffer (Nat.le_refl _),
    fun unit gate aux => streamTick_farBuffer unit gate aux (Nat.le_refl _)⟩

end TrueForce.Relay
