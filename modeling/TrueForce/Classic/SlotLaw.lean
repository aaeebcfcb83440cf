import TrueForce.Classic.IdleSafety

/-!
# What a slot command says

The seven bytes are read back at the bit positions at which `dd_lg4ff_update_slot`
packs them.  The edges of a dead band are cut to sixteen bits before they are scaled,
so that an edge outside of the wheel's range comes out on the other side.
-/

namespace TrueForce.Classic

open TrueForce.CInt TrueForce.Ffb Transition

variable {entry : Entry} {id i : Fin 4} {forces : Forces} {fixpSin32 : ℤ → ℤ}
  {parameters : Parameters} {condition : Condition}

structure SpringFields where
  d1 : ℕ
  d2 : ℕ
  k1 : ℕ
  k2 : ℕ
  s1 : Bool
  s2 : Bool
  clip : ℕ

/-- A stop has no fields. -/
def readSpring : Command → Option SpringFields
  | [first, kind, b2, b3, b4, b5, b6] =>
      if first.toNat % 16 = opStop ∨ kind ≠ 0x0b then none
      else some {
        d1 := b2.toNat * 8 + b5.toNat / 2 % 8
        d2 := b3.toNat * 8 + b5.toNat / 32
        k1 := b4.toNat % 16
        k2 := b4.toNat / 16
        s1 := b5.toNat % 2 = 1
        s2 := b5.toNat / 16 % 2 = 1
        clip := b6.toNat }
  | _ => none

def clipByte (command : Command) : ℕ := (command.getD 6 0).toNat

/-- A position of the wheel in eleven bits. -/
def image (position : ℤ) : ℤ := (position + 0x8000) / 2 ^ 5

theorem byte_of_int {value : ℤ} (low : 0 ≤ value) (high : value < 256) :
    ((UInt8.ofInt value).toNat : ℤ) = value := by
  simp only [UInt8.ofInt, UInt8.toNat_ofNat']
  omega

theorem scaleCoeff_bounds {coefficient : ℤ} (low : 0 ≤ coefficient)
    (high : coefficient ≤ 0x7800) :
    0 ≤ scaleCoeff coefficient 4 ∧ scaleCoeff coefficient 4 < 16 := by
  have fits : ¬ 0xffff < (coefficient.natAbs : ℤ) * 2 := by omega
  simp only [scaleCoeff, scaleValueU16, clampValueU16, if_neg fits]
  omega

theorem scaleValueU16_of_le {value : ℤ} (low : 0 ≤ value) (high : value ≤ 0xffff) (bits : ℕ) :
    scaleValueU16 value bits = value / 2 ^ (16 - bits) := by
  have fits : ¬ 0xffff < value := by omega
  have inside : value % 0x10000 = value := Int.emod_eq_of_lt low (by omega)
  simp only [scaleValueU16, clampValueU16, if_neg fits, inside]

theorem signBit_bounds (coefficient : ℤ) :
    (signBit coefficient = 1 ∧ coefficient < 0) ∨ (signBit coefficient = 0 ∧ 0 ≤ coefficient) := by
  simp only [signBit]
  split
  · left
    omega
  · right
    omega

theorem head_toNat : ∀ id : Fin 4, ∀ op ∈ operations, (head id op).toNat % 16 = op := by
  decide

/-- Coefficients that are sent with their edges. -/
structure Steep (parameters : Parameters) : Prop where
  k1 : 2048 ≤ parameters.k1.natAbs ∧ parameters.k1.natAbs ≤ 0x8000
  k2 : 2048 ≤ parameters.k2.natAbs ∧ parameters.k2.natAbs ≤ 0x8000
  clip : parameters.clip.toNat ≤ 0xffff

theorem readSpring_payload (steep : Steep parameters) {op : ℕ} (member : op ∈ operations)
    (plays : op ≠ opStop) :
    ∃ fields, readSpring (head id op :: (springPayload parameters).map .ofInt) = some fields ∧
      (fields.d1 : ℤ) = (parameters.d1 + 0x8000) % 0x10000 / 2 ^ 5 ∧
      (fields.d2 : ℤ) = (parameters.d2 + 0x8000) % 0x10000 / 2 ^ 5 ∧
      (fields.k1 : ℤ) = scaleCoeff (parameters.k1.natAbs - 2048) 4 ∧
      (fields.k2 : ℤ) = scaleCoeff (parameters.k2.natAbs - 2048) 4 ∧
      (fields.s1 = true ↔ parameters.k1 < 0) ∧ (fields.s2 = true ↔ parameters.k2 < 0) ∧
      fields.clip = parameters.clip.toNat / 2 ^ 8 := by
  rcases steep with ⟨k1, k2, clip⟩
  have notStop : ¬ ((head id op).toNat % 16 = opStop ∨ (.ofInt 0x0b : UInt8) ≠ 0x0b) := by
    rw [head_toNat id op member]
    rintro (stop | other)
    · exact plays stop
    · exact other rfl
  have edge1 := scaleValueU16_of_le (Int.emod_nonneg (parameters.d1 + 0x8000)
    (by decide : (0x10000 : ℤ) ≠ 0)) (by omega) 11
  have edge2 := scaleValueU16_of_le (Int.emod_nonneg (parameters.d2 + 0x8000)
    (by decide : (0x10000 : ℤ) ≠ 0)) (by omega) 11
  have force := scaleValueU16_of_le (Int.natCast_nonneg parameters.clip.toNat) (by omega) 8
  have c1 := @scaleCoeff_bounds (parameters.k1.natAbs - 2048) (by omega) (by omega)
  have c2 := @scaleCoeff_bounds (parameters.k2.natAbs - 2048) (by omega) (by omega)
  have s1 := signBit_bounds parameters.k1
  have s2 := signBit_bounds parameters.k2
  have flat1 : ¬ (parameters.k1.natAbs : ℤ) < 2048 := by omega
  have flat2 : ¬ (parameters.k2.natAbs : ℤ) < 2048 := by omega
  simp only [springPayload, if_neg flat1, if_neg flat2, edge1, edge2, force, List.map_cons,
    List.map_nil, readSpring, if_neg notStop]
  have b2 := @byte_of_int ((parameters.d1 + 0x8000) % 0x10000 / 2 ^ (16 - 11) / 2 ^ 3) (by omega)
    (by omega)
  have b3 := @byte_of_int ((parameters.d2 + 0x8000) % 0x10000 / 2 ^ (16 - 11) / 2 ^ 3) (by omega)
    (by omega)
  have b4 := @byte_of_int (scaleCoeff (parameters.k2.natAbs - 2048) 4 * 2 ^ 4 +
    scaleCoeff (parameters.k1.natAbs - 2048) 4) (by omega) (by omega)
  have b5 := @byte_of_int ((parameters.d2 + 0x8000) % 0x10000 / 2 ^ (16 - 11) % 8 * 2 ^ 5 +
    (parameters.d1 + 0x8000) % 0x10000 / 2 ^ (16 - 11) % 8 * 2 + signBit parameters.k2 * 2 ^ 4 +
    signBit parameters.k1) (by omega) (by omega)
  have b6 := @byte_of_int (parameters.clip.toNat / 2 ^ (16 - 8)) (by omega) (by omega)
  refine ⟨_, rfl, ?_, ?_, ?_, ?_, ?_, ?_, ?_⟩
  · simp only
    omega
  · simp only
    omega
  · simp only
    omega
  · simp only
    omega
  · simp only [decide_eq_true_eq]
    omega
  · simp only [decide_eq_true_eq]
    omega
  · simp only
    omega

theorem totalGain_le (entry : Entry) : entry.totalGain ≤ 0xffff := by
  have master := entry.masterGain.toNat_lt
  have gain := entry.gain.toNat_lt
  have product : entry.masterGain.toNat * entry.gain.toNat ≤ 0xffff * 0xffff :=
    Nat.mul_le_mul (by omega) (by omega)
  simp only [Entry.totalGain]
  omega

theorem scaleBy_bounds {gain : ℕ} (small : gain ≤ 0xffff) {value : ℤ}
    (short : value.natAbs ≤ 0x8000) :
    (scaleBy gain value).natAbs ≤ 0x8000 ∧
      (2048 ≤ (scaleBy gain value).natAbs → (scaleBy gain value < 0 ↔ value < 0)) := by
  have size : ((value * gain).tdiv 0xffff).natAbs ≤ 0x8000 := by
    have product : value.natAbs * gain ≤ 0x8000 * 0xffff := Nat.mul_le_mul short small
    have quotient : ((value * gain).tdiv 0xffff).natAbs = value.natAbs * gain / 0xffff := by
      rw [Int.natAbs_tdiv, Int.natAbs_mul]
      rfl
    omega
  have whole : scaleBy gain value = (value * gain).tdiv 0xffff := by
    simp only [scaleBy, s32]
    omega
  rw [whole]
  refine ⟨size, ?_⟩
  intro steep
  by_cases negative : value < 0
  · have product : value * gain ≤ 0 :=
      Int.mul_nonpos_of_nonpos_of_nonneg (by omega) (by omega)
    have quotient : 0 ≤ (-(value * gain)).tdiv 0xffff := Int.tdiv_nonneg (by omega) (by decide)
    rw [Int.neg_tdiv] at quotient
    omega
  · have product : 0 ≤ value * gain := Int.mul_nonneg (by omega) (by omega)
    have quotient : 0 ≤ (value * gain).tdiv 0xffff := Int.tdiv_nonneg product (by decide)
    omega

namespace Entry

/-- What a tick makes of a spring that plays. -/
def spring (entry : Entry) (condition : Condition) : Parameters :=
  scaleParameters entry.levels entry.totalGain (some .spring) (springForce condition {})

def springCommand (entry : Entry) (id : Fin 4) (condition : Condition) : Command :=
  (updateSlot id (entry.slots id) (entry.spring condition)).currentCmd

/-- The saturation under the spring level and the gains. -/
def clipOf (entry : Entry) (saturation : UInt16) : ℕ :=
  saturation.toNat * entry.levels.springLevel.toNat / 100 * entry.totalGain / 0xffff

/-- A slot for a spring whose coefficients stay steep under the gains. -/
structure Springs (entry : Entry) (id : Fin 4) (condition : Condition) : Prop where
  type : (entry.slots id).effectType = some .spring
  level : 0 ≤ entry.levels.springLevel ∧ entry.levels.springLevel ≤ 100
  left : 2048 ≤ (scaleBy entry.totalGain condition.leftCoeff.toInt).natAbs
  right : 2048 ≤ (scaleBy entry.totalGain condition.rightCoeff.toInt).natAbs

end Entry

theorem natAbs_toInt_le (coefficient : Int16) : coefficient.toInt.natAbs ≤ 0x8000 := by
  have low := coefficient.le_toInt
  have high := coefficient.toInt_lt
  omega

theorem clip_spring (level : 0 ≤ entry.levels.springLevel ∧ entry.levels.springLevel ≤ 100) :
    (entry.spring condition).clip.toNat = entry.clipOf condition.rightSaturation ∧
      entry.clipOf condition.rightSaturation ≤ 0xffff := by
  have saturation := condition.rightSaturation.toNat_lt
  have gain := totalGain_le entry
  have percent : entry.levels.springLevel.toNat ≤ 100 := by omega
  have first : condition.rightSaturation.toNat * entry.levels.springLevel.toNat ≤
    0xffff * 100 := Nat.mul_le_mul (by omega) percent
  have second : condition.rightSaturation.toNat * entry.levels.springLevel.toNat / 100 *
    entry.totalGain ≤ 0xffff * 0xffff := Nat.mul_le_mul (by omega) gain
  have asWord : (UInt32.ofInt entry.levels.springLevel).toNat =
      entry.levels.springLevel.toNat := by
    simp only [UInt32.ofInt, UInt32.toNat_ofNat']
    omega
  refine ⟨?_, ?_⟩
  · simp only [Entry.spring, scaleParameters, scaleClip, Levels.percent, springForce, Entry.clipOf,
      UInt32.toNat_div, UInt32.toNat_mul, UInt16.toNat_toUInt32, asWord, UInt32.toNat_ofNat',
      UInt32.toNat_ofNat]
    rw [Nat.mod_eq_of_lt (a := condition.rightSaturation.toNat * _) (by omega)]
    rw [Nat.mod_eq_of_lt (a := entry.totalGain) (by omega)]
    rw [Nat.mod_eq_of_lt (a := 100) (by omega), Nat.mod_eq_of_lt (by omega)]
  · simp only [Entry.clipOf]
    omega

theorem Entry.Springs.steep (springs : entry.Springs id condition) :
    Steep (entry.spring condition) := by
  have clip := @clip_spring entry condition springs.level
  have left := scaleBy_bounds (totalGain_le entry) (natAbs_toInt_le condition.leftCoeff)
  have right := scaleBy_bounds (totalGain_le entry) (natAbs_toInt_le condition.rightCoeff)
  refine ⟨⟨springs.left, left.1⟩, ⟨springs.right, right.1⟩, ?_⟩
  rw [clip.1]
  exact clip.2

theorem nextOp_spring {clip : UInt32} {op : ℕ} :
    nextOp (some .spring) clip op = opStop ↔ clip = 0 := by
  have type : some SlotType.spring ≠ some .constant := by decide
  have other : some SlotType.spring ≠ none := by decide
  simp only [nextOp, if_neg type, other, or_false]
  by_cases none : clip = 0
  · simp only [none, if_true]
  · simp only [none, if_false, iff_false]
    split
    · decide
    · decide

/-- The command of a spring that plays, and the stop of one without a force. -/
theorem springCommand_cases (springs : entry.Springs id condition) :
    (entry.clipOf condition.rightSaturation = 0 ∧
      entry.springCommand id condition = head id opStop :: idlePayload) ∨
    (entry.clipOf condition.rightSaturation ≠ 0 ∧ ∃ op ∈ operations, op ≠ opStop ∧
      entry.springCommand id condition =
        head id op :: (springPayload (entry.spring condition)).map .ofInt) := by
  have clip := (@clip_spring entry condition springs.level).1
  have zero : (entry.spring condition).clip = 0 ↔
      entry.clipOf condition.rightSaturation = 0 := by
    rw [← clip, ← UInt32.toNat_inj]
    rfl
  have member := nextOp_mem (some .spring) (entry.spring condition).clip (entry.slots id).cmdOp
  have stops := @nextOp_spring (entry.spring condition).clip (entry.slots id).cmdOp
  by_cases none : entry.clipOf condition.rightSaturation = 0
  · left
    refine ⟨none, ?_⟩
    simp only [Entry.springCommand, updateSlot, springs.type, stops.mpr (zero.mpr none), if_true]
  · right
    have plays := fun stop => none (zero.mp (stops.mp stop))
    refine ⟨none, _, member, plays, ?_⟩
    simp only [Entry.springCommand, updateSlot, springs.type, if_neg plays, payload]

/-- The dead band lies within the wheel's range. -/
def BandFits (condition : Condition) : Prop :=
  -0x8000 ≤ condition.center.toInt - (condition.deadband.toNat / 2 : ℕ) ∧
    condition.center.toInt + (condition.deadband.toNat / 2 : ℕ) ≤ 0x7fff

/-- What the command of a spring has to say: a stop where there is no force, or else edges on
either side of the centre and the coefficients' signs. -/
def SpringSays (entry : Entry) (id : Fin 4) (condition : Condition) : Prop :=
  if entry.clipOf condition.rightSaturation = 0 then
    entry.springCommand id condition = head id opStop :: idlePayload
  else
    ∃ fields, readSpring (entry.springCommand id condition) = some fields ∧
      fields.d1 ≤ image condition.center.toInt ∧ image condition.center.toInt ≤ fields.d2 ∧
      (fields.s1 = true ↔ condition.leftCoeff < 0) ∧
      (fields.s2 = true ↔ condition.rightCoeff < 0)

theorem edges_iff (condition : Condition) :
    ((condition.center.toInt - (condition.deadband.toNat / 2 : ℕ) + 0x8000) % 0x10000 / 2 ^ 5 ≤
        image condition.center.toInt ∧
      image condition.center.toInt ≤
        (condition.center.toInt + (condition.deadband.toNat / 2 : ℕ) + 0x8000) % 0x10000 / 2 ^ 5) ↔
      BandFits condition := by
  have low := condition.center.le_toInt
  have high := condition.center.toInt_lt
  have wide := condition.deadband.toNat_lt
  simp only [image, BandFits]
  omega

theorem springSays_iff (springs : entry.Springs id condition) :
    SpringSays entry id condition ↔
      (entry.clipOf condition.rightSaturation = 0 ∨ BandFits condition) := by
  rcases springCommand_cases springs with ⟨none, stop⟩ | ⟨some, op, member, plays, command⟩
  · simp only [SpringSays, none, if_true, stop, true_or]
  · have left := scaleBy_bounds (totalGain_le entry) (natAbs_toInt_le condition.leftCoeff)
    have right := scaleBy_bounds (totalGain_le entry) (natAbs_toInt_le condition.rightCoeff)
    have sign1 : (entry.spring condition).k1 < 0 ↔ condition.leftCoeff < 0 := by
      rw [Int16.lt_iff_toInt_lt]
      exact left.2 springs.left
    have sign2 : (entry.spring condition).k2 < 0 ↔ condition.rightCoeff < 0 := by
      rw [Int16.lt_iff_toInt_lt]
      exact right.2 springs.right
    rcases @readSpring_payload id _ springs.steep op member plays with
      ⟨fields, read, d1, d2, -, -, s1, s2, -⟩
    have edges := edges_iff condition
    change (fields.d1 : ℤ) = (condition.center.toInt - (condition.deadband.toNat / 2 : ℕ) +
      0x8000) % 0x10000 / 2 ^ 5 at d1
    change (fields.d2 : ℤ) = (condition.center.toInt + (condition.deadband.toNat / 2 : ℕ) +
      0x8000) % 0x10000 / 2 ^ 5 at d2
    rw [← d1, ← d2] at edges
    simp only [SpringSays, some, if_false, false_or, command, read, Option.some.injEq,
      exists_eq_left', s1, s2, sign1, sign2, and_true]
    exact edges

theorem clipByte_springCommand (springs : entry.Springs id condition) :
    clipByte (entry.springCommand id condition) =
      entry.clipOf condition.rightSaturation / 2 ^ 8 := by
  rcases springCommand_cases springs with ⟨none, stop⟩ | ⟨-, op, -, -, command⟩
  · rw [stop, none]
    rfl
  · have clip := @clip_spring entry condition springs.level
    have force := scaleValueU16_of_le
      (Int.natCast_nonneg (entry.clipOf condition.rightSaturation)) (by omega) 8
    have byte := @byte_of_int (entry.clipOf condition.rightSaturation / 2 ^ (16 - 8)) (by omega)
      (by omega)
    rw [command]
    change (UInt8.ofInt (scaleValueU16 (entry.spring condition).clip.toNat 8)).toNat = _
    rw [clip.1, force]
    omega

theorem clipOf_mono {saturation more : UInt16} (le : saturation ≤ more) :
    entry.clipOf saturation ≤ entry.clipOf more := by
  simp only [Entry.clipOf]
  apply Nat.div_le_div_right
  apply Nat.mul_le_mul_right
  apply Nat.div_le_div_right
  exact Nat.mul_le_mul_right _ (UInt16.le_iff_toNat_le.mp le)

theorem clipByte_mono {saturation more : UInt16} (springs : entry.Springs id condition)
    (le : saturation ≤ more) :
    clipByte (entry.springCommand id { condition with rightSaturation := saturation }) ≤
      clipByte (entry.springCommand id { condition with rightSaturation := more }) := by
  have less : entry.Springs id { condition with rightSaturation := saturation } :=
    ⟨springs.type, springs.level, springs.left, springs.right⟩
  have greater : entry.Springs id { condition with rightSaturation := more } :=
    ⟨springs.type, springs.level, springs.left, springs.right⟩
  rw [clipByte_springCommand less, clipByte_springCommand greater]
  exact Nat.div_le_div_right (clipOf_mono le)

/-- The byte that slot 0 sends for a level. -/
def forceByte (slot : Slot) (parameters : Parameters) (level : ℤ) : ℕ :=
  ((updateSlot 0 slot { parameters with level }).currentCmd.getD 2 0).toNat

theorem forceByte_eq {slot : Slot} (type : slot.effectType = some .constant) (level : ℤ) :
    (forceByte slot parameters level : ℤ) = (clampS16 level + 0x8000) / 2 ^ 8 := by
  have command := @currentCmd_constant { parameters with level } slot type
  simp only [forceByte, List.getD_eq_getElem?_getD, command, Option.getD_some, translateForce,
    UInt8.ofInt, UInt8.toNat_ofNat', clampS16, clamp]
  omega

/-- A byte for each level that rises with it about the middle, and has both ends. -/
structure ForceLaw (byte : ℤ → ℕ) : Prop where
  rises : ∀ level more, level ≤ more → byte level ≤ byte more
  zero : byte 0 = 0x80
  low : ∀ level, level ≤ -0x8000 → byte level = 0
  high : ∀ level, 0x7fff ≤ level → byte level = 0xff

theorem forceLaw {slot : Slot} (type : slot.effectType = some .constant)
    (parameters : Parameters) : ForceLaw (forceByte slot parameters) := by
  have bytes := @forceByte_eq parameters slot type
  simp only [clampS16, clamp] at bytes
  refine ⟨?_, ?_, ?_, ?_⟩
  · intro level more le
    have less := bytes level
    have greater := bytes more
    omega
  · have zero := bytes 0
    omega
  · intro level le
    have low := bytes level
    omega
  · intro level le
    have high := bytes level
    omega

/-- The commands differ at most in the nibble that starts or refreshes a slot. -/
def SameButStart (sent command : Command) : Prop :=
  sent = command ∨ ∃ i : Fin 4, ∃ op ∈ [opStart, opRefresh], ∃ next ∈ [opStart, opRefresh],
    ∃ payload, sent = head i op :: payload ∧ command = head i next :: payload

theorem UpToDate.same {slot : Slot} {sent : Command} (upToDate : UpToDate i slot sent) :
    SameButStart sent slot.currentCmd := by
  rcases upToDate with ⟨_, operation, op, member, payload, rfl, current, stops⟩
  rw [current]
  simp only [operations, List.mem_cons, List.not_mem_nil, or_false] at operation member
  by_cases stop : op = opStop
  · left
    rw [stop, stops.mp stop]
  · right
    have plays := fun next => stop (stops.mpr next)
    refine ⟨i, op, ?_, slot.cmdOp, ?_, payload, rfl, rfl⟩
    · simp only [List.mem_cons, List.not_mem_nil, or_false]
      tauto
    · simp only [List.mem_cons, List.not_mem_nil, or_false]
      tauto

/-- Every slot's last command on the wheel is up to date. -/
def Current (entry : Entry) : Prop := ∀ i, UpToDate i (entry.slots i) (entry.sent i)

theorem current_step {engine next : Engine} {event : TimerEvent}
    (before : Current engine.entry) (stepped : timerStep fixpSin32 engine event = some next) :
    Current next.entry := by
  cases event with
  | upload id effect now =>
      simp only [timerStep, Option.map_eq_some_iff] at stepped
      rcases stepped with ⟨entry, uploaded, rfl⟩
      have same := uploadEffect_keeps uploaded
      simp only [Current, same.1, same.2.1]
      exact before
  | play id value now =>
      cases stepped
      intro i
      rcases @slots_playEffect engine.entry id value now i with ⟨effectType, same⟩
      have kept := before i
      simp only [Engine.play, same, sent_playEffect]
      exact ⟨kept.settled, kept.operation, kept.sent⟩
  | setGain gain | setMasterGain gain | configure mode msecs =>
      cases stepped
      exact before
  | fire | decide | leave =>
      simp only [timerStep] at stepped
      split at stepped
      · cases stepped
        exact before
      · cases stepped
  | look busy =>
      simp only [timerStep] at stepped
      split at stepped
      · cases stepped
        simp only [Engine.look]
        split
        · exact before
        · exact before
      · cases stepped
  | sample instant =>
      simp only [timerStep] at stepped
      split at stepped
      · cases stepped
        have slots := slots_sample fixpSin32 instant engine.entry
        have sent : (sample fixpSin32 instant engine.entry).entry.sent = engine.entry.sent :=
          sent_foldl _ _
        simp only [Current, Engine.sample, slots, sent]
        exact before
      · cases stepped
  | scale =>
      simp only [timerStep] at stepped
      split at stepped
      · cases stepped
        exact before
      · cases stepped
        exact before
      · cases stepped
  | send =>
      simp only [timerStep] at stepped
      split at stepped
      · rename_i forces i left used _
        cases stepped
        intro j
        by_cases same : j = i
        · subst same
          exact upToDate_pushSlot (before j)
        · rw [pushSlot_slots, Function.update_of_ne same, sent_pushSlot_of_ne same]
          exact before j
      · cases stepped
        exact before
      · cases stepped

theorem current_reachable {engine : Engine}
    (reachable : (timerSystem fixpSin32).Reachable engine) : Current engine.entry := by
  apply reachable.invariant
  · rintro start ⟨levels, rfl⟩
    exact (kept_initial levels).upToDate
  · intro current event next holds _ stepped
    exact current_step holds stepped

/-- A slot's turn sends its command, unless the last one sent says as much. -/
theorem sent_pushSlot (before : UpToDate i (entry.slots i) (entry.sent i)) :
    (entry.pushSlot forces i).sent i = ((entry.pushSlot forces i).slots i).currentCmd ∨
      ((entry.pushSlot forces i).sent i = entry.sent i ∧
        SameButStart (entry.sent i) ((entry.pushSlot forces i).slots i).currentCmd) := by
  have after := (@upToDate_pushSlot entry i forces before).same
  rw [pushSlot_slots, Function.update_self] at after ⊢
  simp only [Entry.pushSlot] at after ⊢
  split
  · left
    simp only [Function.update_self]
  · rename_i unchanged
    rw [if_neg unchanged] at after
    exact .inr ⟨rfl, after⟩

/-- The command of a spring is right where the dead band lies within the wheel's range; the
clip, the force of slot 0 and the sending are right throughout. -/
theorem slot_command_law (fixpSin32 : ℤ → ℤ) (entry : Entry) (id : Fin 4)
    (condition : Condition) :
    (entry.Springs id condition →
      (SpringSays entry id condition ↔
        entry.clipOf condition.rightSaturation = 0 ∨ BandFits condition) ∧
      ∀ saturation more : UInt16, saturation ≤ more →
        clipByte (entry.springCommand id { condition with rightSaturation := saturation }) ≤
          clipByte (entry.springCommand id { condition with rightSaturation := more })) ∧
    (∀ slot : Slot, slot.effectType = some .constant →
      ∀ parameters, ForceLaw (forceByte slot parameters)) ∧
    ∀ engine, (timerSystem fixpSin32).Reachable engine → ∀ forces i left used,
      engine.callback = some (.sending forces (i :: left) used) →
        ∀ next, timerStep fixpSin32 engine .send = some next →
          next.entry.sent i = (next.entry.slots i).currentCmd ∨
            (next.entry.sent i = engine.entry.sent i ∧
              SameButStart (engine.entry.sent i) (next.entry.slots i).currentCmd) := by
  refine ⟨?_, ?_, ?_⟩
  · intro springs
    refine ⟨springSays_iff springs, ?_⟩
    intro saturation more le
    exact clipByte_mono springs le
  · intro slot type parameters
    exact forceLaw type parameters
  · intro engine reachable forces i left used callback next stepped
    have current := current_reachable reachable i
    simp only [timerStep, callback, Option.some.injEq] at stepped
    subst stepped
    exact sent_pushSlot current

/-- A dead band at the right end of the range. -/
def offCentre : Condition where
  rightSaturation := 0xffff
  leftSaturation := 0xffff
  rightCoeff := 0x4000
  leftCoeff := 0x4000
  deadband := 0x4000
  center := 0x7000

theorem edge_wraps :
    ∃ entry : Entry, entry.Springs 1 offCentre ∧ ¬ SpringSays entry 1 offCentre := by
  have springs : ((Entry.initial {}).setEffectType 1 (some .spring)).Springs 1 offCentre :=
    ⟨rfl, by decide, by decide, by decide⟩
  refine ⟨_, springs, ?_⟩
  rw [springSays_iff springs]
  simp only [BandFits]
  decide

end TrueForce.Classic
