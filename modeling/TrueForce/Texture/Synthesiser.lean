import TrueForce.Foundation.CheckedInt
import TrueForce.Foundation.Clamp
import TrueForce.Foundation.Transition
import TrueForce.Texture.FrameLaw
import Mathlib.Algebra.Order.Ring.Abs

/-!
# The synthesiser at the settings the stores admit

`hidpp_dd_texmerge_next_sample` in the arithmetic of its types, under any history of
splices and of writes to `wheel_texture_rpm`, `wheel_texture_intensity`,
`wheel_texture_cylinders` and `wheel_tf_merge`.  The phases are fractions of a turn: the
increment, its multiples and the phases themselves are taken modulo one.
-/

namespace TrueForce.Texture

open TrueForce.ByteBuffer TrueForce.CInt TrueForce.Transition

namespace Texmerge

namespace Checked

def f0X100 (rpmX10 cylinders : ℕ) : Option ℤ := do
  let product ← fit .u64 ((rpmX10 : ℤ) * cylinders)
  let scaled ← fit .u64 (product * 10)
  let f0 ← quotient .u64 scaled 120
  fit .u32 f0

/-- The increment before its cast, in which a whole turn is none. -/
def increment (f0X100 : ℕ) : Option ℤ := do
  let shifted ← fit .u64 ((f0X100 : ℤ) * 2 ^ 32)
  quotient .u64 shifted (100 * sampleRate)

def amplitude (band : Band) (f0X100 : ℕ) : Option ℤ := do
  let hertz ← quotient .u32 f0X100 100
  let slope ← fit .u32 (113 * hertz)
  let part ← quotient .u32 slope 100
  let rms ← fit .u32 (72 + part)
  let product ← fit .u32 (rms * band.ampQ8)
  fit .u32 (product / 2 ^ 8)

/-- An entry of the sine table, where there is one. -/
def sineLut (index : ℕ) : Option ℤ := if index < 1024 then some (Texmerge.sineLut index) else none

/-- One turn of the loop over the harmonics, behind the step of its phase. -/
def accumulate (band : Band) (phase : Fin harmonics → UInt32) (f0X100 : ℕ) (acc : ℤ)
    (harmonic : Fin harmonics) : Option ℤ := do
  let frequency ← fit .u64 (((harmonic.val + 1 : ℕ) : ℤ) * f0X100)
  if 45 * sampleRate ≤ frequency then some acc
  else do
    let lut ← sineLut (phase harmonic >>> 22).toNat
    let product ← fit .s32 (lut * band.gainQ12.getD harmonic.val 0)
    let share ← fit .s32 (product / 2 ^ 12)
    fit .s32 (acc + share)

def sampleValue (phase : Fin harmonics → UInt32) (f0X100 intensity : ℕ) : Option ℤ := do
  let band := bandFor f0X100
  let amp ← amplitude band f0X100
  let acc ← (List.finRange harmonics).foldlM (accumulate band phase f0X100) 0
  let product ← fit .s64 (acc * amp)
  let level ← fit .s32 (product / 2 ^ 15)
  let product ← fit .s64 (level * intensity)
  let share ← quotient .s64 product 100
  let value ← fit .s32 share
  some (clampS16 value)

end Checked

variable {f0X100 intensity : ℕ} {band : Band} {phase : Fin harmonics → UInt32}

theorem sineQuarter_le : ∀ value ∈ sineQuarter, value ≤ 32767 := by decide +kernel

theorem sineLut_between (index : ℕ) : -32767 ≤ sineLut index ∧ sineLut index ≤ 32767 := by
  have value : sineQuarter.getD (min (index % 512) (512 - index % 512)) 0 ≤ 32767 := by
    rw [List.getD_eq_getElem?_getD]
    cases entry : sineQuarter[min (index % 512) (512 - index % 512)]? with
    | none => exact Nat.zero_le _
    | some value => exact sineQuarter_le value (List.mem_of_getElem? entry)
  simp only [sineLut]
  split <;> omega

def bands : List Band := lowestBand :: upperBands

theorem bandFor_mem (f0X100 : ℕ) : bandFor f0X100 ∈ bands := by
  rw [bandFor]
  cases found : upperBands.find? fun band => decide (band.f0MinX100 ≤ f0X100) with
  | none => exact List.mem_cons_self
  | some band => exact List.mem_cons_of_mem _ (List.mem_of_find?_eq_some found)

theorem gain_le (mem : band ∈ bands) (harmonic : ℕ) : band.gainQ12.getD harmonic 0 ≤ 4096 := by
  have tables : ∀ band ∈ bands, ∀ gain ∈ band.gainQ12, gain ≤ 4096 := by decide
  rw [List.getD_eq_getElem?_getD]
  cases entry : band.gainQ12[harmonic]? with
  | none => exact Nat.zero_le _
  | some gain => exact tables band mem gain (List.mem_of_getElem? entry)

theorem ampQ8_le (mem : band ∈ bands) : band.ampQ8 ≤ 358 := by
  have tables : ∀ band ∈ bands, band.ampQ8 ≤ 358 := by decide
  exact tables band mem

theorem amplitude_le (mem : band ∈ bands) (low : f0X100 ≤ 400000) :
    amplitude band f0X100 ≤ 6421 := by
  have amp := ampQ8_le mem
  have rms : 72 + 113 * (f0X100 / 100) / 100 ≤ 4592 := by omega
  have product := Nat.mul_le_mul rms amp
  rw [amplitude]
  omega

theorem product_between (mem : band ∈ bands) (index harmonic : ℕ) :
    -134213632 ≤ sineLut index * (band.gainQ12.getD harmonic 0 : ℕ) ∧
      sineLut index * (band.gainQ12.getD harmonic 0 : ℕ) ≤ 134213632 := by
  have lut := sineLut_between index
  have gain := gain_le mem harmonic
  have size : |sineLut index * (band.gainQ12.getD harmonic 0 : ℕ)| ≤ 32767 * 4096 := by
    rw [abs_mul]
    apply mul_le_mul
    · exact abs_le.mpr lut
    · rw [Nat.abs_cast]
      exact_mod_cast gain
    · exact abs_nonneg _
    · decide
  exact abs_le.mp size

theorem harmonicShare_between (mem : band ∈ bands) (harmonic : Fin harmonics) :
    -32767 ≤ harmonicShare band phase f0X100 harmonic ∧
      harmonicShare band phase f0X100 harmonic ≤ 32767 := by
  have product := product_between mem (phase harmonic >>> 22).toNat harmonic.val
  simp only [harmonicShare]
  split
  · omega
  · omega

theorem index_lt (phase : UInt32) : (phase >>> 22).toNat < 1024 := by
  have bound := phase.toNat_lt
  have shifted : (phase >>> 22).toNat = phase.toNat >>> 22 := rfl
  rw [shifted, Nat.shiftRight_eq_div_pow]
  omega

theorem checkedAmplitude_eq (mem : band ∈ bands) (low : f0X100 ≤ 400000) :
    Checked.amplitude band f0X100 = some (amplitude band f0X100 : ℤ) := by
  have amp := ampQ8_le mem
  have hertz : (f0X100 : ℤ).tdiv 100 = (f0X100 / 100 : ℕ) := by
    rw [Int.tdiv_eq_ediv_of_nonneg (by omega)]
    omega
  have part : (113 * ((f0X100 / 100 : ℕ) : ℤ)).tdiv 100 = (113 * (f0X100 / 100) / 100 : ℕ) := by
    rw [Int.tdiv_eq_ediv_of_nonneg (by omega)]
    omega
  have rms : 72 + 113 * (f0X100 / 100) / 100 ≤ 4592 := by omega
  have product : (72 + (113 * (f0X100 / 100) / 100 : ℕ) : ℤ) * band.ampQ8 =
      ((72 + 113 * (f0X100 / 100) / 100) * band.ampQ8 : ℕ) := by
    push_cast
    rfl
  have bounded := Nat.mul_le_mul rms amp
  rw [Checked.amplitude, bind_of_eq (quotient_of_pos (by decide) (CType.holds_u32 (by omega))),
    hertz, fit_bind (CType.holds_u32 (by omega)),
    bind_of_eq (quotient_of_pos (by decide) (CType.holds_u32 (by omega))), part,
    fit_bind (CType.holds_u32 (by omega)), product, fit_bind (CType.holds_u32 (by omega)),
    fit_of_holds (CType.holds_u32 (by omega)), amplitude]
  congr 1

theorem checkedAccumulate_eq (mem : band ∈ bands) (low : f0X100 ≤ 400000)
    (harmonic : Fin harmonics) {acc : ℤ} (bound : -131068 ≤ acc ∧ acc ≤ 131068) :
    Checked.accumulate band phase f0X100 acc harmonic =
      some (acc + harmonicShare band phase f0X100 harmonic) := by
  have product := product_between mem (phase harmonic >>> 22).toNat harmonic.val
  have few : harmonic.val + 1 ≤ harmonics := harmonic.isLt
  have frequency := Nat.mul_le_mul few low
  have cast : ((harmonic.val + 1 : ℕ) : ℤ) * f0X100 = ((harmonic.val + 1) * f0X100 : ℕ) := by
    push_cast
    rfl
  simp only [harmonics] at frequency
  rw [Checked.accumulate, cast, fit_bind (CType.holds_u64 (by omega)), harmonicShare]
  by_cases muted : 45 * sampleRate ≤ (harmonic.val + 1) * f0X100
  · rw [if_pos (by exact_mod_cast muted), if_pos muted, add_zero]
  · rw [if_neg (by exact_mod_cast muted), if_neg muted, Checked.sineLut, if_pos (index_lt _),
      Option.bind_eq_bind, Option.bind_some, ← Option.bind_eq_bind,
      fit_bind (CType.holds_s32 (by omega)), fit_bind (CType.holds_s32 (by omega))]
    exact fit_of_holds (CType.holds_s32 (by omega))

/-- Behind some of the harmonics the loop adds the shares of the others. -/
theorem foldlM_accumulate (mem : band ∈ bands) (low : f0X100 ≤ 400000)
    (rest : List (Fin harmonics)) {acc : ℤ} {count : ℕ} (few : count + rest.length ≤ harmonics)
    (bound : -32767 * count ≤ acc ∧ acc ≤ 32767 * count) :
    rest.foldlM (Checked.accumulate band phase f0X100) acc =
        some (acc + (rest.map (harmonicShare band phase f0X100)).sum) ∧
      -163835 ≤ acc + (rest.map (harmonicShare band phase f0X100)).sum ∧
      acc + (rest.map (harmonicShare band phase f0X100)).sum ≤ 163835 := by
  have five : harmonics = 5 := rfl
  induction rest generalizing acc count with
  | nil =>
      simp only [List.length_nil] at few
      simp only [List.map_nil, List.sum_nil, add_zero]
      exact ⟨rfl, by omega, by omega⟩
  | cons harmonic rest ih =>
      rw [List.length_cons] at few
      have share := @harmonicShare_between f0X100 band phase mem harmonic
      have onward := @ih (acc + harmonicShare band phase f0X100 harmonic) (count + 1) (by omega)
        (by omega)
      rw [List.foldlM_cons, bind_of_eq (checkedAccumulate_eq mem low harmonic (by omega)),
        List.map_cons, List.sum_cons, ← add_assoc]
      exact onward

theorem checkedSampleValue_eq (low : f0X100 ≤ 400000) (moderate : intensity ≤ 200) :
    Checked.sampleValue phase f0X100 intensity = some (sampleValue phase f0X100 intensity) := by
  have mem := bandFor_mem f0X100
  have sum := @foldlM_accumulate f0X100 (bandFor f0X100) phase mem low
    (List.finRange harmonics) 0 0 (by decide) (by decide)
  rw [zero_add] at sum
  rcases sum with ⟨folded, least, greatest⟩
  have amp := amplitude_le mem low
  simp only [Checked.sampleValue]
  rw [bind_of_eq (checkedAmplitude_eq mem low), bind_of_eq folded]
  generalize accumulated : ((List.finRange harmonics).map
    (harmonicShare (bandFor f0X100) phase f0X100)).sum = acc at least greatest ⊢
  have product : |acc * (amplitude (bandFor f0X100) f0X100 : ℕ)| ≤ 163835 * 6421 := by
    rw [abs_mul, Nat.abs_cast]
    apply mul_le_mul (abs_le.mpr ⟨least, greatest⟩) (by exact_mod_cast amp) (by omega) (by decide)
  rw [abs_le] at product
  rw [fit_bind (CType.holds_s64 (by omega)), fit_bind (CType.holds_s32 (by omega))]
  generalize level : acc * (amplitude (bandFor f0X100) f0X100 : ℕ) / 2 ^ 15 = value
  have scaled : |value * (intensity : ℕ)| ≤ 32200 * 200 := by
    rw [abs_mul, Nat.abs_cast]
    apply mul_le_mul (abs_le.mpr ⟨by omega, by omega⟩) (by exact_mod_cast moderate) (by omega)
      (by decide)
  rw [abs_le] at scaled
  have share := @tdiv_between (value * (intensity : ℕ)) 100 (by decide)
  rw [fit_bind (CType.holds_s64 (by omega)),
    bind_of_eq (quotient_of_pos (by decide) (CType.holds_s64 (by omega))),
    fit_bind (CType.holds_s32 (by omega)), sampleValue, accumulated, level]

theorem checkedF0X100_eq {texmerge : Texmerge} (rpm : texmerge.rpmX10 ≤ 300000)
    (cylinders : texmerge.cylinders ≤ 16) :
    Checked.f0X100 texmerge.rpmX10 texmerge.cylinders = some (texmerge.f0X100 : ℤ) ∧
      texmerge.f0X100 ≤ 400000 := by
  have product := Nat.mul_le_mul rpm cylinders
  have cast : (texmerge.rpmX10 : ℤ) * texmerge.cylinders =
      (texmerge.rpmX10 * texmerge.cylinders : ℕ) := by
    push_cast
    rfl
  have share : (((texmerge.rpmX10 * texmerge.cylinders : ℕ) : ℤ) * 10).tdiv 120 =
      (texmerge.f0X100 : ℤ) := by
    rw [Int.tdiv_eq_ediv_of_nonneg (by omega), Texmerge.f0X100]
    omega
  have bound : texmerge.f0X100 ≤ 400000 := by
    rw [Texmerge.f0X100]
    omega
  refine ⟨?_, bound⟩
  rw [Checked.f0X100, cast, fit_bind (CType.holds_u64 (by omega)),
    fit_bind (CType.holds_u64 (by omega)),
    bind_of_eq (quotient_of_pos (by decide) (CType.holds_u64 (by omega))), share]
  exact fit_of_holds (CType.holds_u32 (by omega))

theorem checkedIncrement_eq (low : f0X100 ≤ 400000) :
    Checked.increment f0X100 = some ((f0X100 * 2 ^ 32 / (100 * sampleRate) : ℕ) : ℤ) ∧
      f0X100 * 2 ^ 32 / (100 * sampleRate) ≤ 2 ^ 32 := by
  have turns : ((f0X100 : ℤ) * 2 ^ 32).tdiv (100 * sampleRate) =
      ((f0X100 * 2 ^ 32 / (100 * sampleRate) : ℕ) : ℤ) := by
    rw [Int.tdiv_eq_ediv_of_nonneg (by omega)]
    push_cast
    rfl
  constructor
  · rw [Checked.increment, fit_bind (CType.holds_u64 (by omega)),
      quotient_of_pos (by decide) (CType.holds_u64 (by omega)), turns]
  · simp only [sampleRate]
    omega

theorem sampleValue_between (phase : Fin harmonics → UInt32) (f0X100 intensity : ℕ) :
    -32768 ≤ sampleValue phase f0X100 intensity ∧ sampleValue phase f0X100 intensity ≤ 32767 :=
  clamp_between (by decide)

theorem nextSamples_between {count : ℕ} {sample : ℤ}
    (mem : sample ∈ (nextSamples phase f0X100 intensity count).2) :
    -32768 ≤ sample ∧ sample ≤ 32767 := by
  induction count generalizing phase with
  | zero => cases mem
  | succ count ih =>
      rcases List.mem_cons.mp mem with rfl | later
      · exact sampleValue_between _ _ _
      · exact ih later

def fundamental : Fin harmonics := ⟨0, by decide⟩

/-- Every harmonic is at its multiple of the fundamental, modulo whole turns. -/
def Locked (phase : Fin harmonics → UInt32) : Prop :=
  ∀ harmonic, phase harmonic = UInt32.ofNat (harmonic.val + 1) * phase fundamental

theorem Locked.advance (locked : Locked phase) (f0X100 : ℕ) :
    Locked (advancePhase phase f0X100) := by
  intro harmonic
  have one : UInt32.ofNat (fundamental.val + 1) = 1 := rfl
  simp only [advancePhase, one, UInt32.mul_one]
  rw [locked harmonic, UInt32.mul_add, UInt32.mul_comm (increment f0X100)]

theorem Locked.nextSamples (locked : Locked phase) (f0X100 intensity count : ℕ) :
    Locked (nextSamples phase f0X100 intensity count).1 := by
  induction count generalizing phase with
  | zero => exact locked
  | succ count ih => exact ih (locked.advance f0X100)

/-- `hidpp_dd_texmerge_install`. -/
def installed : Texmerge where
  phase _ := 0
  window := Window.zero
  debtQ8 := 0
  lastNs := 0
  rpmX10 := 0
  maxRpmX10 := 0
  rpmStampNs := 0
  intensity := 100
  cylinders := 4
  enabled := false

variable {texmerge : Texmerge}

structure Admitted (texmerge : Texmerge) : Prop where
  rpm : texmerge.rpmX10 ≤ 300000
  intensity : texmerge.intensity ≤ 200
  cylinders : texmerge.cylinders ≤ 16
  locked : Locked texmerge.phase
  window : ∀ sample ∈ texmerge.window.slots, -32768 ≤ sample ∧ sample ≤ 32767

theorem Admitted.play (admitted : texmerge.Admitted) : texmerge.play.Admitted := by
  simp only [Texmerge.play, nextPhase]
  refine { admitted with locked := admitted.locked.nextSamples _ _ _, window := ?_ }
  intro sample mem
  rcases List.mem_append.mp mem with older | fresh
  · exact admitted.window sample (List.mem_of_mem_drop older)
  · exact nextSamples_between fresh

theorem Admitted.pace (admitted : texmerge.Admitted) (now : UInt64) :
    (texmerge.pace now).Admitted :=
  ⟨admitted.rpm, admitted.intensity, admitted.cylinders, admitted.locked, admitted.window⟩

theorem Admitted.splice (admitted : texmerge.Admitted) (buffer : Bytes) (now : UInt64) :
    (texmerge.splice buffer now).1.Admitted := by
  simp only [Texmerge.splice]
  split
  · exact admitted
  · split
    · exact admitted
    · split
      · exact admitted.pace now
      · exact (admitted.pace now).play

theorem installed_admitted : installed.Admitted where
  rpm := by decide
  intensity := by decide
  cylinders := by decide
  locked _ := (UInt32.mul_zero).symm
  window := by
    intro sample mem
    rw [List.eq_of_mem_replicate mem]
    decide

/-- The phases of a state some samples on. -/
def phaseAfter (texmerge : Texmerge) (count : ℕ) : Fin harmonics → UInt32 :=
  (nextSamples texmerge.phase texmerge.f0X100 texmerge.intensity count).1

end Texmerge

open Texmerge

/-- An override from its installation on. -/
def interceptor : System Shim Event where
  initial shim := shim.texmerge = installed ∧ shim.linked = true
  step shim event := some (shim.step event)

namespace Shim

variable {shim : Shim}

theorem admitted_dispatch (admitted : shim.texmerge.Admitted) (buffer : Bytes) (now : UInt64) :
    (shim.dispatch buffer now).1.texmerge.Admitted := by
  simp only [dispatch]
  split
  · rw [apply_ite texmerge, ite_self]
    exact admitted
  · split
    · have spliced := admitted.splice buffer now
      generalize shim.texmerge.splice buffer now = outcome at spliced ⊢
      exact spliced
    · exact admitted

theorem admitted_classify (admitted : shim.texmerge.Admitted) (report : Report) :
    (shim.classify report).1.texmerge.Admitted := by
  have noted : (shim.noteForeign report).texmerge.Admitted := by
    rw [noteForeign_texmerge]
    exact admitted
  simp only [classify]
  split
  · exact noted
  · exact admitted_dispatch noted _ _

/-- A store changes the settings to a valid value or not at all. -/
theorem admitted_store (admitted : shim.texmerge.Admitted) {valid : Bool}
    {change : Texmerge → Texmerge}
    (kept : valid = true → (change shim.texmerge).Admitted) :
    (shim.settle (shim.store valid change)).texmerge.Admitted := by
  simp only [store]
  split
  · exact admitted
  · split
    · exact admitted
    · rename_i accepted
      split
      · exact admitted
      · exact kept (Bool.eq_true_of_not_eq_false accepted)

theorem admitted_step (admitted : shim.texmerge.Admitted) (event : Event) :
    (shim.step event).texmerge.Admitted := by
  cases event with
  | packet report => exact admitted_classify admitted report
  | storeMerge on =>
      apply admitted_store admitted
      intro _
      exact ⟨admitted.rpm, admitted.intensity, admitted.cylinders, admitted.locked,
        admitted.window⟩
  | storeRpm rpm maxRpm now =>
      apply admitted_store admitted
      intro valid
      rw [Bool.and_eq_true, decide_eq_true_eq] at valid
      exact { admitted with rpm := Nat.mul_le_mul_right 10 valid.1 }
  | storeIntensity value =>
      apply admitted_store admitted
      intro valid
      exact { admitted with intensity := of_decide_eq_true valid }
  | storeCylinders value =>
      apply admitted_store admitted
      intro valid
      rw [Bool.and_eq_true, decide_eq_true_eq, decide_eq_true_eq] at valid
      exact { admitted with cylinders := valid.2 }
  | driver ff => exact admitted
  | uninstall => exact admitted

theorem reachable_admitted (reachable : interceptor.Reachable shim) : shim.texmerge.Admitted := by
  apply reachable.invariant
  · rintro start ⟨installed, _⟩
    rw [installed]
    exact installed_admitted
  · rintro current event next admitted _ stepped
    cases stepped
    exact admitted_step admitted event

end Shim

/-- Whatever the history of stores and splices, behind every sample the harmonics are at their
multiples of the fundamental; no number on the way to a sample leaves its type, with the
increment counted modulo a whole turn; and the samples fill the signed sixteen bits at most. -/
theorem synthesiser_law :
    (∀ shim, interceptor.Reachable shim →
      Locked shim.texmerge.phase ∧
        (∀ count, Locked (shim.texmerge.phaseAfter count)) ∧
        Checked.f0X100 shim.texmerge.rpmX10 shim.texmerge.cylinders =
          some (shim.texmerge.f0X100 : ℤ) ∧
        (∃ turn : ℕ, Checked.increment shim.texmerge.f0X100 = some (turn : ℤ) ∧ turn ≤ 2 ^ 32 ∧
          Texmerge.increment shim.texmerge.f0X100 = UInt32.ofNat turn) ∧
        (∀ count, Checked.sampleValue (shim.texmerge.phaseAfter count) shim.texmerge.f0X100
            shim.texmerge.intensity =
          some (sampleValue (shim.texmerge.phaseAfter count) shim.texmerge.f0X100
            shim.texmerge.intensity)) ∧
        ∀ sample ∈ shim.texmerge.window.slots ++ shim.texmerge.nextBlock.samples,
          -32768 ≤ sample ∧ sample ≤ 32767 ∧ 0 ≤ sample + 32768 ∧ sample + 32768 ≤ 65535) ∧
    ∀ phase : UInt32, (phase >>> 22).toNat < 1024 := by
  refine ⟨?_, index_lt⟩
  intro shim reachable
  have admitted := Shim.reachable_admitted reachable
  have frequency := checkedF0X100_eq admitted.rpm admitted.cylinders
  have step := checkedIncrement_eq frequency.2
  refine ⟨admitted.locked, fun count => admitted.locked.nextSamples _ _ count, frequency.1,
    ⟨_, step.1, step.2, rfl⟩, fun count => checkedSampleValue_eq frequency.2 admitted.intensity,
    ?_⟩
  intro sample mem
  have range : -32768 ≤ sample ∧ sample ≤ 32767 := by
    rcases List.mem_append.mp mem with older | fresh
    · exact admitted.window sample older
    · exact nextSamples_between fresh
  exact ⟨range.1, range.2, by omega, by omega⟩

/-- Sixteen cylinders at thirty thousand revolutions fire once a sample: the increment is a whole
turn, which its type does not hold. -/
theorem increment_of_extreme_wraps :
    ∃ shim, interceptor.Reachable shim ∧
      (do fit .u32 (← Checked.increment shim.texmerge.f0X100)) = none := by
  let ff : FfData := ⟨0, false, 0, 0, false, false, 0, false, 0, 0, false⟩
  refine ⟨⟨{ installed with rpmX10 := 300000, rpmStampNs := 1, cylinders := 16 }, ff, true⟩, ?_,
    by decide⟩
  exact System.Reachable.of_run ⟨installed, ff, true⟩ [.storeRpm 30000 0 1, .storeCylinders 16]
    ⟨rfl, rfl⟩ rfl

end TrueForce.Texture
