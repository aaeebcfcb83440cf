import TrueForce.Foundation.CheckedInt
import TrueForce.Foundation.TokenBucket
import TrueForce.Foundation.Transition
import TrueForce.Texture.Merge

/-!
# The pace of the splice

The sample debt is a token bucket of sixteen samples, in 256ths: it fills by four
thousand samples a second, rounded down at every call, and a splice takes four out.
Calls come in the order of time; between them the settings change, and switching the
merge off drops the debt.
-/

namespace TrueForce.Texture

open TrueForce.ByteBuffer TrueForce.CInt TrueForce.TokenBucket TrueForce.Transition

namespace Texmerge

def debtCap : ℕ := 16 * 256

def blockDebt : ℕ := blockSize * 256

namespace Checked

def earned (lastNs now : UInt64) : Option ℤ := do
  let dt ← fit .u64 ((now.toNat : ℤ) - lastNs.toNat)
  let samples ← fit .u64 (min dt 1000000000 * sampleRate)
  let product ← fit .u64 (samples * 256)
  let due ← quotient .u64 product 1000000000
  fit .u32 due

def pace (debtQ8 : ℕ) (lastNs now : UInt64) : Option ℤ :=
  if lastNs < now then do
    let due ← earned lastNs now
    let debt ← fit .u32 (debtQ8 + due)
    some (min debt debtCap)
  else some debtQ8

/-- The debt behind a call that gets past the checks. -/
def draw (debtQ8 : ℕ) (lastNs now : UInt64) : Option ℤ := do
  let paced ← pace debtQ8 lastNs now
  if paced < blockDebt then some paced else fit .u32 (paced - blockDebt)

/-- One harmonic's turn of a sample. -/
def turn (phase : UInt32) (f0X100 harmonic : ℕ) : Option ℤ := do
  let step ← fit .u32 ((increment f0X100).toNat * ((harmonic : ℤ) + 1))
  fit .u32 (phase.toNat + step)

end Checked

variable {texmerge : Texmerge} {buffer : Bytes} {now : UInt64}

theorem toNat_sub (ordered : texmerge.lastNs ≤ now) :
    (now - texmerge.lastNs).toNat = now.toNat - texmerge.lastNs.toNat :=
  UInt64.toNat_sub_of_le _ _ ordered

theorem mul_earned_le (elapsed : UInt64) :
    1000000000 * earned elapsed ≤ 1024000 * elapsed.toNat := by
  simp only [earned, sampleRate]
  omega

theorem lt_mul_earned {elapsed : UInt64} (short : elapsed.toNat ≤ 1000000000) :
    1024000 * elapsed.toNat < 1000000000 * (earned elapsed + 1) := by
  simp only [earned, sampleRate]
  omega

theorem checkedEarned_eq (ordered : texmerge.lastNs ≤ now) :
    Checked.earned texmerge.lastNs now = some (earned (now - texmerge.lastNs)) := by
  have bound := now.toNat_lt
  have before : texmerge.lastNs.toNat ≤ now.toNat := ordered
  simp only [Checked.earned, earned, toNat_sub ordered, sampleRate]
  have product : CType.u64.Holds (min ((now.toNat : ℤ) - texmerge.lastNs.toNat) 1000000000 *
      (4000 : ℕ) * 256) := CType.holds_u64 (by omega)
  have due : (min ((now.toNat : ℤ) - texmerge.lastNs.toNat) 1000000000 * (4000 : ℕ) * 256).tdiv
      1000000000 =
        (min (now.toNat - texmerge.lastNs.toNat) 1000000000 * 4000 * 256 / 1000000000 : ℕ) := by
    rw [Int.tdiv_eq_ediv_of_nonneg (by omega)]
    omega
  rw [fit_bind (CType.holds_u64 (by omega)), fit_bind (CType.holds_u64 (by omega)),
    fit_bind product, bind_of_eq (quotient_of_pos (by decide) product), due]
  exact fit_of_holds (CType.holds_u32 (by omega))

def bucket (texmerge : Texmerge) : Bucket := ⟨texmerge.debtQ8, texmerge.lastNs.toNat⟩

/-- The call gets past the checks. -/
def Paces (texmerge : Texmerge) (buffer : Bytes) (now : UInt64) : Prop :=
  texmerge.enabled = true ∧ eligible buffer = true ∧ texmerge.fresh now = true

instance (texmerge : Texmerge) (buffer : Bytes) (now : UInt64) :
    Decidable (texmerge.Paces buffer now) := inferInstanceAs (Decidable (_ ∧ _))

def samplesOf (texmerge : Texmerge) (buffer : Bytes) (now : UInt64) : ℕ :=
  (texmerge.splice buffer now).2.2

def visit (texmerge : Texmerge) (buffer : Bytes) (now : UInt64) : Visit :=
  ⟨now.toNat, earned (now - texmerge.lastNs), 256 * texmerge.samplesOf buffer now⟩

theorem splice_of_not_paces (idle : ¬texmerge.Paces buffer now) :
    texmerge.splice buffer now = (texmerge, buffer, 0) := by
  simp only [splice]
  split
  · rfl
  · rename_i gate
    apply if_pos
    rw [not_or, Bool.not_eq_false, Bool.not_eq_false] at gate
    by_contra live
    rw [Bool.not_eq_false] at live
    exact idle ⟨gate.1, gate.2, live⟩

theorem splice_of_paces (paces : texmerge.Paces buffer now) :
    texmerge.splice buffer now =
      if (texmerge.pace now).debtQ8 < blockDebt then (texmerge.pace now, buffer, 0)
      else ((texmerge.pace now).play, stamp (texmerge.pace now).play.window buffer,
        blockSize) := by
  rcases paces with ⟨enabled, valid, live⟩
  simp only [splice, enabled, valid, live, Bool.true_eq_false, or_self, if_false]
  rfl

theorem debtQ8_pace (held : texmerge.debtQ8 ≤ debtCap) (ordered : texmerge.lastNs ≤ now) :
    (texmerge.pace now).debtQ8 =
      min (texmerge.debtQ8 + earned (now - texmerge.lastNs)) debtCap := by
  simp only [pace]
  split
  · rfl
  · rename_i still
    have same : now = texmerge.lastNs := UInt64.le_antisymm (UInt64.not_lt.mp still) ordered
    have none : earned (now - texmerge.lastNs) = 0 := by
      rw [same, UInt64.sub_self]
      rfl
    rw [none, Nat.add_zero, Nat.min_eq_left held]

theorem checkedPace_eq (held : texmerge.debtQ8 ≤ debtCap) (ordered : texmerge.lastNs ≤ now) :
    Checked.pace texmerge.debtQ8 texmerge.lastNs now = some ((texmerge.pace now).debtQ8 : ℤ) := by
  have due : earned (now - texmerge.lastNs) ≤ 1024000 := by
    simp only [earned, sampleRate]
    omega
  simp only [debtCap] at held
  simp only [Checked.pace, pace]
  split
  · rw [bind_of_eq (checkedEarned_eq ordered), fit_bind (CType.holds_u32 (by omega)), debtCap]
    congr 1
    omega
  · rfl

theorem checkedDraw_eq (held : texmerge.debtQ8 ≤ debtCap) (paces : texmerge.Paces buffer now)
    (ordered : texmerge.lastNs ≤ now) :
    Checked.draw texmerge.debtQ8 texmerge.lastNs now =
      some ((texmerge.splice buffer now).1.debtQ8 : ℤ) := by
  have paced := debtQ8_pace held ordered
  have bound : (texmerge.pace now).debtQ8 ≤ debtCap := by
    rw [paced]
    exact Nat.min_le_right _ _
  rw [Checked.draw, bind_of_eq (checkedPace_eq held ordered), splice_of_paces paces]
  simp only [Nat.cast_lt]
  split
  · rfl
  · rename_i rich
    simp only [debtCap] at bound
    change fit .u32 _ = some (((texmerge.pace now).debtQ8 - blockDebt : ℕ) : ℤ)
    rw [fit_of_holds (CType.holds_u32 (by omega))]
    congr 1
    omega

theorem visit_filled (held : texmerge.debtQ8 ≤ debtCap) (ordered : texmerge.lastNs ≤ now) :
    texmerge.bucket.filled debtCap (texmerge.visit buffer now) =
      (texmerge.pace now).debtQ8 := (debtQ8_pace held ordered).symm

/-- A call that gets past the checks takes a block where there is one. -/
theorem visit_taken (paces : texmerge.Paces buffer now) :
    (texmerge.visit buffer now).taken =
      if (texmerge.pace now).debtQ8 < blockDebt then 0 else blockDebt := by
  simp only [visit, samplesOf, splice_of_paces paces]
  split <;> rfl

theorem visit_covered (held : texmerge.debtQ8 ≤ debtCap) (paces : texmerge.Paces buffer now)
    (ordered : texmerge.lastNs ≤ now) :
    (texmerge.visit buffer now).taken ≤
      texmerge.bucket.filled debtCap (texmerge.visit buffer now) := by
  rw [visit_filled held ordered, visit_taken paces]
  split
  · exact Nat.zero_le _
  · rename_i rich
    exact Nat.le_of_not_lt rich

theorem bucket_splice (held : texmerge.debtQ8 ≤ debtCap) (paces : texmerge.Paces buffer now)
    (ordered : texmerge.lastNs ≤ now) :
    (texmerge.splice buffer now).1.bucket =
      texmerge.bucket.visited debtCap (texmerge.visit buffer now) := by
  rw [Bucket.visited, visit_filled held ordered, visit_taken paces, splice_of_paces paces]
  split <;> rfl

theorem visit_fair (held : texmerge.debtQ8 ≤ debtCap) (paces : texmerge.Paces buffer now)
    (ordered : texmerge.lastNs ≤ now) :
    Fair debtCap 1000000000 1024000 texmerge.bucket (texmerge.visit buffer now) where
  ordered := ordered
  due := by
    have due := mul_earned_le (now - texmerge.lastNs)
    rw [toNat_sub ordered] at due
    exact due
  covered := visit_covered held paces ordered

theorem visit_full (held : texmerge.debtQ8 ≤ debtCap) (paces : texmerge.Paces buffer now)
    (ordered : texmerge.lastNs ≤ now) (near : now.toNat - texmerge.lastNs.toNat ≤ 3000000)
    (fits : texmerge.debtQ8 + earned (now - texmerge.lastNs) ≤ debtCap) :
    Full debtCap 1000000000 1024000 texmerge.bucket (texmerge.visit buffer now) where
  ordered := ordered
  due := by
    have elapsed := toNat_sub ordered
    have due := @lt_mul_earned (now - texmerge.lastNs) (by omega)
    rw [elapsed] at due
    exact Nat.le_of_lt due
  fits := fits
  covered := visit_covered held paces ordered

end Texmerge

open Texmerge

/-- The synthesiser, the time of the last call, and the calls with what they spliced. -/
structure Paced where
  texmerge : Texmerge
  clock : UInt64
  log : List (ℕ × ℕ)

inductive PacingEvent where
  | call (buffer : Bytes) (now : UInt64)
  | change (next : Texmerge)

namespace Paced

/-- A change leaves the clock alone, and the debt unless it is dropped. -/
def step (paced : Paced) : PacingEvent → Option Paced
  | .call buffer now =>
      if paced.clock ≤ now then
        some
          { texmerge := (paced.texmerge.splice buffer now).1
            clock := now
            log := paced.log ++ [(now.toNat, paced.texmerge.samplesOf buffer now)] }
      else none
  | .change next =>
      if next.lastNs = paced.texmerge.lastNs ∧
          (next.debtQ8 = paced.texmerge.debtQ8 ∨ next.debtQ8 = 0) then
        some { paced with texmerge := next }
      else none

end Paced

def pacer : System Paced PacingEvent where
  initial paced := paced.texmerge.debtQ8 = 0 ∧ paced.texmerge.lastNs = 0 ∧ paced.log = []
  step := Paced.step

/-- The samples spliced by the calls of a span of time. -/
def samplesWithin (first last : ℕ) (log : List (ℕ × ℕ)) : ℕ :=
  (log.map fun call => if first ≤ call.1 ∧ call.1 ≤ last then call.2 else 0).sum

def samples (log : List (ℕ × ℕ)) : ℕ := (log.map Prod.snd).sum

theorem samplesWithin_append (first last : ℕ) (log more : List (ℕ × ℕ)) :
    samplesWithin first last (log ++ more) =
      samplesWithin first last log + samplesWithin first last more := by
  rw [samplesWithin, List.map_append, List.sum_append, ← samplesWithin, ← samplesWithin]

namespace Paced

variable {paced : Paced} {buffer : Bytes} {now : UInt64}

structure Invariant (paced : Paced) : Prop where
  held : paced.texmerge.debtQ8 ≤ debtCap
  behind : paced.texmerge.lastNs ≤ paced.clock
  spent : ∀ first last, Spent debtCap 1000000000 1024000 first last paced.texmerge.bucket
    (256 * samplesWithin first last paced.log)

theorem call_invariant (invariant : paced.Invariant) (ordered : paced.clock ≤ now) :
    Paced.Invariant
      { texmerge := (paced.texmerge.splice buffer now).1
        clock := now
        log := paced.log ++ [(now.toNat, paced.texmerge.samplesOf buffer now)] } := by
  have later := UInt64.le_trans invariant.behind ordered
  have grows (first last : ℕ) :
      256 * samplesWithin first last
          (paced.log ++ [(now.toNat, paced.texmerge.samplesOf buffer now)]) =
        256 * samplesWithin first last paced.log +
          (paced.texmerge.visit buffer now).takenWithin first last := by
    rw [samplesWithin_append, Nat.mul_add, Visit.takenWithin]
    congr 1
    simp only [samplesWithin, List.map_cons, List.map_nil, List.sum_cons, List.sum_nil,
      Nat.add_zero, visit, mul_ite, Nat.mul_zero]
    rfl
  by_cases paces : paced.texmerge.Paces buffer now
  · have visited := bucket_splice invariant.held paces later
    refine ⟨?_, ?_, ?_⟩
    · have level := congrArg Bucket.level visited
      change (paced.texmerge.splice buffer now).1.debtQ8 = _ at level
      rw [level]
      exact visited_level_le
    · have last := congrArg Bucket.last visited
      exact Nat.le_of_eq last
    · intro first last
      rw [visited, grows]
      exact (invariant.spent first last).visited (visit_fair invariant.held paces later)
  · have idle := splice_of_not_paces paces
    have nothing : paced.texmerge.samplesOf buffer now = 0 := by rw [samplesOf, idle]
    refine ⟨?_, ?_, ?_⟩
    · rw [idle]
      exact invariant.held
    · rw [idle]
      exact later
    · intro first last
      rw [grows, idle, Visit.takenWithin, visit, nothing, Nat.mul_zero, ite_self]
      exact invariant.spent first last

theorem step_invariant {event : PacingEvent} {next : Paced} (invariant : paced.Invariant)
    (stepped : paced.step event = some next) : next.Invariant := by
  cases event with
  | call buffer now =>
      simp only [step, Option.ite_none_right_eq_some, Option.some.injEq] at stepped
      rcases stepped with ⟨ordered, rfl⟩
      exact call_invariant invariant ordered
  | change changed =>
      simp only [step, Option.ite_none_right_eq_some, Option.some.injEq] at stepped
      rcases stepped with ⟨⟨same, debt⟩, rfl⟩
      have less : changed.debtQ8 ≤ paced.texmerge.debtQ8 := by omega
      refine ⟨less.trans invariant.held, ?_, ?_⟩
      · change changed.lastNs ≤ paced.clock
        rw [same]
        exact invariant.behind
      · intro first last
        have lowered := (invariant.spent first last).lowered less
        rw [bucket, ← same] at lowered
        exact lowered

theorem reachable_invariant (reachable : pacer.Reachable paced) : paced.Invariant := by
  apply reachable.invariant
  · rintro start ⟨empty, zero, unlogged⟩
    refine ⟨?_, ?_, ?_⟩
    · rw [empty]
      exact Nat.zero_le _
    · rw [zero]
      exact UInt64.zero_le
    · intro first last
      rw [unlogged]
      apply Spent.start
      rw [bucket, empty]
      exact Nat.zero_le _
  · intro current event next invariant _ stepped
    exact step_invariant invariant stepped

/-- The call passes the checks within three milliseconds of the last one, and nothing of the debt
is lost to the cap; a change leaves the debt alone. -/
def Steady (paced : Paced) : PacingEvent → Prop
  | .call buffer now =>
      paced.texmerge.Paces buffer now ∧
        now.toNat - paced.texmerge.lastNs.toNat ≤ 3000000 ∧
        paced.texmerge.debtQ8 + earned (now - paced.texmerge.lastNs) ≤ debtCap
  | .change next => next.debtQ8 = paced.texmerge.debtQ8

theorem samples_cons (call : ℕ × ℕ) (log : List (ℕ × ℕ)) :
    samples (call :: log) = call.2 + samples log := by
  rw [samples, List.map_cons, List.sum_cons, ← samples]

/-- What a steady run adds to the log keeps the bucket's account. -/
theorem steady_run {start taken visits : ℕ} {events : List PacingEvent} {last : Paced}
    (invariant : paced.Invariant)
    (kept : Kept 1000000000 1024000 start paced.texmerge.bucket taken visits)
    (steady : pacer.RunMeets Steady paced events) (executed : pacer.run paced events = some last) :
    ∃ more, last.log = paced.log ++ more ∧
      Kept 1000000000 1024000 start last.texmerge.bucket (taken + 256 * samples more)
        (visits + more.length) := by
  induction events generalizing paced taken visits with
  | nil =>
      cases executed
      exact ⟨[], (List.append_nil _).symm, kept⟩
  | cons event events ih =>
      simp only [System.run, Option.bind_eq_some_iff] at executed
      rcases executed with ⟨next, stepped, rest⟩
      simp only [System.RunMeets, stepped] at steady
      have onward := step_invariant invariant stepped
      cases event with
      | call buffer now =>
          simp only [pacer, step, Option.ite_none_right_eq_some, Option.some.injEq] at stepped
          rcases stepped with ⟨ordered, rfl⟩
          rcases steady with ⟨⟨paces, near, fits⟩, steady⟩
          have later := UInt64.le_trans invariant.behind ordered
          have visited := kept.visited (visit_full invariant.held paces later near fits)
          rw [← bucket_splice invariant.held paces later] at visited
          rcases ih onward visited steady rest with ⟨more, log, kept⟩
          refine ⟨(now.toNat, paced.texmerge.samplesOf buffer now) :: more, ?_, ?_⟩
          · rw [log, List.append_assoc, List.singleton_append]
          · rw [samples_cons, List.length_cons, Nat.mul_add, ← Nat.add_assoc]
            rw [Nat.add_comm more.length 1, ← Nat.add_assoc]
            exact kept
      | change changed =>
          simp only [pacer, step, Option.ite_none_right_eq_some, Option.some.injEq] at stepped
          rcases stepped with ⟨⟨same, _⟩, rfl⟩
          rcases steady with ⟨debt, steady⟩
          have still : changed.bucket = paced.texmerge.bucket := by
            rw [bucket, bucket, same, debt]
          rw [← still] at kept
          have extended := ih onward kept steady rest
          exact extended

end Paced

/-- The debt never exceeds the cap, no step of the pacing leaves its type, and no span of time sees
more than sixteen samples besides its four thousand a second; and a steady run of calls sees no
fewer, but for sixteen samples and what the rounding of its calls amounts to. -/
theorem pacing_law :
    (∀ paced, pacer.Reachable paced →
      paced.texmerge.debtQ8 ≤ 4096 ∧
        (∀ buffer now, paced.clock ≤ now → paced.texmerge.Paces buffer now →
          Checked.draw paced.texmerge.debtQ8 paced.texmerge.lastNs now =
            some ((paced.texmerge.splice buffer now).1.debtQ8 : ℤ)) ∧
        ∀ first last, first ≤ last →
          samplesWithin first last paced.log * 1000000000 ≤
            16 * 1000000000 + 4000 * (last - first)) ∧
    ∀ start events last, pacer.Reachable start → pacer.run start events = some last →
      pacer.RunMeets Paced.Steady start events →
      ∃ more, last.log = start.log ++ more ∧
        256 * 4000 * (last.texmerge.lastNs.toNat - start.texmerge.lastNs.toNat) ≤
          1000000000 * (256 * (samples more + 16) + more.length) := by
  refine ⟨?_, ?_⟩
  · intro paced reachable
    have invariant := Paced.reachable_invariant reachable
    refine ⟨invariant.held, ?_, ?_⟩
    · intro buffer now ordered paces
      exact checkedDraw_eq invariant.held paces (UInt64.le_trans invariant.behind ordered)
    · intro first last _
      have bound := (invariant.spent first last).after
      simp only [debtCap] at bound
      omega
  · intro start events last reachable executed steady
    have invariant := Paced.reachable_invariant reachable
    rcases Paced.steady_run invariant Kept.start steady executed with ⟨more, log, kept⟩
    refine ⟨more, log, ?_⟩
    have held := (Paced.reachable_invariant
      (reachable.run executed (System.runMeets_anyStep _ _))).held
    have account := kept.2
    simp only [bucket] at account
    simp only [debtCap] at held
    omega

open Example in
/-- The phases are fractions of a turn and wrap: the third sample of this call takes the fifth
harmonic past a whole turn. -/
theorem fifth_harmonic_wraps :
    pacer.Reachable ⟨running, 0, []⟩ ∧ running.Paces packet 2000000 ∧
      running.samplesOf packet 2000000 = 4 ∧
      Checked.turn ((nextSamples running.phase running.f0X100 running.intensity 2).1
        ⟨4, by decide⟩) running.f0X100 4 = none := by
  have start : pacer.Reachable ⟨stopped, 0, []⟩ :=
    System.ReachableUnder.of_initial ⟨rfl, rfl, rfl⟩
  have changed : pacer.step ⟨stopped, 0, []⟩ (.change running) = some ⟨running, 0, []⟩ := rfl
  have paces : running.Paces packet 2000000 := by decide
  refine ⟨start.tail trivial changed, paces, ?_, ?_⟩
  · decide
  · decide

end TrueForce.Texture
