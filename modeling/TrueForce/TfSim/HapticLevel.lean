import TrueForce.TfSim.Haptics

/-!
# The level of an effect and its state

Two runs of an effect over the same calls differ in their gains only.  A burst keeps a count
of the samples that were heard since it was struck, and its phase and amplitude are functions
of that count; everything else is the same in both runs.
-/

namespace TrueForce.TfSim.Haptics

open TrueForce.Sampled SampleArith

variable {α : Type} [SampleArith α]

structure Call (α : Type) where
  tel : Telemetry α
  blockMs : α
  count : ℕ

namespace Effect

def burst : Effect α → Option (Burst α)
  | .gearShift effect => some effect.burst
  | .collision effect => some effect.burst
  | .drs effect => some effect.burst
  | _ => none

/-- The samples still to come from the burst under way. -/
def remaining (effect : Effect α) : ℕ := (effect.burst.map Burst.remaining).getD 0

def strike (tel : Telemetry α) : Effect α → Option (Strike α)
  | .gearShift effect => GearShift.strike effect.lastGear tel
  | .collision effect => Collision.strike effect.lastG tel
  | .drs effect => Drs.strike effect.last tel
  | _ => none

def call (effect : Effect α) (call : Call α) (gain : α) : Effect α × List α :=
  (effect.update call.tel call.blockMs).render call.count gain

def afterCalls : Effect α → List (Call α × α) → Effect α
  | effect, [] => effect
  | effect, (call, gain) :: turns => (effect.call call gain).1.afterCalls turns

/-- The samples that each call adds. -/
def added : Effect α → List (Call α × α) → List (List α)
  | _, [] => []
  | effect, (call, gain) :: turns =>
      (effect.call call gain).2 :: (effect.call call gain).1.added turns

/-- The samples of the burst under way that fell to calls with a gain, after one more call. -/
def heardAfter (effect : Effect α) (heard : ℕ) (call : Call α) (gain : α) : ℕ :=
  let heard := if (effect.strike call.tel).isSome then 0 else heard
  if le gain (lit 0) then heard
  else heard + min call.count (effect.update call.tel call.blockMs).remaining

def heard : Effect α → ℕ → List (Call α × α) → ℕ
  | _, heard, [] => heard
  | effect, heard, (call, gain) :: turns =>
      (effect.call call gain).1.heard (effect.heardAfter heard call gain) turns

end Effect

namespace Burst

/-- The burst was struck with a peak and some of its samples were heard since. -/
structure Struck (burst : Burst α) (peak : α) (heard : ℕ) : Prop where
  phase : burst.phase = (fun phase => fract (phase + burst.freqHz / sampleRateHz))^[heard] (lit 0)
  amp : burst.amp = (· * burst.decay)^[heard] peak

theorem Struck.advance {burst : Burst α} {peak : α} {heard : ℕ} (struck : burst.Struck peak heard) :
    burst.advance.Struck peak (heard + 1) where
  phase := by
    rw [Function.iterate_succ_apply']
    exact congrArg (fun phase => fract (phase + burst.freqHz / sampleRateHz)) struck.phase
  amp := by
    rw [Function.iterate_succ_apply']
    exact congrArg (· * burst.decay) struck.amp

/-- A burst that is heard for some samples, or not at all. -/
def audible (burst : Burst α) (count : ℕ) (gain : α) : ℕ :=
  if le gain (lit 0) then 0 else min count burst.remaining

structure Rendered (burst next : Burst α) (count heard : ℕ) : Prop where
  remaining : next.remaining = burst.remaining - count
  freqHz : next.freqHz = burst.freqHz
  decay : next.decay = burst.decay
  struck : ∀ peak before, burst.Struck peak before → next.Struck peak (before + heard)

theorem rendered_after (burst : Burst α) (count : ℕ) :
    Rendered burst (source.after count burst) count (min count burst.remaining) := by
  induction count generalizing burst with
  | zero =>
      rw [Nat.zero_min]
      exact ⟨rfl, rfl, rfl, fun _ _ struck => struck⟩
  | succ count ih =>
      rw [Source.after_succ]
      by_cases spent : burst.remaining = 0
      · have stays : source.tick burst = burst := if_pos spent
        have rendered := ih burst
        rw [spent, Nat.min_zero] at rendered ⊢
        rw [stays]
        exact ⟨by rw [rendered.remaining, spent]; omega, rendered.freqHz, rendered.decay,
          rendered.struck⟩
      · have moves : source.tick burst = burst.advance := if_neg spent
        have rendered := ih burst.advance
        have left : burst.advance.remaining = burst.remaining - 1 := rfl
        rw [moves]
        refine ⟨?_, rendered.freqHz, rendered.decay, ?_⟩
        · rw [rendered.remaining, left]
          omega
        · intro peak before struck
          have more := rendered.struck peak (before + 1) struck.advance
          have total : before + 1 + min count burst.advance.remaining =
              before + min (count + 1) burst.remaining := by
            rw [left]
            omega
          rwa [total] at more

theorem rendered_render (burst : Burst α) (count : ℕ) (gain : α) :
    Rendered burst (burst.render count gain).1 count (burst.audible count gain) := by
  simp only [render, audible]
  split
  · exact ⟨rfl, rfl, rfl, fun _ _ struck => ⟨struck.phase, struck.amp⟩⟩
  · exact burst.rendered_after count

/-- Bursts that differ at most in how many of their samples were heard. -/
structure Twins (lively : α → α → Prop) (heard heard' : ℕ) (burst burst' : Burst α) : Prop where
  remaining : burst'.remaining = burst.remaining
  freqHz : burst'.freqHz = burst.freqHz
  decay : burst'.decay = burst.decay
  struck : ∃ peak, burst.Struck peak heard ∧ burst'.Struck peak heard' ∧
    (lively peak burst.decay ∨ heard = 0 ∧ heard' = 0 ∧ burst.remaining = 0)

variable {lively : α → α → Prop} {heard heard' : ℕ} {burst burst' : Burst α}

theorem Twins.idle : Twins lively 0 0 (idle : Burst α) idle where
  remaining := rfl
  freqHz := rfl
  decay := rfl
  struck := ⟨lit 0, ⟨rfl, rfl⟩, ⟨rfl, rfl⟩, .inr ⟨rfl, rfl, rfl⟩⟩

theorem Twins.fire {peak freqHz decayMs lenMs : α}
    (alive : lively peak (Burst.fire peak freqHz decayMs lenMs).decay) :
    Twins lively 0 0 (Burst.fire peak freqHz decayMs lenMs)
      (Burst.fire peak freqHz decayMs lenMs) where
  remaining := rfl
  freqHz := rfl
  decay := rfl
  struck := ⟨peak, ⟨rfl, rfl⟩, ⟨rfl, rfl⟩, .inl alive⟩

theorem Twins.render (twins : Twins lively heard heard' burst burst') (count : ℕ)
    (gain gain' : α) :
    Twins lively (heard + burst.audible count gain) (heard' + burst'.audible count gain')
      (burst.render count gain).1 (burst'.render count gain').1 := by
  have left := burst.rendered_render count gain
  have right := burst'.rendered_render count gain'
  rcases twins.struck with ⟨peak, struck, struck', alive⟩
  refine ⟨?_, ?_, ?_, peak, left.struck peak heard struck, right.struck peak heard' struck', ?_⟩
  · rw [left.remaining, right.remaining, twins.remaining]
  · rw [left.freqHz, right.freqHz, twins.freqHz]
  · rw [left.decay, right.decay, twins.decay]
  · rw [left.decay, left.remaining]
    refine alive.imp id ?_
    rintro ⟨rfl, rfl, spent⟩
    have silent : ∀ gain, burst.audible count gain = 0 := by
      intro gain
      simp [audible, spent]
    have silent' : burst'.audible count gain' = 0 := by
      simp [audible, twins.remaining, spent]
    rw [silent, silent', spent]
    exact ⟨rfl, rfl, Nat.zero_sub count⟩

/-- Bursts that were heard equally long are the same. -/
theorem Twins.eq (twins : Twins lively heard heard burst burst') : burst = burst' := by
  rcases twins.struck with ⟨peak, struck, struck', -⟩
  have phase : burst.phase = burst'.phase := by
    rw [struck.phase, struck'.phase, twins.freqHz]
  have amp : burst.amp = burst'.amp := by
    rw [struck.amp, struck'.amp, twins.decay]
  cases burst
  cases burst'
  rcases twins with ⟨rfl, rfl, rfl, -⟩
  cases phase
  cases amp
  rfl

theorem Twins.strike (twins : Twins lively heard heard' burst burst')
    (strike : Option (Strike α))
    (alive : ∀ hit ∈ strike,
      lively hit.peak (Burst.fire hit.peak hit.freqHz hit.decayMs hit.lenMs).decay) :
    Twins lively (if strike.isSome then 0 else heard) (if strike.isSome then 0 else heard')
      (burst.struck strike) (burst'.struck strike) := by
  cases strike with
  | none => exact twins
  | some hit => exact Twins.fire (alive hit rfl)

end Burst

namespace Effect

variable {lively : α → α → Prop} {heard heard' : ℕ} {effect effect' : Effect α}

/-- Effects that differ at most in how much of their burst was heard. -/
inductive Matched (lively : α → α → Prop) (heard heard' : ℕ) : Effect α → Effect α → Prop where
  | gearShift {lastGear : Option Int8} {burst burst' : Burst α}
      (twins : Burst.Twins lively heard heard' burst burst') :
      Matched lively heard heard' (.gearShift { lastGear, burst })
        (.gearShift { lastGear, burst := burst' })
  | collision {lastG : α} {burst burst' : Burst α}
      (twins : Burst.Twins lively heard heard' burst burst') :
      Matched lively heard heard' (.collision { lastG, burst })
        (.collision { lastG, burst := burst' })
  | drs {last : Option Bool} {burst burst' : Burst α}
      (twins : Burst.Twins lively heard heard' burst burst') :
      Matched lively heard heard' (.drs { last, burst }) (.drs { last, burst := burst' })
  | steady {effect : Effect α} (burstless : effect.burst = none) (same : heard = heard') :
      Matched lively heard heard' effect effect

/-- Every way of striking a burst that an effect has. -/
def StrikesLively (lively : α → α → Prop) : Prop :=
  ∀ (effect : Effect α) tel, ∀ hit ∈ effect.strike tel,
    lively hit.peak (Burst.fire hit.peak hit.freqHz hit.decayMs hit.lenMs).decay

theorem heardAfter_eq (effect : Effect α) (heard : ℕ) (call : Call α) (gain : α) :
    effect.heardAfter heard call gain =
      (if (effect.strike call.tel).isSome then 0 else heard) +
        ((effect.update call.tel call.blockMs).burst.map
          (Burst.audible · call.count gain)).getD 0 := by
  simp only [heardAfter, remaining]
  cases (effect.update call.tel call.blockMs).burst with
  | none => simp
  | some burst =>
      simp only [Option.map_some, Option.getD_some, Burst.audible]
      split <;> rfl

/-- An effect without a burst does not look at the gain before it has moved on. -/
theorem call_of_burstless (heard : ℕ) (burstless : effect.burst = none) (call : Call α) (gain gain' : α) :
    (effect.call call gain).1 = (effect.call call gain').1 ∧
    (effect.call call gain).1.burst = none ∧ effect.heardAfter heard call gain = heard := by
  rw [heardAfter_eq]
  cases effect with
  | gearShift effect => cases burstless
  | collision effect => cases burstless
  | drs effect => cases burstless
  | engine effect => exact ⟨rfl, rfl, rfl⟩
  | revLimiter effect => exact ⟨rfl, rfl, rfl⟩
  | pitLimiter effect => exact ⟨rfl, rfl, rfl⟩
  | abs effect => exact ⟨rfl, rfl, rfl⟩
  | tractionLoss effect => exact ⟨rfl, rfl, rfl⟩
  | roadBumps effect => exact ⟨rfl, rfl, rfl⟩
  | airborne effect => exact ⟨rfl, rfl, rfl⟩

theorem Matched.call (matched : Matched lively heard heard' effect effect')
    (alive : StrikesLively lively) (call : Call α) (gain gain' : α) :
    Matched lively (effect.heardAfter heard call gain) (effect'.heardAfter heard' call gain')
      (effect.call call gain).1 (effect'.call call gain').1 := by
  cases matched with
  | @gearShift lastGear burst burst' twins =>
      rw [heardAfter_eq, heardAfter_eq]
      have struck := twins.strike (GearShift.strike lastGear call.tel)
        (alive (.gearShift { lastGear, burst }) call.tel)
      exact .gearShift (struck.render call.count gain gain')
  | @collision lastG burst burst' twins =>
      rw [heardAfter_eq, heardAfter_eq]
      have struck := twins.strike (Collision.strike lastG call.tel)
        (alive (.collision { lastG, burst }) call.tel)
      exact .collision (struck.render call.count gain gain')
  | @drs last burst burst' twins =>
      rw [heardAfter_eq, heardAfter_eq]
      have struck := twins.strike (Drs.strike last call.tel)
        (alive (.drs { last, burst }) call.tel)
      exact .drs (struck.render call.count gain gain')
  | steady burstless same =>
      rcases call_of_burstless heard burstless call gain gain' with
        ⟨agree, stays, count⟩
      rcases call_of_burstless heard' burstless call gain' gain with
        ⟨-, -, count'⟩
      rw [← agree]
      exact .steady stays (by rw [count, count', same])

/-- A sequence of calls with the gains of two runs. -/
abbrev Turns (α : Type) := List (Call α × α × α)

def Turns.left (turns : Turns α) : List (Call α × α) := turns.map fun turn => (turn.1, turn.2.1)

def Turns.right (turns : Turns α) : List (Call α × α) := turns.map fun turn => (turn.1, turn.2.2)

theorem Matched.afterCalls (matched : Matched lively heard heard' effect effect')
    (alive : StrikesLively lively) (turns : Turns α) :
    Matched lively (effect.heard heard turns.left) (effect'.heard heard' turns.right)
      (effect.afterCalls turns.left) (effect'.afterCalls turns.right) := by
  induction turns generalizing heard heard' effect effect' with
  | nil => exact matched
  | cons turn turns ih => exact ih (matched.call alive turn.1 turn.2.1 turn.2.2)

theorem Matched.eq (matched : Matched lively heard heard effect effect') : effect = effect' := by
  cases matched with
  | gearShift twins => rw [twins.eq]
  | collision twins => rw [twins.eq]
  | drs twins => rw [twins.eq]
  | steady => rfl

/-- The effects of a mixer, before the first block. -/
def Fresh (effect : Effect α) : Prop :=
  ∃ cylinders pitchScale gains, effect ∈ (Mixer.new cylinders pitchScale gains).effects

theorem matched_of_fresh (fresh : effect.Fresh) : Matched lively 0 0 effect effect := by
  rcases fresh with ⟨cylinders, pitchScale, gains, member⟩
  simp only [Mixer.new, List.mem_cons, List.not_mem_nil, or_false] at member
  rcases member with rfl | rfl | rfl | rfl | rfl | rfl | rfl | rfl | rfl | rfl
  · exact .steady rfl rfl
  · exact .steady rfl rfl
  · exact .steady rfl rfl
  · exact .gearShift .idle
  · exact .steady rfl rfl
  · exact .steady rfl rfl
  · exact .steady rfl rfl
  · exact .steady rfl rfl
  · exact .collision .idle
  · exact .drs .idle

/-- The same number of samples heard leaves the same effect, with any arithmetic. -/
theorem afterCalls_eq (fresh : effect.Fresh) (turns : Turns α)
    (same : effect.heard 0 turns.left = effect.heard 0 turns.right) :
    effect.afterCalls turns.left = effect.afterCalls turns.right := by
  have start : Matched (fun _ _ => True) 0 0 effect effect := matched_of_fresh fresh
  have matched := start.afterCalls (fun _ _ _ _ => trivial) turns
  rw [same] at matched
  exact matched.eq

end Effect

end TrueForce.TfSim.Haptics
