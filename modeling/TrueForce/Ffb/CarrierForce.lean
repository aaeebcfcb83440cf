import TrueForce.Foundation.Clamp
import TrueForce.Ffb.Contract

/-!
# One force whatever the carrier

A tick hands its force over in a packet of its own, in a stream packet, or through
`yield_force` from either of the two functions.  On a wheel that leaves the strength to
the driver only one of the functions applies it: `hidpp_dd_ff_send_force` scales the
force, and `hidpp_dd_tf_queue_stream` does not.
-/

namespace TrueForce.Ffb

open TrueForce.Transition TrueForce.CInt

theorem clampS16_between (force : ℤ) : -0x8000 ≤ clampS16 force ∧ clampS16 force ≤ 0x7fff :=
  clamp_between (by decide)

theorem forceToOffsetBinary_eq_iff {force other : ℤ} :
    forceToOffsetBinary force = forceToOffsetBinary other ↔ clampS16 force = clampS16 other := by
  have bounds := clampS16_between force
  have otherBounds := clampS16_between other
  simp only [forceToOffsetBinary]
  omega

/-- The scaling by the strength leaves nothing to see in sixteen bits. -/
def Unscaled (tunables : Tunables) (force : ℤ) : Prop :=
  tunables.g920 = false ∨ tunables.strength = 0xFFFF ∨ force = 0 ∨
    0x7fff * 0xFFFF ≤ force * tunables.strength.toNat ∨
    force * tunables.strength.toNat ≤ -0x8000 * 0xFFFF

instance (tunables : Tunables) (force : ℤ) : Decidable (Unscaled tunables force) := by
  simp only [Unscaled]
  infer_instance

theorem wireForce_eq_iff (tunables : Tunables) (force : ℤ) :
    Carrier.wireForce tunables force = forceToOffsetBinary force ↔ Unscaled tunables force := by
  rw [Carrier.wireForce, forceToOffsetBinary_eq_iff, Unscaled]
  cases tunables.g920 with
  | false => simp
  | true =>
      simp only [if_true, scaleU16, Bool.true_eq_false, false_or]
      split
      · rename_i full
        simp [full]
      · rename_i partly
        have bound := tunables.strength.toNat_lt
        have short : (tunables.strength.toNat : ℤ) < 0xFFFF := by
          have differs : tunables.strength.toNat ≠ 0xFFFF :=
            fun same => partly (UInt16.toNat_inj.mp same)
          omega
        rw [or_iff_right partly]
        exact clamp_tdiv_eq_iff (by decide) (by decide) (Int.natCast_nonneg _) short

namespace State

/-- The tick hands the wheel this value, by one carrier or another. -/
def HandsOver (state : State) (tick : Tick) (env : SendEnv) (cur : ℕ) : Prop :=
  cur ∈ handedOver state.carrier (state.sendTick tick env).carrier

instance (state : State) (tick : Tick) (env : SendEnv) (cur : ℕ) :
    Decidable (state.HandsOver tick env cur) := inferInstanceAs (Decidable (_ ∈ _))

theorem HandsOver.cases {state : State} {tick : Tick} {env : SendEnv} {cur : ℕ}
    (hands : state.HandsOver tick env cur) :
    cur = forceToOffsetBinary tick.force ∨
      cur = Carrier.wireForce state.tunables tick.force := by
  simp only [HandsOver] at hands
  rcases state.sendTick_carriedOnce tick env with streamed | forced | ⟨nothing, _⟩
  · rw [streamed, List.mem_singleton] at hands
    exact Or.inl hands
  · rw [forced, List.mem_singleton] at hands
    exact Or.inr hands
  · rw [nothing] at hands
    exact absurd hands List.not_mem_nil

/-- An initialised device with nothing sent so far. -/
def ready (tunables : Tunables) : State := { start tunables with initialized := true }

end State

/-- A tick on which an effect plays. -/
def Tick.playing (force : ℤ) (anyTexture : Bool) : Tick :=
  ⟨force, List.replicate tfNewSamples 0, true, anyTexture, 0⟩

namespace State

theorem ready_hands_streamed (tunables : Tunables) (force : ℤ) :
    (ready tunables).HandsOver (.playing force true) .clear (forceToOffsetBinary force) := by
  have streamed : handedOver (ready tunables).carrier
      ((ready tunables).sendTick (.playing force true) .clear).carrier =
        [forceToOffsetBinary force] := by
    simp only [handedOver, sendTick, beforeForce, idleTick, Tick.playing, Bool.not_true,
      Bool.and_false, Bool.false_and]
    rfl
  rw [HandsOver, streamed]
  exact List.mem_singleton_self _

theorem ready_hands_wireForce (tunables : Tunables) (force : ℤ) :
    (ready tunables).HandsOver (.playing force false) .clear
      (Carrier.wireForce tunables force) := by
  have forced : handedOver (ready tunables).carrier
      ((ready tunables).sendTick (.playing force false) .clear).carrier =
        [Carrier.wireForce tunables force] := by
    simp only [handedOver, sendTick, beforeForce, idleTick, Tick.playing, Bool.not_true,
      Bool.and_false, Bool.false_and]
    rfl
  rw [HandsOver, forced]
  exact List.mem_singleton_self _

end State

/-- Whatever carriers two ticks with these settings pick, the wheel is handed the same value. -/
def CarrierIndependent (tunables : Tunables) (force : ℤ) : Prop :=
  ∀ (state other : State) (tick otherTick : Tick) (env otherEnv : SendEnv) (cur otherCur : ℕ),
    state.tunables = tunables → other.tunables = tunables →
    tick.force = force → otherTick.force = force →
    state.HandsOver tick env cur → other.HandsOver otherTick otherEnv otherCur → cur = otherCur

/-- The force does not depend on the carrier exactly where the strength is the wheel's own affair,
or does not show. -/
theorem carrier_independent_iff (tunables : Tunables) (force : ℤ) :
    CarrierIndependent tunables force ↔ Unscaled tunables force := by
  rw [← wireForce_eq_iff]
  constructor
  · intro independent
    exact (independent _ _ _ _ _ _ _ _ rfl rfl rfl rfl
      (State.ready_hands_streamed tunables force)
      (State.ready_hands_wireForce tunables force)).symm
  · intro same state other tick otherTick env otherEnv cur otherCur settings otherSettings sum
      otherSum hands otherHands
    have value := hands.cases
    have otherValue := otherHands.cases
    rw [settings, sum, same, or_self] at value
    rw [otherSettings, otherSum, same, or_self] at otherValue
    rw [value, otherValue]

namespace Example

/-- A wheel that leaves the strength to the driver, at half of it. -/
def halved : Tunables := { defaultTunables with strength := 0x8000, g920 := true }

/-- A first rumble asks for the texture channel and is stopped; the spring alone is left. -/
def springEvents : List Event :=
  [Event.initDone, .upload 0 ⟨.rumble 0x8000 0, 0, 0, 0⟩ false, .playback 0 1 0, .resume 0] ++
    tickEvents ++ [Event.rearm, .finish, .tfInitDone .ready, .playback 0 0 0, .report 0 0,
      .autocenterStore 30000, .fire, .check, .sample 0, .readAutocenter]

/-- The rumble plays again. -/
def textureEvents : List Event :=
  [.send .clear, .rearm, .finish, .playback 0 1 0, .fire, .check, .sample 0, .readAutocenter]

def springTick : Tick := ⟨15000, List.replicate tfNewSamples 0, false, false, 30000⟩

def textureTick : Tick := ⟨15000, List.replicate tfNewSamples 16384, true, true, 30000⟩

end Example

open Example in
/-- A texture starts over a spring, and the wheel is handed twice the force. -/
theorem texture_start_doubles_force : ∃ spring buzzing : State,
    (engine quarterKernel).Reachable spring ∧
      (engine quarterKernel).run spring textureEvents = some buzzing ∧
      (spring.callback = .summed springTick ∧ spring.tunables = halved ∧
        spring.HandsOver springTick .clear (centre + 7500)) ∧
      buzzing.callback = .summed textureTick ∧ buzzing.tunables = halved ∧
        buzzing.HandsOver textureTick .clear (centre + 15000) := by
  have reached : ((engine quarterKernel).run (State.start halved) springEvents).any (fun spring =>
      decide (spring.callback = .summed springTick ∧ spring.tunables = halved ∧
        spring.HandsOver springTick .clear (centre + 7500)) &&
      ((engine quarterKernel).run spring textureEvents).any fun buzzing =>
        decide (buzzing.callback = .summed textureTick ∧ buzzing.tunables = halved ∧
          buzzing.HandsOver textureTick .clear (centre + 15000))) = true := by decide
  rcases (Option.any_eq_true _ _).mp reached with ⟨spring, before, checked⟩
  rw [Bool.and_eq_true, decide_eq_true_eq] at checked
  rcases checked with ⟨plain, checked⟩
  rcases (Option.any_eq_true _ _).mp checked with ⟨buzzing, executed, streamed⟩
  rw [decide_eq_true_eq] at streamed
  exact ⟨spring, buzzing, System.Reachable.of_run _ _ ⟨halved, rfl⟩ before, executed, plain,
    streamed⟩

end TrueForce.Ffb
