import TrueForce.TfSim.BlockSize

/-!
# Block sizes and the whole mix

The layers are summed and mixed sample by sample, so what holds of each effect in two blocks
holds of the mixer, and by induction in any number of blocks.
-/

namespace TrueForce.TfSim.Haptics

open TrueForce.Sampled SampleArith

theorem foldl_zipWith_append {Item : Type} (items : List Item) (front back : Item → List ℝ)
    {count : ℕ} (lengths : ∀ item, (front item).length = count) (left right : List ℝ)
    (length : left.length = count) :
    (items.map fun item => front item ++ back item).foldl (List.zipWith (· + ·)) (left ++ right) =
      (items.map front).foldl (List.zipWith (· + ·)) left ++
        (items.map back).foldl (List.zipWith (· + ·)) right := by
  induction items generalizing left right with
  | nil => rfl
  | cons item items ih =>
      simp only [List.map_cons, List.foldl_cons]
      rw [List.zipWith_append (length.trans (lengths item).symm)]
      apply ih
      rw [List.length_zipWith, length, lengths, Nat.min_self]

theorem length_foldl_zipWith {Item : Type} (items : List Item) (layer : Item → List ℝ)
    {count : ℕ} (lengths : ∀ item, (layer item).length = count) (start : List ℝ)
    (length : start.length = count) :
    ((items.map layer).foldl (List.zipWith (· + ·)) start).length = count := by
  induction items generalizing start with
  | nil => exact length
  | cons item items ih =>
      simp only [List.map_cons, List.foldl_cons]
      apply ih
      rw [List.length_zipWith, length, lengths, Nat.min_self]

namespace Mixer

theorem sum_append {Item : Type} (items : List Item) (front back : Item → List ℝ)
    {first : ℕ} (second : ℕ) (lengths : ∀ item, (front item).length = first) :
    (sum (first + second) (items.map fun item => front item ++ back item) : List ℝ) =
      sum first (items.map front) ++ sum second (items.map back) := by
  simp only [sum, ← List.replicate_append_replicate]
  exact foldl_zipWith_append items front back lengths _ _ List.length_replicate

/-- The layer of the continuous effects, or of the others, in a block. -/
noncomputable def layer (mixer : Mixer ℝ) (tel : Telemetry ℝ) (count : ℕ) (continuous : Bool) :
    List ℝ :=
  sum count ((mixer.effects.filter (·.continuous = continuous)).map fun effect =>
    (effect.block mixer.gains tel count).2)

noncomputable def blockDuck (mixer : Mixer ℝ) (tel : Telemetry ℝ) (count : ℕ) : ℝ :=
  mixer.effects.foldl (fun duck effect => duck * (effect.update tel (blockMs count)).duck) 1

noncomputable def afterBlock (mixer : Mixer ℝ) (tel : Telemetry ℝ) (count : ℕ) : Mixer ℝ :=
  { mixer with effects := mixer.effects.map fun effect => (effect.block mixer.gains tel count).1 }

theorem render_eq (mixer : Mixer ℝ) (tel : Telemetry ℝ) (intensity : ℝ) {count : ℕ}
    (some : 0 < count) :
    mixer.render tel intensity count =
      (mixer.afterBlock tel count,
        List.zipWith (mixed (mixer.blockDuck tel count) (clamp intensity (lit 0) (lit 1)))
          (mixer.layer tel count true) (mixer.layer tel count false)) := by
  have one : (lit 1 : ℝ) = 1 := by simp
  simp only [render, if_neg some.ne', afterBlock, layer, blockDuck, List.filter_map, List.map_map,
    List.foldl_map, Function.comp_def, Effect.id_update, Effect.continuous_update, one]
  rfl

variable {mixer : Mixer ℝ} {tel : Telemetry ℝ} {first second count : ℕ}

def Steady (tel : Telemetry ℝ) (count : ℕ) (mixer : Mixer ℝ) : Prop :=
  ∀ effect ∈ mixer.effects, effect.Steady tel count

def DuckRests (tel : Telemetry ℝ) (mixer : Mixer ℝ) : Prop :=
  ∀ effect ∈ mixer.effects, effect.DuckRests tel

theorem afterBlock_add (steady : mixer.Steady tel (first + second)) (some : 0 < first)
    (more : 0 < second) (whole : samplesPerMs ∣ first) :
    mixer.afterBlock tel (first + second) = (mixer.afterBlock tel first).afterBlock tel second := by
  simp only [afterBlock, List.map_map]
  congr 1
  apply List.map_congr_left
  intro effect member
  rw [Effect.block_add some more whole (steady effect member)]
  rfl

theorem layer_add (steady : mixer.Steady tel (first + second)) (some : 0 < first)
    (more : 0 < second) (whole : samplesPerMs ∣ first) (continuous : Bool) :
    mixer.layer tel (first + second) continuous =
      mixer.layer tel first continuous ++ (mixer.afterBlock tel first).layer tel second continuous := by
  have kept (effect : Effect ℝ) :
      (effect.block mixer.gains tel first).1.continuous = effect.continuous := by
    simp [Effect.block]
  simp only [layer, afterBlock, List.filter_map, List.map_map, Function.comp_def, kept]
  have lengths (effect : Effect ℝ) : (effect.block mixer.gains tel first).2.length = first :=
    Effect.length_render _ _ _
  rw [← sum_append _ _ _ second lengths]
  congr 1
  apply List.map_congr_left
  intro effect member
  rw [Effect.block_add some more whole (steady effect (List.mem_of_mem_filter member))]

theorem length_layer (mixer : Mixer ℝ) (tel : Telemetry ℝ) (count : ℕ) (continuous : Bool) :
    (mixer.layer tel count continuous).length = count :=
  length_foldl_zipWith _ _ (fun _ => Effect.length_render _ _ _) _ List.length_replicate

theorem Steady.afterBlock (steady : mixer.Steady tel (first + second))
    (whole : samplesPerMs ∣ first) : (mixer.afterBlock tel first).Steady tel second := by
  intro effect member
  rcases List.mem_map.mp member with ⟨before, earlier, rfl⟩
  exact (steady before earlier).block whole

theorem DuckRests.afterBlock (rests : mixer.DuckRests tel) (some : 0 < count) :
    (mixer.afterBlock tel count).DuckRests tel := by
  intro effect member
  rcases List.mem_map.mp member with ⟨before, earlier, rfl⟩
  exact (Effect.duckRests_block (rests before earlier) some).1

/-- The duck of a mixer, as its effects stand. -/
noncomputable def duck (mixer : Mixer ℝ) : ℝ :=
  mixer.effects.foldl (fun duck effect => duck * effect.duck) 1

theorem blockDuck_of_rests (rests : mixer.DuckRests tel) (some : 0 < count) :
    mixer.blockDuck tel count = mixer.duck := by
  simp only [blockDuck, duck]
  apply List.foldl_ext
  intro product effect member
  rw [Effect.duck_update (rests effect member) some]

theorem duck_afterBlock (rests : mixer.DuckRests tel) (some : 0 < count) :
    (mixer.afterBlock tel count).duck = mixer.duck := by
  simp only [duck, Mixer.afterBlock, List.foldl_map]
  apply List.foldl_ext
  intro product effect member
  rw [(Effect.duckRests_block (rests effect member) some).2]

theorem render_add (steady : mixer.Steady tel (first + second)) (some : 0 < first)
    (more : 0 < second) (whole : samplesPerMs ∣ first) (intensity : ℝ) :
    (mixer.render tel intensity (first + second)).1 =
      ((mixer.render tel intensity first).1.render tel intensity second).1 ∧
    (mixer.DuckRests tel → (mixer.render tel intensity (first + second)).2 =
      (mixer.render tel intensity first).2 ++
        ((mixer.render tel intensity first).1.render tel intensity second).2) := by
  have total := Nat.add_pos_left some second
  rw [render_eq _ _ _ total, render_eq _ _ _ some, render_eq _ _ _ more]
  refine ⟨afterBlock_add steady some more whole, ?_⟩
  intro rests
  simp only [layer_add steady some more whole]
  rw [blockDuck_of_rests rests total, blockDuck_of_rests rests some,
    blockDuck_of_rests (rests.afterBlock some) more, duck_afterBlock rests some]
  apply List.zipWith_append
  rw [length_layer, length_layer]

/-- Blocks rendered one after another from the same telemetry. -/
noncomputable def renderBlocks (tel : Telemetry ℝ) (intensity : ℝ) :
    Mixer ℝ → List ℕ → Mixer ℝ × List ℝ
  | mixer, [] => (mixer, [])
  | mixer, count :: blocks =>
      let rendered := mixer.render tel intensity count
      let rest := renderBlocks tel intensity rendered.1 blocks
      (rest.1, rendered.2 ++ rest.2)

theorem renderBlocks_eq (intensity : ℝ) (blocks : List ℕ)
    (whole : ∀ count ∈ blocks, 0 < count ∧ samplesPerMs ∣ count)
    (steady : mixer.Steady tel blocks.sum) :
    (renderBlocks tel intensity mixer blocks).1 = (mixer.render tel intensity blocks.sum).1 ∧
    (mixer.DuckRests tel → (renderBlocks tel intensity mixer blocks).2 =
      (mixer.render tel intensity blocks.sum).2) := by
  induction blocks generalizing mixer with
  | nil => exact ⟨rfl, fun _ => rfl⟩
  | cons count blocks ih =>
      rcases whole count List.mem_cons_self with ⟨some, divides⟩
      have later : ∀ count ∈ blocks, 0 < count ∧ samplesPerMs ∣ count :=
        fun count member => whole count (List.mem_cons_of_mem _ member)
      simp only [renderBlocks, List.sum_cons] at steady ⊢
      cases blocks with
      | nil => simp [renderBlocks]
      | cons next blocks =>
          have more : 0 < (next :: blocks).sum := by
            have positive := (later next List.mem_cons_self).1
            simp only [List.sum_cons]
            omega
          have after : (mixer.render tel intensity count).1 = mixer.afterBlock tel count := by
            rw [render_eq _ _ _ some]
          have rest : (mixer.afterBlock tel count).Steady tel (next :: blocks).sum :=
            steady.afterBlock divides
          rcases ih later rest with ⟨state, output⟩
          rcases render_add steady some more divides intensity with ⟨state', output'⟩
          rw [after] at state' output' ⊢
          refine ⟨state.trans state'.symm, ?_⟩
          intro rests
          rw [output (rests.afterBlock some), output' rests]

/-- What a mixer is given for a block. -/
structure Frame where
  tel : Telemetry ℝ
  intensity : ℝ
  count : ℕ

noncomputable def afterFrames (mixer : Mixer ℝ) (frames : List Frame) : Mixer ℝ :=
  frames.foldl (fun mixer frame => (mixer.render frame.tel frame.intensity frame.count).1) mixer

/-- The redline of the last telemetry that a mixer looked at. -/
noncomputable def lastRedline (frames : List Frame) : Option ℝ :=
  frames.foldl (fun last frame => if frame.count = 0 then last else some frame.tel.maxRpm) none

/-- Some frames into the life of a mixer, the last of them with a given redline. -/
def Reached (mixer : Mixer ℝ) (redline : ℝ) : Prop :=
  ∃ cylinders pitchScale gains frames, lastRedline frames = some redline ∧
    (mixer = (new cylinders pitchScale gains).afterFrames frames ∨
      mixer = (engineOnly cylinders pitchScale gains).afterFrames frames)

/-- The rev limiters of a mixer remember its last redline. -/
def Told (redline : Option ℝ) (mixer : Mixer ℝ) : Prop :=
  ∀ limiter, .revLimiter limiter ∈ mixer.effects →
    (∀ last ∈ redline, limiter.lastMaxRpm = last) ∧ limiter.Counted

theorem Told.render {redline : Option ℝ} (told : mixer.Told redline) (frame : Frame) :
    (mixer.render frame.tel frame.intensity frame.count).1.Told
      (if frame.count = 0 then redline else some frame.tel.maxRpm) := by
  by_cases none : frame.count = 0
  · rw [if_pos none, none]
    exact told
  · rw [if_neg none, render_eq _ _ _ (Nat.pos_of_ne_zero none)]
    intro limiter member
    rcases List.mem_map.mp member with ⟨before, earlier, same⟩
    cases before with
    | revLimiter previous =>
        cases same
        refine ⟨?_, rfl, ?_⟩
        · intro last agrees
          cases agrees
          rfl
        · simp only [RevLimiter.update, RevLimiter.render]
          split
          · exact Nat.min_le_right _ _
          · exact Nat.zero_le _
    | _ => cases same

theorem Told.afterFrames {redline : Option ℝ} (told : mixer.Told redline) (frames : List Frame) :
    (mixer.afterFrames frames).Told
      (frames.foldl (fun last frame => if frame.count = 0 then last else some frame.tel.maxRpm)
        redline) := by
  induction frames generalizing mixer redline with
  | nil => exact told
  | cons frame frames ih => exact ih (told.render frame)

theorem told_new (cylinders : UInt8) (pitchScale : ℝ) (gains : EffectGains) :
    (new cylinders pitchScale gains).Told none := by
  intro limiter member
  simp only [new, List.mem_cons, List.not_mem_nil, or_false, reduceCtorEq, false_or,
    Effect.revLimiter.injEq] at member
  subst member
  exact ⟨by simp, rfl, Nat.zero_le _⟩

theorem told_engineOnly (cylinders : UInt8) (pitchScale : ℝ) (gains : EffectGains) :
    (engineOnly cylinders pitchScale gains).Told none := by
  intro limiter member
  simp [engineOnly] at member

/-- The limiters of a mixer, where there are any. -/
def Settled (tel : Telemetry ℝ) (mixer : Mixer ℝ) : Prop :=
  ∀ effect ∈ mixer.effects, effect.Settled tel

theorem Reached.settled (reached : mixer.Reached tel.maxRpm) : mixer.Settled tel := by
  have told : mixer.Told (some tel.maxRpm) := by
    rcases reached with ⟨cylinders, pitchScale, gains, frames, redline, rfl | rfl⟩
    · rw [← redline]
      exact (told_new cylinders pitchScale gains).afterFrames frames
    · rw [← redline]
      exact (told_engineOnly cylinders pitchScale gains).afterFrames frames
  intro effect member
  cases effect with
  | revLimiter limiter => exact ⟨(told limiter member).1 _ rfl, (told limiter member).2⟩
  | _ => trivial

/-- The flags of the effects that have one. -/
def engaged (mixer : Mixer ℝ) : List (Option Bool) := mixer.effects.map Effect.engaged

theorem engaged_afterBlock (settled : mixer.Settled tel) (count : ℕ) :
    (mixer.afterBlock tel count).engaged =
      mixer.effects.map (Effect.engagedAfter tel count) := by
  simp only [engaged, Mixer.afterBlock, List.map_map]
  apply List.map_congr_left
  intro effect member
  exact (Effect.settled_block (settled effect member) count).2

theorem engaged_below (below : RevLimiter.atLimit tel = false) (count : ℕ) :
    (mixer.afterBlock tel count).engaged = mixer.engaged.map (Option.map fun _ => false) := by
  simp only [engaged, Mixer.afterBlock, List.map_map]
  apply List.map_congr_left
  intro effect member
  exact Effect.engaged_below below effect count

theorem Settled.afterBlock (settled : mixer.Settled tel) (count : ℕ) :
    (mixer.afterBlock tel count).Settled tel := by
  intro effect member
  rcases List.mem_map.mp member with ⟨before, earlier, rfl⟩
  exact (Effect.settled_block (settled before earlier) count).1

theorem engaged_renderBlocks (intensity : ℝ) {count : ℕ} (blocks : List ℕ)
    (whole : ∀ length ∈ count :: blocks, 0 < length ∧ samplesPerMs ∣ length)
    (settled : mixer.Settled tel) :
    (renderBlocks tel intensity mixer (count :: blocks)).1.engaged =
      mixer.effects.map (Effect.engagedAfter tel (count :: blocks).sum) := by
  rcases whole count List.mem_cons_self with ⟨some, divides⟩
  induction blocks generalizing mixer count with
  | nil =>
      simp only [renderBlocks, render_eq _ _ _ some, List.sum_cons, List.sum_nil, Nat.add_zero]
      exact engaged_afterBlock settled count
  | cons next blocks ih =>
      have later : ∀ length ∈ next :: blocks, 0 < length ∧ samplesPerMs ∣ length :=
        fun length member => whole length (List.mem_cons_of_mem _ member)
      rcases later next List.mem_cons_self with ⟨more, nextDivides⟩
      have rest := ih later (settled.afterBlock count) more nextDivides
      have blocksEq : (renderBlocks tel intensity mixer (count :: next :: blocks)).1 =
          (renderBlocks tel intensity (mixer.afterBlock tel count) (next :: blocks)).1 := by
        rw [renderBlocks, render_eq _ _ _ some]
      rw [blocksEq, rest, List.sum_cons]
      simp only [Mixer.afterBlock, List.map_map]
      apply List.map_congr_left
      intro effect member
      exact Effect.engagedAfter_block (settled effect member) divides

/-- The limiter's flag does not depend on the blocks; where it ends as it began, the effects do
not either, nor does the output once the duck is at rest. -/
theorem block_size_law (mixer : Mixer ℝ) (tel : Telemetry ℝ) (intensity : ℝ) (blocks : List ℕ) :
    (mixer.Reached tel.maxRpm → (∀ count ∈ blocks, 0 < count ∧ samplesPerMs ∣ count) →
      (renderBlocks tel intensity mixer blocks).1.engaged =
        (mixer.render tel intensity blocks.sum).1.engaged) ∧
    (mixer.Reached tel.maxRpm → (∀ count ∈ blocks, 0 < count ∧ samplesPerMs ∣ count) →
      (mixer.render tel intensity blocks.sum).1.engaged = mixer.engaged →
      (renderBlocks tel intensity mixer blocks).1 = (mixer.render tel intensity blocks.sum).1 ∧
      (mixer.DuckRests tel → (renderBlocks tel intensity mixer blocks).2 =
        (mixer.render tel intensity blocks.sum).2)) := by
  cases blocks with
  | nil => exact ⟨fun _ _ => rfl, fun _ _ _ => ⟨rfl, fun _ => rfl⟩⟩
  | cons count blocks =>
      have total (whole : ∀ length ∈ count :: blocks, 0 < length ∧ samplesPerMs ∣ length) :
          0 < (count :: blocks).sum := by
        have some := (whole count List.mem_cons_self).1
        simp only [List.sum_cons]
        omega
      constructor
      · intro reached whole
        rw [engaged_renderBlocks intensity blocks whole reached.settled,
          render_eq _ _ _ (total whole), engaged_afterBlock reached.settled]
      · intro reached whole ends
        apply renderBlocks_eq intensity _ whole
        rw [render_eq _ _ _ (total whole), engaged_afterBlock reached.settled] at ends
        intro effect member
        exact ⟨reached.settled effect member, List.map_inj_left.mp ends effect member⟩

theorem duckRests_new (cylinders : UInt8) (pitchScale : ℝ) (gains : EffectGains)
    (landed : tel.airborne = false) : (new cylinders pitchScale gains).DuckRests tel := by
  intro effect member
  simp only [new, List.mem_cons, List.not_mem_nil, or_false] at member
  rcases member with rfl | rfl | rfl | rfl | rfl | rfl | rfl | rfl | rfl | rfl
  all_goals simp [Effect.DuckRests, Airborne.new, Airborne.target, landed]

/-- An engine that idles on the road. -/
noncomputable def idling : Telemetry ℝ where
  rpm := 900
  maxRpm := 8000
  throttle := 0
  brake := 0
  wheelSlip := 0
  speed := 0
  surfaceRoughness := 0
  impactG := 0
  gear := 0
  pitLimiter := false
  absActive := false
  tractionControl := false
  airborne := false
  drsActive := false

theorem atLimit_idling : RevLimiter.atLimit idling = false := by
  simp [RevLimiter.atLimit, idling]
  norm_num

/-- A mixer after its first millisecond. -/
noncomputable def idlingMixer : Mixer ℝ := (new 4 1 default).afterBlock idling 4

theorem reached_idlingMixer : idlingMixer.Reached idling.maxRpm := by
  refine ⟨4, 1, default, [⟨idling, 1, 4⟩], rfl, .inl ?_⟩
  simp only [idlingMixer, afterFrames, List.foldl_cons, List.foldl_nil]
  rw [render_eq _ _ _ (by decide : 0 < 4)]

theorem block_size_law_idling :
    renderBlocks idling 1 idlingMixer [4, 8] = idlingMixer.render idling 1 12 := by
  have landed : idlingMixer.DuckRests idling :=
    (duckRests_new 4 1 default rfl).afterBlock (by decide)
  have ends : (idlingMixer.render idling 1 12).1.engaged = idlingMixer.engaged := by
    rw [render_eq _ _ _ (by decide : 0 < 12), engaged_below atLimit_idling, idlingMixer,
      engaged_below atLimit_idling, List.map_map]
    apply List.map_congr_left
    intro flag member
    cases flag <;> rfl
  have law := (block_size_law idlingMixer idling 1 [4, 8]).2 reached_idlingMixer (by decide) ends
  apply Prod.ext
  · exact law.1
  · exact law.2 landed

end Mixer

end TrueForce.TfSim.Haptics
