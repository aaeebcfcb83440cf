import TrueForce.Foundation.Transition
import Mathlib.Data.Fin.VecNotation

/-!
# The accessories and their ports

The pedals, the RS Shifter & Handbrake and the RS H-Shifter answer on sub-device
indices that belong to the ports of the base.  The initial discovery sweeps the
candidate indices; `hidpp_dd_rescan_accessory` confirms what it believes present and
spends each pass on one candidate.  The answers of the sub-devices are arbitrary at
every query, so any accessory may be plugged, moved or removed in between.

A pass adopts a shifter without a look at the pedals, which the driver may still
believe on that port.  The enablement of the desktop shifter that follows an adoption
is left out.
-/

namespace TrueForce.Accessory

open TrueForce.Transition

def pedalDevCandidates : Fin 6 → ℕ := ![0x02, 0x03, 0x01, 0x04, 0x05, 0x06]

def pedalAxisCount : ℕ := 3

def shifterAxisCount : ℕ := 1

inductive Role where
  | pedals
  | shifterHandbrake
  | hShifter
  deriving DecidableEq, Repr

/-- The reply to a `ROOT.GetFeature`: the feature's index, a sub-device without it, or no answer. -/
inductive GetFeature where
  | found (idx : ℕ)
  | noEntry
  | failed
  deriving DecidableEq, Repr

def GetFeature.index : GetFeature → Option ℕ
  | .found idx => some idx
  | .noEntry => none
  | .failed => none

/-- What a candidate answers to the queries of one probe. -/
structure Probe where
  responseCurve : GetFeature
  axisCount : Option ℕ
  bandedAxis : GetFeature
  rsHShifter : GetFeature
  deviceMode : GetFeature
  name : String
  deriving DecidableEq, Repr

namespace Probe

def answered (probe : Probe) : Bool := probe.responseCurve != .failed

def isPedals (probe : Probe) : Bool :=
  probe.responseCurve.index.isSome && probe.axisCount == some pedalAxisCount

def isShifterHandbrake (probe : Probe) : Bool :=
  probe.responseCurve.index.isSome && probe.axisCount == some shifterAxisCount &&
    probe.bandedAxis.index.isSome

/-- What the candidate is classified as. -/
def classify (probe : Probe) : Option Role :=
  if !probe.answered then none
  else if probe.isPedals then some .pedals
  else if probe.isShifterHandbrake then some .shifterHandbrake
  else if probe.rsHShifter.index.isSome then some .hShifter
  else none

end Probe

structure Accessories where
  pedalDevIdx : Option ℕ
  idxPedalCurve : Option ℕ
  shifterDevIdx : Option ℕ
  idxShifterCurve : Option ℕ
  idxShifterBanded : Option ℕ
  idxShifterMode : Option ℕ
  hShifterDevIdx : Option ℕ
  idxHShifter : Option ℕ
  accessoryName : String
  accessoryScanCursor : Fin 6
  deriving DecidableEq, Repr

def hShifterName : String := "RS H-Shifter"

namespace Accessories

/-- Nothing is found yet. -/
def zero : Accessories where
  pedalDevIdx := none
  idxPedalCurve := none
  shifterDevIdx := none
  idxShifterCurve := none
  idxShifterBanded := none
  idxShifterMode := none
  hShifterDevIdx := none
  idxHShifter := none
  accessoryName := ""
  accessoryScanCursor := 0

def devIdx (accessories : Accessories) : Role → Option ℕ
  | .pedals => accessories.pedalDevIdx
  | .shifterHandbrake => accessories.shifterDevIdx
  | .hShifter => accessories.hShifterDevIdx

/-- `hidpp_dd_adopt_shifter_handbrake` and the publication of the index. -/
def adoptShifterHandbrake (accessories : Accessories) (cand : ℕ) (probe : Probe) : Accessories :=
  { accessories with
    idxShifterCurve := probe.responseCurve.index
    idxShifterBanded := probe.bandedAxis.index
    idxShifterMode := probe.deviceMode.index
    accessoryName := probe.name
    shifterDevIdx := some cand }

def adoptPedals (accessories : Accessories) (cand : ℕ) (probe : Probe) : Accessories :=
  { accessories with pedalDevIdx := some cand, idxPedalCurve := probe.responseCurve.index }

/-- The end of either probe, with `hidpp_dd_probe_h_shifter`. -/
def probeHShifter (accessories : Accessories) (cand : ℕ) (probe : Probe) : Accessories :=
  if accessories.hShifterDevIdx = none ∧ probe.rsHShifter.index.isSome then
    { accessories with
      idxHShifter := probe.rsHShifter.index
      accessoryName := if accessories.accessoryName = "" then hShifterName
        else accessories.accessoryName
      hShifterDevIdx := some cand }
  else accessories

/-- One candidate of the discovery loop. -/
def discoverCandidate (accessories : Accessories) (cand : ℕ) (probe : Probe) : Accessories :=
  if !probe.answered then accessories
  else if probe.isPedals then
    if accessories.pedalDevIdx = none then accessories.adoptPedals cand probe else accessories
  else if probe.isShifterHandbrake then
    if accessories.shifterDevIdx = none then accessories.adoptShifterHandbrake cand probe
    else accessories
  else accessories.probeHShifter cand probe

def allFound (accessories : Accessories) : Bool :=
  accessories.pedalDevIdx.isSome && accessories.shifterDevIdx.isSome &&
    accessories.hShifterDevIdx.isSome

/-- The discovery loop, with the candidates it probes. -/
def discoverFrom (probes : ℕ → Probe) : Accessories → List ℕ → Accessories × List ℕ
  | accessories, [] => (accessories, [])
  | accessories, cand :: cands =>
      if accessories.allFound then (accessories, [])
      else
        let (last, probed) :=
          discoverFrom probes (accessories.discoverCandidate cand (probes cand)) cands
        (last, cand :: probed)

/-- The accessory part of `hidpp_dd_discover_settings_features`. -/
def discover (probes : ℕ → Probe) : Accessories × List ℕ :=
  discoverFrom probes .zero (List.ofFn pedalDevCandidates)

def confirmShifter (accessories : Accessories) (present : Bool) : Accessories :=
  if accessories.shifterDevIdx ≠ none ∧ !present then
    { accessories with
      shifterDevIdx := none
      idxShifterCurve := none
      idxShifterBanded := none
      idxShifterMode := none
      accessoryName := if accessories.hShifterDevIdx ≠ none then hShifterName else "" }
  else accessories

def confirmHShifter (accessories : Accessories) (present : Bool) : Accessories :=
  if accessories.hShifterDevIdx ≠ none ∧ !present then
    { accessories with
      hShifterDevIdx := none
      idxHShifter := none
      accessoryName := if accessories.accessoryName = hShifterName then ""
        else accessories.accessoryName }
  else accessories

/-- The candidate of this pass, unless nothing is believed absent or its port is known. -/
def nextCandidate (accessories : Accessories) : Option ℕ :=
  let cand := pedalDevCandidates accessories.accessoryScanCursor
  if accessories.shifterDevIdx ≠ none ∧ accessories.hShifterDevIdx ≠ none then none
  else if some cand = accessories.shifterDevIdx ∨ some cand = accessories.hShifterDevIdx then none
  else some cand

def advanceCursor (accessories : Accessories) : Accessories :=
  if accessories.shifterDevIdx ≠ none ∧ accessories.hShifterDevIdx ≠ none then accessories
  else { accessories with accessoryScanCursor := accessories.accessoryScanCursor + 1 }

/-- What a rescan makes of its candidate. -/
def rescanCandidate (accessories : Accessories) (cand : ℕ) (probe : Probe) : Accessories :=
  if !probe.answered then accessories
  else if probe.isPedals then
    if accessories.pedalDevIdx = some cand then accessories else accessories.adoptPedals cand probe
  else if probe.isShifterHandbrake ∧ accessories.shifterDevIdx = none then
    accessories.adoptShifterHandbrake cand probe
  else accessories.probeHShifter cand probe

/-- The first half of `hidpp_dd_rescan_accessory`: what is believed present is asked again. -/
def confirm (accessories : Accessories) (shifterPresent hShifterPresent : Bool) : Accessories :=
  (accessories.confirmShifter shifterPresent).confirmHShifter hShifterPresent

/-- `hidpp_dd_rescan_accessory` behind the confirmations, with the candidate it probes. -/
def rescan (accessories : Accessories) (probe : Probe) : Accessories × Option ℕ :=
  match accessories.nextCandidate with
  | none => (accessories.advanceCursor, none)
  | some cand => (accessories.advanceCursor.rescanCandidate cand probe, some cand)

/-- No two roles are cached on one port. -/
def Distinct (accessories : Accessories) : Prop :=
  ∀ role other cand, accessories.devIdx role = some cand → accessories.devIdx other = some cand →
    role = other

/-- The role cached for a candidate that has answered is what the answer was classified as. -/
def Agrees (accessories : Accessories) (cand : ℕ) (probe : Probe) : Prop :=
  probe.answered = true → ∀ role, accessories.devIdx role = some cand →
    probe.classify = some role

end Accessories

inductive Event where
  | discover (probes : ℕ → Probe)
  | rescan (shifterPresent hShifterPresent : Bool) (probe : Probe)

structure State where
  accessories : Accessories
  /-- The candidates of the last pass with their answers. -/
  probed : List (ℕ × Probe)

namespace State

def step (state : State) : Event → Option State
  | .discover probes =>
      let (accessories, probed) := Accessories.discover probes
      some { accessories := accessories, probed := probed.map fun cand => (cand, probes cand) }
  | .rescan shifterPresent hShifterPresent probe =>
      let (accessories, probed) :=
        (state.accessories.confirm shifterPresent hShifterPresent).rescan probe
      some { accessories := accessories, probed := probed.toList.map fun cand => (cand, probe) }

def start : State := ⟨.zero, []⟩

/-- After a pass that has probed a candidate. -/
def RolesAgree (state : State) : Prop :=
  state.probed ≠ [] → state.accessories.Distinct ∧
    ∀ probed ∈ state.probed, state.accessories.Agrees probed.1 probed.2

/-- The candidate answers where the pedals are believed only as the pedals, and not as two
shifters at once. -/
def Corrects (state : State) : Event → Prop
  | .discover _ => True
  | .rescan shifterPresent hShifterPresent probe =>
      let accessories := state.accessories.confirm shifterPresent hShifterPresent
      ∀ cand, accessories.nextCandidate = some cand → probe.answered = true →
        (accessories.pedalDevIdx = some cand → probe.classify = some .pedals) ∧
          (probe.classify = some .shifterHandbrake → accessories.shifterDevIdx ≠ none →
            accessories.hShifterDevIdx = none → probe.rsHShifter.index = none)

end State

def accessorySystem : System State Event where
  initial state := state = State.start
  step := State.step

namespace Accessories

variable {accessories next : Accessories} {cand : ℕ} {probe : Probe}

theorem adoptPedals_others (other : Role) (different : other ≠ .pedals) :
    (accessories.adoptPedals cand probe).devIdx other = accessories.devIdx other := by
  cases other with
  | pedals => exact absurd rfl different
  | shifterHandbrake | hShifter => rfl

theorem adoptShifterHandbrake_others (other : Role) (different : other ≠ .shifterHandbrake) :
    (accessories.adoptShifterHandbrake cand probe).devIdx other = accessories.devIdx other := by
  cases other with
  | shifterHandbrake => exact absurd rfl different
  | pedals | hShifter => rfl

theorem probeHShifter_others (other : Role) (different : other ≠ .hShifter) :
    (accessories.probeHShifter cand probe).devIdx other = accessories.devIdx other := by
  simp only [probeHShifter]
  split
  · cases other with
    | hShifter => exact absurd rfl different
    | pedals | shifterHandbrake => rfl
  · rfl

theorem probeHShifter_cases (accessories : Accessories) (cand : ℕ) (probe : Probe) :
    ((accessories.hShifterDevIdx = none → probe.rsHShifter.index = none) ∧
        accessories.probeHShifter cand probe = accessories) ∨
      accessories.hShifterDevIdx = none ∧ probe.rsHShifter.index.isSome = true ∧
        (accessories.probeHShifter cand probe).devIdx .hShifter = some cand := by
  simp only [probeHShifter]
  split
  · rename_i found
    exact Or.inr ⟨found.1, found.2, rfl⟩
  · rename_i missing
    refine Or.inl ⟨?_, rfl⟩
    intro unknown
    simpa [unknown] using missing

/-- Every cached role is what its candidate was classified as. -/
def Classified (accessories : Accessories) (probes : ℕ → Probe) : Prop :=
  ∀ role cand, accessories.devIdx role = some cand → (probes cand).classify = some role

theorem Classified.distinct {probes : ℕ → Probe} (classified : accessories.Classified probes) :
    accessories.Distinct := by
  intro role other cand first second
  have same := (classified role cand first).symm.trans (classified other cand second)
  exact Option.some.inj same

theorem Classified.adopt {probes : ℕ → Probe} (classified : accessories.Classified probes)
    (role : Role) (own : next.devIdx role = some cand)
    (others : ∀ other, other ≠ role → next.devIdx other = accessories.devIdx other)
    (correct : (probes cand).classify = some role) : next.Classified probes := by
  intro other found held
  by_cases same : other = role
  · subst same
    rw [own] at held
    cases held
    exact correct
  · rw [others other same] at held
    exact classified other found held

theorem discoverCandidate_classified {probes : ℕ → Probe}
    (classified : accessories.Classified probes) :
    (accessories.discoverCandidate cand (probes cand)).Classified probes := by
  simp only [discoverCandidate]
  split
  · exact classified
  · rename_i answered
    split
    · rename_i pedals
      split
      · apply classified.adopt .pedals rfl adoptPedals_others
        simp [Probe.classify, answered, pedals]
      · exact classified
    · rename_i notPedals
      split
      · rename_i shifter
        split
        · apply classified.adopt .shifterHandbrake rfl adoptShifterHandbrake_others
          simp [Probe.classify, answered, notPedals, shifter]
        · exact classified
      · rename_i notShifter
        rcases accessories.probeHShifter_cases cand (probes cand) with ⟨_, same⟩ | ⟨_, found, own⟩
        · rw [same]
          exact classified
        · apply classified.adopt .hShifter own probeHShifter_others
          simp [Probe.classify, answered, notPedals, notShifter, found]

theorem discoverFrom_classified {probes : ℕ → Probe} (classified : accessories.Classified probes)
    (cands : List ℕ) : (discoverFrom probes accessories cands).1.Classified probes := by
  induction cands generalizing accessories with
  | nil => exact classified
  | cons cand cands ih =>
      simp only [discoverFrom]
      split
      · exact classified
      · exact ih (discoverCandidate_classified classified)

theorem discover_classified (probes : ℕ → Probe) : (discover probes).1.Classified probes := by
  apply discoverFrom_classified
  intro role cand held
  cases role <;> cases held

/-- Every role of `next` has its index from `accessories` or none. -/
theorem Distinct.of_devIdx (distinct : accessories.Distinct)
    (kept : ∀ role cand, next.devIdx role = some cand → accessories.devIdx role = some cand) :
    next.Distinct := by
  intro role other cand first second
  exact distinct role other cand (kept role cand first) (kept other cand second)

theorem confirm_distinct (distinct : accessories.Distinct) (shifterPresent hShifterPresent : Bool) :
    (accessories.confirm shifterPresent hShifterPresent).Distinct := by
  have shifter : (accessories.confirmShifter shifterPresent).Distinct := by
    simp only [confirmShifter]
    split
    · apply distinct.of_devIdx
      intro role cand held
      cases role with
      | shifterHandbrake => cases held
      | pedals | hShifter => exact held
    · exact distinct
  simp only [confirm, confirmHShifter]
  split
  · apply shifter.of_devIdx
    intro role cand held
    cases role with
    | hShifter => cases held
    | pedals | shifterHandbrake => exact held
  · exact shifter

theorem advanceCursor_devIdx (accessories : Accessories) (role : Role) :
    accessories.advanceCursor.devIdx role = accessories.devIdx role := by
  simp only [advanceCursor]
  split
  · rfl
  · cases role <;> rfl

/-- The port of the next candidate is no shifter's. -/
theorem nextCandidate_fresh (next : accessories.nextCandidate = some cand) :
    accessories.shifterDevIdx ≠ some cand ∧ accessories.hShifterDevIdx ≠ some cand := by
  simp only [nextCandidate] at next
  split at next
  · cases next
  · split at next
    · cases next
    · rename_i fresh
      cases next
      rw [not_or] at fresh
      exact ⟨fun same => fresh.1 same.symm, fun same => fresh.2 same.symm⟩

/-- A role moves to a port that no other role is cached on. -/
theorem adopt_iff (role : Role) (distinct : accessories.Distinct)
    (own : next.devIdx role = some cand)
    (others : ∀ other, other ≠ role → next.devIdx other = accessories.devIdx other) :
    (next.Distinct ∧ next.Agrees cand probe) ↔
      (∀ other, other ≠ role → accessories.devIdx other ≠ some cand) ∧
        (probe.answered = true → probe.classify = some role) := by
  constructor
  · rintro ⟨nextDistinct, agrees⟩
    refine ⟨?_, fun answered => agrees answered role own⟩
    intro other different held
    exact different (nextDistinct other role cand ((others other different).trans held) own)
  · rintro ⟨free, correct⟩
    have only (other : Role) (held : next.devIdx other = some cand) : other = role := by
      by_contra different
      exact free other different ((others other different).symm.trans held)
    constructor
    · intro first second found heldFirst heldSecond
      by_cases firstOwn : first = role
      · subst firstOwn
        rw [own] at heldFirst
        cases heldFirst
        exact (only second heldSecond).symm
      · by_cases secondOwn : second = role
        · subst secondOwn
          rw [own] at heldSecond
          cases heldSecond
          exact only first heldFirst
        · rw [others first firstOwn] at heldFirst
          rw [others second secondOwn] at heldSecond
          exact distinct first second found heldFirst heldSecond
    · intro answered other held
      rw [only other held]
      exact correct answered

section Candidate

variable (distinct : accessories.Distinct) (noShifter : accessories.shifterDevIdx ≠ some cand)
  (noHShifter : accessories.hShifterDevIdx ≠ some cand)

include noShifter noHShifter

/-- Only the pedals may be cached on a candidate. -/
theorem only_pedals (role : Role) (shifter : role ≠ .pedals) :
    accessories.devIdx role ≠ some cand := by
  cases role with
  | pedals => exact absurd rfl shifter
  | shifterHandbrake => exact noShifter
  | hShifter => exact noHShifter

theorem free_iff (role : Role) (shifter : role ≠ .pedals) :
    (∀ other, other ≠ role → accessories.devIdx other ≠ some cand) ↔
      accessories.pedalDevIdx ≠ some cand := by
  constructor
  · intro others
    exact others .pedals (Ne.symm shifter)
  · intro noPedals other _
    by_cases pedals : other = .pedals
    · subst pedals
      exact noPedals
    · exact only_pedals noShifter noHShifter other pedals

include distinct

theorem stays_iff : (accessories.Distinct ∧ accessories.Agrees cand probe) ↔
    (probe.answered = true → accessories.pedalDevIdx = some cand →
      probe.classify = some .pedals) := by
  rw [and_iff_right distinct]
  constructor
  · intro agrees answered
    exact agrees answered .pedals
  · intro agrees answered role held
    by_cases pedals : role = .pedals
    · subst pedals
      exact agrees answered held
    · exact absurd held (only_pedals noShifter noHShifter role pedals)

/-- A shifter that is adopted must not take the pedals' port. -/
theorem adopt_shifter_iff (role : Role) (shifter : role ≠ .pedals)
    (own : next.devIdx role = some cand)
    (others : ∀ other, other ≠ role → next.devIdx other = accessories.devIdx other) :
    (next.Distinct ∧ next.Agrees cand probe) ↔
      accessories.pedalDevIdx ≠ some cand ∧
        (probe.answered = true → probe.classify = some role) := by
  rw [adopt_iff role distinct own others, free_iff noShifter noHShifter role shifter]

/-- The end of the probe, for a candidate that is not the pedals. -/
theorem probeHShifter_iff (answered : probe.answered = true) (notPedals : ¬probe.isPedals = true)
    (notAdopted : probe.isShifterHandbrake = true → accessories.shifterDevIdx ≠ none) :
    ((accessories.probeHShifter cand probe).Distinct ∧
        (accessories.probeHShifter cand probe).Agrees cand probe) ↔
      (accessories.pedalDevIdx = some cand → probe.classify = some .pedals) ∧
        (probe.classify = some .shifterHandbrake → accessories.shifterDevIdx ≠ none →
          accessories.hShifterDevIdx = none → probe.rsHShifter.index = none) := by
  rcases accessories.probeHShifter_cases cand probe with ⟨harmless, same⟩ | ⟨unknown, found, own⟩
  · rw [same, stays_iff distinct noShifter noHShifter]
    constructor
    · intro stays
      exact ⟨stays answered, fun _ _ => harmless⟩
    · rintro ⟨stays, _⟩ _
      exact stays
  · rw [adopt_shifter_iff distinct noShifter noHShifter .hShifter (by simp) own
      probeHShifter_others]
    cases shifter : probe.isShifterHandbrake with
    | true =>
        have classified : probe.classify = some .shifterHandbrake := by
          simp [Probe.classify, answered, notPedals, shifter]
        have indexed : probe.rsHShifter.index ≠ none := Option.isSome_iff_ne_none.mp found
        simp [answered, classified, notAdopted shifter, unknown, indexed]
    | false =>
        have classified : probe.classify = some .hShifter := by
          simp [Probe.classify, answered, notPedals, shifter, found]
        simp [classified]

/-- A rescan of a candidate leaves the roles apart and true to its answer exactly where the answer
takes no port from the pedals and is not both shifters'. -/
theorem rescanCandidate_iff :
    ((accessories.rescanCandidate cand probe).Distinct ∧
        (accessories.rescanCandidate cand probe).Agrees cand probe) ↔
      (probe.answered = true →
        (accessories.pedalDevIdx = some cand → probe.classify = some .pedals) ∧
          (probe.classify = some .shifterHandbrake → accessories.shifterDevIdx ≠ none →
            accessories.hShifterDevIdx = none → probe.rsHShifter.index = none)) := by
  have stays := @stays_iff _ _ probe distinct noShifter noHShifter
  simp only [rescanCandidate]
  cases answered : probe.answered with
  | false => simpa [answered] using stays
  | true =>
      rw [answered] at stays
      simp only [Bool.not_true, Bool.false_eq_true, ↓reduceIte, true_implies]
      split
      · rename_i pedals
        have classified : probe.classify = some .pedals := by
          simp [Probe.classify, answered, pedals]
        split
        · simpa [classified] using stays
        · rw [adopt_iff .pedals distinct rfl adoptPedals_others]
          simpa [classified] using only_pedals noShifter noHShifter
      · rename_i notPedals
        split
        · rename_i shifter
          have classified : probe.classify = some .shifterHandbrake := by
            simp [Probe.classify, answered, notPedals, shifter.1]
          rw [adopt_shifter_iff distinct noShifter noHShifter .shifterHandbrake (by simp) rfl
            adoptShifterHandbrake_others]
          simp [classified, shifter.2]
        · rename_i notAdopted
          apply probeHShifter_iff distinct noShifter noHShifter answered notPedals
          intro shifter unknown
          exact notAdopted ⟨shifter, unknown⟩

end Candidate

end Accessories

namespace State

variable {state next : State} {event : Event}

/-- Of every pass the two descriptions agree. -/
theorem corrects_iff (distinct : state.accessories.Distinct) (event : Event) :
    state.Corrects event ↔ ∀ next, state.step event = some next → next.RolesAgree := by
  cases event with
  | discover probes =>
      have classified := Accessories.discover_classified probes
      simp only [Corrects, step, true_iff]
      rintro next stepped
      cases stepped
      intro _
      refine ⟨classified.distinct, ?_⟩
      intro probed member
      rcases List.mem_map.mp member with ⟨cand, _, rfl⟩
      intro _ role held
      exact classified role cand held
  | rescan shifterPresent hShifterPresent probe =>
      have confirmed := Accessories.confirm_distinct distinct shifterPresent hShifterPresent
      simp only [Corrects, step, Accessories.rescan]
      cases found : (state.accessories.confirm shifterPresent
          hShifterPresent).nextCandidate with
      | none =>
          simp only [Option.some.injEq, forall_eq', RolesAgree]
          simp
      | some cand =>
          have fresh := Accessories.nextCandidate_fresh found
          have advanced (role : Role) := Accessories.advanceCursor_devIdx
            (state.accessories.confirm shifterPresent hShifterPresent) role
          have moved : (state.accessories.confirm shifterPresent
              hShifterPresent).advanceCursor.Distinct := by
            apply confirmed.of_devIdx
            intro role cand held
            rwa [advanced role] at held
          have shifter := advanced .shifterHandbrake
          have hShifter := advanced .hShifter
          have pedals := advanced .pedals
          simp only [Accessories.devIdx] at shifter hShifter pedals
          have pass := @Accessories.rescanCandidate_iff _ _ probe moved (shifter.trans_ne fresh.1)
            (hShifter.trans_ne fresh.2)
          rw [shifter, hShifter, pedals] at pass
          simp only [Option.some.injEq, forall_eq']
          rw [← pass]
          simp [RolesAgree]

theorem step_distinct (distinct : state.accessories.Distinct) (corrects : state.Corrects event)
    (stepped : state.step event = some next) : next.accessories.Distinct := by
  have agrees := (corrects_iff distinct event).mp corrects next stepped
  by_cases probed : next.probed = []
  · cases event with
    | discover probes =>
        cases stepped
        exact (Accessories.discover_classified probes).distinct
    | rescan shifterPresent hShifterPresent probe =>
        have confirmed := Accessories.confirm_distinct distinct shifterPresent hShifterPresent
        simp only [step, Accessories.rescan] at stepped
        split at stepped
        · cases stepped
          apply confirmed.of_devIdx
          intro role cand held
          rwa [Accessories.advanceCursor_devIdx] at held
        · cases stepped
          simp at probed
  · exact (agrees probed).1

end State

/-- In every history, the roles are apart and true to the answers after each pass exactly if every
answer on a port where the pedals are believed is the pedals', and none is two shifters' at
once. -/
theorem roles_agree_iff (events : List Event) :
    accessorySystem.RunMeets State.Corrects State.start events ↔
      accessorySystem.RunMeets
        (fun state event => ∀ next, state.step event = some next → next.RolesAgree)
        State.start events := by
  apply @System.runMeets_congr _ _ _ _ _ fun state : State => state.accessories.Distinct
  · intro state event distinct
    exact State.corrects_iff distinct event
  · intro state event next distinct corrects stepped
    exact State.step_distinct distinct corrects stepped
  · intro role other cand held
    cases role <;> cases held

/-- The answers of the pedals, and of the RS Shifter & Handbrake. -/
def Probe.silent : Probe := ⟨.failed, none, .failed, .failed, .failed, ""⟩

def Probe.pedals : Probe := { Probe.silent with responseCurve := .found 10, axisCount := some 3 }

def Probe.shifter : Probe :=
  { Probe.silent with
    responseCurve := .found 10
    axisCount := some 1
    bandedAxis := .found 11
    name := "RS Shifter & Handbrake" }

/-- The pedals are found on the first port; the RS Shifter & Handbrake takes their place and is
adopted beside them. -/
theorem roles_share_port : ∃ state, accessorySystem.Reachable state ∧ ¬state.RolesAgree := by
  have reached : (accessorySystem.run State.start
      [.discover fun cand => if cand = 2 then .pedals else .silent, .rescan true true .shifter]).any
      (fun state => state.accessories.pedalDevIdx == some 2 &&
        state.accessories.shifterDevIdx == some 2 && !state.probed.isEmpty) = true := by
    decide
  rcases (Option.any_eq_true _ _).mp reached with ⟨state, executed, checked⟩
  simp only [Bool.and_eq_true, beq_iff_eq, Bool.not_eq_true', List.isEmpty_eq_false_iff] at checked
  rcases checked with ⟨⟨pedals, shifter⟩, probed⟩
  refine ⟨state, System.Reachable.of_run _ _ rfl executed, fun agree => ?_⟩
  have same := (agree probed).1 .pedals .shifterHandbrake 2 pedals shifter
  cases same

end TrueForce.Accessory
