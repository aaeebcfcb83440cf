import TrueForce.Onboard.Editor

/-!
# Restoring an onboard slot

A revert restores the slot as far as the snapshot is true to it, and three
things can spoil that:

* a snapshot read shows the cache, which may still describe another slot, and
  shows it rounded to the attribute's own scale;
* the auto toggle of the filter sends the cached level along, and a refresh may
  have put an old level there in the meantime;
* effect 5 goes out as the effect of the active light slot, which a write of
  another effect has moved.

In every run whose steps stay clear of these, a revert that reports no error
leaves every value of the slot as `begin` found it.  The editor may even lose
the slot while it is being opened, when a late refresh makes the mode write
select another one: then nothing is ever written to the slot.
-/

namespace TrueForce.Onboard

open TrueForce.CInt TrueForce.Settings TrueForce.Transition

/-- What a write of the value puts in the slot. -/
def Setting.stores (setting : Setting) (value : Value) : Option ℕ :=
  match setting.kind.format value with
  | .ok (.number number) => some (setting.wire number)
  | _ => none

namespace State

/-- Writing back what the attribute shows would store what the slot holds. -/
def ShowsSlot (state : State) (setting : Setting) : Prop :=
  match state.cache.read setting with
  | .ok value => setting.stores value = some ((state.slots state.active).editable setting)
  | .error _ => False

instance (state : State) (setting : Setting) : Decidable (state.ShowsSlot setting) :=
  match read : state.cache.read setting with
  | .ok value =>
      decidable_of_iff (setting.stores value = some ((state.slots state.active).editable setting))
        (by simp only [ShowsSlot, read])
  | .error _ => isFalse (by simp only [ShowsSlot, read, not_false_eq_true])

/-- The operation, on the editor's own slot, is not a snapshot read that shows something other than
the slot's value, nor a write of a revert that the cache distorts. -/
def KeepsTrue (state : State) : Operation → Prop
  | .snapshot setting => state.ShowsSlot setting
  | .write .ffbFilterAuto _ => state.editor.call = .revert →
      state.cache.ffbFilter = (state.slots state.active).filterLevel
  | .write .ledEffect value => state.editor.call = .revert →
      Setting.stores .ledEffect value = some 5 → state.cache.ledActiveSlot = 0
  | _ => True

instance (state : State) : DecidablePred state.KeepsTrue
  | .snapshot setting => inferInstanceAs (Decidable (state.ShowsSlot setting))
  | .write .ffbFilterAuto _ => inferInstanceAs (Decidable (_ → _))
  | .write .ledEffect _ => inferInstanceAs (Decidable (_ → _ → _))
  | .write .strength _ | .write .ffbFilter _ | .write .damping _ | .write .trueforce _
  | .write .range _ | .write .brakeForce _ | .write .ledBrightness _ | .selectProfile _ _
  | .cacheProfile _ | .queueRefresh | .verifyStillActive | .enterOnboardMode | .keep _ _ =>
      isTrue trivial

/-- A step of the editor on its own slot keeps the snapshot true to the slot. -/
def KeepsSnapshotTrue (state : State) : Event → Prop
  | .editorStep _ => state.active = state.editor.slot →
      ∀ operation ∈ state.editor.script.head?, state.KeepsTrue operation
  | _ => True

instance (state : State) : DecidablePred state.KeepsSnapshotTrue
  | .editorStep _ => inferInstanceAs (Decidable (_ → _))
  | .begin _ | .set _ _ | .revert | .refreshStart | .refreshStep _ => isTrue trivial

/-- A revert has run to its end and reported no error. -/
def Reverted (state : State) : Prop :=
  state.editor.call = .revert ∧ state.editor.script = [] ∧ state.editor.aborted = false ∧
    state.editor.errors = []

instance (state : State) : Decidable state.Reverted :=
  inferInstanceAs (Decidable (_ ∧ _ ∧ _ ∧ _))

/-- After such a revert every value stored in the slot is the one it held before `begin`. -/
def RevertRestores (state : State) : Prop :=
  state.Reverted → ∀ setting, (state.slots state.editor.slot).editable setting =
    state.editor.original.editable setting

end State

theorem Slot.set_editable_self (slot : Slot) (cache : Cache) {setting : Setting} {value : ℕ}
    (toggle : setting = .ffbFilterAuto → value ≤ 1)
    (effect : setting = .ledEffect → value = 5 → cache.ledActiveSlot = 0) :
    (slot.set cache setting value).editable setting = value := by
  cases setting with
  | strength | ffbFilter | damping | trueforce | range | brakeForce | ledBrightness => rfl
  | ffbFilterAuto =>
      have bound := toggle rfl
      rcases Nat.le_one_iff_eq_zero_or_eq_one.mp bound with rfl | rfl
      · simp [Slot.set, Slot.editable]
      · have bit : (0x04).testBit 2 = true := by decide
        simp [Slot.set, Slot.editable, bit]
  | ledEffect =>
      simp only [Slot.set, Slot.editable]
      split
      · have first := effect rfl ‹_›
        omega
      · rfl

theorem Slot.set_editable_other (slot : Slot) (cache : Cache) {setting other : Setting} (value : ℕ)
    (different : other ≠ setting) (toggle : ¬ (setting = .ffbFilter ∧ other = .ffbFilterAuto))
    (level : setting = .ffbFilterAuto → other = .ffbFilter →
      cache.ffbFilter = slot.filterLevel) :
    (slot.set cache setting value).editable other = slot.editable other := by
  cases setting <;> cases other <;> first
    | exact absurd rfl different
    | exact absurd ⟨rfl, rfl⟩ toggle
    | exact level rfl rfl
    | rfl

theorem Setting.wire_toggle (number : ℤ) : Setting.wire number .ffbFilterAuto ≤ 1 := by
  simp only [Setting.wire]
  split <;> decide

theorem checkWrite_ok {state : State} {setting : Setting} {value : Value} {wire : ℕ}
    (checked : state.checkWrite setting value = .ok wire) :
    setting ∈ editable state.model ∧ setting.stores value = some wire ∧
      (setting = .ffbFilterAuto → wire ≤ 1) := by
  simp only [State.checkWrite] at checked
  split at checked
  · cases checked
  · rename_i exposed
    refine ⟨not_not.mp exposed, ?_⟩
    cases valid : setting.kind.validate value with
    | error error =>
        rw [valid] at checked
        cases checked
    | ok passed =>
        rw [valid] at checked
        cases formatted : setting.kind.format value with
        | error error =>
            rw [formatted] at checked
            cases checked
        | ok raw =>
            rw [formatted] at checked
            simp only [bind, Except.bind] at checked
            split at checked
            · cases checked
            · cases raw with
              | number number =>
                  cases checked
                  refine ⟨by simp [Setting.stores, formatted], ?_⟩
                  rintro rfl
                  exact Setting.wire_toggle number
              | numbers | reset | points | pointsLoaded => cases checked

def Operation.Prepares : Operation → Prop
  | .selectProfile _ _ | .cacheProfile _ | .queueRefresh | .verifyStillActive
  | .enterOnboardMode => True
  | .snapshot _ | .write _ _ | .keep _ _ => False

def Operation.Writes : Operation → Prop
  | .verifyStillActive | .write _ _ | .keep _ _ => True
  | _ => False

def Operation.Silent : Operation → Prop
  | .write _ _ => False
  | _ => True

/-- The filter's level is written in front of the auto toggle, which it overwrites. -/
def filterFirst : List Setting → Bool
  | [] => true
  | .ffbFilter :: rest => .ffbFilterAuto ∈ rest && filterFirst rest
  | _ :: rest => filterFirst rest

theorem filterFirst_tail {setting : Setting} {rest : List Setting}
    (ordered : filterFirst (setting :: rest) = true) : filterFirst rest = true := by
  cases setting with
  | ffbFilter => exact (Bool.and_eq_true_iff.mp ordered).2
  | strength | ffbFilterAuto | damping | trueforce | range | brakeForce | ledEffect
  | ledBrightness => exact ordered

theorem filterFirst_head {rest : List Setting}
    (ordered : filterFirst (.ffbFilter :: rest) = true) : Setting.ffbFilterAuto ∈ rest := by
  simpa using (Bool.and_eq_true_iff.mp ordered).1

section Invariant

variable (model : Model) (slots : ℕ → Slot) (active : ℕ) (editor : Editor)

/-- The slot still holds what `begin` found for the setting. -/
def Restored (setting : Setting) : Prop :=
  (slots editor.slot).editable setting = editor.original.editable setting

/-- `begin` prepares first and then reads one setting after the other. -/
def Beginning : Prop :=
  ∃ front reads, editor.script = front ++ reads.map .snapshot ∧
    (∀ operation ∈ front, operation.Prepares) ∧
    (front ≠ [] → editor.snapshot = [] ∧ reads = editable model) ∧
    (active = editor.slot → editor.snapshot.map Prod.fst ++ reads = editable model)

/-- `revert` has restored what it is not still going to write. -/
def Reverting : Prop :=
  ∃ (front : List Operation) (entries : List (Setting × Value)),
    editor.script = front ++ entries.map (fun entry => .write entry.1 entry.2) ∧
    (∀ operation ∈ front, operation.Silent) ∧ (∀ entry ∈ entries, entry ∈ editor.snapshot) ∧
    filterFirst (entries.map Prod.fst) = true ∧
    (editor.aborted = false → editor.errors = [] →
      ∀ setting ∉ entries.map Prod.fst, Restored slots editor setting)

/-- What the guarded runs keep, about the slots, the active one and the editor alone: refresh steps
do not touch it. -/
structure Invariant : Prop where
  idle : editor.call = .none → editor.script = []
  closed : editor.call = .begin → editor.aborted = true → editor.script = []
  beginning : editor.call = .begin → editor.aborted = false → Beginning model active editor
  writing : editor.call = .set ∨ editor.call = .revert →
    ∀ operation ∈ editor.script, operation.Writes
  collected : editor.call = .set ∨ editor.call = .revert → active = editor.slot →
    editor.snapshot.map Prod.fst = editable model
  reverting : editor.call = .revert → active = editor.slot → Reverting slots editor
  faithful : active = editor.slot → ∀ entry ∈ editor.snapshot,
    entry.1.stores entry.2 = some (editor.original.editable entry.1)
  hidden : editor.call ≠ .none → ∀ setting ∉ editable model, Restored slots editor setting
  untouched : editor.call = .begin ∨ editor.call ≠ .none ∧ active ≠ editor.slot →
    ∀ setting, Restored slots editor setting

end Invariant

abbrev State.Invariant (state : State) : Prop :=
  Onboard.Invariant state.model state.slots state.active state.editor

theorem State.Invariant.restores {state : State} (invariant : state.Invariant) :
    state.RevertRestores := by
  rintro ⟨called, finished, completed, clean⟩ setting
  by_cases own : state.active = state.editor.slot
  · rcases invariant.reverting called own with ⟨front, entries, script, _, _, _, restored⟩
    rw [finished] at script
    have none : entries = [] := by
      have empty := (List.append_eq_nil_iff.mp script.symm).2
      simpa using empty
    exact restored completed clean setting (by simp [none])
  · have opened : state.editor.call ≠ .none := by
      rw [called]
      nofun
    exact invariant.untouched (.inr ⟨opened, own⟩) setting

section Begin

variable {state : State} {answered : Bool} {operation : Operation} {rest : List Operation}

/-- In `begin` the editor's fields other than its script and snapshot stay, and so do the slots. -/
theorem Invariant.in_begin {model : Model} {slots : ℕ → Slot} {active : ℕ} {editor next : Editor}
    {nextActive : ℕ} (invariant : Invariant model slots active editor)
    (called : editor.call = .begin) (sameCall : next.call = .begin)
    (sameSlot : next.slot = editor.slot) (sameOriginal : next.original = editor.original)
    (closed : next.aborted = true → next.script = [])
    (beginning : next.aborted = false → Beginning model nextActive next)
    (faithful : nextActive = next.slot → ∀ entry ∈ next.snapshot,
      entry.1.stores entry.2 = some (next.original.editable entry.1)) :
    Invariant model slots nextActive next := by
  have restored : ∀ setting, Restored slots next setting := by
    intro setting
    rw [Restored, sameSlot, sameOriginal]
    exact invariant.untouched (.inl called) setting
  exact
    { idle := by
        rw [sameCall]
        nofun
      closed := fun _ => closed
      beginning := fun _ => beginning
      writing := by
        rw [sameCall]
        nofun
      collected := by
        rw [sameCall]
        nofun
      reverting := by
        rw [sameCall]
        nofun
      faithful := faithful
      hidden := fun _ setting _ => restored setting
      untouched := fun _ => restored }

/-- A preparing step leaves preparing steps and an empty snapshot, or gives up. -/
theorem prepare_invariant (invariant : state.Invariant) (called : state.editor.call = .begin)
    {front : List Operation} {reads : List Setting} (prepares : operation.Prepares)
    (rests : rest = front ++ reads.map .snapshot)
    (others : ∀ other ∈ front, other.Prepares)
    (empty : state.editor.snapshot = []) (all : reads = editable state.model)
    (running : state.editor.aborted = false) :
    (state.execute answered rest operation).Invariant := by
  have proceeds : ∀ (active : ℕ) (front : List Operation),
      (∀ other ∈ front, other.Prepares) →
      Invariant state.model state.slots active
        { state.editor with script := front ++ reads.map .snapshot } := by
    intro active front prepared
    refine invariant.in_begin called called rfl rfl ?_ ?_ ?_
    · intro aborted
      rw [running] at aborted
      cases aborted
    · intro _
      refine ⟨front, reads, rfl, prepared, fun _ => ⟨empty, all⟩, ?_⟩
      intro _
      simp [empty, all]
    · intro _ entry member
      rw [empty] at member
      cases member
  have aborts : state.abort.Invariant := by
    refine invariant.in_begin called called rfl rfl (fun _ => rfl) ?_ ?_
    · nofun
    · intro _ entry member
      have none : entry ∈ state.editor.snapshot := member
      rw [empty] at none
      cases none
  subst rests
  cases operation with
  | snapshot | write | keep => cases prepares
  | selectProfile profile required =>
      simp only [State.execute]
      split
      · apply proceeds profile (.cacheProfile profile :: .queueRefresh :: front)
        intro other member
        rcases List.mem_cons.mp member with rfl | member
        · trivial
        · rcases List.mem_cons.mp member with rfl | member
          · trivial
          · exact others other member
      · split
        · exact aborts
        · exact proceeds state.active front others
  | cacheProfile | queueRefresh => exact proceeds state.active front others
  | verifyStillActive =>
      simp only [State.execute]
      split
      · exact proceeds state.active front others
      · exact aborts
  | enterOnboardMode =>
      refine proceeds state.active (.selectProfile _ false :: front) ?_
      intro other member
      rcases List.mem_cons.mp member with rfl | member
      · trivial
      · exact others other member

/-- A snapshot read records a value that would restore what the slot holds. -/
theorem snapshot_invariant (invariant : state.Invariant) (called : state.editor.call = .begin)
    {setting : Setting} {reads : List Setting}
    (collecting : state.active = state.editor.slot →
      state.editor.snapshot.map Prod.fst ++ setting :: reads = editable state.model)
    (running : state.editor.aborted = false)
    (shows : state.active = state.editor.slot → state.ShowsSlot setting) :
    (state.execute answered (reads.map .snapshot) (.snapshot setting)).Invariant := by
  simp only [State.execute]
  split
  · rename_i error failed
    refine invariant.in_begin called called rfl rfl ?_ ?_ invariant.faithful
    · intro aborted
      have stays : state.editor.aborted = true := aborted
      rw [running] at stays
      cases stays
    · intro _
      refine ⟨[], reads, rfl, by nofun, fun none => absurd rfl none, ?_⟩
      intro own
      have shown := shows own
      simp only [State.ShowsSlot, failed] at shown
  · rename_i value read
    refine invariant.in_begin called called rfl rfl ?_ ?_ ?_
    · intro aborted
      have stays : state.editor.aborted = true := aborted
      rw [running] at stays
      cases stays
    · intro _
      refine ⟨[], reads, rfl, by nofun, fun none => absurd rfl none, ?_⟩
      intro own
      rw [← collecting own]
      simp
    · intro own entry member
      rcases List.mem_append.mp member with member | member
      · exact invariant.faithful own entry member
      · rw [List.mem_singleton.mp member]
        have shown := shows own
        have same : (state.slots state.active).editable setting =
            state.editor.original.editable setting := by
          rw [show state.active = state.editor.slot from own]
          exact invariant.untouched (.inl called) setting
        simp only [State.ShowsSlot, read] at shown
        rw [shown, same]

end Begin

section Write

variable {state : State} {answered : Bool} {rest : List Operation}

theorem Invariant.in_writes {model : Model} {slots nextSlots : ℕ → Slot} {active : ℕ}
    {editor next : Editor} (invariant : Invariant model slots active editor)
    (called : editor.call = .set ∨ editor.call = .revert) (sameCall : next.call = editor.call)
    (sameSlot : next.slot = editor.slot) (sameOriginal : next.original = editor.original)
    (sameSnapshot : next.snapshot = editor.snapshot)
    (writing : ∀ operation ∈ next.script, operation.Writes)
    (kept : ∀ setting, active ≠ editor.slot ∨ setting ∉ editable model →
      (nextSlots editor.slot).editable setting = (slots editor.slot).editable setting)
    (reverting : editor.call = .revert → active = editor.slot → Reverting nextSlots next) :
    Invariant model nextSlots active next := by
  have opened : editor.call ≠ .none := by
    rcases called with called | called <;> rw [called] <;> nofun
  have notBegin : next.call ≠ .begin := by
    rw [sameCall]
    rcases called with called | called <;> rw [called] <;> nofun
  have restored : ∀ setting, active ≠ editor.slot ∨ setting ∉ editable model →
      Restored nextSlots next setting := by
    intro setting apart
    rw [Restored, sameSlot, sameOriginal, kept setting apart]
    rcases apart with elsewhere | unexposed
    · exact invariant.untouched (.inr ⟨opened, elsewhere⟩) setting
    · exact invariant.hidden opened setting unexposed
  exact
    { idle := fun none => absurd (sameCall ▸ none) opened
      closed := fun begun => absurd begun notBegin
      beginning := fun begun => absurd begun notBegin
      writing := fun _ => writing
      collected := by
        rw [sameCall, sameSlot, sameSnapshot]
        exact invariant.collected
      reverting := by
        rw [sameCall, sameSlot]
        exact reverting
      faithful := by
        rw [sameSlot, sameSnapshot, sameOriginal]
        exact invariant.faithful
      hidden := fun _ setting unexposed => restored setting (.inr unexposed)
      untouched := by
        rintro (begun | ⟨_, elsewhere⟩) setting
        · exact absurd begun notBegin
        · exact restored setting (.inl (sameSlot ▸ elsewhere)) }

theorem Reverting.after_silent {slots : ℕ → Slot} {editor : Editor} {operation : Operation}
    (reverting : Reverting slots editor) (script : editor.script = operation :: rest)
    (silent : operation.Silent) : Reverting slots { editor with script := rest } := by
  rcases reverting with ⟨front, entries, shape, others, drawn, ordered, restored⟩
  rw [script] at shape
  cases front with
  | nil =>
      cases entries with
      | nil => cases shape
      | cons entry entries =>
          cases shape
          cases silent
  | cons first front =>
      cases shape
      exact ⟨front, entries, rfl, fun other member => others other (List.mem_cons_of_mem _ member),
        drawn, ordered, restored⟩

/-- At a write of a revert, the entries still to be written are the rest of the script. -/
theorem Reverting.at_write {slots : ℕ → Slot} {editor : Editor} {setting : Setting} {value : Value}
    (reverting : Reverting slots editor) (script : editor.script = .write setting value :: rest) :
    ∃ entries : List (Setting × Value), rest = entries.map (fun entry => .write entry.1 entry.2) ∧
      (setting, value) ∈ editor.snapshot ∧ (∀ entry ∈ entries, entry ∈ editor.snapshot) ∧
      filterFirst (setting :: entries.map Prod.fst) = true ∧
      (editor.aborted = false → editor.errors = [] →
        ∀ other, other ≠ setting → other ∉ entries.map Prod.fst → Restored slots editor other) := by
  rcases reverting with ⟨front, entries, shape, others, drawn, ordered, restored⟩
  rw [script] at shape
  cases front with
  | cons first front =>
      cases shape
      exact absurd (others _ List.mem_cons_self) id
  | nil =>
      cases entries with
      | nil => cases shape
      | cons entry entries =>
          cases shape
          refine ⟨entries, rfl, drawn _ List.mem_cons_self,
            fun other member => drawn other (List.mem_cons_of_mem _ member), ordered, ?_⟩
          intro running clean other different absent
          apply restored running clean
          simpa [different] using absent

theorem silent_invariant (invariant : state.Invariant)
    (called : state.editor.call = .set ∨ state.editor.call = .revert) {operation : Operation}
    (script : state.editor.script = operation :: rest) (silent : operation.Silent) :
    Invariant state.model state.slots state.active { state.editor with script := rest } := by
  refine invariant.in_writes called rfl rfl rfl rfl ?_ (fun _ _ => rfl) ?_
  · intro other member
    exact invariant.writing called other (script ▸ List.mem_cons_of_mem _ member)
  · intro isRevert own
    exact (invariant.reverting isRevert own).after_silent script silent

theorem abort_invariant (invariant : state.Invariant)
    (called : state.editor.call = .set ∨ state.editor.call = .revert) :
    state.abort.Invariant := by
  refine invariant.in_writes called rfl rfl rfl rfl (by nofun) (fun _ _ => rfl) ?_
  intro _ _
  exact ⟨[], [], rfl, by nofun, by nofun, rfl, by nofun⟩

theorem fail_invariant (invariant : state.Invariant)
    (called : state.editor.call = .set ∨ state.editor.call = .revert) {setting : Setting}
    {value : Value} {error : Error}
    (script : state.editor.script = .write setting value :: rest) :
    (state.fail setting error rest).Invariant := by
  refine invariant.in_writes called rfl rfl rfl rfl ?_ (fun _ _ => rfl) ?_
  · intro other member
    exact invariant.writing called other (script ▸ List.mem_cons_of_mem _ member)
  · intro isRevert own
    rcases (invariant.reverting isRevert own).at_write script with
      ⟨entries, shape, _, drawn, ordered, _⟩
    refine ⟨[], entries, shape, by nofun, drawn, filterFirst_tail ordered, ?_⟩
    intro _ clean
    simp [State.fail] at clean

/-- A SET to the slot leaves the settings that the wheel does not expose. -/
theorem store_hidden {cache : Cache} {slot : Slot} {model : Model} {setting other : Setting}
    (exposed : setting ∈ editable model) (unexposed : other ∉ editable model) (value : ℕ) :
    (slot.set cache setting value).editable other = slot.editable other := by
  have both : Setting.ffbFilter ∈ editable model ∧ Setting.ffbFilterAuto ∈ editable model := by
    cases model <;> decide
  apply Slot.set_editable_other
  · rintro rfl
    exact unexposed exposed
  · rintro ⟨_, rfl⟩
    exact unexposed both.2
  · rintro _ rfl
    exact absurd both.1 unexposed

/-- What a SET of a revert leaves in the slot, and what it leaves alone. -/
theorem store_reverting (invariant : state.Invariant) (isRevert : state.editor.call = .revert)
    (own : state.active = state.editor.slot) {setting : Setting} {value : Value} {wire : ℕ}
    (script : state.editor.script = .write setting value :: rest)
    (checked : state.checkWrite setting value = .ok wire)
    (level : setting = .ffbFilterAuto →
      state.cache.ffbFilter = (state.slots state.active).filterLevel)
    (effect : setting = .ledEffect → setting.stores value = some 5 →
      state.cache.ledActiveSlot = 0) :
    Reverting (state.store setting wire).slots
      { state.editor with script := .keep setting wire :: rest } := by
  rcases checkWrite_ok checked with ⟨_, stored, toggle⟩
  rcases (invariant.reverting isRevert own).at_write script with
    ⟨entries, shape, entered, drawn, ordered, restored⟩
  have slotAfter : (state.store setting wire).slots state.editor.slot =
      (state.slots state.editor.slot).set state.cache setting wire := by
    rw [← own]
    exact Function.update_self ..
  refine ⟨[.keep setting wire], entries, by rw [shape]; rfl, ?_, drawn,
    filterFirst_tail ordered, ?_⟩
  · intro operation member
    rw [List.mem_singleton.mp member]
    trivial
  · intro running clean other absent
    simp only [Restored, slotAfter]
    by_cases same : other = setting
    · subst same
      have original := invariant.faithful own _ entered
      rw [stored] at original
      rw [Slot.set_editable_self _ _ toggle]
      · exact Option.some.inj original
      · intro isEffect five
        exact effect isEffect (five ▸ stored)
    · rw [Slot.set_editable_other _ _ _ same]
      · exact restored running clean other same absent
      · rintro ⟨rfl, rfl⟩
        exact absent (filterFirst_head ordered)
      · rintro rfl _
        rw [level rfl, own]

theorem store_invariant (invariant : state.Invariant)
    (called : state.editor.call = .set ∨ state.editor.call = .revert) {setting : Setting}
    {value : Value} {wire : ℕ} (script : state.editor.script = .write setting value :: rest)
    (checked : state.checkWrite setting value = .ok wire)
    (reverting : state.editor.call = .revert → state.active = state.editor.slot →
      Reverting (state.store setting wire).slots
        { state.editor with script := .keep setting wire :: rest }) :
    ((state.store setting wire).proceed (.keep setting wire :: rest)).Invariant := by
  refine invariant.in_writes called rfl rfl rfl rfl ?_ ?_ reverting
  · intro other member
    rcases List.mem_cons.mp member with rfl | member
    · trivial
    · exact invariant.writing called other (script ▸ List.mem_cons_of_mem _ member)
  · intro other apart
    simp only [State.proceed, State.store, Function.update_apply]
    split
    · rename_i own
      rcases apart with elsewhere | unexposed
      · exact absurd own.symm elsewhere
      · rw [own]
        exact store_hidden (checkWrite_ok checked).1 unexposed wire
    · rfl

theorem write_invariant (invariant : state.Invariant)
    (called : state.editor.call = .set ∨ state.editor.call = .revert) {operation : Operation}
    (script : state.editor.script = operation :: rest)
    (guarded : state.KeepsSnapshotTrue (.editorStep answered)) :
    (state.execute answered rest operation).Invariant := by
  have writes := invariant.writing called operation (script ▸ List.mem_cons_self)
  have keeps : state.active = state.editor.slot → state.KeepsTrue operation := by
    intro own
    exact guarded own operation (by simp [script])
  cases operation with
  | selectProfile | cacheProfile | queueRefresh | enterOnboardMode | snapshot => cases writes
  | verifyStillActive =>
      have passed := silent_invariant invariant called script trivial
      simp only [State.execute]
      split
      · exact passed
      · exact abort_invariant invariant called
  | keep setting value =>
      have kept := silent_invariant invariant called script trivial
      exact kept
  | write setting value =>
      simp only [State.execute]
      split
      · exact fail_invariant invariant called script
      · rename_i wire checked
        split
        · apply store_invariant invariant called script checked
          intro isRevert own
          apply store_reverting invariant isRevert own script checked
          · rintro rfl
            exact keeps own isRevert
          · rintro rfl
            exact keeps own isRevert
        · exact fail_invariant invariant called script

end Write

theorem execute_invariant {state : State} (invariant : state.Invariant) {answered : Bool}
    {operation : Operation} {rest : List Operation}
    (script : state.editor.script = operation :: rest)
    (guarded : state.KeepsSnapshotTrue (.editorStep answered)) :
    (state.execute answered rest operation).Invariant := by
  cases called : state.editor.call with
  | none =>
      rw [invariant.idle called] at script
      cases script
  | begin =>
      cases running : state.editor.aborted with
      | true =>
          rw [invariant.closed called running] at script
          cases script
      | false =>
          rcases invariant.beginning called running with
            ⟨front, reads, shape, prepares, empty, collecting⟩
          rw [script] at shape
          cases front with
          | cons first front =>
              cases shape
              have fresh := empty (by nofun)
              exact prepare_invariant invariant called (prepares _ List.mem_cons_self) rfl
                (fun other member => prepares other (List.mem_cons_of_mem _ member))
                fresh.1 fresh.2 running
          | nil =>
              cases reads with
              | nil => cases shape
              | cons setting reads =>
                  cases shape
                  apply snapshot_invariant invariant called collecting running
                  intro own
                  exact guarded own (.snapshot setting) (by simp [script])
  | set => exact write_invariant invariant (.inl called) script guarded
  | revert => exact write_invariant invariant (.inr called) script guarded

theorem collected_of_ready {state : State} (invariant : state.Invariant)
    (ready : state.EditorReady) (own : state.active = state.editor.slot) :
    state.editor.snapshot.map Prod.fst = editable state.model := by
  rcases ready with ⟨finished, opened, completed⟩
  cases called : state.editor.call with
  | none => exact absurd called opened
  | begin =>
      rcases invariant.beginning called (completed called) with
        ⟨front, reads, shape, _, _, collecting⟩
      rw [finished] at shape
      have none : reads = [] := by simpa using (List.append_eq_nil_iff.mp shape.symm).2
      simpa [none] using collecting own
  | set => exact invariant.collected (.inl called) own
  | revert => exact invariant.collected (.inr called) own

theorem call_invariant {state : State} (invariant : state.Invariant) (ready : state.EditorReady)
    {call : Call} {script : List Operation} (calls : call = .set ∨ call = .revert)
    (writing : ∀ operation ∈ script, operation.Writes)
    (reverting : call = .revert → script = revertScript state.editor.snapshot) :
    (state.call call script).Invariant := by
  have opened := ready.2.1
  have collected := collected_of_ready invariant ready
  have notBegin : call ≠ .begin := by rcases calls with rfl | rfl <;> nofun
  have some : call ≠ .none := by rcases calls with rfl | rfl <;> nofun
  exact
    { idle := fun none => absurd none some
      closed := fun begun => absurd begun notBegin
      beginning := fun begun => absurd begun notBegin
      writing := fun _ => writing
      collected := fun _ => collected
      reverting := by
        intro isRevert own
        have every := collected own
        refine ⟨[.verifyStillActive], state.editor.snapshot, reverting isRevert, ?_,
          fun _ member => member, ?_, ?_⟩
        · intro operation member
          rw [List.mem_singleton.mp member]
          trivial
        · rw [every]
          cases state.model <;> decide
        · intro _ _ setting absent
          exact invariant.hidden opened setting (every ▸ absent)
      faithful := invariant.faithful
      hidden := fun _ => invariant.hidden opened
      untouched := by
        rintro (begun | ⟨_, elsewhere⟩)
        · exact absurd begun notBegin
        · exact invariant.untouched (.inr ⟨opened, elsewhere⟩) }

theorem begin_invariant (state : State) (slot : ℕ) :
    Invariant state.model state.slots state.active
      { call := .begin, slot, script := beginScript state.model slot, snapshot := [],
        aborted := false, errors := [], original := state.slots slot } where
  idle := by simp
  closed := by simp
  beginning := by
    intro _ _
    refine ⟨[.selectProfile slot true, .verifyStillActive, .enterOnboardMode],
      editable state.model, rfl, ?_, fun _ => ⟨rfl, rfl⟩, fun _ => rfl⟩
    intro operation member
    simp only [List.mem_cons, List.not_mem_nil, or_false] at member
    rcases member with rfl | rfl | rfl <;> trivial
  writing := by simp
  collected := by simp
  reverting := by simp
  faithful := by
    intro _ entry member
    cases member
  hidden := fun _ _ _ => rfl
  untouched := fun _ _ => rfl

theorem refresh_invariant {state : State} (invariant : state.Invariant) (run : Refresh)
    (answered : Bool) : (state.refresh run answered).Invariant := by
  simp only [State.refresh]
  split
  · exact invariant
  · exact invariant
  · split <;> exact invariant

theorem step_invariant {state next : State} {event : Event} (invariant : state.Invariant)
    (guarded : state.KeepsSnapshotTrue event) (stepped : state.step event = some next) :
    next.Invariant := by
  cases event with
  | begin slot =>
      simp only [State.step] at stepped
      split at stepped
      · cases stepped
        exact begin_invariant state slot
      · cases stepped
  | set setting value =>
      simp only [State.step] at stepped
      split at stepped
      · rename_i ready
        cases stepped
        refine call_invariant invariant ready (.inl rfl) ?_ nofun
        intro operation member
        simp only [setScript, List.mem_cons, List.not_mem_nil, or_false] at member
        rcases member with rfl | rfl <;> trivial
      · cases stepped
  | revert =>
      simp only [State.step] at stepped
      split at stepped
      · rename_i ready
        cases stepped
        refine call_invariant invariant ready (.inr rfl) ?_ (fun _ => rfl)
        intro operation member
        simp only [revertScript, List.mem_cons, List.mem_map] at member
        rcases member with rfl | ⟨entry, _, rfl⟩ <;> trivial
      · cases stepped
  | editorStep answered =>
      simp only [State.step] at stepped
      split at stepped
      · cases stepped
      · rename_i operation rest script
        cases stepped
        exact execute_invariant invariant script guarded
  | refreshStart =>
      simp only [State.step] at stepped
      split at stepped
      · cases stepped
        exact invariant
      · cases stepped
  | refreshStep answered =>
      simp only [State.step, Option.map_eq_some_iff] at stepped
      rcases stepped with ⟨run, _, rfl⟩
      exact refresh_invariant invariant run answered

theorem initial_invariant {state : State} (initial : system.initial state) : state.Invariant := by
  rcases initial with ⟨called, finished, empty⟩
  exact
    { idle := fun _ => finished
      closed := by
        rw [called]
        nofun
      beginning := by
        rw [called]
        nofun
      writing := by
        rw [called]
        nofun
      collected := by
        rw [called]
        nofun
      reverting := by
        rw [called]
        nofun
      faithful := by
        rw [empty]
        nofun
      hidden := fun opened => absurd called opened
      untouched := by
        rw [called]
        rintro (begun | ⟨opened, _⟩)
        · cases begun
        · exact absurd rfl opened }

/-- In every run whose snapshot reads show the slot and whose revert writes are not distorted by the
cache, a revert that reports no error restores every value of the slot. -/
theorem revert_restores_slot {state : State}
    (reachable : system.ReachableUnder State.KeepsSnapshotTrue state) : state.RevertRestores := by
  apply State.Invariant.restores
  apply System.ReachableUnder.invariant reachable
  · intro start initial
    exact initial_invariant initial
  · intro current event next invariant guarded stepped
    exact step_invariant invariant guarded stepped

def fullSlot : Slot := ⟨65535, 0, 65535, 1080, 65535, 1, 11, 5, 100⟩

def halfSlot : Slot := ⟨32767, 0, 65535, 540, 65535, 5, 7, 3, 60⟩

/-- Slot 1 is active and cached; slot 2 holds other values. -/
def firstSlotActive : State where
  model := .rs50
  slots index := if index = 2 then halfSlot else fullSlot
  active := 1
  cache := ⟨65535, 0, 65535, 1080, 65535, 11, false, 5, 100, 0, 1⟩
  queued := false
  running := none
  editor := ⟨.none, 0, [], [], false, [], fullSlot⟩

/-- With the refresh complete before the first snapshot read, a strength of 40 is taken back. -/
theorem revert_restores_slot_after_refresh :
    ∃ state, system.ReachableUnder State.KeepsSnapshotTrue state ∧ state.Reverted ∧
      ∀ setting, (state.slots state.editor.slot).editable setting =
        state.editor.original.editable setting := by
  rcases System.ReachableUnder.of_check system State.KeepsSnapshotTrue firstSlotActive
    (Event.begin 2 :: List.replicate 8 (Event.editorStep true) ++
      Event.refreshStart :: List.replicate 19 (Event.refreshStep true) ++
      List.replicate 9 (Event.editorStep true) ++
      Event.set .strength (.percent 40) :: List.replicate 3 (Event.editorStep true) ++
      Event.revert :: List.replicate 19 (Event.editorStep true))
    (fun state => state.Reverted) ⟨rfl, rfl, rfl⟩ (by decide +kernel) (by decide +kernel) with
    ⟨state, reachable, reverted⟩
  have isReverted : state.Reverted := of_decide_eq_true reverted
  exact ⟨state, reachable, isReverted, revert_restores_slot reachable isReverted⟩

/-- Without a refresh in time, slot 2 gets the values of slot 1. -/
theorem revert_overwrites_slot :
    ¬ ∀ state, system.Reachable state → state.RevertRestores := by
  intro restores
  rcases System.ReachableUnder.of_check system System.anyStep firstSlotActive
    (Event.begin 2 :: List.replicate 17 (Event.editorStep true) ++
      Event.revert :: List.replicate 19 (Event.editorStep true))
    (fun state => state.Reverted ∧ (state.slots state.editor.slot).strength = 65535 ∧
      state.editor.original.strength = 32767) ⟨rfl, rfl, rfl⟩ (by decide +kernel)
    (System.runMeets_anyStep _ _) with ⟨state, reachable, checked⟩
  rcases of_decide_eq_true checked with ⟨reverted, strength, original⟩
  have restored := restores state reachable reverted .strength
  simp only [Slot.editable, strength, original] at restored
  cases restored

end TrueForce.Onboard
