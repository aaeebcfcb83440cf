import TrueForce.Foundation.Transition
import TrueForce.Pid.Injector
import Mathlib.Tactic.Common

/-!
# Slot accounting

A slot should be allocated exactly while its block is outstanding: created, or
claimed by a Set Effect, and neither freed nor reset since.  The books below note
what each report asks for by its report number, and which slots hold an uploaded
evdev effect.

Both entry points hand every report whose first byte is a PID report number to
`handleOutput` before they look for a Block Free, and `handleOutput` has no case
for it.  A Block Free that names its own number is therefore swallowed, and the
books and the slots part ways as soon as it names an allocated block.  Up to such
a report they agree.
-/

namespace TrueForce.Pid

open TrueForce.Transition

inductive Event where
  | outputReport (bytes : List UInt8)
  | rawRequest (reportnum : UInt8) (bytes : List UInt8) (rtype : ReportType)
      (reqtype : RequestType)
  | ffOnline
  deriving DecidableEq, Repr

def memory (bytes : List UInt8) (index : ℕ) : UInt8 := bytes.getD index 0

namespace Event

def outputNumber : Event → Option UInt8
  | .outputReport bytes => bytes.head?
  | .rawRequest reportnum _ .output .setReport => some reportnum
  | _ => none

def bytes : Event → List UInt8
  | .outputReport bytes => bytes
  | .rawRequest _ bytes _ _ => bytes
  | .ffOnline => []

/-- An output report that carries a block index, and which one. -/
def names (event : Event) (reportId : UInt8) (least : ℕ) : Option ℕ :=
  if event.outputNumber = some reportId ∧ least ≤ event.bytes.length then
    slotOf (memory event.bytes 1)
  else none

def frees (event : Event) : Option ℕ := event.names reportBlockFree 2

def claims (event : Event) : Option ℕ := event.names reportSetEffect 18

def resets (event : Event) : Bool :=
  event.outputNumber = some reportDeviceControl ∧ 2 ≤ event.bytes.length ∧
    (memory event.bytes 1 = 3 ∨ memory event.bytes 1 = 4)

def creates : Event → Bool
  | .rawRequest reportnum bytes .feature .setReport =>
      reportnum = reportCreateNewEffect ∧ 2 ≤ bytes.length
  | _ => false

/-- A SET_REPORT repeats its report number in its first byte.  The one PID report that the
injector would also take without it is Block Free. -/
def consistent : Event → Bool
  | .rawRequest reportnum bytes .output .setReport =>
      bytes.head?.all fun first => first = reportnum ||
        !State.isPidReport first &&
          (reportnum = reportBlockFree || !State.isPidReport reportnum)
  | _ => true

end Event

/-- What the reports have asked for so far, and what evdev holds. -/
structure Books where
  outstanding : ℕ → Bool
  uploaded : ℕ → Bool

def Books.act (books : Books) : Action → Books
  | .upload effect => { books with uploaded := Function.update books.uploaded effect.slot true }
  | .erase slot => { books with uploaded := Function.update books.uploaded slot false }
  | _ => books

/-- What a report asks for; a create is entered under the block that it reports. -/
def Books.enter (books : Books) (event : Event) (after : State) : Books :=
  if event.resets then { books with outstanding := fun _ => false }
  else
    match event.claims, event.frees with
    | some slot, _ => { books with outstanding := Function.update books.outstanding slot true }
    | none, some slot =>
        { books with outstanding := Function.update books.outstanding slot false }
    | none, none =>
        if event.creates ∧ after.lastBlockLoadStatus = 1 then
          { books with
            outstanding := Function.update books.outstanding (after.lastBlockLoadId - 1) true }
        else books

def State.receive (state : State) : Event → State × List Action
  | .outputReport bytes =>
      let (state, actions, _) := state.outputReport (memory bytes) bytes.length
      (state, actions)
  | .rawRequest reportnum bytes rtype reqtype =>
      let (state, actions, _) :=
        state.rawRequest reportnum (memory bytes) bytes.length rtype reqtype
      (state, actions)
  | .ffOnline => ({ state with ffUp := true }, [])

def State.installed (actuate : Bool) : State where
  slots := fun _ => { allocated := false, type := 0, durationMs := 0, direction := 0 }
  lastBlockLoadId := 0
  lastBlockLoadStatus := 0
  ffUp := false
  actuate := actuate

/-- The injector and its books, from the installation of the override on. -/
def injector : System (State × Books) Event where
  initial view := ∃ actuate, view =
    (State.installed actuate, { outstanding := fun _ => false, uploaded := fun _ => false })
  step view event :=
    if event.consistent then
      let (after, actions) := view.1.receive event
      some (after, (actions.foldl Books.act view.2).enter event after)
    else none

/-- A Block Free of an allocated block that `handleOutput` swallows: its first byte is a PID report
number, its own. -/
def SwallowedFree (state : State) (event : Event) : Prop :=
  ∃ slot, event.frees = some slot ∧ (state.slots slot).allocated = true ∧
    State.isPidReport (memory event.bytes 0) = true

instance (state : State) (event : Event) : Decidable (SwallowedFree state event) :=
  decidable_of_iff
    (event.frees.any (fun slot => (state.slots slot).allocated &&
      State.isPidReport (memory event.bytes 0)) = true)
    (by simp [SwallowedFree, Option.any_eq_true])

def FreesArrive (view : State × Books) (event : Event) : Prop := ¬SwallowedFree view.1 event

instance (view : State × Books) (event : Event) : Decidable (FreesArrive view event) :=
  inferInstanceAs (Decidable (¬SwallowedFree view.1 event))

/-- Actions that erase nothing and upload to allocated slots only. -/
def State.Harmless (state : State) (actions : List Action) : Prop :=
  ∀ action ∈ actions,
    (∃ effect, action = .upload effect ∧ effect.slot < maxEffects ∧
      (state.slots effect.slot).allocated = true ∧ state.ffUp = true ∧ state.actuate = true) ∨
    (∃ slot value, action = .playback slot value) ∨ ∃ gain, action = .setGain gain

theorem State.harmless_nil (state : State) : state.Harmless [] := nofun

theorem State.harmless_actuates {state : State} {action : Action}
    (harmless : state.ffUp = true → state.actuate = true → state.Harmless [action]) :
    state.Harmless (state.actuates action) := by
  simp only [State.actuates]
  split_ifs with up
  · simp only [Bool.and_eq_true] at up
    exact harmless up.1 up.2
  · exact state.harmless_nil

theorem State.harmless_uploadTo (state : State) {slot : ℕ} (inRange : slot < maxEffects)
    (payload : Payload) :
    state.Harmless (state.uploadTo slot payload) := by
  simp only [State.uploadTo]
  split_ifs with allocated
  · apply State.harmless_actuates
    intro up actuate action member
    rw [List.mem_singleton] at member
    exact .inl ⟨_, member, inRange, allocated, up, actuate⟩
  · exact state.harmless_nil

theorem slotOf_lt {pidId : UInt8} {slot : ℕ} (named : slotOf pidId = some slot) :
    slot < maxEffects := by
  simp only [slotOf] at named
  split_ifs at named with outside
  cases named
  omega

/-- The parameter reports change no slot. -/
theorem State.onSlot_spec (state : State) (buf : ℕ → UInt8) (count least : ℕ)
    {actions : ℕ → List Action} (harmless : ∀ slot < maxEffects, state.Harmless (actions slot)) :
    (state.onSlot buf count least actions).1 = state ∧
      state.Harmless (state.onSlot buf count least actions).2.1 := by
  simp only [State.onSlot]
  split_ifs
  · exact ⟨rfl, state.harmless_nil⟩
  · split
    · rename_i slot named
      exact ⟨rfl, harmless slot (slotOf_lt named)⟩
    · exact ⟨rfl, state.harmless_nil⟩

theorem State.harmless_setCondition (state : State) (buf : ℕ → UInt8) {slot : ℕ}
    (inRange : slot < maxEffects) :
    state.Harmless (state.setCondition buf slot) := by
  simp only [State.setCondition]
  repeat' split
  all_goals first
    | exact state.harmless_nil
    | exact state.harmless_uploadTo inRange _

theorem State.harmless_setPeriodic (state : State) (buf : ℕ → UInt8) {slot : ℕ}
    (inRange : slot < maxEffects) :
    state.Harmless (state.setPeriodic buf slot) := by
  simp only [State.setPeriodic]
  repeat' split
  all_goals first
    | exact state.harmless_nil
    | exact state.harmless_uploadTo inRange _

theorem State.harmless_effectOp (state : State) (buf : ℕ → UInt8) (slot : ℕ) :
    state.Harmless (state.effectOp buf slot) := by
  have plays (value : ℕ) : state.Harmless (state.actuates (.playback slot value)) := by
    apply State.harmless_actuates
    intro _ _ action member
    rw [List.mem_singleton] at member
    exact .inr (.inl ⟨slot, value, member⟩)
  simp only [State.effectOp]
  split_ifs
  all_goals first
    | exact state.harmless_nil
    | exact plays _

/-- The two reports that `handleOutput` lets touch the slots, and the rest. -/
inductive State.OutputCase (state : State) (buf : ℕ → UInt8) (count : ℕ) :
    State → List Action → Prop where
  | reset (number : buf 0 = reportDeviceControl) (long : 2 ≤ count)
      (op : buf 1 = 3 ∨ buf 1 = 4) :
      state.OutputCase buf count state.resetSlots.1 state.resetSlots.2
  | claim {slot : ℕ} (number : buf 0 = reportSetEffect) (long : 18 ≤ count)
      (named : slotOf (buf 1) = some slot) :
      state.OutputCase buf count (state.setEffect buf slot) []
  | other {actions : List Action}
      (noReset : ¬(buf 0 = reportDeviceControl ∧ 2 ≤ count ∧ (buf 1 = 3 ∨ buf 1 = 4)))
      (noClaim : ¬(buf 0 = reportSetEffect ∧ 18 ≤ count ∧ slotOf (buf 1) ≠ none))
      (harmless : state.Harmless actions) :
      state.OutputCase buf count state actions

theorem State.handleOutput_case (state : State) (buf : ℕ → UInt8) (count : ℕ) :
    state.OutputCase buf count (state.handleOutput buf count).1
      (state.handleOutput buf count).2.1 := by
  have parameter (number : buf 0 ≠ reportDeviceControl) (number' : buf 0 ≠ reportSetEffect)
      {least : ℕ} {actions : ℕ → List Action}
      (harmless : ∀ slot < maxEffects, state.Harmless (actions slot)) :
      state.OutputCase buf count (state.onSlot buf count least actions).1
        (state.onSlot buf count least actions).2.1 := by
    rcases state.onSlot_spec buf count least harmless with ⟨same, kept⟩
    rw [same]
    exact .other (fun reset => number reset.1) (fun claim => number' claim.1) kept
  by_cases short : count < 2
  · simp only [State.handleOutput, short, ↓reduceIte]
    exact .other (by omega) (by omega) state.harmless_nil
  simp only [State.handleOutput, short, ↓reduceIte]
  split_ifs with control op gain effect few constant condition periodic operation ramp
  · exact .reset control (by omega) op
  · refine .other (fun reset => op reset.2.2) ?_ state.harmless_nil
    rw [control]
    exact fun claim => absurd claim.1 (by decide)
  · refine .other ?_ ?_ ?_
    · exact fun reset => control reset.1
    · rw [gain]
      exact fun claim => absurd claim.1 (by decide)
    · apply State.harmless_actuates
      intro _ _ action member
      rw [List.mem_singleton] at member
      exact .inr (.inr ⟨_, member⟩)
  · refine .other (fun reset => control reset.1) ?_ state.harmless_nil
    exact fun claim => absurd claim.2.1 (by omega)
  · split
    · rename_i slot named
      exact .claim effect (by omega) named
    · rename_i unnamed
      refine .other (fun reset => control reset.1) ?_ state.harmless_nil
      exact fun claim => claim.2.2 unnamed
  · exact parameter control effect fun slot inRange => state.harmless_uploadTo inRange _
  · exact parameter control effect fun slot inRange => state.harmless_setCondition buf inRange
  · exact parameter control effect fun slot inRange => state.harmless_setPeriodic buf inRange
  · exact parameter control effect fun slot _ => state.harmless_effectOp buf slot
  · exact parameter control effect fun slot inRange => state.harmless_uploadTo inRange _
  · exact .other (fun reset => control reset.1) (fun claim => effect claim.1) state.harmless_nil

/-- The invariant that every report keeps while no Block Free is swallowed. -/
structure Agrees (state : State) (books : Books) : Prop where
  accounted : ∀ slot < maxEffects, (state.slots slot).allocated = books.outstanding slot
  backed : ∀ slot, books.uploaded slot = true → slot < maxEffects ∧
    (state.slots slot).allocated = true ∧ state.ffUp = true ∧ state.actuate = true

/-- Harmless actions keep every uploaded effect backed by an allocated slot. -/
theorem Agrees.act {state : State} {books : Books} {actions : List Action}
    (agrees : Agrees state books) (harmless : state.Harmless actions) :
    Agrees state (actions.foldl Books.act books) := by
  induction actions generalizing books with
  | nil => exact agrees
  | cons action actions ih =>
      have rest : state.Harmless actions := fun other member =>
        harmless other (List.mem_cons_of_mem action member)
      apply ih _ rest
      rcases harmless action List.mem_cons_self with
        ⟨effect, rfl, inRange, allocated, up, on⟩ | plays
      · refine ⟨agrees.accounted, ?_⟩
        intro slot uploaded
        by_cases same : slot = effect.slot
        · subst same
          exact ⟨inRange, allocated, up, on⟩
        · simp only [Books.act, Function.update_of_ne same] at uploaded
          exact agrees.backed slot uploaded
      · rcases plays with ⟨slot, value, rfl⟩ | ⟨gain, rfl⟩
        · exact ⟨agrees.accounted, agrees.backed⟩
        · exact ⟨agrees.accounted, agrees.backed⟩

theorem uploaded_after_erases {actions : List Action} {books : Books} {slot : ℕ}
    (erases : ∀ action ∈ actions, ∃ erased, action = .erase erased)
    (uploaded : (actions.foldl Books.act books).uploaded slot = true) :
    books.uploaded slot = true ∧ Action.erase slot ∉ actions := by
  induction actions generalizing books with
  | nil => exact ⟨uploaded, List.not_mem_nil⟩
  | cons action actions ih =>
      rcases erases action List.mem_cons_self with ⟨erased, rfl⟩
      rcases ih (fun other member => erases other (List.mem_cons_of_mem _ member)) uploaded with
        ⟨before, notLater⟩
      by_cases same : slot = erased
      · subst same
        simp [Books.act] at before
      · simp only [Books.act, Function.update_of_ne same] at before
        refine ⟨before, ?_⟩
        intro member
        rcases List.mem_cons.mp member with now | later
        · exact same (by simpa using now)
        · exact notLater later

theorem outstanding_act (actions : List Action) (books : Books) :
    (actions.foldl Books.act books).outstanding = books.outstanding := by
  induction actions generalizing books with
  | nil => rfl
  | cons action actions ih =>
      rw [List.foldl_cons, ih]
      cases action <;> rfl

/-- A reset erases every effect that is uploaded. -/
theorem Agrees.reset {state : State} {books : Books} (agrees : Agrees state books) :
    Agrees state.resetSlots.1
      { state.resetSlots.2.foldl Books.act books with outstanding := fun _ => false } := by
  constructor
  · intro slot inRange
    simp [State.resetSlots, inRange]
  · intro slot uploaded
    have erases : ∀ action ∈ state.resetSlots.2, ∃ erased, action = .erase erased := by
      intro action member
      simp only [State.resetSlots, List.mem_flatMap, State.actuates] at member
      rcases member with ⟨erased, _, member⟩
      split_ifs at member
      · exact ⟨erased, List.mem_singleton.mp member⟩
      · cases member
    rcases uploaded_after_erases erases uploaded with ⟨before, kept⟩
    rcases agrees.backed slot before with ⟨inRange, allocated, up, on⟩
    refine absurd ?_ kept
    simp only [State.resetSlots, List.mem_flatMap, List.mem_filter, List.mem_range]
    exact ⟨slot, ⟨inRange, allocated⟩, by simp [State.actuates, up, on]⟩

theorem Agrees.claim {state : State} {books : Books} {slot : ℕ} (agrees : Agrees state books)
    (buf : ℕ → UInt8) :
    Agrees (state.setEffect buf slot)
      { books with outstanding := Function.update books.outstanding slot true } := by
  constructor
  · intro other inRange
    by_cases same : other = slot
    · subst same
      simp [State.setEffect, State.updateSlot]
    · simpa [State.setEffect, State.updateSlot, Function.update_of_ne same] using
        agrees.accounted other inRange
  · intro other uploaded
    rcases agrees.backed other uploaded with ⟨inRange, allocated, up, on⟩
    refine ⟨inRange, ?_, up, on⟩
    by_cases same : other = slot
    · subst same
      simp [State.setEffect, State.updateSlot]
    · simpa [State.setEffect, State.updateSlot, Function.update_of_ne same] using allocated

/-- A Block Free that gets through frees the slot and erases its effect. -/
theorem Agrees.free {state : State} {books : Books} {pidId : UInt8} {slot : ℕ}
    (agrees : Agrees state books) (named : slotOf pidId = some slot) :
    let (after, actions) := state.blockFree pidId
    let entered := actions.foldl Books.act books
    Agrees after { entered with outstanding := Function.update entered.outstanding slot false } ∧
      (after.slots slot).allocated = false ∧ entered.uploaded slot = false := by
  have erases : ∀ action ∈ state.actuates (.erase slot), ∃ erased, action = .erase erased := by
    intro action member
    simp only [State.actuates] at member
    split_ifs at member
    · exact ⟨slot, List.mem_singleton.mp member⟩
    · cases member
  simp only [State.blockFree, named]
  refine ⟨⟨?_, ?_⟩, by simp [State.updateSlot], ?_⟩
  · intro other inRange
    simp only [State.updateSlot, outstanding_act]
    by_cases same : other = slot
    · subst same
      simp
    · simpa [Function.update_of_ne same] using agrees.accounted other inRange
  · intro other uploaded
    rcases uploaded_after_erases erases uploaded with ⟨before, kept⟩
    rcases agrees.backed other before with ⟨inRange, allocated, up, on⟩
    have other_ne : other ≠ slot := by
      rintro rfl
      exact kept (by simp [State.actuates, up, on])
    exact ⟨inRange, by simpa [State.updateSlot, Function.update_of_ne other_ne] using allocated,
      up, on⟩
  · by_contra uploaded
    rcases uploaded_after_erases erases (by simpa using uploaded) with ⟨before, kept⟩
    rcases agrees.backed slot before with ⟨_, _, up, on⟩
    exact kept (by simp [State.actuates, up, on])

/-- A create takes a free slot and reports it, or reports `full` when there is none. -/
theorem createNewEffect_cases (state : State) (pidType : UInt8) :
    (∃ slot < maxEffects, (state.slots slot).allocated = false ∧
      state.createNewEffect pidType =
        { (state.updateSlot slot fun _ =>
            { allocated := true, type := pidType, durationMs := 0x7FFF, direction := 0 }) with
          lastBlockLoadId := slot + 1
          lastBlockLoadStatus := 1 }) ∨
      (∀ slot < maxEffects, (state.slots slot).allocated = true) ∧
        state.createNewEffect pidType =
          { state with lastBlockLoadId := 0, lastBlockLoadStatus := 2 } := by
  rcases search : (List.range maxEffects).find? fun slot => !(state.slots slot).allocated with
    _ | slot
  · right
    constructor
    · intro slot inRange
      simpa using List.find?_eq_none.mp search slot (List.mem_range.mpr inRange)
    · simp only [State.createNewEffect, State.allocSlot, search]
  · left
    refine ⟨slot, ?_, ?_, ?_⟩
    · exact List.mem_range.mp (List.mem_of_find?_eq_some search)
    · simpa using List.find?_some search
    · simp only [State.createNewEffect, State.allocSlot, search]

theorem Agrees.create {state : State} {books : Books} (agrees : Agrees state books)
    (pidType : UInt8) :
    let after := state.createNewEffect pidType
    Agrees after
      (if after.lastBlockLoadStatus = 1 then
        { books with
          outstanding := Function.update books.outstanding (after.lastBlockLoadId - 1) true }
      else books) := by
  rcases createNewEffect_cases state pidType with ⟨slot, inRange, free, created⟩ | ⟨_, full⟩
  · simp only [created, ↓reduceIte, Nat.add_sub_cancel]
    constructor
    · intro other inRange
      by_cases same : other = slot
      · subst same
        simp [State.updateSlot]
      · simpa [State.updateSlot, Function.update_of_ne same] using agrees.accounted other inRange
    · intro other uploaded
      rcases agrees.backed other uploaded with ⟨inRange, allocated, up, on⟩
      refine ⟨inRange, ?_, up, on⟩
      by_cases same : other = slot
      · subst same
        simp [State.updateSlot]
      · simpa [State.updateSlot, Function.update_of_ne same] using allocated
  · simp only [full]
    exact ⟨agrees.accounted, agrees.backed⟩

/-- Freeing what is not outstanding changes nothing. -/
theorem Agrees.refree {state : State} {books : Books} {slot : ℕ} (agrees : Agrees state books)
    (inRange : slot < maxEffects) (free : (state.slots slot).allocated = false) :
    Agrees state { books with outstanding := Function.update books.outstanding slot false } := by
  refine ⟨?_, agrees.backed⟩
  intro other otherRange
  by_cases same : other = slot
  · subst same
    simp [free]
  · simpa [Function.update_of_ne same] using agrees.accounted other otherRange

theorem Agrees.handled {state : State} {books : Books} {event : Event}
    (agrees : Agrees state books) (arrives : FreesArrive (state, books) event)
    (isPid : State.isPidReport (memory event.bytes 0) = true)
    (number : event.outputNumber = some (memory event.bytes 0))
    (noCreate : event.creates = false) :
    let handled := state.handleOutput (memory event.bytes) event.bytes.length
    Agrees handled.1 ((handled.2.1.foldl Books.act books).enter event handled.1) := by
  have case := state.handleOutput_case (memory event.bytes) event.bytes.length
  generalize state.handleOutput (memory event.bytes) event.bytes.length = handled at case ⊢
  rcases handled with ⟨after, actions, rc⟩
  simp only at case ⊢
  cases case with
  | reset control long op =>
      have resets : event.resets = true := by simp [Event.resets, number, control, long, op]
      simp only [Books.enter, resets, ↓reduceIte]
      exact agrees.reset
  | @claim slot effect long named =>
      have resets : event.resets = false := by
        simp [Event.resets, number, effect, reportSetEffect, reportDeviceControl]
      have claims : event.claims = some slot := by
        simp [Event.claims, Event.names, number, effect, long, named]
      simp only [Books.enter, resets, claims, List.foldl_nil]
      exact agrees.claim _
  | other noReset noClaim harmless =>
      have resets : event.resets = false := by
        simpa [Event.resets, number] using noReset
      have claims : event.claims = none := by
        by_contra some
        apply noClaim
        simp only [Event.claims, Event.names, number] at some
        split_ifs at some with named
        · exact ⟨by simpa using named.1, named.2, some⟩
        · exact absurd rfl some
      have acted := agrees.act harmless
      simp only [Books.enter, resets, claims, noCreate]
      rcases frees : event.frees with _ | slot
      · exact acted
      · have named : slotOf (memory event.bytes 1) = some slot := by
          simp only [Event.frees, Event.names] at frees
          split_ifs at frees
          exact frees
        apply acted.refree (slotOf_lt named)
        by_contra allocated
        exact arrives ⟨slot, frees, by simpa using allocated, isPid⟩

/-- A report that carries none of the numbers the books follow leaves them alone. -/
theorem Books.enter_foreign (books : Books) (after : State) {event : Event}
    (noCreate : event.creates = false)
    (foreign : ∀ number, event.outputNumber = some number →
      State.isPidReport number = false ∨ event.bytes.length < 2) :
    books.enter event after = books := by
  have unnamed (reportId : UInt8) (least : ℕ) (isPid : State.isPidReport reportId = true)
      (long : 2 ≤ least) :
      event.names reportId least = none := by
    simp only [Event.names]
    split_ifs with named
    · rcases foreign reportId named.1 with notPid | short
      · rw [isPid] at notPid
        cases notPid
      · omega
    · rfl
  have resets : event.resets = false := by
    by_contra resets
    simp only [Event.resets, Bool.not_eq_false, decide_eq_true_eq] at resets
    rcases foreign _ resets.1 with notPid | short
    · cases notPid
    · omega
  have claims : event.claims = none := unnamed _ _ (by decide) (by decide)
  have frees : event.frees = none := unnamed _ _ (by decide) (by decide)
  simp [Books.enter, resets, claims, frees, noCreate]

theorem head?_eq_memory {bytes : List UInt8} (nonempty : bytes.length ≥ 1) :
    bytes.head? = some (memory bytes 0) := by
  cases bytes with
  | nil => simp at nonempty
  | cons first rest => rfl

theorem Agrees.outputReport {state : State} {books : Books} {bytes : List UInt8}
    (agrees : Agrees state books) (arrives : FreesArrive (state, books) (.outputReport bytes)) :
    let received := state.receive (.outputReport bytes)
    Agrees received.1
      ((received.2.foldl Books.act books).enter (.outputReport bytes) received.1) := by
  simp only [State.receive, State.outputReport]
  split_ifs with handled
  · exact agrees.handled arrives handled.2 (head?_eq_memory handled.1) rfl
  · rw [Books.enter_foreign _ _ rfl]
    · exact agrees
    · intro number arrived
      cases bytes with
      | nil => exact .inr (by decide)
      | cons first rest =>
          left
          cases arrived
          simpa [memory] using handled

theorem Agrees.blockFree {state : State} {books : Books} {bytes : List UInt8}
    (agrees : Agrees state books) (long : 2 ≤ bytes.length) :
    let event := Event.rawRequest reportBlockFree bytes .output .setReport
    let freed := state.blockFree (memory bytes 1)
    Agrees freed.1 ((freed.2.foldl Books.act books).enter event freed.1) := by
  intro event freed
  have resets : event.resets = false := by
    simp [event, Event.resets, Event.outputNumber, reportBlockFree, reportDeviceControl]
  have claims : event.claims = none := by
    simp [event, Event.claims, Event.names, Event.outputNumber, reportBlockFree, reportSetEffect]
  have frees : event.frees = slotOf (memory bytes 1) := by
    simp [event, Event.frees, Event.names, Event.outputNumber, Event.bytes, long]
  have creates : event.creates = false := rfl
  rcases named : slotOf (memory bytes 1) with _ | slot
  · have nothing : freed = (state, []) := by simp [freed, State.blockFree, named]
    simp only [Books.enter, resets, claims, frees, named, creates, nothing]
    exact agrees
  · have done := agrees.free named
    simp only [Books.enter, resets, claims, frees, named]
    exact done.1

theorem Agrees.setOutput {state : State} {books : Books} {reportnum : UInt8}
    {bytes : List UInt8} (agrees : Agrees state books)
    (arrives : FreesArrive (state, books) (.rawRequest reportnum bytes .output .setReport))
    (consistent : (Event.rawRequest reportnum bytes .output .setReport).consistent = true) :
    let received := state.receive (.rawRequest reportnum bytes .output .setReport)
    Agrees received.1
      ((received.2.foldl Books.act books).enter (.rawRequest reportnum bytes .output .setReport)
        received.1) := by
  simp only [State.receive, State.rawRequest, true_and, reduceCtorEq, false_and, ↓reduceIte]
  split_ifs with handled free
  · have same : memory bytes 0 = reportnum := by
      simp only [Event.consistent, head?_eq_memory handled.1, Option.all_some, handled.2,
        Bool.not_true, Bool.false_and, Bool.or_false, decide_eq_true_eq] at consistent
      exact consistent
    apply agrees.handled arrives handled.2 _ rfl
    simp only [Event.outputNumber, Event.bytes, same]
  · rcases free with ⟨rfl, long⟩
    exact agrees.blockFree long
  · rw [Books.enter_foreign _ _ rfl]
    · exact agrees
    · intro number arrived
      cases arrived
      cases bytes with
      | nil => exact .inr (by simp [Event.bytes])
      | cons first rest =>
          have notPid : State.isPidReport first = false := by simpa [memory] using handled
          simp only [Event.consistent, List.head?_cons, Option.all_some, notPid, Bool.not_false,
            Bool.true_and, Bool.or_eq_true, decide_eq_true_eq, Bool.not_eq_true'] at consistent
          rcases consistent with same | blockFree | foreign
          · rw [← same]
            exact .inl notPid
          · right
            by_contra long
            exact free ⟨blockFree, Nat.le_of_not_lt long⟩
          · exact .inl foreign

theorem Agrees.rawRequest {state : State} {books : Books} {reportnum : UInt8}
    {bytes : List UInt8} {rtype : ReportType} {reqtype : RequestType}
    (agrees : Agrees state books)
    (arrives : FreesArrive (state, books) (.rawRequest reportnum bytes rtype reqtype))
    (consistent : (Event.rawRequest reportnum bytes rtype reqtype).consistent = true) :
    let received := state.receive (.rawRequest reportnum bytes rtype reqtype)
    Agrees received.1
      ((received.2.foldl Books.act books).enter (.rawRequest reportnum bytes rtype reqtype)
        received.1) := by
  cases reqtype with
  | getReport =>
      simp only [State.receive, State.rawRequest, reduceCtorEq, false_and, ↓reduceIte]
      split_ifs
      all_goals
        rw [Books.enter_foreign _ _ (by cases rtype <;> rfl)
          (by cases rtype <;> simp [Event.outputNumber])]
        exact agrees
  | setReport =>
      cases rtype with
      | output => exact agrees.setOutput arrives consistent
      | input =>
          simp only [State.receive, State.rawRequest, reduceCtorEq, false_and, and_false,
            ↓reduceIte]
          rw [Books.enter_foreign _ _ rfl (by simp [Event.outputNumber])]
          exact agrees
      | feature =>
          simp only [State.receive, State.rawRequest, reduceCtorEq, false_and, and_false,
            true_and, ↓reduceIte]
          split_ifs with create
          · have creates : (Event.rawRequest reportnum bytes .feature .setReport).creates =
                true := by
              simp [Event.creates, create.1, create.2]
            have entered := agrees.create (memory bytes 1)
            simpa [Books.enter, Event.resets, Event.claims, Event.frees, Event.names,
              Event.outputNumber, creates] using entered
          · rw [Books.enter_foreign]
            · exact agrees
            · simpa [Event.creates] using create
            · simp [Event.outputNumber]

theorem Agrees.step {view next : State × Books} {event : Event}
    (agrees : Agrees view.1 view.2) (arrives : FreesArrive view event)
    (stepped : injector.step view event = some next) :
    Agrees next.1 next.2 := by
  simp only [injector, Option.ite_none_right_eq_some, Option.some.injEq] at stepped
  rcases stepped with ⟨consistent, rfl⟩
  cases event with
  | outputReport bytes => exact agrees.outputReport arrives
  | rawRequest reportnum bytes rtype reqtype => exact agrees.rawRequest arrives consistent
  | ffOnline =>
      refine ⟨agrees.accounted, ?_⟩
      intro slot uploaded
      rcases agrees.backed slot uploaded with ⟨inRange, allocated, _, on⟩
      exact ⟨inRange, allocated, rfl, on⟩

theorem agrees_of_reachable {view : State × Books}
    (reachable : injector.ReachableUnder FreesArrive view) :
    Agrees view.1 view.2 := by
  apply System.ReachableUnder.invariant reachable
  · rintro start ⟨actuate, rfl⟩
    exact ⟨fun _ _ => rfl, nofun⟩
  · intro current event next agrees arrives stepped
    exact agrees.step arrives stepped

/-- A Block Free that is not swallowed is one that carries no PID report number of its own. -/
theorem frees_cases {view : State × Books} {event : Event} {slot : ℕ}
    (frees : event.frees = some slot) (arrives : FreesArrive view event)
    (allocated : (view.1.slots slot).allocated = true) :
    ∃ bytes, event = .rawRequest reportBlockFree bytes .output .setReport ∧ 2 ≤ bytes.length ∧
      slotOf (memory bytes 1) = some slot ∧ State.isPidReport (memory bytes 0) = false := by
  have unnumbered : State.isPidReport (memory event.bytes 0) = false := by
    by_contra numbered
    exact arrives ⟨slot, frees, allocated, by simpa using numbered⟩
  simp only [Event.frees, Event.names] at frees
  split_ifs at frees with named
  rcases named with ⟨number, long⟩
  cases event with
  | outputReport bytes =>
      rw [Event.outputNumber, head?_eq_memory (by simp only [Event.bytes] at long; omega),
        Option.some.injEq] at number
      rw [Event.bytes, number] at unnumbered
      cases unnumbered
  | rawRequest reportnum bytes rtype reqtype =>
      cases rtype <;> cases reqtype <;> simp [Event.outputNumber] at number
      subst number
      exact ⟨bytes, rfl, long, frees, unnumbered⟩
  | ffOnline => simp [Event.outputNumber] at number

theorem uploaded_enter (books : Books) (event : Event) (after : State) :
    (books.enter event after).uploaded = books.uploaded := by
  simp only [Books.enter]
  repeat' split
  all_goals rfl

/--
In every run that swallows no Block Free of an allocated block, a slot is
allocated exactly while its block is outstanding; a Block Free releases the slot
and erases its effect; and a create reports `full` only when the blocks of all
slots are outstanding.
-/
theorem slots_follow_reports {view : State × Books}
    (reachable : injector.ReachableUnder FreesArrive view) :
    (∀ slot < maxEffects, (view.1.slots slot).allocated = view.2.outstanding slot) ∧
      (∀ event next slot, event.frees = some slot → (view.1.slots slot).allocated = true →
        FreesArrive view event → injector.step view event = some next →
        (next.1.slots slot).allocated = false ∧ next.2.uploaded slot = false) ∧
      ∀ event next, event.creates = true → injector.step view event = some next →
        next.1.lastBlockLoadStatus = 2 →
        ∀ slot < maxEffects, view.2.outstanding slot = true := by
  have agrees := agrees_of_reachable reachable
  refine ⟨agrees.accounted, ?_, ?_⟩
  · intro event next slot frees allocated arrives stepped
    rcases frees_cases frees arrives allocated with ⟨bytes, rfl, long, named, unnumbered⟩
    simp only [injector, Option.ite_none_right_eq_some, Option.some.injEq] at stepped
    rcases stepped with ⟨_, rfl⟩
    have freed := agrees.free named
    simp only [State.receive, State.rawRequest, unnumbered, Bool.false_eq_true, and_false,
      reduceCtorEq, false_and, ↓reduceIte, long, ge_iff_le, and_self, uploaded_enter]
    exact freed.2
  · intro event next creates stepped full slot inRange
    simp only [injector, Option.ite_none_right_eq_some, Option.some.injEq] at stepped
    rcases stepped with ⟨_, rfl⟩
    cases event with
    | outputReport | ffOnline => cases creates
    | rawRequest reportnum bytes rtype reqtype =>
        cases rtype <;> cases reqtype <;> simp [Event.creates] at creates
        have received : (view.1.receive (.rawRequest reportnum bytes .feature .setReport)).1 =
            view.1.createNewEffect (memory bytes 1) := by
          simp [State.receive, State.rawRequest, creates.1, creates.2]
        simp only [received] at full
        rcases createNewEffect_cases view.1 (memory bytes 1) with
          ⟨free, _, _, created⟩ | ⟨taken, _⟩
        · rw [created] at full
          cases full
        · rw [← agrees.accounted slot inRange]
          exact taken slot inRange

/-- A create whose block is freed by a request that reaches the injector's Block Free branch. -/
theorem slots_follow_reports_after_free :
    ∃ view, injector.ReachableUnder FreesArrive view ∧ view.1.lastBlockLoadId = 1 ∧
      (view.1.slots 0).allocated = false ∧
      ∀ slot < maxEffects, (view.1.slots slot).allocated = view.2.outstanding slot := by
  have executed := System.ReachableUnder.of_check injector FreesArrive
    (State.installed true, { outstanding := fun _ => false, uploaded := fun _ => false })
    [.ffOnline, .rawRequest 0x54 [0x54, 1] .feature .setReport,
      .outputReport [0x55, 1, 0x00, 0x10], .rawRequest 0x5B [0x00, 1] .output .setReport]
    (fun view => view.1.lastBlockLoadId = 1 ∧ (view.1.slots 0).allocated = false)
    ⟨true, rfl⟩ (by decide) (by decide)
  rcases executed with ⟨view, reachable, seen⟩
  simp only [decide_eq_true_eq] at seen
  exact ⟨view, reachable, seen.1, seen.2, (slots_follow_reports reachable).1⟩

/--
Create, Set Constant, Block Free: the report that frees the block is swallowed,
so its slot stays allocated and its effect stays uploaded.
-/
theorem slots_keep_freed_block :
    ∃ view, injector.Reachable view ∧ view.2.outstanding 0 = false ∧
      (view.1.slots 0).allocated = true ∧ view.2.uploaded 0 = true := by
  have executed := System.ReachableUnder.of_check injector System.anyStep
    (State.installed true, { outstanding := fun _ => false, uploaded := fun _ => false })
    [.ffOnline, .rawRequest 0x54 [0x54, 1] .feature .setReport,
      .outputReport [0x55, 1, 0x00, 0x10], .outputReport [0x5B, 1]]
    (fun view => view.2.outstanding 0 = false ∧ (view.1.slots 0).allocated = true ∧
      view.2.uploaded 0 = true)
    ⟨true, rfl⟩ (by decide) (System.runMeets_anyStep _ _)
  rcases executed with ⟨view, reachable, seen⟩
  simp only [decide_eq_true_eq] at seen
  exact ⟨view, reachable, seen⟩

end TrueForce.Pid
