import TrueForce.Foundation.RustText
import TrueForce.Foundation.Transition
import TrueForce.Settings.Kind

/-!
# The drift watcher

Between requests the worker re-reads the profile and the mode, and sends the rows
of the page on screen again when they moved.  What it compares with is read anew
after every request.  Anything outside the worker may change the wheel between
any two of its steps.
-/

namespace TrueForce.Gui.DriftWatch

open RustText Transition Settings

inductive Category where
  | info
  | ffb
  | steering
  | pedals
  | leds
  | profiles
  deriving DecidableEq, Repr

/-- The active profile, where the wheel has profiles, and the mode. -/
abbrev DriftSnapshot := Option ℕ × Mode

inductive Request where
  | loadCategory (category : Category)
  | refresh (category : Category)
  | edit (category : Category) (attr : Text)
  | setMode
  | discover
  | selectWheel
  | profileSave
  | profileApply
  | profileDelete
  | onboardBegin
  | onboardEdit
  | onboardSetName
  | onboardRevert
  | onboardCopyProfile
  | onboardExit
  deriving DecidableEq

inductive Response where
  /-- All rows of a category, with what the wheel was in when they were read. -/
  | rows (category : Category) (under : DriftSnapshot)
  | rowUpdated (category : Category) (attr : Text)
  | info
  | noWheel
  | wheels
  | profiles
  | onboard
  deriving DecidableEq

/-- What the worker does in one go. -/
inductive Action where
  | dispatch (request : Request) (ok : Bool)
  /-- The request's own writes to the wheel. -/
  | write
  /-- `rows_for` and the response with its rows. -/
  | sendRows (category : Category)
  | respond (response : Response)
  /-- A response that is sent if its read succeeds. -/
  | attempt (response : Response)
  /-- A discovery, and the wheel it leads to. -/
  | manage
  | baseline
  | checkDrift
  deriving DecidableEq

def requestCategory : Request → Option Category
  | .loadCategory category | .refresh category | .edit category _ => some category
  | .profileSave | .profileApply | .profileDelete => some .profiles
  | .onboardBegin | .onboardEdit | .onboardSetName | .onboardRevert | .onboardCopyProfile
  | .onboardExit => some .profiles
  | .setMode | .discover | .selectWheel => none

/-- The edits that change more than their own row. -/
def deviceWide (attr : Text) : Bool :=
  attr = "wheel_mode".toList ∨ attr = "wheel_profile".toList ∨ attr = "wheel_led_effect".toList

def profilesState (category : Category) : List Action :=
  if category = .profiles then [.respond .profiles] else []

def slotRow (category : Category) (attr : Text) : List Action :=
  if attr = "wheel_led_slot_name".toList then
    [.attempt (.rowUpdated category "wheel_led_slot".toList)]
  else []

/-- What `handle` does for a request; `ok` says whether an edit succeeded. -/
def handle (ok : Bool) : Request → List Action
  | .loadCategory category =>
      .sendRows category :: profilesState category ++
        if category = .info then [.attempt .info] else []
  | .refresh category => .sendRows category :: profilesState category ++ [.attempt .info]
  | .edit category attr =>
      .write :: slotRow category attr ++ [.attempt (.rowUpdated category attr)] ++
        if deviceWide attr && ok then [.sendRows category, .attempt .info] else []
  | .setMode => [.write, .attempt .info]
  | .profileSave | .profileDelete => [.respond .profiles]
  | .profileApply => [.write, .respond .profiles, .sendRows .profiles, .attempt .info]
  | .onboardBegin | .onboardEdit | .onboardSetName | .onboardRevert | .onboardCopyProfile =>
      [.write, .respond .onboard]
  | .onboardExit => [.write, .respond .onboard, .sendRows .profiles, .attempt .info]
  -- These are taken by the loop before they come here.
  | .discover | .selectWheel => []

/-- What happened, newest first. -/
inductive Happening where
  | sent (response : Response)
  /-- A change that the worker did not make, and what the wheel is in after it. -/
  | changed (snapshot : DriftSnapshot)
  deriving DecidableEq

/-- What the last full rows of a category were read under. -/
def readUnder (category : Category) : List Happening → Option DriftSnapshot
  | [] => none
  | .sent (.rows of under) :: earlier =>
      if of = category then some under else readUnder category earlier
  | _ :: earlier => readUnder category earlier

/-- Since the last full rows of the category were read, a change led away from what they were
read under. -/
def stale (category : Category) : List Happening → Bool
  | [] => false
  | .sent (.rows of _) :: earlier => if of = category then false else stale category earlier
  | .sent _ :: earlier => stale category earlier
  | .changed snapshot :: earlier =>
      (readUnder category earlier).any (· ≠ snapshot) || stale category earlier

/-- What the newest change that the worker did not make led to. -/
def newestChange : List Happening → Option DriftSnapshot
  | [] => none
  | .changed snapshot :: _ => some snapshot
  | .sent _ :: earlier => newestChange earlier

structure State where
  /-- What the managed wheel is in. -/
  wheel : DriftSnapshot
  /-- There is a view model. -/
  vm : Bool
  lastSeen : Option DriftSnapshot
  onScreen : Category
  /-- What is left of the request or the tick at hand. -/
  script : List Action
  /-- The script is that of an idle tick. -/
  ticking : Bool
  /-- An idle tick has completed with the wheel answering, and nothing changed since. -/
  ticked : Bool
  log : List Happening
  deriving DecidableEq

/-- What the wheel and the machine answer while one action runs. -/
structure Outcome where
  /-- The wheel answers, or the read succeeds. -/
  answers : Bool
  /-- What the action's own writes, or the change of wheel, leave behind. -/
  wheel : DriftSnapshot
  deriving DecidableEq

inductive Event where
  | change (snapshot : DriftSnapshot)
  /-- `inRange` says whether a selection is. -/
  | request (request : Request) (ok inRange : Bool)
  | tick
  | perform (outcome : Outcome)
  deriving DecidableEq

namespace State

def send (state : State) (response : Response) : State :=
  { state with log := .sent response :: state.log }

/-- One round of the loop, from a request. -/
def serve (state : State) (request : Request) (ok inRange : Bool) : State :=
  let state := { state with ticking := false }
  match request with
  | .discover => { state with script := [.manage, .respond .wheels, .baseline] }
  | .selectWheel =>
      if inRange then
        { state with
          script := [.manage, .respond .wheels, .dispatch (.loadCategory state.onScreen) true,
            .baseline] }
      else { state with script := [.respond .wheels] }
  | request =>
      { state with
        onScreen := (requestCategory request).getD state.onScreen
        script := [.dispatch request ok, .baseline] }

/-- What `check_drift` sends when the wheel is not where it was last seen. -/
def drifted (state : State) : List Action :=
  if state.lastSeen.any (· ≠ state.wheel) then
    .sendRows state.onScreen :: profilesState state.onScreen ++ [.attempt .info]
  else []

/-- `check_drift` up to its answer. -/
def checkDrift (state : State) (answers : Bool) : State :=
  if state.vm then
    if answers then
      { state with lastSeen := some state.wheel, script := state.drifted ++ state.script }
    else { state with vm := false, lastSeen := none, ticking := false }.send .noWheel
  else { state with ticking := false }

/-- Runs the action that was taken off the script. -/
def run (state : State) (outcome : Outcome) : Action → State
  | .dispatch request ok =>
      { state with
        script := (if state.vm then handle ok request else [.respond .noWheel]) ++ state.script }
  | .write => { state with wheel := outcome.wheel }
  | .sendRows category => state.send (.rows category state.wheel)
  | .respond response => state.send response
  | .attempt response => if outcome.answers then state.send response else state
  | .manage =>
      { state with wheel := outcome.wheel, vm := outcome.answers }.send
        (if outcome.answers then .info else .noWheel)
  | .baseline =>
      { state with lastSeen := if state.vm && outcome.answers then some state.wheel else none }
  | .checkDrift => state.checkDrift outcome.answers

/-- The loop goes round when a script is done. -/
def settle (state : State) : State :=
  if state.script = [] then
    { state with ticked := state.ticked || state.ticking, ticking := false }
  else state

def step (state : State) : Event → Option State
  | .change snapshot =>
      some { state with
        wheel := snapshot, ticked := false, log := .changed snapshot :: state.log }
  | .request request ok inRange =>
      if state.script = [] then some (state.serve request ok inRange) else none
  | .tick =>
      if state.script = [] then some { state with script := [.checkDrift], ticking := true } else none
  | .perform outcome =>
      match state.script with
      | [] => none
      | action :: script => some (({ state with script }.run outcome action).settle)

/-- The thread has discovered, announced, and read its first baseline. -/
def Started (state : State) : Prop :=
  state.script = [] ∧ state.ticking = false ∧ state.ticked = false ∧ state.onScreen = .info ∧
    (state.lastSeen = none ∨ state.vm = true ∧ state.lastSeen = some state.wheel) ∧
    ∀ happening ∈ state.log, ∃ response, happening = .sent response ∧
      ∀ category under, response ≠ .rows category under

end State

def system : System State Event where
  initial := State.Started
  step := State.step

namespace State

def isStale (state : State) : Bool := stale state.onScreen state.log

/-- The baseline is read anew only where no change is pending; and where one is as an idle tick
looks, the last read of the baseline succeeded and the newest change did not lead back to it. -/
def Noticing (state : State) (answers : Bool) : List Action → Prop
  | .baseline :: _ => state.isStale = false
  | .checkDrift :: _ => state.vm = true → answers = true → state.isStale = true →
      state.lastSeen ≠ none ∧ state.lastSeen ≠ newestChange state.log
  | _ => True

/-- Besides, no change falls behind a tick's last read. -/
def Watched (state : State) : Event → Prop
  | .change snapshot => state.ticking = true →
      .checkDrift ∈ state.script ∨ .sendRows state.onScreen ∈ state.script ∨
        ∀ under ∈ readUnder state.onScreen state.log, under = snapshot
  | .perform outcome => state.Noticing outcome.answers state.script
  | .request _ _ _ | .tick => True

end State

/-- The action moves the wheel, or stands for actions that do. -/
def Action.Disturbs : Action → Prop
  | .dispatch _ _ | .write | .manage => True
  | _ => False

/-- The baseline is read anew behind whatever moves the wheel, and a tick looks first of all. -/
def Ordered : List Action → Prop
  | [] => True
  | action :: rest =>
      (action.Disturbs → .baseline ∈ rest) ∧ (action = .checkDrift → rest = []) ∧ Ordered rest

theorem Ordered.append {front rest : List Action} (ordered : Ordered rest)
    (covered : ∀ action ∈ front, action ≠ .checkDrift ∧ (action.Disturbs → .baseline ∈ rest)) :
    Ordered (front ++ rest) := by
  induction front with
  | nil => exact ordered
  | cons action front ih =>
      have own := covered action List.mem_cons_self
      refine ⟨?_, fun looks => absurd looks own.1, ?_⟩
      · exact fun disturbs => List.mem_append_right front (own.2 disturbs)
      · exact ih fun other mem => covered other (List.mem_cons_of_mem action mem)

theorem profilesState_quiet (category : Category) :
    ∀ action ∈ profilesState category, action ≠ .checkDrift ∧ ¬action.Disturbs := by
  intro action mem
  rw [profilesState] at mem
  split at mem
  · rw [List.mem_singleton.mp mem]
    exact ⟨nofun, id⟩
  · cases mem

theorem slotRow_ne_checkDrift (category : Category) (attr : Text) :
    ∀ action ∈ slotRow category attr, action ≠ .checkDrift := by
  intro action mem
  rw [slotRow] at mem
  split at mem
  · rw [List.mem_singleton.mp mem]
    nofun
  · cases mem

theorem handle_ne_checkDrift (ok : Bool) (request : Request) :
    ∀ action ∈ handle ok request, action ≠ .checkDrift := by
  intro action mem
  rintro rfl
  cases request with
  | loadCategory category =>
      have rows := fun known => (profilesState_quiet category .checkDrift known).1 rfl
      simp only [handle, List.cons_append, List.mem_cons, List.mem_append, reduceCtorEq,
        false_or] at mem
      rcases mem with known | info
      · exact rows known
      · split at info <;> simp at info
  | refresh category =>
      have rows := fun known => (profilesState_quiet category .checkDrift known).1 rfl
      simp only [handle, List.cons_append, List.mem_cons, List.mem_append, reduceCtorEq,
        List.not_mem_nil, or_false, false_or] at mem
      exact rows mem
  | edit category attr =>
      have slot := fun known => slotRow_ne_checkDrift category attr .checkDrift known rfl
      simp only [handle, List.cons_append, List.mem_cons, List.mem_append, reduceCtorEq,
        List.not_mem_nil, or_false, false_or] at mem
      rcases mem with known | wide
      · exact slot known
      · split at wide <;> simp at wide
  | _ => simp [handle] at mem

namespace State

theorem drifted_quiet (state : State) :
    ∀ action ∈ state.drifted, action ≠ .checkDrift ∧ ¬action.Disturbs := by
  intro action mem
  rw [drifted] at mem
  split at mem
  · simp only [List.cons_append, List.mem_cons, List.mem_append, List.not_mem_nil,
      or_false] at mem
    rcases mem with rfl | known | rfl
    · exact ⟨fun same => Action.noConfusion same, id⟩
    · exact profilesState_quiet _ action known
    · exact ⟨fun same => Action.noConfusion same, id⟩
  · cases mem

structure Kept (state : State) : Prop where
  ordered : Ordered state.script
  /-- A pending change was the last to move the wheel, until the baseline is to be read anew. -/
  current : state.isStale = true →
    newestChange state.log = some state.wheel ∨ .baseline ∈ state.script ∨ state.vm = false
  ticked : state.ticked = true → state.isStale = false ∨ .baseline ∈ state.script
  ticking : state.ticking = true →
    .checkDrift ∈ state.script ∨ .sendRows state.onScreen ∈ state.script ∨ state.isStale = false

variable {state next : State} {outcome : Outcome} {action : Action} {script : List Action}

theorem stale_sent {category : Category} {log : List Happening} (response : Response)
    (fresh : stale category log = false) :
    stale category (.sent response :: log) = false := by
  cases response with
  | rows of under =>
      rw [stale]
      split
      · rfl
      · exact fresh
  | rowUpdated | info | noWheel | wheels | profiles | onboard => exact fresh

theorem isStale_send (response : Response) (fresh : state.isStale = false) :
    (state.send response).isStale = false := stale_sent response fresh

theorem stale_of_sent {category : Category} {log : List Happening}
    (sent : ∀ happening ∈ log, ∃ response, happening = .sent response) :
    stale category log = false := by
  induction log with
  | nil => rfl
  | cons happening earlier ih =>
      rcases sent happening List.mem_cons_self with ⟨response, rfl⟩
      exact stale_sent response (ih fun other mem => sent other (List.mem_cons_of_mem _ mem))

/-- Sending nothing but what is no row of the page, a script is worked off in front of `rest`. -/
theorem Kept.of_rest (kept : Kept { state with script := action :: script })
    (other : action ≠ .baseline ∧ action ≠ .checkDrift ∧ action ≠ .sendRows state.onScreen)
    {later : State} (onScreen : later.onScreen = state.onScreen)
    (ticked : later.ticked = state.ticked) (ticking : later.ticking = state.ticking)
    (rest : ∀ left ∈ script, left ∈ later.script) (ordered : Ordered later.script)
    (covered : .baseline ∈ later.script ∨ later.wheel = state.wheel ∧ later.vm = state.vm ∧
      newestChange later.log = newestChange state.log)
    (fresh : state.isStale = false → later.isStale = false) : Kept later := by
  have left : ∀ wanted, wanted ≠ action → wanted ∈ action :: script → wanted ∈ later.script := by
    intro wanted apart mem
    exact rest wanted ((List.mem_cons.mp mem).resolve_left apart)
  refine ⟨ordered, ?_, ?_, ?_⟩
  · intro pending
    rcases covered with again | ⟨wheel, vm, newest⟩
    · exact .inr (.inl again)
    · have before : state.isStale = true := by
        by_contra calm
        rw [fresh (Bool.eq_false_iff.mpr calm)] at pending
        cases pending
      rw [newest, wheel, vm]
      exact (kept.current before).imp id (Or.imp (left _ other.1.symm) id)
  · intro done
    rw [ticked] at done
    exact (kept.ticked done).imp fresh (left _ other.1.symm)
  · intro during
    rw [ticking] at during
    rw [onScreen]
    exact (kept.ticking during).imp (left _ other.2.1.symm)
      (Or.imp (left _ other.2.2.symm) fresh)

theorem Kept.checkDrift (kept : Kept { state with script := .checkDrift :: script })
    (watched : state.vm = true → outcome.answers = true → state.isStale = true →
      state.lastSeen ≠ none ∧ state.lastSeen ≠ newestChange state.log) :
    Kept (({ state with script }).checkDrift outcome.answers) := by
  have alone : script = [] := kept.ordered.2.1 rfl
  have current : state.isStale = true →
      newestChange state.log = some state.wheel ∨ .baseline ∈ script ∨ state.vm = false := by
    intro pending
    refine (kept.current pending).imp id (Or.imp (fun mem => ?_) id)
    exact (List.mem_cons.mp mem).resolve_left nofun
  have ticked : state.ticked = true → state.isStale = false ∨ .baseline ∈ script :=
    fun done => (kept.ticked done).imp id (fun mem => (List.mem_cons.mp mem).resolve_left (by simp))
  rw [State.checkDrift]
  split
  · rename_i present
    split
    · rename_i answers
      refine ⟨?_, ?_, fun done => (ticked done).imp id (List.mem_append_right _),
        fun _ => Or.inr ?_⟩
      · apply kept.ordered.2.2.append
        intro action mem
        have quiet := drifted_quiet { state with script } action mem
        exact ⟨quiet.1, fun disturbs => absurd disturbs quiet.2⟩
      · exact fun pending => (current pending).imp id (Or.imp (List.mem_append_right _) id)
      by_cases moved : state.lastSeen.any (· ≠ state.wheel) = true
      · have sends : .sendRows state.onScreen ∈ state.drifted := by
          rw [State.drifted, if_pos moved]
          exact List.mem_append_left _ List.mem_cons_self
        exact Or.inl (List.mem_append_left script sends)
      · -- A pending change would have left the wheel away from the baseline.
        right
        apply Bool.eq_false_iff.mpr
        intro pending
        rcases watched present answers pending with ⟨known, apart⟩
        rcases current pending with newest | mem | gone
        · rcases Option.ne_none_iff_exists'.mp known with ⟨seen, seenLast⟩
          rw [seenLast, newest] at apart
          apply moved
          simp only [seenLast, Option.any_some, decide_eq_true_eq]
          exact fun same => apart (congrArg some same)
        · rw [alone] at mem
          cases mem
        · rw [present] at gone
          cases gone
    · refine ⟨kept.ordered.2.2, fun _ => .inr (.inr rfl),
        fun done => (ticked done).imp (isStale_send .noWheel) id, ?_⟩
      rintro ⟨⟩
  · refine ⟨kept.ordered.2.2, current, ticked, ?_⟩
    rintro ⟨⟩

theorem Kept.run (kept : Kept { state with script := action :: script })
    (watched : Watched { state with script := action :: script } (.perform outcome)) :
    Kept (({ state with script }).run outcome action) := by
  have ordered := kept.ordered.2.2
  cases action with
  | dispatch request ok =>
      have again := kept.ordered.1 trivial
      refine kept.of_rest ⟨by simp, by simp, by simp⟩ rfl rfl rfl ?_ ?_ (.inl ?_) id
      · exact fun wanted mem => List.mem_append_right _ mem
      · apply ordered.append
        intro action mem
        refine ⟨?_, fun _ => again⟩
        split at mem
        · exact handle_ne_checkDrift ok request action mem
        · rw [List.mem_singleton.mp mem]
          nofun
      · exact List.mem_append_right _ again
  | write =>
      have again := kept.ordered.1 trivial
      exact kept.of_rest ⟨by simp, by simp, by simp⟩ rfl rfl rfl (fun _ => id) ordered
        (.inl again) id
  | sendRows category =>
      by_cases same : category = state.onScreen
      · have fresh : (({ state with script }).run outcome (.sendRows category)).isStale = false := by
          simp [State.run, isStale, send, stale, same]
        refine ⟨ordered, fun pending => ?_, fun _ => Or.inl fresh, fun _ => Or.inr (Or.inr fresh)⟩
        rw [fresh] at pending
        cases pending
      · refine kept.of_rest ⟨by simp, by simp, by simp [same]⟩ rfl rfl rfl (fun _ => id) ordered
          (.inr ⟨rfl, rfl, rfl⟩) ?_
        exact stale_sent _
  | respond response =>
      refine kept.of_rest ⟨by simp, by simp, by simp⟩ rfl rfl rfl (fun _ => id) ordered
        (.inr ⟨rfl, rfl, rfl⟩) ?_
      exact stale_sent _
  | attempt response =>
      rw [State.run]
      split
      · refine kept.of_rest ⟨by simp, by simp, by simp⟩ rfl rfl rfl (fun _ => id) ordered
          (.inr ⟨rfl, rfl, rfl⟩) ?_
        exact stale_sent _
      · exact kept.of_rest ⟨by simp, by simp, by simp⟩ rfl rfl rfl (fun _ => id) ordered
          (.inr ⟨rfl, rfl, rfl⟩) id
  | manage =>
      have again := kept.ordered.1 trivial
      refine kept.of_rest ⟨by simp, by simp, by simp⟩ rfl rfl rfl (fun _ => id) ordered
        (.inl again) ?_
      exact stale_sent _
  | baseline =>
      have fresh : state.isStale = false := watched
      refine ⟨ordered, fun pending => ?_, fun _ => Or.inl fresh, fun _ => Or.inr (Or.inr fresh)⟩
      have pending : state.isStale = true := pending
      rw [fresh] at pending
      cases pending
  | checkDrift => exact kept.checkDrift watched

theorem Kept.settle (kept : Kept state) : Kept state.settle := by
  rw [State.settle]
  split
  · rename_i done
    refine ⟨kept.ordered, kept.current, ?_, ?_⟩
    · intro ticked
      rcases Bool.or_eq_true_iff.mp ticked with before | now
      · exact kept.ticked before
      · left
        rcases kept.ticking now with mem | mem | fresh
        · rw [done] at mem
          cases mem
        · rw [done] at mem
          cases mem
        · exact fresh
    · rintro ⟨⟩
  · exact kept

theorem Kept.change (kept : Kept state) (snapshot : DriftSnapshot)
    (watched : Watched state (.change snapshot)) :
    Kept { state with
      wheel := snapshot, ticked := false, log := .changed snapshot :: state.log } := by
  refine ⟨kept.ordered, fun _ => .inl rfl, ?_, ?_⟩
  · rintro ⟨⟩
  · intro during
    rcases watched during with mem | mem | unmoved
    · exact Or.inl mem
    · exact Or.inr (Or.inl mem)
    · refine (kept.ticking during).imp id (Or.imp id fun fresh => ?_)
      have same : (readUnder state.onScreen state.log).any (· ≠ snapshot) = false := by
        cases under : readUnder state.onScreen state.log with
        | none => rfl
        | some under' => simp [unmoved under' under]
      rw [isStale] at fresh ⊢
      rw [stale, fresh, same]
      rfl

theorem Kept.serve (kept : Kept state) (idle : state.script = []) (request : Request)
    (ok inRange : Bool) : Kept (state.serve request ok inRange) := by
  have fresh : state.ticked = true → state.isStale = false := by
    intro done
    refine (kept.ticked done).resolve_right ?_
    rw [idle]
    exact List.not_mem_nil
  cases request with
  | selectWheel =>
      cases inRange with
      | true =>
          refine ⟨by simp [State.serve, Ordered, Action.Disturbs],
            fun _ => Or.inr (Or.inl (by simp [State.serve])),
            fun _ => Or.inr (by simp [State.serve]), ?_⟩
          rintro ⟨⟩
      | false =>
          refine ⟨by simp [State.serve, Ordered, Action.Disturbs], fun pending => ?_,
            fun done => Or.inl (fresh done), ?_⟩
          · rcases kept.current pending with newest | mem | gone
            · exact .inl newest
            · rw [idle] at mem
              cases mem
            · exact .inr (.inr gone)
          · rintro ⟨⟩
  | _ =>
      refine ⟨by simp [State.serve, Ordered, Action.Disturbs],
        fun _ => Or.inr (Or.inl (by simp [State.serve])),
        fun _ => Or.inr (by simp [State.serve]), ?_⟩
      rintro ⟨⟩

theorem Kept.step {event : Event} (kept : Kept state) (watched : Watched state event)
    (stepped : state.step event = some next) : Kept next := by
  cases event with
  | change snapshot =>
      cases stepped
      exact kept.change snapshot watched
  | request request ok inRange =>
      rw [State.step, Option.ite_none_right_eq_some, Option.some.injEq] at stepped
      rcases stepped with ⟨idle, rfl⟩
      exact kept.serve idle request ok inRange
  | tick =>
      rw [State.step, Option.ite_none_right_eq_some, Option.some.injEq] at stepped
      rcases stepped with ⟨idle, rfl⟩
      refine ⟨by simp [Ordered, Action.Disturbs], fun pending => ?_, fun done => Or.inl ?_,
        fun _ => Or.inl (List.mem_singleton_self _)⟩
      · rcases kept.current pending with newest | mem | gone
        · exact .inl newest
        · rw [idle] at mem
          cases mem
        · exact .inr (.inr gone)
      · refine (kept.ticked done).resolve_right ?_
        rw [idle]
        exact List.not_mem_nil
  | perform outcome =>
      rw [State.step] at stepped
      cases pending : state.script with
      | nil =>
          rw [pending] at stepped
          cases stepped
      | cons action script =>
          rw [pending] at stepped
          cases stepped
          have whole : state = { state with script := action :: script } := by rw [← pending]
          rw [whole] at kept watched
          exact (kept.run watched).settle

theorem Kept.initial (started : state.Started) : Kept state := by
  rcases started with ⟨idle, notTicking, notTicked, -, -, sent⟩
  have fresh : state.isStale = false := by
    apply stale_of_sent
    intro happening mem
    rcases sent happening mem with ⟨response, same, _⟩
    exact ⟨response, same⟩
  refine ⟨?_, ?_, ?_, ?_⟩
  · rw [idle]
    trivial
  · intro pending
    rw [fresh] at pending
    cases pending
  · intro done
    rw [notTicked] at done
    cases done
  · intro during
    rw [notTicking] at during
    cases during

end State

/-- In a run that keeps clear of the places where changes are lost, a page that an idle tick has
checked is not stale. -/
theorem page_fresh_after_tick {state : State}
    (reachable : system.ReachableUnder State.Watched state) (idle : state.script = [])
    (ticked : state.ticked = true) : stale state.onScreen state.log = false := by
  have kept : state.Kept := by
    apply reachable.invariant
    · exact fun start started => .initial started
    · exact fun current event next kept watched stepped => kept.step watched stepped
  refine (kept.ticked ticked).resolve_right ?_
  rw [idle]
  exact List.not_mem_nil

section Evening

/-- A worker that has just found a wheel with profiles. -/
def evening : State where
  wheel := (some 1, .onboard)
  vm := true
  lastSeen := some (some 1, .onboard)
  onScreen := .info
  script := []
  ticking := false
  ticked := false
  log := []

theorem evening_started : system.initial evening :=
  ⟨rfl, rfl, rfl, rfl, Or.inr ⟨rfl, rfl⟩, fun _ none => absurd none List.not_mem_nil⟩

/-- The force feedback page is opened, and then the wheel's own button is pressed. -/
def buttonPressed : List Event :=
  [.request (.loadCategory .ffb) true true,
    .perform ⟨true, (some 1, .onboard)⟩, .perform ⟨true, (some 1, .onboard)⟩,
    .perform ⟨true, (some 1, .onboard)⟩, .change (some 2, .onboard)]

/-- An idle tick that sends the rows again. -/
def tickThatSends : List Event :=
  [.tick, .perform ⟨true, (some 2, .onboard)⟩, .perform ⟨true, (some 2, .onboard)⟩,
    .perform ⟨true, (some 2, .onboard)⟩]

instance (state : State) (answers : Bool) :
    ∀ script, Decidable (state.Noticing answers script)
  | .baseline :: _ => inferInstanceAs (Decidable (_ = _))
  | .checkDrift :: _ => inferInstanceAs (Decidable (_ → _ → _ → _ ∧ _))
  | [] | .dispatch _ _ :: _ | .write :: _ | .sendRows _ :: _ | .respond _ :: _ | .attempt _ :: _
  | .manage :: _ => inferInstanceAs (Decidable True)

instance (state : State) : ∀ event, Decidable (state.Watched event)
  | .change snapshot => inferInstanceAs (Decidable (_ → _ ∨ _ ∨ ∀ under ∈ _, under = snapshot))
  | .request _ _ _ | .tick => inferInstanceAs (Decidable True)
  | .perform outcome => inferInstanceAs (Decidable (state.Noticing outcome.answers state.script))

theorem page_fresh_after_button :
    ∃ state : State, state.ticked = true ∧ readUnder .ffb state.log = some (some 2, .onboard) ∧
      stale state.onScreen state.log = false := by
  rcases System.ReachableUnder.of_check system State.Watched evening (buttonPressed ++ tickThatSends)
    (fun state => decide (state.script = [] ∧ state.ticked = true ∧
      readUnder .ffb state.log = some (some 2, .onboard)))
    evening_started (by decide) (by decide) with ⟨state, reachable, checked⟩
  rcases of_decide_eq_true checked with ⟨idle, ticked, read⟩
  exact ⟨state, ticked, read, page_fresh_after_tick reachable idle ticked⟩

/-- A strength set on the page takes the baseline along, and the button goes unnoticed. -/
theorem edit_hides_button :
    ∃ state, system.Reachable state ∧ state.script = [] ∧ state.ticked = true ∧
      stale state.onScreen state.log = true := by
  rcases System.ReachableUnder.of_check system System.anyStep evening
    (buttonPressed ++ [.request (.edit .ffb "wheel_strength".toList) true true,
      .perform ⟨true, (some 2, .onboard)⟩, .perform ⟨true, (some 2, .onboard)⟩,
      .perform ⟨true, (some 2, .onboard)⟩, .perform ⟨true, (some 2, .onboard)⟩, .tick,
      .perform ⟨true, (some 2, .onboard)⟩])
    (fun state => decide (state.script = [] ∧ state.ticked = true ∧
      stale state.onScreen state.log = true))
    evening_started (by decide) (System.runMeets_anyStep _ _) with
    ⟨state, reachable, checked⟩
  exact ⟨state, reachable, of_decide_eq_true checked⟩

end Evening

end TrueForce.Gui.DriftWatch
