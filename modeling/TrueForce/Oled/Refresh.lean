import TrueForce.Foundation.DelayedWork
import TrueForce.Foundation.InFlight
import TrueForce.Foundation.Transition
import TrueForce.Oled.Driver

/-!
# The refresh of the panel

The panel returns to the wheel's menu unless its frame is sent again and again.  A
write of a frame publishes it under the lock and queues the refresh after that; a
write of `off` clears the flag under the lock and cancels the refresh after that.
Any number of writes overlap.

A cancellation that falls on the frame of another write stops the refresh of a frame
that is showing, and a frame that is queued after it was handed back leaves a refresh
behind.  In every run without these, a frame is showing exactly as long as its
refresh is queued or running.
-/

namespace TrueForce.Oled

open TrueForce.Transition TrueForce.DelayedWork TrueForce.CString

inductive StorePhase where
  /-- `off` has cleared the flag and not cancelled the refresh yet. -/
  | handedBack
  /-- `off` waits for the refresh that runs. -/
  | cancelling
  /-- The frame is published and the refresh not queued yet. -/
  | published
  deriving DecidableEq, Repr

inductive Message where
  | frame (payload : Bytes)
  | menu
  deriving DecidableEq, Repr

structure Panel where
  jiffies : ℕ
  oledActive : Bool
  oledFrame : Bytes
  oledText : Bytes
  oledWork : Item
  stores : List StorePhase
  wire : List Message
  deriving DecidableEq, Repr

inductive Event where
  | tick
  | store (buffer : Bytes)
  | cancelBegin (store : ℕ)
  | cancelEnd (store : ℕ)
  | queueWork (store : ℕ)
  | workStart
  | workSection
  deriving DecidableEq, Repr

/-- The writes that hand the screen back. -/
def isOff (buffer : Bytes) : Bool :=
  sysfsStreq (contents buffer) [0x6F, 0x66, 0x66] || sysfsStreq (contents buffer) []

namespace Panel

/-- `hidpp_dd_oled_handback`, under the lock. -/
def handback (panel : Panel) : Panel :=
  { panel with
    oledActive := false
    oledText := []
    stores := panel.stores ++ [.handedBack]
    wire := panel.wire ++ [.menu] }

/-- The section of `wheel_oled_store` that publishes a frame. -/
def publish (panel : Panel) (buffer frame : Bytes) : Panel :=
  { panel with
    oledFrame := frame
    oledText := strim ((contents buffer).take (hidppDdOledText - 1))
    oledActive := true
    stores := panel.stores ++ [.published] }

/-- A write that is refused changes nothing. -/
def store (panel : Panel) (oledCount : ℕ) (buffer : Bytes) : Panel :=
  if isOff buffer then panel.handback
  else
    match hidppDdOledParse buffer oledCount with
    | .ok frame => panel.publish buffer frame
    | .error _ => panel

def cancelBegin (panel : Panel) (store : ℕ) : Panel :=
  { panel with
    oledWork := panel.oledWork.cancelBegin
    stores := panel.stores.set store .cancelling }

def queueWork (panel : Panel) (store : ℕ) : Panel :=
  { panel with
    oledWork := panel.oledWork.modify panel.jiffies
    stores := panel.stores.eraseIdx store }

/-- The section of `hidpp_dd_oled_work_handler`. -/
def workSection (panel : Panel) (refresh : ℕ) : Panel :=
  if panel.oledActive then
    { panel with
      wire := panel.wire ++ [.frame panel.oledFrame]
      oledWork := (panel.oledWork.queue (panel.jiffies + refresh)).finish }
  else { panel with oledWork := panel.oledWork.finish }

def step (refresh oledCount : ℕ) (panel : Panel) : Event → Option Panel
  | .tick => some { panel with jiffies := panel.jiffies + 1 }
  | .store buffer => some (panel.store oledCount buffer)
  | .cancelBegin store =>
      if panel.stores[store]? = some .handedBack then some (panel.cancelBegin store) else none
  | .cancelEnd store =>
      if panel.stores[store]? = some .cancelling then
        panel.oledWork.cancelEnd.map fun oledWork =>
          { panel with oledWork, stores := panel.stores.eraseIdx store }
      else none
  | .queueWork store =>
      if panel.stores[store]? = some .published then some (panel.queueWork store) else none
  | .workStart =>
      (panel.oledWork.start panel.jiffies).map fun oledWork => { panel with oledWork }
  | .workSection =>
      if panel.oledWork.running then some (panel.workSection refresh) else none

def probed (jiffies : ℕ) : Panel where
  jiffies
  oledActive := false
  oledFrame := List.replicate hidppDdOledFrame 0
  oledText := []
  oledWork := .idle
  stores := []
  wire := []

end Panel

/-- Every interleaving of writes and refreshes. -/
def refreshed (refresh oledCount : ℕ) : System Panel Event where
  initial panel := ∃ jiffies, panel = Panel.probed jiffies
  step := Panel.step refresh oledCount

namespace Panel

/-- A cancellation does not fall on a frame whose own write has queued it already, and a write
queues its frame neither into a cancellation nor after the frame was handed back. -/
def Ordered (panel : Panel) : Event → Prop
  | .cancelBegin _ => panel.oledActive = true → .published ∈ panel.stores
  | .queueWork store =>
      if panel.oledWork.cancelling = 0 then
        panel.oledActive = false → .handedBack ∈ panel.stores
      else panel.oledActive = true → .published ∈ panel.stores.eraseIdx store
  | _ => True

instance (panel : Panel) (event : Event) : Decidable (panel.Ordered event) := by
  simp only [Ordered]
  repeat' split
  all_goals infer_instance

/-- While no write is in progress, a frame is showing exactly as long as it is refreshed. -/
def ShowsRefreshed (panel : Panel) : Prop :=
  panel.stores = [] → (panel.oledActive = true ↔ panel.oledWork.busy = true)

/-- What the ordered runs keep. -/
structure Tracked (panel : Panel) : Prop where
  refreshing : panel.oledActive = true → .published ∉ panel.stores →
    panel.oledWork.busy = true ∧ panel.oledWork.cancelling = 0
  /-- A refresh that is left over is about to be cancelled. -/
  queued : panel.oledActive = false → panel.oledWork.due ≠ none → .handedBack ∈ panel.stores
  running : panel.oledActive = false → panel.oledWork.running = true →
    .handedBack ∈ panel.stores ∨ .cancelling ∈ panel.stores

namespace Tracked

variable {refresh oledCount : ℕ} {panel : Panel}

theorem probed (jiffies : ℕ) : Tracked (Panel.probed jiffies) := by
  constructor <;> simp [Panel.probed, Item.idle]

theorem store (tracked : Tracked panel) (buffer : Bytes) :
    Tracked (panel.store oledCount buffer) := by
  simp only [Panel.store]
  split
  · constructor <;> simp [handback]
  · split
    · constructor <;> simp [publish]
    · exact tracked

theorem cancelBegin {store : ℕ} (found : panel.stores[store]? = some .handedBack)
    (ordered : panel.oledActive = true → .published ∈ panel.stores) :
    Tracked (panel.cancelBegin store) where
  refreshing := by
    intro active absent
    exact absurd (InFlight.mem_set_of_ne found .cancelling (ordered active) (by simp)) absent
  queued := by simp [Panel.cancelBegin, Item.cancelBegin]
  running := by
    intro _ _
    exact Or.inr (InFlight.mem_set_self found .cancelling)

theorem cancelEnd {store : ℕ} {oledWork : Item} (tracked : Tracked panel)
    (found : panel.stores[store]? = some .cancelling)
    (ended : panel.oledWork.cancelEnd = some oledWork) :
    Tracked { panel with oledWork, stores := panel.stores.eraseIdx store } := by
  simp only [Item.cancelEnd, Option.ite_none_left_eq_some, Bool.not_eq_true,
    Option.some.injEq] at ended
  rcases ended with ⟨idle, rfl⟩
  constructor
  · intro active absent
    have kept := tracked.refreshing active fun member =>
      absent (InFlight.mem_eraseIdx_of_ne found member (by simp))
    refine ⟨kept.1, ?_⟩
    have none := kept.2
    simp only
    omega
  · intro inactive due
    exact InFlight.mem_eraseIdx_of_ne found (tracked.queued inactive due) (by simp)
  · intro _ runs
    simp [idle] at runs

theorem queueWork {store : ℕ} (tracked : Tracked panel)
    (found : panel.stores[store]? = some .published)
    (ordered : panel.Ordered (.queueWork store)) : Tracked (panel.queueWork store) := by
  have others {phase : StorePhase} (member : phase ∈ panel.stores)
      (different : phase ≠ .published) : phase ∈ panel.stores.eraseIdx store :=
    InFlight.mem_eraseIdx_of_ne found member different
  simp only [Ordered] at ordered
  split at ordered
  · rename_i uncancelled
    constructor
    · intro _ _
      simp [Panel.queueWork, Item.busy, Item.modify_due uncancelled, uncancelled]
    · intro inactive _
      exact others (ordered inactive) (by simp)
    · intro inactive runs
      exact Or.inl (others (ordered inactive) (by simp))
  · rename_i cancelled
    have kept : panel.oledWork.modify panel.jiffies = panel.oledWork := by
      simp [Item.modify, cancelled]
    constructor
    · intro active absent
      exact absurd (ordered active) absent
    · intro inactive due
      simp only [Panel.queueWork, kept] at due
      exact others (tracked.queued inactive due) (by simp)
    · intro inactive runs
      simp only [Panel.queueWork, kept] at runs
      rcases tracked.running inactive runs with member | member
      · exact Or.inl (others member (by simp))
      · exact Or.inr (others member (by simp))

theorem workStart {oledWork : Item} (tracked : Tracked panel)
    (started : panel.oledWork.start panel.jiffies = some oledWork) :
    Tracked { panel with oledWork } := by
  rcases Item.start_cases started with ⟨_, due, rfl⟩
  constructor
  · intro active absent
    exact ⟨by simp [Item.busy], (tracked.refreshing active absent).2⟩
  · simp
  · intro inactive _
    exact Or.inl (tracked.queued inactive due)

theorem workSection (tracked : Tracked panel) : Tracked (panel.workSection refresh) := by
  simp only [Panel.workSection]
  split
  · rename_i active
    constructor
    · intro _ absent
      have uncancelled := (tracked.refreshing active absent).2
      refine ⟨?_, by simpa [Item.finish] using uncancelled⟩
      by_cases unqueued : panel.oledWork.due = none
      · simp [Item.busy, Item.finish, Item.queue, uncancelled, unqueued]
      · simp [Item.busy, Item.finish, Item.queue, unqueued, Option.isSome_iff_ne_none]
    · simp [active]
    · simp [active]
  · rename_i inactive
    constructor
    · simp [inactive]
    · exact tracked.queued
    · simp [Item.finish]

theorem step {event : Event} {next : Panel} (tracked : Tracked panel)
    (ordered : panel.Ordered event) (stepped : panel.step refresh oledCount event = some next) :
    Tracked next := by
  cases event with
  | tick =>
      cases stepped
      exact ⟨tracked.refreshing, tracked.queued, tracked.running⟩
  | store buffer =>
      cases stepped
      exact tracked.store buffer
  | cancelBegin store =>
      simp only [Panel.step, Option.ite_none_right_eq_some, Option.some.injEq] at stepped
      rcases stepped with ⟨found, rfl⟩
      exact cancelBegin found ordered
  | cancelEnd store =>
      simp only [Panel.step, Option.ite_none_right_eq_some, Option.map_eq_some_iff] at stepped
      rcases stepped with ⟨found, oledWork, ended, rfl⟩
      exact tracked.cancelEnd found ended
  | queueWork store =>
      simp only [Panel.step, Option.ite_none_right_eq_some, Option.some.injEq] at stepped
      rcases stepped with ⟨found, rfl⟩
      exact tracked.queueWork found ordered
  | workStart =>
      simp only [Panel.step, Option.map_eq_some_iff] at stepped
      rcases stepped with ⟨oledWork, started, rfl⟩
      exact tracked.workStart started
  | workSection =>
      simp only [Panel.step, Option.ite_none_right_eq_some, Option.some.injEq] at stepped
      rcases stepped with ⟨_, rfl⟩
      exact tracked.workSection

theorem of_reachable (reachable : (refreshed refresh oledCount).ReachableUnder Ordered panel) :
    Tracked panel := by
  apply reachable.invariant
  · intro start initial
    rcases initial with ⟨jiffies, rfl⟩
    exact probed jiffies
  · intro current event next tracked ordered stepped
    exact tracked.step ordered stepped

end Tracked

/-- In every ordered run, a frame that the driver reports as showing is being refreshed, and
nothing is refreshed after it was handed back. -/
theorem shows_refreshed {refresh oledCount : ℕ} {panel : Panel}
    (reachable : (refreshed refresh oledCount).ReachableUnder Ordered panel) :
    panel.ShowsRefreshed := by
  have tracked := Tracked.of_reachable reachable
  intro noStore
  constructor
  · intro active
    exact (tracked.refreshing active (by simp [noStore])).1
  · intro busy
    by_contra inactive
    rw [Bool.not_eq_true] at inactive
    simp only [Item.busy, Bool.or_eq_true, Option.isSome_iff_ne_none] at busy
    rcases busy with due | runs
    · have left := tracked.queued inactive due
      simp [noStore] at left
    · have left := tracked.running inactive runs
      simp [noStore] at left

/-- A frame takes over while `off` still waits for the refresh of the last one. -/
theorem shows_refreshed_takeover : ∃ panel : Panel, panel.ShowsRefreshed ∧
    panel.stores = [] ∧ panel.oledText = [0x42] ∧ panel.oledWork.due = some 51 := by
  have reached := System.ReachableUnder.of_check (refreshed 50 10) Ordered (Panel.probed 1)
    [.store [0x41], .queueWork 0, .workStart, .store [0x6F, 0x66, 0x66], .store [0x42, 0x0A],
      .cancelBegin 0, .workSection, .cancelEnd 0, .queueWork 0, .workStart, .workSection]
    (fun panel => panel.stores.isEmpty && panel.oledText == [0x42] &&
      panel.oledWork.due == some 51)
    ⟨1, rfl⟩ (by decide) (by decide)
  rcases reached with ⟨panel, reachable, checked⟩
  simp only [Bool.and_eq_true, List.isEmpty_iff, beq_iff_eq] at checked
  exact ⟨panel, shows_refreshed reachable, checked.1.1, checked.1.2, checked.2⟩

/-- `off` hands back, a new frame is published and queued, and only then `off` cancels: the frame
counts as showing and is never sent. -/
theorem off_stops_new_frame :
    ∃ panel, (refreshed 50 10).Reachable panel ∧ ¬panel.ShowsRefreshed := by
  have reached : ((refreshed 50 10).run (Panel.probed 1)
      [.store [0x41], .queueWork 0, .workStart, .workSection, .store [0x6F, 0x66, 0x66],
        .store [0x42], .queueWork 1, .cancelBegin 0, .cancelEnd 0]).any
      (fun panel => panel.stores.isEmpty && panel.oledActive && !panel.oledWork.busy) = true := by
    decide
  rcases (Option.any_eq_true _ _).mp reached with ⟨panel, executed, checked⟩
  refine ⟨panel, System.Reachable.of_run _ _ ⟨1, rfl⟩ executed, ?_⟩
  intro shows
  simp only [Bool.and_eq_true, List.isEmpty_iff, Bool.not_eq_true'] at checked
  rcases checked with ⟨⟨noStore, active⟩, unbusy⟩
  rw [(shows noStore).mp active] at unbusy
  cases unbusy

end Panel

end TrueForce.Oled
