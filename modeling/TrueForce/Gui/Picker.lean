import TrueForce.Foundation.RustText
import TrueForce.Foundation.Transition
import Mathlib.Data.List.InsertIdx

/-!
# The wheel picker

The worker lists every attached wheel, manages one of them, and tells the window
which.  The list is made anew by every discovery; the managed wheel is taken out
of it, and put back for the announcement.
-/

namespace TrueForce.Gui

open RustText Transition

inductive WheelModel where
  | unknown
  | rs50
  | gPro
  | g923
  deriving DecidableEq, Repr

abbrev Path := List Text

/-- A discovered `Device`, as far as the picker tells it from others. -/
structure Wheel where
  sysfsKey : Option Path
  model : WheelModel
  deriving DecidableEq

def shortModelLabel : WheelModel → Text
  | .rs50 => "RS50".toList
  | .gPro => "G PRO".toList
  | .g923 => "G923".toList
  | .unknown => "Wheel".toList

/-- Models that occur once are not numbered. -/
def shortLabels (models : List WheelModel) : List Text :=
  models.mapIdx fun i model =>
    if models.count model ≤ 1 then shortModelLabel model
    else
      shortModelLabel model ++ ' ' ::
        Nat.toDigits 10 ((models.take i).count model + 1)

/-- The USB device is two levels above the HID device. -/
def usbDeviceDir (key : Path) : Option Path :=
  if key.length < 2 then none
  else
    let usb := key.dropLast.dropLast
    (usb.getLast?).bind fun name => if ':' ∈ name then none else some usb

def keyOf (wheels : List Wheel) (index : ℕ) : Option Path := wheels[index]?.bind (·.sysfsKey)

def usbOf (wheels : List Wheel) (index : ℕ) : Option Path :=
  (keyOf wheels index).bind usbDeviceDir

def indexOfKey (wheels : List Wheel) : Option Path → ℕ
  | none => 0
  | some key => (wheels.findIdx? fun wheel => wheel.sysfsKey = some key).getD 0

/-- `Response::Wheels`, with the discovery it follows and the wheel that is managed. -/
structure Announcement where
  names : List Text
  active : ℕ
  activeUsb : Option Path
  found : List Wheel
  managed : Option Wheel
  deriving DecidableEq

structure Picker where
  started : Bool := false
  wheels : List Wheel := []
  active : ℕ := 0
  activeKey : Option Path := none
  activeUsb : Option Path := none
  activeModel : WheelModel := .unknown
  /-- The wheel of the view model. -/
  managed : Option Wheel := none
  announced : List Announcement := []
  deriving DecidableEq

namespace Picker

/-- `pick`: what is left, and the wheel that was taken. -/
def pick (wheels : List Wheel) (index : ℕ) : List Wheel × Option Wheel :=
  (wheels.eraseIdx index, wheels[index]?)

/-- `discover_outcome`: a wheel whose info cannot be read is no wheel. -/
def discoverOutcome (picked : Option Wheel) (infoReads : Bool) : Option Wheel :=
  if infoReads then picked else none

/-- `announce_wheels` puts the active wheel back into `remaining`. -/
def announceWheels (picker : Picker) (found remaining : List Wheel) (active : ℕ) : Picker :=
  let models := remaining.map (·.model)
  let at_ := min active models.length
  { picker with
    announced := picker.announced ++ [{
      names := shortLabels (models.insertIdx at_ picker.activeModel)
      active := at_
      activeUsb := picker.activeUsb
      found
      managed := picker.managed }] }

/-- What every discovery ends in: the wheel at `active` is picked and announced. -/
def manage (picker : Picker) (found : List Wheel) (active : ℕ) (infoReads : Bool) : Picker :=
  let (remaining, picked) := pick found active
  let managed := discoverOutcome picked infoReads
  announceWheels { picker with
    started := true
    wheels := remaining
    active
    activeKey := keyOf found active
    activeUsb := usbOf found active
    activeModel := managed.elim .unknown (·.model)
    managed } found remaining active

/-- The thread as it starts. -/
def start (picker : Picker) (found : List Wheel) (infoReads : Bool) : Picker :=
  picker.manage found 0 infoReads

def discover (picker : Picker) (found : List Wheel) (infoReads : Bool) : Picker :=
  picker.manage found (indexOfKey found picker.activeKey) infoReads

/-- Out of range, nothing is picked: the list is announced with the old active wheel put in. -/
def selectWheel (picker : Picker) (index : ℕ) (found : List Wheel) (infoReads : Bool) : Picker :=
  if found.length ≤ index then
    announceWheels { picker with wheels := found } found found (min picker.active found.length)
  else picker.manage found index infoReads

/-- Events carry what the discovery they lead to finds. -/
inductive Event where
  | start (found : List Wheel) (infoReads : Bool)
  | discover (found : List Wheel) (infoReads : Bool)
  /-- A click on the list of an earlier announcement. -/
  | selectWheel (index answering : ℕ) (found : List Wheel) (infoReads : Bool)
  /-- An idle tick, on which the wheel answers or not. -/
  | checkDrift (answers : Bool)
  deriving DecidableEq

def step (picker : Picker) : Event → Option Picker
  | .start found infoReads => if picker.started then none else some (picker.start found infoReads)
  | .discover found infoReads =>
      if picker.started then some (picker.discover found infoReads) else none
  | .selectWheel index answering found infoReads =>
      if picker.started ∧ answering < picker.announced.length then
        some (picker.selectWheel index found infoReads)
      else none
  | .checkDrift answers =>
      if picker.started then
        some { picker with managed := if answers then picker.managed else none }
      else none

def system : System Picker Event where
  initial picker := picker = {}
  step := step

end Picker

/-- The names are those of the wheels found, and the active one is managed. -/
def Announcement.Honest (announcement : Announcement) : Prop :=
  announcement.names = shortLabels (announcement.found.map (·.model)) ∧
    ∀ wheel, announcement.managed = some wheel →
      announcement.found[announcement.active]? = some wheel

instance (announcement : Announcement) : Decidable announcement.Honest :=
  inferInstanceAs (Decidable (_ ∧ _))

namespace Picker

/-- The wheel that an earlier announcement listed at `index`. -/
def listed (picker : Picker) (index answering : ℕ) : Option Wheel :=
  picker.announced[answering]?.bind fun announcement => announcement.found[index]?

/-- What a step announces is honest, and a click takes the wheel that was listed or none. -/
def Truthful (picker next : Picker) (event : Event) : Prop :=
  (∀ announcement ∈ next.announced.drop picker.announced.length, announcement.Honest) ∧
    match event with
    | .selectWheel index answering _ _ =>
        (next.managed.isSome ∧ next.managed = picker.listed index answering) ∨
          next.managed = picker.managed
    | .start _ _ | .discover _ _ | .checkDrift _ => True

/-- There is a wheel at `index`, and its info reads or is not missed. -/
def Manageable (found : List Wheel) (index : ℕ) (infoReads : Bool) : Prop :=
  ∃ wheel, found[index]? = some wheel ∧ (infoReads = true ∨ wheel.model = .unknown)

/-- The discovery offers a wheel to manage, and a click meets the list that it was made on. -/
def Told (picker : Picker) : Event → Prop
  | .start found infoReads => Manageable found 0 infoReads
  | .discover found infoReads =>
      Manageable found (indexOfKey found picker.activeKey) infoReads
  | .selectWheel index answering found infoReads =>
      Manageable found index infoReads ∧
        (infoReads = true ∧ found[index]? = picker.listed index answering ∨
          picker.managed = discoverOutcome found[index]? infoReads)
  | .checkDrift _ => True

theorem length_shortLabels (models : List WheelModel) :
    (shortLabels models).length = models.length := by
  rw [shortLabels, List.length_mapIdx]

theorem head?_shortLabels {models : List WheelModel} {index : ℕ} {model : WheelModel}
    (at_ : models[index]? = some model) :
    ((shortLabels models)[index]?).bind List.head? = (shortModelLabel model).head? := by
  rw [shortLabels, List.getElem?_mapIdx, at_, Option.map_some, Option.bind_some]
  split
  · rfl
  · cases model with
    | unknown => rfl
    | rs50 => rfl
    | gPro => rfl
    | g923 => rfl

theorem set_of_getElem? {α : Type*} {list : List α} {index : ℕ} {value : α}
    (at_ : list[index]? = some value) : list.set index value = list := by
  rcases List.getElem?_eq_some_iff.mp at_ with ⟨inside, rfl⟩
  exact List.set_getElem_self inside

/-- A wheel called by the name of no model is told from the others. -/
theorem shortLabels_set_unknown_iff {models : List WheelModel} {index : ℕ} {model : WheelModel}
    (at_ : models[index]? = some model) :
    shortLabels (models.set index .unknown) = shortLabels models ↔ model = .unknown := by
  constructor
  · intro same
    have inside : index < models.length := (List.getElem?_eq_some_iff.mp at_).1
    have replaced : (models.set index .unknown)[index]? = some .unknown :=
      List.getElem?_set_self inside
    have first := head?_shortLabels replaced
    rw [same, head?_shortLabels at_] at first
    cases model with
    | unknown => rfl
    | rs50 => cases first
    | gPro => cases first
    | g923 => cases first
  · rintro rfl
    rw [set_of_getElem? at_]

theorem insertIdx_eraseIdx_same {α : Type*} (list : List α) {index : ℕ} (inside : index < list.length)
    (value : α) : (list.eraseIdx index).insertIdx index value = list.set index value := by
  induction list generalizing index with
  | nil => cases inside
  | cons head tail ih =>
      cases index with
      | zero => rfl
      | succ index =>
          rw [List.eraseIdx_cons_succ, List.insertIdx_succ_cons, List.set_cons_succ,
            ih (Nat.lt_of_succ_lt_succ inside)]

variable {picker next : Picker} {found : List Wheel} {index : ℕ} {infoReads : Bool}

/-- A list that is one name too long is not that of the wheels found. -/
theorem not_honest_of_insertIdx {announcement : Announcement} (at_ : ℕ) (model : WheelModel)
    (fits : at_ ≤ announcement.found.length)
    (names : announcement.names =
      shortLabels ((announcement.found.map (·.model)).insertIdx at_ model)) :
    ¬announcement.Honest := by
  rintro ⟨same, -⟩
  have lengths := congrArg List.length (names.symm.trans same)
  rw [length_shortLabels, length_shortLabels, List.length_insertIdx_of_le_length (by simpa),
    List.length_map] at lengths
  omega

/-- What `manage` announces. -/
def managedAnnouncement (found : List Wheel) (index : ℕ) (infoReads : Bool) : Announcement :=
  let managed := discoverOutcome found[index]? infoReads
  let models := (found.eraseIdx index).map (·.model)
  let at_ := min index models.length
  { names := shortLabels (models.insertIdx at_ (managed.elim .unknown (·.model)))
    active := at_
    activeUsb := usbOf found index
    found
    managed }

theorem manage_announced : (picker.manage found index infoReads).announced =
    picker.announced ++ [managedAnnouncement found index infoReads] := rfl

theorem manage_managed :
    (picker.manage found index infoReads).managed = discoverOutcome found[index]? infoReads := rfl

theorem managedAnnouncement_of_lt (inside : index < found.length) :
    managedAnnouncement found index infoReads = {
      names := shortLabels ((found.map (·.model)).set index
        ((discoverOutcome found[index]? infoReads).elim .unknown (·.model)))
      active := index
      activeUsb := usbOf found index
      found
      managed := discoverOutcome found[index]? infoReads } := by
  have rest : ((found.eraseIdx index).map (·.model)).length = found.length - 1 := by
    rw [List.length_map, List.length_eraseIdx_of_lt inside]
  have at_ : min index ((found.eraseIdx index).map (·.model)).length = index := by omega
  have whole : index < (found.map (·.model)).length := by rwa [List.length_map]
  simp only [managedAnnouncement, at_]
  rw [← List.eraseIdx_map, insertIdx_eraseIdx_same _ whole]

theorem honest_manage_iff :
    (managedAnnouncement found index infoReads).Honest ↔ Manageable found index infoReads := by
  rcases Nat.lt_or_ge index found.length with inside | outside
  · have here := List.getElem?_eq_getElem inside
    have model : (found.map (·.model))[index]? = some found[index].model := by
      rw [List.getElem?_map, here, Option.map_some]
    rw [managedAnnouncement_of_lt inside, Manageable, here]
    cases infoReads with
    | true =>
        simp only [discoverOutcome, if_true, Option.elim_some, true_or, and_true]
        refine ⟨fun _ => ⟨_, rfl⟩, fun _ => ⟨?_, fun wheel same => here.trans same⟩⟩
        rw [set_of_getElem? model]
    | false =>
        simp only [discoverOutcome, Bool.false_eq_true, if_false, Option.elim_none, false_or]
        constructor
        · rintro ⟨same, -⟩
          exact ⟨_, rfl, (shortLabels_set_unknown_iff model).mp same⟩
        · rintro ⟨_, ⟨⟩, unknown⟩
          refine ⟨(shortLabels_set_unknown_iff model).mpr unknown, ?_⟩
          rintro _ ⟨⟩
  · have none := List.getElem?_eq_none outside
    have same : found.eraseIdx index = found := List.eraseIdx_of_length_le outside
    constructor
    · intro honest
      refine absurd honest (not_honest_of_insertIdx (min index found.length)
        ((discoverOutcome found[index]? infoReads).elim .unknown (·.model))
        (Nat.min_le_right _ _) ?_)
      simp only [managedAnnouncement, same, List.length_map]
    · rintro ⟨wheel, present, -⟩
      rw [none] at present
      cases present

/-- Out of range, the active wheel stands in the list twice. -/
theorem not_honest_out_of_range {announcement : Announcement} (outside : found.length ≤ index)
    (announced : announcement ∈
      (picker.selectWheel index found infoReads).announced.drop picker.announced.length) :
    ¬announcement.Honest := by
  rw [selectWheel, if_pos outside, announceWheels, List.drop_left, List.mem_singleton] at announced
  subst announced
  apply not_honest_of_insertIdx (min (min picker.active found.length) found.length)
    picker.activeModel (Nat.min_le_right _ _)
  simp only [List.length_map]

theorem announced_manage_honest_iff :
    (∀ announcement ∈
        (picker.manage found index infoReads).announced.drop picker.announced.length,
      announcement.Honest) ↔ Manageable found index infoReads := by
  rw [manage_announced, List.drop_left, ← honest_manage_iff]
  simp

theorem select_truthful_iff (answering : ℕ) :
    Truthful picker (picker.selectWheel index found infoReads)
        (.selectWheel index answering found infoReads) ↔
      Told picker (.selectWheel index answering found infoReads) := by
  simp only [Truthful, Told]
  rcases Nat.lt_or_ge index found.length with inside | outside
  · rw [selectWheel, if_neg (Nat.not_le.mpr inside), announced_manage_honest_iff, manage_managed,
      List.getElem?_eq_getElem inside]
    cases infoReads with
    | true => simp [discoverOutcome, eq_comm]
    | false => simp [discoverOutcome, eq_comm]
  · constructor
    · rintro ⟨honest, -⟩
      have announced : (picker.selectWheel index found infoReads).announced.drop
          picker.announced.length ≠ [] := by
        rw [selectWheel, if_pos outside, announceWheels, List.drop_left]
        exact List.cons_ne_nil _ _
      rcases List.exists_mem_of_ne_nil _ announced with ⟨announcement, mem⟩
      exact absurd (honest announcement mem) (not_honest_out_of_range outside mem)
    · rintro ⟨⟨wheel, present, -⟩, -⟩
      rw [List.getElem?_eq_none outside] at present
      cases present

theorem step_truthful_iff {event : Event} (stepped : step picker event = some next) :
    Truthful picker next event ↔ Told picker event := by
  cases event with
  | start found infoReads =>
      rw [step, Option.ite_none_left_eq_some, Option.some.injEq] at stepped
      rcases stepped with ⟨-, rfl⟩
      simp only [Truthful, and_true]
      exact announced_manage_honest_iff
  | discover found infoReads =>
      rw [step, Option.ite_none_right_eq_some, Option.some.injEq] at stepped
      rcases stepped with ⟨-, rfl⟩
      simp only [Truthful, and_true]
      exact announced_manage_honest_iff
  | checkDrift answers =>
      rw [step, Option.ite_none_right_eq_some, Option.some.injEq] at stepped
      rcases stepped with ⟨-, rfl⟩
      simp [Truthful, Told]
  | selectWheel index answering found infoReads =>
      rw [step, Option.ite_none_right_eq_some, Option.some.injEq] at stepped
      rcases stepped with ⟨-, rfl⟩
      exact select_truthful_iff answering

/-- Announcements are only ever added. -/
theorem announced_of_step {event : Event} (stepped : step picker event = some next) :
    picker.announced <+: next.announced := by
  cases event with
  | start found infoReads =>
      rw [step, Option.ite_none_left_eq_some, Option.some.injEq] at stepped
      rcases stepped with ⟨-, rfl⟩
      exact List.prefix_append _ _
  | discover found infoReads =>
      rw [step, Option.ite_none_right_eq_some, Option.some.injEq] at stepped
      rcases stepped with ⟨-, rfl⟩
      exact List.prefix_append _ _
  | checkDrift answers =>
      rw [step, Option.ite_none_right_eq_some, Option.some.injEq] at stepped
      rcases stepped with ⟨-, rfl⟩
      exact List.prefix_rfl
  | selectWheel index answering found infoReads =>
      rw [step, Option.ite_none_right_eq_some, Option.some.injEq] at stepped
      rcases stepped with ⟨-, rfl⟩
      rw [selectWheel]
      split
      · exact List.prefix_append _ _
      · exact List.prefix_append _ _

theorem honest_of_told (reachable : system.ReachableUnder Told picker) :
    ∀ announcement ∈ picker.announced, announcement.Honest := by
  apply reachable.invariant
  · rintro _ rfl
    exact fun _ none => absurd none List.not_mem_nil
  · intro current event next honest told stepped announcement mem
    rcases announced_of_step stepped with ⟨added, grown⟩
    rw [← grown, List.mem_append] at mem
    rcases mem with earlier | new
    · exact honest announcement earlier
    · apply ((step_truthful_iff stepped).mpr told).1
      rw [← grown, List.drop_left]
      exact new

/-- A step of a run tells the truth exactly when it is made on what was listed, and in a run of
such steps every announcement is honest. -/
theorem picker_truthful_iff (picker : Picker) :
    (∀ next event, system.Reachable picker → system.step picker event = some next →
      (Truthful picker next event ↔ Told picker event)) ∧
    (system.ReachableUnder Told picker →
      ∀ announcement ∈ picker.announced, announcement.Honest) :=
  ⟨fun _ _ _ stepped => step_truthful_iff stepped, honest_of_told⟩

section Desk

def deskRs50 : Wheel where
  sysfsKey := some ["1-5.2".toList, "1-5.2:1.1".toList, "0003:046D:C276.0051".toList]
  model := .rs50

def deskG923 : Wheel where
  sysfsKey := some ["1-8".toList, "1-8:1.0".toList, "0003:046D:C266.0052".toList]
  model := .g923

def deskStart : Event := .start [deskRs50, deskG923] true

/-- The thread has announced both wheels of a desk. -/
def desk : Picker := (step {} deskStart).getD {}

theorem deskStart_told : Told {} deskStart := ⟨deskRs50, rfl, Or.inl rfl⟩

theorem picker_truthful_iff_desk :
    Truthful {} desk deskStart ∧ ∀ announcement ∈ desk.announced, announcement.Honest :=
  ⟨((picker_truthful_iff {}).1 desk deskStart (.of_initial rfl) rfl).mpr deskStart_told,
    (picker_truthful_iff desk).2 (.tail (.of_initial rfl) deskStart_told rfl)⟩

/-- The second wheel is unplugged before the click on it is handled: the first is listed twice. -/
theorem unplugged_click_lists_twice :
    ∃ picker next, system.Reachable picker ∧
      system.step picker (.selectWheel 1 0 [deskRs50] true) = some next ∧
      ¬Truthful picker next (.selectWheel 1 0 [deskRs50] true) := by
  refine ⟨desk, (step desk (.selectWheel 1 0 [deskRs50] true)).getD {}, ?_, rfl, ?_⟩
  · apply System.Reachable.of_run {} [deskStart]
    · rfl
    · rfl
  · rintro ⟨honest, -⟩
    have twice : ∃ announcement ∈
        ((step desk (.selectWheel 1 0 [deskRs50] true)).getD {}).announced.drop
          desk.announced.length, ¬announcement.Honest := by decide
    rcases twice with ⟨announcement, mem, dishonest⟩
    exact dishonest (honest announcement mem)

end Desk

end Picker

end TrueForce.Gui
