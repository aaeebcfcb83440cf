import TrueForce.Foundation.Transition
import Mathlib.Data.Int.Notation
import Mathlib.Data.List.Basic

/-!
# Finding a wheel's nodes again

Discovery records for every wheel the directory of its USB device, two levels
above the HID device that a `/sys/class/hidraw` node resolves to.  Later calls find
the wheel's nodes by asking whether their resolved path starts with the characters
of that directory.  The path of a device on port `1-10`, or of one behind a hub on
port `1-1`, starts with the directory of the device on port `1-1` too.

The contents of sysfs are the nodes that are present, in the order in which the
directory is read, and the files below the directories they resolve to.  Numbers in
files are what the library's parsers make of them.  An unreadable directory reads
like an empty one.
-/

namespace TrueForce.Discovery

open TrueForce.Transition

abbrev Name := List Char

abbrev Path := List Char

/-- Cut a path at its last slash, as `strrchr` finds it. -/
def dirname (path : Path) : Option Path :=
  match path.reverse.dropWhile (· ≠ '/') with
  | [] => none
  | _ :: rest => some rest.reverse

/-- The attributes that the library looks for. -/
inductive Attr where
  | wheelRange
  | range
  | wheelTrueforce
  | wheelDamping
  deriving DecidableEq, Repr

/-- What becomes of opening and scanning an attribute file. -/
inductive AttrFile where
  | absent
  | denied
  | text (number : Option ℤ)
  deriving DecidableEq, Repr

structure Node where
  /-- The HID device directory that `device` resolves to. -/
  resolved : Option Path
  file : Attr → AttrFile

structure Fs where
  node : Name → Option Node
  /-- The directory as `readdir` delivers it. -/
  listing : List Name
  complete : ∀ name, name ∈ listing ↔ (node name).isSome = true
  bInterfaceNumber : Path → Option ℤ
  idVendor : Path → Option UInt16
  idProduct : Path → Option UInt16

namespace Fs

def realpath (fs : Fs) (name : Name) : Option Path := (fs.node name).bind Node.resolved

/-- The directory of the USB device that a node belongs to. -/
def owner (fs : Fs) (name : Name) : Option Path :=
  ((fs.realpath name).bind dirname).bind dirname

def interfaceNumber (fs : Fs) (name : Name) : Option ℤ :=
  ((fs.realpath name).bind dirname).bind fs.bInterfaceNumber

def file (fs : Fs) (name : Name) (attr : Attr) : AttrFile :=
  match fs.node name with
  | some node => node.file attr
  | none => .absent

def reorder (fs : Fs) (order : List Name) (perm : order.Perm fs.listing) : Fs :=
  { fs with
    listing := order
    complete := fun name => perm.mem_iff.trans (fs.complete name) }

end Fs

def logitfMaxControllers : ℕ := 4

def logitfIfaceTf : ℤ := 2

def logitfLogiVid : UInt16 := 0x046d

def logitfRs50Pid : UInt16 := 0xc276

def logitfGproXboxPid : UInt16 := 0xc272

def logitfGproPsPid : UInt16 := 0xc268

structure Wheel where
  vid : UInt16
  pid : UInt16
  /-- The node of `hidraw_path`, which is `/dev/` and this name. -/
  hidraw : Name
  usbRoot : Path
  deriving DecidableEq, Repr

def isHidraw (name : Name) : Bool := "hidraw".toList.isPrefixOf name

def hidrawUsbIds (fs : Fs) (name : Name) : Option (UInt16 × UInt16 × ℤ) := do
  let resolved ← fs.realpath name
  let interface ← dirname resolved
  let ifnum ← fs.bInterfaceNumber interface
  let device ← dirname interface
  let vid ← fs.idVendor device
  let pid ← fs.idProduct device
  return (vid, pid, ifnum)

def isSupportedWheel (vid pid : UInt16) : Bool :=
  vid == logitfLogiVid &&
    (pid == logitfRs50Pid || pid == logitfGproXboxPid || pid == logitfGproPsPid)

/-- One round of the loop of `logitf_discover`. -/
def discoverNode (fs : Fs) (name : Name) : Option Wheel :=
  if !isHidraw name then none
  else
    match hidrawUsbIds fs name with
    | none => none
    | some (vid, pid, ifnum) =>
        if !isSupportedWheel vid pid then none
        else if ifnum ≠ logitfIfaceTf then none
        else some { vid, pid, hidraw := name, usbRoot := (fs.owner name).getD [] }

def logitfDiscover (fs : Fs) : List Wheel :=
  (fs.listing.filterMap (discoverNode fs)).take logitfMaxControllers

/-- The `strncmp` of a resolved path with the recorded directory. -/
def underRoot (fs : Fs) (wheel : Wheel) (name : Name) : Bool :=
  match fs.realpath name with
  | none => false
  | some resolved => wheel.usbRoot.isPrefixOf resolved

def hidrawIsThisWheel (fs : Fs) (wheel : Wheel) (name : Name) : Bool :=
  match hidrawUsbIds fs name with
  | none => false
  | some (vid, pid, ifnum) =>
      if vid ≠ wheel.vid ∨ pid ≠ wheel.pid ∨ ifnum ≠ logitfIfaceTf then false
      else if wheel.usbRoot = [] then true
      else underRoot fs wheel name

def logitfReresolveHidraw (fs : Fs) (wheel : Wheel) : Option Wheel :=
  if wheel.hidraw ≠ [] ∧ hidrawIsThisWheel fs wheel wheel.hidraw then some wheel
  else
    (fs.listing.find? fun name => isHidraw name && hidrawIsThisWheel fs wheel name).map
      fun name => { wheel with hidraw := name }

def findAttrPath (fs : Fs) (wheel : Wheel) (attr : Attr) : Option Name :=
  if wheel.usbRoot = [] then none
  else
    fs.listing.find? fun name =>
      isHidraw name && underRoot fs wheel name && decide (fs.file name attr ≠ .absent)

/-- The loop of `read_wheel_range_deg`: the nodes it opens, and the number it ends with. -/
def rangeLoop (fs : Fs) (wheel : Wheel) : List Name → List Name × Option ℤ
  | [] => ([], none)
  | name :: rest =>
      if isHidraw name && underRoot fs wheel name then
        match fs.file name .wheelRange with
        | .text (some number) => ([name], some number)
        | .text none => (name :: (rangeLoop fs wheel rest).1, (rangeLoop fs wheel rest).2)
        | _ => rangeLoop fs wheel rest
      else rangeLoop fs wheel rest

def readWheelRangeDeg (fs : Fs) (wheel : Wheel) : List Name × ℤ :=
  if wheel.usbRoot = [] then ([], 1080)
  else
    let (opened, number) := rangeLoop fs wheel fs.listing
    (opened, if number.getD 1080 > 0 then number.getD 1080 else 1080)

inductive Event where
  /-- Devices come and go, and the directory may be read in another order. -/
  | plug (fs : Fs)
  | reresolve

structure State where
  fs : Fs
  wheel : Wheel

def State.step (state : State) : Event → Option State
  | .plug fs => some { state with fs }
  | .reresolve =>
      some { state with
        wheel := (logitfReresolveHidraw state.fs state.wheel).getD state.wheel }

def recorded : System State Event where
  initial state := state.wheel ∈ logitfDiscover state.fs ∧ state.wheel.usbRoot ≠ []
  step := State.step

/-- With the directory in its present order, no call acts on a node of another USB device. -/
structure ActsOnOwn (fs : Fs) (wheel : Wheel) : Prop where
  settles : ∀ next, logitfReresolveHidraw fs wheel = some next →
    fs.owner next.hidraw = some wheel.usbRoot
  fails : (∀ name ∈ fs.listing, fs.owner name = some wheel.usbRoot →
    fs.interfaceNumber name ≠ some logitfIfaceTf) → logitfReresolveHidraw fs wheel = none
  attr : ∀ attr name, findAttrPath fs wheel attr = some name →
    fs.owner name = some wheel.usbRoot
  range : ∀ name ∈ (readWheelRangeDeg fs wheel).1, fs.owner name = some wheel.usbRoot

def State.ActsOnOwnInAnyOrder (state : State) : Prop :=
  ∀ (order : List Name) (perm : order.Perm state.fs.listing),
    ActsOnOwn (state.fs.reorder order perm) state.wheel

/-- A node of another USB device whose path starts with the characters of the root. -/
structure Alias (fs : Fs) (wheel : Wheel) (name : Name) : Prop where
  hidraw : isHidraw name = true
  under : underRoot fs wheel name = true
  foreign : fs.owner name ≠ some wheel.usbRoot

/-- Vendor, product and interface are those of the wheel's stream. -/
def HasIds (fs : Fs) (wheel : Wheel) (name : Name) : Prop :=
  hidrawUsbIds fs name = some (wheel.vid, wheel.pid, logitfIfaceTf)

/--
The wheel still has its node, or no alias has its ids; and no alias has
attributes.
-/
def State.Unaliased (state : State) : Prop :=
  ((HasIds state.fs state.wheel state.wheel.hidraw ∧
      state.fs.owner state.wheel.hidraw = some state.wheel.usbRoot) ∨
    ∀ name, Alias state.fs state.wheel name → ¬ HasIds state.fs state.wheel name) ∧
  ∀ name attr, Alias state.fs state.wheel name → state.fs.file name attr = .absent

theorem dirname_leads {path directory : Path} (cut : dirname path = some directory) :
    directory <+: path := by
  simp only [dirname] at cut
  split at cut
  · cases cut
  · rename_i slash rest found
    cases cut
    have suffix := List.dropWhile_suffix (l := path.reverse) (· ≠ '/')
    rw [found] at suffix
    have whole : (slash :: rest).reverse <+: path := by
      rw [← List.reverse_suffix, List.reverse_reverse]
      exact suffix
    rw [List.reverse_cons] at whole
    exact (List.prefix_append _ _).trans whole

theorem underRoot_of_owner {fs : Fs} {wheel : Wheel} {name : Name}
    (own : fs.owner name = some wheel.usbRoot) :
    underRoot fs wheel name = true := by
  simp only [Fs.owner, Option.bind_eq_some_iff] at own
  rcases own with ⟨interface, ⟨resolved, found, up⟩, device⟩
  simp only [underRoot, found, List.isPrefixOf_iff_prefix]
  exact (dirname_leads device).trans (dirname_leads up)

theorem hidrawIsThisWheel_iff {fs : Fs} {wheel : Wheel} (rooted : wheel.usbRoot ≠ [])
    (name : Name) :
    hidrawIsThisWheel fs wheel name = true ↔
      HasIds fs wheel name ∧ underRoot fs wheel name = true := by
  simp only [hidrawIsThisWheel, HasIds]
  split
  · simp_all
  · rename_i vid pid ifnum found
    simp only [rooted, ↓reduceIte, found, Option.some.injEq, Prod.mk.injEq]
    split
    · rename_i differs
      simp only [Bool.false_eq_true, false_iff, not_and]
      rintro ⟨sameVid, samePid, sameIf⟩
      simp_all
    · rename_i same
      simp only [not_or, not_not] at same
      simp [same]

theorem mem_listing_of_under {fs : Fs} {wheel : Wheel} {name : Name}
    (under : underRoot fs wheel name = true) :
    name ∈ fs.listing := by
  rw [fs.complete]
  simp only [underRoot, Fs.realpath] at under
  cases present : fs.node name with
  | none => simp [present] at under
  | some node => rfl

/-- The directory read with a given node first. -/
theorem exists_first {fs : Fs} {name : Name} (member : name ∈ fs.listing) :
    ∃ rest, (name :: rest).Perm fs.listing :=
  ⟨fs.listing.erase name, (List.perm_cons_erase member).symm⟩

theorem interfaceNumber_of_ids {fs : Fs} {wheel : Wheel} {name : Name}
    (ids : HasIds fs wheel name) :
    fs.interfaceNumber name = some logitfIfaceTf := by
  simp only [HasIds, hidrawUsbIds, Option.bind_eq_bind, Option.bind_eq_some_iff, Option.pure_def,
    Option.some.injEq, Prod.mk.injEq] at ids
  rcases ids with ⟨resolved, found, interface, up, ifnum, number, _, _, _, _, _, _, _, _, same⟩
  simp [Fs.interfaceNumber, found, up, number, same]

theorem reresolve_usbRoot {fs : Fs} {wheel next : Wheel}
    (settled : logitfReresolveHidraw fs wheel = some next) :
    next.usbRoot = wheel.usbRoot := by
  simp only [logitfReresolveHidraw] at settled
  split at settled
  · cases settled
    rfl
  · rcases Option.map_eq_some_iff.mp settled with ⟨name, _, rfl⟩
    rfl

theorem rangeLoop_opened {fs : Fs} {wheel : Wheel} {names : List Name} {name : Name}
    (opened : name ∈ (rangeLoop fs wheel names).1) :
    isHidraw name = true ∧ underRoot fs wheel name = true ∧
      fs.file name .wheelRange ≠ .absent := by
  induction names with
  | nil => cases opened
  | cons first rest ih =>
      simp only [rangeLoop] at opened
      split at opened
      · rename_i under
        simp only [Bool.and_eq_true] at under
        split at opened
        · rename_i number text
          rw [List.mem_singleton.mp opened]
          exact ⟨under.1, under.2, by simp [text]⟩
        · rename_i text
          rcases List.mem_cons.mp opened with rfl | later
          · exact ⟨under.1, under.2, by simp [text]⟩
          · exact ih later
        · exact ih opened
      · exact ih opened

section

variable {fs : Fs} {wheel : Wheel} (rooted : wheel.usbRoot ≠ [])

include rooted

theorem reresolve_cached (named : wheel.hidraw ≠ []) (ids : HasIds fs wheel wheel.hidraw)
    (under : underRoot fs wheel wheel.hidraw = true) :
    logitfReresolveHidraw fs wheel = some wheel := by
  have isThis := (hidrawIsThisWheel_iff rooted wheel.hidraw).mpr ⟨ids, under⟩
  simp [logitfReresolveHidraw, named, isThis]

theorem reresolve_first {name : Name} {rest : List Name} (first : fs.listing = name :: rest)
    (hidraw : isHidraw name = true) (ids : HasIds fs wheel name)
    (under : underRoot fs wheel name = true)
    (lost : ¬ (HasIds fs wheel wheel.hidraw ∧ underRoot fs wheel wheel.hidraw = true)) :
    logitfReresolveHidraw fs wheel = some { wheel with hidraw := name } := by
  have isThis := (hidrawIsThisWheel_iff rooted name).mpr ⟨ids, under⟩
  have notCached : ¬ hidrawIsThisWheel fs wheel wheel.hidraw = true := by
    rw [hidrawIsThisWheel_iff rooted]
    exact lost
  simp [logitfReresolveHidraw, notCached, first, hidraw, isThis]

theorem findAttrPath_first {name : Name} {rest : List Name} (first : fs.listing = name :: rest)
    (hidraw : isHidraw name = true) (under : underRoot fs wheel name = true) {attr : Attr}
    (exposed : fs.file name attr ≠ .absent) :
    findAttrPath fs wheel attr = some name := by
  simp [findAttrPath, rooted, first, hidraw, under, exposed]

/-- What the re-resolution settles on has the wheel's ids and lies under its root. -/
theorem reresolve_spec (hidraw : isHidraw wheel.hidraw = true) {next : Wheel}
    (settled : logitfReresolveHidraw fs wheel = some next) :
    isHidraw next.hidraw = true ∧ HasIds fs wheel next.hidraw ∧
      underRoot fs wheel next.hidraw = true ∧
      (next = wheel ∨
        ¬ (HasIds fs wheel wheel.hidraw ∧ underRoot fs wheel wheel.hidraw = true)) := by
  have named : wheel.hidraw ≠ [] := by
    intro empty
    rw [empty] at hidraw
    exact absurd hidraw (by decide)
  simp only [logitfReresolveHidraw] at settled
  split at settled
  · rename_i cached
    cases settled
    rcases (hidrawIsThisWheel_iff rooted _).mp cached.2 with ⟨ids, under⟩
    exact ⟨hidraw, ids, under, .inl rfl⟩
  · rename_i notCached
    rcases Option.map_eq_some_iff.mp settled with ⟨name, found, rfl⟩
    have holds := List.find?_some found
    simp only [Bool.and_eq_true] at holds
    rcases (hidrawIsThisWheel_iff rooted name).mp holds.2 with ⟨ids, under⟩
    refine ⟨holds.1, ids, under, .inr ?_⟩
    rw [← hidrawIsThisWheel_iff rooted]
    exact fun isThis => notCached ⟨named, isThis⟩

end

theorem State.actsOnOwn_of_unaliased {state : State} (rooted : state.wheel.usbRoot ≠ [])
    (hidraw : isHidraw state.wheel.hidraw = true) (unaliased : state.Unaliased) :
    state.ActsOnOwnInAnyOrder := by
  intro order perm
  rcases unaliased with ⟨kept, attributes⟩
  have own : ∀ {name : Name} {attr : Attr}, isHidraw name = true →
      underRoot state.fs state.wheel name = true → state.fs.file name attr ≠ .absent →
      state.fs.owner name = some state.wheel.usbRoot := by
    intro name attr isNode under exposed
    by_contra foreign
    exact exposed (attributes name attr ⟨isNode, under, foreign⟩)
  have settles : ∀ next, logitfReresolveHidraw (state.fs.reorder order perm) state.wheel =
      some next → state.fs.owner next.hidraw = some state.wheel.usbRoot := by
    intro next settled
    rcases reresolve_spec rooted hidraw settled with ⟨isNode, ids, under, cached⟩
    rcases kept with ⟨ownIds, own⟩ | noAlias
    · rcases cached with rfl | lost
      · exact own
      · exact absurd ⟨ownIds, underRoot_of_owner own⟩ lost
    · by_contra foreign
      exact noAlias next.hidraw ⟨isNode, under, foreign⟩ ids
  refine ⟨settles, ?_, ?_, ?_⟩
  · intro gone
    by_contra found
    rcases Option.ne_none_iff_exists'.mp found with ⟨next, settled⟩
    rcases reresolve_spec rooted hidraw settled with ⟨_, ids, under, _⟩
    exact gone next.hidraw (mem_listing_of_under under) (settles next settled)
      (interfaceNumber_of_ids ids)
  · intro attr name found
    simp only [findAttrPath, rooted, ↓reduceIte] at found
    have holds := List.find?_some found
    simp only [Bool.and_eq_true, decide_eq_true_eq] at holds
    exact own holds.1.1 holds.1.2 holds.2
  · intro name opened
    simp only [readWheelRangeDeg, rooted, ↓reduceIte] at opened
    rcases rangeLoop_opened opened with ⟨isNode, under, exposed⟩
    exact own isNode under exposed

theorem State.unaliased_of_actsOnOwn {state : State} (rooted : state.wheel.usbRoot ≠ [])
    (hidraw : isHidraw state.wheel.hidraw = true) (acts : state.ActsOnOwnInAnyOrder) :
    state.Unaliased := by
  have named : state.wheel.hidraw ≠ [] := by
    intro empty
    rw [empty] at hidraw
    exact absurd hidraw (by decide)
  constructor
  · by_cases cached : HasIds state.fs state.wheel state.wheel.hidraw ∧
        underRoot state.fs state.wheel state.wheel.hidraw = true
    · -- The cached node is accepted in every order, so it is the wheel's.
      have settled := reresolve_cached rooted named cached.1 cached.2
      exact .inl ⟨cached.1, (acts state.fs.listing (.refl _)).settles state.wheel settled⟩
    · right
      intro name isAlias ids
      rcases exists_first (mem_listing_of_under isAlias.under) with ⟨rest, perm⟩
      have settled : logitfReresolveHidraw (state.fs.reorder (name :: rest) perm) state.wheel =
          some { state.wheel with hidraw := name } :=
        reresolve_first rooted rfl isAlias.hidraw ids isAlias.under cached
      exact isAlias.foreign ((acts (name :: rest) perm).settles _ settled)
  · intro name attr isAlias
    by_contra exposed
    rcases exists_first (mem_listing_of_under isAlias.under) with ⟨rest, perm⟩
    have found : findAttrPath (state.fs.reorder (name :: rest) perm) state.wheel attr =
        some name := by
      apply findAttrPath_first rooted
      · rfl
      · exact isAlias.hidraw
      · exact isAlias.under
      · exact exposed
    exact isAlias.foreign ((acts (name :: rest) perm).attr attr name found)

theorem discoverNode_spec {fs : Fs} {name : Name} {wheel : Wheel}
    (found : discoverNode fs name = some wheel) :
    isHidraw name = true ∧ wheel.hidraw = name ∧ wheel.usbRoot = (fs.owner name).getD [] := by
  simp only [discoverNode] at found
  split at found
  · cases found
  · rename_i isNode
    split at found
    · cases found
    · split at found
      · cases found
      · split at found
        · cases found
        · cases found
          exact ⟨by simpa using isNode, rfl, rfl⟩

theorem recorded_invariant {state : State} (reachable : recorded.Reachable state) :
    state.wheel.usbRoot ≠ [] ∧ isHidraw state.wheel.hidraw = true := by
  apply System.ReachableUnder.invariant reachable
  · rintro start ⟨discovered, rooted⟩
    rcases List.mem_filterMap.mp (List.mem_of_mem_take discovered) with ⟨name, _, found⟩
    rcases discoverNode_spec found with ⟨isNode, same, _⟩
    rw [same]
    exact ⟨rooted, isNode⟩
  · intro current event next held _ stepped
    rcases held with ⟨rooted, isNode⟩
    cases event with
    | plug fs =>
        cases stepped
        exact ⟨rooted, isNode⟩
    | reresolve =>
        cases stepped
        cases settled : logitfReresolveHidraw current.fs current.wheel with
        | none => exact ⟨rooted, isNode⟩
        | some wheel =>
            rcases reresolve_spec rooted isNode settled with ⟨stillNode, _⟩
            simp only [Option.getD_some, reresolve_usbRoot settled]
            exact ⟨rooted, stillNode⟩

/-- Discovery records the directory of the device that its node belongs to. -/
theorem discovered_owner {fs : Fs} {wheel : Wheel} (discovered : wheel ∈ logitfDiscover fs)
    (rooted : wheel.usbRoot ≠ []) :
    fs.owner wheel.hidraw = some wheel.usbRoot := by
  rcases List.mem_filterMap.mp (List.mem_of_mem_take discovered) with ⟨name, _, found⟩
  rcases discoverNode_spec found with ⟨_, same, root⟩
  cases own : fs.owner name with
  | none => simp [own, root] at rooted
  | some directory => rw [same, root, own, Option.getD_some]

/--
For every wheel that discovery has recorded with its root, and every content of
sysfs later on: whatever the order of the directory, the calls act on nodes of
that wheel alone, and fail to re-resolve one that is gone, exactly when the wheel
still has its node or no alias of its root has its ids, and no alias has
attributes.
-/
theorem acts_on_own_iff_unaliased {state : State} (reachable : recorded.Reachable state) :
    state.ActsOnOwnInAnyOrder ↔ state.Unaliased := by
  rcases recorded_invariant reachable with ⟨rooted, isNode⟩
  exact ⟨State.unaliased_of_actsOnOwn rooted isNode, State.actsOnOwn_of_unaliased rooted isNode⟩

/-- The stream interfaces of RS50 wheels, each with its range attribute. -/
def rs50Nodes (nodes : List (Name × Path)) : Fs where
  node name := (nodes.lookup name).map fun resolved =>
    { resolved := some resolved
      file := fun attr => if attr = .wheelRange then .text (some 900) else .absent }
  listing := nodes.map Prod.fst
  complete := by
    intro name
    rw [Option.isSome_map]
    induction nodes with
    | nil => simp
    | cons node nodes ih =>
        rcases node with ⟨first, resolved⟩
        by_cases same : name = first
        · simp [same]
        · have differs : (name == first) = false := by simpa using same
          simp only [List.map_cons, List.mem_cons, same, false_or, List.lookup_cons, differs]
          exact ih
  bInterfaceNumber _ := some 2
  idVendor _ := some 0x046d
  idProduct _ := some 0xc276

def rs50OnPort1 : List (Name × Path) :=
  [("hidraw3".toList, "/sys/devices/usb1/1-1/1-1:1.2/0003:046D:C276.0003".toList)]

def rs50OnPort10 : List (Name × Path) :=
  [("hidraw3".toList, "/sys/devices/usb1/1-10/1-10:1.2/0003:046D:C276.0004".toList)]

def rs50Recorded : Wheel where
  vid := 0x046d
  pid := 0xc276
  hidraw := "hidraw3".toList
  usbRoot := "/sys/devices/usb1/1-1".toList

theorem rs50Recorded_discovered :
    rs50Recorded ∈ logitfDiscover (rs50Nodes rs50OnPort1) ∧ rs50Recorded.usbRoot ≠ [] := by
  decide

/-- A wheel that stays plugged in is found again, and its range is read from it. -/
theorem rs50_acts_on_own :
    ∃ state, recorded.Reachable state ∧ state.ActsOnOwnInAnyOrder ∧
      findAttrPath state.fs state.wheel .wheelRange = some "hidraw3".toList := by
  have reachable : recorded.Reachable { fs := rs50Nodes rs50OnPort1, wheel := rs50Recorded } :=
    System.ReachableUnder.of_initial rs50Recorded_discovered
  have own : (rs50Nodes rs50OnPort1).owner "hidraw3".toList = some rs50Recorded.usbRoot := by
    decide
  refine ⟨_, reachable, (acts_on_own_iff_unaliased reachable).mpr ⟨.inl ⟨?_, own⟩, ?_⟩, ?_⟩
  · simp only [HasIds]
    decide
  · intro name attr isAlias
    have listed := mem_listing_of_under isAlias.under
    simp only [rs50Nodes, rs50OnPort1, List.map_cons, List.map_nil, List.mem_singleton] at listed
    rw [listed] at isAlias
    exact absurd own isAlias.foreign
  · decide

/--
The wheel on port `1-1` is unplugged and another one on port `1-10` takes its
number over: the re-resolution settles on the other wheel.
-/
theorem reresolve_settles_on_other_wheel :
    ∃ state, recorded.Reachable state ∧
      logitfReresolveHidraw state.fs state.wheel = some state.wheel ∧
      state.fs.owner state.wheel.hidraw = some "/sys/devices/usb1/1-10".toList ∧
      ¬ ActsOnOwn state.fs state.wheel := by
  have initial : recorded.initial { fs := rs50Nodes rs50OnPort1, wheel := rs50Recorded } :=
    rs50Recorded_discovered
  have reachable : recorded.Reachable { fs := rs50Nodes rs50OnPort10, wheel := rs50Recorded } :=
    System.Reachable.of_run _ [.plug (rs50Nodes rs50OnPort10)] initial rfl
  have settled : logitfReresolveHidraw (rs50Nodes rs50OnPort10) rs50Recorded =
      some rs50Recorded := by
    decide
  have other : (rs50Nodes rs50OnPort10).owner rs50Recorded.hidraw =
      some "/sys/devices/usb1/1-10".toList := by
    decide
  refine ⟨_, reachable, settled, other, ?_⟩
  intro acts
  have own := acts.settles _ settled
  rw [other] at own
  exact absurd own (by decide)

end TrueForce.Discovery
