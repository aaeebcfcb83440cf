import TrueForce.Foundation.EffectTable
import TrueForce.Foundation.Transition

/-!
# The constant torque of the kinetic force

The library keeps one `FF_CONSTANT` effect on the wheel's event device, whose file
it shares with the reader of the wheel angle.  `kf_effect_id` names that effect and
stands for "none yet" when it is negative.  `kf_ensure_open` also takes 0 for "none
yet", although 0 is an id the kernel may give.

A call runs under the device lock and is one step.  What the kernel answers to an
open, an upload or a write is an argument of the call.
-/

namespace TrueForce.Kf

open TrueForce.Foundation TrueForce.Transition

-- The product ids that `dd_peak_torque_nm` distinguishes.

def logitfGproXboxPid : UInt16 := 0xc272

def logitfGproPsPid : UInt16 := 0xc268

def ddPeakTorqueNm (pid : UInt16) : Float :=
  if pid = logitfGproXboxPid ∨ pid = logitfGproPsPid then 11.0 else 8.0

/-- The torque that a request stands for: nothing that is not finite, nothing past the peak. -/
def clampTorque (peak torqueNm : Float) : Float :=
  let torqueNm := if torqueNm.isFinite then torqueNm else 0.0
  let torqueNm := if torqueNm > peak then peak else torqueNm
  if torqueNm < -peak then -peak else torqueNm

/-- The level of a request on a wheel. -/
def torqueLevel (pid : UInt16) (torqueNm : Float) : Int16 :=
  let peak := ddPeakTorqueNm pid
  (clampTorque peak torqueNm * 32767.0 / peak).toInt16

inductive Result where
  | ok
  | notFound
  /-- `LOGITF_ERR_BUSY` or `LOGITF_ERR_IO`, by the error of the call that failed. -/
  | failed
  deriving DecidableEq, Repr

structure Device where
  pid : UInt16
  /-- Discovery has found a sibling event device. -/
  hasEvdev : Bool
  evdevOpen : Bool
  kfEffectId : ℤ
  kfPlaying : Bool
  kfLastNm : Float
  /-- The effects of the open file. -/
  effects : EffectTable Int16

def Device.discovered (pid : UInt16) (hasEvdev : Bool) : Device where
  pid
  hasEvdev
  evdevOpen := false
  kfEffectId := -1
  kfPlaying := false
  kfLastNm := 0.0
  effects := []

namespace Device

def logitfEvdevEnsureOpen (device : Device) (opens : Bool) : Device × Result :=
  if device.evdevOpen then (device, .ok)
  else if !device.hasEvdev then (device, .notFound)
  else if opens then ({ device with evdevOpen := true }, .ok)
  else (device, .failed)

def kfEnsureOpen (device : Device) (opens : Bool) : Device × Result :=
  let (device, result) := device.logitfEvdevEnsureOpen opens
  if result = .ok ∧ device.kfEffectId = 0 then ({ device with kfEffectId := -1 }, result)
  else (device, result)

def kfUpload (device : Device) (level : Int16) (reply : UploadReply) : Option Device :=
  (device.effects.upload device.kfEffectId level reply).map fun (effects, kfEffectId) =>
    { device with effects, kfEffectId }

/-- The write of a playback event, with its effect on the file when it is accepted. -/
def kfPlay (device : Device) (start written : Bool) : Device × Bool :=
  if written then
    ({ device with
        effects := device.effects.play (UInt16.ofInt device.kfEffectId).toNat start }, true)
  else (device, false)

def logitfKfSetTorqueNm (device : Device) (torqueNm : Float) (opens : Bool)
    (reply : UploadReply) (written : Bool) : Device × Result :=
  let (device, result) := device.kfEnsureOpen opens
  if result ≠ .ok then (device, result)
  else
    match device.kfUpload (torqueLevel device.pid torqueNm) reply with
    | none => (device, .failed)
    | some device =>
        let (device, played) := device.kfPlay true written
        if !played then (device, .failed)
        else
          ({ device with
              kfLastNm := clampTorque (ddPeakTorqueNm device.pid) torqueNm
              kfPlaying := true }, .ok)

/-- Whether `logitf_kf_clear` has an effect to stop. -/
def stopsEffect (device : Device) : Bool :=
  device.evdevOpen && decide (device.kfEffectId ≥ 0) && device.kfPlaying

def logitfKfClear (device : Device) (written : Bool) : Device :=
  if device.stopsEffect then
    { (device.kfPlay false written).1 with kfPlaying := false, kfLastNm := 0.0 }
  else device

/-- The removal has no bearing on the outcome: closing the file drops its effects. -/
def logitfKfClose (device : Device) : Device :=
  let device :=
    if device.evdevOpen then
      { device with
        kfEffectId := if device.kfEffectId ≥ 0 then -1 else device.kfEffectId
        evdevOpen := false
        effects := [] }
    else device
  { device with kfPlaying := false, kfLastNm := 0.0 }

end Device

inductive Call where
  | setTorque (torqueNm : Float) (opens : Bool) (reply : UploadReply) (written : Bool)
  | clear (written : Bool)
  | statusStart (opens : Bool)
  | close (written : Bool)

/-- What the last call promises about the file. -/
inductive Outcome where
  | nothing
  | torque (level : Int16)
  | released
  deriving DecidableEq, Repr

structure State where
  device : Device
  outcome : Outcome

namespace State

def setTorque (state : State) (torqueNm : Float) (opens : Bool) (reply : UploadReply)
    (written : Bool) : State :=
  let (device, result) := state.device.logitfKfSetTorqueNm torqueNm opens reply written
  { device
    outcome := if result = .ok then .torque (torqueLevel device.pid torqueNm) else .nothing }

/-- A clear whose calls succeed: its write is accepted or it makes none. -/
def clear (state : State) (written : Bool) : State where
  device := state.device.logitfKfClear written
  outcome := if state.device.stopsEffect && !written then .nothing else .released

/-- The two sections of `logiWheelClose` that concern the event device. -/
def close (state : State) (written : Bool) : State where
  device := (state.device.logitfKfClear written).logitfKfClose
  outcome := .released

def step (state : State) : Call → Option State
  | .setTorque torqueNm opens reply written =>
      -- The kernel answers an upload with an id it may give.
      let requested := (state.device.kfEnsureOpen opens).1.kfEffectId
      if state.device.effects.Admits requested reply then
        some (state.setTorque torqueNm opens reply written)
      else none
  | .clear written => some (state.clear written)
  | .statusStart opens =>
      some { device := (state.device.logitfEvdevEnsureOpen opens).1, outcome := .nothing }
  | .close written => some (state.close written)

end State

def torque : System State Call where
  initial state := ∃ pid hasEvdev,
    state = { device := Device.discovered pid hasEvdev, outcome := .nothing }
  step := State.step

/-- No upload is made while `kf_effect_id` is 0, and no stop of the effect is refused. -/
def State.KeepsEffect (state : State) : Call → Prop
  | .setTorque .. => state.device.kfEffectId ≠ 0
  | .clear written => state.device.stopsEffect = true → written = true
  | _ => True

instance (state : State) (call : Call) : Decidable (state.KeepsEffect call) := by
  cases call <;> simp only [State.KeepsEffect] <;> infer_instance

/-- The sum of the constant levels that play on the file. -/
def Device.playingLevel (device : Device) : ℤ :=
  (device.effects.sounding.map Int16.toInt).foldr (· + ·) 0

/-- At most one effect is live, `kf_effect_id` names it, and a playing one is known to play. -/
inductive Device.Owns (device : Device) : Prop where
  | none (effects : device.effects = []) (id : device.kfEffectId = -1)
  | one (entry : EffectEntry Int16) (opened : device.evdevOpen = true)
      (effects : device.effects = [entry]) (id : device.kfEffectId = entry.id)
      (small : entry.id < 0x8000) (known : entry.playing = true → device.kfPlaying = true)

namespace Device

theorem kfEnsureOpen_eq {device : Device} (nonzero : device.kfEffectId ≠ 0) (opens : Bool) :
    device.kfEnsureOpen opens = device.logitfEvdevEnsureOpen opens := by
  have same : (device.logitfEvdevEnsureOpen opens).1.kfEffectId = device.kfEffectId := by
    simp only [logitfEvdevEnsureOpen]
    repeat' split
    all_goals rfl
  simp only [kfEnsureOpen, same, nonzero, and_false, ↓reduceIte]

/-- Opening the file has no effects on it, and success leaves it open. -/
theorem logitfEvdevEnsureOpen_spec {device : Device} (owns : device.Owns) (opens : Bool) :
    (device.logitfEvdevEnsureOpen opens).1.Owns ∧
      (device.logitfEvdevEnsureOpen opens).1.effects = device.effects ∧
      (device.logitfEvdevEnsureOpen opens).1.kfEffectId = device.kfEffectId ∧
      ((device.logitfEvdevEnsureOpen opens).2 = .ok →
        (device.logitfEvdevEnsureOpen opens).1.evdevOpen = true) := by
  simp only [logitfEvdevEnsureOpen]
  split
  · rename_i opened
    exact ⟨owns, rfl, rfl, fun _ => opened⟩
  · split
    · exact ⟨owns, rfl, rfl, by simp⟩
    · split
      · refine ⟨?_, rfl, rfl, fun _ => rfl⟩
        cases owns with
        | none effects id => exact .none effects id
        | one entry _ effects id small known => exact .one entry rfl effects id small known
      · exact ⟨owns, rfl, rfl, by simp⟩

theorem code_eq {id : ℕ} (small : id < 0x8000) : (UInt16.ofInt (id : ℤ)).toNat = id := by
  simp only [UInt16.ofInt, UInt16.toNat_ofNat']
  omega

/-- The upload leaves one live effect, of the level requested, that plays only if it did. -/
theorem kfUpload_spec {device next : Device} {level : Int16} {reply : UploadReply}
    (owns : device.Owns) (admitted : device.effects.Admits device.kfEffectId reply)
    (uploaded : device.kfUpload level reply = some next) :
    ∃ entry : EffectEntry Int16,
      next = { device with effects := [entry], kfEffectId := entry.id } ∧
        entry.params = level ∧ entry.id < 0x8000 ∧
        (entry.playing = true → device.kfPlaying = true) := by
  cases reply with
  | refused => simp [kfUpload, EffectTable.upload] at uploaded
  | accepted fresh =>
      cases owns with
      | none effects id =>
          simp only [EffectTable.Admits, id, effects, EffectTable.ids] at admitted
          simp only [kfUpload, EffectTable.upload, id, effects] at uploaded
          simp only [Int.reduceNeg, Int.reduceLT, ↓reduceIte, List.nil_append, Option.map_some,
            Option.some.injEq] at uploaded
          refine ⟨{ id := fresh, params := level, playing := false }, uploaded.symm, rfl, ?_, ?_⟩
          · exact (admitted (by decide)).1
          · simp
      | one entry opened effects id small known =>
          have notNew : ¬ (entry.id : ℤ) < 0 := by omega
          simp only [kfUpload, EffectTable.upload, id, effects, notNew, ↓reduceIte,
            Int.toNat_natCast, EffectTable.ids, List.map_cons, List.map_nil, List.mem_singleton,
            EffectTable.update, Option.map_some, Option.some.injEq] at uploaded
          exact ⟨{ entry with params := level }, uploaded.symm, rfl, small, known⟩

theorem kfPlay_singleton {device : Device} {entry : EffectEntry Int16}
    (effects : device.effects = [entry]) (id : device.kfEffectId = entry.id)
    (small : entry.id < 0x8000) (start : Bool) :
    device.kfPlay start true =
      ({ device with effects := [{ entry with playing := start }] }, true) := by
  simp [kfPlay, EffectTable.play, effects, id, code_eq small]

theorem playingLevel_singleton {device : Device} (entry : EffectEntry Int16)
    (effects : device.effects = [entry]) (playing : entry.playing = true) :
    device.playingLevel = entry.params.toInt := by
  simp [playingLevel, EffectTable.sounding, effects, playing]

/-- A torque call keeps the one effect, and on success it plays the requested level alone. -/
theorem logitfKfSetTorqueNm_spec {device : Device} (owns : device.Owns)
    (nonzero : device.kfEffectId ≠ 0) (torqueNm : Float) {opens : Bool} {reply : UploadReply}
    (admitted : device.effects.Admits (device.kfEnsureOpen opens).1.kfEffectId reply)
    (written : Bool) :
    (device.logitfKfSetTorqueNm torqueNm opens reply written).1.Owns ∧
      ((device.logitfKfSetTorqueNm torqueNm opens reply written).2 = .ok →
        (device.logitfKfSetTorqueNm torqueNm opens reply written).1.playingLevel =
          (torqueLevel (device.logitfKfSetTorqueNm torqueNm opens reply written).1.pid
            torqueNm).toInt) := by
  rw [kfEnsureOpen_eq nonzero] at admitted
  rcases logitfEvdevEnsureOpen_spec owns opens with ⟨owns, effects, id, opened⟩
  simp only [logitfKfSetTorqueNm, kfEnsureOpen_eq nonzero]
  generalize device.logitfEvdevEnsureOpen opens = opening at *
  rcases opening with ⟨device, result⟩
  simp only at owns effects id opened admitted ⊢
  rw [← effects] at admitted
  split
  · rename_i refused
    exact ⟨owns, fun success => absurd success refused⟩
  · rename_i success
    have isOpen := opened (by simpa using success)
    split
    · exact ⟨owns, by simp⟩
    · rename_i next uploaded
      rcases kfUpload_spec owns admitted uploaded with ⟨entry, rfl, params, small, known⟩
      cases written with
      | false =>
          refine ⟨.one entry isOpen rfl rfl small known, ?_⟩
          simp [kfPlay]
      | true =>
          rw [kfPlay_singleton rfl rfl small]
          refine ⟨.one { entry with playing := true } isOpen rfl rfl small fun _ => rfl, ?_⟩
          intro _
          refine Eq.trans ?_ (congrArg Int16.toInt params)
          exact playingLevel_singleton { entry with playing := true } rfl rfl

/-- A clear keeps the one effect; unless its stop is refused, nothing plays any more. -/
theorem logitfKfClear_spec {device : Device} (owns : device.Owns) {written : Bool}
    (stopped : device.stopsEffect = true → written = true) :
    (device.logitfKfClear written).Owns ∧
      (device.logitfKfClear written).effects.sounding = [] := by
  cases owns with
  | none effects id =>
      have idle : device.stopsEffect = false := by simp [stopsEffect, id]
      simp only [logitfKfClear, idle]
      exact ⟨.none effects id, by simp [effects, EffectTable.sounding]⟩
  | one entry opened effects id small known =>
      cases playing : device.kfPlaying with
      | false =>
          have idle : device.stopsEffect = false := by simp [stopsEffect, playing]
          have silent : entry.playing = false := by
            by_contra sounds
            rw [known (by simpa using sounds)] at playing
            cases playing
          simp only [logitfKfClear, idle]
          exact ⟨.one entry opened effects id small known,
            by simp [effects, EffectTable.sounding, silent]⟩
      | true =>
          have busy : device.stopsEffect = true := by simp [stopsEffect, opened, id, playing]
          cases stopped busy
          simp only [logitfKfClear, busy, ↓reduceIte, kfPlay_singleton effects id small]
          refine ⟨.one { entry with playing := false } opened rfl id small (by simp), ?_⟩
          simp [EffectTable.sounding]

theorem logitfKfClear_id (device : Device) (written : Bool) :
    (device.logitfKfClear written).kfEffectId = device.kfEffectId ∧
      (device.logitfKfClear written).evdevOpen = device.evdevOpen := by
  simp only [logitfKfClear, kfPlay]
  repeat' split
  all_goals exact ⟨rfl, rfl⟩

/-- A close leaves no effect, whatever becomes of its stop. -/
theorem logitfKfClose_spec {device : Device} (owns : device.Owns) (written : Bool) :
    (device.logitfKfClear written).logitfKfClose.Owns ∧
      (device.logitfKfClear written).logitfKfClose.effects = [] := by
  rcases device.logitfKfClear_id written with ⟨id, opened⟩
  cases isOpen : device.evdevOpen with
  | false =>
      have untouched : device.logitfKfClear written = device := by
        simp [logitfKfClear, stopsEffect, isOpen]
      rw [untouched]
      cases owns with
      | none effects id =>
          simp only [logitfKfClose, isOpen, Bool.false_eq_true, ↓reduceIte]
          exact ⟨.none effects id, effects⟩
      | one entry opened => rw [isOpen] at opened; cases opened
  | true =>
      rw [isOpen] at opened
      simp only [logitfKfClose, opened, ↓reduceIte]
      refine ⟨.none rfl ?_, trivial⟩
      cases owns with
      | none _ unset => simp [id, unset]
      | one entry _ _ set => simp [id, set]

end Device

/-- What every sequence of calls keeps. -/
structure TorqueOwned (state : State) : Prop where
  single : state.device.effects.length ≤ 1
  named : ∀ entry ∈ state.device.effects, state.device.kfEffectId = entry.id
  torque : ∀ level, state.outcome = .torque level → state.device.playingLevel = level.toInt
  released : state.outcome = .released → state.device.effects.sounding = []

theorem TorqueOwned.of_owns {state : State} (owns : state.device.Owns)
    (torque : ∀ level, state.outcome = .torque level → state.device.playingLevel = level.toInt)
    (released : state.outcome = .released → state.device.effects.sounding = []) :
    TorqueOwned state := by
  cases owns with
  | none effects id => exact ⟨by simp [effects], by simp [effects], torque, released⟩
  | one entry opened effects id => exact ⟨by simp [effects], by simp [effects, id], torque, released⟩

theorem Device.Owns.step {state next : State} {call : Call} (owns : state.device.Owns)
    (keeps : state.KeepsEffect call) (stepped : state.step call = some next) :
    next.device.Owns ∧ TorqueOwned next := by
  cases call with
  | setTorque torqueNm opens reply written =>
      simp only [State.step, Option.ite_none_right_eq_some, Option.some.injEq] at stepped
      rcases stepped with ⟨admitted, rfl⟩
      rcases Device.logitfKfSetTorqueNm_spec owns keeps torqueNm admitted written with
        ⟨owns, plays⟩
      refine ⟨owns, .of_owns owns ?_ ?_⟩
      · intro level requested
        simp only [State.setTorque] at requested ⊢
        split at requested
        · rename_i success
          cases requested
          exact plays success
        · cases requested
      · intro released
        simp only [State.setTorque] at released
        split at released <;> cases released
  | clear written =>
      cases stepped
      rcases Device.logitfKfClear_spec owns keeps with ⟨owns, silent⟩
      refine ⟨owns, .of_owns owns ?_ fun _ => silent⟩
      intro level requested
      simp only [State.clear] at requested
      split at requested <;> cases requested
  | statusStart opens =>
      cases stepped
      have owns := (Device.logitfEvdevEnsureOpen_spec owns opens).1
      exact ⟨owns, .of_owns owns (by simp) (by simp)⟩
  | close written =>
      cases stepped
      rcases Device.logitfKfClose_spec owns written with ⟨owns, effects⟩
      refine ⟨owns, .of_owns owns (by simp [State.close]) fun _ => ?_⟩
      simp only [State.close, effects]
      rfl

/--
In every sequence of calls that makes no upload while `kf_effect_id` is 0 and has
no stop refused, whatever opens, uploads and playback events fail: at most one
effect of the file is live and `kf_effect_id` names it, a successful torque call
plays its level alone, and nothing plays after a clear or a close that succeeds.
-/
theorem torque_has_one_owner {state : State}
    (reachable : torque.ReachableUnder State.KeepsEffect state) :
    TorqueOwned state := by
  have held : state.device.Owns ∧ TorqueOwned state := by
    apply System.ReachableUnder.invariant reachable
    · rintro start ⟨pid, hasEvdev, rfl⟩
      have owns : (Device.discovered pid hasEvdev).Owns := .none rfl rfl
      exact ⟨owns, .of_owns owns (by simp) (by simp)⟩
    · intro current call next held keeps stepped
      exact held.1.step keeps stepped
  exact held.2

/-- Two torque calls on one effect, a clear and a close, the kernel giving id 3. -/
theorem torque_has_one_owner_three :
    ∃ state, torque.ReachableUnder State.KeepsEffect state ∧ state.device.effects.ids = [3] ∧
      TorqueOwned state := by
  have executed := System.ReachableUnder.of_check torque State.KeepsEffect
    { device := Device.discovered 0xc276 true, outcome := .nothing }
    [.statusStart true, .setTorque 1.0 true (.accepted 3) true, .clear true,
      .setTorque 2.0 true (.accepted 0) true, .setTorque 4.0 true .refused true]
    (fun state => state.device.effects.ids = [3]) ⟨_, _, rfl⟩
    (by decide) (by decide)
  rcases executed with ⟨state, reachable, seen⟩
  simp only [decide_eq_true_eq] at seen
  exact ⟨state, reachable, seen, torque_has_one_owner reachable⟩

/--
The kernel gives the first effect the id 0: the second torque call uploads another
effect and leaves the first one playing.
-/
theorem torque_leaves_effect_zero_playing :
    ∃ state, torque.Reachable state ∧ state.device.effects.ids = [0, 1] ∧
      state.device.effects.map EffectEntry.playing = [true, true] ∧ ¬ TorqueOwned state := by
  have executed := System.ReachableUnder.of_check torque System.anyStep
    { device := Device.discovered 0xc276 true, outcome := .nothing }
    [.setTorque 1.0 true (.accepted 0) true, .setTorque 2.0 true (.accepted 1) true]
    (fun state => state.device.effects.ids = [0, 1] ∧
      state.device.effects.map EffectEntry.playing = [true, true]) ⟨_, _, rfl⟩
    (by decide) (System.runMeets_anyStep _ _)
  rcases executed with ⟨state, reachable, seen⟩
  simp only [decide_eq_true_eq] at seen
  refine ⟨state, reachable, seen.1, seen.2, ?_⟩
  intro owned
  have two : state.device.effects.length = 2 := by
    rw [← List.length_map (f := EffectEntry.id)]
    exact congrArg List.length seen.1
  have single := owned.single
  omega

end TrueForce.Kf
