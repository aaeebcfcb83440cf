import TrueForce.Foundation.Transition
import Mathlib.Algebra.Order.Field.Basic
import Mathlib.Algebra.Order.Field.Rat
import Mathlib.Tactic.FieldSimp
import Mathlib.Tactic.Linarith
import Mathlib.Tactic.Ring

/-!
# Reading the angle of the wheel

The status reader takes the wheel's positions from the event device, which keeps those that
arrive while the reader is stopped, and turns them into degrees by the limits of the axis and
the rotation range that it read when it was last started.  Arithmetic is exact, and times are
in seconds.
-/

namespace TrueForce.Kf.Status

open TrueForce.Transition

/-- The limits of the wheel's axis. -/
structure Axis where
  minimum : ℤ
  maximum : ℤ
  ordered : minimum < maximum

/-- A position in line with the axis limits, between minus and plus half a range. -/
def Axis.degrees (axis : Axis) (range raw : ℤ) : ℚ :=
  -(range / 2) + (raw - axis.minimum) * (range / (axis.maximum - axis.minimum))

/-- An event of the axis, with the rotation range in force when it arrives. -/
structure Arrival where
  raw : ℤ
  range : ℤ
  deriving DecidableEq

/-- An event that was read: when, and as what angle. -/
structure Reading where
  time : ℚ
  angle : ℚ
  arrival : Arrival
  deriving DecidableEq

/-- The first `wheel_range` attribute that the scan of the directories can read. -/
inductive Found where
  | own
  /-- That of another wheel, whose path begins with the wheel's own. -/
  | other (range : ℤ)
  | nothing
  deriving DecidableEq

/-- How far `logitf_status_start` gets. -/
inductive Start where
  | noEvdev
  | noAbsinfo
  | noThread
  | started
  deriving DecidableEq

structure State where
  /-- The range in force, which `wheel_range` shows. -/
  range : ℤ
  evdevOpen : Bool
  running : Bool
  absXMin : ℤ
  absXMax : ℤ
  wheelRangeDeg : ℤ
  wheelAngleDeg : ℚ
  wheelVelocityDegS : ℚ
  statusLastTime : ℚ
  /-- What the event device holds, oldest first. -/
  queue : List Arrival
  /-- What the reader has read, newest first. -/
  readings : List Reading
  deriving DecidableEq

def State.discovered (range : ℤ) : State where
  range
  evdevOpen := false
  running := false
  absXMin := 0
  absXMax := 0
  wheelRangeDeg := 0
  wheelAngleDeg := 0
  wheelVelocityDegS := 0
  statusLastTime := 0
  queue := []
  readings := []

def defaultRange : ℤ := 1080

def velTau : ℚ := 1 / 50

namespace State

/-- Without an attribute to read the range is the default one. -/
def readWheelRangeDeg (state : State) (found : Found) : ℤ :=
  let value := match found with
    | .own => state.range
    | .other range => range
    | .nothing => defaultRange
  if 0 < value then value else defaultRange

def readAbsinfo (axis : Axis) (state : State) (found : Found) : State :=
  { state with
    absXMin := axis.minimum
    absXMax := axis.maximum
    wheelRangeDeg := state.readWheelRangeDeg found }

def statusStart (axis : Axis) (state : State) (start : Start) (found : Found) : State :=
  if state.running then state
  else
    match start with
    | .noEvdev => state
    | .noAbsinfo => { state with evdevOpen := true }
    | .noThread => { state with evdevOpen := true }.readAbsinfo axis found
    | .started => { { state with evdevOpen := true }.readAbsinfo axis found with running := true }

/-- The range that positions are scaled by. -/
def heldRange (state : State) : ℤ :=
  if state.wheelRangeDeg ≠ 0 then state.wheelRangeDeg else defaultRange

def rawToDegrees (state : State) (raw : ℤ) : ℚ :=
  let span := state.absXMax - state.absXMin
  if span ≤ 0 then 0
  else (((raw : ℚ) - state.absXMin) / span * 2 - 1) * (state.heldRange / 2)

/-- The velocity after an angle, smoothed over the time since the last one. -/
def velocityAt (state : State) (now deg : ℚ) : ℚ :=
  if 0 < state.statusLastTime then
    let dt := now - state.statusLastTime
    if 0 < dt then
      let dv := (deg - state.wheelAngleDeg) / dt
      let a := dt / (dt + velTau)
      state.wheelVelocityDegS * (1 - a) + dv * a
    else state.wheelVelocityDegS
  else state.wheelVelocityDegS

def readEvent (state : State) (now : ℚ) (arrival : Arrival) (rest : List Arrival) : State :=
  let deg := state.rawToDegrees arrival.raw
  { state with
    wheelVelocityDegS := state.velocityAt now deg
    wheelAngleDeg := deg
    statusLastTime := now
    queue := rest
    readings := { time := now, angle := deg, arrival } :: state.readings }

/-- `(int)(deg + 0.5)` between the bounds of the setter. -/
def operatingRange (deg : ℚ) : ℤ :=
  let rounded := deg + 1 / 2
  max 90 (min 2700 (rounded.num.tdiv rounded.den))

end State

inductive Event where
  | arrive (raw : ℤ)
  /-- The device's buffer is full and drops what it holds. -/
  | overrun
  /-- A start, or a call that needs the reader and starts it. -/
  | start (start : Start) (found : Found)
  | stop
  /-- The library's setter, with the outcome of its write. -/
  | setOperatingRange (deg : ℚ) (written : Bool)
  /-- Somebody else writes a range. -/
  | changeRange (range : ℤ)
  /-- The reader takes an event, later than the one before. -/
  | read (now : ℚ)
  deriving DecidableEq

def State.step (axis : Axis) (state : State) : Event → Option State
  | .arrive raw =>
      some (if state.evdevOpen then
        { state with queue := state.queue ++ [{ raw, range := state.range }] } else state)
  | .overrun => some { state with queue := [] }
  | .start start found => some (state.statusStart axis start found)
  | .stop => some { state with running := false }
  | .setOperatingRange deg written =>
      some (if written then { state with range := State.operatingRange deg } else state)
  | .changeRange range => some { state with range }
  | .read now =>
      match state.queue with
      | arrival :: rest =>
          if state.running ∧ state.statusLastTime < now then
            some (state.readEvent now arrival rest)
          else none
      | [] => none

def reader (axis : Axis) : System State Event where
  initial state := ∃ range, state = .discovered range
  step := State.step axis

/-- The event was read as the angle that it stood for when it arrived. -/
def Reading.Right (axis : Axis) (reading : Reading) : Prop :=
  reading.angle = axis.degrees reading.arrival.range reading.arrival.raw

def State.AllRight (axis : Axis) (state : State) : Prop :=
  ∀ reading ∈ state.readings, reading.Right axis

/-- The reader holds the range that was in force when the event it takes arrived, or the event
is from the centre of the axis. -/
def State.HoldsRange (axis : Axis) (state : State) : Event → Prop
  | .read _ => ∀ arrival ∈ state.queue.head?,
      state.heldRange = arrival.range ∨ 2 * arrival.raw = axis.minimum + axis.maximum
  | _ => True

/-- The slopes between successive readings, newest first. -/
def slopes : List Reading → List ℚ
  | later :: earlier :: rest =>
      (later.angle - earlier.angle) / (later.time - earlier.time) :: slopes (earlier :: rest)
  | _ => []

/-- No less than the least of some values and no more than the greatest. -/
def Within (values : List ℚ) (value : ℚ) : Prop :=
  ∀ low high, (∀ other ∈ values, low ≤ other ∧ other ≤ high) → low ≤ value ∧ value ≤ high

variable {axis : Axis} {state next : State}

/-- The limits that a running reader scales by are those of the axis. -/
def State.Prepared (axis : Axis) (state : State) : Prop :=
  state.running = true → state.absXMin = axis.minimum ∧ state.absXMax = axis.maximum

namespace State

theorem rawToDegrees_eq (prepared : state.Prepared axis) (running : state.running = true)
    (raw : ℤ) : state.rawToDegrees raw = axis.degrees state.heldRange raw := by
  rcases prepared running with ⟨low, high⟩
  have ordered := axis.ordered
  have span : (axis.maximum : ℚ) - axis.minimum ≠ 0 := by
    rw [sub_ne_zero]
    exact_mod_cast ordered.ne'
  have wide : ¬axis.maximum - axis.minimum ≤ 0 := by omega
  simp only [rawToDegrees, low, high, if_neg wide, Axis.degrees]
  push_cast
  field_simp
  ring

end State

theorem Axis.degrees_eq_iff (axis : Axis) (held range raw : ℤ) :
    axis.degrees held raw = axis.degrees range raw ↔
      held = range ∨ 2 * raw = axis.minimum + axis.maximum := by
  have span : (axis.maximum : ℚ) - axis.minimum ≠ 0 := by
    rw [sub_ne_zero]
    exact_mod_cast axis.ordered.ne'
  have product : axis.degrees held raw - axis.degrees range raw =
      ((held : ℚ) - range) * (2 * raw - (axis.minimum + axis.maximum)) /
        (2 * (axis.maximum - axis.minimum)) := by
    simp only [degrees]
    field_simp
    ring
  rw [← sub_eq_zero, product, div_eq_zero_iff, mul_eq_zero, or_iff_left (by simpa using span),
    sub_eq_zero, sub_eq_zero]
  norm_cast

namespace State

theorem Prepared.step (prepared : state.Prepared axis) {event : Event}
    (stepped : state.step axis event = some next) : next.Prepared axis := by
  cases event with
  | arrive raw =>
      cases stepped
      simp only [Prepared]
      split <;> exact prepared
  | overrun =>
      cases stepped
      exact prepared
  | start start found =>
      cases stepped
      simp only [statusStart]
      split
      · exact prepared
      · cases start with
        | noEvdev => exact prepared
        | noAbsinfo => exact prepared
        | noThread => exact fun _ => ⟨rfl, rfl⟩
        | started => exact fun _ => ⟨rfl, rfl⟩
  | stop =>
      cases stepped
      exact fun running => Bool.noConfusion running
  | setOperatingRange deg written =>
      cases stepped
      simp only [Prepared]
      split <;> exact prepared
  | changeRange range =>
      cases stepped
      exact prepared
  | read now =>
      simp only [State.step] at stepped
      split at stepped
      · simp only [Option.ite_none_right_eq_some, Option.some.injEq] at stepped
        rcases stepped with ⟨-, rfl⟩
        exact prepared
      · cases stepped

theorem statusStart_readings (state : State) (start : Start) (found : Found) :
    (state.statusStart axis start found).readings = state.readings := by
  simp only [statusStart]
  split
  · rfl
  · cases start <;> rfl

/-- An event is read right exactly when the range it is scaled by was the one in force. -/
theorem allRight_step (prepared : state.Prepared axis) {event : Event}
    (stepped : state.step axis event = some next) :
    next.AllRight axis ↔ state.AllRight axis ∧ state.HoldsRange axis event := by
  cases event with
  | arrive raw =>
      cases stepped
      simp only [AllRight, HoldsRange, and_true]
      split <;> rfl
  | overrun =>
      cases stepped
      exact (and_iff_left trivial).symm
  | start start found =>
      cases stepped
      simp only [AllRight, HoldsRange, and_true, statusStart_readings]
  | stop =>
      cases stepped
      exact (and_iff_left trivial).symm
  | setOperatingRange deg written =>
      cases stepped
      simp only [AllRight, HoldsRange, and_true]
      split <;> rfl
  | changeRange range =>
      cases stepped
      exact (and_iff_left trivial).symm
  | read now =>
      simp only [State.step] at stepped
      split at stepped
      · next arrival rest queue =>
          simp only [Option.ite_none_right_eq_some, Option.some.injEq] at stepped
          rcases stepped with ⟨⟨running, -⟩, rfl⟩
          simp only [AllRight, HoldsRange, readEvent, List.forall_mem_cons, queue,
            List.head?_cons, Option.mem_some_iff, forall_eq']
          rw [and_comm]
          apply and_congr_right
          intro _
          simp only [Reading.Right, rawToDegrees_eq prepared running]
          exact axis.degrees_eq_iff _ _ _
      · cases stepped

end State

/-- A value that moves part of the way to another stays between the bounds of both. -/
theorem move_between {low high value target part : ℚ} (value_low : low ≤ value)
    (value_high : value ≤ high) (target_low : low ≤ target) (target_high : target ≤ high)
    (part_low : 0 ≤ part) (part_high : part ≤ 1) :
    low ≤ value * (1 - part) + target * part ∧ value * (1 - part) + target * part ≤ high := by
  have left : 0 ≤ 1 - part := sub_nonneg.mpr part_high
  constructor
  · calc
      low = low * (1 - part) + low * part := by ring
      _ ≤ value * (1 - part) + target * part :=
        add_le_add (mul_le_mul_of_nonneg_right value_low left)
          (mul_le_mul_of_nonneg_right target_low part_low)
  · calc
      value * (1 - part) + target * part ≤ high * (1 - part) + high * part :=
        add_le_add (mul_le_mul_of_nonneg_right value_high left)
          (mul_le_mul_of_nonneg_right target_high part_low)
      _ = high := by ring

/-- The reader remembers its last reading, and its velocity is made of the slopes so far. -/
structure Smoothed (state : State) : Prop where
  fresh : state.readings = [] → state.statusLastTime = 0
  last : ∀ reading ∈ state.readings.head?, state.statusLastTime = reading.time ∧
    state.wheelAngleDeg = reading.angle ∧ 0 < reading.time
  within : Within (0 :: slopes state.readings) state.wheelVelocityDegS

theorem Smoothed.readEvent (smoothed : Smoothed state) {now : ℚ} {arrival : Arrival}
    {rest : List Arrival} (later : state.statusLastTime < now) :
    Smoothed (state.readEvent now arrival rest) := by
  cases readings : state.readings with
  | nil =>
      have fresh := smoothed.fresh readings
      have within := smoothed.within
      rw [readings] at within
      refine ⟨by simp [State.readEvent], ?_, ?_⟩
      · intro reading member
        simp only [State.readEvent, List.head?_cons, Option.mem_some_iff] at member
        subst member
        exact ⟨rfl, rfl, fresh ▸ later⟩
      · simp only [State.readEvent, State.velocityAt, fresh, lt_irrefl, if_false, readings]
        exact within
  | cons reading readings' =>
      rcases smoothed.last reading (by rw [readings]; rfl) with ⟨time, angle, positive⟩
      have within := smoothed.within
      rw [readings] at within
      refine ⟨by simp [State.readEvent], ?_, ?_⟩
      · intro other member
        simp only [State.readEvent, List.head?_cons, Option.mem_some_iff] at member
        subst member
        exact ⟨rfl, rfl, (time ▸ positive).trans later⟩
      · have ahead : 0 < now - state.statusLastTime := sub_pos.mpr later
        have started : 0 < state.statusLastTime := time ▸ positive
        have tau : (0 : ℚ) < velTau := by norm_num [velTau]
        have total := add_pos ahead tau
        simp only [State.readEvent, State.velocityAt, if_pos started, if_pos ahead, readings,
          slopes]
        intro low high bounds
        simp only [List.forall_mem_cons, ← time, ← angle] at bounds
        rcases bounds with ⟨zero, slope, others⟩
        have before := within low high (List.forall_mem_cons.mpr ⟨zero, others⟩)
        refine move_between before.1 before.2 slope.1 slope.2 (div_nonneg ahead.le total.le) ?_
        exact (div_le_one total).mpr (le_add_of_nonneg_right tau.le)

theorem Smoothed.congr {other : State} (smoothed : Smoothed state)
    (readings : other.readings = state.readings) (time : other.statusLastTime = state.statusLastTime)
    (angle : other.wheelAngleDeg = state.wheelAngleDeg)
    (velocity : other.wheelVelocityDegS = state.wheelVelocityDegS) : Smoothed other := by
  rcases smoothed with ⟨fresh, last, within⟩
  refine ⟨?_, ?_, ?_⟩
  · rwa [readings, time]
  · rwa [readings, time, angle]
  · rwa [readings, velocity]

theorem Smoothed.step (smoothed : Smoothed state) {event : Event}
    (stepped : state.step axis event = some next) : Smoothed next := by
  cases event with
  | arrive raw =>
      cases stepped
      split
      · exact smoothed.congr rfl rfl rfl rfl
      · exact smoothed
  | overrun =>
      cases stepped
      exact smoothed.congr rfl rfl rfl rfl
  | start start found =>
      cases stepped
      simp only [State.statusStart]
      split
      · exact smoothed
      · cases start <;> exact smoothed.congr rfl rfl rfl rfl
  | stop =>
      cases stepped
      exact smoothed.congr rfl rfl rfl rfl
  | setOperatingRange deg written =>
      cases stepped
      split
      · exact smoothed.congr rfl rfl rfl rfl
      · exact smoothed
  | changeRange range =>
      cases stepped
      exact smoothed.congr rfl rfl rfl rfl
  | read now =>
      simp only [State.step] at stepped
      split at stepped
      · simp only [Option.ite_none_right_eq_some, Option.some.injEq] at stepped
        rcases stepped with ⟨⟨-, later⟩, rfl⟩
        exact smoothed.readEvent later
      · cases stepped

theorem smoothed_discovered (range : ℤ) : Smoothed (.discovered range) where
  fresh _ := rfl
  last := by
    intro reading member
    cases member
  within := by
    intro low high bounds
    exact bounds 0 List.mem_cons_self

/-- A run reads every angle right exactly when the reader holds the right range at each event it
takes; in every run the angle is the newest reading's, and the velocity lies between the slopes of
what was read. -/
theorem angle_law (axis : Axis) (range : ℤ) (events : List Event) :
    (∀ last, (reader axis).run (.discovered range) events = some last →
      (last.AllRight axis ↔
        (reader axis).RunMeets (State.HoldsRange axis) (.discovered range) events)) ∧
    ∀ last, (reader axis).run (.discovered range) events = some last →
      (∀ reading ∈ last.readings.head?, last.wheelAngleDeg = reading.angle) ∧
        Within (0 :: slopes last.readings) last.wheelVelocityDegS := by
  constructor
  · intro last executed
    have unread : (State.discovered range).AllRight axis := by
      intro reading member
      cases member
    have prepared : (State.discovered range).Prepared axis := fun running => Bool.noConfusion running
    have kept : ∀ state event next, State.Prepared axis state →
        (reader axis).step state event = some next → State.Prepared axis next :=
      fun _ _ _ prepared stepped => prepared.step stepped
    have one : ∀ state event next, State.Prepared axis state →
        (reader axis).step state event = some next →
        (State.AllRight axis next ↔ State.AllRight axis state ∧ state.HoldsRange axis event) :=
      fun _ _ _ prepared stepped => State.allRight_step prepared stepped
    rw [System.holds_run_iff kept one prepared executed]
    exact and_iff_right unread
  · intro last executed
    have initial : (reader axis).initial (.discovered range) := ⟨range, rfl⟩
    have reached := System.Reachable.of_run (State.discovered range) events initial executed
    have smoothed : Smoothed last := by
      refine System.ReachableUnder.invariant reached ?_ ?_
      · rintro start ⟨range, rfl⟩
        exact smoothed_discovered range
      · intro current event next smoothed _ stepped
        exact smoothed.step stepped
    refine ⟨?_, smoothed.within⟩
    intro reading newest
    exact (smoothed.last reading newest).2.1

/-- The game turns the range up to 1800 degrees while the reader runs; the end of the axis is
read as 450 degrees for 900. -/
theorem range_change_misread :
    ∃ axis last, (reader axis).run (.discovered 900)
      [.start .started .own, .setOperatingRange 1800 true, .arrive 65535, .read 1] = some last ∧
      last.wheelAngleDeg = 450 ∧ axis.degrees 1800 65535 = 900 ∧ ¬last.AllRight axis := by
  refine ⟨{ minimum := 0, maximum := 65535, ordered := by decide }, _, rfl, ?_⟩
  refine ⟨by decide +kernel, by decide +kernel, ?_⟩
  intro right
  have misread := right _ List.mem_cons_self
  simp only [Reading.Right] at misread
  exact absurd misread (by decide +kernel)

end TrueForce.Kf.Status
