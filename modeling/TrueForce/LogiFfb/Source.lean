import TrueForce.Foundation.CInt
import Mathlib.Data.List.Basic
import Mathlib.Data.List.Induction

/-!
# The input of the virtual wheel

The events of the real wheel's evdev node are folded into the input report, one by one.
Buttons of the joystick range and of the extended block have each their bit; the codes
between the sixteen of the joystick range and the extended block share theirs with it.
-/

namespace TrueForce.LogiFfb

open TrueForce.CInt

def evSyn : UInt16 := 0

def evKey : UInt16 := 1

def evAbs : UInt16 := 3

def synReport : UInt16 := 0

def absX : UInt16 := 0

def absRx : UInt16 := 3

def absRy : UInt16 := 4

def absRz : UInt16 := 5

def absHat0X : UInt16 := 0x10

def absHat0Y : UInt16 := 0x11

def btnTrigger : UInt16 := 0x120

def btnTriggerHappy : UInt16 := 0x2c0

/-- `input_event`, without its time. -/
structure InputEvent where
  type : UInt16
  code : UInt16
  value : Int32
  deriving DecidableEq, Repr

structure InputReport where
  steering : UInt16
  throttle : UInt16
  brake : UInt16
  clutch : UInt16
  buttons : BitVec 64
  hat : UInt8
  hatX : Int8
  hatY : Int8
  deriving DecidableEq, Repr

def hatCentered : UInt8 := 0x0F

def InputReport.default : InputReport where
  steering := 0
  throttle := 0
  brake := 0
  clutch := 0
  buttons := 0
  hat := hatCentered
  hatX := 0
  hatY := 0

/-- The direction of the hat, clockwise from North. -/
def hatDirection (x y : Int8) : UInt8 :=
  if x = 0 ∧ y = -1 then 0
  else if x = 1 ∧ y = -1 then 1
  else if x = 1 ∧ y = 0 then 2
  else if x = 1 ∧ y = 1 then 3
  else if x = 0 ∧ y = 1 then 4
  else if x = -1 ∧ y = 1 then 5
  else if x = -1 ∧ y = 0 then 6
  else if x = -1 ∧ y = -1 then 7
  else hatCentered

def hatValue (value : Int32) : Int8 := Int8.ofInt (clamp value.toInt (-1) 1)

def axisValue (value : Int32) : UInt16 := UInt16.ofNat (clamp value.toInt 0 0xFFFF).toNat

/-- The bit of a button code from `BTN_TRIGGER` on. -/
def buttonBit (code : UInt16) : ℕ :=
  let extFirst := btnTriggerHappy.toNat + 5
  if code < btnTriggerHappy then code.toNat - btnTrigger.toNat
  else if extFirst ≤ code.toNat then
    let n := code.toNat - extFirst
    if n < 16 then 16 + n else 37 + (n - 16)
  else 32 + (code.toNat - btnTriggerHappy.toNat)

namespace InputReport

def mapHat (report : InputReport) (event : InputEvent) : InputReport :=
  let report :=
    if event.code = absHat0X then { report with hatX := hatValue event.value }
    else { report with hatY := hatValue event.value }
  { report with hat := hatDirection report.hatX report.hatY }

def mapAxis (report : InputReport) (event : InputEvent) : InputReport :=
  if event.code = absX then { report with steering := axisValue event.value }
  else if event.code = absRx then { report with throttle := axisValue event.value }
  else if event.code = absRy then { report with brake := axisValue event.value }
  else if event.code = absRz then { report with clutch := axisValue event.value }
  else report

def mapButton (report : InputReport) (event : InputEvent) : InputReport :=
  let bit := buttonBit event.code
  if bit < 64 then
    { report with
      buttons :=
        if event.value ≠ 0 then report.buttons ||| (1#64 <<< bit)
        else report.buttons &&& ~~~(1#64 <<< bit) }
  else report

/-- `map_event`: the report behind an event, and whether it is complete. -/
def mapEvent (report : InputReport) (event : InputEvent) : InputReport × Bool :=
  let report :=
    if event.type = evAbs ∧ (event.code = absHat0X ∨ event.code = absHat0Y) then
      report.mapHat event
    else if event.type = evAbs then report.mapAxis event
    else if event.type = evKey ∧ btnTrigger ≤ event.code then report.mapButton event
    else report
  (report, event.type == evSyn && event.code == synReport)

/-- The report that events make of the default one. -/
def fold (events : List InputEvent) : InputReport :=
  events.foldl (fun report event => (report.mapEvent event).1) .default

end InputReport

/-- The last value of a control. -/
def lastValue (type code : UInt16) (events : List InputEvent) : Option Int32 :=
  (events.reverse.find? fun event => decide (event.type = type ∧ event.code = code)).map
    InputEvent.value

def Held (events : List InputEvent) (code : UInt16) : Prop :=
  (lastValue evKey code events).any (· != 0) = true

instance (events : List InputEvent) (code : UInt16) : Decidable (Held events code) :=
  inferInstanceAs (Decidable (_ = _))

/-- The button has a bit in the report. -/
def Representable (code : UInt16) : Prop := btnTrigger ≤ code ∧ buttonBit code < 64

instance (code : UInt16) : Decidable (Representable code) := inferInstanceAs (Decidable (_ ∧ _))

/-- The button word has the bits of the buttons that are held. -/
def ButtonsMirror (events : List InputEvent) : Prop :=
  ∀ bit, (InputReport.fold events).buttons.getLsbD bit = true ↔
    ∃ code, Representable code ∧ buttonBit code = bit ∧ Held events code

/-- The hat and the axes are where they were last. -/
structure AxesMirror (events : List InputEvent) : Prop where
  steering : (InputReport.fold events).steering = ((lastValue evAbs absX events).map axisValue).getD 0
  throttle : (InputReport.fold events).throttle =
    ((lastValue evAbs absRx events).map axisValue).getD 0
  brake : (InputReport.fold events).brake = ((lastValue evAbs absRy events).map axisValue).getD 0
  clutch : (InputReport.fold events).clutch = ((lastValue evAbs absRz events).map axisValue).getD 0
  hat : (InputReport.fold events).hat =
    hatDirection (((lastValue evAbs absHat0X events).map hatValue).getD 0)
      (((lastValue evAbs absHat0Y events).map hatValue).getD 0)

/-- The code of the extended block for a bit from the seventeenth on. -/
def extendedCode (bit : ℕ) : ℕ :=
  if bit < 32 then 0x2c5 + (bit - 16) else if bit < 37 then 0x2c0 + (bit - 32)
  else 0x2d5 + (bit - 37)

/-- One code is past the joystick range's sixteen, the other of the same bit in the extended
block. -/
def Aliased (first second : UInt16) : Prop :=
  ∃ bit, 16 ≤ bit ∧ bit < 64 ∧
    (first.toNat = 0x120 + bit ∧ second.toNat = extendedCode bit ∨
      second.toNat = 0x120 + bit ∧ first.toNat = extendedCode bit)

/-- The event releases a button while its alias is held. -/
def ReleasesAliased (events : List InputEvent) (event : InputEvent) : Prop :=
  event.type = evKey ∧ event.value = 0 ∧ ∃ other, Aliased event.code other ∧ Held events other

variable {events : List InputEvent} {event : InputEvent} {code first second : UInt16}

theorem buttonBit_eq (code : UInt16) : buttonBit code =
    if code.toNat < 0x2c0 then code.toNat - 0x120
    else if 0x2c5 ≤ code.toNat then
      if code.toNat - 0x2c5 < 16 then 16 + (code.toNat - 0x2c5) else 37 + (code.toNat - 0x2c5 - 16)
    else 32 + (code.toNat - 0x2c0) := rfl

theorem representable_iff : Representable code ↔
    0x120 ≤ code.toNat ∧ (code.toNat < 0x160 ∨ 0x2c0 ≤ code.toNat ∧ code.toNat < 0x2f0) := by
  rw [Representable, UInt16.le_iff_toNat_le, buttonBit_eq]
  change 0x120 ≤ code.toNat ∧ _ ↔ _
  split
  · omega
  · split
    · split <;> omega
    · omega

theorem representable_of_aliased (aliased : Aliased first second) :
    Representable first ∧ Representable second := by
  rcases aliased with ⟨bit, least, most, shared⟩
  rw [representable_iff, representable_iff]
  simp only [extendedCode] at shared
  split at shared
  · omega
  · split at shared <;> omega

theorem buttonBit_eq_iff (left : Representable first) (right : Representable second) :
    buttonBit first = buttonBit second ↔ first = second ∨ Aliased first second := by
  rw [representable_iff] at left right
  rw [← UInt16.toNat_inj]
  constructor
  · intro same
    by_contra apart
    rw [not_or] at apart
    apply apart.2
    refine ⟨buttonBit first, ?_⟩
    rw [buttonBit_eq, buttonBit_eq] at same
    rw [buttonBit_eq, extendedCode]
    grind
  · rintro (same | ⟨bit, least, most, shared⟩)
    · rw [buttonBit_eq, buttonBit_eq, same]
    · rw [buttonBit_eq, buttonBit_eq]
      rw [extendedCode] at shared
      grind

theorem fold_append (events : List InputEvent) (event : InputEvent) :
    InputReport.fold (events ++ [event]) = ((InputReport.fold events).mapEvent event).1 := by
  rw [InputReport.fold, List.foldl_append]
  rfl

theorem lastValue_append (type code : UInt16) (events : List InputEvent) (event : InputEvent) :
    lastValue type code (events ++ [event]) =
      if event.type = type ∧ event.code = code then some event.value
      else lastValue type code events := by
  rw [lastValue, List.reverse_append, List.reverse_singleton, List.singleton_append,
    List.find?_cons]
  by_cases named : event.type = type ∧ event.code = code
  · rw [decide_eq_true named, if_pos named]
    rfl
  · rw [decide_eq_false named, if_neg named]
    rfl

theorem held_append : Held (events ++ [event]) code ↔
    if event.type = evKey ∧ event.code = code then event.value ≠ 0 else Held events code := by
  rw [Held, lastValue_append]
  split
  · rw [Option.any_some, bne_iff_ne]
  · rfl

theorem buttons_mapEvent (report : InputReport) (event : InputEvent) :
    (report.mapEvent event).1.buttons =
      if event.type = evKey ∧ Representable event.code then
        if event.value ≠ 0 then report.buttons ||| (1#64 <<< buttonBit event.code)
        else report.buttons &&& ~~~(1#64 <<< buttonBit event.code)
      else report.buttons := by
  have apart : evKey ≠ evAbs := by decide
  rw [InputReport.mapEvent]
  by_cases key : event.type = evKey
  · have other : event.type ≠ evAbs := by
      rw [key]
      exact apart
    rw [if_neg (fun both => other both.1), if_neg other]
    by_cases button : btnTrigger ≤ event.code
    · rw [if_pos ⟨key, button⟩]
      simp only [InputReport.mapButton]
      by_cases small : buttonBit event.code < 64
      · have named : event.type = evKey ∧ Representable event.code := ⟨key, button, small⟩
        simp only [if_pos small, if_pos named]
      · rw [if_neg small, if_neg (fun both => small both.2.2)]
    · rw [if_neg (fun both => button both.2), if_neg (fun both => button both.2.1)]
  · simp only [key, false_and, if_false]
    split
    · rw [InputReport.mapHat]
      split <;> rfl
    · split
      · simp only [InputReport.mapAxis]
        split_ifs <;> rfl
      · rfl

/-- Where an event leaves the value of a control. -/
def moved {Value : Type} (event : InputEvent) (code : UInt16) (convert : Int32 → Value)
    (value : Value) : Value :=
  if event.type = evAbs ∧ event.code = code then convert event.value else value

theorem axes_mapEvent (report : InputReport) (event : InputEvent) :
    (report.mapEvent event).1.steering = moved event absX axisValue report.steering ∧
      (report.mapEvent event).1.throttle = moved event absRx axisValue report.throttle ∧
      (report.mapEvent event).1.brake = moved event absRy axisValue report.brake ∧
      (report.mapEvent event).1.clutch = moved event absRz axisValue report.clutch ∧
      (report.mapEvent event).1.hatX = moved event absHat0X hatValue report.hatX ∧
      (report.mapEvent event).1.hatY = moved event absHat0Y hatValue report.hatY := by
  simp only [InputReport.mapEvent, moved, absX, absRx, absRy, absRz, absHat0X, absHat0Y]
  by_cases turned : event.type = evAbs
  · simp only [turned, true_and]
    split
    · rename_i hat
      simp only [InputReport.mapHat, absHat0X]
      grind
    · rename_i other
      simp only [InputReport.mapAxis, if_true, absX, absRx, absRy, absRz]
      grind
  · simp only [turned, false_and, if_false]
    split
    · simp only [InputReport.mapButton]
      split <;> exact ⟨rfl, rfl, rfl, rfl, rfl, rfl⟩
    · exact ⟨rfl, rfl, rfl, rfl, rfl, rfl⟩

theorem hat_mapEvent {report : InputReport} (event : InputEvent)
    (derived : report.hat = hatDirection report.hatX report.hatY) :
    (report.mapEvent event).1.hat =
      hatDirection (report.mapEvent event).1.hatX (report.mapEvent event).1.hatY := by
  rw [InputReport.mapEvent]
  split
  · rfl
  · split
    · simp only [InputReport.mapAxis]
      split_ifs <;> exact derived
    · split
      · simp only [InputReport.mapButton]
        split <;> exact derived
      · exact derived

/-- A field that only its control moves is where the control was last. -/
theorem field_eq {Value : Type} {field : InputReport → Value} {code : UInt16}
    {convert : Int32 → Value}
    (follows : ∀ (report : InputReport) (event : InputEvent),
      field (report.mapEvent event).1 = moved event code convert (field report))
    (events : List InputEvent) :
    field (InputReport.fold events) =
      ((lastValue evAbs code events).map convert).getD (field .default) := by
  induction events using List.reverseRecOn with
  | nil => rfl
  | append_singleton events event ih =>
      rw [fold_append, follows, lastValue_append, moved]
      split
      · rfl
      · exact ih

theorem axesMirror (events : List InputEvent) : AxesMirror events where
  steering := field_eq (fun report event => (axes_mapEvent report event).1) events
  throttle := field_eq (fun report event => (axes_mapEvent report event).2.1) events
  brake := field_eq (fun report event => (axes_mapEvent report event).2.2.1) events
  clutch := field_eq (fun report event => (axes_mapEvent report event).2.2.2.1) events
  hat := by
    have derived : (InputReport.fold events).hat =
        hatDirection (InputReport.fold events).hatX (InputReport.fold events).hatY := by
      induction events using List.reverseRecOn with
      | nil => rfl
      | append_singleton events event ih =>
          rw [fold_append]
          exact hat_mapEvent event ih
    have x := field_eq (fun report event => (axes_mapEvent report event).2.2.2.2.1) events
    have y := field_eq (fun report event => (axes_mapEvent report event).2.2.2.2.2) events
    rw [derived, x, y]
    rfl

theorem getLsbD_press (word : BitVec 64) {bit : ℕ} (index : ℕ) (small : bit < 64) :
    (word ||| 1#64 <<< bit).getLsbD index = (word.getLsbD index || decide (index = bit)) := by
  rw [← BitVec.twoPow_eq, BitVec.getLsbD_or, BitVec.getLsbD_twoPow]
  simp [small, eq_comm]

theorem getLsbD_release (word : BitVec 64) {bit : ℕ} (index : ℕ) (small : bit < 64) :
    (word &&& ~~~(1#64 <<< bit)).getLsbD index = (word.getLsbD index && decide (index ≠ bit)) := by
  rw [← BitVec.twoPow_eq, BitVec.getLsbD_and, BitVec.getLsbD_not, BitVec.getLsbD_twoPow]
  by_cases inside : index < 64
  · simp [inside, small, eq_comm]
  · simp [BitVec.getLsbD_of_ge _ _ (Nat.le_of_not_lt inside)]

theorem aliased_ne (aliased : Aliased first second) : first ≠ second := by
  rintro rfl
  rcases aliased with ⟨bit, least, most, shared⟩
  simp only [extendedCode] at shared
  split at shared
  · omega
  · split at shared <;> omega

theorem mirror_of_press (mirror : ButtonsMirror events) (key : event.type = evKey)
    (button : Representable event.code) (pressed : event.value ≠ 0) :
    ButtonsMirror (events ++ [event]) := by
  intro bit
  rw [fold_append, buttons_mapEvent, if_pos ⟨key, button⟩, if_pos pressed,
    getLsbD_press _ _ button.2, Bool.or_eq_true, mirror bit, decide_eq_true_eq]
  constructor
  · rintro (⟨code, representable, here, held⟩ | rfl)
    · refine ⟨code, representable, here, held_append.mpr ?_⟩
      split
      · exact pressed
      · exact held
    · refine ⟨event.code, button, rfl, held_append.mpr ?_⟩
      rw [if_pos ⟨key, rfl⟩]
      exact pressed
  · rintro ⟨code, representable, here, held⟩
    rw [held_append] at held
    split at held
    · rename_i named
      right
      rw [← here, named.2]
    · exact Or.inl ⟨code, representable, here, held⟩

theorem mirror_of_release_iff (mirror : ButtonsMirror events) (key : event.type = evKey)
    (button : Representable event.code) (released : event.value = 0) :
    ButtonsMirror (events ++ [event]) ↔
      ∀ other, Aliased event.code other → ¬Held events other := by
  have word (bit : ℕ) : (InputReport.fold (events ++ [event])).buttons.getLsbD bit = true ↔
      (InputReport.fold events).buttons.getLsbD bit = true ∧ bit ≠ buttonBit event.code := by
    rw [fold_append, buttons_mapEvent, if_pos ⟨key, button⟩, if_neg (not_not_intro released),
      getLsbD_release _ _ button.2, Bool.and_eq_true, decide_eq_true_eq]
  have held (code : UInt16) :
      Held (events ++ [event]) code ↔ event.code ≠ code ∧ Held events code := by
    rw [held_append]
    by_cases same : event.code = code
    · simp [key, same, released]
    · simp [same]
  constructor
  · intro after other aliased lasting
    have second := (representable_of_aliased aliased).2
    have shared := (buttonBit_eq_iff button second).mpr (Or.inr aliased)
    have still := (after (buttonBit other)).mpr
      ⟨other, second, rfl, (held other).mpr ⟨aliased_ne aliased, lasting⟩⟩
    exact ((word _).mp still).2 shared.symm
  · intro clean bit
    rw [word, mirror bit]
    constructor
    · rintro ⟨⟨code, representable, here, lasting⟩, elsewhere⟩
      refine ⟨code, representable, here, (held code).mpr ⟨?_, lasting⟩⟩
      rintro rfl
      exact elsewhere here.symm
    · rintro ⟨code, representable, here, lasting⟩
      rw [held] at lasting
      refine ⟨⟨code, representable, here, lasting.2⟩, ?_⟩
      rintro rfl
      rcases (buttonBit_eq_iff button representable).mp here.symm with same | aliased
      · exact lasting.1 same
      · exact clean code aliased lasting.2

/-- Behind a word that mirrors the buttons, one more event keeps it so unless it releases a button
whose alias is held. -/
theorem buttonsMirror_append (mirror : ButtonsMirror events) :
    ButtonsMirror (events ++ [event]) ↔ ¬ReleasesAliased events event := by
  by_cases key : event.type = evKey ∧ Representable event.code
  · by_cases released : event.value = 0
    · rw [mirror_of_release_iff mirror key.1 key.2 released]
      simp only [ReleasesAliased, key.1, released, true_and, not_exists, not_and]
    · have kept := mirror_of_press mirror key.1 key.2 released
      simp only [kept, ReleasesAliased, released, false_and, and_false, not_false_eq_true]
  · have idle : ¬ReleasesAliased events event := by
      rintro ⟨pressed, _, other, aliased, _⟩
      exact key ⟨pressed, (representable_of_aliased aliased).1⟩
    have kept : ButtonsMirror (events ++ [event]) := by
      intro bit
      rw [fold_append, buttons_mapEvent, if_neg key, mirror bit]
      apply exists_congr
      intro code
      apply and_congr_right
      intro representable
      apply and_congr_right
      intro _
      rw [held_append, if_neg]
      rintro ⟨pressed, rfl⟩
      exact key ⟨pressed, representable⟩
    simp only [kept, idle, not_false_eq_true]

theorem buttonsMirror_nil : ButtonsMirror [] := by
  intro bit
  constructor
  · intro set
    simp [InputReport.fold, InputReport.default] at set
  · rintro ⟨code, _, _, held⟩
    cases held

/-- The button word mirrors the wheel throughout a history exactly if that never releases a button
whose alias is held; two buttons share a bit only as aliases; and hat and axes always mirror the
wheel. -/
theorem input_mirror_law (events : List InputEvent) :
    ((∀ front, front <+: events → ButtonsMirror front) ↔
      ∀ front event, front ++ [event] <+: events → ¬ReleasesAliased front event) ∧
    (∀ first second, Representable first → Representable second →
      (buttonBit first = buttonBit second ↔ first = second ∨ Aliased first second)) ∧
    AxesMirror events := by
  refine ⟨?_, fun first second left right => buttonBit_eq_iff left right, axesMirror events⟩
  constructor
  · intro mirrors front event within
    have before := mirrors front ((List.prefix_append front [event]).trans within)
    exact (buttonsMirror_append before).mp (mirrors _ within)
  · intro clean front within
    induction front using List.reverseRecOn with
    | nil => exact buttonsMirror_nil
    | append_singleton front event ih =>
        have before := ih ((List.prefix_append front [event]).trans within)
        exact (buttonsMirror_append before).mpr (clean front event within)

/-- `BTN_SOUTH` and the first code of the extended block are held, and the former is released. -/
def southReleased : List InputEvent :=
  [⟨evKey, 0x130, 1⟩, ⟨evKey, 0x2c5, 1⟩, ⟨evKey, 0x130, 0⟩]

theorem release_clears_held_button :
    ¬ButtonsMirror southReleased ∧ Held southReleased 0x2c5 ∧ buttonBit 0x130 = buttonBit 0x2c5 := by
  refine ⟨?_, by decide, by decide⟩
  intro mirror
  have set := (mirror 16).mpr ⟨0x2c5, by decide, by decide, by decide⟩
  exact absurd set (by decide)

end TrueForce.LogiFfb
