import TrueForce.Foundation.Register
import TrueForce.Profile.Driver

/-!
# Saving and replaying a profile

A profile holds one line per readable setting, in registry order, and a replay
writes the lines back in that order, the strip's selection last.  Every curve
and the brightness are registers that several lines write, so what a replay
leaves in each is what the last line for it says:

* a pedal ends with the curve of its cached deadzone, which comes last;
* the steering and the handbrake end with the built-in curve if they had it,
  and otherwise, their curve having no text, with that of the cached slider;
* the brightness ends with that of the active light slot on a wheel that has
  light slots.

A replay is the identity exactly in the states whose registers already hold
what these lines say.
-/

namespace TrueForce.Profile

open TrueForce.Settings TrueForce.Transition

inductive Access where
  | readWrite
  | readOnly
  | action
  deriving DecidableEq

inductive ModeReq where
  | any
  | desktopOnly
  | onboardOnly
  deriving DecidableEq

inductive Role where
  | setting
  | storeSelector
  | slotContent
  | displaySelector
  | transient
  deriving DecidableEq

structure SettingSpec where
  attr : Attribute
  kind : Kind
  access : Access
  modeReq : ModeReq
  deriving DecidableEq

def roleOf : Attribute → Role
  | .ledSlot | .ledSlotBrightness => .slotContent
  | .ledEffect => .displaySelector
  | _ => .setting

def registry : List SettingSpec :=
  [⟨.wheelSensitivity, .percent, .readWrite, .desktopOnly⟩,
    ⟨.wheelResponseCurve, .curve, .readWrite, .any⟩,
    ⟨.pedalSensitivity .throttle, .percent, .readWrite, .any⟩,
    ⟨.pedalCurve .throttle, .curve, .readWrite, .any⟩,
    ⟨.pedalDeadzone .throttle, .pair 99, .readWrite, .any⟩,
    ⟨.pedalSensitivity .brake, .percent, .readWrite, .any⟩,
    ⟨.pedalCurve .brake, .curve, .readWrite, .any⟩,
    ⟨.pedalDeadzone .brake, .pair 99, .readWrite, .any⟩,
    ⟨.pedalSensitivity .clutch, .percent, .readWrite, .any⟩,
    ⟨.pedalCurve .clutch, .curve, .readWrite, .any⟩,
    ⟨.pedalDeadzone .clutch, .pair 99, .readWrite, .any⟩,
    ⟨.handbrakeSensitivity, .percent, .readWrite, .any⟩,
    ⟨.handbrakeCurve, .curve, .readWrite, .any⟩,
    ⟨.ledEffect, .intRange 1 9, .readWrite, .any⟩,
    ⟨.ledBrightness, .percent, .readWrite, .any⟩,
    ⟨.ledSlot, .intRange 0 4, .readWrite, .any⟩,
    ⟨.ledSlotBrightness, .percent, .readWrite, .any⟩]

def specOf (attr : Attribute) : Option SettingSpec :=
  registry.find? fun spec => spec.attr = attr

def mapIoError : Errno → Error
  | .eperm => .wrongMode .desktop
  | .eopnotsupp => .unsupported
  | .erange => .outOfRange
  | .einval => .invalid

/-- A G PRO hides every attribute of the strip but the brightness. -/
def Session.exposes (session : Session) : Attribute → Bool
  | .ledEffect | .ledSlot | .ledSlotBrightness => session.model = .rs50
  | _ => true

def Session.available (session : Session) (attr : Attribute) : Bool :=
  session.exposes attr &&
    match attr with
    | .handbrakeSensitivity | .handbrakeCurve => session.handbrake
    | _ => true

def read (session : Session) (state : State) (spec : SettingSpec) : Except Error Value := do
  let raw ← (state.shown session spec.attr).mapError mapIoError
  spec.kind.parse raw

/-- Validate, gate on the mode, and hand the formatted value to sysfs. -/
def writeChecked (session : Session) (spec : SettingSpec) (value : Value) :
    Except Error Command := do
  spec.kind.validate value
  match spec.modeReq, session.mode with
  | .desktopOnly, .onboard => .error (.wrongMode .desktop)
  | .onboardOnly, .desktop => .error (.wrongMode .onboard)
  | _, _ =>
      let raw ← spec.kind.format value
      if session.exposes spec.attr then (decode session spec.attr raw).mapError mapIoError
      else .error .io

def write (session : Session) (attr : Attribute) (value : Value) : Except Error Command :=
  match specOf attr with
  | none => .error .invalid
  | some spec =>
      if spec.access = .readOnly then .error .invalid else writeChecked session spec value

def snapshotted (spec : SettingSpec) : Bool :=
  spec.access = .readWrite && spec.modeReq ≠ .onboardOnly &&
    roleOf spec.attr ≠ .storeSelector && roleOf spec.attr ≠ .transient

abbrev Line := Attribute × Raw

/-- A setting that is unavailable, unreadable or has no text for its value gets no line. -/
def saveLine (session : Session) (state : State) (spec : SettingSpec) : Option Line :=
  if session.available spec.attr then
    match read session state spec with
    | .error _ => none
    | .ok value =>
        match spec.kind.format value with
        | .error _ => none
        | .ok raw => some (spec.attr, raw)
  else none

def saveIn (session : Session) (state : State) : List Line :=
  (registry.filter snapshotted).filterMap (saveLine session state)

def lineCommand (session : Session) (line : Line) : Except Error Command :=
  match specOf line.1 with
  | none => .error .invalid
  | some spec => do
      let value ← spec.kind.parse line.2
      write session line.1 value

/-- The state a replay has reached, and the lines that failed. -/
abbrev Outcome := State × List (Attribute × Error)

def applyLine (session : Session) (outcome : Outcome) (line : Line) : Outcome :=
  -- Store selectors in older files are skipped and not reported.
  if roleOf line.1 = .storeSelector ∨ roleOf line.1 = .transient then outcome
  else
    match lineCommand session line with
    | .ok command => (outcome.1.perform session command, outcome.2)
    | .error error => (outcome.1, outcome.2 ++ [(line.1, error)])

def applyIn (session : Session) (lines : List Line) (state : State) : Outcome :=
  let settings := lines.filter fun line => roleOf line.1 ≠ .displaySelector
  let selectors := lines.filter fun line => roleOf line.1 = .displaySelector
  selectors.foldl (applyLine session) (settings.foldl (applyLine session) (state, []))

def replay (session : Session) (state : State) : State :=
  (applyIn session (saveIn session state) state).1

end TrueForce.Profile
