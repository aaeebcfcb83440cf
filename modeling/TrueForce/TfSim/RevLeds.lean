import TrueForce.Foundation.Binary32
import TrueForce.Foundation.Transition
import Mathlib.Data.Fintype.Defs

/-!
# The rev display on the five LED files

The feeder keeps what it last wrote to each brightness file, the level it last showed and
when.  A write lands or fails for every file on its own.  Times are in nanoseconds.  Only the
classdev backend is here; the other one has a single attribute.
-/

namespace TrueForce.TfSim.Leds

open TrueForce.Binary32 TrueForce.Transition

abbrev ledCount : ℕ := 5

/-- On or off, from the outermost pair to the innermost. -/
abbrev Strip := Fin ledCount → Bool

abbrev Strip.dark : Strip := fun _ => false

def minWriteInterval : ℕ := 16 * 10 ^ 6

/-- In microseconds. -/
def pitFlashHalfPeriod : ℕ := 416700

def pitFlashLevel (elapsed : ℕ) : UInt8 :=
  if elapsed / 1000 / pitFlashHalfPeriod % 2 = 0 then 10 else 0

/-- `value.round().clamp(0.0, 10.0) as u8`; a value of `units` is worth `2 ^ -149`. -/
def roundedLevel (value : F32) : UInt8 :=
  if isNan value ∨ negative value then 0
  else if isFinite value then
    UInt8.ofNat (min 10 ((2 * units (code value) + 2 ^ 149) / 2 ^ 150))
  else 10

def revLevel (rpm maxRpm : F32) : UInt8 :=
  if isNan maxRpm ∨ le maxRpm zero then 0 else roundedLevel (div (mul (ofNat 10) rpm) maxRpm)

/-- `level.div_ceil(2)` -/
def litCount (level : UInt8) : ℕ := (level.toNat + 1) / 2

/-- The lights of a level, lit from the outside in. -/
def shown (level : UInt8) : Strip := fun led => decide (led.val < litCount level)

structure RevLeds where
  lit : Strip
  lastLevel : Option UInt8
  lastWrite : Option ℕ
  pitFlashSince : Option ℕ
  warned : Bool

def RevLeds.atClassdevs : RevLeds where
  lit := Strip.dark
  lastLevel := none
  lastWrite := none
  pitFlashSince := none
  warned := false

structure Update where
  rpm : F32
  maxRpm : F32
  pitLimiter : Bool
  now : ℕ

/-- A write to the brightness file of one light. -/
structure Write where
  led : Fin ledCount
  on : Bool
  landed : Bool
  deriving DecidableEq

/-- The feeder and the files it writes, with what the last call tried. -/
structure State where
  leds : RevLeds
  brightness : Strip
  clock : ℕ
  /-- The level given to `write_level` by the last call, if it got there. -/
  attempt : Option UInt8
  writes : List Write
  /-- When the level was shown in full since the last stop, newest first. -/
  successes : List ℕ

def State.atClassdevs (brightness : Strip) (clock : ℕ) : State where
  leds := .atClassdevs
  brightness
  clock
  attempt := none
  writes := []
  successes := []

namespace State

/-- The start of a pit flash, and the level that an update wants. -/
def flashSince (state : State) (update : Update) : Option ℕ :=
  if update.pitLimiter then some (state.leds.pitFlashSince.getD update.now) else none

def wanted (state : State) (update : Update) : UInt8 :=
  match state.flashSince update with
  | some since => pitFlashLevel (update.now - since)
  | none => revLevel update.rpm update.maxRpm

/-- The file has to be written for the level. -/
def differs (state : State) (level : UInt8) (led : Fin ledCount) : Bool :=
  state.leds.lit led != shown level led

/-- The writes of `write_level` in their order. -/
def levelWrites (state : State) (level : UInt8) (lands : Strip) : List Write :=
  ((List.finRange ledCount).filter (state.differs level)).map fun led =>
    { led, on := shown level led, landed := lands led }

/-- What a strip shows or remembers after some writes. -/
def written (strip : Strip) (writes : List Write) : Strip :=
  writes.foldl (fun strip write led =>
    if write.landed ∧ write.led = led then write.on else strip led) strip

def writeLevel (state : State) (level : UInt8) (lands : Strip) : State :=
  let writes := state.levelWrites level lands
  { state with
    leds := { state.leds with lit := written state.leds.lit writes }
    brightness := written state.brightness writes
    attempt := some level
    writes }

/-- No write was tried since the last return before `write_level`. -/
def skip (state : State) : State := { state with attempt := none, writes := [] }

/-- The update gets past the comparison with the last level and past the pacing. -/
def due (state : State) (level : UInt8) (now : ℕ) : Bool :=
  state.leds.lastLevel != some level &&
    !(state.leds.lastWrite.any fun last => now - last < minWriteInterval)

def updateLevel (state : State) (level : UInt8) (lands : Strip) : State :=
  if state.due level state.clock then
    let next := state.writeLevel level lands
    if next.writes.all Write.landed then
      { next with
        leds := { next.leds with lastLevel := some level, lastWrite := some state.clock }
        successes := state.clock :: state.successes }
    else { next with leds := { next.leds with warned := true } }
  else state.skip

/-- An update takes note of the pit limiter before it looks at the level. -/
def noteFlash (state : State) (update : Update) : State :=
  { state with
    leds := { state.leds with pitFlashSince := state.flashSince update }
    clock := update.now }

def update (state : State) (update : Update) (lands : Strip) : State :=
  (state.noteFlash update).updateLevel (state.wanted update) lands

/-- Every file is written, and taken for dark whether or not the write lands. -/
def stop (state : State) (lands : Strip) : State :=
  let writes := (List.finRange ledCount).map fun led =>
    { led, on := false, landed := lands led : Write }
  { state with
    leds := { state.leds with lit := Strip.dark, lastLevel := none, lastWrite := none }
    brightness := written state.brightness writes
    attempt := none
    writes
    successes := [] }

end State

/-- A call of the feeder, with the writes that will land. -/
inductive Event where
  | update (update : Update) (lands : Strip)
  | stop (lands : Strip)

/-- The clock does not run backwards. -/
def State.step (state : State) : Event → Option State
  | .update update lands =>
      if state.clock ≤ update.now then some (state.update update lands) else none
  | .stop lands => some (state.stop lands)

/-- The feeder over files that are first in one of the given conditions. -/
def revDisplay (starts : Strip → Prop) : System State Event where
  initial state := ∃ brightness clock, starts brightness ∧ state = .atClassdevs brightness clock
  step := State.step

/-- A recorded level is the one that the lights show. -/
def State.Coherent (state : State) : Prop :=
  ∀ level ∈ state.leds.lastLevel, state.brightness = shown level

/-- The level of an update that gets to its writes is reached in full or, where a level is
recorded, not at all; a stop fails on dark lights only. -/
def State.WritesWhole (state : State) : Event → Prop
  | .update update lands =>
      state.due (state.wanted update) update.now = true → state.leds.lastLevel ≠ none →
        (∀ led, state.differs (state.wanted update) led = true → lands led = true) ∨
        ∀ led, state.differs (state.wanted update) led = true → lands led = false
  | .stop lands => ∀ led, state.brightness led = true → lands led = true

end TrueForce.TfSim.Leds
