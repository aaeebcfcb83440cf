import TrueForce.Classic.Engine
import TrueForce.Foundation.Transition

/-!
# The timer of the classic engine

`dd_lg4ff_timer_hires` runs beside the calls of the input core.  Only its sampling
holds `timer_lock`; between its other steps an effect may be uploaded, started or
stopped, and its decision to go on reads `effects_used` without the lock.
-/

namespace TrueForce.Classic

open TrueForce.CInt TrueForce.Ffb Transition

/-- Where a callback is. -/
inductive Callback where
  | entered
  /-- The output queue is not in the way. -/
  | clear
  /-- The forces are under the gains up to the slots left; `used` is what the sampling left in
  `effects_used`. -/
  | scaling (forces : Forces) (gain : ℕ) (left : List (Fin 4)) (used : ℤ)
  | sending (forces : Forces) (left : List (Fin 4)) (used : ℤ)
  /-- `dd_lg4ff_timer` has returned 0, after a sampling or without one. -/
  | deciding (used : Option ℤ)
  | leaving (restart : Bool)

structure Engine where
  entry : Entry
  /-- The timer is queued. -/
  queued : Bool
  callback : Option Callback
  timerMode : ℤ
  timerMsecs : ℤ

namespace Engine

def initial (levels : Levels) : Engine where
  entry := .initial levels
  queued := false
  callback := none
  timerMode := 2
  timerMsecs := 2

/-- `hrtimer_active` -/
def active (engine : Engine) : Bool := engine.queued || engine.callback.isSome

def idle (engine : Engine) : Bool := !engine.active

end Engine

inductive TimerEvent where
  | upload (id : Fin 16) (effect : FfEffect) (now : UInt64)
  | play (id : Fin 16) (value : ℤ) (now : UInt64)
  | setGain (gain : UInt16)
  | setMasterGain (gain : UInt16)
  /-- The module parameters are written. -/
  | configure (mode msecs : ℤ)
  /-- The timer fires. -/
  | fire
  /-- The callback looks at the output queue. -/
  | look (busy : Bool)
  | sample (instant : Instant)
  | scale
  | send
  | decide
  | leave

namespace Engine

/-- `dd_lg4ff_play_effect`, with the timer. -/
def play (engine : Engine) (id : Fin 16) (value : ℤ) (now : UInt64) : Engine :=
  { engine with
    entry := engine.entry.playEffect id value now
    queued := engine.queued || engine.entry.begins id value && !engine.active }

/-- The early return of `dd_lg4ff_timer`. -/
def look (engine : Engine) (busy : Bool) : Engine :=
  if 0 < engine.timerMode ∧ busy then
    { engine with
      timerMsecs :=
        if engine.timerMode = 1 then s32 (engine.timerMsecs * 2) else engine.timerMsecs
      callback := some (if engine.timerMsecs ≠ 0 then .leaving true else .deciding none) }
  else { engine with callback := some .clear }

def sample (engine : Engine) (fixpSin32 : ℤ → ℤ) (instant : Instant) : Engine :=
  let gain := engine.entry.totalGain
  let sampling := Classic.sample fixpSin32 instant engine.entry
  { engine with
    entry := sampling.entry
    callback := some (.scaling (scaleLevel gain sampling.forces) gain [1, 2, 3]
      sampling.entry.effectsUsed) }

end Engine

def timerStep (fixpSin32 : ℤ → ℤ) (engine : Engine) : TimerEvent → Option Engine
  | .upload id effect now =>
      (engine.entry.uploadEffect id effect now).map fun entry => { engine with entry }
  | .play id value now => some (engine.play id value now)
  | .setGain gain => some { engine with entry := { engine.entry with gain } }
  | .setMasterGain gain => some { engine with entry := { engine.entry with masterGain := gain } }
  | .configure mode msecs => some { engine with timerMode := mode, timerMsecs := msecs }
  | .fire =>
      match engine.queued, engine.callback with
      | true, none => some { engine with queued := false, callback := some .entered }
      | _, _ => none
  | .look busy =>
      match engine.callback with
      | some .entered => some (engine.look busy)
      | _ => none
  | .sample instant =>
      match engine.callback with
      | some .clear => some (engine.sample fixpSin32 instant)
      | _ => none
  | .scale =>
      match engine.callback with
      | some (.scaling forces gain (i :: left) used) => some { engine with
          callback := some (.scaling (engine.entry.scaleSlot gain forces i) gain left used) }
      | some (.scaling forces _ [] used) => some { engine with
          callback := some (.sending forces [0, 1, 2, 3] used) }
      | _ => none
  | .send =>
      match engine.callback with
      | some (.sending forces (i :: left) used) => some { engine with
          entry := engine.entry.pushSlot forces i
          callback := some (.sending forces left used) }
      | some (.sending _ [] used) => some { engine with callback := some (.deciding (some used)) }
      | _ => none
  | .decide =>
      match engine.callback with
      | some (.deciding _) => some { engine with
          callback := some (.leaving (engine.entry.effectsUsed ≠ 0)) }
      | _ => none
  | .leave =>
      match engine.callback with
      | some (.leaving restart) => some { engine with
          queued := engine.queued || restart, callback := none }
      | _ => none

def timerSystem (fixpSin32 : ℤ → ℤ) : System Engine TimerEvent where
  initial engine := ∃ levels, engine = .initial levels
  step := timerStep fixpSin32

end TrueForce.Classic
