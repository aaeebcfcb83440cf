import TrueForce.Ffb.Effect

/-!
# The wheel's motion

`hidpp_dd_track_wheel_pos` publishes a position with its arrival time; the effect
timer derives velocity and acceleration from successive positions at its own
cadence.
-/

namespace TrueForce.Ffb

open TrueForce.CInt

def velHoldTicks : ℕ := 8

def accelTauMs : ℕ := 50

def ffTickMs : ℕ := 1

/-- The position the input path publishes and what the timer derives from it.
Times are in nanoseconds. -/
structure Motion where
  pos : UInt16
  posTs : ℤ
  posSeen : Bool
  primed : Bool
  posPrev : UInt16
  posPrevTs : ℤ
  holdTicks : ℕ
  vel : ℤ
  velSlowQ8 : ℤ
  accel : ℤ
  deriving DecidableEq, Repr

namespace Motion

def zero : Motion := ⟨0, 0, false, false, 0, 0, 0, 0, 0, 0⟩

def report (motion : Motion) (pos : UInt16) (timestamp : ℤ) : Motion :=
  { motion with pos := pos, posTs := timestamp, posSeen := true }

/-- The velocity between two different positions, in counts per millisecond. -/
def velocity (motion : Motion) : ℤ :=
  let delta := s16 ((motion.pos.toNat : ℤ) - motion.posPrev.toNat)
  let dt := motion.posTs - motion.posPrevTs
  let derived :=
    -- `div_s64` divides by an `s32`
    if 0 < dt then
      s32 ((delta * 1000000 + if 0 ≤ delta then dt.tdiv 2 else (-dt).tdiv 2).tdiv (s32 dt))
    else delta.tdiv (motion.holdTicks + 1)
  if derived = 0 then (if 0 < delta then 1 else -1) else derived

/-- The position and velocity part of the timer's refresh. -/
def refreshVelocity (motion : Motion) : Motion :=
  if motion.primed = false then
    { motion with
      posPrev := motion.pos, posPrevTs := motion.posTs, holdTicks := 0, vel := 0, velSlowQ8 := 0
      primed := true }
  else if motion.pos = motion.posPrev then
    let holdTicks := if motion.holdTicks < 0xFFFF then motion.holdTicks + 1 else motion.holdTicks
    { motion with
      holdTicks := holdTicks
      vel := if velHoldTicks ≤ holdTicks then 0 else motion.vel }
  else
    { motion with
      vel := motion.velocity, posPrev := motion.pos, posPrevTs := motion.posTs, holdTicks := 0 }

def refresh (motion : Motion) : Motion :=
  let moved := motion.refreshVelocity
  let (velSlowQ8, accel) := accelFilter moved.velSlowQ8 moved.vel ffTickMs accelTauMs
  { moved with velSlowQ8 := velSlowQ8, accel := accel }

/-- What the effects are fed: a wheel that has not reported yet reads as centred and still. -/
def observe (motion : Motion) : WheelState :=
  if motion.posSeen then ⟨(motion.pos.toNat : ℤ) - 0x8000, motion.vel, motion.accel⟩
  else ⟨0, 0, 0⟩

end Motion

end TrueForce.Ffb
