import Mathlib.Logic.Function.Basic
import TrueForce.Foundation.CInt
import TrueForce.Settings.Kind

/-!
# Onboard slots and the driver's cache of them

The wheel stores a set of values per onboard slot and runs one slot at a time;
every SET goes to the active slot.  The driver shows its attributes from a
cache that selecting a slot leaves alone: the refresh work it queues re-reads
the active slot one query after the other.  The slot's name, which is read live,
and the light slots' colours are left out, and so are the wheel's own
broadcasts.
-/

namespace TrueForce.Onboard

open TrueForce.CInt TrueForce.Settings

inductive Setting where
  | strength
  | ffbFilter
  | ffbFilterAuto
  | damping
  | trueforce
  | range
  | brakeForce
  | ledEffect
  | ledBrightness
  deriving DecidableEq

structure Slot where
  strength : ℕ
  damping : ℕ
  trueforce : ℕ
  range : ℕ
  brakeForce : ℕ
  filterFlags : ℕ
  filterLevel : ℕ
  ledEffect : ℕ
  ledBrightness : ℕ
  deriving DecidableEq

structure Cache where
  strength : ℕ
  damping : ℕ
  trueforce : ℕ
  range : ℕ
  brakeForce : ℕ
  ffbFilter : ℕ
  ffbFilterAuto : Bool
  ledEffect : ℕ
  ledBrightness : ℕ
  ledActiveSlot : ℕ
  currentProfile : ℕ
  deriving DecidableEq

/-- What the slot holds for a setting.  Of the filter's flags only the auto bit is one; the other
says whether the level was set explicitly. -/
def Slot.editable (slot : Slot) : Setting → ℕ
  | .strength => slot.strength
  | .ffbFilter => slot.filterLevel
  | .ffbFilterAuto => if slot.filterFlags.testBit 2 then 1 else 0
  | .damping => slot.damping
  | .trueforce => slot.trueforce
  | .range => slot.range
  | .brakeForce => slot.brakeForce
  | .ledEffect => slot.ledEffect
  | .ledBrightness => slot.ledBrightness

def Setting.kind : Setting → Kind
  | .strength | .damping | .trueforce | .brakeForce | .ledBrightness => .percent
  | .ffbFilter => .intRange 1 15
  | .ffbFilterAuto => .toggle
  | .range => .intRange 90 2700
  | .ledEffect => .intRange 1 9

def percentOf (value : ℕ) : ℕ := (value * 100 + 65535 / 2) / 65535

def ofPercent (percent : ℕ) : ℕ := percent * 65535 / 100

def Cache.shown (cache : Cache) : Setting → ℕ
  | .strength => percentOf cache.strength
  | .ffbFilter => cache.ffbFilter
  | .ffbFilterAuto => if cache.ffbFilterAuto then 1 else 0
  | .damping => percentOf cache.damping
  | .trueforce => percentOf cache.trueforce
  | .range => cache.range
  | .brakeForce => percentOf cache.brakeForce
  | .ledEffect => cache.ledEffect
  | .ledBrightness => cache.ledBrightness

/-- Reading a setting: what is shown may be outside the setting's own range. -/
def Cache.read (cache : Cache) (setting : Setting) : Except Error Value :=
  setting.kind.parse (.number (cache.shown setting))

/-- What a store makes of the number written to it. -/
def Setting.wire (number : ℤ) : Setting → ℕ
  | .strength | .damping | .trueforce | .brakeForce => ofPercent (clamp number 0 100).toNat
  | .ffbFilter => (clamp number 1 15).toNat
  | .ffbFilterAuto => if number = 0 then 0 else 1
  | .range => (clamp number 90 2700).toNat
  | .ledEffect => (clamp number 1 9).toNat
  | .ledBrightness => (clamp number 0 100).toNat

/-- The SET of a store.  The two filter stores send each other's cached half along, and effect 5
goes out a second time as the effect of the active light slot. -/
def Slot.set (slot : Slot) (cache : Cache) (setting : Setting) (value : ℕ) : Slot :=
  match setting with
  | .strength => { slot with strength := value }
  | .ffbFilter =>
      { slot with
        filterFlags := 0x01 ||| (if cache.ffbFilterAuto then 0x04 else 0x00)
        filterLevel := value }
  | .ffbFilterAuto =>
      { slot with
        filterFlags := if value = 0 then 0x00 else 0x04
        filterLevel := cache.ffbFilter }
  | .damping => { slot with damping := value }
  | .trueforce => { slot with trueforce := value }
  | .range => { slot with range := value }
  | .brakeForce => { slot with brakeForce := value }
  | .ledEffect => { slot with ledEffect := if value = 5 then 5 + cache.ledActiveSlot else value }
  | .ledBrightness => { slot with ledBrightness := value }

/-- The cache update behind a SET that the wheel accepted. -/
def Cache.keep (cache : Cache) (setting : Setting) (value : ℕ) : Cache :=
  match setting with
  | .strength => { cache with strength := value }
  | .ffbFilter => { cache with ffbFilter := value }
  | .ffbFilterAuto => { cache with ffbFilterAuto := value ≠ 0 }
  | .damping => { cache with damping := value }
  | .trueforce => { cache with trueforce := value }
  | .range => { cache with range := value }
  | .brakeForce => { cache with brakeForce := value }
  | .ledEffect =>
      { cache with
        ledEffect := value
        ledActiveSlot := if 6 ≤ value then value - 5 else cache.ledActiveSlot }
  | .ledBrightness => { cache with ledBrightness := value }

inductive Query where
  | profile
  | range
  | strength
  | damping
  | trueforce
  | brakeForce
  | filter
  | brightness
  | lightsyncState
  deriving DecidableEq

/-- The queries of a refresh, in order.  A real G PRO is never asked about its lights' effect. -/
def queries : Model → List Query
  | .rs50 =>
      [.profile, .range, .strength, .damping, .trueforce, .brakeForce, .filter, .brightness,
        .lightsyncState]
  | .gpro =>
      [.profile, .range, .strength, .damping, .trueforce, .brakeForce, .filter, .brightness]

structure Reply where
  profile : ℕ
  slot : Slot
  deriving DecidableEq

def Cache.absorb (cache : Cache) (reply : Reply) : Query → Cache
  | .profile => { cache with currentProfile := reply.profile }
  | .range =>
      if 90 ≤ reply.slot.range ∧ reply.slot.range ≤ 2700 then
        { cache with range := reply.slot.range }
      else cache
  | .strength => { cache with strength := reply.slot.strength }
  | .damping => { cache with damping := reply.slot.damping }
  | .trueforce => { cache with trueforce := reply.slot.trueforce }
  | .brakeForce => { cache with brakeForce := reply.slot.brakeForce }
  -- The flags are compared with both bits set; a bare auto toggle leaves only one of them.
  | .filter =>
      { cache with
        ffbFilterAuto := reply.slot.filterFlags = 0x05
        ffbFilter := reply.slot.filterLevel }
  | .brightness => { cache with ledBrightness := min reply.slot.ledBrightness 100 }
  | .lightsyncState =>
      if 1 ≤ reply.slot.ledEffect ∧ reply.slot.ledEffect ≤ 9 then
        { cache with
          ledEffect := reply.slot.ledEffect
          ledActiveSlot :=
            if 6 ≤ reply.slot.ledEffect then reply.slot.ledEffect - 5 else cache.ledActiveSlot }
      else cache

/-- An unanswered query leaves the cache alone, except that the profile falls back to desktop. -/
def Cache.miss (cache : Cache) : Query → Cache
  | .profile => { cache with currentProfile := 0 }
  | _ => cache

end TrueForce.Onboard
