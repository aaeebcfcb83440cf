import Mathlib.Data.Int.Notation
import Mathlib.Data.List.Basic

/-!
# The force-feedback effects of an open event device

The kernel keeps, for every open file of an event device, the effects uploaded
through it.  An upload with a negative id asks for a new effect and is given an
id of the kernel's choice that is not live; one with the id of a live effect
replaces its parameters and leaves it playing.  A call that fails has no effect,
and closing the file drops its effects.
-/

namespace TrueForce.Foundation

structure EffectEntry (Params : Type) where
  id : ℕ
  params : Params
  playing : Bool
  deriving DecidableEq, Repr

/-- The answer of the kernel to an upload: an id, which only a new effect uses, or a refusal. -/
inductive UploadReply where
  | accepted (fresh : ℕ)
  | refused
  deriving DecidableEq, Repr

abbrev EffectTable (Params : Type) := List (EffectEntry Params)

namespace EffectTable

variable {Params : Type}

def ids (table : EffectTable Params) : List ℕ := table.map EffectEntry.id

/-- The kernel hands out ids of its 16-bit field that are not live. -/
def Admits (table : EffectTable Params) (requested : ℤ) : UploadReply → Prop
  | .accepted fresh => requested < 0 → fresh < 0x8000 ∧ fresh ∉ table.ids
  | .refused => True

instance (table : EffectTable Params) (requested : ℤ) (reply : UploadReply) :
    Decidable (table.Admits requested reply) :=
  match reply with
  | .accepted fresh =>
      inferInstanceAs (Decidable (requested < 0 → fresh < 0x8000 ∧ fresh ∉ table.ids))
  | .refused => isTrue trivial

def update (table : EffectTable Params) (id : ℕ) (params : Params) : EffectTable Params :=
  table.map fun entry => if entry.id = id then { entry with params } else entry

/-- `EVIOCSFF`: the table and the id of the effect afterwards, unless the call fails. -/
def upload (table : EffectTable Params) (requested : ℤ) (params : Params) :
    UploadReply → Option (EffectTable Params × ℤ)
  | .refused => none
  | .accepted fresh =>
      if requested < 0 then some (table ++ [{ id := fresh, params, playing := false }], fresh)
      else if requested.toNat ∈ table.ids then
        some (table.update requested.toNat params, requested)
      else none

/-- `EVIOCRMFF`. -/
def remove (table : EffectTable Params) (id : ℕ) : EffectTable Params :=
  table.filter fun entry => entry.id ≠ id

/-- An `EV_FF` event written for an effect. -/
def play (table : EffectTable Params) (id : ℕ) (playing : Bool) : EffectTable Params :=
  table.map fun entry => if entry.id = id then { entry with playing } else entry

/-- The parameters of the effects that play. -/
def sounding (table : EffectTable Params) : List Params :=
  (table.filter EffectEntry.playing).map EffectEntry.params

@[simp]
theorem ids_update (table : EffectTable Params) (id : ℕ) (params : Params) :
    (table.update id params).ids = table.ids := by
  simp only [ids, update, List.map_map]
  congr 1
  funext entry
  simp only [Function.comp_apply]
  split <;> rfl

@[simp]
theorem ids_play (table : EffectTable Params) (id : ℕ) (playing : Bool) :
    (table.play id playing).ids = table.ids := by
  simp only [ids, play, List.map_map]
  congr 1
  funext entry
  simp only [Function.comp_apply]
  split <;> rfl

theorem ids_remove (table : EffectTable Params) (id : ℕ) :
    (table.remove id).ids = table.ids.filter (· ≠ id) := by
  simp only [ids, remove, List.filter_map]
  rfl

end EffectTable

end TrueForce.Foundation
