import Mathlib.Data.List.Basic

/-!
# Registers with many writers

A register is a part of a larger state that some writes replace outright and
the others leave alone; which value a write leaves is read off the write, not
off the state.  A sequence of writes then leaves the value of the last write
that touched the register, whatever the writes before it did.
-/

namespace TrueForce

universe u v w

/-- A part of the state together with the value each write leaves in it, if it touches it. -/
structure Register (State : Type u) (Write : Type v) (Value : Type w) where
  apply : State → Write → State
  read : State → Value
  written : Write → Option Value
  read_apply : ∀ state write, read (apply state write) = (written write).getD (read state)

namespace Register

variable {State : Type u} {Write : Type v} {Value : Type w}

theorem read_foldl_untouched (register : Register State Write Value) {writes : List Write}
    (untouched : ∀ write ∈ writes, register.written write = none) (state : State) :
    register.read (writes.foldl register.apply state) = register.read state := by
  induction writes generalizing state with
  | nil => rfl
  | cons write writes ih =>
      have head := untouched write List.mem_cons_self
      have tail := fun other member => untouched other (List.mem_cons_of_mem write member)
      rw [List.foldl_cons, ih tail, register.read_apply, head]
      rfl

/-- The last write to the register decides, whatever comes before it. -/
theorem read_foldl_last (register : Register State Write Value) {value : Value} {write : Write}
    (before : List Write) {after : List Write} (touched : register.written write = some value)
    (untouched : ∀ other ∈ after, register.written other = none) (state : State) :
    register.read ((before ++ write :: after).foldl register.apply state) = value := by
  rw [List.foldl_append, List.foldl_cons, register.read_foldl_untouched untouched,
    register.read_apply, touched]
  rfl

end Register

end TrueForce
