import Mathlib.Data.List.Basic
import Mathlib.Logic.Function.Iterate

/-!
# Sources of samples

A source emits one sample a tick and moves on.  A block of samples is a number of
ticks, so two blocks in a row are one block of both their lengths.
-/

namespace TrueForce.Sampled

universe u v w

structure Source (State : Type u) (Value : Type v) where
  tick : State → State
  sample : State → Value

namespace Source

variable {State : Type u} {Value : Type v} {Other : Type w}

def after (source : Source State Value) (count : ℕ) (state : State) : State :=
  source.tick^[count] state

def samples (source : Source State Value) (count : ℕ) (state : State) : List Value :=
  (List.range count).map fun index => source.sample (source.after index state)

variable (source : Source State Value)

@[simp]
theorem after_zero (state : State) : source.after 0 state = state := rfl

theorem after_succ (count : ℕ) (state : State) :
    source.after (count + 1) state = source.after count (source.tick state) := rfl

theorem after_add (first second : ℕ) (state : State) :
    source.after (first + second) state = source.after second (source.after first state) := by
  simp only [after, Nat.add_comm first second, Function.iterate_add_apply]

@[simp]
theorem samples_zero (state : State) : source.samples 0 state = [] := rfl

@[simp]
theorem length_samples (count : ℕ) (state : State) :
    (source.samples count state).length = count := by
  simp only [samples, List.length_map, List.length_range]

theorem samples_add (first second : ℕ) (state : State) :
    source.samples (first + second) state =
      source.samples first state ++ source.samples second (source.after first state) := by
  simp only [samples, List.range_add, List.map_append, List.map_map]
  congr 1
  apply List.map_congr_left
  intro index _
  simp only [Function.comp_apply, after_add]

end Source

end TrueForce.Sampled
