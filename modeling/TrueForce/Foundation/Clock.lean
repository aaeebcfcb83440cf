import TrueForce.Foundation.Transition
import Mathlib.Order.Lattice

/-!
# Runs beside a clock

Some of a component's events carry the time at which they happen.  Beside a clock the
component takes such an event only when the clock has not passed it, and before a
given end of time.
-/

namespace TrueForce.Transition.System

universe u v w

variable {State : Type u} {Event : Type v} {Time : Type w} [LinearOrder Time]

/-- The component beside a clock. -/
def clocked (system : System State Event) (time : Event → Option Time) (horizon : Time) :
    System (State × Time) Event where
  initial state := system.initial state.1 ∧ state.2 < horizon
  step state event :=
    match time event with
    | some now =>
        if state.2 ≤ now ∧ now < horizon then (system.step state.1 event).map fun next => (next, now)
        else none
    | none => (system.step state.1 event).map fun next => (next, state.2)

variable {system : System State Event} {time : Event → Option Time} {horizon clock later : Time}
  {state next : State} {event : Event}

theorem clocked_step_iff :
    (system.clocked time horizon).step (state, clock) event = some (next, later) ↔
      system.step state event = some next ∧
        match time event with
        | some now => clock ≤ now ∧ now < horizon ∧ later = now
        | none => later = clock := by
  simp only [clocked]
  cases time event with
  | some now =>
      simp only
      by_cases timely : clock ≤ now ∧ now < horizon
      · rw [if_pos timely]
        simp only [Option.map_eq_some_iff, Prod.mk.injEq, timely, true_and]
        constructor
        · rintro ⟨_, stepped, rfl, rfl⟩
          exact ⟨stepped, rfl⟩
        · rintro ⟨stepped, rfl⟩
          exact ⟨next, stepped, rfl, rfl⟩
      · rw [if_neg timely]
        simp only [reduceCtorEq, false_iff]
        rintro ⟨_, first, second, _⟩
        exact timely ⟨first, second⟩
  | none =>
      simp only [Option.map_eq_some_iff, Prod.mk.injEq]
      constructor
      · rintro ⟨_, stepped, rfl, rfl⟩
        exact ⟨stepped, rfl⟩
      · rintro ⟨stepped, rfl⟩
        exact ⟨next, stepped, rfl, rfl⟩

/-- A fact about the component and its clock, before the end of time. -/
def Beside (holds : State → Time → Prop) (horizon : Time) (pair : State × Time) : Prop :=
  holds pair.1 pair.2 ∧ pair.2 < horizon

/-- What holds initially, at any time before the end, and is kept by the component's steps as
the clock goes on, holds beside the clock. -/
theorem clocked_invariant {holds : State → Time → Prop}
    (reachable : (system.clocked time horizon).Reachable (state, clock))
    (base : ∀ start first, system.initial start → first < horizon → holds start first)
    (kept : ∀ current first event next last, holds current first → first < horizon →
      (system.clocked time horizon).step (current, first) event = some (next, last) →
      holds next last) :
    holds state clock ∧ clock < horizon := by
  have both : Beside holds horizon (state, clock) := by
    apply reachable.invariant
    · rintro ⟨start, first⟩ ⟨initial, early⟩
      exact ⟨base start first initial early, early⟩
    · rintro ⟨current, first⟩ event ⟨next, last⟩ ⟨held, early⟩ _ stepped
      refine ⟨kept current first event next last held early stepped, ?_⟩
      have split := (clocked_step_iff.mp stepped).2
      revert split
      cases time event with
      | some now =>
          rintro ⟨_, before, rfl⟩
          exact before
      | none =>
          rintro rfl
          exact early
  exact both

end TrueForce.Transition.System
