import Mathlib.Logic.Relation

/-!
# Guarded runs of a step function

A concurrent component is a step function: an event either is enabled in a
state, and then has one successor, or it is not.  Runs are closed under a guard
on the steps they take, so that one notion covers both every run and every run
that stays clear of a given kind of step.  The invariant rules below are the
only inductions over runs; a component supplies one lemma per step.
-/

namespace TrueForce.Transition

universe u v

/-- A component as a set of initial states and a partial step function. -/
structure System (State : Type u) (Event : Type v) where
  initial : State → Prop
  step : State → Event → Option State

namespace System

variable {State : Type u} {Event : Type v}

def anyStep (_ : State) (_ : Event) : Prop := True

def StepUnder (system : System State Event) (guard : State → Event → Prop)
    (state next : State) : Prop :=
  ∃ event, guard state event ∧ system.step state event = some next

/-- The states some run reaches whose steps all meet the guard. -/
def ReachableUnder (system : System State Event) (guard : State → Event → Prop)
    (state : State) : Prop :=
  ∃ start, system.initial start ∧ Relation.ReflTransGen (system.StepUnder guard) start state

def Reachable (system : System State Event) (state : State) : Prop :=
  system.ReachableUnder anyStep state

/-- Execute a list of events in order, failing with the first that is not enabled. -/
def run (system : System State Event) : State → List Event → Option State
  | state, [] => some state
  | state, event :: events => (system.step state event).bind fun next => system.run next events

def RunMeets (system : System State Event) (guard : State → Event → Prop) :
    State → List Event → Prop
  | _, [] => True
  | state, event :: events => guard state event ∧
      match system.step state event with
      | some next => system.RunMeets guard next events
      | none => True

instance decidableRunMeets (system : System State Event) (guard : State → Event → Prop)
    [∀ state event, Decidable (guard state event)] :
    ∀ (state : State) (events : List Event), Decidable (system.RunMeets guard state events)
  | _, [] => isTrue trivial
  | state, event :: events =>
      match stepped : system.step state event with
      | some next =>
          have := decidableRunMeets system guard next events
          decidable_of_iff (guard state event ∧ system.RunMeets guard next events)
            (by simp [RunMeets, stepped])
      | none => decidable_of_iff (guard state event) (by simp [RunMeets, stepped])

variable {system : System State Event} {guard : State → Event → Prop}

theorem run_append (state : State) (first second : List Event) :
    system.run state (first ++ second) =
      (system.run state first).bind fun middle => system.run middle second := by
  induction first generalizing state with
  | nil => rfl
  | cons event first ih =>
      rw [List.cons_append, System.run, System.run, Option.bind_assoc]
      congr 1
      funext next
      exact ih next

theorem ReachableUnder.of_initial {state : State} (initial : system.initial state) :
    system.ReachableUnder guard state :=
  ⟨state, initial, .refl⟩

theorem ReachableUnder.tail {state next : State} {event : Event}
    (reachable : system.ReachableUnder guard state) (meets : guard state event)
    (stepped : system.step state event = some next) :
    system.ReachableUnder guard next := by
  rcases reachable with ⟨start, initial, path⟩
  exact ⟨start, initial, path.tail ⟨event, meets, stepped⟩⟩

/-- What holds initially and is kept by every guarded step holds in every guarded run. -/
theorem ReachableUnder.invariant {holds : State → Prop} {state : State}
    (reachable : system.ReachableUnder guard state)
    (base : ∀ start, system.initial start → holds start)
    (kept : ∀ current event next, holds current → guard current event →
      system.step current event = some next → holds next) :
    holds state := by
  rcases reachable with ⟨start, initial, path⟩
  induction path with
  | refl => exact base start initial
  | tail _ stepped ih =>
      rcases stepped with ⟨event, meets, stepped⟩
      exact kept _ event _ ih meets stepped

theorem ReachableUnder.run {state last : State} {events : List Event}
    (reachable : system.ReachableUnder guard state)
    (executed : system.run state events = some last)
    (meets : system.RunMeets guard state events) :
    system.ReachableUnder guard last := by
  induction events generalizing state with
  | nil =>
      cases executed
      exact reachable
  | cons event events ih =>
      simp only [System.run, Option.bind_eq_some_iff] at executed
      rcases executed with ⟨next, stepped, rest⟩
      simp only [RunMeets, stepped] at meets
      exact ih (reachable.tail meets.1 stepped) rest meets.2

theorem runMeets_anyStep (state : State) (events : List Event) :
    system.RunMeets anyStep state events := by
  induction events generalizing state with
  | nil => trivial
  | cons event events ih =>
      refine ⟨trivial, ?_⟩
      split
      · exact ih _
      · trivial

/-- Two guards that agree wherever an invariant holds are met by the same runs. -/
theorem runMeets_congr {other : State → Event → Prop} {holds : State → Prop}
    (agree : ∀ state event, holds state → (guard state event ↔ other state event))
    (kept : ∀ state event next, holds state → guard state event →
      system.step state event = some next → holds next)
    {state : State} (start : holds state) (events : List Event) :
    system.RunMeets guard state events ↔ system.RunMeets other state events := by
  induction events generalizing state with
  | nil => rfl
  | cons event events ih =>
      simp only [RunMeets, ← agree state event start]
      apply and_congr_right
      intro meets
      cases stepped : system.step state event with
      | none => rfl
      | some next => exact ih (kept state event next start meets stepped)

/-- What one step keeps exactly when it meets a guard, a run keeps exactly when all of its steps
meet it. -/
theorem holds_run_iff {holds sound : State → Prop}
    (kept : ∀ state event next, sound state → system.step state event = some next → sound next)
    (exact : ∀ state event next, sound state → system.step state event = some next →
      (holds next ↔ holds state ∧ guard state event))
    {state last : State} {events : List Event} (start : sound state)
    (executed : system.run state events = some last) :
    holds last ↔ holds state ∧ system.RunMeets guard state events := by
  induction events generalizing state with
  | nil =>
      cases executed
      exact (and_iff_left trivial).symm
  | cons event events ih =>
      simp only [System.run, Option.bind_eq_some_iff] at executed
      rcases executed with ⟨next, stepped, rest⟩
      rw [ih (kept state event next start stepped) rest, exact state event next start stepped]
      simp only [RunMeets, stepped, and_assoc]

/-- A run of concrete events whose outcome and guard are checked by evaluation. -/
theorem ReachableUnder.of_check (system : System State Event) (guard : State → Event → Prop)
    (start : State) (events : List Event) (check : State → Bool)
    (initial : system.initial start)
    (executed : (system.run start events).any check = true)
    (meets : system.RunMeets guard start events) :
    ∃ state, system.ReachableUnder guard state ∧ check state = true := by
  rcases (Option.any_eq_true _ _).mp executed with ⟨state, reached, checked⟩
  exact ⟨state, ReachableUnder.run (.of_initial initial) reached meets, checked⟩

/-- Executing enabled events from an initial state leads to a reachable state. -/
theorem Reachable.of_run (start : State) (events : List Event) {state : State}
    (initial : system.initial start) (executed : system.run start events = some state) :
    system.Reachable state :=
  ReachableUnder.run (.of_initial initial) executed (runMeets_anyStep start events)

end System

end TrueForce.Transition
