import Mathlib.Data.Nat.Notation

/-!
# Delayed work items

One work item of a workqueue.  It is queued for a time or not, and it runs or
not; a run takes the item out of the queue first, so it can be queued again while
it runs, but it never runs twice at a time.  A cancellation takes it out of the
queue and then waits for the run that is under way; until it is over, nothing can
queue the item.
-/

namespace TrueForce.DelayedWork

structure Item where
  /-- When the queued item is due. -/
  due : Option ℕ
  running : Bool
  /-- Cancellations that wait for the run under way. -/
  cancelling : ℕ
  deriving DecidableEq, Repr

namespace Item

def idle : Item where
  due := none
  running := false
  cancelling := 0

/-- Queued or running. -/
def busy (item : Item) : Bool := item.due.isSome || item.running

/-- Queue the item, unless it is queued already. -/
def queue (item : Item) (due : ℕ) : Item :=
  if item.cancelling = 0 ∧ item.due = none then { item with due := some due } else item

/-- Queue the item, or move it to another time. -/
def modify (item : Item) (due : ℕ) : Item :=
  if item.cancelling = 0 then { item with due := some due } else item

def start (item : Item) (now : ℕ) : Option Item :=
  match item.due with
  | some due =>
      if due ≤ now ∧ item.running = false then some { item with due := none, running := true }
      else none
  | none => none

def finish (item : Item) : Item := { item with running := false }

def cancelBegin (item : Item) : Item :=
  { item with due := none, cancelling := item.cancelling + 1 }

def cancelEnd (item : Item) : Option Item :=
  if item.running then none else some { item with cancelling := item.cancelling - 1 }

@[simp]
theorem queue_running (item : Item) (due : ℕ) : (item.queue due).running = item.running := by
  simp only [queue]
  split <;> rfl

@[simp]
theorem queue_cancelling (item : Item) (due : ℕ) :
    (item.queue due).cancelling = item.cancelling := by
  simp only [queue]
  split <;> rfl

@[simp]
theorem modify_running (item : Item) (due : ℕ) : (item.modify due).running = item.running := by
  simp only [modify]
  split <;> rfl

@[simp]
theorem modify_cancelling (item : Item) (due : ℕ) :
    (item.modify due).cancelling = item.cancelling := by
  simp only [modify]
  split <;> rfl

theorem modify_due {item : Item} (uncancelled : item.cancelling = 0) (due : ℕ) :
    (item.modify due).due = some due := by
  simp [modify, uncancelled]

theorem start_cases {item next : Item} {now : ℕ} (started : item.start now = some next) :
    item.running = false ∧ item.due ≠ none ∧
      next = { item with due := none, running := true } := by
  simp only [start] at started
  split at started
  · rename_i queued
    simp only [Option.ite_none_right_eq_some, Option.some.injEq] at started
    rcases started with ⟨⟨_, idle⟩, rfl⟩
    exact ⟨idle, by simp [queued], rfl⟩
  · cases started

end Item

end TrueForce.DelayedWork
