import Mathlib.Algebra.Order.Ring.Nat
import Mathlib.Data.Nat.Notation
import Mathlib.Tactic.Linarith
import Mathlib.Tactic.Common

/-!
# Token buckets

A bucket of limited capacity is filled by visits, with no more than what has come due
since the last one, and a visit may take something out.  Levels and gains are counted in
units of which `rate / scale` come due in a unit of time; a gain may be rounded down.
-/

namespace TrueForce.TokenBucket

structure Bucket where
  level : ℕ
  last : ℕ
  deriving DecidableEq, Repr

structure Visit where
  now : ℕ
  gain : ℕ
  taken : ℕ
  deriving DecidableEq, Repr

/-- What a visit finds in the bucket. -/
def Bucket.filled (capacity : ℕ) (bucket : Bucket) (visit : Visit) : ℕ :=
  min (bucket.level + visit.gain) capacity

def Bucket.visited (capacity : ℕ) (bucket : Bucket) (visit : Visit) : Bucket :=
  ⟨bucket.filled capacity visit - visit.taken, visit.now⟩

/-- A visit in the order of time that gains no more than is due and takes no more than there is. -/
structure Fair (capacity scale rate : ℕ) (bucket : Bucket) (visit : Visit) : Prop where
  ordered : bucket.last ≤ visit.now
  due : scale * visit.gain ≤ rate * (visit.now - bucket.last)
  covered : visit.taken ≤ bucket.filled capacity visit

variable {capacity scale rate : ℕ} {bucket : Bucket} {visit : Visit}

theorem visited_level_le : (bucket.visited capacity visit).level ≤ capacity :=
  (Nat.sub_le _ _).trans (Nat.min_le_right _ _)

/-- What has been taken from one time on to another, with what the bucket still holds for the rest
of that span. -/
structure Spent (capacity scale rate first last : ℕ) (bucket : Bucket) (spent : ℕ) : Prop where
  before : bucket.last < first → spent = 0
  during : first ≤ bucket.last → bucket.last ≤ last →
    scale * (spent + bucket.level) ≤ scale * capacity + rate * (bucket.last - first)
  after : scale * spent ≤ scale * capacity + rate * (last - first)

variable {first last spent : ℕ}

/-- What a visit takes within the span. -/
def Visit.takenWithin (visit : Visit) (first last : ℕ) : ℕ :=
  if first ≤ visit.now ∧ visit.now ≤ last then visit.taken else 0

theorem Spent.start (level : bucket.level ≤ capacity) :
    Spent capacity scale rate first last bucket 0 := by
  refine ⟨fun _ => rfl, ?_, ?_⟩
  · intro _ _
    rw [Nat.zero_add]
    exact Nat.le_add_right_of_le (Nat.mul_le_mul_left scale level)
  · rw [Nat.mul_zero]
    exact Nat.zero_le _

/-- What the bucket loses otherwise is taken by nobody. -/
theorem Spent.lowered (sofar : Spent capacity scale rate first last bucket spent) {level : ℕ}
    (less : level ≤ bucket.level) :
    Spent capacity scale rate first last { bucket with level := level } spent := by
  refine ⟨sofar.before, ?_, sofar.after⟩
  intro begun inside
  exact (Nat.mul_le_mul_left scale (Nat.add_le_add_left less spent)).trans
    (sofar.during begun inside)

/-- Before the visit takes anything, the bucket has gained no more than has come due. -/
theorem Spent.filled (sofar : Spent capacity scale rate first last bucket spent)
    (fair : Fair capacity scale rate bucket visit) (begun : first ≤ visit.now)
    (inside : visit.now ≤ last) :
    scale * (spent + bucket.filled capacity visit) ≤
      scale * capacity + rate * (visit.now - first) := by
  rcases Nat.lt_or_ge bucket.last first with early | begunEarlier
  · rw [sofar.before early, Nat.zero_add]
    exact Nat.le_add_right_of_le (Nat.mul_le_mul_left scale (Nat.min_le_right _ _))
  · have ordered := fair.ordered
    have span : visit.now - first = (bucket.last - first) + (visit.now - bucket.last) := by omega
    calc scale * (spent + bucket.filled capacity visit)
        ≤ scale * (spent + (bucket.level + visit.gain)) :=
          Nat.mul_le_mul_left scale (Nat.add_le_add_left (Nat.min_le_left _ _) spent)
      _ = scale * (spent + bucket.level) + scale * visit.gain := by
          rw [← Nat.add_assoc, Nat.mul_add]
      _ ≤ scale * capacity + rate * (bucket.last - first) + rate * (visit.now - bucket.last) :=
          Nat.add_le_add (sofar.during begunEarlier (ordered.trans inside)) fair.due
      _ = scale * capacity + rate * (visit.now - first) := by
          rw [span, Nat.mul_add, Nat.add_assoc]

theorem Spent.visited (sofar : Spent capacity scale rate first last bucket spent)
    (fair : Fair capacity scale rate bucket visit) :
    Spent capacity scale rate first last (bucket.visited capacity visit)
      (spent + visit.takenWithin first last) := by
  have covered := fair.covered
  have level : visit.taken + (bucket.visited capacity visit).level =
      bucket.filled capacity visit := Nat.add_sub_of_le covered
  refine ⟨?_, ?_, ?_⟩
  · intro early
    have outside : ¬(first ≤ visit.now ∧ visit.now ≤ last) :=
      fun inside => Nat.not_lt.mpr inside.1 early
    rw [sofar.before (Nat.lt_of_le_of_lt fair.ordered early), Visit.takenWithin, if_neg outside]
  · intro begun inside
    rw [Visit.takenWithin, if_pos ⟨begun, inside⟩, Nat.add_assoc, level]
    exact sofar.filled fair begun inside
  · rw [Visit.takenWithin]
    split
    · rename_i inside
      have bound := sofar.filled fair inside.1 inside.2
      have less : scale * (spent + visit.taken) ≤
          scale * (spent + bucket.filled capacity visit) :=
        Nat.mul_le_mul_left scale (Nat.add_le_add_left covered spent)
      have longer : rate * (visit.now - first) ≤ rate * (last - first) :=
        Nat.mul_le_mul_left rate (Nat.sub_le_sub_right inside.2 first)
      exact (less.trans bound).trans (Nat.add_le_add_left longer _)
    · exact sofar.after

/-- What the visits since a time have taken, with what is still held and one unit lost to rounding
for each of them, is all that has come due. -/
def Kept (scale rate start : ℕ) (bucket : Bucket) (taken visits : ℕ) : Prop :=
  start ≤ bucket.last ∧
    rate * (bucket.last - start) ≤ scale * (taken + bucket.level + visits)

/-- A visit that gains all that is due but for less than one unit, and loses nothing to the
capacity. -/
structure Full (capacity scale rate : ℕ) (bucket : Bucket) (visit : Visit) : Prop where
  ordered : bucket.last ≤ visit.now
  due : rate * (visit.now - bucket.last) ≤ scale * (visit.gain + 1)
  fits : bucket.level + visit.gain ≤ capacity
  covered : visit.taken ≤ bucket.filled capacity visit

theorem Kept.start : Kept scale rate bucket.last bucket 0 0 := by
  refine ⟨le_refl _, ?_⟩
  rw [Nat.sub_self, Nat.mul_zero]
  exact Nat.zero_le _

theorem Kept.visited {start taken visits : ℕ} (kept : Kept scale rate start bucket taken visits)
    (full : Full capacity scale rate bucket visit) :
    Kept scale rate start (bucket.visited capacity visit) (taken + visit.taken) (visits + 1) := by
  have ordered := full.ordered
  have filled : bucket.filled capacity visit = bucket.level + visit.gain :=
    Nat.min_eq_left full.fits
  have level : visit.taken + (bucket.visited capacity visit).level =
      bucket.level + visit.gain := by
    rw [← filled]
    exact Nat.add_sub_of_le full.covered
  refine ⟨kept.1.trans ordered, ?_⟩
  change rate * (visit.now - start) ≤ _
  have span : visit.now - start = (bucket.last - start) + (visit.now - bucket.last) := by
    have begun := kept.1
    omega
  have total : taken + visit.taken + (bucket.visited capacity visit).level + (visits + 1) =
      (taken + bucket.level + visits) + (visit.gain + 1) := by omega
  rw [span, total, Nat.mul_add, Nat.mul_add]
  exact Nat.add_le_add kept.2 full.due

end TrueForce.TokenBucket
