import Mathlib.Data.List.Basic

/-!
# Calls in flight

Calls that anyone may make at any time are a list of phases: a new call joins the
list, a step sets the phase of one call, and a call that returns leaves it.  Where
every other call stands is unchanged by that.
-/

namespace TrueForce.InFlight

variable {Phase : Type*} {calls : List Phase} {index : ℕ} {phase other : Phase}

theorem mem_eraseIdx_of_ne (found : calls[index]? = some phase) (member : other ∈ calls)
    (different : other ≠ phase) :
    other ∈ calls.eraseIdx index := by
  rw [List.mem_eraseIdx_iff_getElem?]
  rcases List.mem_iff_getElem?.mp member with ⟨place, placed⟩
  refine ⟨place, ?_, placed⟩
  rintro rfl
  rw [found] at placed
  exact different (Option.some.inj placed).symm

/-- The other calls are still there once one of them has moved on. -/
theorem mem_set_of_mem_eraseIdx (next : Phase) (member : other ∈ calls.eraseIdx index) :
    other ∈ calls.set index next := by
  rcases List.mem_eraseIdx_iff_getElem?.mp member with ⟨place, apart, placed⟩
  apply List.mem_iff_getElem?.mpr
  exact ⟨place, by rw [List.getElem?_set_ne (Ne.symm apart), placed]⟩

theorem mem_set_of_ne (found : calls[index]? = some phase) (next : Phase)
    (member : other ∈ calls) (different : other ≠ phase) :
    other ∈ calls.set index next :=
  mem_set_of_mem_eraseIdx next (mem_eraseIdx_of_ne found member different)

theorem mem_set_self (found : calls[index]? = some phase) (next : Phase) :
    next ∈ calls.set index next := by
  apply List.mem_iff_getElem?.mpr
  exact ⟨index, by rw [List.getElem?_set_self' , found]; rfl⟩

end TrueForce.InFlight
