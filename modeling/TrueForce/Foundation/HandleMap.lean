import Mathlib.Logic.Function.Basic

/-!
# Maps from keys to handles

A table of open handles is a partial map from keys to handles in which no handle
is held under two keys.
-/

namespace TrueForce.Foundation.HandleMap

variable {Key Handle : Type} [DecidableEq Key] {map : Key → Option Handle} {key : Key}
  {handle : Handle}

def Holds (map : Key → Option Handle) (handle : Handle) : Prop := ∃ key, map key = some handle

def Distinct (map : Key → Option Handle) : Prop :=
  ∀ key other handle, map key = some handle → map other = some handle → key = other

theorem Distinct.insert (distinct : Distinct map)
    (owner : ∀ other, map other = some handle → other = key) :
    Distinct (Function.update map key (some handle)) := by
  intro left right held heldLeft heldRight
  by_cases leftSame : left = key <;> by_cases rightSame : right = key
  · rw [leftSame, rightSame]
  · subst leftSame
    rw [Function.update_self] at heldLeft
    rw [Function.update_of_ne rightSame, ← heldLeft] at heldRight
    exact (owner right heldRight).symm
  · subst rightSame
    rw [Function.update_self] at heldRight
    rw [Function.update_of_ne leftSame, ← heldRight] at heldLeft
    exact owner left heldLeft
  · rw [Function.update_of_ne leftSame] at heldLeft
    rw [Function.update_of_ne rightSame] at heldRight
    exact distinct left right held heldLeft heldRight

/-- A key that keeps its handle, or is given its first one. -/
theorem holds_insert (before : ∀ old, map key = some old → old = handle) (held : Handle) :
    Holds (Function.update map key (some handle)) held ↔ Holds map held ∨ held = handle := by
  constructor
  · rintro ⟨other, found⟩
    by_cases same : other = key
    · subst same
      rw [Function.update_self, Option.some.injEq] at found
      exact .inr found.symm
    · rw [Function.update_of_ne same] at found
      exact .inl ⟨other, found⟩
  · rintro (⟨other, found⟩ | rfl)
    · by_cases same : other = key
      · subst same
        exact ⟨other, by rw [Function.update_self, before held found]⟩
      · exact ⟨other, by rw [Function.update_of_ne same, found]⟩
    · exact ⟨key, Function.update_self ..⟩

theorem Distinct.erase (distinct : Distinct map) : Distinct (Function.update map key none) := by
  intro left right held heldLeft heldRight
  by_cases leftSame : left = key
  · simp [leftSame] at heldLeft
  · by_cases rightSame : right = key
    · simp [rightSame] at heldRight
    · rw [Function.update_of_ne leftSame] at heldLeft
      rw [Function.update_of_ne rightSame] at heldRight
      exact distinct left right held heldLeft heldRight

theorem holds_erase (distinct : Distinct map) (key : Key) (held : Handle) :
    Holds (Function.update map key none) held ↔ Holds map held ∧ map key ≠ some held := by
  constructor
  · rintro ⟨other, found⟩
    by_cases same : other = key
    · simp [same] at found
    · rw [Function.update_of_ne same] at found
      exact ⟨⟨other, found⟩, fun mine => same (distinct other key held found mine)⟩
  · rintro ⟨⟨other, found⟩, ne⟩
    refine ⟨other, ?_⟩
    rw [Function.update_of_ne, found]
    rintro rfl
    exact ne found

/-- An entry that is there is still there after another one is written. -/
theorem isSome_insert {other : Key} (known : (map other).isSome) :
    (Function.update map key (some handle) other).isSome := by
  by_cases same : other = key
  · subst same
    simp
  · simpa [same] using known

end TrueForce.Foundation.HandleMap
