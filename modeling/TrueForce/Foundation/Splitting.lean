import Mathlib.Data.List.Basic
import Mathlib.Tactic.Common

/-!
# Splitting and searching lists

A list cut after each separator, as `str::split_inclusive` cuts it, and a list cut
once, at its first or its last separator.  Every list is built from terminated
pieces in front of a piece that is not terminated, which gives an induction.

What follows the first place where a run stands in a list, as `str::find` and a slice
behind the match give it.
-/

namespace TrueForce.Splitting

variable {α β : Type*} [DecidableEq α] [DecidableEq β] {separator : α}

/-- The pieces, each with the separator that ends it. -/
def splitInclusive (separator : α) : List α → List (List α)
  | [] => []
  | item :: rest =>
      if item = separator then [item] :: splitInclusive separator rest
      else
        match splitInclusive separator rest with
        | [] => [[item]]
        | first :: more => (item :: first) :: more

/-- Cut at the first separator, which is in neither part. -/
def splitOnce (separator : α) : List α → Option (List α × List α)
  | [] => none
  | item :: rest =>
      if item = separator then some ([], rest)
      else (splitOnce separator rest).map fun parts => (item :: parts.1, parts.2)

/-- Cut at the last separator. -/
def rsplitOnce (separator : α) (list : List α) : Option (List α × List α) :=
  (splitOnce separator list.reverse).map fun parts => (parts.2.reverse, parts.1.reverse)

@[simp]
theorem splitInclusive_nil : splitInclusive separator [] = [] := rfl

theorem splitInclusive_terminated {piece : List α} (free : separator ∉ piece) (rest : List α) :
    splitInclusive separator (piece ++ separator :: rest) =
      (piece ++ [separator]) :: splitInclusive separator rest := by
  induction piece with
  | nil => simp [splitInclusive]
  | cons item piece ih =>
      rw [List.mem_cons, not_or] at free
      simp only [List.cons_append, splitInclusive, if_neg (Ne.symm free.1), ih free.2]

theorem splitInclusive_unterminated {piece : List α} (free : separator ∉ piece)
    (nonempty : piece ≠ []) : splitInclusive separator piece = [piece] := by
  induction piece with
  | nil => exact absurd rfl nonempty
  | cons item piece ih =>
      rw [List.mem_cons, not_or] at free
      cases piece with
      | nil => simp [splitInclusive, Ne.symm free.1]
      | cons next piece =>
          rw [splitInclusive, if_neg (Ne.symm free.1), ih free.2 (List.cons_ne_nil next piece)]

/-- Every list is terminated pieces and then one that is not. -/
theorem pieces_induction {property : List α → Prop} (separator : α) (empty : property [])
    (last : ∀ piece, separator ∉ piece → piece ≠ [] → property piece)
    (terminated : ∀ piece rest, separator ∉ piece → property rest →
      property (piece ++ separator :: rest)) (list : List α) : property list := by
  by_cases present : separator ∈ list
  · rcases List.eq_append_cons_of_mem present with ⟨piece, rest, shape, free⟩
    have shorter : rest.length < list.length := by
      rw [shape, List.length_append, List.length_cons]
      omega
    rw [shape]
    apply terminated piece rest free
    exact pieces_induction separator empty last terminated rest
  · cases list with
    | nil => exact empty
    | cons item rest => exact last (item :: rest) present (List.cons_ne_nil item rest)
termination_by list.length

theorem splitInclusive_flatMap {pieces : List (List α)}
    (free : ∀ piece ∈ pieces, separator ∉ piece) :
    splitInclusive separator (pieces.flatMap (· ++ [separator])) =
      pieces.map (· ++ [separator]) := by
  induction pieces with
  | nil => rfl
  | cons piece pieces ih =>
      rw [List.flatMap_cons, List.append_assoc, List.singleton_append,
        splitInclusive_terminated (free piece (by simp)), ih fun other member =>
          free other (by simp [member])]
      rfl

theorem splitOnce_eq_some_iff {list before after : List α} :
    splitOnce separator list = some (before, after) ↔
      separator ∉ before ∧ list = before ++ separator :: after := by
  induction list generalizing before with
  | nil => simp [splitOnce]
  | cons item rest ih =>
      by_cases same : item = separator
      · subst same
        cases before with
        | nil => simp [splitOnce, eq_comm]
        | cons first before =>
            simp only [splitOnce, ↓reduceIte, Option.some.injEq, Prod.mk.injEq, List.cons_append,
              List.cons.injEq, List.mem_cons, not_or, List.nil_eq, reduceCtorEq, false_and,
              false_iff, not_and]
            intro free first_eq
            exact absurd first_eq free.1
      · cases before with
        | nil => simp [splitOnce, same]
        | cons first before =>
            simp only [splitOnce, if_neg same, Option.map_eq_some_iff, Prod.mk.injEq,
              List.cons.injEq, List.cons_append, List.mem_cons, not_or]
            constructor
            · rintro ⟨⟨head, tail⟩, found, ⟨rfl, rfl⟩, rfl⟩
              rcases ih.mp found with ⟨free, rfl⟩
              exact ⟨⟨Ne.symm same, free⟩, rfl, rfl⟩
            · rintro ⟨⟨_, free⟩, rfl, rfl⟩
              exact ⟨(before, after), ih.mpr ⟨free, rfl⟩, ⟨rfl, rfl⟩, rfl⟩

theorem splitOnce_of_free {before : List α} (free : separator ∉ before) (after : List α) :
    splitOnce separator (before ++ separator :: after) = some (before, after) :=
  splitOnce_eq_some_iff.mpr ⟨free, rfl⟩

theorem splitOnce_eq_none_iff {list : List α} :
    splitOnce separator list = none ↔ separator ∉ list := by
  rw [Option.eq_none_iff_forall_ne_some]
  constructor
  · intro never present
    rcases List.eq_append_cons_of_mem present with ⟨before, after, rfl, free⟩
    exact never (before, after) (splitOnce_of_free free after)
  · rintro absent ⟨before, after⟩ found
    rcases splitOnce_eq_some_iff.mp found with ⟨-, rfl⟩
    simp at absent

theorem rsplitOnce_eq_some_iff {list before after : List α} :
    rsplitOnce separator list = some (before, after) ↔
      separator ∉ after ∧ list = before ++ separator :: after := by
  simp only [rsplitOnce, Option.map_eq_some_iff, Prod.mk.injEq]
  constructor
  · rintro ⟨⟨tail, head⟩, found, rfl, rfl⟩
    rcases splitOnce_eq_some_iff.mp found with ⟨free, reversed⟩
    refine ⟨by rwa [List.mem_reverse], ?_⟩
    rw [← List.reverse_reverse list, reversed]
    simp
  · rintro ⟨free, rfl⟩
    refine ⟨(after.reverse, before.reverse), ?_, List.reverse_reverse _, List.reverse_reverse _⟩
    apply splitOnce_eq_some_iff.mpr
    refine ⟨by rwa [List.mem_reverse], ?_⟩
    simp

end TrueForce.Splitting

namespace TrueForce.Searching

variable {α : Type*} [DecidableEq α] {first : α} {needle front text : List α}

/-- What follows the first occurrence of the needle. -/
def findAfter (needle : List α) : List α → Option (List α)
  | [] => needle.isPrefixOf? []
  | item :: rest =>
      match needle.isPrefixOf? (item :: rest) with
      | some after => some after
      | none => findAfter needle rest

theorem isPrefixOf?_cons_of_ne {item : α} (other : first ≠ item) :
    (first :: needle).isPrefixOf? (item :: text) = none := by
  simp only [List.isPrefixOf?, beq_iff_eq, if_neg other]

theorem findAfter_cons_of_ne {item : α} (other : first ≠ item) :
    findAfter (first :: needle) (item :: text) = findAfter (first :: needle) text := by
  rw [findAfter, isPrefixOf?_cons_of_ne other]

/-- A front without the first item of the needle is passed over. -/
theorem findAfter_append (free : first ∉ front) :
    findAfter (first :: needle) (front ++ text) = findAfter (first :: needle) text := by
  induction front with
  | nil => rfl
  | cons item front ih =>
      rw [List.mem_cons, not_or] at free
      rw [List.cons_append, findAfter_cons_of_ne free.1, ih free.2]

theorem findAfter_eq_none (free : first ∉ text) : findAfter (first :: needle) text = none := by
  rw [← List.append_nil text, findAfter_append free]
  rfl

theorem findAfter_append_of_starts (after : List α) :
    findAfter (first :: needle) (first :: needle ++ after) = some after := by
  have starts : (first :: needle).isPrefixOf? (first :: needle ++ after) = some after :=
    List.isPrefixOf?_eq_some_iff_append_eq.mpr rfl
  rw [List.cons_append] at starts ⊢
  rw [findAfter, starts]

/-- Where the needle does not start, the search goes on behind the first item. -/
theorem findAfter_cons (other : ¬ needle <+: text) :
    findAfter (first :: needle) (first :: text) = findAfter (first :: needle) text := by
  rw [findAfter]
  cases starts : (first :: needle).isPrefixOf? (first :: text) with
  | none => rfl
  | some after =>
      have same := List.isPrefixOf?_eq_some_iff_append_eq.mp starts
      exact absurd ⟨after, (List.cons.inj same).2⟩ other

end TrueForce.Searching
