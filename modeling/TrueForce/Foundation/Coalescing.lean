import Mathlib.Data.List.Basic

/-!
# Queues that coalesce

A new item takes the place of the one at the end of the queue when it supersedes it, and
is appended otherwise.  What passes through such a queue is the sequence of what was
queued, in its order, without some of the items that were superseded at once.  A consumer
that an item and its successor leave where the successor alone does cannot tell the two
apart.
-/

namespace TrueForce.Coalescing

universe u v

variable {Item : Type u} {supersedes : Item → Item → Prop} {all kept sent queue : List Item}

/-- `supersedes newer older` lets the newer item take the older one's place. -/
def enqueue (supersedes : Item → Item → Prop) [DecidableRel supersedes] (queue : List Item)
    (item : Item) : List Item :=
  match queue.getLast? with
  | some last => if supersedes item last then queue.dropLast ++ [item] else queue ++ [item]
  | none => [item]

/-- A queue that is no longer for an item has let it take the last one's place. -/
theorem enqueue_of_length [DecidableRel supersedes] {item : Item}
    (same : (enqueue supersedes queue item).length = queue.length) :
    ∃ kept last, queue = kept ++ [last] ∧ supersedes item last ∧
      enqueue supersedes queue item = kept ++ [item] := by
  rw [enqueue] at same ⊢
  cases found : queue.getLast? with
  | none =>
      rw [found, List.getLast?_eq_none_iff.mp found] at same
      cases same
  | some last =>
      simp only [found] at same ⊢
      split at same
      · rename_i newer
        refine ⟨queue.dropLast, last, (List.dropLast_append_getLast? last found).symm, newer, ?_⟩
        exact if_pos newer
      · rw [List.length_append, List.length_singleton] at same
        omega

/-- The same items, but that the last one may have given way to one that supersedes it. -/
inductive Renewed (supersedes : Item → Item → Prop) : List Item → List Item → Prop where
  | same (items : List Item) : Renewed supersedes items items
  | last (kept : List Item) {item last : Item} (newer : supersedes item last) :
      Renewed supersedes (kept ++ [last]) (kept ++ [item])

theorem Renewed.length_eq {before after : List Item} (renewed : Renewed supersedes before after) :
    after.length = before.length := by
  cases renewed with
  | same => rfl
  | last kept newer => rw [List.length_append, List.length_append, List.length_singleton,
      List.length_singleton]

theorem Renewed.trans {before between after : List Item}
    (transitive : ∀ {first second third}, supersedes third second → supersedes second first →
      supersedes third first)
    (first : Renewed supersedes before between) (second : Renewed supersedes between after) :
    Renewed supersedes before after := by
  cases first with
  | same => exact second
  | last kept newer =>
      generalize renewed : kept ++ [_] = between at second
      cases second with
      | same =>
          rw [← renewed]
          exact .last kept newer
      | last other newest =>
          rcases List.append_inj' renewed rfl with ⟨rfl, same⟩
          rcases List.singleton_inj.mp same with rfl
          exact .last kept (transitive newest newer)

/-- What is left of a sequence when items give way to the ones that supersede them. -/
inductive Thins (supersedes : Item → Item → Prop) : List Item → List Item → Prop where
  | nil : Thins supersedes [] []
  | keep {all kept : List Item} (item : Item) :
      Thins supersedes all kept → Thins supersedes (all ++ [item]) (kept ++ [item])
  | replace {all kept : List Item} {last : Item} (item : Item) (newer : supersedes item last) :
      Thins supersedes all (kept ++ [last]) → Thins supersedes (all ++ [item]) (kept ++ [item])

namespace Thins

/-- Whatever has left the queue at its front, a queue thins what is queued. -/
theorem enqueue [DecidableRel supersedes] (thins : Thins supersedes all (sent ++ queue)) (item : Item) :
    Thins supersedes (all ++ [item]) (sent ++ Coalescing.enqueue supersedes queue item) := by
  rw [Coalescing.enqueue]
  cases found : queue.getLast? with
  | none =>
      rw [List.getLast?_eq_none_iff.mp found, List.append_nil] at thins
      exact thins.keep item
  | some last =>
      have same : queue = queue.dropLast ++ [last] :=
        (List.dropLast_append_getLast? last found).symm
      rw [same, ← List.append_assoc] at thins
      simp only
      split
      · rename_i newer
        rw [← List.append_assoc]
        exact thins.replace item newer
      · rw [← List.append_assoc]
        rw [List.append_assoc, ← same] at thins
        exact thins.keep item

theorem sublist (thins : Thins supersedes all kept) : kept.Sublist all := by
  induction thins with
  | nil => exact List.Sublist.slnil
  | keep item _ ih => exact ih.append (List.Sublist.refl [item])
  | replace item _ _ ih =>
      have front := (List.sublist_append_left _ _).trans ih
      exact front.append (List.Sublist.refl [item])

/-- A consumer that only minds the newer of two such items ends where it would without the
queue. -/
theorem foldl_eq {State : Type v} {apply : State → Item → State}
    (absorbs : ∀ state item last, supersedes item last →
      apply (apply state last) item = apply state item)
    (thins : Thins supersedes all kept) (start : State) :
    all.foldl apply start = kept.foldl apply start := by
  induction thins with
  | nil => rfl
  | keep item _ ih => rw [List.foldl_concat, List.foldl_concat, ih]
  | replace item newer _ ih =>
      rw [List.foldl_concat, ih, List.foldl_concat, List.foldl_concat, absorbs _ _ _ newer]

/-- Items that give way to none and that none gives way to all pass, in their order. -/
theorem filter_eq {solid : Item → Bool}
    (stays : ∀ item last, supersedes item last → solid item = false ∧ solid last = false)
    (thins : Thins supersedes all kept) : all.filter solid = kept.filter solid := by
  induction thins with
  | nil => rfl
  | keep item _ ih => rw [List.filter_append, List.filter_append, ih]
  | replace item newer _ ih =>
      rcases stays _ _ newer with ⟨itemGives, lastGives⟩
      rw [List.filter_append] at ih
      rw [List.filter_append, List.filter_append, ih, List.filter_cons_of_neg (by simp [lastGives]),
        List.filter_cons_of_neg (by simp [itemGives]), List.filter_nil, List.append_nil]

/-- Of the items of one key, the last one always passes. -/
theorem getLast?_filter_eq {ofKey : Item → Bool}
    (same : ∀ item last, supersedes item last → ofKey item = ofKey last)
    (thins : Thins supersedes all kept) :
    (all.filter ofKey).getLast? = (kept.filter ofKey).getLast? := by
  induction thins with
  | nil => rfl
  | keep item _ ih =>
      rw [List.filter_append, List.filter_append, List.getLast?_append, List.getLast?_append, ih]
  | replace item newer _ ih =>
      rw [List.filter_append, List.getLast?_append] at ih
      rw [List.filter_append, List.filter_append, List.getLast?_append, List.getLast?_append, ih]
      have agrees := same _ _ newer
      cases ofItem : ofKey item with
      | true => simp [ofItem]
      | false =>
          rw [ofItem] at agrees
          simp [ofItem, ← agrees]

end Thins

end TrueForce.Coalescing
