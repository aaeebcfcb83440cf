import TrueForce.Launchers.Fields
import Mathlib.Logic.Function.Iterate

/-!
# Braces on a line

The scraper counts every brace of a line, those inside strings too.  A string whose
braces are balanced does nothing to the stack; one whose braces are not leaves a field
that was pending behind.
-/

namespace TrueForce.Launchers

open RustText Json

/-- The braces of the text close as many as `depth` and no more. -/
def Closes : ℕ → Text → Prop
  | depth, [] => depth = 0
  | depth, char :: text =>
      if char = '\x7b' then Closes (depth + 1) text
      else if char = '\x7d' then depth ≠ 0 ∧ Closes (depth - 1) text
      else Closes depth text

def Balanced (text : Text) : Prop := Closes 0 text

instance decidableCloses : ∀ depth text, Decidable (Closes depth text)
  | depth, [] => inferInstanceAs (Decidable (depth = 0))
  | depth, _ :: text =>
      have := decidableCloses (depth + 1) text
      have := decidableCloses (depth - 1) text
      have := decidableCloses depth text
      inferInstanceAs (Decidable (ite _ _ _))

instance (text : Text) : Decidable (Balanced text) := decidableCloses 0 text

def Braceless (text : Text) : Prop := ∀ char ∈ text, char ≠ '\x7b' ∧ char ≠ '\x7d'

instance (text : Text) : Decidable (Braceless text) :=
  inferInstanceAs (Decidable (∀ char ∈ text, _))

namespace Scraper

variable {style : Style} {text : Text} {scraper : Scraper}

theorem pop_push (scraper : Scraper) : scraper.push.pop = scraper := rfl

theorem brace_of_ne {char : Char} (other : char ≠ '\x7b' ∧ char ≠ '\x7d')
    (scraper : Scraper) : scraper.brace char = scraper := by
  rw [brace, if_neg other.1, if_neg other.2]

theorem foldl_brace_of_braceless (braceless : Braceless text) (scraper : Scraper) :
    text.foldl brace scraper = scraper := by
  induction text with
  | nil => rfl
  | cons char text ih =>
      rw [List.foldl_cons, brace_of_ne (braceless char List.mem_cons_self),
        ih fun other known => braceless other (List.mem_cons_of_mem _ known)]

theorem foldl_brace_of_closes {depth : ℕ} (closes : Closes depth text) (scraper : Scraper) :
    text.foldl brace scraper = pop^[depth] scraper := by
  induction text generalizing depth scraper with
  | nil =>
      obtain rfl : depth = 0 := closes
      rfl
  | cons char text ih =>
      rw [Closes] at closes
      rw [List.foldl_cons, brace]
      by_cases opens : char = '\x7b'
      · rw [if_pos opens] at closes ⊢
        rw [ih closes, Function.iterate_succ_apply, pop_push]
      · rw [if_neg opens] at closes ⊢
        by_cases shuts : char = '\x7d'
        · rw [if_pos shuts] at closes ⊢
          obtain ⟨depth, rfl⟩ := Nat.exists_eq_succ_of_ne_zero closes.1
          rw [ih closes.2, Nat.succ_sub_one, Function.iterate_succ_apply]
        · rw [if_neg shuts] at closes ⊢
          exact ih closes scraper

theorem foldl_brace_of_balanced (balanced : Balanced text) (scraper : Scraper) :
    text.foldl brace scraper = scraper :=
  foldl_brace_of_closes balanced scraper

/-- An escape has no brace that its character does not have. -/
theorem foldl_brace_escape (style : Style) (char : Char) (scraper : Scraper) :
    (style.escape char).foldl brace scraper = scraper.brace char := by
  obtain ⟨same, -⟩ | ⟨rfl, same⟩ | ⟨-, special, more, same, -, among⟩ := style.escape_cases char
  · rw [same]
    rfl
  · rfl
  · have braceless : Braceless ('\\' :: more) := by
      have plain : ∀ char ∈ '\\' :: Style.escapeChars, char ≠ '\x7b' ∧ char ≠ '\x7d' := by decide
      intro other known
      apply plain
      obtain rfl | known := List.mem_cons.mp known
      · exact List.mem_cons_self
      · exact List.mem_cons_of_mem _ (among other known)
    have other : char ≠ '\x7b' ∧ char ≠ '\x7d' := by
      constructor
      · rintro rfl
        exact absurd special (by decide)
      · rintro rfl
        exact absurd special (by decide)
    rw [same, foldl_brace_of_braceless braceless, brace_of_ne other]

theorem foldl_brace_escaped (style : Style) (text : Text) (scraper : Scraper) :
    (style.escaped text).foldl brace scraper = text.foldl brace scraper := by
  induction text generalizing scraper with
  | nil => rfl
  | cons char text ih =>
      rw [Style.escaped_cons, List.foldl_append, foldl_brace_escape, List.foldl_cons, ih]

theorem foldl_brace_quote (style : Style) (text : Text) (scraper : Scraper) :
    (style.quote text).foldl brace scraper = text.foldl brace scraper := by
  rw [Style.quote, List.foldl_cons, List.foldl_append, foldl_brace_escaped]
  rfl

theorem braceless_of_indentation {indent : Text} (blank : Indentation indent) :
    Braceless indent := by
  intro char known
  obtain rfl | rfl := blank char known <;> decide

theorem braceless_of_tail {tail : Text} (ends : Tail tail) : Braceless tail := by
  obtain rfl | rfl := ends
  · exact fun _ known => absurd known List.not_mem_nil
  · decide

end Scraper

end TrueForce.Launchers
