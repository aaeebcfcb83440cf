import TrueForce.Foundation.Sections
import TrueForce.Foundation.TextFile

/-!
# Reading the registry file of a Wine prefix

`user.reg` is read as sections of assignments to quoted names.  A backslash hides the
character behind it, and what follows the key or the data of a line does not count.
-/

namespace TrueForce.LogiFfb.UserReg

open RustText
open Sections (Line Assignment)

/-- The text up to a character that is not hidden, and what follows that character. -/
def readUntil (stop : Char) : Text → Option (Text × Text)
  | [] => none
  | [char] => if char = stop then some ([], []) else none
  | char :: next :: rest =>
      if char = stop then some ([], next :: rest)
      else if char = '\\' then
        (readUntil stop rest).map fun parts => (next :: parts.1, parts.2)
      else (readUntil stop (next :: rest)).map fun parts => (char :: parts.1, parts.2)

inductive Data where
  | string (text : Text)
  | typed (text : Text)
  deriving DecidableEq

def dataOf : Text → Option Data
  | '"' :: quoted => (readUntil '"' quoted).map fun parts => .string parts.1
  | text => some (.typed text)

/-- Name and data of a line whose quoted name has been opened. -/
def assignmentOf (text : Text) : Option (Text × Data) :=
  match readUntil '"' text with
  | some (name, '=' :: data) => (dataOf data).map fun data => (name, data)
  | _ => none

def lineOf : Text → Line Text Text Data
  | '[' :: text => (readUntil ']' text).elim .other fun parts => .header parts.1
  | '"' :: text => (assignmentOf text).elim .other fun parts => .assign parts.1 parts.2
  | '@' :: '=' :: text => (dataOf text).elim .other fun data => .assign [] data
  | _ => .other

def registryLines (text : Text) : List (Line Text Text Data) :=
  (pieces '\n' text).map fun piece => lineOf (stripReturn piece)

def assignments (text : Text) : List (Assignment Text Text Data) :=
  Sections.assignments none (registryLines text)

/-- How keys and names are compared: as they are, or with their letters folded. -/
structure Folding where
  fold : Text → Text
  length : ∀ text, (fold text).length = text.length

def Folding.place (folding : Folding) (key name : Text) : Text × Text :=
  (folding.fold key, folding.fold name)

theorem readUntil_stop (stop : Char) (rest : Text) :
    readUntil stop (stop :: rest) = some ([], rest) := by
  cases rest <;> simp [readUntil]

theorem readUntil_append {stop : Char} {text : Text} (free : stop ∉ text) (bare : '\\' ∉ text)
    (rest : Text) : readUntil stop (text ++ stop :: rest) = some (text, rest) := by
  induction text with
  | nil => exact readUntil_stop stop rest
  | cons char text ih =>
      rw [List.mem_cons, not_or] at free bare
      have later := ih free.2 bare.2
      cases shape : text ++ stop :: rest with
      | nil => simp at shape
      | cons next tail =>
          rw [shape] at later
          rw [List.cons_append, shape, readUntil, if_neg (Ne.symm free.1),
            if_neg (Ne.symm bare.1), later, Option.map_some]

/-- What is read is no longer than the text that is used up, and as long only where it is that
text. -/
theorem readUntil_spec {stop : Char} {text read rest : Text}
    (found : readUntil stop text = some (read, rest)) :
    ∃ used, text = used ++ stop :: rest ∧ read.length ≤ used.length ∧
      (read.length = used.length → read = used ∧ stop ∉ used ∧ '\\' ∉ used) := by
  induction text using readUntil.induct stop generalizing read with
  | case1 => cases found
  | case2 =>
      rw [readUntil_stop] at found
      obtain ⟨rfl, rfl⟩ := Prod.mk.inj (Option.some.inj found)
      exact ⟨[], rfl, Nat.le_refl 0, by simp⟩
  | case3 char other =>
      rw [readUntil, if_neg other] at found
      cases found
  | case4 next tail =>
      rw [readUntil_stop] at found
      obtain ⟨rfl, rfl⟩ := Prod.mk.inj (Option.some.inj found)
      exact ⟨[], rfl, Nat.le_refl 0, by simp⟩
  | case5 next tail other ih =>
      simp only [readUntil, other, ↓reduceIte, Option.map_eq_some_iff, Prod.mk.injEq] at found
      obtain ⟨⟨inner, after⟩, innerFound, rfl, rfl⟩ := found
      obtain ⟨used, rfl, shorter, -⟩ := ih innerFound
      refine ⟨'\\' :: next :: used, rfl, ?_, ?_⟩
      · simp only [List.length_cons]
        omega
      · simp only [List.length_cons]
        omega
  | case6 char next tail other bare ih =>
      simp only [readUntil, other, bare, ↓reduceIte, Option.map_eq_some_iff, Prod.mk.injEq] at found
      obtain ⟨⟨inner, after⟩, innerFound, rfl, rfl⟩ := found
      obtain ⟨used, parts, shorter, same⟩ := ih innerFound
      refine ⟨char :: used, by rw [parts, List.cons_append], ?_, ?_⟩
      · simp only [List.length_cons]
        omega
      · intro length
        simp only [List.length_cons, Nat.add_right_cancel_iff] at length
        obtain ⟨rfl, free, plain⟩ := same length
        simp only [List.mem_cons, not_or]
        exact ⟨trivial, ⟨Ne.symm other, free⟩, Ne.symm bare, plain⟩

end TrueForce.LogiFfb.UserReg
