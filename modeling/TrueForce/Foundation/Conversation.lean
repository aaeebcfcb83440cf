import Mathlib.Tactic.Common

/-!
# Programs that question their environment

A program puts questions, each with its own type of answers, and ends with a result.
Its logs are the questions and answers of the conversations that it can have: every
environment, whatever it keeps to itself, is a choice of answers, so a property of all
logs is a property of the program in every environment.
-/

namespace TrueForce.Conversation

universe u

inductive Program (Question : Type u) (Answer : Question → Type u) (Result : Type u) :
    Type u where
  | done (result : Result)
  | ask (question : Question) (next : Answer question → Program Question Answer Result)

variable {Question : Type u} {Answer : Question → Type u} {Result Other : Type u}

abbrev Entry (Question : Type u) (Answer : Question → Type u) : Type u :=
  Sigma Answer

namespace Program

def bind : Program Question Answer Result → (Result → Program Question Answer Other) →
    Program Question Answer Other
  | .done result, rest => rest result
  | .ask question next, rest => .ask question fun answer => (next answer).bind rest

instance : Monad (Program Question Answer) where
  pure := .done
  bind := bind

def put (question : Question) : Program Question Answer (Answer question) :=
  .ask question .done

/-- The program can end with the result after the conversation in the log. -/
def Ends : Program Question Answer Result → List (Entry Question Answer) → Result → Prop
  | .done result, log, final => log = [] ∧ final = result
  | .ask question next, log, final =>
      ∃ answer rest, log = ⟨question, answer⟩ :: rest ∧ (next answer).Ends rest final

/-- The conversation with a world that answers by what was said before. -/
def converse (world : List (Entry Question Answer) → (question : Question) → Answer question) :
    List (Entry Question Answer) → Program Question Answer Result →
      List (Entry Question Answer) × Result
  | _, .done result => ([], result)
  | past, .ask question next =>
      let entry : Entry Question Answer := ⟨question, world past question⟩
      let (rest, result) := converse world (past ++ [entry]) (next entry.2)
      (entry :: rest, result)

theorem ends_converse
    (world : List (Entry Question Answer) → (question : Question) → Answer question)
    (past : List (Entry Question Answer)) (program : Program Question Answer Result) :
    program.Ends (program.converse world past).1 (program.converse world past).2 := by
  induction program generalizing past with
  | done result => exact ⟨rfl, rfl⟩
  | ask question next ih => exact ⟨_, _, rfl, ih _ _⟩

variable {log : List (Entry Question Answer)} {program : Program Question Answer Result}

@[simp]
theorem ends_pure {result final : Result} :
    (pure result : Program Question Answer Result).Ends log final ↔ log = [] ∧ final = result :=
  Iff.rfl

theorem ends_put {question : Question} {answer : Answer question} :
    (put question : Program Question Answer (Answer question)).Ends log answer ↔
      log = [⟨question, answer⟩] := by
  constructor
  · rintro ⟨_, _, rfl, rfl, rfl⟩
    rfl
  · rintro rfl
    exact ⟨_, _, rfl, rfl, rfl⟩

theorem ends_bind {rest : Result → Program Question Answer Other} {final : Other} :
    (program >>= rest).Ends log final ↔
      ∃ before result after, log = before ++ after ∧ program.Ends before result ∧
        (rest result).Ends after final := by
  induction program generalizing log with
  | done result =>
      constructor
      · intro ends
        exact ⟨[], result, log, rfl, ⟨rfl, rfl⟩, ends⟩
      · rintro ⟨_, _, after, rfl, ⟨rfl, rfl⟩, ends⟩
        exact ends
  | ask question next ih =>
      constructor
      · rintro ⟨answer, tail, rfl, ends⟩
        obtain ⟨before, result, after, rfl, first, second⟩ := (ih answer).mp ends
        exact ⟨_ :: before, result, after, rfl, ⟨answer, before, rfl, first⟩, second⟩
      · rintro ⟨_, result, after, rfl, ⟨answer, before, rfl, first⟩, second⟩
        exact ⟨answer, before ++ after, rfl, (ih answer).mpr ⟨before, result, after, rfl, first, second⟩⟩

/-- A question at the head of a program is the head of its logs. -/
theorem ends_put_bind {question : Question} {final : Result}
    {rest : Answer question → Program Question Answer Result} :
    (put question >>= rest).Ends log final ↔
      ∃ answer after, log = ⟨question, answer⟩ :: after ∧ (rest answer).Ends after final :=
  Iff.rfl

end Program

end TrueForce.Conversation
