import Mathlib.Tactic.Common

/-!
# Programs that talk to a device through reports

A program writes reports, is told whether each went out, and reads reports, or
fails to.  What it does is a tree, so that a property of every conversation is a
recursion on the program.  The rule below is for an environment in which a report
that the program takes for the answer to its last question is that answer.
-/

namespace TrueForce.Dialogue

universe u v

inductive Program (Report : Type u) (Result : Type v) : Type (max u v) where
  | done (result : Result)
  | write (report : Report) (next : Bool → Program Report Result)
  | read (next : Option Report → Program Report Result)

/-- The question asked last, and the questions answered with their answers. -/
structure Record (Report : Type u) where
  asked : Option Report
  answered : List (Report × Report)

namespace Record

variable {Report : Type u}

def blank : Record Report := { asked := none, answered := [] }

def ask (record : Record Report) (question : Report) : Record Report :=
  { record with asked := some question }

/-- Enter a report that is taken for the answer to the question asked last. -/
def enter (takes : Report → Report → Bool) (record : Record Report) (report : Report) :
    Record Report :=
  match record.asked with
  | none => record
  | some question =>
      if takes question report then
        { record with answered := (question, report) :: record.answered }
      else record

def has (record : Record Report) (question report : Report) : Prop :=
  (question, report) ∈ record.answered

theorem subset_enter (takes : Report → Report → Bool) (record : Record Report)
    (report : Report) : record.answered ⊆ (record.enter takes report).answered := by
  rw [enter]
  split
  · exact List.Subset.refl _
  · split
    · exact List.subset_cons_self _ _
    · exact List.Subset.refl _

end Record

namespace Program

variable {Report : Type u} {Result Other : Type v}

def bind : Program Report Result → (Result → Program Report Other) → Program Report Other
  | .done result, rest => rest result
  | .write report next, rest => .write report fun ok => (next ok).bind rest
  | .read next, rest => .read fun report => (next report).bind rest

instance : Monad (Program Report) where
  pure := .done
  bind := Program.bind

def writeReport (report : Report) : Program Report Bool := .write report .done

def readReport : Program Report (Option Report) := .read .done

/-- Whatever happens, the program ends with a record and a result as `post` has them. -/
def Ensures (takes : Report → Report → Bool) (post : Record Report → Result → Prop) :
    Record Report → Program Report Result → Prop
  | record, .done result => post record result
  | record, .write report next =>
      Ensures takes post record (next false) ∧ Ensures takes post (record.ask report) (next true)
  | record, .read next =>
      Ensures takes post record (next none) ∧
        ∀ report, Ensures takes post (record.enter takes report) (next (some report))

variable {takes : Report → Report → Bool} {post : Record Report → Result → Prop}
  {record : Record Report}

@[simp]
theorem ensures_pure {result : Result} :
    Ensures takes post record (pure result : Program Report Result) ↔ post record result :=
  Iff.rfl

theorem ensures_writeReport {post : Record Report → Bool → Prop} {report : Report} :
    Ensures takes post record (writeReport report) ↔
      post record false ∧ post (record.ask report) true :=
  Iff.rfl

theorem ensures_readReport {post : Record Report → Option Report → Prop} :
    Ensures takes post record (readReport : Program Report (Option Report)) ↔
      post record none ∧ ∀ report, post (record.enter takes report) (some report) :=
  Iff.rfl

theorem Ensures.bind {later : Record Report → Other → Prop} {program : Program Report Result}
    {rest : Result → Program Report Other}
    (first : Ensures takes (fun record result => Ensures takes later record (rest result))
      record program) :
    Ensures takes later record (program >>= rest) := by
  induction program generalizing record with
  | done result => exact first
  | write report next ih => exact ⟨ih false first.1, ih true first.2⟩
  | read next ih => exact ⟨ih none first.1, fun report => ih (some report) (first.2 report)⟩

theorem Ensures.mono {weaker : Record Report → Result → Prop} {program : Program Report Result}
    (ensured : Ensures takes post record program)
    (implied : ∀ record result, post record result → weaker record result) :
    Ensures takes weaker record program := by
  induction program generalizing record with
  | done result => exact implied record result ensured
  | write report next ih => exact ⟨ih false ensured.1, ih true ensured.2⟩
  | read next ih => exact ⟨ih none ensured.1, fun report => ih (some report) (ensured.2 report)⟩

/-- What a record has, it keeps while a program runs. -/
theorem Ensures.keep {program : Program Report Result}
    (ensured : Ensures takes post record program) :
    Ensures takes (fun after result => post after result ∧ record.answered ⊆ after.answered)
      record program := by
  suffices kept : ∀ pairs ⊆ record.answered, Ensures takes
      (fun after result => post after result ∧ pairs ⊆ after.answered) record program from
    kept _ (List.Subset.refl _)
  intro pairs entered
  induction program generalizing record with
  | done result => exact ⟨ensured, entered⟩
  | write report next ih => exact ⟨ih false ensured.1 entered, ih true ensured.2 entered⟩
  | read next ih =>
      exact ⟨ih none ensured.1 entered, fun report => ih (some report) (ensured.2 report)
        (List.Subset.trans entered (record.subset_enter takes report))⟩

end Program

end TrueForce.Dialogue
