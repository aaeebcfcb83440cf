import TrueForce.LogiFfb.Steering
import TrueForce.LogiFfb.UserReg

/-!
# What the registry says after steering

The wheel is disabled by what is added where its name has nothing to hide, and by what
is there where the last assignment already says so.  A line that is found where it says
nothing of the wheel keeps it from being disabled.
-/

namespace TrueForce.LogiFfb.Steering

open RustText
open Splitting (pieces_induction)
open Sections (Assignment)
open UserReg

def joysticksKey : Text := "Software\\Wine\\DirectInput\\Joysticks".toList

/-- What the registry assigns to a name under the key of the joysticks. -/
def joystickValue (folding : Folding) (text name : Text) : Option Data :=
  Sections.value folding.place (folding.place joysticksKey name) (assignments text)

/-- The assignments of every other name, or under another key. -/
def otherAssignments (folding : Folding) (text name : Text) : List (Assignment Text Text Data) :=
  Sections.elsewhere folding.place (folding.place joysticksKey name) (assignments text)

def disabled : Data := .string "disabled".toList

theorem ended_unterminated {piece : Text} (free : '\n' ∉ piece) (nonempty : piece ≠ []) :
    ended piece = piece ++ ['\n'] := by
  rw [ended, if_pos]
  exact ⟨nonempty, fun last => free (List.mem_of_getLast? last)⟩

theorem ended_terminated (piece rest : Text) :
    ended (piece ++ '\n' :: rest) = piece ++ '\n' :: ended rest := by
  have nonempty : piece ++ '\n' :: rest ≠ [] := by simp
  cases rest with
  | nil => simp [ended]
  | cons char rest =>
      have last : (piece ++ '\n' :: char :: rest).getLast? = (char :: rest).getLast? := by
        rw [List.getLast?_append, List.getLast?_cons_cons,
          List.getLast?_eq_some_getLast (List.cons_ne_nil char rest), Option.some_or]
      simp only [ended, last, nonempty, ne_eq, not_false_eq_true, true_and,
        List.cons_ne_nil]
      split <;> simp

theorem pieces_ended_append (text rest : Text) :
    pieces '\n' (ended text ++ rest) = pieces '\n' text ++ pieces '\n' rest := by
  induction text using pieces_induction '\n' with
  | empty => rfl
  | last piece free nonempty =>
      rw [ended_unterminated free nonempty, List.append_assoc, List.singleton_append,
        pieces_terminated free, pieces_unterminated free nonempty, List.singleton_append]
  | terminated piece more free ih =>
      rw [ended_terminated, List.append_assoc, List.cons_append, pieces_terminated free, ih,
        pieces_terminated free, List.cons_append]

theorem exists_lines_ended_append (text rest : Text) :
    ∃ front, lines (ended text ++ rest) = front ++ lines rest := by
  induction text using pieces_induction '\n' with
  | empty => exact ⟨[], rfl⟩
  | last piece free nonempty =>
      refine ⟨[stripReturn piece], ?_⟩
      rw [ended_unterminated free nonempty, List.append_assoc, List.singleton_append,
        lines_terminated free, List.singleton_append]
  | terminated piece more free ih =>
      obtain ⟨front, parts⟩ := ih
      refine ⟨stripReturn piece :: front, ?_⟩
      rw [ended_terminated, List.append_assoc, List.cons_append, lines_terminated free, parts,
        List.cons_append]

/-- A name that is written as it is between quotes. -/
def Plain (name : Text) : Prop := '"' ∉ name ∧ '\\' ∉ name

def closing : Text := "=\"disabled\"".toList

theorem disableLine_eq (name : Text) : disableLine name = '"' :: (name ++ '"' :: closing) := rfl

theorem lineOf_disableLine (name : Text) :
    lineOf (disableLine name) = (assignmentOf (name ++ '"' :: closing)).elim .other
      fun parts => .assign parts.1 parts.2 := by
  rw [disableLine_eq, lineOf]

theorem dataOf_closing : dataOf "\"disabled\"".toList = some disabled := by decide

theorem assignmentOf_of_plain {name : Text} (plain : Plain name) :
    assignmentOf (name ++ '"' :: closing) = some (name, disabled) := by
  have shape : closing = '=' :: "\"disabled\"".toList := rfl
  rw [assignmentOf, readUntil_append plain.1 plain.2, shape]
  simp only [dataOf_closing, Option.map_some]

theorem lineOf_disableLine_of_plain {name : Text} (plain : Plain name) :
    lineOf (disableLine name) = .assign name disabled := by
  rw [lineOf_disableLine, assignmentOf_of_plain plain]
  rfl

/-- Only what closes the name has an equals sign behind it. -/
theorem head_drop_closing (count : ℕ) (equals : ((closing.drop count).head? = some '=')) :
    count = 0 := by
  have few : ∀ index < 11, (closing.drop (index + 1)).head? ≠ some '=' := by decide
  cases count with
  | zero => rfl
  | succ count =>
      by_cases inside : count < 11
      · exact absurd equals (few count inside)
      · have past : closing.length ≤ count + 1 := by
          have length : closing.length = 11 := by decide
          omega
        rw [List.drop_of_length_le past] at equals
        cases equals

/-- A name of the length of the wheel's is read only where the wheel's is plain. -/
theorem plain_of_assignmentOf {name read : Text} {data : Data}
    (found : assignmentOf (name ++ '"' :: closing) = some (read, data))
    (length : read.length = name.length) : Plain name := by
  simp only [assignmentOf] at found
  split at found
  · next text rest readFound =>
      obtain ⟨inner, -, same⟩ := Option.map_eq_some_iff.mp found
      obtain ⟨rfl, rfl⟩ := Prod.mk.inj same
      obtain ⟨used, parts, shorter, exactly⟩ := readUntil_spec readFound
      have behind : (closing.drop (used.length - name.length)).head? = some '=' := by
        have dropped := congrArg (List.drop (used.length + 1)) parts
        have left : used.length + 1 - name.length = used.length - name.length + 1 := by omega
        have one : used.length + 1 - used.length = 1 := by omega
        have noName : name.drop (used.length + 1) = [] := List.drop_of_length_le (by omega)
        have noText : used.drop (used.length + 1) = [] := List.drop_of_length_le (by omega)
        rw [List.drop_append, List.drop_append, noName, noText, left, one] at dropped
        simp only [List.nil_append, List.drop_succ_cons, List.drop_zero] at dropped
        rw [dropped, List.head?_cons]
      have sameLength : used.length = name.length := by
        have := head_drop_closing _ behind
        omega
      obtain ⟨rfl, free, bare⟩ := exactly (by omega)
      have sameName := (List.append_inj parts sameLength.symm).1
      rw [sameName]
      exact ⟨free, bare⟩
  · cases found

theorem lineFeed_mem_disableLine (name : Text) : '\n' ∈ disableLine name ↔ '\n' ∈ name := by
  simp [disableLine]

theorem stripReturn_disableLine (name : Text) :
    stripReturn (disableLine name) = disableLine name := by
  rw [stripReturn_eq_self_iff, disableLine_eq, List.getLast?_cons, List.getLast?_append]
  have last : ('"' :: closing).getLast? = some '"' := by decide
  rw [last]
  simp

theorem updated_eq (existing line : Text) :
    updated existing line = ended existing ++
      [wineDinputJoysticksSection, line].flatMap (· ++ ['\n']) := by
  simp [updated]

theorem free_of_disableLine {name : Text} (free : '\n' ∉ name) :
    ∀ line ∈ [wineDinputJoysticksSection, disableLine name], '\n' ∉ line := by
  have header : '\n' ∉ wineDinputJoysticksSection := by decide
  have line : '\n' ∉ disableLine name := mt (lineFeed_mem_disableLine name).mp free
  simp [header, line]

theorem mem_lines_updated (existing : Text) {name : Text} (free : '\n' ∉ name) :
    disableLine name ∈ lines (updated existing (disableLine name)) := by
  obtain ⟨front, parts⟩ := exists_lines_ended_append existing
    ([wineDinputJoysticksSection, disableLine name].flatMap (· ++ ['\n']))
  rw [updated_eq, parts, lines_flatMap (free_of_disableLine free), List.map_cons, List.map_cons,
    stripReturn_disableLine]
  simp

theorem registryLines_updated (existing : Text) {name : Text} (free : '\n' ∉ name) :
    registryLines (updated existing (disableLine name)) =
      registryLines existing ++ [.header joysticksKey, lineOf (disableLine name)] := by
  have header : lineOf (stripReturn wineDinputJoysticksSection) = .header joysticksKey := by
    decide
  rw [registryLines, updated_eq, pieces_ended_append, pieces_flatMap (free_of_disableLine free),
    List.map_append, List.map_cons, List.map_singleton, header, stripReturn_disableLine]
  rfl

theorem assignments_updated (existing : Text) {name : Text} (free : '\n' ∉ name) :
    assignments (updated existing (disableLine name)) = assignments existing ++
      Sections.assignments (some joysticksKey) [lineOf (disableLine name)] := by
  rw [assignments, registryLines_updated existing free, Sections.assignments_append_header]
  rfl

theorem prefix_updated (existing line : Text) : existing <+: updated existing line := by
  have first : existing <+: ended existing := by
    rw [ended]
    split
    · exact List.prefix_append existing ['\n']
    · exact List.prefix_refl existing
  rw [updated_eq]
  exact first.trans (List.prefix_append _ _)

theorem length_lt_updated (existing line : Text) :
    existing.length < (updated existing line).length := by
  have ended_le : existing.length ≤ (ended existing).length := by
    rw [ended]
    split
    · simp
    · exact Nat.le_refl _
  rw [updated_eq]
  simp only [List.length_append, List.flatMap_cons, List.flatMap_nil, List.length_singleton,
    List.length_nil]
  omega

variable {folding : Folding} {plan : Plan} {path existing after name : Text}

/-- What steering is for. -/
structure TakesEffect (folding : Folding) (plan : Plan) (path before after : Text) : Prop where
  assigned : joystickValue folding after plan.regDisableName = some disabled
  others : otherAssignments folding after plan.regDisableName =
    otherAssignments folding before plan.regDisableName
  kept : before <+: after
  again : ∀ writable, apply plan (some path) writable (.text after) = .ok (.text after)

/-- Where the line is in the file, the last assignment of the name has to disable it.  Elsewhere the
name has to be plain, or the line added for it has to say nothing and the file all. -/
def Suits (folding : Folding) (existing name : Text) : Prop :=
  disableLine name ∈ lines existing ∧ joystickValue folding existing name = some disabled ∨
    disableLine name ∉ lines existing ∧ '\n' ∉ name ∧
      (Plain name ∨
        lineOf (disableLine name) = .other ∧ joystickValue folding existing name = some disabled)

theorem apply_of_mem (present : disableLine plan.regDisableName ∈ lines existing) (path : Text)
    (writable : Bool) : apply plan (some path) writable (.text existing) = .ok (.text existing) := by
  simp only [apply, present, ↓reduceIte]

theorem apply_of_not_mem (absent : disableLine plan.regDisableName ∉ lines existing)
    (path : Text) :
    apply plan (some path) true (.text existing) =
      .ok (.text (updated existing (disableLine plan.regDisableName))) := by
  simp only [apply, absent, ↓reduceIte]

theorem apply_text {writable : Bool}
    (applied : apply plan (some path) writable (.text existing) = .ok (.text after)) :
    disableLine plan.regDisableName ∈ lines existing ∧ after = existing ∨
      disableLine plan.regDisableName ∉ lines existing ∧
        after = updated existing (disableLine plan.regDisableName) := by
  simp only [apply] at applied
  split at applied
  · next present =>
      cases applied
      exact Or.inl ⟨present, rfl⟩
  · next absent =>
      split at applied
      · cases applied
        exact Or.inr ⟨absent, rfl⟩
      · cases applied

theorem lineOf_disableLine_cases (name : Text) :
    lineOf (disableLine name) = .other ∨
      ∃ read data, lineOf (disableLine name) = .assign read data ∧
        (read.length = name.length → Plain name) := by
  rw [lineOf_disableLine]
  cases found : assignmentOf (name ++ '"' :: closing) with
  | none => exact Or.inl rfl
  | some parts => exact Or.inr ⟨parts.1, parts.2, rfl, plain_of_assignmentOf found⟩

theorem assignments_updated_of_other (free : '\n' ∉ name)
    (silent : lineOf (disableLine name) = .other) :
    assignments (updated existing (disableLine name)) = assignments existing := by
  rw [assignments_updated existing free, silent]
  exact List.append_nil _

theorem assignments_updated_of_assign (free : '\n' ∉ name) {read : Text} {data : Data}
    (line : lineOf (disableLine name) = .assign read data) :
    assignments (updated existing (disableLine name)) =
      assignments existing ++ [{ key := joysticksKey, name := read, data }] := by
  rw [assignments_updated existing free, line]
  rfl

/-- A line that assigns to another name is one more of the other assignments. -/
theorem plain_of_others (free : '\n' ∉ name) {read : Text} {data : Data}
    (line : lineOf (disableLine name) = .assign read data)
    (plain : read.length = name.length → Plain name)
    (others : otherAssignments folding (updated existing (disableLine name)) name =
      otherAssignments folding existing name) : Plain name := by
  by_contra notPlain
  rw [otherAssignments, assignments_updated_of_assign free line] at others
  refine Sections.elsewhere_concat_of_other _ ?_ others
  intro same
  have length := congrArg (fun place => List.length place.2) same
  simp only [Folding.place, folding.length] at length
  exact notPlain (plain length)

theorem again_iff (existing : Text) :
    (∀ writable, apply plan (some path) writable
        (.text (updated existing (disableLine plan.regDisableName))) =
      .ok (.text (updated existing (disableLine plan.regDisableName)))) ↔
      '\n' ∉ plan.regDisableName := by
  constructor
  · intro again broken
    have absent : disableLine plan.regDisableName ∉
        lines (updated existing (disableLine plan.regDisableName)) := fun member =>
      lineFeed_not_mem_lines _ _ member ((lineFeed_mem_disableLine _).mpr broken)
    have same := (apply_of_not_mem absent path).symm.trans (again true)
    have length := length_lt_updated (updated existing (disableLine plan.regDisableName))
      (disableLine plan.regDisableName)
    rw [Registry.text.inj (Except.ok.inj same)] at length
    exact Nat.lt_irrefl _ length
  · intro free writable
    exact apply_of_mem (mem_lines_updated existing free) path writable

theorem takesEffect_updated_iff (existing : Text) :
    TakesEffect folding plan path existing
        (updated existing (disableLine plan.regDisableName)) ↔
      '\n' ∉ plan.regDisableName ∧
        (Plain plan.regDisableName ∨
          lineOf (disableLine plan.regDisableName) = .other ∧
            joystickValue folding existing plan.regDisableName = some disabled) := by
  constructor
  · intro effect
    have free := (again_iff existing).mp effect.again
    refine ⟨free, ?_⟩
    rcases lineOf_disableLine_cases plan.regDisableName with silent | ⟨read, data, line, plain⟩
    · right
      refine ⟨silent, ?_⟩
      have assigned := effect.assigned
      rwa [joystickValue, assignments_updated_of_other free silent] at assigned
    · exact Or.inl (plain_of_others free line plain effect.others)
  · rintro ⟨free, plain | ⟨silent, already⟩⟩
    · have line := lineOf_disableLine_of_plain plain
      exact {
        assigned := by
          rw [joystickValue, assignments_updated_of_assign free line]
          exact Sections.value_concat_of_same _ rfl
        others := by
          rw [otherAssignments, assignments_updated_of_assign free line]
          exact Sections.elsewhere_concat_of_same _ rfl
        kept := prefix_updated _ _
        again := (again_iff existing).mpr free }
    · have same : assignments (updated existing (disableLine plan.regDisableName)) =
          assignments existing := assignments_updated_of_other free silent
      exact {
        assigned := by rwa [joystickValue, same]
        others := by rw [otherAssignments, same, otherAssignments]
        kept := prefix_updated _ _
        again := (again_iff existing).mpr free }

theorem takesEffect_iff {writable : Bool}
    (applied : apply plan (some path) writable (.text existing) = .ok (.text after)) :
    TakesEffect folding plan path existing after ↔
      Suits folding existing plan.regDisableName := by
  rcases apply_text applied with ⟨present, rfl⟩ | ⟨absent, rfl⟩
  · constructor
    · exact fun effect => Or.inl ⟨present, effect.assigned⟩
    · rintro (⟨-, already⟩ | ⟨absent, -⟩)
      · exact {
          assigned := already
          others := rfl
          kept := List.prefix_refl _
          again := apply_of_mem present path }
      · exact absurd present absent
  · rw [takesEffect_updated_iff]
    constructor
    · exact fun suits => Or.inr ⟨absent, suits⟩
    · rintro (⟨present, -⟩ | ⟨-, suits⟩)
      · exact absurd present absent
      · exact suits

theorem steering_law (plan : Plan) (path : Text) (writable : Bool)
    (existing after : Text) :
    (apply plan (some path) writable (.text existing) = .ok (.text after) →
      existing <+: after ∧
        (after = existing ∨ after = updated existing (disableLine plan.regDisableName))) ∧
    ∀ folding, apply plan (some path) writable (.text existing) = .ok (.text after) →
      (TakesEffect folding plan path existing after ↔
        Suits folding existing plan.regDisableName) := by
  constructor
  · intro applied
    rcases apply_text applied with ⟨-, rfl⟩ | ⟨-, rfl⟩
    · exact ⟨List.prefix_refl _, Or.inl rfl⟩
    · exact ⟨prefix_updated _ _, Or.inr rfl⟩
  · intro folding applied
    exact takesEffect_iff applied

def asWritten : Folding where
  fold := id
  length := fun _ => rfl

def rs50 : Text := "Logitech RS50 Base for PlayStation/PC".toList

/-- The line is there, under another key. -/
def elsewhereDisabled : Text :=
  "[Software\\\\Wine\\\\Other]\n".toList ++ disableLine rs50 ++ ['\n']

/-- The line is there, and a later one enables the wheel. -/
def enabledLater : Text :=
  wineDinputJoysticksSection ++ ['\n'] ++ disableLine rs50 ++
    "\n\"Logitech RS50 Base for PlayStation/PC\"=\"enabled\"\n".toList

theorem line_elsewhere_not_disabled :
    apply (planFor 0x046d 0xc276 rs50) (some "/pfx".toList) true (.text elsewhereDisabled) =
      .ok (.text elsewhereDisabled) ∧
    joystickValue asWritten elsewhereDisabled rs50 = none ∧
    apply (planFor 0x046d 0xc276 rs50) (some "/pfx".toList) true (.text enabledLater) =
      .ok (.text enabledLater) ∧
    joystickValue asWritten enabledLater rs50 = some (.string "enabled".toList) := by
  have first : disableLine rs50 ∈ lines elsewhereDisabled := by decide
  have second : disableLine rs50 ∈ lines enabledLater := by decide
  refine ⟨apply_of_mem first _ _, by decide, apply_of_mem second _ _, by decide⟩

end TrueForce.LogiFfb.Steering
