import TrueForce.TfSim.Slots

/-!
# Loading as a run of assignments

A line is an assignment to one slot, or nothing.  A file is loaded by carrying out
the assignments of its lines in order on the default configuration; an assignment
to a slot makes every other one to the same slot idle.
-/

namespace TrueForce.TfSim

open RustText Splitting Foundation

structure Assignment where
  slot : Slot
  value : slot.kind.Value

def Assignment.apply (config : Config) (assignment : Assignment) : Config :=
  assignment.slot.set assignment.value config

/-- What a line that is applied assigns. -/
def assignment? (line : Text) : Option Assignment :=
  if meaningful line then
    (keyValue line).bind fun parts => (Slot.ofKey parts.1).bind fun slot =>
      (slot.kind.parse parts.2).map fun value => ⟨slot, value⟩
  else none

def skipped (line : Text) : Bool := meaningful line && (assignment? line).isNone

theorem applyLine_of_keyValue (config : Config) {line : Text} (counts : meaningful line = true) :
    ((keyValue line).bind fun parts => applyLine config parts.1 parts.2) =
      (assignment? line).map (Assignment.apply config) := by
  simp only [assignment?, if_pos counts]
  cases keyValue line with
  | none => rfl
  | some parts =>
      simp only [Option.bind_some, applyLine_eq]
      cases Slot.ofKey parts.1 with
      | none => rfl
      | some slot =>
          simp only [Option.bind_some, Option.map_map]
          rfl

theorem loadLine_fst (state : Config × LoadReport) (line : Text) :
    (loadLine state line).1 = (assignment? line).elim state.1 (Assignment.apply state.1) := by
  rw [loadLine]
  split_ifs with counts
  · rw [applyLine_of_keyValue state.1 counts]
    cases assignment? line <;> rfl
  · simp [assignment?, counts]

theorem loadLine_snd (state : Config × LoadReport) {line : Text} (used : skipped line = false) :
    (loadLine state line).2 = state.2 := by
  rw [loadLine]
  split_ifs with counts
  · rw [applyLine_of_keyValue state.1 counts]
    rw [skipped, counts, Bool.true_and] at used
    cases assigned : assignment? line with
    | none => simp [assigned] at used
    | some assignment => rfl
  · rfl

/-- The configuration a text gives is that of its assignments. -/
theorem foldl_loadLine_fst (texts : List Text) (state : Config × LoadReport) :
    (texts.foldl loadLine state).1 =
      (texts.filterMap assignment?).foldl Assignment.apply state.1 := by
  induction texts generalizing state with
  | nil => rfl
  | cons line rest ih =>
      rw [List.foldl_cons, ih, loadLine_fst]
      cases assigned : assignment? line with
      | none => rw [List.filterMap_cons_none assigned, Option.elim_none]
      | some assignment =>
          rw [List.filterMap_cons_some assigned, Option.elim_some, List.foldl_cons]

theorem foldl_loadLine_snd {texts : List Text} (used : ∀ line ∈ texts, skipped line = false)
    (state : Config × LoadReport) : (texts.foldl loadLine state).2 = state.2 := by
  induction texts generalizing state with
  | nil => rfl
  | cons line rest ih =>
      rw [List.foldl_cons, ih (fun other member => used other (by simp [member])),
        loadLine_snd state (used line (by simp))]

/-- An assignment to a slot passes the assignments to other slots. -/
theorem foldl_apply_set {slot : Slot} {assignments : List Assignment}
    (elsewhere : ∀ assignment ∈ assignments, assignment.slot ≠ slot) (value : slot.kind.Value)
    (config : Config) :
    assignments.foldl Assignment.apply (slot.set value config) =
      slot.set value (assignments.foldl Assignment.apply config) := by
  induction assignments generalizing config with
  | nil => rfl
  | cons assignment rest ih =>
      have apart := elsewhere assignment (by simp)
      rw [List.foldl_cons, List.foldl_cons, Assignment.apply, Slot.set_comm (Ne.symm apart),
        ih fun other member => elsewhere other (by simp [member])]
      rfl

/-- Before an assignment to a slot, the others to that slot may go. -/
theorem set_foldl_apply_filter (slot : Slot) (value : slot.kind.Value)
    (assignments : List Assignment) (config : Config) :
    slot.set value (assignments.foldl Assignment.apply config) =
      slot.set value
        ((assignments.filter fun assignment => assignment.slot ≠ slot).foldl
          Assignment.apply config) := by
  induction assignments using List.reverseRecOn with
  | nil => rfl
  | append_singleton front last ih =>
      rw [List.foldl_append, List.foldl_cons, List.foldl_nil, List.filter_append, List.foldl_append]
      by_cases same : last.slot = slot
      · rcases last with ⟨lastSlot, lastValue⟩
        have same : lastSlot = slot := same
        subst same
        rw [Assignment.apply, Slot.set_set, ih]
        simp
      · rw [List.filter_cons_of_pos (by simpa using same), List.filter_nil, List.foldl_cons,
          List.foldl_nil, Assignment.apply, Assignment.apply, Slot.set_comm same,
          Slot.set_comm same, ih]

/-- A slot whose key fits into a line. -/
def Slot.Writable : Slot → Prop
  | .gameEnabled id | .gameIntensity id => id ≠ [] ∧ '=' ∉ id ∧ '\n' ∉ id
  | _ => True

namespace Slot

theorem Writable.named {slot : Slot} (writable : slot.Writable) : slot.Named := by
  cases slot
  case gameEnabled id => exact writable.1
  case gameIntensity id => exact writable.1
  all_goals trivial

theorem key_free {slot : Slot} (writable : slot.Writable) : '=' ∉ slot.key ∧ '\n' ∉ slot.key := by
  cases slot
  case effectGain id => cases id <;> decide
  case gameEnabled id =>
    simp only [key_gameEnabled, List.mem_append, not_or]
    exact ⟨⟨⟨by decide, writable.2.1⟩, by decide⟩, ⟨by decide, writable.2.2⟩, by decide⟩
  case gameIntensity id =>
    simp only [key_gameIntensity, List.mem_append, not_or]
    exact ⟨⟨⟨by decide, writable.2.1⟩, by decide⟩, ⟨by decide, writable.2.2⟩, by decide⟩
  all_goals decide

theorem writable_of_named {slot : Slot} (named : slot.Named) (free : '=' ∉ slot.key)
    (oneLine : '\n' ∉ slot.key) : slot.Writable := by
  cases slot
  case gameEnabled id =>
    simp only [key_gameEnabled, List.mem_append, not_or] at free oneLine
    exact ⟨named, free.1.2, oneLine.1.2⟩
  case gameIntensity id =>
    simp only [key_gameIntensity, List.mem_append, not_or] at free oneLine
    exact ⟨named, free.1.2, oneLine.1.2⟩
  all_goals trivial

theorem key_cons (slot : Slot) :
    ∃ char rest, slot.key = char :: rest ∧ isWhitespace char = false ∧ char ≠ '#' := by
  cases slot <;> exact ⟨_, _, rfl, by decide, by decide⟩

theorem key_solid (slot : Slot) : Solid slot.key := by
  have first : ∀ char, slot.key.head? = some char → isWhitespace char = false := by
    intro char head
    rcases key_cons slot with ⟨first, rest, shape, solid, -⟩
    rw [shape, List.head?_cons, Option.some.injEq] at head
    rwa [← head]
  refine ⟨first, ?_⟩
  intro char last
  cases slot
  case effectGain id => cases id <;> cases last <;> rfl
  case gameEnabled id =>
    rw [key_gameEnabled, List.getLast?_append] at last
    cases last
    rfl
  case gameIntensity id =>
    rw [key_gameIntensity, List.getLast?_append] at last
    cases last
    rfl
  all_goals
    cases last
    rfl

end Slot

theorem keyValue_eq (line : Text) :
    keyValue line = (splitOnce '=' line).map fun parts => (trim parts.1, trim parts.2) :=
  splitOnce_trim rfl line

theorem keyValue_of_solid {key value : Text} (free : '=' ∉ key) (solidKey : Solid key)
    (solidValue : Solid value) : keyValue (key ++ '=' :: value) = some (key, value) := by
  rw [keyValue_eq, splitOnce_of_free free, Option.map_some, trim_eq_self_iff.mpr solidKey,
    trim_eq_self_iff.mpr solidValue]

theorem meaningful_of_head {char : Char} {rest : Text} (solid : isWhitespace char = false)
    (plain : char ≠ '#') : meaningful (char :: rest) = true := by
  have head := head?_trim_cons solid rest
  rw [meaningful, head]
  cases core : trim (char :: rest) with
  | nil => simp [core] at head
  | cons => simpa using plain

/-- The line that is written for a slot assigns the slot. -/
theorem assignment?_written {slot : Slot} (writable : slot.Writable) {value : slot.kind.Value}
    (valid : slot.kind.Valid value) :
    assignment? (slot.key ++ '=' :: slot.kind.print value) = some ⟨slot, value⟩ := by
  have counts : meaningful (slot.key ++ '=' :: slot.kind.print value) = true := by
    rcases slot.key_cons with ⟨char, rest, shape, solid, plain⟩
    rw [shape]
    exact meaningful_of_head solid plain
  rw [assignment?, if_pos counts, keyValue_of_solid (Slot.key_free writable).1 slot.key_solid
    (Kind.print_solid valid)]
  simp only [Option.bind_some, Slot.ofKey_key writable.named, Kind.parse_print valid,
    Option.map_some]

/-- What a line assigns can be written to a line. -/
theorem assignment?_spec {line : Text} (oneLine : '\n' ∉ line) {assignment : Assignment}
    (assigned : assignment? line = some assignment) :
    assignment.slot.Writable ∧ assignment.slot.kind.Valid assignment.value ∧
      ∃ raw, keyValue line = some (assignment.slot.key, raw) ∧
        assignment.slot.kind.parse raw = some assignment.value := by
  simp only [assignment?] at assigned
  split_ifs at assigned
  rcases Option.bind_eq_some_iff.mp assigned with ⟨parts, found, assigned⟩
  rcases Option.bind_eq_some_iff.mp assigned with ⟨slot, named, assigned⟩
  rcases Option.map_eq_some_iff.mp assigned with ⟨value, parsed, rfl⟩
  rcases Slot.ofKey_eq_some named with ⟨key, hasName⟩
  have cut := found
  rw [keyValue_eq] at cut
  rcases Option.map_eq_some_iff.mp cut with ⟨⟨before, after⟩, split, rfl⟩
  rcases splitOnce_eq_some_iff.mp split with ⟨free, rfl⟩
  simp only [List.mem_append, List.mem_cons, not_or] at oneLine
  refine ⟨?_, ?_, trim after, ?_, parsed⟩
  · apply Slot.writable_of_named hasName
    · rw [key]
      exact fun inside => free ((trim_sublist before).subset inside)
    · rw [key]
      exact fun inside => oneLine.1 ((trim_sublist before).subset inside)
  · apply Kind.valid_of_parse _ parsed
    exact fun inside => oneLine.2.2 ((trim_sublist after).subset inside)
  · rw [found, key]

end TrueForce.TfSim
