import TrueForce.TfSim.ParserAgreement
import TrueForce.TfSim.WriteKey

/-!
# When an edit touches one key only

An edit keeps the other lines and changes one setting exactly where what it writes
fits into a line and the file comes through the reader unchanged: no other line
ends in a carriage return, and a file that is no UTF-8 is nothing but the header.
-/

namespace TrueForce.TfSim.FrontEnd

open RustText Splitting Foundation Rewriting

theorem writtenText_eq (key value text : Text) :
    writtenText key value text =
      (rewrite (isKeyLine key) (key ++ '=' :: value) false (lines text)).flatMap
        (· ++ ['\n']) := by
  have loop : ∀ (texts : List Text) (out : Text) (replaced : Bool),
      (if (texts.foldl (writeLine key value) (out, replaced)).2 then
          (texts.foldl (writeLine key value) (out, replaced)).1
        else (texts.foldl (writeLine key value) (out, replaced)).1 ++ formatLine key value) =
        out ++ (rewrite (isKeyLine key) (key ++ '=' :: value) replaced texts).flatMap
          (· ++ ['\n']) := by
    intro texts
    induction texts with
    | nil =>
        intro out replaced
        cases replaced <;> simp [rewrite, formatLine]
    | cons line rest ih =>
        intro out replaced
        rw [List.foldl_cons]
        by_cases mine : isKeyLine key line = true
        · cases replaced with
          | true =>
              have step : writeLine key value (out, true) line = (out, true) := by
                simp [writeLine, mine]
              rw [step, ih]
              simp [rewrite, mine]
          | false =>
              have step : writeLine key value (out, false) line =
                  (out ++ formatLine key value, true) := by
                simp [writeLine, mine]
              rw [step, ih]
              simp [rewrite, mine, formatLine]
        · have step : writeLine key value (out, replaced) line =
              (out ++ line ++ ['\n'], replaced) := by
            simp [writeLine, mine]
          rw [step, ih]
          simp [rewrite, mine]
  exact loop (lines text) [] false

theorem head?_trimStart_append {char : Char} (solid : isWhitespace char = false)
    {blank : Text} (spaces : Blank blank) (rest : Text) :
    (trimStart (blank ++ char :: rest)).head? = some char := by
  rw [trimStart, List.dropWhile_append_of_pos spaces, List.dropWhile_cons_of_neg (by simp [solid])]
  rfl

section Key

variable (slot : Slot)

theorem isKeyLine_eq (line : Text) :
    isKeyLine slot.key line = (keyValue line).any fun parts => parts.1 == slot.key := by
  rw [keyValue_eq, isKeyLine]
  cases cut : splitOnce '=' line with
  | none => rfl
  | some parts =>
      simp only [Option.any_some, Option.map_some]
      by_cases mine : trim parts.1 = slot.key
      · rcases splitOnce_eq_some_iff.mp cut with ⟨-, whole⟩
        rcases slot.key_cons with ⟨char, rest, shape, solid, plain⟩
        rcases trim_spec parts.1 with ⟨blank, after, spaced, spaces, -, -⟩
        have head : (trimStart line).head? = some char := by
          rw [whole, spaced, mine, shape, List.append_assoc, List.append_assoc, List.cons_append]
          exact head?_trimStart_append solid spaces _
        simp [head, plain]
      · simp [mine]

theorem isKeyLine_stripReturn (line : Text) :
    isKeyLine slot.key (stripReturn line) = isKeyLine slot.key line := by
  simp only [isKeyLine_eq, keyValue, trim_stripReturn]

theorem assignment?_stripReturn (line : Text) :
    TfSim.assignment? (stripReturn line) = TfSim.assignment? line := by
  have counts : meaningful (stripReturn line) = meaningful line := by
    simp only [meaningful, trim_stripReturn]
  have parts : keyValue (stripReturn line) = keyValue line := by
    simp only [keyValue, trim_stripReturn]
  rw [TfSim.assignment?, TfSim.assignment?, counts, parts]

/-- A line that assigns a slot carries the key of that slot. -/
theorem isKeyLine_of_assignment {line : Text} {assignment : Assignment} (named : slot.Named)
    (assigned : TfSim.assignment? line = some assignment) :
    isKeyLine slot.key line = decide (assignment.slot = slot) := by
  simp only [TfSim.assignment?] at assigned
  split_ifs at assigned
  rcases Option.bind_eq_some_iff.mp assigned with ⟨parts, found, assigned⟩
  rcases Option.bind_eq_some_iff.mp assigned with ⟨other, known, assigned⟩
  rcases Option.map_eq_some_iff.mp assigned with ⟨value, -, rfl⟩
  rcases Slot.ofKey_eq_some known with ⟨key, otherNamed⟩
  rw [isKeyLine_eq, found, Option.any_some, ← key]
  by_cases same : other = slot
  · simp [same]
  · have apart : other.key ≠ slot.key := by
      intro sameKey
      have back := Slot.ofKey_key otherNamed
      rw [sameKey, Slot.ofKey_key named] at back
      exact same (Option.some.inj back).symm
    simp [same, apart]

theorem filter_assignments (named : slot.Named) (texts : List Text) :
    ((texts.filterMap TfSim.assignment?).filter fun assignment => assignment.slot ≠ slot) =
      (texts.filter fun line => !isKeyLine slot.key line).filterMap TfSim.assignment? := by
  induction texts with
  | nil => rfl
  | cons line rest ih =>
      cases assigned : TfSim.assignment? line with
      | none =>
          rw [List.filterMap_cons_none assigned, ih]
          by_cases mine : isKeyLine slot.key line = true <;> simp [mine, assigned]
      | some assignment =>
          have mine := isKeyLine_of_assignment slot named assigned
          rw [List.filterMap_cons_some assigned]
          by_cases same : assignment.slot = slot
          · simp only [same, decide_true] at mine
            simp only [List.filter_cons, same, ne_eq, not_true_eq_false, decide_false,
              Bool.false_eq_true, ↓reduceIte, mine, Bool.not_true]
            exact ih
          · simp only [same, decide_false] at mine
            simp only [List.filter_cons, same, ne_eq, not_false_eq_true, decide_true, ↓reduceIte,
              mine, Bool.not_false, List.filterMap_cons_some assigned]
            exact congrArg _ ih

variable {slot} {value : slot.kind.Value}

/-- What a rewritten list of lines assigns: the old assignments, then the written one. -/
theorem foldl_rewrite (writable : slot.Writable) (valid : slot.kind.Valid value)
    (texts : List Text) (config : TfSim.Config) :
    ((rewrite (isKeyLine slot.key) (slot.key ++ '=' :: slot.kind.print value) false
        texts).filterMap TfSim.assignment?).foldl Assignment.apply config =
      slot.set value ((texts.filterMap TfSim.assignment?).foldl Assignment.apply config) := by
  have own := assignment?_written writable valid
  have others : ∀ texts : List Text, ∀ assignment ∈
      (texts.filter fun line => !isKeyLine slot.key line).filterMap TfSim.assignment?,
      assignment.slot ≠ slot := by
    intro texts assignment member
    rw [← filter_assignments slot writable.named] at member
    simpa using (List.mem_filter.mp member).2
  rw [set_foldl_apply_filter, filter_assignments slot writable.named]
  induction texts generalizing config with
  | nil =>
      rw [rewrite, if_neg Bool.false_ne_true, List.filterMap_cons_some own]
      rfl
  | cons line rest ih =>
      by_cases mine : isKeyLine slot.key line = true
      · rw [rewrite, if_pos mine, if_neg Bool.false_ne_true, List.filterMap_cons_some own,
          List.foldl_cons, rewrite_true, Assignment.apply, foldl_apply_set (others rest),
          List.filter_cons_of_neg (by simp [mine])]
      · rw [rewrite, if_neg mine, List.filter_cons_of_pos (by simp [mine])]
        cases assigned : TfSim.assignment? line with
        | none => rw [List.filterMap_cons_none assigned, List.filterMap_cons_none assigned, ih]
        | some assignment =>
            rw [List.filterMap_cons_some assigned, List.filterMap_cons_some assigned,
              List.foldl_cons, List.foldl_cons, ih]

end Key

section Bytes

theorem utf8_equals : String.utf8EncodeChar '=' = [0x3D] := utf8EncodeChar_ascii (by decide)

theorem splitOnce_utf8 (line : Text) :
    splitOnce 0x3D (utf8 line) =
      (splitOnce '=' line).map fun parts => (utf8 parts.1, utf8 parts.2) := by
  have free : ∀ text : Text, '=' ∉ text → (0x3D : UInt8) ∉ utf8 text :=
    fun text absent member => absent (mem_of_mem_utf8 (by decide) member)
  cases cut : splitOnce '=' line with
  | none => exact splitOnce_eq_none_iff.mpr (free line (splitOnce_eq_none_iff.mp cut))
  | some parts =>
      rcases splitOnce_eq_some_iff.mp cut with ⟨absent, rfl⟩
      rw [utf8_append, utf8_cons, utf8_equals]
      exact splitOnce_of_free (free parts.1 absent) (utf8 parts.2)

theorem carries_utf8 (slot : Slot) (line : Text) :
    carries slot.key (utf8 line) = isKeyLine slot.key line := by
  rw [carries, splitOnce_utf8, isKeyLine_eq, keyValue_eq, Option.any_map, Option.any_map]
  cases splitOnce '=' line with
  | none => rfl
  | some parts => simp

theorem otherLines_utf8 (slot : Slot) (text : Text) :
    otherLines slot.key (utf8 text) =
      ((pieces '\n' text).filter fun line => !isKeyLine slot.key line).map utf8 := by
  rw [otherLines, pieces_utf8, List.filter_map]
  congr 1
  apply List.filter_congr
  intro line _
  simp only [Function.comp_apply, carries_utf8]

theorem getLast?_utf8 (line : Text) :
    (utf8 line).getLast? ≠ some 0x0D ↔ stripReturn line = line := by
  rw [stripReturn_eq_self_iff, not_iff_not]
  constructor
  · intro last
    rcases List.eq_nil_or_concat line with rfl | ⟨front, char, rfl⟩
    · exact absurd last.symm (Option.some_ne_none _)
    · rw [List.concat_eq_append, utf8_append, utf8_cons, utf8_nil, List.append_nil,
        List.getLast?_append_of_ne_nil _ (utf8EncodeChar_ne_nil char)] at last
      have code : '\r'.toNat = char.toNat :=
        ascii_of_mem_utf8EncodeChar (List.mem_of_getLast? last) (by decide)
      rw [List.concat_eq_append, List.getLast?_concat, Char.toNat_inj.mp code]
  · intro last
    rcases List.getLast?_eq_some_iff.mp last with ⟨front, rfl⟩
    rw [utf8_append, utf8_cons, utf8EncodeChar_ascii (by decide)]
    simp

/-- The text that an edit starts from. -/
def startText (file : List UInt8) : Text := (decode file).getD (fileHeader ++ ['\n'])

theorem lines_fileHeader : lines (fileHeader ++ ['\n']) = [fileHeader] := by decide

theorem isKeyLine_fileHeader (slot : Slot) : isKeyLine slot.key fileHeader = false := by
  have none : keyValue fileHeader = Option.none := by decide
  rw [isKeyLine_eq, none, Option.any_none]

/-- A file that is no UTF-8 loads as the header does. -/
theorem loadFrom_startText (file : List UInt8) :
    TfSim.Config.loadFrom (some file) =
      ((lines (startText file)).filterMap TfSim.assignment?).foldl Assignment.apply default := by
  cases decoded : decode file with
  | some text =>
      rw [decode_eq_some_iff.mp decoded, loadFrom_eq, startText, decode_utf8, Option.getD_some]
  | none =>
      have unread : TfSim.Config.loadFrom (some file) = default := by
        simp only [TfSim.Config.loadFrom, TfSim.Config.loadFromWithReport, readToString,
          Option.bind_some, decoded]
      have silent : TfSim.assignment? fileHeader = Option.none := by
        rw [TfSim.assignment?, meaningful_fileHeader]
        exact if_neg Bool.false_ne_true
      rw [unread, startText, decoded, Option.getD_none, lines_fileHeader,
        List.filterMap_cons_none silent]
      rfl

end Bytes

section Edit

variable {slot : Slot} {value : slot.kind.Value} (writable : slot.Writable)
  (valid : slot.kind.Valid value) (file : List UInt8)

/-- The lines that an edit writes. -/
def editedLines (slot : Slot) (value : slot.kind.Value) (file : List UInt8) : List Text :=
  rewrite (isKeyLine slot.key) (slot.key ++ '=' :: slot.kind.print value) false
    (lines (startText file))

theorem writeKeyIn_eq :
    writeKeyIn (some file) slot.key (slot.kind.print value) =
      utf8 ((editedLines slot value file).flatMap (· ++ ['\n'])) := by
  rw [writeKeyIn, writtenText_eq]
  rfl

include writable valid

theorem isKeyLine_written :
    isKeyLine slot.key (slot.key ++ '=' :: slot.kind.print value) = true := by
  rw [isKeyLine_of_assignment slot writable.named (assignment?_written writable valid)]
  simp

omit writable in
theorem stripReturn_written :
    stripReturn (slot.key ++ '=' :: slot.kind.print value) =
      slot.key ++ '=' :: slot.kind.print value := by
  apply stripReturn_eq_self_iff.mpr
  intro last
  exact absurd (isWhitespace_last (Kind.print_solid valid) last) (by decide)

theorem editedLines_free : ∀ line ∈ editedLines slot value file, '\n' ∉ line := by
  intro line member
  rcases mem_rewrite member with rfl | ⟨old, -⟩
  · simp only [List.mem_append, List.mem_cons, not_or]
    exact ⟨(Slot.key_free writable).2, by decide, Kind.lineFeed_not_mem_print valid⟩
  · exact lineFeed_not_mem_lines (startText file) line old

theorem lines_edited :
    lines ((editedLines slot value file).flatMap (· ++ ['\n'])) =
      (editedLines slot value file).map stripReturn :=
  lines_flatMap (editedLines_free writable valid file)

theorem loadFrom_edited :
    TfSim.Config.loadFrom (some (writeKeyIn (some file) slot.key (slot.kind.print value))) =
      slot.set value (TfSim.Config.loadFrom (some file)) := by
  rw [writeKeyIn_eq, loadFrom_eq, lines_edited writable valid, List.filterMap_map]
  have same : TfSim.assignment? ∘ stripReturn = TfSim.assignment? :=
    funext assignment?_stripReturn
  rw [same, editedLines, foldl_rewrite writable valid, loadFrom_startText]

theorem otherLines_edited :
    otherLines slot.key (writeKeyIn (some file) slot.key (slot.kind.print value)) =
      ((lines (startText file)).filter fun line => !isKeyLine slot.key line).map utf8 := by
  rw [writeKeyIn_eq, otherLines_utf8, pieces_flatMap (editedLines_free writable valid file),
    editedLines, filter_rewrite (isKeyLine_written writable valid)]

theorem otherLines_mem_edited {line : Text} (member : line ∈ lines (startText file))
    (other : isKeyLine slot.key line = false) : line ∈ editedLines slot value file := by
  have kept : line ∈ (editedLines slot value file).filter fun line => !isKeyLine slot.key line := by
    rw [editedLines, filter_rewrite (isKeyLine_written writable valid)]
    exact List.mem_filter.mpr ⟨member, by simp [other]⟩
  exact (List.mem_filter.mp kept).1

/-- A second edit changes nothing exactly where no other line it reads ends in a return. -/
theorem written_again_iff :
    writeKeyIn (some (writeKeyIn (some file) slot.key (slot.kind.print value))) slot.key
        (slot.kind.print value) = writeKeyIn (some file) slot.key (slot.kind.print value) ↔
      ∀ line ∈ lines (startText file), isKeyLine slot.key line = false →
        stripReturn line = line := by
  have start : lines (startText (utf8 ((editedLines slot value file).flatMap (· ++ ['\n'])))) =
      (editedLines slot value file).map stripReturn := by
    rw [startText, decode_utf8, Option.getD_some, lines_edited writable valid]
  have again : editedLines slot value
      (utf8 ((editedLines slot value file).flatMap (· ++ ['\n']))) =
      (editedLines slot value file).map stripReturn := by
    rw [editedLines, start,
      ← map_rewrite (isKeyLine_stripReturn slot) (stripReturn_written valid)]
    exact congrArg (List.map stripReturn)
      (rewrite_rewrite (isKeyLine_written writable valid) (lines (startText file)))
  have free := editedLines_free writable valid file
  have freeAgain : ∀ line ∈ (editedLines slot value file).map stripReturn, '\n' ∉ line := by
    intro line member
    rcases List.mem_map.mp member with ⟨old, listed, rfl⟩
    exact fun inside => free old listed ((stripReturn_sublist old).subset inside)
  rw [writeKeyIn_eq, writeKeyIn_eq, again, utf8_injective.eq_iff]
  constructor
  · intro same line member other
    have lists : (editedLines slot value file).map stripReturn = editedLines slot value file := by
      rw [← pieces_flatMap freeAgain, same, pieces_flatMap free]
    exact map_eq_self_iff.mp lists line (otherLines_mem_edited writable valid file member other)
  · intro fixed
    have lists : (editedLines slot value file).map stripReturn = editedLines slot value file := by
      apply map_eq_self_iff.mpr
      intro line member
      rcases mem_rewrite member with rfl | ⟨old, other⟩
      · exact stripReturn_written valid
      · exact fixed line old other
    rw [lists]

end Edit

/-- The lines of a file that the reader gives back as they are. -/
def Tidy (key : Text) (file : List UInt8) : Prop :=
  if (decode file).isSome then ∀ line ∈ otherLines key file, line.getLast? ≠ some 0x0D
  else otherLines key file = [utf8 fileHeader]

/-- The reader gives the other pieces back exactly where none of them ends in a return. -/
theorem pieces_fixed_iff (slot : Slot) (text : Text) :
    (∀ piece ∈ pieces '\n' text, isKeyLine slot.key piece = false → stripReturn piece = piece) ↔
      ((lines text).filter fun line => !isKeyLine slot.key line) =
          ((pieces '\n' text).filter fun line => !isKeyLine slot.key line) ∧
        ∀ line ∈ lines text, isKeyLine slot.key line = false → stripReturn line = line := by
  constructor
  · intro fixed
    have same : ((lines text).filter fun line => !isKeyLine slot.key line) =
        ((pieces '\n' text).filter fun line => !isKeyLine slot.key line) := by
      rcases lines_eq_pieces_or text with ⟨front, last, whole, stripped, -⟩
      rw [whole] at fixed ⊢
      rw [stripped, List.filter_append, List.filter_append, List.filter_map]
      have keys : ((fun line => !isKeyLine slot.key line) ∘ stripReturn) =
          fun line => !isKeyLine slot.key line := by
        funext line
        rw [Function.comp_apply, isKeyLine_stripReturn]
      have fixedFront : (front.filter fun line => !isKeyLine slot.key line).map stripReturn =
          front.filter fun line => !isKeyLine slot.key line := by
        apply map_eq_self_iff.mpr
        intro piece member
        rcases List.mem_filter.mp member with ⟨listed, other⟩
        exact fixed piece (List.mem_append_left last listed) (by simpa using other)
      rw [keys, fixedFront]
    refine ⟨same, ?_⟩
    intro line member other
    have kept : line ∈ (lines text).filter fun line => !isKeyLine slot.key line :=
      List.mem_filter.mpr ⟨member, by simp [other]⟩
    rw [same] at kept
    exact fixed line (List.mem_filter.mp kept).1 other
  · rintro ⟨same, fixed⟩ piece member other
    have kept : piece ∈ (pieces '\n' text).filter fun line => !isKeyLine slot.key line :=
      List.mem_filter.mpr ⟨member, by simp [other]⟩
    rw [← same] at kept
    exact fixed piece (List.mem_filter.mp kept).1 other

theorem tidy_utf8_iff (slot : Slot) (text : Text) :
    Tidy slot.key (utf8 text) ↔
      ∀ piece ∈ pieces '\n' text, isKeyLine slot.key piece = false →
        stripReturn piece = piece := by
  rw [Tidy, decode_utf8, Option.isSome_some, if_pos rfl, otherLines_utf8]
  constructor
  · intro tidy piece member other
    apply (getLast?_utf8 piece).mp
    exact tidy (utf8 piece)
      (List.mem_map_of_mem (List.mem_filter.mpr ⟨member, by simp [other]⟩))
  · intro fixed line member
    rcases List.mem_map.mp member with ⟨piece, kept, rfl⟩
    rcases List.mem_filter.mp kept with ⟨listed, other⟩
    exact (getLast?_utf8 piece).mpr (fixed piece listed (by simpa using other))

theorem tidy_iff (slot : Slot) (file : List UInt8) :
    Tidy slot.key file ↔
      ((lines (startText file)).filter fun line => !isKeyLine slot.key line).map utf8 =
          otherLines slot.key file ∧
        ∀ line ∈ lines (startText file), isKeyLine slot.key line = false →
          stripReturn line = line := by
  cases decoded : decode file with
  | none =>
      have header : stripReturn fileHeader = fileHeader := by decide
      have only : [fileHeader].filter (fun line => !isKeyLine slot.key line) = [fileHeader] :=
        List.filter_cons_of_pos (by rw [isKeyLine_fileHeader]; rfl)
      have bare : Tidy slot.key file ↔ otherLines slot.key file = [utf8 fileHeader] := by
        rw [Tidy, decoded, Option.isSome_none, if_neg Bool.false_ne_true]
      have fixed : ∀ line ∈ [fileHeader], isKeyLine slot.key line = false →
          stripReturn line = line := by
        intro line member _
        rw [List.mem_singleton.mp member, header]
      rw [bare, startText, decoded, Option.getD_none, lines_fileHeader, only, and_iff_left fixed,
        eq_comm]
      rfl
  | some text =>
      have bytes := decode_eq_some_iff.mp decoded
      subst bytes
      have injective : Function.Injective (List.map utf8) :=
        List.map_injective_iff.mpr utf8_injective
      rw [tidy_utf8_iff, pieces_fixed_iff, startText, decode_utf8, Option.getD_some,
        otherLines_utf8, injective.eq_iff]

namespace Call

theorem key_eq {call : Call} {assignment : Assignment}
    (sets : call.assignment? = some assignment) : call.key = assignment.slot.key := by
  cases call
  case effectGain name percent =>
    rcases Option.map_eq_some_iff.mp sets with ⟨id, known, rfl⟩
    exact congrArg ("effect_".toList ++ ·) (fromKey_eq_some known).symm
  all_goals
    cases sets
    rfl

theorem run_eq {call : Call} {assignment : Assignment} {before after : List UInt8}
    (sets : call.assignment? = some assignment)
    (accepted : call.run (some before) = .ok (some after)) (file : List UInt8) :
    call.run (some file) =
      .ok (some (writeKeyIn (some file) assignment.slot.key
        (assignment.slot.kind.print assignment.value))) := by
  cases call
  case screenTemplate template =>
    cases sets
    simp only [run, setScreenTemplateIn] at accepted ⊢
    split_ifs at accepted with refused
    rw [if_neg refused]
    rfl
  case effectGain name percent =>
    rcases Option.map_eq_some_iff.mp sets with ⟨id, known, rfl⟩
    have listed : (effectByKey name).isNone = false := by
      rw [← Option.not_isSome, effectByKey_isSome, known]
      rfl
    simp only [run, setEffectGainIn, listed, Bool.false_eq_true, ↓reduceIte,
      Slot.key_effectGain, fromKey_eq_some known]
    rfl
  all_goals
    cases sets
    rfl

theorem run_of_unknown {call : Call} (unknown : call.assignment? = none) (file : List UInt8) :
    call.run (some file) = .ok (some file) := by
  cases call
  case effectGain name percent =>
    have missing : (effectByKey name).isNone = true := by
      rw [← Option.not_isSome, effectByKey_isSome, Option.map_eq_none_iff.mp unknown]
      rfl
    simp only [run, setEffectGainIn, missing, ↓reduceIte]
  all_goals exact absurd unknown.symm (Option.some_ne_none _).symm

theorem fits_iff {call : Call} {assignment : Assignment} {before after : List UInt8}
    (sets : call.assignment? = some assignment)
    (accepted : call.run (some before) = .ok (some after)) :
    call.Fits ↔ assignment.slot.Writable ∧ assignment.slot.kind.Valid assignment.value := by
  cases call
  case intensity percent =>
    cases sets
    exact ⟨fun _ => ⟨trivial, Nat.min_le_right _ _⟩, fun _ => trivial⟩
  case pitch percent =>
    cases sets
    exact ⟨fun _ => ⟨trivial, Nat.le_max_left _ _,
      Nat.max_le.mpr ⟨by decide, Nat.min_le_right _ _⟩⟩, fun _ => trivial⟩
  case screenTemplate template =>
    cases sets
    simp only [run, setScreenTemplateIn] at accepted
    split_ifs at accepted with refused
    rw [not_or, not_lt] at refused
    exact ⟨fun free => ⟨trivial, trim_solid template, refused.1, refused.2, free⟩,
      fun valid => valid.2.2.2.2⟩
  case effectGain name percent =>
    rcases Option.map_eq_some_iff.mp sets with ⟨id, -, rfl⟩
    exact ⟨fun _ => ⟨trivial, Nat.min_le_right _ _⟩, fun _ => trivial⟩
  case gameEnabled id on =>
    cases sets
    exact ⟨fun fits => ⟨fits, trivial⟩, fun valid => valid.1⟩
  case gameIntensity id percent =>
    cases sets
    exact ⟨fun fits => ⟨fits, Nat.min_le_right _ _⟩, fun valid => valid.1⟩
  all_goals
    cases sets
    exact ⟨fun _ => ⟨trivial, trivial⟩, fun _ => trivial⟩

end Call

theorem savable_loadFrom_file (file : List UInt8) :
    (TfSim.Config.loadFrom (some file)).Savable := by
  rw [loadFrom_startText]
  exact savable_foldl (lineFeed_not_mem_lines _) savable_default

/-- What a file can be loaded as was written by a call whose strings fit into a line. -/
theorem fits_of_savable {call : Call} {assignment : Assignment} {before after : List UInt8}
    (sets : call.assignment? = some assignment)
    (accepted : call.run (some before) = .ok (some after)) {config : TfSim.Config}
    (savable : (assignment.apply config).Savable) : call.Fits := by
  cases call
  case screenTemplate template =>
    cases sets
    exact (savable.valid .screenTemplate).2.2.2
  case gameEnabled id on =>
    cases sets
    exact savable.games id _ (by
      simp only [Assignment.apply, Slot.set, SortedMap.get?_modify, ↓reduceIte]
      rfl)
  case gameIntensity id percent =>
    cases sets
    exact savable.games id _ (by
      simp only [Assignment.apply, Slot.set, SortedMap.get?_modify, ↓reduceIte]
      rfl)
  all_goals trivial

/-- An edit touches one key exactly where its strings fit into a line and the file is tidy. -/
theorem edit_touches_one_key_iff {call : Call} {before after : List UInt8}
    (accepted : call.run (some before) = .ok (some after)) :
    TouchesOneKey call before after ↔
      call.assignment? = none ∨ call.Fits ∧ Tidy call.key before := by
  cases sets : call.assignment? with
  | none =>
      have unchanged := call.run_of_unknown sets
      have same : after = before := by
        have first := unchanged before
        rw [accepted, Except.ok.injEq, Option.some.injEq] at first
        exact first
      refine ⟨fun _ => .inl rfl, fun _ => ?_⟩
      subst same
      constructor
      · rfl
      · rw [sets, Option.elim_none]
      · exact accepted
  | some assignment =>
      have run := call.run_eq sets accepted
      have written : after = writeKeyIn (some before) assignment.slot.key
          (assignment.slot.kind.print assignment.value) := by
        have first := run before
        rw [accepted, Except.ok.injEq, Option.some.injEq] at first
        exact first
      rw [or_iff_right (Option.some_ne_none _), call.key_eq sets]
      constructor
      · rintro ⟨others, setting, again⟩
        rw [sets, Option.elim_some] at setting
        have fits : call.Fits :=
          fits_of_savable sets accepted (setting ▸ savable_loadFrom_file after)
        rcases (call.fits_iff sets accepted).mp fits with ⟨writable, valid⟩
        refine ⟨fits, (tidy_iff assignment.slot before).mpr ⟨?_, ?_⟩⟩
        · rw [← otherLines_edited writable valid before, ← written, ← call.key_eq sets]
          exact others
        · apply (written_again_iff writable valid before).mp
          rw [run after, Except.ok.injEq, Option.some.injEq] at again
          rwa [← written]
      · rintro ⟨fits, tidy⟩
        rcases (call.fits_iff sets accepted).mp fits with ⟨writable, valid⟩
        rcases (tidy_iff assignment.slot before).mp tidy with ⟨others, fixed⟩
        constructor
        · rw [call.key_eq sets, ← others, written, otherLines_edited writable valid before]
        · rw [sets, Option.elim_some, written, loadFrom_edited writable valid before]
          rfl
        · rw [run after, written, (written_again_iff writable valid before).mpr fixed]

theorem tidy_file_is_edited_in_one_place :
    TouchesOneKey (.enabled false) (utf8 "# rig\nenabled=1\nport.pcars=5607\n".toList)
      (writeKeyIn (some (utf8 "# rig\nenabled=1\nport.pcars=5607\n".toList)) "enabled".toList
        ['0']) := by
  apply (edit_touches_one_key_iff rfl).mpr
  exact .inr ⟨trivial, (tidy_utf8_iff .enabled _).mpr (by decide)⟩

/-- The template `G`, a line feed and `enabled=0` is accepted and switches the daemon off. -/
theorem template_with_line_feed_sets_another_key :
    (Call.screenTemplate "G\nenabled=0".toList).run (some (utf8 "intensity=40\n".toList)) =
        .ok (some (writeKeyIn (some (utf8 "intensity=40\n".toList)) "screen.template".toList
          "G\nenabled=0".toList)) ∧
      ¬TouchesOneKey (.screenTemplate "G\nenabled=0".toList) (utf8 "intensity=40\n".toList)
        (writeKeyIn (some (utf8 "intensity=40\n".toList)) "screen.template".toList
          "G\nenabled=0".toList) := by
  have trimmed : trim "G\nenabled=0".toList = "G\nenabled=0".toList := by decide
  have accepted : (Call.screenTemplate "G\nenabled=0".toList).run
      (some (utf8 "intensity=40\n".toList)) =
      .ok (some (writeKeyIn (some (utf8 "intensity=40\n".toList)) "screen.template".toList
        "G\nenabled=0".toList)) := by
    simp only [Call.run, setScreenTemplateIn, trimmed]
    exact if_neg (by decide)
  refine ⟨accepted, fun touches => ?_⟩
  have setting := touches.setting
  have fits : (Call.screenTemplate "G\nenabled=0".toList).Fits :=
    fits_of_savable rfl accepted (setting ▸ savable_loadFrom_file _)
  rw [Call.Fits, trimmed] at fits
  exact absurd fits (by decide)

end TrueForce.TfSim.FrontEnd
