import TrueForce.Foundation.RustText
import TrueForce.Foundation.Splitting
import Mathlib.Tactic.Common

/-!
# Rust text files

Reading a file as text, taking its lines, trimming them, and numbers as text.
-/

namespace TrueForce.RustText

open Splitting

/-- `String::from_utf8`. -/
def decode (bytes : List UInt8) : Option Text := bytes.toByteArray.utf8Decode?.map Array.toList

/-- `fs::read_to_string`, of a file that may not be there. -/
def readToString (file : Option (List UInt8)) : Option Text := file.bind decode

/-- `str::parse` at an unsigned type of `bits` bits. -/
def parseUnsigned (bits : ℕ) (text : Text) : Option ℕ :=
  let number :=
    match text with
    | '+' :: rest => rest
    | text => text
  if number = [] then none else (decimal 0 number).filter (· < 2 ^ bits)

def stripReturn (line : Text) : Text := (['\r'].isSuffixOf? line).getD line

/-- A line feed at the end, with a carriage return in front of it, is not part of a line. -/
def stripLineEnding (piece : Text) : Text :=
  match ['\n'].isSuffixOf? piece with
  | none => piece
  | some line => stripReturn line

/-- `str::lines`. -/
def lines (text : Text) : List Text := (splitInclusive '\n' text).map stripLineEnding

def trimStart (text : Text) : Text := text.dropWhile isWhitespace

/-- `str::to_ascii_lowercase`. -/
def toAsciiLowercase (text : Text) : Text :=
  text.map fun char =>
    if 'A' ≤ char ∧ char ≤ 'Z' then Char.ofNat (char.toNat + 32) else char

theorem decode_eq_some_iff {bytes : List UInt8} {text : Text} :
    decode bytes = some text ↔ bytes = utf8 text := by
  have encoded : ∀ text : Text, (utf8 text).toByteArray = text.utf8Encode := fun text => rfl
  simp only [decode, Option.map_eq_some_iff]
  constructor
  · rintro ⟨chars, decoded, rfl⟩
    have valid : bytes.toByteArray.utf8Decode?.isSome := by rw [decoded]; rfl
    rcases ByteArray.isSome_utf8Decode?_iff.mp valid with ⟨text, encodes⟩
    rw [encodes, List.utf8Decode?_utf8Encode, Option.some.injEq] at decoded
    rw [← decoded, ← List.toByteArray_inj, encoded, List.toList_toArray]
    exact encodes
  · rintro rfl
    refine ⟨text.toArray, ?_, List.toList_toArray⟩
    rw [encoded, List.utf8Decode?_utf8Encode]

@[simp]
theorem decode_utf8 (text : Text) : decode (utf8 text) = some text :=
  decode_eq_some_iff.mpr rfl

@[simp]
theorem readToString_utf8 (text : Text) : readToString (some (utf8 text)) = some text :=
  decode_utf8 text

theorem utf8_injective : Function.Injective utf8 := by
  intro first second same
  have decoded := congrArg decode same
  rwa [decode_utf8, decode_utf8, Option.some.injEq] at decoded

/-- Nothing at either end that `trim` would take. -/
def Solid (text : Text) : Prop :=
  (∀ char, text.head? = some char → isWhitespace char = false) ∧
    ∀ char, text.getLast? = some char → isWhitespace char = false

def Blank (text : Text) : Prop := ∀ char ∈ text, isWhitespace char = true

theorem trimEnd_append_blank {text blank : Text} (spaces : Blank blank) :
    trimEnd (text ++ blank) = trimEnd text := by
  simp only [trimEnd, List.rdropWhile, List.reverse_append]
  rw [List.dropWhile_append_of_pos]
  intro char member
  exact spaces char (List.mem_reverse.mp member)

/-- What `trim` leaves is the only solid text between blanks. -/
theorem trim_eq_of_solid {before core after : Text} (blankBefore : Blank before)
    (blankAfter : Blank after) (solid : Solid core) : trim (before ++ core ++ after) = core := by
  rw [trim, trimEnd_append_blank blankAfter]
  cases core with
  | nil =>
      rw [List.append_nil, trimEnd, List.rdropWhile_eq_nil_iff.mpr blankBefore]
      rfl
  | cons first rest =>
      have ends : trimEnd (before ++ first :: rest) = before ++ first :: rest := by
        apply trimEnd_eq_self_iff.mpr
        intro char last
        apply solid.2
        rwa [List.getLast?_append_cons] at last
      rw [ends, List.dropWhile_append_of_pos blankBefore, List.dropWhile_cons_of_neg]
      rw [solid.1 first rfl]
      exact Bool.false_ne_true

theorem trim_spec (text : Text) :
    ∃ before after, text = before ++ trim text ++ after ∧ Blank before ∧ Blank after ∧
      Solid (trim text) := by
  refine ⟨(trimEnd text).takeWhile isWhitespace, text.rtakeWhile isWhitespace, ?_, ?_, ?_, ?_⟩
  · rw [trim, List.takeWhile_append_dropWhile]
    exact (List.rdropWhile_append_rtakeWhile).symm
  · exact fun char member => List.mem_takeWhile_imp member
  · exact fun char member => List.mem_rtakeWhile_imp member
  · constructor
    · intro char first
      have found := List.head?_dropWhile_not isWhitespace (trimEnd text)
      rw [← trim, first] at found
      simpa using found
    · intro char last
      have suffix : trim text <:+ trimEnd text := List.dropWhile_suffix isWhitespace
      rcases List.getLast?_eq_some_iff.mp last with ⟨front, trimmed⟩
      rcases suffix with ⟨spaces, whole⟩
      apply trimEnd_eq_self_iff.mp (List.rdropWhile_idempotent isWhitespace text)
      rw [← trimEnd, ← whole, trimmed, ← List.append_assoc, List.getLast?_concat]

theorem trim_solid (text : Text) : Solid (trim text) := by
  rcases trim_spec text with ⟨_, _, _, _, _, solid⟩
  exact solid

theorem Blank.nil : Blank [] := fun _ member => absurd member List.not_mem_nil

theorem trim_eq_self_iff {text : Text} : trim text = text ↔ Solid text := by
  constructor
  · intro trimmed
    rw [← trimmed]
    exact trim_solid text
  · intro solid
    have unchanged := trim_eq_of_solid Blank.nil Blank.nil solid
    rwa [List.nil_append, List.append_nil] at unchanged

@[simp]
theorem trim_trim (text : Text) : trim (trim text) = trim text :=
  trim_eq_self_iff.mpr (trim_solid text)

theorem trim_append_blank {text blank : Text} (spaces : Blank blank) :
    trim (text ++ blank) = trim text := by
  rw [trim, trimEnd_append_blank spaces, ← trim]

theorem trim_blank_append {text blank : Text} (spaces : Blank blank) :
    trim (blank ++ text) = trim text := by
  rcases trim_spec text with ⟨before, after, whole, blankBefore, blankAfter, solid⟩
  have spaced : Blank (blank ++ before) := by
    intro char member
    exact (List.mem_append.mp member).elim (spaces char) (blankBefore char)
  rw [whole, ← List.append_assoc, ← List.append_assoc, trim_eq_of_solid spaced blankAfter solid,
    trim_eq_of_solid blankBefore blankAfter solid]

theorem head?_trim_cons {char : Char} (solid : isWhitespace char = false) (rest : Text) :
    (trim (char :: rest)).head? = some char := by
  rcases trim_spec (char :: rest) with ⟨before, after, whole, blankBefore, blankAfter, -⟩
  cases before with
  | cons first more =>
      rw [List.cons_append, List.cons_append, List.cons.injEq] at whole
      rw [whole.1, blankBefore first List.mem_cons_self] at solid
      exact absurd solid.symm Bool.false_ne_true
  | nil =>
      rw [List.nil_append] at whole
      cases core : trim (char :: rest) with
      | nil =>
          rw [core, List.nil_append] at whole
          rw [← whole] at blankAfter
          rw [blankAfter char List.mem_cons_self] at solid
          exact absurd solid.symm Bool.false_ne_true
      | cons first more =>
          rw [core, List.cons_append, List.cons.injEq] at whole
          rw [List.head?_cons, whole.1]

theorem trim_sublist (text : Text) : (trim text).Sublist text :=
  (List.dropWhile_sublist isWhitespace).trans (List.rdropWhile_prefix isWhitespace text).sublist

/-- A separator that is no space splits a line where it splits the trimmed line. -/
theorem splitOnce_trim {separator : Char} (solid : isWhitespace separator = false) (text : Text) :
    (splitOnce separator (trim text)).map (fun parts => (trim parts.1, trim parts.2)) =
      (splitOnce separator text).map fun parts => (trim parts.1, trim parts.2) := by
  rcases trim_spec text with ⟨before, after, whole, blankBefore, blankAfter, -⟩
  have absent : ∀ blank : Text, Blank blank → separator ∉ blank := by
    intro blank spaces member
    exact absurd (solid.symm.trans (spaces separator member)) Bool.false_ne_true
  cases found : splitOnce separator (trim text) with
  | none =>
      have missing : separator ∉ text := by
        rw [whole]
        simp [absent before blankBefore, absent after blankAfter, splitOnce_eq_none_iff.mp found]
      rw [splitOnce_eq_none_iff.mpr missing]
  | some parts =>
      rcases splitOnce_eq_some_iff.mp found with ⟨free, shape⟩
      have cut : splitOnce separator text = some (before ++ parts.1, parts.2 ++ after) := by
        apply splitOnce_eq_some_iff.mpr
        refine ⟨by simp [absent before blankBefore, free], ?_⟩
        rw [whole, shape]
        simp
      rw [cut]
      simp only [Option.map_some, trim_blank_append blankBefore, trim_append_blank blankAfter]

theorem stripReturn_return (line : Text) : stripReturn (line ++ ['\r']) = line := by
  have suffix : ['\r'].isSuffixOf? (line ++ ['\r']) = some line :=
    List.isSuffixOf?_eq_some_iff_append_eq.mpr rfl
  rw [stripReturn, suffix, Option.getD_some]

theorem stripReturn_eq_self_iff {line : Text} :
    stripReturn line = line ↔ line.getLast? ≠ some '\r' := by
  constructor
  · intro unchanged last
    rcases List.getLast?_eq_some_iff.mp last with ⟨front, rfl⟩
    rw [stripReturn_return] at unchanged
    simpa using congrArg List.length unchanged
  · intro other
    have absent : ['\r'].isSuffixOf? line = none := by
      rw [Option.eq_none_iff_forall_ne_some]
      intro front found
      rw [← List.isSuffixOf?_eq_some_iff_append_eq.mp found, List.getLast?_concat] at other
      exact other rfl
    rw [stripReturn, absent, Option.getD_none]

theorem stripReturn_cases (line : Text) :
    stripReturn line = line ∨ line = stripReturn line ++ ['\r'] := by
  by_cases last : line.getLast? = some '\r'
  · right
    rcases List.getLast?_eq_some_iff.mp last with ⟨front, rfl⟩
    rw [stripReturn_return]
  · exact .inl (stripReturn_eq_self_iff.mpr last)

theorem stripReturn_sublist (line : Text) : (stripReturn line).Sublist line := by
  rcases stripReturn_cases line with same | returned
  · rw [same]
  · exact List.IsPrefix.sublist ⟨['\r'], returned.symm⟩

theorem blank_return : Blank ['\r'] := by
  intro char member
  rw [List.mem_singleton.mp member]
  rfl

@[simp]
theorem trim_stripReturn (line : Text) : trim (stripReturn line) = trim line := by
  rcases stripReturn_cases line with same | returned
  · rw [same]
  · have trimmed : trim (stripReturn line ++ ['\r']) = trim (stripReturn line) :=
      trim_append_blank blank_return
    rw [← returned] at trimmed
    exact trimmed.symm

@[simp]
theorem lines_nil : lines [] = [] := rfl

theorem stripLineEnding_terminated (line : Text) :
    stripLineEnding (line ++ ['\n']) = stripReturn line := by
  have suffix : ['\n'].isSuffixOf? (line ++ ['\n']) = some line :=
    List.isSuffixOf?_eq_some_iff_append_eq.mpr rfl
  simp only [stripLineEnding, suffix]

theorem stripLineEnding_unterminated {line : Text} (free : '\n' ∉ line) :
    stripLineEnding line = line := by
  have absent : ['\n'].isSuffixOf? line = none := by
    rw [Option.eq_none_iff_forall_ne_some]
    intro front found
    rw [← List.isSuffixOf?_eq_some_iff_append_eq.mp found] at free
    simp at free
  simp only [stripLineEnding, absent]

theorem lines_terminated {line : Text} (free : '\n' ∉ line) (rest : Text) :
    lines (line ++ '\n' :: rest) = stripReturn line :: lines rest := by
  rw [lines, splitInclusive_terminated free, List.map_cons, stripLineEnding_terminated, ← lines]

theorem lines_unterminated {line : Text} (free : '\n' ∉ line) (nonempty : line ≠ []) :
    lines line = [line] := by
  rw [lines, splitInclusive_unterminated free nonempty, List.map_singleton,
    stripLineEnding_unterminated free]

theorem lines_flatMap {texts : List Text} (free : ∀ text ∈ texts, '\n' ∉ text) :
    lines (texts.flatMap (· ++ ['\n'])) = texts.map stripReturn := by
  rw [lines, splitInclusive_flatMap free, List.map_map]
  exact List.map_congr_left fun text _ => stripLineEnding_terminated text

theorem lineFeed_not_mem_lines (text : Text) : ∀ line ∈ lines text, '\n' ∉ line := by
  induction text using pieces_induction '\n' with
  | empty =>
      intro line member
      exact absurd member List.not_mem_nil
  | last piece free nonempty =>
      intro line member
      rw [lines_unterminated free nonempty, List.mem_singleton] at member
      rwa [member]
  | terminated piece rest free ih =>
      intro line member
      rw [lines_terminated free, List.mem_cons] at member
      rcases member with rfl | member
      · exact fun inside => free ((stripReturn_sublist piece).subset inside)
      · exact ih line member

theorem parseUnsigned_lt {bits : ℕ} {text : Text} {value : ℕ}
    (parsed : parseUnsigned bits text = some value) : value < 2 ^ bits := by
  simp only [parseUnsigned] at parsed
  split_ifs at parsed
  simpa using (Option.filter_eq_some_iff.mp parsed).2

theorem isDigit_iff {char : Char} : char.isDigit = true ↔ '0' ≤ char ∧ char ≤ '9' := by
  rw [Char.isDigit_iff_toNat]
  rfl

theorem isWhitespace_of_isDigit {char : Char} (digit : char.isDigit = true) :
    isWhitespace char = false := by
  rcases Char.isDigit_iff_toNat.mp digit with ⟨low, high⟩
  have zero : '0'.toNat = 48 := rfl
  have nine : '9'.toNat = 57 := rfl
  simp only [isWhitespace, Bool.or_eq_false_iff, Bool.and_eq_false_iff, decide_eq_false_iff_not,
    beq_eq_false_iff_ne]
  omega

theorem decimal_of_isDigit {text : Text} (digits : ∀ char ∈ text, char.isDigit = true)
    (value : ℕ) : decimal value text = some (Nat.ofDigitChars 10 text value) := by
  induction text generalizing value with
  | nil => rw [decimal, Nat.ofDigitChars_nil]
  | cons char rest ih =>
      have digit : asciiDigit char = some (char.toNat - '0'.toNat) :=
        if_pos (isDigit_iff.mp (digits char (by simp)))
      rw [decimal, digit, Option.bind_some, ih (fun other member => digits other (by simp [member])),
        Nat.ofDigitChars_cons, Nat.mul_comm]

theorem toDigits_isDigit (value : ℕ) : ∀ char ∈ Nat.toDigits 10 value, char.isDigit = true :=
  fun _ member => Nat.isDigit_of_mem_toDigits (by decide) (by decide) member

/-- A number printed in decimal is read back where it fits. -/
theorem parseUnsigned_toDigits {bits value : ℕ} (fits : value < 2 ^ bits) :
    parseUnsigned bits (Nat.toDigits 10 value) = some value := by
  have digits := toDigits_isDigit value
  have nonempty : Nat.toDigits 10 value ≠ [] := Nat.toDigits_ne_nil
  have unsigned : parseUnsigned bits (Nat.toDigits 10 value) =
      (decimal 0 (Nat.toDigits 10 value)).filter (· < 2 ^ bits) := by
    simp only [parseUnsigned]
    split
    · rename_i rest plus
      rw [plus] at digits
      exact absurd (digits '+' (by simp)) Bool.false_ne_true
    · rw [if_neg nonempty]
  rw [unsigned, decimal_of_isDigit digits, Nat.ofDigitChars_ten_toDigits]
  simp [fits]

theorem toDigits_solid (value : ℕ) : Solid (Nat.toDigits 10 value) := by
  constructor
  · intro char first
    exact isWhitespace_of_isDigit (toDigits_isDigit value char (List.mem_of_mem_head? first))
  · intro char last
    exact isWhitespace_of_isDigit (toDigits_isDigit value char (List.mem_of_getLast? last))

/-- The pieces between line feeds, a carriage return belonging to its piece. -/
def pieces {α : Type} [DecidableEq α] (lineFeed : α) (list : List α) : List (List α) :=
  (splitInclusive lineFeed list).map fun piece => ([lineFeed].isSuffixOf? piece).getD piece

section Pieces

variable {α : Type} [DecidableEq α] {lineFeed : α} {piece : List α}

theorem pieces_terminated (free : lineFeed ∉ piece) (rest : List α) :
    pieces lineFeed (piece ++ lineFeed :: rest) = piece :: pieces lineFeed rest := by
  have suffix : [lineFeed].isSuffixOf? (piece ++ [lineFeed]) = some piece :=
    List.isSuffixOf?_eq_some_iff_append_eq.mpr rfl
  rw [pieces, splitInclusive_terminated free, List.map_cons, suffix, Option.getD_some, ← pieces]

theorem pieces_unterminated (free : lineFeed ∉ piece) (nonempty : piece ≠ []) :
    pieces lineFeed piece = [piece] := by
  have absent : [lineFeed].isSuffixOf? piece = none := by
    rw [Option.eq_none_iff_forall_ne_some]
    intro front found
    rw [← List.isSuffixOf?_eq_some_iff_append_eq.mp found] at free
    simp at free
  rw [pieces, splitInclusive_unterminated free nonempty, List.map_singleton, absent,
    Option.getD_none]

theorem pieces_flatMap {list : List (List α)} (free : ∀ piece ∈ list, lineFeed ∉ piece) :
    pieces lineFeed (list.flatMap (· ++ [lineFeed])) = list := by
  induction list with
  | nil => rfl
  | cons piece rest ih =>
      rw [List.flatMap_cons, List.append_assoc, List.singleton_append,
        pieces_terminated (free piece List.mem_cons_self),
        ih fun other member => free other (List.mem_cons_of_mem piece member)]

end Pieces

theorem utf8_lineFeed : String.utf8EncodeChar '\n' = [0x0A] := utf8EncodeChar_ascii (by decide)

/-- The bytes between line feeds are those of the text between line feeds. -/
theorem pieces_utf8 (text : Text) : pieces 0x0A (utf8 text) = (pieces '\n' text).map utf8 := by
  have free : ∀ piece : Text, '\n' ∉ piece → (0x0A : UInt8) ∉ utf8 piece :=
    fun piece absent member => absent (mem_of_mem_utf8 (by decide) member)
  induction text using pieces_induction '\n' with
  | empty => rfl
  | last piece absent nonempty =>
      have some : utf8 piece ≠ [] := fun empty => nonempty (utf8_injective empty)
      rw [pieces_unterminated absent nonempty, pieces_unterminated (free piece absent) some]
      rfl
  | terminated piece rest absent ih =>
      rw [utf8_append, utf8_cons, utf8_lineFeed, List.singleton_append,
        pieces_terminated (free piece absent), pieces_terminated absent, ih, List.map_cons]

theorem lines_eq_pieces_or (text : Text) :
    ∃ front last, pieces '\n' text = front ++ last ∧
      lines text = front.map stripReturn ++ last ∧ last.length ≤ 1 := by
  induction text using pieces_induction '\n' with
  | empty => exact ⟨[], [], rfl, rfl, Nat.zero_le 1⟩
  | last piece absent nonempty =>
      exact ⟨[], [piece], pieces_unterminated absent nonempty,
        lines_unterminated absent nonempty, Nat.le_refl 1⟩
  | terminated piece rest absent ih =>
      rcases ih with ⟨front, last, whole, stripped, short⟩
      refine ⟨piece :: front, last, ?_, ?_, short⟩
      · rw [pieces_terminated absent, whole]
        rfl
      · rw [lines_terminated absent, stripped]
        rfl

end TrueForce.RustText
