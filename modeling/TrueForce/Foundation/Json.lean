import TrueForce.Foundation.TextFile

/-!
# Indented JSON

JSON values and the way standard printers put them on lines: one member, item or
bracket to a line, with the brackets of an empty value on the line of that value.
The printers differ in the indentation, in the escapes for characters beyond ASCII and
in a line feed at the end.
-/

namespace TrueForce.Json

open RustText

/-- What holds of the characters of a text is decided by looking at these. -/
instance decidableForallChar (text : Text) (condition : Char → Prop) [DecidablePred condition] :
    Decidable (∀ char ∈ text, condition char) :=
  List.decidableBAll condition text

def numeralChars : Text := "+-.0123456789Ee".toList

/-- A number as it is spelled. -/
structure Numeral where
  text : Text
  spelled : ∀ char ∈ text, char ∈ numeralChars
  nonempty : text ≠ []

inductive Scalar where
  | null
  | bool (value : Bool)
  | number (value : Numeral)

namespace Scalar

def text : Scalar → Text
  | .null => "null".toList
  | .bool true => "true".toList
  | .bool false => "false".toList
  | .number value => value.text

def chars : Text := numeralChars ++ "nulltruefalse".toList

theorem text_chars (value : Scalar) : ∀ char ∈ value.text, char ∈ chars := by
  cases value with
  | null => decide
  | bool value => cases value <;> decide
  | number value =>
      intro char known
      exact List.mem_append_left _ (value.spelled char known)

theorem text_ne_nil (value : Scalar) : value.text ≠ [] := by
  cases value with
  | null => decide
  | bool value => cases value <;> decide
  | number value => exact value.nonempty

end Scalar

inductive Value where
  | scalar (value : Scalar)
  | string (text : Text)
  | array (items : List Value)
  | object (members : List (Text × Value))

abbrev Member := Text × Value

namespace Value

mutual

/-- The member lists of the objects in a value. -/
def objects : Value → List (List Member)
  | .scalar _ => []
  | .string _ => []
  | .array items => itemObjects items
  | .object members => members :: memberObjects members

def itemObjects : List Value → List (List Member)
  | [] => []
  | item :: rest => item.objects ++ itemObjects rest

def memberObjects : List Member → List (List Member)
  | [] => []
  | (_, value) :: rest => value.objects ++ memberObjects rest

end

mutual

/-- The strings in a value, names and texts. -/
def texts : Value → List Text
  | .scalar _ => []
  | .string text => [text]
  | .array items => itemTexts items
  | .object members => memberTexts members

def itemTexts : List Value → List Text
  | [] => []
  | item :: rest => item.texts ++ itemTexts rest

def memberTexts : List Member → List Text
  | [] => []
  | (name, value) :: rest => name :: value.texts ++ memberTexts rest

end

/-- Induction on the values inside a value. -/
@[elab_as_elim]
theorem inside {motive : Value → Prop} (scalar : ∀ value, motive (.scalar value))
    (string : ∀ text, motive (.string text))
    (array : ∀ items : List Value, (∀ item ∈ items, motive item) → motive (.array items))
    (object : ∀ members : List Member, (∀ member ∈ members, motive member.2) →
      motive (.object members))
    (value : Value) : motive value :=
  @Value.rec motive (fun items => ∀ item ∈ items, motive item)
    (fun members => ∀ member ∈ members, motive member.2) (fun member => motive member.2)
    scalar string array object
    (fun _ member => absurd member List.not_mem_nil)
    (fun _ _ head tail item listed => (List.mem_cons.mp listed).elim (· ▸ head) (tail item))
    (fun _ member => absurd member List.not_mem_nil)
    (fun _ _ head tail member listed => (List.mem_cons.mp listed).elim (· ▸ head) (tail member))
    (fun _ _ value => value) value

theorem mem_itemObjects {items : List Value} {members : List Member} :
    members ∈ itemObjects items ↔ ∃ item ∈ items, members ∈ item.objects := by
  induction items with
  | nil => simp [itemObjects]
  | cons item items ih => simp only [itemObjects, List.mem_append, ih, List.exists_mem_cons_iff]

theorem mem_memberObjects {list members : List Member} :
    members ∈ memberObjects list ↔ ∃ member ∈ list, members ∈ member.2.objects := by
  induction list with
  | nil => simp [memberObjects]
  | cons member list ih =>
      simp only [memberObjects, List.mem_append, ih, List.exists_mem_cons_iff]

theorem mem_itemTexts {items : List Value} {text : Text} :
    text ∈ itemTexts items ↔ ∃ item ∈ items, text ∈ item.texts := by
  induction items with
  | nil => simp [itemTexts]
  | cons item items ih => simp only [itemTexts, List.mem_append, ih, List.exists_mem_cons_iff]

theorem mem_memberTexts {list : List Member} {text : Text} :
    text ∈ memberTexts list ↔ ∃ member ∈ list, text = member.1 ∨ text ∈ member.2.texts := by
  induction list with
  | nil => simp [memberTexts]
  | cons member list ih =>
      rw [List.exists_mem_cons_iff, ← ih, memberTexts, List.cons_append, List.mem_cons,
        List.mem_append, or_assoc]

end Value

/-- A value whose objects do not repeat a name. -/
structure Document where
  value : Value
  distinct : ∀ members ∈ value.objects, (members.map Prod.fst).Nodup

def hexDigits : Text := "0123456789abcdef".toList

/-- Four hexadecimal digits. -/
def hex4 (code : ℕ) : Text :=
  [code / 4096, code / 256, code / 16, code].map fun digit => hexDigits.getD (digit % 16) '0'

/-- An escape by number, in two halves beyond the basic plane. -/
def escapeCode (code : ℕ) : Text :=
  if code < 0x10000 then '\\' :: 'u' :: hex4 code
  else
    '\\' :: 'u' :: hex4 (0xD800 + (code - 0x10000) / 0x400) ++
      '\\' :: 'u' :: hex4 (0xDC00 + (code - 0x10000) % 0x400)

/-- A standard printer. -/
structure Style where
  /-- One level of indentation. -/
  unit : Text
  blank : ∀ char ∈ unit, char = ' ' ∨ char = '\t'
  /-- Characters beyond ASCII are escaped, and so is the delete character. -/
  asciiOnly : Bool
  /-- The last line ends in a line feed. -/
  terminated : Bool

namespace Style

def escape (style : Style) (char : Char) : Text :=
  if char = '"' then ['\\', '"']
  else if char = '\\' then ['\\', '\\']
  else if char = '\n' then ['\\', 'n']
  else if char = '\r' then ['\\', 'r']
  else if char = '\t' then ['\\', 't']
  else if char.toNat = 8 then ['\\', 'b']
  else if char.toNat = 12 then ['\\', 'f']
  else if char.toNat < 0x20 ∨ style.asciiOnly ∧ 0x7E < char.toNat then escapeCode char.toNat
  else [char]

def escaped (style : Style) (text : Text) : Text := text.flatMap style.escape

def quote (style : Style) (text : Text) : Text := '"' :: (style.escaped text ++ ['"'])

def indent (style : Style) (depth : ℕ) : Text := (List.replicate depth style.unit).flatten

def comma {α : Type} : List α → Text
  | [] => []
  | _ :: _ => [',']

mutual

/-- The lines of a value whose first line begins with `lead` and whose last ends with `tail`. -/
def lines (style : Style) (depth : ℕ) (lead tail : Text) : Value → List Text
  | .scalar value => [lead ++ value.text ++ tail]
  | .string text => [lead ++ style.quote text ++ tail]
  | .array items =>
      if items.isEmpty then [lead ++ ['[', ']'] ++ tail]
      else
        (lead ++ ['[']) :: style.itemLines (depth + 1) items ++
          [style.indent depth ++ [']'] ++ tail]
  | .object members =>
      if members.isEmpty then [lead ++ ['\x7b', '\x7d'] ++ tail]
      else
        (lead ++ ['\x7b']) :: style.memberLines (depth + 1) members ++
          [style.indent depth ++ ['\x7d'] ++ tail]

def itemLines (style : Style) (depth : ℕ) : List Value → List Text
  | [] => []
  | item :: rest =>
      style.lines depth (style.indent depth) (comma rest) item ++ style.itemLines depth rest

def memberLines (style : Style) (depth : ℕ) : List Member → List Text
  | [] => []
  | (name, value) :: rest =>
      style.lines depth (style.indent depth ++ style.quote name ++ [':', ' ']) (comma rest) value ++
        style.memberLines depth rest

end

def print (style : Style) (value : Value) : Text :=
  let text := ['\n'].intercalate (style.lines 0 [] [] value)
  if style.terminated then text ++ ['\n'] else text

/-- What stands behind the backslash of an escape, the quotation mark apart. -/
def escapeChars : Text := "\\nrtbfu0123456789abcdef".toList

theorem mem_escapeChars_of_mem_hex4 {code : ℕ} {char : Char} (digit : char ∈ hex4 code) :
    char ∈ escapeChars := by
  obtain ⟨number, -, rfl⟩ := List.mem_map.mp digit
  have fits : number % 16 < hexDigits.length := Nat.mod_lt _ (by decide)
  rw [List.getD_eq_getElem?_getD, List.getElem?_eq_getElem fits, Option.getD_some]
  have among : ∀ char ∈ hexDigits, char ∈ escapeChars := by decide
  exact among _ (List.getElem_mem fits)

theorem escapeCode_eq (code : ℕ) :
    ∃ rest, escapeCode code = '\\' :: rest ∧ rest ≠ [] ∧ ∀ char ∈ rest, char ∈ escapeChars := by
  rw [escapeCode]
  have letter : 'u' ∈ escapeChars := by decide
  have stroke : '\\' ∈ escapeChars := by decide
  split
  · refine ⟨_, rfl, List.cons_ne_nil _ _, ?_⟩
    intro char known
    obtain rfl | known := List.mem_cons.mp known
    · exact letter
    · exact mem_escapeChars_of_mem_hex4 known
  · refine ⟨_, rfl, by simp, ?_⟩
    intro char known
    simp only [List.append_eq, List.mem_append, List.mem_cons] at known
    obtain (rfl | known) | rfl | rfl | known := known
    · exact letter
    · exact mem_escapeChars_of_mem_hex4 known
    · exact stroke
    · exact letter
    · exact mem_escapeChars_of_mem_hex4 known

variable {style : Style} {char : Char} {text : Text}

/-- A character stands for itself, is the quotation mark, or is one that needs an escape. -/
theorem escape_cases (style : Style) (char : Char) :
    (style.escape char = [char] ∧ char ≠ '"' ∧ char ≠ '\\' ∧ 0x20 ≤ char.toNat) ∨
      (char = '"' ∧ style.escape char = ['\\', '"']) ∨
      (char ≠ '"' ∧ (char = '\\' ∨ char.toNat < 0x20 ∨ 0x7E < char.toNat) ∧
        ∃ rest, style.escape char = '\\' :: rest ∧ rest ≠ [] ∧
          ∀ other ∈ rest, other ∈ escapeChars) := by
  by_cases mark : char = '"'
  · exact .inr (.inl ⟨mark, by rw [escape, if_pos mark]⟩)
  simp only [escape, if_neg mark]
  have short (letter : Char) (known : letter ∈ escapeChars)
      (special : char = '\\' ∨ char.toNat < 0x20 ∨ 0x7E < char.toNat) :
      char ≠ '"' ∧ (char = '\\' ∨ char.toNat < 0x20 ∨ 0x7E < char.toNat) ∧
        ∃ rest, ['\\', letter] = '\\' :: rest ∧ rest ≠ [] ∧
          ∀ other ∈ rest, other ∈ escapeChars := by
    refine ⟨mark, special, [letter], rfl, List.cons_ne_nil _ _, ?_⟩
    intro other same
    rwa [List.mem_singleton.mp same]
  split
  · exact .inr (.inr (short _ (by decide) (.inl ‹_›)))
  split
  · subst char
    exact .inr (.inr (short _ (by decide) (.inr (.inl (by decide)))))
  split
  · subst char
    exact .inr (.inr (short _ (by decide) (.inr (.inl (by decide)))))
  split
  · subst char
    exact .inr (.inr (short _ (by decide) (.inr (.inl (by decide)))))
  split
  · exact .inr (.inr (short _ (by decide) (.inr (.inl (by omega)))))
  split
  · exact .inr (.inr (short _ (by decide) (.inr (.inl (by omega)))))
  split
  · rename_i coded
    refine .inr (.inr ⟨mark, .inr (coded.imp id And.right), escapeCode_eq _⟩)
  · rename_i stroke _ _ _ _ _ coded
    rw [not_or, not_lt] at coded
    exact .inl ⟨rfl, mark, stroke, coded.1⟩

/-- Printable ASCII stands for itself. -/
theorem escape_eq_self (mark : char ≠ '"') (stroke : char ≠ '\\') (least : 0x20 ≤ char.toNat)
    (most : char.toNat ≤ 0x7E) : style.escape char = [char] := by
  obtain ⟨same, -⟩ | ⟨same, -⟩ | ⟨-, special, -⟩ := style.escape_cases char
  · exact same
  · exact absurd same mark
  · obtain same | few | many := special
    · exact absurd same stroke
    · omega
    · omega

theorem quote_notMem_escape (mark : char ≠ '"') : '"' ∉ style.escape char := by
  obtain ⟨same, -⟩ | ⟨same, -⟩ | ⟨-, -, rest, same, -, among⟩ := style.escape_cases char
  · rw [same, List.mem_singleton]
    exact Ne.symm mark
  · exact absurd same mark
  · rw [same, List.mem_cons, not_or]
    exact ⟨by decide, fun known => absurd (among _ known) (by decide)⟩

/-- No control character is printed within a string. -/
theorem le_of_mem_escape {other : Char} (known : other ∈ style.escape char) :
    0x20 ≤ other.toNat := by
  have printable : ∀ char ∈ escapeChars, 0x20 ≤ char.toNat := by decide
  obtain ⟨same, -, -, least⟩ | ⟨-, same⟩ | ⟨-, -, rest, same, -, among⟩ := style.escape_cases char
  · rw [same, List.mem_singleton] at known
    rwa [known]
  · rw [same] at known
    have printed : ∀ char ∈ ['\\', '"'], 0x20 ≤ char.toNat := by decide
    exact printed _ known
  · rw [same] at known
    obtain rfl | known := List.mem_cons.mp known
    · decide
    · exact printable _ (among _ known)

theorem escaped_nil (style : Style) : style.escaped [] = [] := rfl

theorem escaped_cons (style : Style) (char : Char) (text : Text) :
    style.escaped (char :: text) = style.escape char ++ style.escaped text := rfl

theorem mem_escaped {other : Char} :
    other ∈ style.escaped text ↔ ∃ char ∈ text, other ∈ style.escape char :=
  List.mem_flatMap

theorem le_of_mem_quote {other : Char} (known : other ∈ style.quote text) :
    0x20 ≤ other.toNat := by
  simp only [quote, List.mem_cons, List.mem_append, List.not_mem_nil,
    or_false] at known
  obtain rfl | known | rfl := known
  · decide
  · obtain ⟨char, -, known⟩ := mem_escaped.mp known
    exact le_of_mem_escape known
  · decide

theorem blank_indent (style : Style) (depth : ℕ) :
    ∀ char ∈ style.indent depth, char = ' ' ∨ char = '\t' := by
  intro char known
  obtain ⟨unit, copies, known⟩ := List.mem_flatten.mp known
  rw [(List.mem_replicate.mp copies).2] at known
  exact style.blank char known

/-- Text that stays on its line. -/
def OneLine (text : Text) : Prop := '\n' ∉ text ∧ '\r' ∉ text

theorem OneLine.append {first second : Text} (one : OneLine first) (other : OneLine second) :
    OneLine (first ++ second) := by
  simp only [OneLine, List.mem_append, not_or]
  exact ⟨⟨one.1, other.1⟩, one.2, other.2⟩

theorem oneLine_of_le (least : ∀ char ∈ text, 0x20 ≤ char.toNat) : OneLine text :=
  ⟨fun known => absurd (least _ known) (by decide),
    fun known => absurd (least _ known) (by decide)⟩

theorem oneLine_nil : OneLine [] := ⟨List.not_mem_nil, List.not_mem_nil⟩

theorem oneLine_indent (style : Style) (depth : ℕ) : OneLine (style.indent depth) :=
  ⟨fun known => absurd (style.blank_indent depth _ known) (by decide),
    fun known => absurd (style.blank_indent depth _ known) (by decide)⟩

theorem oneLine_quote (style : Style) (text : Text) : OneLine (style.quote text) :=
  oneLine_of_le fun _ => le_of_mem_quote

theorem oneLine_comma {α : Type} (rest : List α) : OneLine (comma rest) := by
  cases rest with
  | nil => exact oneLine_nil
  | cons item rest =>
      have comma : OneLine [','] := oneLine_of_le (by decide)
      exact comma

theorem oneLine_scalar (value : Scalar) : OneLine value.text := by
  have printable : ∀ char ∈ Scalar.chars, 0x20 ≤ char.toNat := by decide
  exact oneLine_of_le fun char known => printable char (value.text_chars char known)

/-- A line of a printed value. -/
def Sound (line : Text) : Prop := line ≠ [] ∧ OneLine line

theorem sound_of {lead middle tail : Text} (one : OneLine lead) (ends : OneLine tail)
    (nonempty : middle ≠ []) (inner : OneLine middle) : Sound (lead ++ middle ++ tail) :=
  ⟨by simp [nonempty], (one.append inner).append ends⟩

theorem sound_itemLines {depth : ℕ} {items : List Value}
    (inside : ∀ item ∈ items, ∀ {depth : ℕ} {lead tail : Text}, OneLine lead → OneLine tail →
      ∀ line ∈ style.lines depth lead tail item, Sound line) :
    ∀ line ∈ style.itemLines depth items, Sound line := by
  induction items with
  | nil => exact fun _ known => absurd known List.not_mem_nil
  | cons item rest ih =>
      intro line known
      rw [itemLines, List.mem_append] at known
      obtain known | known := known
      · exact inside item List.mem_cons_self (style.oneLine_indent depth) (oneLine_comma rest)
          line known
      · exact ih (fun item later => inside item (List.mem_cons_of_mem _ later)) line known

theorem sound_memberLines {depth : ℕ} {members : List Member}
    (inside : ∀ member ∈ members, ∀ {depth : ℕ} {lead tail : Text}, OneLine lead →
      OneLine tail → ∀ line ∈ style.lines depth lead tail member.2, Sound line) :
    ∀ line ∈ style.memberLines depth members, Sound line := by
  induction members with
  | nil => exact fun _ known => absurd known List.not_mem_nil
  | cons member rest ih =>
      intro line known
      rw [memberLines, List.mem_append] at known
      obtain known | known := known
      · have lead : OneLine (style.indent depth ++ style.quote member.1 ++ [':', ' ']) :=
          ((style.oneLine_indent depth).append (style.oneLine_quote member.1)).append
            (oneLine_of_le (by decide))
        exact inside member List.mem_cons_self lead (oneLine_comma rest) line known
      · exact ih (fun member later => inside member (List.mem_cons_of_mem _ later)) line known

theorem sound_lines (value : Value) : ∀ {depth : ℕ} {lead tail : Text}, OneLine lead →
    OneLine tail → ∀ line ∈ style.lines depth lead tail value, Sound line := by
  induction value using Value.inside with
  | scalar value =>
      intro depth lead tail one ends line known
      obtain rfl := List.mem_singleton.mp known
      exact sound_of one ends value.text_ne_nil (oneLine_scalar value)
  | string text =>
      intro depth lead tail one ends line known
      obtain rfl := List.mem_singleton.mp known
      exact sound_of one ends (List.cons_ne_nil _ _) (style.oneLine_quote text)
  | array items ih =>
      intro depth lead tail one ends line known
      have brackets : OneLine ['['] ∧ OneLine [']'] ∧ OneLine ['[', ']'] :=
        ⟨oneLine_of_le (by decide), oneLine_of_le (by decide), oneLine_of_le (by decide)⟩
      rw [lines] at known
      split at known
      · obtain rfl := List.mem_singleton.mp known
        exact sound_of one ends (List.cons_ne_nil _ _) brackets.2.2
      · simp only [List.cons_append, List.mem_cons, List.mem_append, List.not_mem_nil,
          or_false] at known
        obtain rfl | known | rfl := known
        · exact ⟨by simp, one.append brackets.1⟩
        · exact sound_itemLines ih line known
        · exact sound_of (style.oneLine_indent depth) ends (List.cons_ne_nil _ _) brackets.2.1
  | object members ih =>
      intro depth lead tail one ends line known
      have braces : OneLine ['\x7b'] ∧ OneLine ['\x7d'] ∧ OneLine ['\x7b', '\x7d'] :=
        ⟨oneLine_of_le (by decide), oneLine_of_le (by decide), oneLine_of_le (by decide)⟩
      rw [lines] at known
      split at known
      · obtain rfl := List.mem_singleton.mp known
        exact sound_of one ends (List.cons_ne_nil _ _) braces.2.2
      · simp only [List.cons_append, List.mem_cons, List.mem_append, List.not_mem_nil,
          or_false] at known
        obtain rfl | known | rfl := known
        · exact ⟨by simp, one.append braces.1⟩
        · exact sound_memberLines ih line known
        · exact sound_of (style.oneLine_indent depth) ends (List.cons_ne_nil _ _) braces.2.1

theorem lines_ne_nil (style : Style) (depth : ℕ) (lead tail : Text) (value : Value) :
    style.lines depth lead tail value ≠ [] := by
  cases value with
  | scalar value => exact List.cons_ne_nil _ _
  | string text => exact List.cons_ne_nil _ _
  | array items =>
      rw [lines]
      split <;> exact List.cons_ne_nil _ _
  | object members =>
      rw [lines]
      split <;> exact List.cons_ne_nil _ _

theorem stripReturn_of_oneLine {line : Text} (one : OneLine line) : stripReturn line = line :=
  stripReturn_eq_self_iff.mpr fun last => one.2 (List.mem_of_getLast? last)

theorem lines_intercalate {texts : List Text} (sound : ∀ line ∈ texts, Sound line) :
    RustText.lines (['\n'].intercalate texts) = texts := by
  induction texts with
  | nil => rfl
  | cons line rest ih =>
      obtain ⟨nonempty, one⟩ := sound line List.mem_cons_self
      cases rest with
      | nil =>
          rw [List.intercalate_singleton]
          exact lines_unterminated one.1 nonempty
      | cons next rest =>
          rw [List.intercalate_cons_cons, List.append_assoc, List.singleton_append,
            lines_terminated one.1, stripReturn_of_oneLine one,
            ih fun later known => sound later (List.mem_cons_of_mem _ known)]

theorem lines_intercalate_terminated {texts : List Text} (some : texts ≠ [])
    (sound : ∀ line ∈ texts, Sound line) :
    RustText.lines (['\n'].intercalate texts ++ ['\n']) = texts := by
  induction texts with
  | nil => exact absurd rfl some
  | cons line rest ih =>
      obtain ⟨-, one⟩ := sound line List.mem_cons_self
      cases rest with
      | nil =>
          rw [List.intercalate_singleton, lines_terminated one.1, stripReturn_of_oneLine one,
            lines_nil]
      | cons next rest =>
          rw [List.intercalate_cons_cons, List.append_assoc, List.append_assoc,
            List.singleton_append, lines_terminated one.1, stripReturn_of_oneLine one,
            ih (List.cons_ne_nil _ _) fun later known => sound later (List.mem_cons_of_mem _ known)]

/-- The lines of the printed text are the lines that were printed. -/
theorem lines_print (style : Style) (value : Value) :
    RustText.lines (style.print value) = style.lines 0 [] [] value := by
  have sound : ∀ line ∈ style.lines 0 [] [] value, Sound line :=
    sound_lines value oneLine_nil oneLine_nil
  rw [print]
  split
  · exact lines_intercalate_terminated (style.lines_ne_nil _ _ _ _) sound
  · exact lines_intercalate sound

end Style

end TrueForce.Json
