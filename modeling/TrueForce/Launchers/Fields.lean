import TrueForce.Foundation.Json
import TrueForce.Launchers.Heroic

/-!
# Fields on printed lines

The search for a quoted name finds it only where a string of the line ends in it, at the
string's own quotation mark or at one that is escaped.  Only a member's name has a colon
behind it, so this is where a field is scraped; its value is cut at the first quotation
mark, escapes and all.
-/

namespace TrueForce.Launchers

open RustText Searching Splitting Json

def fieldNames : List Text := [appNameKey, appNameCamelKey, titleKey]

/-- The text is the key, or ends in a quotation mark and the key. -/
def EndsIn (key text : Text) : Prop := ('"' :: key) <:+ ('"' :: text)

instance (key text : Text) : Decidable (EndsIn key text) :=
  inferInstanceAs (Decidable (_ <:+ _))

/-- What a scraped value is: the printed string up to its first quotation mark. -/
def shown (style : Style) (text : Text) : Text := (style.escaped text).takeWhile (· ≠ '"')

variable {style : Style} {key text rest lead tail : Text}

section Names

/-- A name that is printed as it is. -/
structure Plain (style : Style) (key : Text) : Prop where
  nonempty : key ≠ []
  same : ∀ char ∈ key, style.escape char = [char]
  letters : ∀ char ∈ key, char ≠ '"' ∧ char ≠ '\\' ∧ char ≠ ':' ∧ char ≠ ','

theorem plain_of_mem_fieldNames (known : key ∈ fieldNames) : Plain style key := by
  have letters : ∀ key ∈ fieldNames, key ≠ [] ∧ ∀ char ∈ key,
      (char ≠ '"' ∧ char ≠ '\\' ∧ char ≠ ':' ∧ char ≠ ',') ∧
        0x20 ≤ char.toNat ∧ char.toNat ≤ 0x7E := by decide
  obtain ⟨nonempty, letters⟩ := letters key known
  refine ⟨nonempty, fun char inside => ?_, fun char inside => (letters char inside).1⟩
  obtain ⟨⟨mark, stroke, -⟩, least, most⟩ := letters char inside
  exact Style.escape_eq_self mark stroke least most

/-- A key stands at the front of a printed string only when it is the whole string. -/
theorem starts_iff (same : ∀ char ∈ key, style.escape char = [char])
    (letters : ∀ char ∈ key, char ≠ '"' ∧ char ≠ '\\') :
    key ++ ['"'] <+: style.escaped text ++ '"' :: rest ↔ text = key := by
  induction key generalizing text with
  | nil =>
      cases text with
      | nil => simp [Style.escaped_nil]
      | cons char text =>
          rw [Style.escaped_cons]
          obtain ⟨self, mark, -⟩ | ⟨-, self⟩ | ⟨-, -, more, self, -⟩ := style.escape_cases char
          · simpa [self] using Ne.symm mark
          · simp [self]
          · simp [self]
  | cons first key ih =>
      have head := letters first List.mem_cons_self
      cases text with
      | nil => simp [Style.escaped_nil, head.1]
      | cons char text =>
          rw [Style.escaped_cons]
          have ih := @ih text (fun char inside => same char (List.mem_cons_of_mem _ inside))
            (fun char inside => letters char (List.mem_cons_of_mem _ inside))
          obtain ⟨self, -⟩ | ⟨rfl, self⟩ | ⟨mark, -, more, self, some, -⟩ :=
            style.escape_cases char
          · simp only [self, List.cons_append, List.nil_append, List.cons_prefix_cons, ih,
              List.cons.injEq]
            exact and_congr_left fun _ => eq_comm
          · simp [self, head.2, Ne.symm head.1]
          · have other : char ≠ first := by
              rintro rfl
              have alone := same char List.mem_cons_self
              rw [self, List.cons.injEq] at alone
              exact some alone.2
            simp [self, head.2, other]

theorem escaped_eq_self (same : ∀ char ∈ key, style.escape char = [char]) :
    style.escaped key = key := by
  induction key with
  | nil => rfl
  | cons first key ih =>
      rw [Style.escaped_cons, same first List.mem_cons_self,
        ih fun char inside => same char (List.mem_cons_of_mem _ inside), List.singleton_append]

/-- At a quotation mark the search ends when the key is all that the string has left. -/
theorem findAfter_mark (plain : Plain style key) :
    findAfter ('"' :: (key ++ ['"'])) ('"' :: (style.escaped text ++ '"' :: rest)) =
      if text = key then some rest
      else findAfter ('"' :: (key ++ ['"'])) (style.escaped text ++ '"' :: rest) := by
  by_cases whole : text = key
  · subst whole
    rw [if_pos rfl, escaped_eq_self plain.same]
    rw [← List.singleton_append (x := '"') (l := rest), ← List.append_assoc]
    exact findAfter_append_of_starts rest
  · rw [if_neg whole]
    apply findAfter_cons
    rw [starts_iff plain.same fun char inside =>
      ⟨(plain.letters char inside).1, (plain.letters char inside).2.1⟩]
    exact whole

/-- Inside a printed string the quoted key is found at its end, if it is there. -/
theorem findAfter_escaped (plain : Plain style key) (other : rest.head? ≠ key.head?) :
    findAfter ('"' :: (key ++ ['"'])) (style.escaped text ++ '"' :: rest) =
      if ('"' :: key) <:+ text then some rest else findAfter ('"' :: (key ++ ['"'])) rest := by
  have behind : ¬ key ++ ['"'] <+: rest := by
    rintro ⟨after, rfl⟩
    obtain ⟨first, more, rfl⟩ := List.exists_cons_of_ne_nil plain.nonempty
    exact other rfl
  induction text with
  | nil => simpa [Style.escaped_nil] using findAfter_cons behind
  | cons char text ih =>
      rw [Style.escaped_cons, List.append_assoc]
      by_cases mark : char = '"'
      · subst mark
        have self : style.escape '"' = ['\\', '"'] := rfl
        rw [self, List.cons_append, findAfter_cons_of_ne (by decide), List.singleton_append,
          findAfter_mark plain, ih]
        by_cases whole : text = key
        · rw [if_pos whole, whole, if_pos (List.suffix_refl _)]
        · have shift : '"' :: key <:+ '"' :: text ↔ '"' :: key <:+ text := by
            rw [List.suffix_cons_iff, List.cons.injEq]
            exact or_iff_right fun same => whole same.2.symm
          rw [if_neg whole]
          simp only [shift]
      · have shift : '"' :: key <:+ char :: text ↔ '"' :: key <:+ text := by
          rw [List.suffix_cons_iff, List.cons.injEq]
          exact or_iff_right fun same => mark same.1.symm
        rw [findAfter_append (Style.quote_notMem_escape mark), ih]
        simp only [shift]

theorem findAfter_quote (plain : Plain style key) (other : rest.head? ≠ key.head?) :
    findAfter ('"' :: (key ++ ['"'])) (style.quote text ++ rest) =
      if EndsIn key text then some rest else findAfter ('"' :: (key ++ ['"'])) rest := by
  rw [Style.quote, List.cons_append, List.append_assoc, List.singleton_append,
    findAfter_mark plain, findAfter_escaped plain other]
  by_cases whole : text = key
  · rw [if_pos whole, if_pos]
    rw [whole]
    exact List.suffix_refl _
  · have shift : EndsIn key text ↔ '"' :: key <:+ text := by
      rw [EndsIn, List.suffix_cons_iff, List.cons.injEq]
      exact or_iff_right fun same => whole same.2.symm
    rw [if_neg whole]
    simp only [shift]

end Names

section Lines

/-- The indentation in front of a line. -/
def Indentation (indent : Text) : Prop := ∀ char ∈ indent, char = ' ' ∨ char = '\t'

/-- What separates a line from the next one. -/
def Tail (tail : Text) : Prop := tail = [] ∨ tail = [',']

theorem tail_comma {α : Type} (others : List α) : Tail (Style.comma others) := by
  cases others with
  | nil => exact .inl rfl
  | cons other others => exact .inr rfl

theorem mark_notMem_of_blank {indent : Text} (blank : Indentation indent) :
    '"' ∉ indent := fun known => absurd (blank _ known) (by decide)

theorem head?_ne_of_plain (plain : Plain style key) {char : Char} (separator : char = ':' ∨ char = ',') :
    (char :: rest).head? ≠ key.head? := by
  obtain ⟨first, more, rfl⟩ := List.exists_cons_of_ne_nil plain.nonempty
  have letters := plain.letters first List.mem_cons_self
  simp only [List.head?_cons, ne_eq, Option.some.injEq]
  rintro rfl
  obtain rfl | rfl := separator
  · exact letters.2.2.1 rfl
  · exact letters.2.2.2 rfl

theorem head?_tail_ne (plain : Plain style key) (ends : Tail tail) : tail.head? ≠ key.head? := by
  obtain rfl | rfl := ends
  · obtain ⟨first, more, rfl⟩ := List.exists_cons_of_ne_nil plain.nonempty
    exact Option.some_ne_none first ∘ Eq.symm
  · exact head?_ne_of_plain plain (.inr rfl)

theorem mark_notMem_tail (ends : Tail tail) : '"' ∉ tail := by
  obtain rfl | rfl := ends
  · exact List.not_mem_nil
  · decide

theorem splitOnce_tail (ends : Tail tail) : splitOnce ':' tail = none := by
  obtain rfl | rfl := ends <;> rfl

/-- The part in front of the first separator, when one is sure to follow. -/
theorem splitOnce_takeWhile (front after : Text) :
    ∃ more, splitOnce '"' (front ++ '"' :: after) = some (front.takeWhile (· ≠ '"'), more) := by
  induction front with
  | nil => exact ⟨after, rfl⟩
  | cons char front ih =>
      obtain ⟨more, found⟩ := ih
      by_cases mark : char = '"'
      · subst mark
        exact ⟨front ++ '"' :: after, rfl⟩
      · refine ⟨more, ?_⟩
        rw [List.cons_append, splitOnce, if_neg mark, found, List.takeWhile_cons_of_pos (by simpa)]
        rfl

/-- Nothing is scraped in front of a value that has no quotation mark. -/
theorem scrapeStrField_blank (blank : Indentation lead) {value : Text} (free : '"' ∉ value) :
    scrapeStrField (lead ++ value) key = none := by
  rw [scrapeStrField, findAfter_eq_none]
  · rfl
  · rw [List.mem_append, not_or]
    exact ⟨mark_notMem_of_blank blank, free⟩

theorem scrapeStrField_name (plain : Plain style key) (blank : Indentation lead) (name : Text)
    {value : Text} (free : '"' ∉ value) :
    scrapeStrField (lead ++ style.quote name ++ [':', ' '] ++ value) key = none := by
  have behind : '"' ∉ ':' :: ' ' :: value := by simpa using free
  rw [scrapeStrField, List.append_assoc, List.append_assoc,
    findAfter_append (mark_notMem_of_blank blank), List.cons_append, List.singleton_append,
    findAfter_quote plain (head?_ne_of_plain plain (.inl rfl)), findAfter_eq_none behind]
  split
  · have trimmed : '"' ∉ trimStart (' ' :: value) := fun known =>
      behind (List.mem_cons_of_mem _ ((List.dropWhile_sublist _).subset known))
    have unquoted : ['"'].isPrefixOf? (trimStart (' ' :: value)) = none := by
      rw [Option.eq_none_iff_forall_ne_some]
      intro after found
      rw [← List.isPrefixOf?_eq_some_iff_append_eq.mp found] at trimmed
      exact trimmed List.mem_cons_self
    simp only [Option.bind_eq_bind, Option.bind_some, splitOnce, if_true, unquoted,
      Option.bind_none]
  · rfl

theorem scrapeStrField_item (plain : Plain style key) {indent : Text}
    (blank : Indentation indent) (text : Text) (ends : Tail tail) :
    scrapeStrField (indent ++ style.quote text ++ tail) key = none := by
  rw [scrapeStrField, List.append_assoc, findAfter_append (mark_notMem_of_blank blank),
    findAfter_quote plain (head?_tail_ne plain ends),
    findAfter_eq_none (mark_notMem_tail ends)]
  split
  · simp only [Option.bind_eq_bind, Option.bind_some, splitOnce_tail ends, Option.bind_none]
  · rfl

/-- A member's text is scraped where its name ends in the key. -/
theorem scrapeStrField_member (plain : Plain style key) {indent : Text}
    (blank : Indentation indent) (name text : Text) (ends : Tail tail) :
    scrapeStrField (indent ++ style.quote name ++ [':', ' '] ++ style.quote text ++ tail) key =
      if EndsIn key name then some (shown style text) else none := by
  have value : findAfter ('"' :: (key ++ ['"']))
      (':' :: ' ' :: (style.quote text ++ tail)) =
        if EndsIn key text then some (tail) else none := by
    have colon : '"' ∉ [':', ' '] := by decide
    have skipped : findAfter ('"' :: (key ++ ['"'])) ([':', ' '] ++ (style.quote text ++ tail)) =
        findAfter ('"' :: (key ++ ['"'])) (style.quote text ++ tail) := findAfter_append colon
    rw [findAfter_quote plain (head?_tail_ne plain ends),
      findAfter_eq_none (mark_notMem_tail ends)] at skipped
    exact skipped
  rw [scrapeStrField, List.append_assoc, List.append_assoc, List.append_assoc,
    findAfter_append (mark_notMem_of_blank blank), List.cons_append, List.singleton_append,
    findAfter_quote plain (head?_ne_of_plain plain (.inl rfl)), value]
  by_cases named : EndsIn key name
  · rw [if_pos named, if_pos named]
    have trimmed : trimStart (' ' :: (style.quote text ++ tail)) =
        '"' :: (style.escaped text ++ '"' :: tail) := by
      rw [Style.quote, List.cons_append, List.append_assoc, List.singleton_append]
      rfl
    obtain ⟨more, found⟩ := splitOnce_takeWhile (style.escaped text) (tail)
    have opened : ['"'].isPrefixOf? ('"' :: (style.escaped text ++ '"' :: tail)) =
        some (style.escaped text ++ '"' :: tail) := rfl
    simp only [Option.bind_eq_bind, Option.bind_some, splitOnce, if_true, trimmed, opened, found]
    rfl
  · rw [if_neg named, if_neg named]
    split
    · simp only [Option.bind_eq_bind, Option.bind_some, splitOnce_tail ends, Option.bind_none]
    · rfl

end Lines

section Shown

theorem shown_of_plain (same : ∀ char ∈ text, style.escape char = [char]) :
    shown style text = text := by
  rw [shown, escaped_eq_self same, List.takeWhile_eq_self_iff]
  intro char known
  have alone := same char known
  have other : char ≠ '"' := by
    rintro rfl
    cases alone
  simpa using other

theorem escape_length (style : Style) (char : Char) :
    style.escape char = [char] ∨ 2 ≤ (style.escape char).length := by
  obtain ⟨same, -⟩ | ⟨-, same⟩ | ⟨-, -, more, same, some, -⟩ := style.escape_cases char
  · exact .inl same
  · rw [same]
    exact .inr (Nat.le_refl 2)
  · rw [same, List.length_cons]
    have positive := List.length_pos_iff.mpr some
    exact .inr (by omega)

theorem length_le_escaped (style : Style) (text : Text) :
    text.length ≤ (style.escaped text).length := by
  induction text with
  | nil => exact Nat.le_refl 0
  | cons char text ih =>
      rw [Style.escaped_cons, List.length_append, List.length_cons]
      obtain same | two := escape_length style char
      · rw [same, List.length_singleton]
        omega
      · omega

theorem same_of_length (short : (style.escaped text).length ≤ text.length) :
    ∀ char ∈ text, style.escape char = [char] := by
  induction text with
  | nil => exact fun _ known => absurd known List.not_mem_nil
  | cons char text ih =>
      have least := length_le_escaped style text
      rw [Style.escaped_cons, List.length_append, List.length_cons] at short
      obtain same | two := escape_length style char
      · rw [same, List.length_singleton] at short
        intro other known
        obtain rfl | known := List.mem_cons.mp known
        · exact same
        · exact ih (by omega) other known
      · omega

/-- A text is shown as it is only when all of it is printed as it is. -/
theorem shown_eq_self_iff :
    shown style text = text ↔ ∀ char ∈ text, style.escape char = [char] := by
  refine ⟨fun whole => same_of_length ?_, shown_of_plain⟩
  have unmarked : '"' ∉ text := by
    rw [← whole]
    exact fun known => absurd (List.mem_takeWhile_imp known) (by decide)
  have uncut : shown style text = style.escaped text := by
    rw [shown, List.takeWhile_eq_self_iff]
    intro char known
    obtain ⟨source, inside, known⟩ := Style.mem_escaped.mp known
    have other : char ≠ '"' := by
      rintro rfl
      exact Style.quote_notMem_escape (fun same => unmarked (same ▸ inside)) known
    simpa using other
  rw [← uncut, whole]

end Shown

end TrueForce.Launchers
