import Mathlib.Algebra.Group.Nat.Defs
import Mathlib.Data.List.DropRight
import Mathlib.Data.Nat.Notation

/-!
# Rust strings

Strings as lists of Unicode scalar values, with the library functions that a
program uses to trim, split and read them.  Their bytes are UTF-8.
-/

namespace TrueForce.RustText

abbrev Text := List Char

/-- The Unicode property `White_Space`. -/
def isWhitespace (char : Char) : Bool :=
  let code := char.toNat
  (9 ≤ code && code ≤ 13) || code == 0x20 || code == 0x85 || code == 0xA0 || code == 0x1680 ||
    (0x2000 ≤ code && code ≤ 0x200A) || code == 0x2028 || code == 0x2029 || code == 0x202F ||
    code == 0x205F || code == 0x3000

def trimEnd (text : Text) : Text := text.rdropWhile isWhitespace

def trim (text : Text) : Text := (trimEnd text).dropWhile isWhitespace

def asciiDigit (char : Char) : Option ℕ :=
  if '0' ≤ char ∧ char ≤ '9' then some (char.toNat - '0'.toNat) else none

def decimal : ℕ → Text → Option ℕ
  | value, [] => some value
  | value, char :: rest => (asciiDigit char).bind fun next => decimal (value * 10 + next) rest

/-- `str::parse::<u32>`. -/
def parseU32 (text : Text) : Option ℕ :=
  let number :=
    match text with
    | '+' :: rest => rest
    | text => text
  if number = [] then none else (decimal 0 number).filter (· < 2 ^ 32)

def utf8 (text : Text) : List UInt8 := text.flatMap String.utf8EncodeChar

/-- `Vec::resize`. -/
def resize {α : Type*} (list : List α) (length : ℕ) (value : α) : List α :=
  list.take length ++ List.replicate (length - list.length) value

theorem resize_of_le {α : Type*} {list : List α} {length : ℕ} (shorter : list.length ≤ length)
    (value : α) :
    resize list length value = list ++ List.replicate (length - list.length) value := by
  rw [resize, List.take_of_length_le shorter]

/-- Filling up with empty texts undoes dropping them from the end. -/
theorem resize_rdropWhile {α : Type*} (texts : List (List α)) :
    resize (texts.rdropWhile List.isEmpty) texts.length [] = texts := by
  rw [resize_of_le (List.rdropWhile_prefix _ _).length_le]
  induction texts using List.reverseRecOn with
  | nil => rfl
  | append_singleton texts last ih =>
      cases last with
      | nil =>
          have shorter := (List.rdropWhile_prefix List.isEmpty texts).length_le
          rw [List.rdropWhile_concat_pos _ _ _ (by simp), List.length_append,
            List.length_singleton, Nat.sub_add_comm shorter, List.replicate_succ',
            ← List.append_assoc, ih]
      | cons char rest =>
          rw [List.rdropWhile_concat_neg _ _ _ (by simp)]
          simp

theorem trimEnd_eq_self_iff {text : Text} :
    trimEnd text = text ↔ ∀ char, text.getLast? = some char → isWhitespace char = false := by
  rw [trimEnd, List.rdropWhile_eq_self_iff]
  constructor
  · intro solid char last
    rcases List.getLast?_eq_some_iff.mp last with ⟨front, rfl⟩
    simpa using solid (by simp)
  · intro solid nonempty
    simp [solid _ (List.getLast?_eq_some_getLast nonempty)]

@[simp]
theorem utf8_append (first second : Text) : utf8 (first ++ second) = utf8 first ++ utf8 second :=
  List.flatMap_append

@[simp]
theorem utf8_nil : utf8 [] = [] := rfl

theorem utf8_cons (char : Char) (rest : Text) :
    utf8 (char :: rest) = String.utf8EncodeChar char ++ utf8 rest :=
  List.flatMap_cons

theorem utf8EncodeChar_ascii {char : Char} (ascii : char.toNat < 0x80) :
    String.utf8EncodeChar char = [UInt8.ofNat char.toNat] := by
  have small : char.val.toNat ≤ 0x7f := by
    have same : char.val.toNat = char.toNat := rfl
    omega
  simp only [String.utf8EncodeChar, small, ↓reduceIte]
  rfl

theorem utf8EncodeChar_ne_nil (char : Char) : String.utf8EncodeChar char ≠ [] := by
  simp only [String.utf8EncodeChar]
  split_ifs <;> simp

theorem byte_ge {high low : ℕ} (leading : 0x80 ≤ high) (fits : low + high < 0x100) :
    0x80 ≤ UInt8.ofNat (low + high) := by
  rw [UInt8.le_iff_toNat_le, UInt8.toNat_ofNat']
  have same : (low + high) % 2 ^ 8 = low + high := Nat.mod_eq_of_lt fits
  rw [same]
  exact leading.trans (Nat.le_add_left _ _)

/-- Only an ASCII character has an ASCII byte, and that byte is its own code. -/
theorem ascii_of_mem_utf8EncodeChar {char : Char} {byte : UInt8}
    (member : byte ∈ String.utf8EncodeChar char) (ascii : byte < 0x80) :
    byte.toNat = char.toNat := by
  by_cases small : char.val.toNat ≤ 0x7f
  · simp only [String.utf8EncodeChar, small, ↓reduceIte, List.mem_singleton] at member
    rw [member, UInt8.toNat_ofNat']
    exact Nat.mod_eq_of_lt (by omega)
  · simp only [String.utf8EncodeChar, small, ↓reduceIte] at member
    have high : 0x80 ≤ byte := by
      split_ifs at member <;> simp only [List.mem_cons, List.not_mem_nil, or_false] at member
      · rcases member with rfl | rfl <;> apply byte_ge <;> omega
      · rcases member with rfl | rfl | rfl <;> apply byte_ge <;> omega
      · rcases member with rfl | rfl | rfl | rfl <;> apply byte_ge <;> omega
    exact absurd ascii (UInt8.not_lt.mpr high)

/-- An ASCII byte stands in a text only where its character does. -/
theorem mem_of_mem_utf8 {text : Text} {char : Char} (ascii : char.toNat < 0x80)
    (member : UInt8.ofNat char.toNat ∈ utf8 text) : char ∈ text := by
  rcases List.mem_flatMap.mp member with ⟨other, present, encoded⟩
  have code : (UInt8.ofNat char.toNat).toNat = char.toNat := by
    rw [UInt8.toNat_ofNat']
    exact Nat.mod_eq_of_lt (by omega)
  have same := ascii_of_mem_utf8EncodeChar encoded (by
    rw [UInt8.lt_iff_toNat_lt, code]
    exact ascii)
  rw [code] at same
  rw [Char.toNat_inj.mp same]
  exact present

theorem mem_utf8_of_mem {text : Text} {char : Char} (ascii : char.toNat < 0x80)
    (present : char ∈ text) : UInt8.ofNat char.toNat ∈ utf8 text := by
  apply List.mem_flatMap.mpr
  refine ⟨char, present, ?_⟩
  rw [utf8EncodeChar_ascii ascii]
  exact List.mem_singleton.mpr rfl

end TrueForce.RustText
