import Mathlib.Algebra.Group.Int.Defs
import Mathlib.Algebra.Group.Nat.Defs
import Mathlib.Data.List.DropRight

/-!
# Kernel strings

What the kernel's string helpers do with a buffer, as functions on its bytes: the
string ends at the first zero byte, `isspace` reads Latin-1 (so it counts the
no-break space `0xA0`), and the `kstrto*` family takes a whole number with at most
one newline behind it.
-/

namespace TrueForce.CString

abbrev Bytes := List UInt8

/-- The string that a buffer holds. -/
def contents (buffer : Bytes) : Bytes := buffer.takeWhile (· ≠ 0)

def isspace (byte : UInt8) : Bool := (9 ≤ byte && byte ≤ 13) || byte == 0x20 || byte == 0xA0

/-- What `strim` leaves in the buffer; only the pointer it returns skips the leading spaces. -/
def strim (string : Bytes) : Bytes := string.rdropWhile isspace

/-- Equal up to one newline at the end. -/
def sysfsStreq (first second : Bytes) : Bool :=
  first == second || first ++ [0x0A] == second || first == second ++ [0x0A]

inductive NumberError where
  | invalid
  | range
  deriving DecidableEq, Repr

def digit (base : ℕ) (byte : UInt8) : Option ℕ :=
  let lower := byte ||| 0x20
  let value :=
    if 0x30 ≤ byte ∧ byte ≤ 0x39 then some (byte.toNat - 0x30)
    else if 0x61 ≤ lower ∧ lower ≤ 0x66 then some (lower.toNat - 0x61 + 10)
    else none
  value.filter (· < base)

/-- The number at the front of a string, and what follows it. -/
def digits (base : ℕ) : ℕ → Bytes → ℕ × Bytes
  | value, [] => (value, [])
  | value, byte :: rest =>
      match digit base byte with
      | some next => digits base (value * base + next) rest
      | none => (value, byte :: rest)

/-- The `0x` that base 16 allows. -/
def skipRadix (base : ℕ) : Bytes → Bytes
  | 0x30 :: second :: rest =>
      if base = 16 ∧ (second ||| 0x20) = 0x78 then rest else 0x30 :: second :: rest
  | string => string

def kstrtoullUnsigned (base : ℕ) (string : Bytes) : Except NumberError ℕ :=
  let string := skipRadix base string
  let (value, rest) := digits base 0 string
  if 2 ^ 64 ≤ value then .error .range
  else if rest.length = string.length then .error .invalid
  else if rest = [] ∨ rest = [0x0A] then .ok value
  else .error .invalid

def kstrtoull (base : ℕ) : Bytes → Except NumberError ℕ
  | 0x2B :: rest => kstrtoullUnsigned base rest
  | string => kstrtoullUnsigned base string

def kstrtouint (base : ℕ) (string : Bytes) : Except NumberError ℕ :=
  match kstrtoull base string with
  | .ok value => if value < 2 ^ 32 then .ok value else .error .range
  | .error error => .error error

def kstrtoint (base : ℕ) : Bytes → Except NumberError ℤ
  | 0x2D :: rest =>
      match kstrtoullUnsigned base rest with
      | .ok value => if value ≤ 2 ^ 31 then .ok (-value) else .error .range
      | .error error => .error error
  | string =>
      match kstrtoull base string with
      | .ok value => if value < 2 ^ 31 then .ok value else .error .range
      | .error error => .error error

theorem isspace_iff {byte : UInt8} : isspace byte = true ↔
    (9 ≤ byte.toNat ∧ byte.toNat ≤ 13) ∨ byte.toNat = 0x20 ∨ byte.toNat = 0xA0 := by
  simp [isspace, UInt8.le_iff_toNat_le, ← UInt8.toNat_inj, or_assoc]

theorem contents_eq_self {buffer : Bytes} (terminated : 0 ∉ buffer) :
    contents buffer = buffer := by
  apply List.takeWhile_eq_self_iff.mpr
  intro byte member
  simp only [ne_eq, decide_eq_true_eq]
  rintro rfl
  exact terminated member

theorem contents_append {front back : Bytes} (terminated : 0 ∉ front) :
    contents (front ++ back) = front ++ contents back := by
  apply List.takeWhile_append_of_pos
  intro byte member
  simp only [ne_eq, decide_eq_true_eq]
  rintro rfl
  exact terminated member

theorem contents_append_of_mem {front back : Bytes} (ended : 0 ∈ front) :
    contents (front ++ back) = contents front := by
  have whole : ¬(front.takeWhile (· ≠ 0)).length = front.length := by
    intro same
    have every := List.takeWhile_eq_self_iff.mp ((List.takeWhile_prefix _).eq_of_length same)
    simpa using every 0 ended
  rw [contents, List.takeWhile_append, if_neg whole]
  rfl

theorem zero_notMem_contents (buffer : Bytes) : 0 ∉ contents buffer := by
  intro member
  have nonzero := List.mem_takeWhile_imp member
  simp at nonzero

/-- A byte that is no space shields what stands before it. -/
theorem strim_append_cons {front back : Bytes} {byte : UInt8} (solid : isspace byte = false) :
    strim (front ++ byte :: back) = front ++ byte :: strim back := by
  induction back using List.reverseRecOn with
  | nil =>
      simp only [strim]
      rw [List.rdropWhile_concat_neg _ _ _ (by simp [solid])]
      simp
  | append_singleton back last ih =>
      simp only [strim] at ih ⊢
      rw [← List.cons_append, ← List.append_assoc]
      by_cases space : isspace last = true
      · rw [List.rdropWhile_concat_pos _ _ _ space, List.rdropWhile_concat_pos _ _ _ space]
        exact ih
      · rw [List.rdropWhile_concat_neg _ _ _ space, List.rdropWhile_concat_neg _ _ _ space]
        simp

theorem strim_isPrefix (string : Bytes) : strim string <+: string :=
  List.rdropWhile_prefix _ _

theorem strim_concat_space {front : Bytes} {byte : UInt8} (space : isspace byte = true) :
    strim (front ++ [byte]) = strim front :=
  List.rdropWhile_concat_pos _ _ _ space

theorem strim_concat_solid {front : Bytes} {byte : UInt8} (solid : isspace byte = false) :
    strim (front ++ [byte]) = front ++ [byte] :=
  List.rdropWhile_concat_neg _ _ _ (by simp [solid])

end TrueForce.CString
