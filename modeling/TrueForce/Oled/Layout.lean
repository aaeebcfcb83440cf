import Mathlib.Data.List.Forall2
import TrueForce.Foundation.RustText
import TrueForce.Foundation.Separated

/-!
# The apps' frame composer

The layouts as the apps see them, the frame they compose from typed fields, and the
fields they read back from a frame.
-/

namespace TrueForce.Oled

open TrueForce.RustText

inductive Field where
  | number
  | text (width : ℕ)
  deriving DecidableEq, Repr

structure Layout where
  index : ℕ
  letter : Char
  fields : List Field
  deriving DecidableEq, Repr

def layouts : List Layout := [
  { index := 0, letter := 'A', fields := [] },
  { index := 1, letter := 'B', fields := [] },
  { index := 2, letter := 'C', fields := [.number] },
  { index := 3, letter := 'D', fields := [.number, .number, .text 11] },
  { index := 4, letter := 'E', fields := [.number, .number, .text 3, .text 7] },
  { index := 5, letter := 'F', fields := [.text 1, .text 3] },
  { index := 6, letter := 'G', fields := [.text 1, .text 3] },
  { index := 7, letter := 'H', fields := [.text 21, .text 10] },
  { index := 8, letter := 'I', fields := [.text 19, .text 10, .text 19, .text 10] },
  { index := 9, letter := 'J', fields := [.text 19, .text 10, .text 19, .text 10] }]

/-- The layout for a letter of either case or a digit. -/
def layout (key : Char) : Option Layout :=
  let key := key.toUpper
  layouts.find? fun layout => layout.letter = key ∨ Char.ofNat ('0'.toNat + layout.index) = key

inductive ComposeError where
  | tooLong (index width : ℕ)
  | notANumber (index : ℕ)
  | separator (index : ℕ)
  deriving DecidableEq, Repr

def composeField (index : ℕ) : Field → Text → Except ComposeError Text
  | .number, raw =>
      let text := trim raw
      if text = [] then .ok ['0']
      else if text.head? = some '{' then .ok text
      else
        match parseU32 text with
        | none => .error (.notANumber index)
        | some value =>
            if 255 < value then .error (.notANumber index) else .ok (Nat.toDigits 10 value)
  | .text width, raw =>
      if '|' ∈ raw then .error (.separator index)
      else
        let text := trimEnd raw
        if '{' ∉ text ∧ width < text.length then .error (.tooLong index width) else .ok text

def composeFields (values : List Text) : ℕ → List Field → Except ComposeError (List Text)
  | _, [] => .ok []
  | index, field :: fields => do
      let text ← composeField index field (values.getD index [])
      let texts ← composeFields values (index + 1) fields
      .ok (text :: texts)

def compose (layout : Layout) (values : List Text) : Except ComposeError Text :=
  (composeFields values 0 layout.fields).map fun texts =>
    (Separated.joined '|' [layout.letter] texts).rdropWhile (· = '|')

def parse (frame : Text) : Option (Layout × List Text) :=
  match (trim frame).splitOn '|' with
  | [] => none
  | head :: parts =>
      match trim head with
      | [key] => (layout key).map fun found => (found, resize parts found.fields.length [])
      | _ => none

/-- A field's value as it stands in a frame. -/
def normaliseField : Field → Text → Text
  | .number, raw =>
      match parseU32 (trim raw) with
      | some value => Nat.toDigits 10 value
      | none => ['0']
  | .text _, raw => trimEnd raw

def normalise (layout : Layout) (values : List Text) : List Text :=
  layout.fields.mapIdx fun index field => normaliseField field (values.getD index [])

/-- The values up to the last that is not blank. -/
def carried (layout : Layout) (values : List Text) : List Text :=
  (normalise layout values).rdropWhile List.isEmpty

/-- What a composed value of the field looks like. -/
def Composed : Field → Text → Prop
  | .number, text => ∃ value ≤ 255, text = Nat.toDigits 10 value
  | .text _, text => '|' ∉ text ∧ trimEnd text = text

theorem trimEnd_trimEnd (text : Text) : trimEnd (trimEnd text) = trimEnd text :=
  List.rdropWhile_idempotent _ _

theorem composeField_eq {index : ℕ} {field : Field} {raw text : Text} (plain : '{' ∉ raw)
    (composed : composeField index field raw = .ok text) :
    text = normaliseField field raw ∧ Composed field text := by
  cases field with
  | number =>
      simp only [composeField] at composed
      split_ifs at composed with blank placeholder
      · cases composed
        refine ⟨?_, 0, by omega, by decide⟩
        simp only [normaliseField, blank]
        rfl
      · have inside : '{' ∈ trim raw := List.mem_of_mem_head? placeholder
        have trimmed : trim raw <:+: raw :=
          (List.dropWhile_suffix _).isInfix.trans (List.rdropWhile_prefix _ _).isInfix
        exact absurd (trimmed.subset inside) plain
      · split at composed
        · cases composed
        · rename_i value read
          split_ifs at composed with large
          cases composed
          refine ⟨?_, value, by omega, rfl⟩
          simp only [normaliseField, read]
  | text width =>
      simp only [composeField] at composed
      split_ifs at composed with separated long
      cases composed
      refine ⟨rfl, ?_, trimEnd_trimEnd raw⟩
      intro member
      exact separated ((List.rdropWhile_prefix _ _).subset member)

theorem composeFields_eq {values : List Text} {index : ℕ} {fields : List Field}
    {texts : List Text} (plain : ∀ value ∈ values, '{' ∉ value)
    (composed : composeFields values index fields = .ok texts) :
    texts = fields.mapIdx (fun offset field =>
        normaliseField field (values.getD (index + offset) [])) ∧
      List.Forall₂ Composed fields texts := by
  induction fields generalizing index texts with
  | nil =>
      cases composed
      simp
  | cons field fields ih =>
      simp only [composeFields, bind, Except.bind] at composed
      split at composed
      · cases composed
      · rename_i text first
        split at composed
        · cases composed
        · rename_i others rest
          cases composed
          have plainValue : '{' ∉ values.getD index [] := by
            rw [List.getD_eq_getElem?_getD]
            cases found : values[index]? with
            | none => simp
            | some value => exact plain value (List.mem_of_getElem? found)
          rcases composeField_eq plainValue first with ⟨rfl, shaped⟩
          rcases ih rest with ⟨rfl, shapes⟩
          refine ⟨?_, List.Forall₂.cons shaped shapes⟩
          rw [List.mapIdx_cons]
          simp [Nat.add_assoc, Nat.add_comm 1]

theorem Composed.separator_notMem {field : Field} {text : Text} (composed : Composed field text) :
    '|' ∉ text := by
  cases field with
  | number =>
      rcases composed with ⟨value, small, rfl⟩
      have digits : ∀ value : Fin 256, '|' ∉ Nat.toDigits 10 value := by decide +kernel
      exact digits ⟨value, by omega⟩
  | text width => exact composed.1

theorem Composed.trimEnd_eq {field : Field} {text : Text} (composed : Composed field text) :
    trimEnd text = text := by
  cases field with
  | number =>
      rcases composed with ⟨value, small, rfl⟩
      have digits : ∀ value : Fin 256,
          trimEnd (Nat.toDigits 10 value) = Nat.toDigits 10 value := by
        decide +kernel
      exact digits ⟨value, by omega⟩
  | text width => exact composed.2

theorem compose_cases {layout : Layout} {values : List Text} {frame : Text}
    (plain : ∀ value ∈ values, '{' ∉ value) (composed : compose layout values = .ok frame) :
    List.Forall₂ Composed layout.fields (normalise layout values) ∧
      frame = (Separated.joined '|' [layout.letter] (normalise layout values)).rdropWhile
        (· = '|') := by
  simp only [compose] at composed
  cases composedFields : composeFields values 0 layout.fields with
  | error => simp [composedFields, Except.map] at composed
  | ok texts =>
      rcases composeFields_eq plain composedFields with ⟨same, shaped⟩
      simp only [Nat.zero_add] at same
      simp only [composedFields, Except.map, Except.ok.injEq] at composed
      rw [normalise, ← same]
      exact ⟨shaped, composed.symm⟩

/-- The values in a frame, each in the shape of its field. -/
theorem mem_normalise {layout : Layout} {values : List Text} {text : Text}
    (shaped : List.Forall₂ Composed layout.fields (normalise layout values))
    (member : text ∈ normalise layout values) : ∃ field, Composed field text := by
  rcases List.mem_iff_getElem.mp member with ⟨index, inside, rfl⟩
  have within : index < layout.fields.length := by
    rw [shaped.length_eq]
    exact inside
  exact ⟨layout.fields[index], shaped.get within inside⟩

theorem carried_isPrefix (layout : Layout) (values : List Text) :
    carried layout values <+: normalise layout values :=
  List.rdropWhile_prefix _ _

theorem compose_eq {layout : Layout} {values : List Text} {frame : Text}
    (lettered : layout.letter ≠ '|') (plain : ∀ value ∈ values, '{' ∉ value)
    (composed : compose layout values = .ok frame) :
    frame = Separated.joined '|' [layout.letter] (carried layout values) := by
  rcases compose_cases plain composed with ⟨shaped, rfl⟩
  apply Separated.rdropWhile_joined
  · simp [Ne.symm lettered]
  · intro text member
    rcases mem_normalise shaped member with ⟨field, shape⟩
    exact shape.separator_notMem

theorem layouts_named : ∀ known ∈ layouts, layout known.letter = some known ∧
    known.letter ≠ '|' ∧ isWhitespace known.letter = false := by
  decide

theorem trim_solid {char : Char} {rest : Text} (first : isWhitespace char = false)
    (trimmed : trimEnd (char :: rest) = char :: rest) : trim (char :: rest) = char :: rest := by
  rw [trim, trimmed, List.dropWhile_cons_of_neg (by simp [first])]

/-- The trimmed end of a frame is the trimmed end of its last field. -/
theorem trimEnd_joined {letter : Char} {texts : List Text} (solid : isWhitespace letter = false)
    (trimmed : ∀ text ∈ texts, trimEnd text = text)
    (last : ∀ text, texts.getLast? = some text → text ≠ []) :
    trimEnd (Separated.joined '|' [letter] texts) = Separated.joined '|' [letter] texts := by
  apply trimEnd_eq_self_iff.mpr
  intro char ends
  rcases List.eq_nil_or_concat' texts with rfl | ⟨front, text, rfl⟩
  · simp only [Separated.joined_nil, List.getLast?_singleton, Option.some.injEq] at ends
    rw [← ends]
    exact solid
  · have filled := last text (by simp)
    rw [Separated.joined_concat, List.getLast?_append_of_ne_nil _ (by simp),
      List.getLast?_cons_of_ne_nil filled] at ends
    exact trimEnd_eq_self_iff.mp (trimmed text (by simp)) char ends

theorem carried_last {layout : Layout} {values : List Text} {text : Text}
    (last : (carried layout values).getLast? = some text) : text ≠ [] := by
  have nonempty : carried layout values ≠ [] := by
    rintro empty
    simp [empty] at last
  have filled := List.rdropWhile_last_not List.isEmpty (normalise layout values) nonempty
  rw [List.getLast?_eq_some_getLast nonempty, Option.some.injEq] at last
  rintro rfl
  apply filled
  exact List.isEmpty_iff.mpr last

theorem resize_carried (layout : Layout) (values : List Text) :
    resize (carried layout values) layout.fields.length [] = normalise layout values := by
  have length : layout.fields.length = (normalise layout values).length := by
    simp [normalise]
  rw [length]
  exact resize_rdropWhile (normalise layout values)

/-- Whatever the values, a frame reads back as the layout and the values it was composed from. -/
theorem parse_compose {known : Layout} {values : List Text} {frame : Text}
    (present : known ∈ layouts) (plain : ∀ value ∈ values, '{' ∉ value)
    (composed : compose known values = .ok frame) :
    parse frame = some (known, normalise known values) := by
  rcases layouts_named known present with ⟨named, lettered, solid⟩
  have shaped := (compose_cases plain composed).1
  have shape {text : Text} (member : text ∈ carried known values) :
      ∃ field, Composed field text :=
    mem_normalise shaped ((carried_isPrefix known values).subset member)
  have trimmed := trimEnd_joined solid
    (fun text member => (shape member).elim fun _ composed => composed.trimEnd_eq)
    fun text last => carried_last last
  have split : (Separated.joined '|' [known.letter] (carried known values)).splitOn '|' =
      [known.letter] :: carried known values := by
    apply Separated.splitOn_joined
    · simp [Ne.symm lettered]
    · intro text member
      exact (shape member).elim fun _ composed => composed.separator_notMem
  have whole : trim (Separated.joined '|' [known.letter] (carried known values)) =
      Separated.joined '|' [known.letter] (carried known values) :=
    trim_solid solid trimmed
  have key : trim [known.letter] = [known.letter] := by
    apply trim_solid solid
    simp [trimEnd, solid]
  rw [compose_eq lettered plain composed, parse, whole, split]
  simp only [key, named, Option.map_some, resize_carried]

end TrueForce.Oled
