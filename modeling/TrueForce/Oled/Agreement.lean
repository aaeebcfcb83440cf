import TrueForce.Oled.Driver
import TrueForce.Oled.Layout

/-!
# What composes is what the driver draws

The apps count a text in characters and the driver in bytes; the driver's string
ends at a zero byte, and the space it trims off the end includes the byte `0xA0`,
the last of many encoded characters.  Apart from these the two schemas agree.
-/

namespace TrueForce.Oled

open TrueForce.RustText TrueForce.CString

def payloadField : Field → Text → Option Bytes
  | .number, text => (parseU32 text).map fun value => [UInt8.ofNat value]
  | .text width, text =>
      if width < (utf8 text).length then none else some ((utf8 text).rightpad width 0x20)

def payloadFields : List Field → List Text → Option Bytes
  | _, [] => some []
  | [], _ :: _ => none
  | field :: fields, text :: texts => do
      let block ← payloadField field text
      let rest ← payloadFields fields texts
      some (block ++ rest)

/-- The layout's index and the carried fields: a number as one byte, a text filled up with spaces.
There is none where a text is wider than its field. -/
def payload (layout : Layout) (values : List Text) : Option Bytes :=
  (payloadFields layout.fields (carried layout values)).map fun fields =>
    (UInt8.ofNat layout.index :: fields).rightpad hidppDdOledFrame 0

/-- The driver draws the frame as it was composed, and the apps read it back. -/
def Agrees (layout : Layout) (values : List Text) (frame : Text) : Prop :=
  (∃ bytes, payload layout values = some bytes ∧
    hidppDdOledParse (utf8 frame) hidppDdOledMaxLayouts = .ok bytes) ∧
  parse frame = some (layout, normalise layout values)

/-- Where bytes and characters make no difference. -/
structure Fits (layout : Layout) (values : List Text) : Prop where
  widths : ∀ index width, layout.fields[index]? = some (.text width) →
    (utf8 (trimEnd (values.getD index []))).length ≤ width
  terminated : ∀ text ∈ normalise layout values, '\x00' ∉ text
  /-- The last byte of the frame. -/
  last : ∀ text, (carried layout values).getLast? = some text →
    (utf8 text).getLast? ≠ some 0xA0

def Field.width : Field → ℤ
  | .number => hidppDdOledNum
  | .text width => width

/-- What the two schemas agree on. -/
structure Mirrored (known : Layout) : Prop where
  field : schemaField known.index = known.fields.map Field.width
  positive : ∀ field ∈ known.fields, field ≠ .text 0
  letter : layoutOf (utf8 [known.letter]) = some known.index
  available : known.index < hidppDdOledMaxLayouts
  headed : (utf8 [known.letter]).length = 1
  terminated : 0 ∉ utf8 [known.letter]
  separated : separator ∉ utf8 [known.letter]
  blank : hidppDdOledParse (utf8 [known.letter]) hidppDdOledMaxLayouts =
    .ok ([UInt8.ofNat known.index].rightpad hidppDdOledFrame 0)
  room : (known.fields.map fun field => max 3 field.width.natAbs + 1).sum + 1 < hidppDdOledText

theorem mirrored {known : Layout} (present : known ∈ layouts) : Mirrored known := by
  have every : ∀ known ∈ layouts, schemaField known.index = known.fields.map Field.width ∧
      (∀ field ∈ known.fields, field ≠ .text 0) ∧
      layoutOf (utf8 [known.letter]) = some known.index ∧
      known.index < hidppDdOledMaxLayouts ∧ (utf8 [known.letter]).length = 1 ∧
      0 ∉ utf8 [known.letter] ∧ separator ∉ utf8 [known.letter] ∧
      hidppDdOledParse (utf8 [known.letter]) hidppDdOledMaxLayouts =
        .ok ([UInt8.ofNat known.index].rightpad hidppDdOledFrame 0) ∧
      (known.fields.map fun field => max 3 field.width.natAbs + 1).sum + 1 <
        hidppDdOledText := by
    decide
  rcases every known present with
    ⟨field, positive, letter, available, headed, terminated, separated, blank, room⟩
  exact ⟨field, positive, letter, available, headed, terminated, separated, blank, room⟩

theorem Composed.number_bytes {text : Text} (composed : Composed .number text) :
    ∃ value ≤ 255, parseU32 text = some value ∧ kstrtouint 10 (utf8 text) = .ok value ∧
      (utf8 text).length ≤ 3 ∧ ∀ byte ∈ utf8 text, 0x30 ≤ byte ∧ byte < 0x80 := by
  rcases composed with ⟨value, small, rfl⟩
  have every : ∀ value < 256, parseU32 (Nat.toDigits 10 value) = some value ∧
      kstrtouint 10 (utf8 (Nat.toDigits 10 value)) = .ok value ∧
      (utf8 (Nat.toDigits 10 value)).length ≤ 3 ∧
      (utf8 (Nat.toDigits 10 value)).all fun byte => 0x30 ≤ byte && byte < 0x80 := by
    decide +kernel
  rcases every value (by omega) with ⟨parsed, read, short, bytes⟩
  refine ⟨value, small, parsed, read, short, ?_⟩
  intro byte member
  simpa using List.all_eq_true.mp bytes byte member

theorem utf8_last_solid {text : Text} {byte : UInt8} (trimmed : trimEnd text = text)
    (last : (utf8 text).getLast? = some byte) (other : byte ≠ 0xA0) : isspace byte = false := by
  by_contra space
  rw [Bool.not_eq_false] at space
  rcases List.eq_nil_or_concat' text with rfl | ⟨front, char, rfl⟩
  · cases last
  · have solid := trimEnd_eq_self_iff.mp trimmed char (by simp)
    rw [utf8_append, utf8_cons, utf8_nil, List.append_nil,
      List.getLast?_append_of_ne_nil _ (utf8EncodeChar_ne_nil char)] at last
    have member := List.mem_of_getLast? last
    have white := isspace_iff.mp space
    have other : byte.toNat ≠ 0xA0 := by
      intro same
      exact other (UInt8.toNat_inj.mp same)
    have ascii : byte < 0x80 := by
      rw [UInt8.lt_iff_toNat_lt]
      have limit : UInt8.toNat 0x80 = 0x80 := rfl
      omega
    rw [ascii_of_mem_utf8EncodeChar member ascii] at white other
    simp only [isWhitespace, Bool.or_eq_false_iff, Bool.and_eq_false_iff,
      decide_eq_false_iff_not, beq_eq_false_iff_ne] at solid
    omega

theorem fieldBytes_text {width : ℕ} {token : Bytes} (positive : Field.text width ≠ .text 0)
    (within : token.length ≤ width) :
    fieldBytes (Field.text width).width token = .ok (token.rightpad width 0x20) := by
  have filled : width ≠ 0 := by
    rintro rfl
    exact positive rfl
  have noNumber : (width : ℤ) ≠ -1 := by omega
  simp [fieldBytes, Field.width, hidppDdOledNum, filled, noNumber, Nat.not_lt.mpr within]

theorem fieldBytes_payload {field : Field} {text : Text} {block : Bytes}
    (composed : Composed field text) (positive : field ≠ .text 0)
    (paid : payloadField field text = some block) :
    fieldBytes field.width (utf8 text) = .ok block := by
  cases field with
  | number =>
      rcases composed.number_bytes with ⟨value, small, read, taken, _, _⟩
      simp only [payloadField, read, Option.map_some, Option.some.injEq] at paid
      simp [fieldBytes, Field.width, hidppDdOledNum, taken, Nat.not_lt.mpr small, paid]
  | text width =>
      simp only [payloadField] at paid
      split_ifs at paid with wide
      rw [fieldBytes_text positive (Nat.not_lt.mp wide)]
      simpa using paid

/-- A payload exists exactly where every text fits its field. -/
theorem payloadFields_isSome {fields : List Field} {normal texts : List Text}
    (shaped : List.Forall₂ Composed fields normal) (carries : texts <+: normal) :
    (payloadFields fields texts).isSome ↔ ∀ index width, fields[index]? = some (.text width) →
      (utf8 (texts.getD index [])).length ≤ width := by
  induction shaped generalizing texts with
  | nil =>
      rw [List.prefix_nil.mp carries]
      simp [payloadFields]
  | @cons field text fields normal composed shaped ih =>
      cases texts with
      | nil => simp [payloadFields]
      | cons first texts =>
          rcases List.cons_prefix_cons.mp carries with ⟨rfl, others⟩
          have rest := ih others
          have here : (payloadField field first).isSome ↔
              ∀ width, field = .text width → (utf8 first).length ≤ width := by
            cases field with
            | number =>
                rcases composed.number_bytes with ⟨value, _, read, _⟩
                simp [payloadField, read]
            | text width => simp [payloadField]
          have both : (payloadFields (field :: fields) (first :: texts)).isSome ↔
              (payloadField field first).isSome ∧ (payloadFields fields texts).isSome := by
            simp only [payloadFields]
            cases payloadField field first <;> cases payloadFields fields texts <;> simp
          rw [both, here, rest]
          constructor
          · rintro ⟨first, others⟩ index width found
            cases index with
            | zero => exact first width (by simpa using found)
            | succ index => exact others index width (by simpa using found)
          · intro every
            refine ⟨fun width same => ?_, fun index width found => ?_⟩
            · exact every 0 width (by simp [same])
            · exact every (index + 1) width (by simpa using found)

/-- The driver's view of a frame whose fields up to one are read as composed. -/
theorem parseFields_cut {fields : List Field} {front back rest : List Text} {text : Text}
    {bytes : Bytes} (shaped : List.Forall₂ Composed fields (front ++ text :: rest))
    (positive : ∀ field ∈ fields, field ≠ .text 0)
    (paid : payloadFields fields (front ++ text :: back) = some bytes) :
    ∃ field before block after, Composed field text ∧ field ≠ .text 0 ∧
      payloadField field text = some block ∧ bytes = before ++ block ++ after ∧
      (back = [] → after = []) ∧
      ∀ token, parseFields (fields.map Field.width) (front.map utf8 ++ [token]) =
        (fieldBytes field.width token).map (before ++ ·) := by
  induction front generalizing fields bytes with
  | nil =>
      cases shaped with
      | @cons field _ fields _ composed shaped =>
          simp only [List.nil_append, payloadFields, Option.bind_eq_bind,
            Option.bind_eq_some_iff, Option.some.injEq] at paid
          rcases paid with ⟨block, paid, after, others, rfl⟩
          refine ⟨field, [], block, after, composed, positive field (by simp), paid, by simp,
            ?_, ?_⟩
          · rintro rfl
            simpa [payloadFields] using others.symm
          · intro token
            simp only [List.map_nil, List.nil_append, List.map_cons, parseFields,
              List.headD_cons]
            cases fieldBytes field.width token with
            | error => rfl
            | ok block => simp [bind, Except.bind, Except.map]
  | cons first front ih =>
      cases shaped with
      | @cons field _ fields _ composed shaped =>
          simp only [List.cons_append, payloadFields, Option.bind_eq_bind,
            Option.bind_eq_some_iff, Option.some.injEq] at paid
          rcases paid with ⟨head, paidHead, tail, paid, rfl⟩
          rcases ih shaped (fun other member => positive other (by simp [member])) paid with
            ⟨last, before, block, after, lastComposed, filled, paidLast, rfl, ends, parsed⟩
          refine ⟨last, head ++ before, block, after, lastComposed, filled, paidLast, by simp,
            ends, ?_⟩
          intro token
          have taken := fieldBytes_payload composed (positive field (by simp)) paidHead
          simp only [List.map_cons, List.cons_append, parseFields, List.headD_cons,
            List.tail_cons, taken, parsed]
          cases fieldBytes last.width token with
          | error => rfl
          | ok block => simp [bind, Except.bind, Except.map]

theorem utf8_joined (letter : Char) (texts : List Text) :
    utf8 (Separated.joined '|' [letter] texts) =
      Separated.joined separator (utf8 [letter]) (texts.map utf8) :=
  Separated.flatMap_joined String.utf8EncodeChar rfl

theorem zero_notMem_utf8 {text : Text} (terminated : '\x00' ∉ text) : 0 ∉ utf8 text := by
  intro member
  have code : (0 : UInt8) = UInt8.ofNat '\x00'.toNat := rfl
  rw [code] at member
  exact terminated (mem_of_mem_utf8 (by decide) member)

theorem separator_notMem_utf8 {text : Text} (free : '|' ∉ text) : separator ∉ utf8 text := by
  intro member
  have code : separator = UInt8.ofNat '|'.toNat := rfl
  rw [code] at member
  exact free (mem_of_mem_utf8 (by decide) member)

/-- The text in which the driver's string ends. -/
theorem exists_cut {texts : List Text} (nonempty : texts ≠ []) :
    ∃ front text back, texts = front ++ text :: back ∧ (∀ other ∈ front, '\x00' ∉ other) ∧
      ('\x00' ∈ text ∨ back = []) := by
  induction texts with
  | nil => exact absurd rfl nonempty
  | cons text texts ih =>
      by_cases zero : '\x00' ∈ text
      · exact ⟨[], text, texts, rfl, by simp, Or.inl zero⟩
      · by_cases others : texts = []
        · exact ⟨[], text, [], by simp [others], by simp, Or.inr rfl⟩
        · rcases ih others with ⟨front, last, back, rfl, free, ends⟩
          refine ⟨text :: front, last, back, rfl, ?_, ends⟩
          intro other member
          rcases List.mem_cons.mp member with rfl | member
          · exact zero
          · exact free other member

theorem strim_contents_joined {head token : Bytes} {front back : List Bytes}
    (headFree : 0 ∉ head) (free : ∀ other ∈ front, 0 ∉ other) (ends : 0 ∈ token ∨ back = []) :
    strim (contents (Separated.joined separator head (front ++ token :: back))) =
      Separated.joined separator head (front ++ [strim (contents token)]) := by
  have before : 0 ∉ Separated.joined separator head front ++ [separator] := by
    simp only [Separated.joined, List.mem_append, List.mem_flatMap, List.mem_cons,
      List.not_mem_nil, or_false, not_or, not_exists, not_and]
    refine ⟨⟨headFree, ?_⟩, by decide⟩
    intro other member
    exact ⟨by decide, free other member⟩
  have after : contents (Separated.joined separator token back) = contents token := by
    rcases ends with zero | rfl
    · exact contents_append_of_mem zero
    · rw [Separated.joined_nil]
  rw [Separated.joined_append, Separated.joined_cons, List.append_cons, contents_append before,
    after, ← List.append_cons, strim_append_cons (by decide), Separated.joined_concat]

/-- What the driver makes of a frame, up to the text in which its string ends. -/
theorem hidppDdOledParse_joined {known : Layout} {front back : List Text} {text : Text}
    (mirror : Mirrored known) (short : (utf8 (Separated.joined '|' [known.letter]
      (front ++ text :: back))).length < hidppDdOledText)
    (separated : ∀ other ∈ front ++ text :: back, '|' ∉ other)
    (free : ∀ other ∈ front, '\x00' ∉ other) (ends : '\x00' ∈ text ∨ back = []) :
    hidppDdOledParse (utf8 (Separated.joined '|' [known.letter] (front ++ text :: back)))
        hidppDdOledMaxLayouts =
      (parseFields (known.fields.map Field.width)
        (front.map utf8 ++ [strim (contents (utf8 text))])).map fun fields =>
          (UInt8.ofNat known.index :: fields).rightpad hidppDdOledFrame 0 := by
  have cut : strim (contents (Separated.joined separator (utf8 [known.letter])
      (front.map utf8 ++ utf8 text :: back.map utf8))) =
      Separated.joined separator (utf8 [known.letter])
        (front.map utf8 ++ [strim (contents (utf8 text))]) := by
    apply strim_contents_joined mirror.terminated
    · intro other member
      rcases List.mem_map.mp member with ⟨source, present, rfl⟩
      exact zero_notMem_utf8 (free source present)
    · rcases ends with zero | rfl
      · exact Or.inl (mem_utf8_of_mem (by decide) zero)
      · exact Or.inr rfl
  have shorter : strim (contents (utf8 text)) ⊆ utf8 text :=
    fun byte member => (List.takeWhile_prefix _).subset ((strim_isPrefix _).subset member)
  have split : (Separated.joined separator (utf8 [known.letter])
      (front.map utf8 ++ [strim (contents (utf8 text))])).splitOn separator =
      utf8 [known.letter] :: (front.map utf8 ++ [strim (contents (utf8 text))]) := by
    apply Separated.splitOn_joined mirror.separated
    intro token member
    rcases List.mem_append.mp member with member | member
    · rcases List.mem_map.mp member with ⟨source, present, rfl⟩
      exact separator_notMem_utf8 (separated source (by simp [present]))
    · rw [List.mem_singleton.mp member]
      intro inside
      exact separator_notMem_utf8 (separated text (by simp)) (shorter inside)
  have headed : utf8 [known.letter] ≠ [] := by
    apply List.ne_nil_of_length_pos
    rw [mirror.headed]
    omega
  rw [hidppDdOledParse, if_neg (Nat.not_le.mpr short), utf8_joined, List.map_append,
    List.map_cons, cut, split, parseTokens, if_neg headed, mirror.letter]
  simp only [Nat.not_le.mpr mirror.available, ↓reduceIte, mirror.field]

/-- Filling up with spaces hides a cut only where spaces were cut off. -/
theorem eq_of_rightpad_eq {short whole : Bytes} {width : ℕ} (cut : short <+: whole)
    (within : whole.length ≤ width) (last : whole.getLast? ≠ some 0x20)
    (same : short.rightpad width 0x20 = whole.rightpad width 0x20) : short = whole := by
  rcases cut with ⟨rest, rfl⟩
  rcases List.eq_nil_or_concat' rest with rfl | ⟨front, byte, rfl⟩
  · simp
  · simp only [List.rightpad, List.append_assoc, List.append_cancel_left_eq] at same
    have member : byte ∈ List.replicate (width - short.length) (0x20 : UInt8) := by
      rw [same]
      simp
    rw [List.eq_of_mem_replicate member] at last
    simp at last

theorem getD_carried (known : Layout) (values : List Text) (index : ℕ) :
    (carried known values).getD index [] = (normalise known values).getD index [] := by
  have shorter : (carried known values).length ≤ known.fields.length := by
    have length := (carried_isPrefix known values).length_le
    simpa [normalise] using length
  rw [← resize_carried known values, resize_of_le shorter]
  simp only [List.getD_eq_getElem?_getD, List.getElem?_append, List.getElem?_replicate]
  split_ifs with inside <;> simp [inside]

theorem getD_normalise {known : Layout} (values : List Text) {index width : ℕ}
    (found : known.fields[index]? = some (.text width)) :
    (normalise known values).getD index [] = trimEnd (values.getD index []) := by
  simp [normalise, List.getElem?_mapIdx, found, normaliseField]

theorem utf8_length_le {field : Field} {text : Text} (composed : Composed field text)
    (narrow : ∀ width, field = .text width → (utf8 text).length ≤ width) :
    (utf8 text).length ≤ max 3 field.width.natAbs := by
  cases field with
  | number =>
      rcases composed.number_bytes with ⟨_, _, _, _, digits, _⟩
      omega
  | text width =>
      have within := narrow width rfl
      simp only [Field.width, Int.natAbs_natCast]
      omega

theorem joined_length_le {fields : List Field} {normal texts : List Text}
    (shaped : List.Forall₂ Composed fields normal) (carries : texts <+: normal)
    (narrow : ∀ index width, fields[index]? = some (.text width) →
      (utf8 (texts.getD index [])).length ≤ width) (head : Bytes) :
    (Separated.joined separator head (texts.map utf8)).length ≤
      (fields.map fun field => max 3 field.width.natAbs + 1).sum + head.length := by
  induction shaped generalizing texts head with
  | nil =>
      rw [List.prefix_nil.mp carries]
      simp
  | @cons field text fields normal composed shaped ih =>
      cases texts with
      | nil => simp
      | cons first texts =>
          rcases List.cons_prefix_cons.mp carries with ⟨rfl, others⟩
          have rest := ih others (fun index width found => by
            simpa using narrow (index + 1) width (by simpa using found)) (utf8 first)
          have here := utf8_length_le composed fun width same => by
            simpa using narrow 0 width (by simp [same])
          rw [List.map_cons, Separated.joined_cons, List.length_append, List.length_cons,
            List.map_cons, List.sum_cons]
          omega

/-- The driver's string ends in the last text of the frame, and at its end. -/
theorem strim_contents_eq_iff {text : Text} (trimmed : trimEnd text = text) :
    strim (contents (utf8 text)) = utf8 text ↔
      '\x00' ∉ text ∧ (utf8 text).getLast? ≠ some 0xA0 := by
  constructor
  · intro whole
    have terminated : '\x00' ∉ text := by
      intro zero
      have inside : (0 : UInt8) ∈ utf8 text := mem_utf8_of_mem (by decide) zero
      rw [← whole] at inside
      exact zero_notMem_contents _ ((strim_isPrefix _).subset inside)
    refine ⟨terminated, ?_⟩
    intro last
    rcases List.getLast?_eq_some_iff.mp last with ⟨front, split⟩
    rw [contents_eq_self (zero_notMem_utf8 terminated), split,
      strim_concat_space (by decide)] at whole
    have length := (strim_isPrefix front).length_le
    rw [whole, List.length_append, List.length_singleton] at length
    omega
  · rintro ⟨terminated, last⟩
    rw [contents_eq_self (zero_notMem_utf8 terminated)]
    rcases List.eq_nil_or_concat' (utf8 text) with empty | ⟨front, byte, split⟩
    · rw [empty]
      rfl
    · have ends : (utf8 text).getLast? = some byte := by simp [split]
      have solid := utf8_last_solid trimmed ends (by
        rintro rfl
        exact last ends)
      rw [split, strim_concat_solid solid]

theorem block_eq_of_frame_eq {layout : UInt8} {before block other after : Bytes} {size : ℕ}
    (length : block.length = other.length)
    (same : (layout :: (before ++ block)).rightpad size 0 =
      (layout :: (before ++ other ++ after)).rightpad size 0) : block = other := by
  simp only [List.rightpad, List.cons_append, List.append_assoc, List.cons.injEq, true_and,
    List.append_cancel_left_eq] at same
  exact List.append_inj_left same length

/-- A text that the driver cuts short leaves another block behind. -/
theorem parse_eq_payload_iff {known : Layout} {front back rest : List Text} {text : Text}
    {fields : Bytes} (mirror : Mirrored known)
    (shaped : List.Forall₂ Composed known.fields (front ++ text :: rest))
    (paid : payloadFields known.fields (front ++ text :: back) = some fields)
    (short : (utf8 (Separated.joined '|' [known.letter]
      (front ++ text :: back))).length < hidppDdOledText)
    (separated : ∀ other ∈ front ++ text :: back, '|' ∉ other)
    (free : ∀ other ∈ front, '\x00' ∉ other) (ends : '\x00' ∈ text ∨ back = []) :
    hidppDdOledParse (utf8 (Separated.joined '|' [known.letter] (front ++ text :: back)))
        hidppDdOledMaxLayouts =
      .ok ((UInt8.ofNat known.index :: fields).rightpad hidppDdOledFrame 0) ↔
    strim (contents (utf8 text)) = utf8 text := by
  rcases parseFields_cut shaped mirror.positive paid with
    ⟨field, before, block, after, composed, filled, paidText, rfl, noneAfter, parsed⟩
  rw [hidppDdOledParse_joined mirror short separated free ends, parsed]
  constructor
  · intro same
    cases field with
    | number =>
        rcases composed.number_bytes with ⟨_, _, _, _, _, digits⟩
        apply (strim_contents_eq_iff composed.trimEnd_eq).mpr
        constructor
        · intro zero
          have inside : (0 : UInt8) ∈ utf8 text := mem_utf8_of_mem (by decide) zero
          exact absurd (digits 0 inside).1 (by decide)
        · intro last
          exact absurd (digits _ (List.mem_of_getLast? last)).2 (by decide)
    | text width =>
        have cut : strim (contents (utf8 text)) <+: utf8 text :=
          (strim_isPrefix _).trans (List.takeWhile_prefix _)
        simp only [payloadField] at paidText
        split_ifs at paidText with wide
        simp only [Option.some.injEq] at paidText
        have within := Nat.not_lt.mp wide
        have kept := fieldBytes_text filled (cut.length_le.trans within)
        apply eq_of_rightpad_eq cut within
        · intro last
          have solid := utf8_last_solid composed.trimEnd_eq last (by decide)
          exact absurd solid (by decide)
        · simp only [kept, Except.map, Except.ok.injEq, ← paidText] at same
          apply block_eq_of_frame_eq _ same
          have narrow := cut.length_le.trans within
          simp only [List.rightpad, List.length_append, List.length_replicate]
          omega
  · intro whole
    have terminated := ((strim_contents_eq_iff composed.trimEnd_eq).mp whole).1
    rcases ends with zero | rfl
    · exact absurd zero terminated
    · rw [whole, fieldBytes_payload composed filled paidText, noneAfter rfl]
      simp [Except.map]

theorem terminated_of_carried {known : Layout} {values : List Text}
    (terminated : ∀ text ∈ carried known values, '\x00' ∉ text) :
    ∀ text ∈ normalise known values, '\x00' ∉ text := by
  intro text member
  have shorter : (carried known values).length ≤ known.fields.length := by
    have length := (carried_isPrefix known values).length_le
    simpa [normalise] using length
  rw [← resize_carried known values, resize_of_le shorter] at member
  rcases List.mem_append.mp member with member | member
  · exact terminated text member
  · simp [List.eq_of_mem_replicate member]

/-- Every text of the frame is within its field exactly where there is a payload. -/
theorem payload_isSome {known : Layout} {values : List Text}
    (shaped : List.Forall₂ Composed known.fields (normalise known values)) :
    (payloadFields known.fields (carried known values)).isSome ↔
      ∀ index width, known.fields[index]? = some (.text width) →
        (utf8 (trimEnd (values.getD index []))).length ≤ width := by
  rw [payloadFields_isSome shaped (carried_isPrefix known values)]
  constructor
  · intro every index width found
    rw [← getD_normalise values found, ← getD_carried]
    exact every index width found
  · intro every index width found
    rw [getD_carried, getD_normalise values found]
    exact every index width found

theorem carried_separated {known : Layout} {values : List Text}
    (shaped : List.Forall₂ Composed known.fields (normalise known values)) :
    ∀ text ∈ carried known values, '|' ∉ text := by
  intro text member
  rcases mem_normalise shaped ((carried_isPrefix known values).subset member) with ⟨field, shape⟩
  exact shape.separator_notMem

theorem carried_trimmed {known : Layout} {values : List Text}
    (shaped : List.Forall₂ Composed known.fields (normalise known values)) :
    ∀ text ∈ carried known values, trimEnd text = text := by
  intro text member
  rcases mem_normalise shaped ((carried_isPrefix known values).subset member) with ⟨field, shape⟩
  exact shape.trimEnd_eq

/-- A frame within its fields is within the driver's buffer. -/
theorem frame_short {known : Layout} {values : List Text} (mirror : Mirrored known)
    (shaped : List.Forall₂ Composed known.fields (normalise known values))
    (paid : (payloadFields known.fields (carried known values)).isSome) :
    (utf8 (Separated.joined '|' [known.letter] (carried known values))).length <
      hidppDdOledText := by
  have widths := (payloadFields_isSome shaped (carried_isPrefix known values)).mp paid
  have length := joined_length_le shaped (carried_isPrefix known values) widths
    (utf8 [known.letter])
  have room := mirror.room
  rw [utf8_joined]
  rw [mirror.headed] at length
  omega

theorem fits_of_accepted {known : Layout} {values : List Text} {bytes : Bytes}
    (mirror : Mirrored known)
    (shaped : List.Forall₂ Composed known.fields (normalise known values))
    (paid : payload known values = some bytes)
    (accepted : hidppDdOledParse (utf8 (Separated.joined '|' [known.letter]
      (carried known values))) hidppDdOledMaxLayouts = .ok bytes) : Fits known values := by
  rcases Option.map_eq_some_iff.mp paid with ⟨fields, blocks, rfl⟩
  have narrow := (payload_isSome shaped).mp (by simp [blocks])
  by_cases blank : carried known values = []
  · exact ⟨narrow, terminated_of_carried (by simp [blank]), by simp [blank]⟩
  · rcases exists_cut blank with ⟨front, text, back, split, free, ends⟩
    rcases carried_isPrefix known values with ⟨tail, whole⟩
    have short := frame_short mirror shaped (by simp [blocks])
    have separated := carried_separated shaped
    have textTrimmed := carried_trimmed shaped text (by simp [split])
    rw [split] at blocks short separated accepted
    rw [← whole, split, List.append_assoc, List.cons_append] at shaped
    have kept := (parse_eq_payload_iff mirror shaped blocks short separated free ends).mp accepted
    rcases (strim_contents_eq_iff textTrimmed).mp kept with ⟨terminated, last⟩
    rcases ends with zero | rfl
    · exact absurd zero terminated
    · refine ⟨narrow, terminated_of_carried ?_, ?_⟩
      · intro other member
        rw [split, List.mem_append, List.mem_singleton] at member
        rcases member with member | rfl
        · exact free other member
        · exact terminated
      · intro other ends
        rw [split, List.getLast?_concat, Option.some.injEq] at ends
        rw [← ends]
        exact last

theorem accepted_of_fits {known : Layout} {values : List Text} (mirror : Mirrored known)
    (shaped : List.Forall₂ Composed known.fields (normalise known values))
    (fits : Fits known values) :
    ∃ bytes, payload known values = some bytes ∧
      hidppDdOledParse (utf8 (Separated.joined '|' [known.letter] (carried known values)))
        hidppDdOledMaxLayouts = .ok bytes := by
  have paid := (payload_isSome shaped).mpr fits.widths
  rcases Option.isSome_iff_exists.mp paid with ⟨fields, blocks⟩
  by_cases blank : carried known values = []
  · rw [payload, blank, Separated.joined_nil, mirror.blank]
    exact ⟨_, by simp [payloadFields], rfl⟩
  · rcases exists_cut blank with ⟨front, text, back, split, free, ends⟩
    have carries := carried_isPrefix known values
    have terminated := fits.terminated text (carries.subset (by simp [split]))
    rcases ends with zero | rfl
    · exact absurd zero terminated
    · rcases carries with ⟨tail, whole⟩
      have short := frame_short mirror shaped paid
      have separated := carried_separated shaped
      have textTrimmed := carried_trimmed shaped text (by simp [split])
      have kept := (strim_contents_eq_iff textTrimmed).mpr
        ⟨terminated, fits.last text (by simp [split])⟩
      refine ⟨_, by rw [payload, blocks]; rfl, ?_⟩
      rw [split] at blocks short separated ⊢
      rw [← whole, split, List.append_assoc, List.cons_append] at shaped
      exact (parse_eq_payload_iff mirror shaped blocks short separated free (Or.inr rfl)).mpr kept

/-- The driver takes the composed frame for what it stands for exactly where it fits. -/
theorem accepted_iff {known : Layout} {values : List Text} (mirror : Mirrored known)
    (shaped : List.Forall₂ Composed known.fields (normalise known values)) :
    (∃ bytes, payload known values = some bytes ∧
      hidppDdOledParse (utf8 (Separated.joined '|' [known.letter] (carried known values)))
        hidppDdOledMaxLayouts = .ok bytes) ↔ Fits known values := by
  constructor
  · rintro ⟨bytes, paid, accepted⟩
    exact fits_of_accepted mirror shaped paid accepted
  · intro fits
    exact accepted_of_fits mirror shaped fits

/-- A frame that composes is drawn as it was composed exactly where its texts fit their fields in
bytes and nothing in it ends the driver's string early. -/
theorem agrees_iff_fits {known : Layout} {values : List Text} {frame : Text}
    (present : known ∈ layouts) (plain : ∀ value ∈ values, '{' ∉ value)
    (composed : compose known values = .ok frame) :
    Agrees known values frame ↔ Fits known values := by
  have shaped := (compose_cases plain composed).1
  have framed := compose_eq (layouts_named known present).2.1 plain composed
  have accepted := accepted_iff (mirrored present) shaped
  rw [← framed] at accepted
  rw [Agrees, accepted]
  exact and_iff_left (parse_compose present plain composed)

/-- An accented letter inside a row that has room for its two bytes. -/
theorem agrees_iff_fits_row :
    Agrees { index := 7, letter := 'H', fields := [.text 21, .text 10] }
      [['T', 'o', 'p', ' '], [' ', 'é', '1']] ['H', '|', 'T', 'o', 'p', '|', ' ', 'é', '1'] := by
  apply (agrees_iff_fits (by decide) (by decide) (by decide)).mpr
  refine ⟨?_, by decide, ?_⟩
  · intro index width found
    match index, found with
    | 0, found =>
        cases found
        decide
    | 1, found =>
        cases found
        decide
  · intro text last
    cases last
    decide

/-- The gear `é` composes, and the driver refuses it: one character is two bytes. -/
theorem composes_and_refused : ¬∀ known ∈ layouts, ∀ values : List Text,
    (∀ value ∈ values, '{' ∉ value) → ∀ frame, compose known values = .ok frame →
      Agrees known values frame := by
  intro every
  have agrees := every { index := 5, letter := 'F', fields := [.text 1, .text 3] } (by decide)
    [['é']] (by decide) ['F', '|', 'é'] (by decide)
  rcases agrees with ⟨⟨bytes, _, accepted⟩, _⟩
  have refused : hidppDdOledParse (utf8 ['F', '|', 'é']) hidppDdOledMaxLayouts =
      .error .messageSize := by
    decide
  rw [refused] at accepted
  cases accepted

end TrueForce.Oled
