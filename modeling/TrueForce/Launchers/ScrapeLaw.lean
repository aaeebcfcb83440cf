import TrueForce.Launchers.Scraping

/-!
# What the scraper gets right

On documents whose strings have balanced braces and whose names do not end in a field's
name behind a quotation mark, the scraper finds exactly the games, and their ids and titles
are right exactly when they are printed without an escape.  Neither condition can be
dropped for a single string: an object with one string that does not meet it is scraped
wrongly.
-/

namespace TrueForce.Launchers

open RustText Json Scraper

variable {style : Style} {text name : Text} {scraper : Scraper}

/-- The text is printed as it is. -/
def Unescaped (style : Style) (text : Text) : Prop := ∀ char ∈ text, style.escape char = [char]

theorem shownEntry_eq_self_iff {entry : Entry} :
    shownEntry style entry = entry ↔
      Unescaped style entry.appName ∧ Unescaped style entry.title := by
  obtain ⟨appName, title⟩ := entry
  rw [shownEntry, Entry.mk.injEq, shown_eq_self_iff, shown_eq_self_iff]
  rfl

def Faithful (style : Style) (value : Value) : Prop :=
  scrapeEntries (style.print value) = games value

theorem scrapeEntries_eq_games_iff {value : Value} (tame : Tame value) :
    scrapeEntries (style.print value) = games value ↔
      ∀ entry ∈ games value, Unescaped style entry.appName ∧ Unescaped style entry.title := by
  have same := List.map_inj_left (l := games value) (f := shownEntry style) (g := id)
  rw [List.map_id] at same
  rw [scrapeEntries_print tame, same]
  simp only [id, shownEntry_eq_self_iff]

section OneObject

/-- What a line with a string member does. -/
def scrapeMember (style : Style) (scraper : Scraper) (member : Text × Text) : Scraper :=
  let field (key : Text) : Option Text :=
    if EndsIn key member.1 then some (shown style member.2) else none
  (((member.2.foldl brace (member.1.foldl brace scraper)).keepId
    ((field appNameKey).or (field appNameCamelKey))).keepTitle (field titleKey)).emit

def stringMembers (members : List (Text × Text)) : List Member :=
  members.map fun member => (member.1, .string member.2)

theorem scrapeLine_member {indent tail : Text} (blank : Indentation indent) (ends : Tail tail)
    (scraper : Scraper) (member : Text × Text) :
    scraper.scrapeLine
        (indent ++ style.quote member.1 ++ [':', ' '] ++ style.quote member.2 ++ tail) =
      scrapeMember style scraper member := by
  have colon : Braceless [':', ' '] := by decide
  rw [scrapeLine, List.foldl_append, List.foldl_append, List.foldl_append, List.foldl_append,
    foldl_brace_of_braceless (braceless_of_indentation blank), foldl_brace_quote,
    foldl_brace_of_braceless colon, foldl_brace_quote,
    foldl_brace_of_braceless (braceless_of_tail ends),
    scrapeStrField_member (plain_of_mem_fieldNames (by decide)) blank _ _ ends,
    scrapeStrField_member (plain_of_mem_fieldNames (by decide)) blank _ _ ends,
    scrapeStrField_member (plain_of_mem_fieldNames (by decide)) blank _ _ ends]
  rfl

theorem foldl_stringMembers (depth : ℕ) (members : List (Text × Text)) (scraper : Scraper) :
    (style.memberLines depth (stringMembers members)).foldl scrapeLine scraper =
      members.foldl (scrapeMember style) scraper := by
  induction members generalizing scraper with
  | nil => rfl
  | cons member rest ih =>
      rw [stringMembers, List.map_cons, Style.memberLines, List.foldl_append, ← stringMembers,
        Style.lines, List.foldl_cons, List.foldl_nil,
        scrapeLine_member (indentation_indent style depth) (tail_comma _), ih, List.foldl_cons]

/-- Nothing complete is pending, in the object or around it. -/
structure Waiting (scraper : Scraper) : Prop where
  pending : scraper.pending.Incomplete
  stack : ∀ frame ∈ scraper.stack, frame.Incomplete

theorem Waiting.pop (waiting : Waiting scraper) : Waiting scraper.pop := by
  obtain ⟨pending, stack, entries⟩ := scraper
  cases stack with
  | nil => exact waiting
  | cons frame stack =>
      exact ⟨waiting.stack frame List.mem_cons_self,
        fun other known => waiting.stack other (List.mem_cons_of_mem _ known)⟩

theorem Waiting.brace (waiting : Waiting scraper) (char : Char) :
    Waiting (scraper.brace char) := by
  rw [Scraper.brace]
  split
  · exact ⟨.inl rfl, List.forall_mem_cons.mpr ⟨waiting.pending, waiting.stack⟩⟩
  · split
    · exact waiting.pop
    · exact waiting

theorem Waiting.foldl_brace (waiting : Waiting scraper) (text : Text) :
    Waiting (text.foldl Scraper.brace scraper) := by
  induction text generalizing scraper with
  | nil => exact waiting
  | cons char text ih => exact ih (waiting.brace char)

theorem waiting_emit (stack : ∀ frame ∈ scraper.stack, frame.Incomplete) :
    Waiting scraper.emit := by
  obtain ⟨⟨id, title⟩, frames, entries⟩ := scraper
  cases id with
  | none => exact ⟨.inl rfl, stack⟩
  | some id =>
      cases title with
      | none => exact ⟨.inr rfl, stack⟩
      | some title => exact ⟨.inl rfl, stack⟩

theorem Waiting.scrapeMember (waiting : Waiting scraper) (member : Text × Text) :
    Waiting (scrapeMember style scraper member) :=
  waiting_emit ((waiting.foldl_brace member.1).foldl_brace member.2).stack

theorem Waiting.foldl_scrapeMember (waiting : Waiting scraper) (members : List (Text × Text)) :
    Waiting (members.foldl (Launchers.scrapeMember style) scraper) := by
  induction members generalizing scraper with
  | nil => exact waiting
  | cons member rest ih => exact ih (waiting.scrapeMember member)

theorem entries_pop (scraper : Scraper) : scraper.pop.entries = scraper.entries := by
  rw [Scraper.pop]
  split <;> rfl

/-- An object of strings is scraped member by member. -/
theorem scrapeEntries_strings (members : List (Text × Text)) :
    scrapeEntries (style.print (.object (stringMembers members))) =
      (members.foldl (scrapeMember style) Scraper.new.push).entries := by
  rw [scrapeEntries, Style.lines_print, Style.lines]
  split
  · rename_i empty
    obtain rfl := List.map_eq_nil_iff.mp (List.isEmpty_iff.mp empty)
    rfl
  · have waiting : Waiting (members.foldl (scrapeMember style) Scraper.new.push) :=
      Waiting.foldl_scrapeMember ⟨.inl rfl, List.forall_mem_cons.mpr ⟨.inl rfl,
        fun _ known => absurd known List.not_mem_nil⟩⟩ members
    have opened : Scraper.new.scrapeLine ([] ++ ['\x7b']) = Scraper.new.push := rfl
    have quiet : Quiet style (style.indent 0) := quiet_of_indentation (indentation_indent style 0)
    have free : '"' ∉ ['\x7d'] := by decide
    have shut := scrapeLine_of_quiet quiet free waiting.pop.pending
    rw [List.cons_append, List.foldl_cons, opened, List.foldl_append, foldl_stringMembers,
      List.foldl_cons, List.foldl_nil, List.append_nil, shut]
    exact entries_pop _

theorem entries_brace (scraper : Scraper) (char : Char) :
    (scraper.brace char).entries = scraper.entries := by
  rw [brace]
  split
  · rfl
  · split
    · exact entries_pop scraper
    · rfl

theorem entries_foldl_brace (text : Text) (scraper : Scraper) :
    (text.foldl brace scraper).entries = scraper.entries := by
  induction text generalizing scraper with
  | nil => rfl
  | cons char text ih => rw [List.foldl_cons, ih, entries_brace]

/-- Nothing is pending anywhere. -/
structure Drained (scraper : Scraper) : Prop where
  pending : scraper.pending = .empty
  stack : ∀ frame ∈ scraper.stack, frame = .empty

theorem Drained.brace (drained : Drained scraper) (char : Char) : Drained (scraper.brace char) := by
  obtain ⟨pending, stack, entries⟩ := scraper
  rw [Scraper.brace]
  split
  · exact ⟨rfl, List.forall_mem_cons.mpr ⟨drained.pending, drained.stack⟩⟩
  · split
    · cases stack with
      | nil => exact drained
      | cons frame stack =>
          obtain ⟨top, rest⟩ := List.forall_mem_cons.mp drained.stack
          exact ⟨top, rest⟩
    · exact drained

theorem Drained.foldl_brace (drained : Drained scraper) (text : Text) :
    Drained (text.foldl Scraper.brace scraper) := by
  induction text generalizing scraper with
  | nil => exact drained
  | cons char text ih => exact ih (drained.brace char)

/-- An object inside others that have nothing pending, under so many braces more. -/
inductive Buried : ℕ → Scraper → Prop where
  | top {scraper : Scraper} (inside : scraper.stack ≠ [])
      (rest : ∀ frame ∈ scraper.stack, frame = .empty) : Buried 0 scraper
  | under {depth : ℕ} {scraper : Scraper} (buried : Buried depth scraper) :
      Buried (depth + 1) scraper.push

/-- Braces that are not balanced leave behind what was pending. -/
theorem pending_of_not_closes {depth : ℕ} (unclosed : ¬ Closes depth text)
    (buried : Buried depth scraper) : (text.foldl Scraper.brace scraper).pending = .empty := by
  induction text generalizing depth scraper with
  | nil =>
      cases buried with
      | top inside rest => exact absurd rfl unclosed
      | under buried => rfl
  | cons char text ih =>
      rw [Closes] at unclosed
      rw [List.foldl_cons, Scraper.brace]
      by_cases opens : char = '\x7b'
      · rw [if_pos opens] at unclosed ⊢
        exact ih unclosed buried.under
      · rw [if_neg opens] at unclosed ⊢
        by_cases shuts : char = '\x7d'
        · rw [if_pos shuts] at unclosed ⊢
          cases buried with
          | top inside rest =>
              obtain ⟨pending, stack, entries⟩ := scraper
              obtain ⟨frame, stack, rfl⟩ := List.exists_cons_of_ne_nil inside
              obtain ⟨top, rest⟩ := List.forall_mem_cons.mp rest
              have drained : Drained (Scraper.pop ⟨pending, frame :: stack, entries⟩) := ⟨top, rest⟩
              exact (drained.foldl_brace text).pending
          | under buried =>
              rw [pop_push]
              exact ih (fun closes => unclosed ⟨Nat.succ_ne_zero _, closes⟩) buried
        · rw [if_neg shuts] at unclosed ⊢
          exact ih unclosed buried

def one : Text := "1".toList

def two : Text := "2".toList

def three : Text := "3".toList

def noteKey : Text := "note".toList

def oneObject (members : List (Text × Text)) : Value :=
  .object (stringMembers ((appNameKey, one) :: members))

/-- The scraper behind the id of the object. -/
def afterId : Scraper :=
  { pending := { id := some one, title := none }, stack := [.empty], entries := [] }

theorem shown_digit (style : Style) {digit : Text} (known : digit ∈ [one, two, three]) :
    shown style digit = digit := by
  apply shown_of_plain
  have printable : ∀ digit ∈ [one, two, three], ∀ char ∈ digit, char ≠ '"' ∧ char ≠ '\\' ∧
      0x20 ≤ char.toNat ∧ char.toNat ≤ 0x7E := by decide
  intro char inside
  obtain ⟨mark, stroke, least, most⟩ := printable digit known char inside
  exact Style.escape_eq_self mark stroke least most

theorem shown_one (style : Style) : shown style one = one := shown_digit style (by decide)

theorem shown_two (style : Style) : shown style two = two := shown_digit style (by decide)

theorem shown_three (style : Style) : shown style three = three := shown_digit style (by decide)

theorem scrapeEntries_oneObject (members : List (Text × Text)) :
    scrapeEntries (style.print (oneObject members)) =
      (members.foldl (scrapeMember style) afterId).entries := by
  rw [oneObject, scrapeEntries_strings, List.foldl_cons]
  have first : scrapeMember style Scraper.new.push (appNameKey, one) = afterId := by
    simp only [scrapeMember, shown_one]
    rfl
  rw [first]

theorem pending_of_not_balanced (unbalanced : ¬ Balanced text) :
    (text.foldl brace afterId).pending = .empty :=
  pending_of_not_closes unbalanced (.top (List.cons_ne_nil _ _) (by decide))

theorem scrapeMember_title (style : Style) (scraper : Scraper) (text : Text) :
    scrapeMember style scraper (titleKey, text) =
      ((text.foldl brace scraper).keepTitle (some (shown style text))).emit := rfl

theorem scrapeMember_note (style : Style) (scraper : Scraper) (text : Text) :
    scrapeMember style scraper (noteKey, text) = (text.foldl brace scraper).emit := rfl

theorem entries_emit_of_noId (noId : scraper.pending.id = none) :
    scraper.emit.entries = scraper.entries := by
  rw [emit_of_incomplete (.inl noId)]

/-- A value whose members are strings is tame when these are. -/
theorem tame_strings {members : List (Text × Text)} (distinct : (members.map Prod.fst).Nodup)
    (balanced : ∀ member ∈ members, Balanced member.1 ∧ Balanced member.2)
    (named : ∀ member ∈ members, ∀ key ∈ fieldNames, EndsIn key member.1 → member.1 = key) :
    Tame (.object (stringMembers members)) := by
  have none (inner : List Member) :
      inner ∉ Value.memberObjects (stringMembers members) := by
    intro known
    obtain ⟨member, listed, inside⟩ := Value.mem_memberObjects.mp known
    obtain ⟨source, -, rfl⟩ := List.mem_map.mp listed
    cases inside
  refine ⟨fun text known => ?_, fun inner known => ?_, fun inner known => ?_⟩
  · obtain ⟨member, listed, inside⟩ := Value.mem_memberTexts.mp known
    obtain ⟨source, given, rfl⟩ := List.mem_map.mp listed
    obtain same | inside := inside
    · rw [same]
      exact (balanced source given).1
    · rw [List.mem_singleton.mp inside]
      exact (balanced source given).2
  · obtain rfl | known := List.mem_cons.mp known
    · intro member listed
      obtain ⟨source, given, rfl⟩ := List.mem_map.mp listed
      exact fun _ _ => named source given
    · exact absurd known (none inner)
  · obtain rfl | known := List.mem_cons.mp known
    · rwa [stringMembers, List.map_map]
    · exact absurd known (none inner)

theorem named_of_mem_fieldNames (known : name ∈ appNameKey :: noteKey :: titleKey :: []) :
    ∀ key ∈ fieldNames, EndsIn key name → name = key := by
  have named : ∀ name ∈ [appNameKey, noteKey, titleKey], ∀ key ∈ fieldNames,
      EndsIn key name → name = key := by decide
  exact named name known

theorem tame_oneObject {members : List (Text × Text)}
    (distinct : (appNameKey :: members.map Prod.fst).Nodup)
    (balanced : ∀ member ∈ members, Balanced member.1 ∧ Balanced member.2)
    (named : ∀ member ∈ members, ∀ key ∈ fieldNames, EndsIn key member.1 → member.1 = key) :
    Tame (oneObject members) := by
  refine tame_strings distinct ?_ ?_
  · rw [List.forall_mem_cons]
    have digits : Balanced appNameKey ∧ Balanced one := by decide
    exact ⟨digits, balanced⟩
  · rw [List.forall_mem_cons]
    exact ⟨named_of_mem_fieldNames (by decide), named⟩

theorem unescaped_of_shown (same : shown style text = text) : Unescaped style text :=
  shown_eq_self_iff.mp same

/-- A title is found and right exactly when its braces are balanced and it has no escape. -/
theorem title_iff : scrapeEntries (style.print (oneObject [(titleKey, text)])) =
      games (oneObject [(titleKey, text)]) ↔
    Balanced text ∧ Unescaped style text := by
  have found : games (oneObject [(titleKey, text)]) = [{ appName := one, title := text }] := rfl
  by_cases balanced : Balanced text
  · have names : [appNameKey, titleKey].Nodup := by decide
    have field : Balanced titleKey := by decide
    have known : titleKey ∈ [appNameKey, noteKey, titleKey] := by decide
    have tame : Tame (oneObject [(titleKey, text)]) :=
      tame_oneObject names (List.forall_mem_singleton.mpr ⟨field, balanced⟩)
        (List.forall_mem_singleton.mpr (named_of_mem_fieldNames known))
    rw [scrapeEntries_eq_games_iff tame, found, List.forall_mem_singleton]
    exact and_congr_left fun _ =>
      ⟨fun _ => balanced, fun _ => unescaped_of_shown (shown_one style)⟩
  · have lost := pending_of_not_balanced balanced
    have nothing : scrapeEntries (style.print (oneObject [(titleKey, text)])) = [] := by
      rw [scrapeEntries_oneObject, List.foldl_cons, List.foldl_nil, scrapeMember_title,
        entries_emit_of_noId (by rw [keepTitle, lost]; rfl)]
      exact entries_foldl_brace text afterId
    rw [nothing, found]
    exact ⟨fun same => absurd same.symm (List.cons_ne_nil _ _), fun both => absurd both.1 balanced⟩

/-- Another text of the object has to have balanced braces. -/
theorem note_iff : scrapeEntries (style.print (oneObject [(noteKey, text), (titleKey, three)])) =
      games (oneObject [(noteKey, text), (titleKey, three)]) ↔
    Balanced text := by
  have found : games (oneObject [(noteKey, text), (titleKey, three)]) =
    [{ appName := one, title := three }] := rfl
  by_cases balanced : Balanced text
  · have names : [appNameKey, noteKey, titleKey].Nodup := by decide
    have fields : Balanced noteKey ∧ Balanced titleKey ∧ Balanced three := by decide
    have known : noteKey ∈ [appNameKey, noteKey, titleKey] ∧
        titleKey ∈ [appNameKey, noteKey, titleKey] := by decide
    have tame : Tame (oneObject [(noteKey, text), (titleKey, three)]) :=
      tame_oneObject names
        (List.forall_mem_cons.mpr ⟨⟨fields.1, balanced⟩, List.forall_mem_singleton.mpr fields.2⟩)
        (List.forall_mem_cons.mpr ⟨named_of_mem_fieldNames known.1,
          List.forall_mem_singleton.mpr (named_of_mem_fieldNames known.2)⟩)
    rw [scrapeEntries_eq_games_iff tame, found, List.forall_mem_singleton]
    exact ⟨fun _ => balanced, fun _ => ⟨unescaped_of_shown (shown_one style),
      unescaped_of_shown (shown_three style)⟩⟩
  · have lost := pending_of_not_balanced balanced
    have noted : scrapeMember style afterId (noteKey, text) = text.foldl brace afterId := by
      rw [scrapeMember_note, emit_of_incomplete (by rw [lost]; exact .inl rfl)]
    have braceless : Braceless three := by decide
    have nothing : scrapeEntries (style.print (oneObject [(noteKey, text), (titleKey, three)])) =
        [] := by
      rw [scrapeEntries_oneObject, List.foldl_cons, List.foldl_cons, List.foldl_nil, noted,
        scrapeMember_title, foldl_brace_of_braceless braceless,
        entries_emit_of_noId (by rw [keepTitle, lost]; rfl)]
      exact entries_foldl_brace text afterId
    rw [nothing, found]
    exact ⟨fun same => absurd same.symm (List.cons_ne_nil _ _), fun both => absurd both balanced⟩

/-- An id that is not that of the object, pending or emitted. -/
structure Strayed (scraper : Scraper) : Prop where
  pending : scraper.pending.id ≠ some one
  entries : ∀ entry ∈ scraper.entries, entry.appName ≠ one

theorem strayed_emit (pending : scraper.pending.id ≠ some one)
    (entries : ∀ entry ∈ scraper.entries, entry.appName ≠ one) : Strayed scraper.emit := by
  obtain ⟨⟨id, title⟩, stack, given⟩ := scraper
  cases id with
  | none => exact ⟨pending, entries⟩
  | some id =>
      cases title with
      | none => exact ⟨pending, entries⟩
      | some title =>
          refine ⟨Option.some_ne_none one ∘ Eq.symm, fun entry known => ?_⟩
          obtain known | known := List.mem_append.mp known
          · exact entries entry known
          · rw [List.mem_singleton.mp known]
            exact fun same => pending (congrArg some same)

theorem strayed_title (strayed : Strayed scraper) :
    Strayed (scrapeMember style scraper (titleKey, three)) := by
  have braceless : Braceless three := by decide
  rw [scrapeMember_title, foldl_brace_of_braceless braceless]
  exact strayed_emit strayed.pending strayed.entries

theorem scrapeMember_two (style : Style) (scraper : Scraper) (text : Text) :
    scrapeMember style scraper (text, two) =
      (((text.foldl brace scraper).keepId
        ((if EndsIn appNameKey text then some two else none).or
          (if EndsIn appNameCamelKey text then some two else none))).keepTitle
        (if EndsIn titleKey text then some two else none)).emit := by
  have braceless : Braceless two := by decide
  simp only [scrapeMember, shown_two, foldl_brace_of_braceless braceless]

/-- The id is lost behind braces that are not balanced, or taken from another member. -/
theorem strayed_name
    (irregular : ¬ Balanced text ∨ EndsIn appNameKey text ∨ EndsIn appNameCamelKey text) :
    Strayed (scrapeMember style afterId (text, two)) := by
  have other : two ≠ one := by decide
  have entries : (text.foldl brace afterId).entries = [] := entries_foldl_brace text afterId
  rw [scrapeMember_two]
  refine strayed_emit ?_ fun entry known => ?_
  · by_cases first : EndsIn appNameKey text
    · rw [if_pos first]
      exact other ∘ Option.some.inj
    · by_cases second : EndsIn appNameCamelKey text
      · rw [if_neg first, if_pos second]
        exact other ∘ Option.some.inj
      · have lost := pending_of_not_balanced
          (irregular.resolve_right (not_or.mpr ⟨first, second⟩))
        rw [if_neg first, if_neg second, keepTitle, keepId, lost]
        exact Option.some_ne_none one ∘ Eq.symm
  · have known : entry ∈ (text.foldl brace afterId).entries := known
    rw [entries] at known
    exact absurd known List.not_mem_nil

/-- A member that passes for the title makes the pair complete. -/
theorem scrapeMember_of_titled (balanced : Balanced text) (first : ¬ EndsIn appNameKey text)
    (second : ¬ EndsIn appNameCamelKey text) (titled : EndsIn titleKey text) :
    scrapeMember style afterId (text, two) =
      { pending := .empty, stack := [.empty], entries := [⟨one, two⟩] } := by
  rw [scrapeMember_two, foldl_brace_of_balanced balanced, if_neg first, if_neg second,
    if_pos titled]
  rfl

theorem games_named (text : Text) (other : text ∉ fieldNames) :
    games (oneObject [(text, two), (titleKey, three)]) = [{ appName := one, title := three }] := by
  simp only [fieldNames, List.mem_cons, List.not_mem_nil, or_false, not_or] at other
  have noId : idOf (text, .string two) = none := if_neg (not_or.mpr ⟨other.1, other.2.1⟩)
  have noTitle : titleOf (text, .string two) = none := if_neg other.2.2
  have ids : lastId [(appNameKey, .string one), (text, .string two)] = some one := by
    rw [← List.singleton_append, lastId_append, noId]
    rfl
  have titles : lastTitle [(appNameKey, .string one), (text, .string two)] = none := by
    rw [← List.singleton_append, lastTitle_append, noTitle]
    rfl
  have before : pairOf [(appNameKey, .string one), (text, .string two)] = none :=
    pairOf_eq_none_iff.mpr (.inr titles)
  have after : pairOf [(appNameKey, .string one), (text, .string two), (titleKey, .string three)] =
      some { appName := one, title := three } := by
    have split : [(appNameKey, Value.string one), (text, .string two), (titleKey, .string three)] =
      [(appNameKey, .string one), (text, .string two)] ++ [(titleKey, .string three)] := rfl
    rw [split, pairOf_eq_some_iff, lastId_append, lastTitle_append, ids]
    exact ⟨rfl, rfl⟩
  simp only [oneObject, stringMembers, List.map_cons, List.map_nil, games, memberGames, completed,
    List.nil_append, List.cons_append, before, after]
  rfl

/-- The name of another string member has to be balanced too, and must not end in a field's. -/
theorem name_iff (other : text ∉ [appNameKey, titleKey]) :
    scrapeEntries (style.print (oneObject [(text, two), (titleKey, three)])) =
        games (oneObject [(text, two), (titleKey, three)]) ↔
      Balanced text ∧ ∀ key ∈ fieldNames, EndsIn key text → text = key := by
  simp only [List.mem_cons, List.not_mem_nil, or_false, not_or] at other
  constructor
  · intro same
    by_contra irregular
    have unlisted : text ∉ fieldNames := by
      intro listed
      have regular : ∀ name ∈ fieldNames, Balanced name ∧
        ∀ key ∈ fieldNames, EndsIn key name → name = key := by decide
      exact irregular (regular text listed)
    rw [games_named text unlisted, scrapeEntries_oneObject, List.foldl_cons, List.foldl_cons,
      List.foldl_nil] at same
    by_cases astray : ¬ Balanced text ∨ EndsIn appNameKey text ∨ EndsIn appNameCamelKey text
    · have strayed : Strayed (scrapeMember style (scrapeMember style afterId (text, two))
          (titleKey, three)) := strayed_title (strayed_name astray)
      have entries := strayed.entries
      rw [same] at entries
      exact entries _ List.mem_cons_self rfl
    · rw [not_or, not_or, not_not] at astray
      obtain ⟨balanced, first, second⟩ := astray
      have titled : EndsIn titleKey text := by
        by_contra untitled
        refine irregular ⟨balanced, fun key known ends => ?_⟩
        simp only [fieldNames, List.mem_cons, List.not_mem_nil, or_false] at known
        obtain rfl | rfl | rfl := known
        · exact absurd ends first
        · exact absurd ends second
        · exact absurd ends untitled
      have braceless : Braceless three := by decide
      have taken : [(⟨one, two⟩ : Entry)] ≠ [⟨one, three⟩] := by decide
      rw [scrapeMember_of_titled balanced first second titled, scrapeMember_title,
        foldl_brace_of_braceless braceless, entries_emit_of_noId rfl] at same
      exact taken same
  · rintro ⟨balanced, named⟩
    have names : [appNameKey, titleKey].Nodup := by decide
    have fields : Balanced two ∧ Balanced titleKey ∧ Balanced three := by decide
    have known : titleKey ∈ [appNameKey, noteKey, titleKey] := by decide
    have distinct : [appNameKey, text, titleKey].Nodup := by
      simp only [List.nodup_cons, List.mem_cons, List.not_mem_nil, or_false, not_or,
        List.nodup_nil, not_false_eq_true, and_true]
      exact ⟨⟨Ne.symm other.1, by decide⟩, other.2⟩
    have tame : Tame (oneObject [(text, two), (titleKey, three)]) :=
      tame_oneObject distinct
        (List.forall_mem_cons.mpr ⟨⟨balanced, fields.1⟩, List.forall_mem_singleton.mpr fields.2⟩)
        (List.forall_mem_cons.mpr ⟨named,
          List.forall_mem_singleton.mpr (named_of_mem_fieldNames known)⟩)
    have plain : Unescaped style one ∧ Unescaped style two ∧ Unescaped style three :=
      ⟨unescaped_of_shown (shown_one style), unescaped_of_shown (shown_two style),
        unescaped_of_shown (shown_three style)⟩
    rw [scrapeEntries_eq_games_iff tame]
    by_cases camel : text = appNameCamelKey
    · subst camel
      exact List.forall_mem_singleton.mpr ⟨plain.2.1, plain.2.2⟩
    · rw [games_named text (by simp [fieldNames, other, camel])]
      exact List.forall_mem_singleton.mpr ⟨plain.1, plain.2.2⟩

end OneObject

/-- No string of the document misleads the scraper about its objects. -/
structure Regular (document : Document) : Prop where
  balanced : ∀ text ∈ document.value.texts, Balanced text
  named : ∀ members ∈ document.value.objects, ∀ member ∈ members, Named member

theorem Regular.tame {document : Document} (regular : Regular document) :
    Tame document.value where
  balanced := regular.balanced
  named := regular.named
  distinct := document.distinct

/-- The names handed on are titles of games. -/
theorem title_of_mem_heroicGames {documents : List Document}
    (faithful : ∀ document ∈ documents, Faithful style document.value)
    {toLowercase : Text → Text} {config : Text → Option Text} {game : DiscoveredGame}
    (known : game ∈ heroicGames toLowercase config
      (documents.map fun document => some (style.print document.value))) :
    ∃ document ∈ documents, ∃ entry ∈ games document.value, entry.title = game.name := by
  obtain ⟨content, readable, entry, scraped, -, -, -, same⟩ := mem_heroicGames.mp known
  obtain ⟨document, listed, printed⟩ := List.mem_map.mp readable
  obtain rfl := Option.some.inj printed
  rw [faithful document listed] at scraped
  exact ⟨document, listed, entry, scraped, same⟩

theorem scrape_law (style : Style) (document : Document) (text : Text) :
    (Regular document →
      (Faithful style document.value ↔ ∀ entry ∈ games document.value,
        Unescaped style entry.appName ∧ Unescaped style entry.title)) ∧
    (Faithful style (oneObject [(titleKey, text)]) ↔ Balanced text ∧ Unescaped style text) ∧
    (Faithful style (oneObject [(noteKey, text), (titleKey, three)]) ↔ Balanced text) ∧
    (text ∉ [appNameKey, titleKey] →
      (Faithful style (oneObject [(text, two), (titleKey, three)]) ↔
        Balanced text ∧ Named (text, .string two))) ∧
    (∀ documents : List Document, (∀ document ∈ documents, Faithful style document.value) →
      ∀ (toLowercase : Text → Text) (config : Text → Option Text),
        ∀ game ∈ heroicGames toLowercase config
            (documents.map fun document => some (style.print document.value)),
          ∃ document ∈ documents, ∃ entry ∈ games document.value, entry.title = game.name) := by
  refine ⟨fun regular => scrapeEntries_eq_games_iff regular.tame, title_iff, note_iff,
    fun other => ?_, fun documents faithful toLowercase config game known =>
      title_of_mem_heroicGames faithful known⟩
  rw [Faithful, name_iff other]
  refine and_congr_right fun _ => ⟨fun named _ _ => named, fun named => named two rfl⟩

def twoSpaces : Style :=
  { unit := "  ".toList, blank := by decide, asciiOnly := false, terminated := true }

def quotedTitle : Document where
  value := .object [(appNameKey, .string one), (titleKey, .string "A \"B\"".toList)]
  distinct := by decide

/-- A title is cut at its first quotation mark. -/
theorem quotedTitle_cut : ¬ Faithful twoSpaces quotedTitle.value := by
  rw [Faithful]
  decide

end TrueForce.Launchers
