import TrueForce.Launchers.Braces
import Mathlib.Data.Option.Basic

/-!
# The games of a manifest

A game is an object with an id and a title of its own, which are string members.  It is
listed where the second of the two stands.  On a document whose strings have balanced
braces, and no text behind a name that merely ends in a field's, the scraper goes through
the objects as this list does.
-/

namespace TrueForce.Launchers

open RustText Json

def idOf (member : Member) : Option Text :=
  match member.2 with
  | .string text =>
      if member.1 = appNameKey ∨ member.1 = appNameCamelKey then some text else none
  | _ => none

def titleOf (member : Member) : Option Text :=
  match member.2 with
  | .string text => if member.1 = titleKey then some text else none
  | _ => none

def lastId (members : List Member) : Option Text := (members.filterMap idOf).getLast?

def lastTitle (members : List Member) : Option Text := (members.filterMap titleOf).getLast?

/-- The id and the title among the members of an object. -/
def pairOf (members : List Member) : Option Entry :=
  (lastId members).bind fun appName => (lastTitle members).map fun title => { appName, title }

/-- The entry that a member makes complete. -/
def completed (before : List Member) (member : Member) : List Entry :=
  if (pairOf before).isSome then [] else (pairOf (before ++ [member])).toList

mutual

/-- The games in a value, in the order in which they become complete. -/
def games : Value → List Entry
  | .scalar _ => []
  | .string _ => []
  | .array items => itemGames items
  | .object members => memberGames [] members

def itemGames : List Value → List Entry
  | [] => []
  | item :: rest => games item ++ itemGames rest

def memberGames (before : List Member) : List Member → List Entry
  | [] => []
  | (name, value) :: rest =>
      games value ++ completed before (name, value) ++ memberGames (before ++ [(name, value)]) rest

end

/-- Only a field's own name ends in a quotation mark and that name. -/
def Named (member : Member) : Prop :=
  ∀ text, member.2 = .string text → ∀ key ∈ fieldNames, EndsIn key member.1 → member.1 = key

structure Tame (value : Value) : Prop where
  balanced : ∀ text ∈ value.texts, Balanced text
  named : ∀ members ∈ value.objects, ∀ member ∈ members, Named member
  distinct : ∀ members ∈ value.objects, (members.map Prod.fst).Nodup

def shownEntry (style : Style) (entry : Entry) : Entry :=
  { appName := shown style entry.appName, title := shown style entry.title }

variable {style : Style} {members before : List Member} {member : Member} {scraper : Scraper}

section Pairs

theorem getLast?_filterMap_concat (field : Member → Option Text) :
    ((before ++ [member]).filterMap field).getLast? =
      (field member).or (before.filterMap field).getLast? := by
  rw [List.filterMap_append, List.getLast?_append, List.filterMap_cons, List.filterMap_nil]
  cases field member <;> rfl

theorem lastId_append : lastId (before ++ [member]) = (idOf member).or (lastId before) :=
  getLast?_filterMap_concat idOf

theorem lastTitle_append :
    lastTitle (before ++ [member]) = (titleOf member).or (lastTitle before) :=
  getLast?_filterMap_concat titleOf

theorem pairOf_eq_some_iff {entry : Entry} :
    pairOf before = some entry ↔
      lastId before = some entry.appName ∧ lastTitle before = some entry.title := by
  obtain ⟨appName, title⟩ := entry
  rw [pairOf]
  cases lastId before <;> cases lastTitle before <;> simp

theorem pairOf_eq_none_iff :
    pairOf before = none ↔ lastId before = none ∨ lastTitle before = none := by
  rw [pairOf]
  cases lastId before <;> cases lastTitle before <;> simp

/-- A pair that is complete stays so. -/
theorem pairOf_append_ne_none (complete : pairOf before ≠ none) :
    pairOf (before ++ [member]) ≠ none := by
  rw [Ne, pairOf_eq_none_iff, not_or] at complete ⊢
  rw [lastId_append, lastTitle_append, Option.or_eq_none_iff, Option.or_eq_none_iff]
  exact ⟨fun none => complete.1 none.2, fun none => complete.2 none.2⟩

theorem titleOf_eq_some_iff {title : Text} :
    titleOf member = some title ↔ member = (titleKey, .string title) := by
  obtain ⟨name, value⟩ := member
  rw [titleOf]
  cases value with
  | string text => simp
  | scalar | array | object => simp

theorem mem_of_lastTitle {title : Text} (found : lastTitle before = some title) :
    (titleKey, .string title) ∈ before := by
  obtain ⟨member, known, same⟩ := List.mem_filterMap.mp (List.mem_of_getLast? found)
  rwa [titleOf_eq_some_iff.mp same] at known

theorem idOf_eq_some_iff {appName : Text} :
    idOf member = some appName ↔ member = (appNameKey, .string appName) ∨
      member = (appNameCamelKey, .string appName) := by
  obtain ⟨name, value⟩ := member
  rw [idOf]
  cases value with
  | string text =>
      simp only [Option.ite_none_right_eq_some, Option.some.injEq, Prod.mk.injEq,
        Value.string.injEq]
      exact or_and_right
  | scalar | array | object => simp

theorem mem_of_lastId {appName : Text} (found : lastId before = some appName) :
    (appNameKey, .string appName) ∈ before ∨ (appNameCamelKey, .string appName) ∈ before := by
  obtain ⟨member, known, same⟩ := List.mem_filterMap.mp (List.mem_of_getLast? found)
  obtain rfl | rfl := idOf_eq_some_iff.mp same
  · exact .inl known
  · exact .inr known

end Pairs

section Counting

/-- The object has an id and a title of its own. -/
def isGame (members : List Member) : Bool := (pairOf members).isSome

theorem isGame_append (game : isGame before = true) : isGame (before ++ [member]) = true := by
  rw [isGame, Option.isSome_iff_ne_none] at game ⊢
  exact pairOf_append_ne_none game

theorem length_completed :
    (isGame before).toNat + (completed before member).length = (isGame (before ++ [member])).toNat := by
  by_cases game : isGame before = true
  · have none : completed before member = [] := if_pos game
    rw [none, game, isGame_append game]
    rfl
  · have entries : completed before member = (pairOf (before ++ [member])).toList := if_neg game
    rw [entries, Bool.eq_false_iff.mpr game, isGame]
    cases pairOf (before ++ [member]) <;> rfl

theorem length_memberGames
    (inside : ∀ member ∈ members, (games member.2).length = member.2.objects.countP isGame) :
    (isGame before).toNat + (memberGames before members).length =
      (isGame (before ++ members)).toNat + (Value.memberObjects members).countP isGame := by
  induction members generalizing before with
  | nil => rw [memberGames, Value.memberObjects, List.append_nil, List.length_nil, List.countP_nil]
  | cons member rest ih =>
      obtain ⟨name, value⟩ := member
      have own : (games value).length = value.objects.countP isGame :=
        inside (name, value) List.mem_cons_self
      have step := @length_completed before (name, value)
      have others := @ih (before ++ [(name, value)])
        fun other known => inside other (List.mem_cons_of_mem _ known)
      rw [List.append_assoc, List.singleton_append] at others
      rw [memberGames, Value.memberObjects, List.length_append, List.length_append,
        List.countP_append]
      omega

/-- There is one game for each object that has an id and a title. -/
theorem length_games (value : Value) : (games value).length = value.objects.countP isGame := by
  induction value using Value.inside with
  | scalar value => rfl
  | string text => rfl
  | array items ih =>
      rw [games, Value.objects]
      induction items with
      | nil => rfl
      | cons item rest more =>
          rw [itemGames, Value.itemObjects, List.length_append, List.countP_append,
            ih item List.mem_cons_self,
            more fun other known => ih other (List.mem_cons_of_mem _ known)]
  | object members ih =>
      have counted := @length_memberGames members [] ih
      have none : (isGame []).toNat = 0 := rfl
      rw [none, Nat.zero_add, List.nil_append] at counted
      rw [games, Value.objects, List.countP_cons, counted, Nat.add_comm]
      cases isGame members <;> rfl

theorem mem_itemGames {items : List Value} {entry : Entry} :
    entry ∈ itemGames items ↔ ∃ item ∈ items, entry ∈ games item := by
  induction items with
  | nil => simp [itemGames]
  | cons item rest ih => simp only [itemGames, List.mem_append, ih, List.exists_mem_cons_iff]

/-- Both texts of an entry belong to one object. -/
structure Owned (entry : Entry) (members : List Member) : Prop where
  id : (appNameKey, .string entry.appName) ∈ members ∨
    (appNameCamelKey, .string entry.appName) ∈ members
  title : (titleKey, .string entry.title) ∈ members

theorem owned_of_pairOf {entry : Entry} (pair : pairOf members = some entry) :
    Owned entry members := by
  obtain ⟨id, title⟩ := pairOf_eq_some_iff.mp pair
  exact ⟨mem_of_lastId id, mem_of_lastTitle title⟩

theorem Owned.append {entry : Entry} (owned : Owned entry before) (more : List Member) :
    Owned entry (before ++ more) where
  id := owned.id.imp (List.mem_append_left more) (List.mem_append_left more)
  title := List.mem_append_left more owned.title

theorem owned_of_mem_completed {entry : Entry} (known : entry ∈ completed before member) :
    Owned entry (before ++ [member]) := by
  rw [completed] at known
  split at known
  · exact absurd known List.not_mem_nil
  · exact owned_of_pairOf (Option.mem_toList.mp known)

theorem owned_of_mem_memberGames {entry : Entry} (known : entry ∈ memberGames before members) :
    (∃ member ∈ members, entry ∈ games member.2) ∨ Owned entry (before ++ members) := by
  induction members generalizing before with
  | nil => exact absurd known List.not_mem_nil
  | cons member rest ih =>
      rw [memberGames, List.mem_append, List.mem_append] at known
      obtain (inner | own) | later := known
      · exact .inl ⟨member, List.mem_cons_self, inner⟩
      · have owned := (owned_of_mem_completed own).append rest
        rw [List.append_assoc] at owned
        exact .inr owned
      · have owned := ih later
        rw [List.append_assoc, List.singleton_append] at owned
        exact owned.imp_left fun ⟨other, listed, inner⟩ =>
          ⟨other, List.mem_cons_of_mem _ listed, inner⟩

/-- No game pairs members of different objects. -/
theorem owned_of_mem_games {value : Value} {entry : Entry} (known : entry ∈ games value) :
    ∃ members ∈ value.objects, Owned entry members := by
  induction value using Value.inside with
  | scalar value => exact absurd known List.not_mem_nil
  | string text => exact absurd known List.not_mem_nil
  | array items ih =>
      obtain ⟨item, listed, inner⟩ := mem_itemGames.mp known
      obtain ⟨members, inside, owned⟩ := ih item listed inner
      exact ⟨members, Value.mem_itemObjects.mpr ⟨item, listed, inside⟩, owned⟩
  | object members ih =>
      obtain ⟨member, listed, inner⟩ | owned := owned_of_mem_memberGames known
      · obtain ⟨list, inside, owned⟩ := ih member listed inner
        exact ⟨list, List.mem_cons_of_mem _ (Value.mem_memberObjects.mpr ⟨member, listed, inside⟩),
          owned⟩
      · exact ⟨members, List.mem_cons_self, owned⟩

end Counting

namespace Pending

def Incomplete (pending : Pending) : Prop := pending.id = none ∨ pending.title = none

end Pending

namespace Scraper

def add (scraper : Scraper) (entries : List Entry) : Scraper :=
  { scraper with entries := scraper.entries ++ entries }

theorem add_nil (scraper : Scraper) : scraper.add [] = scraper := by
  rw [add, List.append_nil]

theorem add_add (scraper : Scraper) (first second : List Entry) :
    (scraper.add first).add second = scraper.add (first ++ second) := by
  simp only [add, List.append_assoc]

theorem emit_of_incomplete (incomplete : scraper.pending.Incomplete) : scraper.emit = scraper := by
  obtain ⟨⟨id, title⟩, stack, entries⟩ := scraper
  obtain none | none := incomplete
  · obtain rfl : id = Option.none := none
    rfl
  · obtain rfl : title = Option.none := none
    cases id <;> rfl

/-- A line without a field does what its braces do. -/
theorem scrapeLine_of_none {line : Text}
    (none : ∀ key ∈ fieldNames, scrapeStrField line key = none)
    (incomplete : (line.foldl brace scraper).pending.Incomplete) :
    scraper.scrapeLine line = line.foldl brace scraper := by
  have appName := none appNameKey (by decide)
  have camel := none appNameCamelKey (by decide)
  have title := none titleKey (by decide)
  rw [scrapeLine, appName, camel, title]
  exact emit_of_incomplete incomplete

end Scraper

/-- The front of a line in which nothing is counted and nothing is found. -/
structure Quiet (style : Style) (lead : Text) : Prop where
  braces : ∀ scraper : Scraper, lead.foldl Scraper.brace scraper = scraper
  fields : ∀ value, '"' ∉ value → ∀ key ∈ fieldNames, scrapeStrField (lead ++ value) key = none

theorem quiet_of_indentation {indent : Text} (blank : Indentation indent) :
    Quiet style indent where
  braces := Scraper.foldl_brace_of_braceless (Scraper.braceless_of_indentation blank)
  fields _ free _ _ := scrapeStrField_blank blank free

theorem quiet_of_name {indent name : Text} (blank : Indentation indent)
    (balanced : Balanced name) : Quiet style (indent ++ style.quote name ++ [':', ' ']) where
  braces scraper := by
    rw [List.foldl_append, List.foldl_append,
      Scraper.foldl_brace_of_braceless (Scraper.braceless_of_indentation blank),
      Scraper.foldl_brace_quote, Scraper.foldl_brace_of_balanced balanced]
    rfl
  fields _ free _ known := scrapeStrField_name (plain_of_mem_fieldNames known) blank name free

/-- A line with a value that has no quotation mark. -/
theorem scrapeLine_of_quiet {lead value : Text} (quiet : Quiet style lead) (free : '"' ∉ value)
    (incomplete : (value.foldl Scraper.brace scraper).pending.Incomplete) :
    scraper.scrapeLine (lead ++ value) = value.foldl Scraper.brace scraper := by
  have counted : (lead ++ value).foldl Scraper.brace scraper =
      value.foldl Scraper.brace scraper := by
    rw [List.foldl_append, quiet.braces]
  rw [← counted] at incomplete ⊢
  exact Scraper.scrapeLine_of_none (quiet.fields value free) incomplete

end TrueForce.Launchers
