import TrueForce.Launchers.Games

/-!
# The scraper on a printed document

The induction is on the value that is printed.  Its lines leave the pending fields and the
stack of the object around it as they were and add the games inside it; within an object
the pending fields follow the members up to the one that makes the pair complete.
-/

namespace TrueForce.Launchers

open RustText Json Scraper

/-- The lines of a value do nothing but add its games. -/
def Scraped (style : Style) (value : Value) : Prop :=
  ∀ (depth : ℕ) {lead tail : Text} (scraper : Scraper), Quiet style lead → Tail tail →
    (∀ text, value = .string text → Indentation lead) → scraper.pending.Incomplete →
    (style.lines depth lead tail value).foldl scrapeLine scraper =
      scraper.add ((games value).map (shownEntry style))

/-- The pending fields of an object that has come this far. -/
structure Tracks (style : Style) (before : List Member) (pending : Pending) : Prop where
  awaiting : pairOf before = none → pending.id = (lastId before).map (shown style) ∧
    pending.title = (lastTitle before).map (shown style)
  complete : pairOf before ≠ none → pending.title = none

variable {style : Style} {before members : List Member} {pending : Pending}
  {scraper : Scraper} {value : Value} {name tail : Text}

theorem Tracks.incomplete (tracks : Tracks style before pending) : pending.Incomplete := by
  by_cases complete : pairOf before = none
  · obtain ⟨id, title⟩ := tracks.awaiting complete
    obtain none | none := pairOf_eq_none_iff.mp complete
    · exact .inl (by rw [id, none, Option.map_none])
    · exact .inr (by rw [title, none, Option.map_none])
  · exact .inr (tracks.complete complete)

theorem tracks_nil (style : Style) : Tracks style [] .empty where
  awaiting _ := ⟨rfl, rfl⟩
  complete complete := absurd rfl complete

theorem Braceless.append {first second : Text} (one : Braceless first)
    (other : Braceless second) : Braceless (first ++ second) :=
  fun char known => (List.mem_append.mp known).elim (one char) (other char)

theorem braceless_scalar (value : Scalar) : Braceless value.text := by
  have braceless : Braceless Scalar.chars := by decide
  exact fun char known => braceless char (value.text_chars char known)

/-- A line with neither a field nor a brace. -/
theorem scrapeLine_of_bare {lead value : Text} (quiet : Quiet style lead) (free : '"' ∉ value)
    (braceless : Braceless value) (ends : Tail tail) (incomplete : scraper.pending.Incomplete) :
    scraper.scrapeLine (lead ++ value ++ tail) = scraper := by
  have counted : (value ++ tail).foldl brace scraper = scraper :=
    foldl_brace_of_braceless (braceless.append (braceless_of_tail ends)) scraper
  have unmarked : '"' ∉ value ++ tail := by
    rw [List.mem_append, not_or]
    exact ⟨free, mark_notMem_tail ends⟩
  rw [List.append_assoc, scrapeLine_of_quiet quiet unmarked (by rwa [counted]), counted]

theorem scraped_scalar (value : Scalar) : Scraped style (.scalar value) := by
  intro depth lead tail scraper quiet ends _ incomplete
  have free : '"' ∉ Scalar.chars := by decide
  rw [Style.lines, List.foldl_cons, List.foldl_nil, scrapeLine_of_bare quiet
    (fun known => free (value.text_chars _ known)) (braceless_scalar value) ends incomplete]
  exact (add_nil scraper).symm

theorem scraped_string {text : Text} (balanced : Balanced text) :
    Scraped style (.string text) := by
  intro depth lead tail scraper quiet ends blank incomplete
  have counted : (lead ++ style.quote text ++ tail).foldl brace scraper = scraper := by
    rw [List.foldl_append, List.foldl_append, quiet.braces, foldl_brace_quote,
      foldl_brace_of_balanced balanced, foldl_brace_of_braceless (braceless_of_tail ends)]
  rw [Style.lines, List.foldl_cons, List.foldl_nil, scrapeLine_of_none
    (fun key known => scrapeStrField_item (plain_of_mem_fieldNames known) (blank text rfl) text
      ends) (by rwa [counted]), counted]
  exact (add_nil scraper).symm

theorem indentation_indent (style : Style) (depth : ℕ) : Indentation (style.indent depth) :=
  style.blank_indent depth

theorem foldl_itemLines {items : List Value} (inside : ∀ item ∈ items, Scraped style item)
    (depth : ℕ) (incomplete : scraper.pending.Incomplete) :
    (style.itemLines depth items).foldl scrapeLine scraper =
      scraper.add ((itemGames items).map (shownEntry style)) := by
  induction items generalizing scraper with
  | nil => exact (add_nil scraper).symm
  | cons item rest ih =>
      have blank := indentation_indent style depth
      rw [Style.itemLines, List.foldl_append,
        inside item List.mem_cons_self depth scraper (quiet_of_indentation blank) (tail_comma rest)
          (fun _ _ => blank) incomplete,
        @ih (scraper.add _) (fun other known => inside other (List.mem_cons_of_mem _ known))
          incomplete, add_add, itemGames, List.map_append]

theorem scraped_array {items : List Value} (inside : ∀ item ∈ items, Scraped style item) :
    Scraped style (.array items) := by
  intro depth lead tail scraper quiet ends _ incomplete
  rw [Style.lines]
  split
  · rename_i empty
    rw [List.foldl_cons, List.foldl_nil, scrapeLine_of_bare quiet (by decide) (by decide) ends
      incomplete, List.isEmpty_iff.mp empty]
    exact (add_nil scraper).symm
  · have opened : scraper.scrapeLine (lead ++ ['[']) = scraper := by
      have free : '"' ∉ ['['] := by decide
      have bare := scrapeLine_of_bare quiet free (by decide) (.inl rfl) incomplete
      rwa [List.append_nil] at bare
    have blank : Quiet style (style.indent depth) :=
      quiet_of_indentation (indentation_indent style depth)
    rw [List.cons_append, List.foldl_cons, opened, List.foldl_append,
      foldl_itemLines inside (depth + 1) incomplete, List.foldl_cons, List.foldl_nil,
      @scrapeLine_of_bare style (scraper.add _) tail _ [']'] blank (by decide) (by decide) ends
        incomplete]
    rfl

/-- The object's members so far, with the pending fields that go with them. -/
def Follows (style : Style) (before : List Member) (scraper : Scraper) (entries : List Entry)
    (after : Scraper) : Prop :=
  ∃ pending, after = { scraper.add (entries.map (shownEntry style)) with pending } ∧
    Tracks style before pending

theorem idOf_string (name text : Text) :
    idOf (name, .string text) =
      if name = appNameKey ∨ name = appNameCamelKey then some text else none := rfl

theorem titleOf_string (name text : Text) :
    titleOf (name, .string text) = if name = titleKey then some text else none := rfl

/-- The fields that a line with a string member sets. -/
theorem fields_of_named {indent text : Text} (blank : Indentation indent)
    (named : Named (name, .string text)) (ends : Tail tail) :
    let line := indent ++ style.quote name ++ [':', ' '] ++ style.quote text ++ tail
    (scrapeStrField line appNameKey).or (scrapeStrField line appNameCamelKey) =
        (idOf (name, .string text)).map (shown style) ∧
      scrapeStrField line titleKey = (titleOf (name, .string text)).map (shown style) := by
  intro line
  have field (key : Text) (known : key ∈ fieldNames) :
      scrapeStrField line key = if name = key then some (shown style text) else none := by
    have whole : EndsIn key name ↔ name = key := by
      refine ⟨named text rfl key known, ?_⟩
      rintro rfl
      exact List.suffix_refl _
    rw [scrapeStrField_member (plain_of_mem_fieldNames known) blank name text ends]
    simp only [whole]
  rw [field appNameKey (by decide), field appNameCamelKey (by decide), field titleKey (by decide),
    idOf_string, titleOf_string]
  constructor
  · by_cases first : name = appNameKey
    · have either : name = appNameKey ∨ name = appNameCamelKey := .inl first
      rw [if_pos first, if_pos either]
      rfl
    · by_cases second : name = appNameCamelKey
      · have either : name = appNameKey ∨ name = appNameCamelKey := .inr second
        rw [if_neg first, if_pos second, if_pos either]
        rfl
      · rw [if_neg first, if_neg second, if_neg (not_or.mpr ⟨first, second⟩)]
        rfl
  · split <;> rfl

theorem map_or (first second : Option Text) :
    (first.map (shown style)).or (second.map (shown style)) =
      (first.or second).map (shown style) := by
  cases first <;> rfl

/-- While the pair is not complete, the fields of the next member are kept with the others. -/
theorem follows_of_awaiting {member : Member} (tracks : Tracks style before scraper.pending)
    (awaiting : pairOf before = none) :
    Follows style (before ++ [member]) scraper (completed before member)
      ((scraper.keepId ((idOf member).map (shown style))).keepTitle
        ((titleOf member).map (shown style))).emit := by
  obtain ⟨id, title⟩ := tracks.awaiting awaiting
  have kept : (scraper.keepId ((idOf member).map (shown style))).keepTitle
      ((titleOf member).map (shown style)) = { scraper with pending :=
        ⟨(lastId (before ++ [member])).map (shown style),
          (lastTitle (before ++ [member])).map (shown style)⟩ } := by
    rw [lastId_append, lastTitle_append, ← map_or, ← map_or, ← id, ← title]
    rfl
  have entries : completed before member = (pairOf (before ++ [member])).toList := by
    rw [completed, awaiting]
    rfl
  rw [kept, entries]
  cases pair : pairOf (before ++ [member]) with
  | none =>
      refine ⟨⟨(lastId (before ++ [member])).map (shown style),
        (lastTitle (before ++ [member])).map (shown style)⟩, ?_, fun _ => ⟨rfl, rfl⟩,
        fun some => absurd pair some⟩
      rw [emit_of_incomplete]
      · simp only [Option.toList_none, List.map_nil, add, List.append_nil]
      · obtain none | none := pairOf_eq_none_iff.mp pair
        · exact .inl (by rw [none, Option.map_none])
        · exact .inr (by rw [none, Option.map_none])
  | some entry =>
      obtain ⟨id, title⟩ := pairOf_eq_some_iff.mp pair
      refine ⟨.empty, ?_, fun none => ?_, fun _ => rfl⟩
      · rw [id, title]
        rfl
      · rw [pair] at none
        cases none

/-- Once the pair is complete, the title of an object without repeated names is behind. -/
theorem follows_of_complete {member : Member} (tracks : Tracks style before scraper.pending)
    (complete : pairOf before ≠ none)
    (distinct : ((before ++ [member]).map Prod.fst).Nodup) :
    Follows style (before ++ [member]) scraper (completed before member)
      ((scraper.keepId ((idOf member).map (shown style))).keepTitle
        ((titleOf member).map (shown style))).emit := by
  have untitled : titleOf member = none := by
    rw [Option.eq_none_iff_forall_ne_some]
    intro title found
    obtain ⟨first, known⟩ := Option.ne_none_iff_exists'.mp
      (not_or.mp (pairOf_eq_none_iff.not.mp complete)).2
    have named : titleKey ∈ before.map Prod.fst := List.mem_map_of_mem (mem_of_lastTitle known)
    rw [titleOf_eq_some_iff.mp found, List.map_append, List.nodup_append] at distinct
    exact distinct.2.2 _ named _ List.mem_cons_self rfl
  have entries : completed before member = [] := by
    rw [completed, if_pos (Option.isSome_iff_ne_none.mpr complete)]
  have none := tracks.complete complete
  rw [untitled, entries]
  refine ⟨⟨((idOf member).map (shown style)).or scraper.pending.id, scraper.pending.title⟩, ?_,
    fun awaiting => absurd awaiting (pairOf_append_ne_none complete), fun _ => none⟩
  rw [emit_of_incomplete]
  · simp only [List.map_nil, add, List.append_nil]
    rfl
  · exact .inr none

/-- A string member is kept as pending, or makes the pair complete. -/
theorem follows_string {indent text : Text} (blank : Indentation indent)
    (named : Named (name, .string text)) (ends : Tail tail) (balancedName : Balanced name)
    (balanced : Balanced text)
    (distinct : ((before ++ [(name, Value.string text)]).map Prod.fst).Nodup)
    (tracks : Tracks style before scraper.pending) :
    Follows style (before ++ [(name, .string text)]) scraper
      (completed before (name, .string text))
      (scraper.scrapeLine (indent ++ style.quote name ++ [':', ' '] ++ style.quote text ++ tail)) := by
  have counted : (indent ++ style.quote name ++ [':', ' '] ++ style.quote text ++ tail).foldl brace
      scraper = scraper := by
    rw [List.foldl_append, List.foldl_append, (quiet_of_name blank balancedName).braces,
      foldl_brace_quote, foldl_brace_of_balanced balanced,
      foldl_brace_of_braceless (braceless_of_tail ends)]
  obtain ⟨ids, titles⟩ := @fields_of_named style name tail indent text blank named ends
  rw [scrapeLine, counted, ids, titles]
  by_cases awaiting : pairOf before = none
  · exact follows_of_awaiting tracks awaiting
  · exact follows_of_complete tracks awaiting distinct

/-- A member that is no string brings its own games and leaves the pair as it is. -/
theorem follows_other {depth : ℕ} {lead : Text} (quiet : Quiet style lead) (ends : Tail tail)
    (other : ∀ text, value ≠ .string text) (inside : Scraped style value)
    (tracks : Tracks style before scraper.pending) :
    Follows style (before ++ [(name, value)]) scraper
      (games value ++ completed before (name, value))
      ((style.lines depth lead tail value).foldl scrapeLine scraper) := by
  have noId : idOf (name, value) = none := by
    cases value with
    | string text => exact absurd rfl (other text)
    | scalar | array | object => rfl
  have noTitle : titleOf (name, value) = none := by
    cases value with
    | string text => exact absurd rfl (other text)
    | scalar | array | object => rfl
  have ids : lastId (before ++ [(name, value)]) = lastId before := by
    rw [lastId_append, noId, Option.none_or]
  have titles : lastTitle (before ++ [(name, value)]) = lastTitle before := by
    rw [lastTitle_append, noTitle, Option.none_or]
  have pairs : pairOf (before ++ [(name, value)]) = pairOf before := by
    rw [pairOf, pairOf, ids, titles]
  have entries : completed before (name, value) = [] := by
    rw [completed, pairs]
    cases pairOf before <;> rfl
  rw [inside depth scraper quiet ends (fun text same => absurd same (other text))
    tracks.incomplete, entries, List.append_nil]
  refine ⟨scraper.pending, rfl, fun awaiting => ?_, fun complete => ?_⟩
  · rw [ids, titles]
    exact tracks.awaiting (pairs ▸ awaiting)
  · exact tracks.complete (pairs ▸ complete)

theorem follows_member {depth : ℕ} {indent : Text} (blank : Indentation indent)
    (ends : Tail tail) (balancedName : Balanced name)
    (balanced : ∀ text, value = .string text → Balanced text) (named : Named (name, value))
    (distinct : ((before ++ [(name, value)]).map Prod.fst).Nodup)
    (inside : Scraped style value) (tracks : Tracks style before scraper.pending) :
    Follows style (before ++ [(name, value)]) scraper
      (games value ++ completed before (name, value))
      ((style.lines depth (indent ++ style.quote name ++ [':', ' ']) tail value).foldl scrapeLine
        scraper) := by
  by_cases string : ∃ text, value = .string text
  · obtain ⟨text, rfl⟩ := string
    exact follows_string blank named ends balancedName (balanced text rfl) distinct tracks
  · exact follows_other (quiet_of_name blank balancedName) ends
      (fun text same => string ⟨text, same⟩) inside tracks

theorem follows_nil (tracks : Tracks style before scraper.pending) :
    Follows style before scraper [] scraper := by
  refine ⟨scraper.pending, ?_, tracks⟩
  simp only [List.map_nil, add, List.append_nil]

theorem Follows.trans {middle last : List Member} {first second : List Entry}
    {between after : Scraper} (one : Follows style middle scraper first between)
    (other : Follows style last between second after) :
    Follows style last scraper (first ++ second) after := by
  obtain ⟨pending, rfl, -⟩ := one
  obtain ⟨pending, rfl, tracks⟩ := other
  refine ⟨pending, ?_, tracks⟩
  simp only [add, List.map_append, List.append_assoc]

theorem foldl_memberLines {depth : ℕ}
    (inside : ∀ member ∈ members, Scraped style member.2 ∧ Balanced member.1 ∧ Named member ∧
      ∀ text, member.2 = .string text → Balanced text)
    (distinct : ((before ++ members).map Prod.fst).Nodup)
    (tracks : Tracks style before scraper.pending) :
    Follows style (before ++ members) scraper (memberGames before members)
      ((style.memberLines depth members).foldl scrapeLine scraper) := by
  induction members generalizing before scraper with
  | nil =>
      rw [List.append_nil]
      exact follows_nil tracks
  | cons member rest ih =>
      obtain ⟨name, value⟩ := member
      obtain ⟨scraped, balancedName, named, balanced⟩ := inside _ List.mem_cons_self
      have blank := indentation_indent style depth
      rw [← List.singleton_append, ← List.append_assoc] at distinct ⊢
      have sofar : ((before ++ [(name, value)]).map Prod.fst).Nodup := by
        rw [List.map_append] at distinct
        exact (List.nodup_append.mp distinct).1
      rw [List.singleton_append, Style.memberLines, List.foldl_append, memberGames]
      have first := @follows_member style before scraper value name (Style.comma rest) depth
        (style.indent depth) blank (tail_comma rest) balancedName balanced named sofar scraped
        tracks
      refine first.trans (ih (fun other known => inside other (List.mem_cons_of_mem _ known))
        distinct ?_)
      obtain ⟨pending, same, tracks⟩ := first
      rwa [same]

theorem scraped_object (distinct : (members.map Prod.fst).Nodup)
    (inside : ∀ member ∈ members, Scraped style member.2 ∧ Balanced member.1 ∧ Named member ∧
      ∀ text, member.2 = .string text → Balanced text) :
    Scraped style (.object members) := by
  intro depth lead tail scraper quiet ends _ incomplete
  rw [Style.lines]
  split
  · rename_i empty
    have counted : (['\x7b', '\x7d'] ++ tail).foldl brace scraper = scraper :=
      foldl_brace_of_braceless (braceless_of_tail ends) scraper
    have free : '"' ∉ ['\x7b', '\x7d'] ++ tail := by
      rw [List.mem_append, not_or]
      exact ⟨by decide, mark_notMem_tail ends⟩
    rw [List.foldl_cons, List.foldl_nil, List.append_assoc,
      scrapeLine_of_quiet quiet free (by rwa [counted]), counted, List.isEmpty_iff.mp empty]
    exact (add_nil scraper).symm
  · have opened : scraper.scrapeLine (lead ++ ['\x7b']) = scraper.push :=
      scrapeLine_of_quiet quiet (by decide) (.inl rfl)
    obtain ⟨pending, same, -⟩ := @foldl_memberLines style [] members scraper.push (depth + 1)
      inside distinct (tracks_nil style)
    have shut : (['\x7d'] ++ tail).foldl brace
        { scraper.push.add ((memberGames [] members).map (shownEntry style)) with pending } =
          scraper.add ((memberGames [] members).map (shownEntry style)) :=
      foldl_brace_of_braceless (braceless_of_tail ends) _
    have free : '"' ∉ ['\x7d'] ++ tail := by
      rw [List.mem_append, not_or]
      exact ⟨by decide, mark_notMem_tail ends⟩
    have last : Quiet style (style.indent depth) :=
      quiet_of_indentation (indentation_indent style depth)
    rw [List.cons_append, List.foldl_cons, opened, List.foldl_append, same, List.foldl_cons,
      List.foldl_nil, List.append_assoc, scrapeLine_of_quiet last free (by rwa [shut]), shut]
    rfl

theorem Tame.item {items : List Value} (tame : Tame (.array items)) {item : Value}
    (known : item ∈ items) : Tame item where
  balanced text inside := tame.balanced text (Value.mem_itemTexts.mpr ⟨item, known, inside⟩)
  named members inside := tame.named members (Value.mem_itemObjects.mpr ⟨item, known, inside⟩)
  distinct members inside :=
    tame.distinct members (Value.mem_itemObjects.mpr ⟨item, known, inside⟩)

theorem Tame.member (tame : Tame (.object members)) {member : Member} (known : member ∈ members) :
    Tame member.2 where
  balanced text inside :=
    tame.balanced text (Value.mem_memberTexts.mpr ⟨member, known, .inr inside⟩)
  named inner inside := tame.named inner
    (List.mem_cons_of_mem _ (Value.mem_memberObjects.mpr ⟨member, known, inside⟩))
  distinct inner inside := tame.distinct inner
    (List.mem_cons_of_mem _ (Value.mem_memberObjects.mpr ⟨member, known, inside⟩))

theorem scraped_of_tame (tame : Tame value) : Scraped style value := by
  induction value using Value.inside with
  | scalar value => exact scraped_scalar value
  | string text => exact scraped_string (tame.balanced text List.mem_cons_self)
  | array items ih => exact scraped_array fun item known => ih item known (tame.item known)
  | object members ih =>
      refine scraped_object (tame.distinct members List.mem_cons_self) fun member known =>
        ⟨ih member known (tame.member known), ?_, ?_, fun text same => ?_⟩
      · exact tame.balanced _ (Value.mem_memberTexts.mpr ⟨member, known, .inl rfl⟩)
      · exact tame.named members List.mem_cons_self member known
      · have inner := (tame.member known).balanced text
        rw [same] at inner
        exact inner List.mem_cons_self

/-- What is scraped from a document is what is shown of its games. -/
theorem scrapeEntries_print (tame : Tame value) :
    scrapeEntries (style.print value) = (games value).map (shownEntry style) := by
  have quiet : Quiet style [] := quiet_of_indentation fun _ known => absurd known List.not_mem_nil
  have scraped : Scraped style value := scraped_of_tame tame
  have run := scraped 0 Scraper.new quiet (.inl rfl)
    (fun _ _ _ known => absurd known List.not_mem_nil) (.inl rfl)
  rw [scrapeEntries, Style.lines_print, run]
  rfl

end TrueForce.Launchers
