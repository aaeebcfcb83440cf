import TrueForce.TfSim.Loading

/-!
# Saving a configuration and loading it again

The writer goes through the slots by hand and leaves the wheel out.  Loading what
it wrote gives every other slot back, and the default for the wheel.
-/

namespace TrueForce.TfSim

open RustText Splitting Foundation

/-- What a loaded configuration satisfies: its values and its game names fit into lines. -/
structure Config.Savable (config : Config) : Prop where
  valid : ∀ slot : Slot, slot.kind.Valid (slot.get config)
  games : ∀ id game, config.games.get? id = some game → id ≠ [] ∧ '=' ∉ id ∧ '\n' ∉ id

theorem savable_default : (default : Config).Savable where
  valid := by
    intro slot
    cases slot
    case intensity => exact (by decide : 30 ≤ 100)
    case pitch => exact (by decide : 10 ≤ 35 ∧ 35 ≤ 200)
    case cylinders => exact (by decide : 1 ≤ 4 ∧ 4 ≤ 16)
    case codemastersPort => exact (by decide : 20777 < 2 ^ 16)
    case pcarsPort => exact (by decide : 5606 < 2 ^ 16)
    case beamngPort => exact (by decide : 4444 < 2 ^ 16)
    case relayPort => exact (by decide : 20780 < 2 ^ 16)
    case screenTemplate =>
      refine ⟨trim_eq_self_iff.mp ?_, ?_, ?_, ?_⟩ <;> decide
    case effectGain id => cases id <;> exact Nat.le_of_ble_eq_true rfl
    case gameIntensity id => exact Nat.le_refl 100
    all_goals trivial
  games := fun _ _ found => absurd found.symm (Option.some_ne_none _)

namespace Slot

theorem get_set_self {slot : Slot} {value : slot.kind.Value} (valid : slot.kind.Valid value)
    (config : Config) : slot.get (slot.set value config) = value := by
  cases slot <;> try rfl
  case effectGain id =>
    have bound : (value : ℕ) ≤ 100 := valid
    simp only [get, set, EffectGains.get_set, ↓reduceIte]
    exact Nat.min_eq_left bound
  case gameEnabled id => simp only [get, set, SortedMap.get?_modify, ↓reduceIte, Option.getD_some]
  case gameIntensity id => simp only [get, set, SortedMap.get?_modify, ↓reduceIte, Option.getD_some]

theorem get_set_of_ne {slot other : Slot} (different : other ≠ slot) (value : slot.kind.Value)
    (config : Config) : other.get (slot.set value config) = other.get config := by
  cases slot <;> cases other <;> first | rfl | exact absurd rfl different | skip
  case effectGain.effectGain id other =>
    have apart : other ≠ id := fun same => different (congrArg Slot.effectGain same)
    simp only [get, set, EffectGains.get_set, if_neg apart]
  case gameEnabled.gameEnabled id other =>
    have apart : other ≠ id := fun same => different (congrArg Slot.gameEnabled same)
    simp only [get, set, SortedMap.get?_modify, if_neg apart]
  case gameIntensity.gameIntensity id other =>
    have apart : other ≠ id := fun same => different (congrArg Slot.gameIntensity same)
    simp only [get, set, SortedMap.get?_modify, if_neg apart]
  case gameEnabled.gameIntensity id other =>
    simp only [get, set, SortedMap.get?_modify]
    split_ifs with same
    · rw [same, Option.getD_some]
    · rfl
  case gameIntensity.gameEnabled id other =>
    simp only [get, set, SortedMap.get?_modify]
    split_ifs with same
    · rw [same, Option.getD_some]
    · rfl

theorem games_set {slot : Slot} (writable : slot.Writable) (value : slot.kind.Value)
    {config : Config} {id : Text} {game : GameConfig}
    (found : (slot.set value config).games.get? id = some game) :
    (id ≠ [] ∧ '=' ∉ id ∧ '\n' ∉ id) ∨ ∃ before, config.games.get? id = some before := by
  cases slot <;> try exact .inr ⟨game, found⟩
  case gameEnabled named =>
    simp only [set, SortedMap.get?_modify] at found
    split_ifs at found with same
    · exact .inl (same ▸ writable)
    · exact .inr ⟨game, found⟩
  case gameIntensity named =>
    simp only [set, SortedMap.get?_modify] at found
    split_ifs at found with same
    · exact .inl (same ▸ writable)
    · exact .inr ⟨game, found⟩

end Slot

theorem Config.Savable.set {config : Config} (savable : config.Savable) {slot : Slot}
    (writable : slot.Writable) {value : slot.kind.Value} (valid : slot.kind.Valid value) :
    (slot.set value config).Savable where
  valid := by
    intro other
    by_cases same : other = slot
    · subst same
      rw [Slot.get_set_self valid]
      exact valid
    · rw [Slot.get_set_of_ne same]
      exact savable.valid other
  games := by
    intro id game found
    rcases Slot.games_set writable value found with named | ⟨before, old⟩
    · exact named
    · exact savable.games id before old

theorem savable_foldl {texts : List Text} (oneLine : ∀ line ∈ texts, '\n' ∉ line)
    {config : Config} (savable : config.Savable) :
    ((texts.filterMap assignment?).foldl Assignment.apply config).Savable := by
  induction texts generalizing config with
  | nil => exact savable
  | cons line rest ih =>
      have restOneLine : ∀ other ∈ rest, '\n' ∉ other := fun other member =>
        oneLine other (by simp [member])
      cases assigned : assignment? line with
      | none =>
          rw [List.filterMap_cons_none assigned]
          exact ih restOneLine savable
      | some assignment =>
          rcases assignment?_spec (oneLine line (by simp)) assigned with ⟨writable, valid, -⟩
          rw [List.filterMap_cons_some assigned, List.foldl_cons]
          exact ih restOneLine (savable.set writable valid)

theorem loadFrom_eq (text : Text) :
    Config.loadFrom (some (utf8 text)) =
      ((lines text).filterMap assignment?).foldl Assignment.apply default := by
  rw [Config.loadFrom, Config.loadFromWithReport, readToString_utf8]
  exact foldl_loadLine_fst (lines text) (default, default)

/-- Every configuration that was loaded from a text can be saved. -/
theorem savable_loadFrom (text : Text) : (Config.loadFrom (some (utf8 text))).Savable := by
  rw [loadFrom_eq]
  exact savable_foldl (lineFeed_not_mem_lines text) savable_default

namespace Config

/-- The slots in the order in which `save_to` writes them. -/
def savedSlots (config : Config) : List Slot :=
  [.enabled, .intensity, .pitch, .cylinders, .leds, .screen, .screenTemplate, .codemastersPort,
    .pcarsPort, .beamngPort, .relayPort, .effects] ++
  EffectId.all.map .effectGain ++
  [.followGameGain, .g923StreamWithoutFfbMirror, .g923FfbInvert] ++
  config.games.entries.flatMap fun game => [.gameEnabled game.1, .gameIntensity game.1]

def savedLine (config : Config) (slot : Slot) : Text :=
  slot.key ++ '=' :: slot.kind.print (slot.get config)

def formatSlot (config : Config) (slot : Slot) : Text :=
  formatLine slot.key (slot.kind.print (slot.get config))

theorem formatSlot_games (config : Config) :
    (config.games.entries.flatMap fun game =>
      formatLine ("game.".toList ++ game.1 ++ ".enabled".toList) (printBool game.2.enabled) ++
      formatLine ("game.".toList ++ game.1 ++ ".intensity".toList)
        (Nat.toDigits 10 game.2.intensity)) =
      (config.games.entries.flatMap fun game =>
        [Slot.gameEnabled game.1, Slot.gameIntensity game.1]).flatMap config.formatSlot := by
  rw [List.flatMap_assoc]
  apply List.flatMap_congr
  rintro ⟨id, game⟩ member
  have found := SortedMap.mem_entries_iff.mp member
  simp only [List.flatMap_cons, List.flatMap_nil, List.append_nil, formatSlot, Slot.get, found,
    Option.getD_some]
  rfl

theorem saved_eq_format (config : Config) :
    config.saved = fileHeader ++ ['\n'] ++ config.savedSlots.flatMap config.formatSlot := by
  rw [savedSlots, List.flatMap_append, ← formatSlot_games, ← List.append_assoc]
  simp only [List.flatMap_append, List.flatMap_cons, List.flatMap_nil, List.flatMap_map,
    List.append_nil, ← List.append_assoc]
  rfl

theorem saved_eq (config : Config) :
    config.saved =
      (fileHeader :: config.savedSlots.map config.savedLine).flatMap (· ++ ['\n']) := by
  rw [saved_eq_format, List.flatMap_cons, List.flatMap_map]
  rfl

end Config

theorem Config.Savable.writable {config : Config} (savable : config.Savable) :
    ∀ slot ∈ config.savedSlots, slot.Writable := by
  intro slot member
  cases slot
  case gameEnabled id =>
    have listed : ∃ game, (id, game) ∈ config.games.entries := by
      simpa [Config.savedSlots] using member
    rcases listed with ⟨game, listed⟩
    exact savable.games id game (SortedMap.mem_entries_iff.mp listed)
  case gameIntensity id =>
    have listed : ∃ game, (id, game) ∈ config.games.entries := by
      simpa [Config.savedSlots] using member
    rcases listed with ⟨game, listed⟩
    exact savable.games id game (SortedMap.mem_entries_iff.mp listed)
  all_goals trivial

theorem assignment?_savedLine {config : Config} (savable : config.Savable) {slot : Slot}
    (member : slot ∈ config.savedSlots) :
    assignment? (config.savedLine slot) = some ⟨slot, slot.get config⟩ :=
  assignment?_written (savable.writable slot member) (savable.valid slot)

theorem lineFeed_not_mem_savedLine {config : Config} (savable : config.Savable) {slot : Slot}
    (member : slot ∈ config.savedSlots) : '\n' ∉ config.savedLine slot := by
  simp only [Config.savedLine, List.mem_append, List.mem_cons, not_or]
  exact ⟨(Slot.key_free (savable.writable slot member)).2, by decide,
    Kind.lineFeed_not_mem_print (savable.valid slot)⟩

theorem meaningful_fileHeader : meaningful fileHeader = false := by decide

theorem isWhitespace_last {key value : Text} (solid : Solid value) {char : Char}
    (last : (key ++ '=' :: value).getLast? = some char) : isWhitespace char = false := by
  rw [List.getLast?_append_cons] at last
  cases value with
  | nil =>
      rw [List.getLast?_singleton, Option.some.injEq] at last
      rw [← last]
      rfl
  | cons first rest =>
      rw [List.getLast?_cons_cons] at last
      exact solid.2 char last

theorem lines_saved {config : Config} (savable : config.Savable) :
    lines config.saved = fileHeader :: config.savedSlots.map config.savedLine := by
  have free : ∀ line ∈ fileHeader :: config.savedSlots.map config.savedLine, '\n' ∉ line := by
    intro line member
    rcases List.mem_cons.mp member with rfl | member
    · decide
    · rcases List.mem_map.mp member with ⟨slot, written, rfl⟩
      exact lineFeed_not_mem_savedLine savable written
  rw [Config.saved_eq, lines_flatMap free, List.map_cons, List.map_map]
  congr 1
  apply List.map_congr_left
  intro slot member
  apply stripReturn_eq_self_iff.mpr
  intro last
  exact absurd (isWhitespace_last (Kind.print_solid (savable.valid slot)) last) (by decide)

/-- Loading a saved configuration assigns every slot that is written, and skips nothing. -/
theorem assignments_saved {config : Config} (savable : config.Savable) :
    (lines config.saved).filterMap assignment? =
      config.savedSlots.map fun slot => ⟨slot, slot.get config⟩ := by
  have header : assignment? fileHeader = none := by
    rw [assignment?, meaningful_fileHeader]
    exact if_neg Bool.false_ne_true
  rw [lines_saved savable, List.filterMap_cons_none header, List.filterMap_map]
  apply List.filterMap_eq_map_iff_forall_eq_some.mpr
  exact fun slot member => assignment?_savedLine savable member

theorem skipped_saved {config : Config} (savable : config.Savable) :
    ∀ line ∈ lines config.saved, skipped line = false := by
  intro line member
  rw [lines_saved savable] at member
  rcases List.mem_cons.mp member with rfl | member
  · rw [skipped, meaningful_fileHeader, Bool.false_and]
  · rcases List.mem_map.mp member with ⟨slot, written, rfl⟩
    rw [skipped, assignment?_savedLine savable written, Option.isNone_some, Bool.and_false]

theorem EffectGains.foldl_set {gains : EffectGains} (bounded : ∀ id, gains.get id ≤ 100)
    (before : EffectGains) :
    EffectId.all.foldl (fun after id => after.set id (gains.get id)) before = gains := by
  have run : ∀ (ids : List EffectId) (before : EffectGains) (asked : EffectId),
      (ids.foldl (fun after id => after.set id (gains.get id)) before).get asked =
        if asked ∈ ids then gains.get asked else before.get asked := by
    intro ids
    induction ids with
    | nil => simp
    | cons id ids ih =>
        intro before asked
        rw [List.foldl_cons, ih, EffectGains.get_set]
        by_cases same : asked = id
        · simp [same, Nat.min_eq_left (bounded id)]
        · simp [same]
  apply EffectGains.eq_of_get
  intro id
  rw [run, if_pos (by cases id <;> decide)]

namespace Config

def restore (config after : Config) (slot : Slot) : Config := slot.set (slot.get config) after

theorem foldl_restore_layers (config : Config) (ids : List EffectId) (before : Config) :
    (ids.map Slot.effectGain).foldl config.restore before =
      { before with
        effectGains :=
          ids.foldl (fun after id => after.set id (config.effectGains.get id))
            before.effectGains } := by
  induction ids generalizing before with
  | nil => rfl
  | cons id ids ih =>
      rw [List.map_cons, List.foldl_cons, ih]
      rfl

theorem foldl_restore_games {config : Config} {games : List (Text × GameConfig)}
    (listed : ∀ game ∈ games, config.games.get? game.1 = some game.2) (before : Config) :
    (games.flatMap fun game => [Slot.gameEnabled game.1, Slot.gameIntensity game.1]).foldl
        config.restore before =
      { before with
        games := games.foldl (fun map game => map.insert game.1 game.2) before.games } := by
  induction games generalizing before with
  | nil => rfl
  | cons game rest ih =>
      have found := listed game List.mem_cons_self
      have written : config.restore (config.restore before (.gameEnabled game.1))
          (.gameIntensity game.1) =
          { before with games := before.games.insert game.1 game.2 } := by
        simp only [restore, Slot.set, Slot.get, found, Option.getD_some, SortedMap.modify_modify]
        rfl
      rw [List.flatMap_cons, List.foldl_append, List.foldl_cons, List.foldl_cons, List.foldl_nil,
        written, ih fun other member => listed other (List.mem_cons_of_mem game member)]
      rfl

theorem foldl_restore {config : Config} (savable : config.Savable) :
    config.savedSlots.foldl config.restore default = { config with wheel := .auto } := by
  have bounded : ∀ id, config.effectGains.get id ≤ 100 := fun id => savable.valid (.effectGain id)
  have listed : ∀ game ∈ config.games.entries, config.games.get? game.1 = some game.2 :=
    fun game member => SortedMap.mem_entries_iff.mp member
  rw [savedSlots, List.foldl_append, foldl_restore_games listed, List.foldl_append,
    List.foldl_append, foldl_restore_layers, EffectGains.foldl_set bounded]
  simp only [List.foldl_cons, List.foldl_nil, restore, Slot.set, Slot.get]
  congr 1
  exact SortedMap.foldl_insert_entries config.games

/-- What `save_to` writes gives every slot back but the wheel. -/
theorem load_saved {config : Config} (savable : config.Savable) :
    loadFromWithReport (some config.saveTo) = ({ config with wheel := .auto }, default) := by
  rw [loadFromWithReport, saveTo, readToString_utf8]
  apply Prod.ext
  · rw [foldl_loadLine_fst, assignments_saved savable, List.foldl_map]
    exact foldl_restore savable
  · exact foldl_loadLine_snd (skipped_saved savable) (default, default)

end Config

/-- The wheel that a line chooses, where it does. -/
def wheelChoice? (line : Text) : Option WheelChoice :=
  if meaningful line then
    (keyValue line).bind fun parts =>
      if parts.1 = "wheel".toList then WheelChoice.parse parts.2 else none
  else none

/-- No line of the text chooses a wheel, or the last one that does leaves the choice open. -/
def WheelLeftOpen (text : Text) : Prop :=
  ∀ choice, ((lines text).filterMap wheelChoice?).getLast? = some choice → choice = .auto

instance (text : Text) : Decidable (WheelLeftOpen text) :=
  decidable_of_iff
    (((lines text).filterMap wheelChoice?).getLast?.all fun choice => choice = .auto) (by
      simp only [WheelLeftOpen]
      cases ((lines text).filterMap wheelChoice?).getLast? <;> simp)

theorem wheel_apply (config : Config) (line : Text) :
    ((assignment? line).elim config (Assignment.apply config)).wheel =
      (wheelChoice? line).getD config.wheel := by
  simp only [assignment?, wheelChoice?]
  split_ifs
  · cases keyValue line with
    | none => rfl
    | some parts =>
        simp only [Option.bind_some]
        by_cases key : parts.1 = "wheel".toList
        · have named : Slot.ofKey parts.1 = some .wheel := by
            rw [key]
            rfl
          rw [named, if_pos key]
          simp only [Option.bind_some, Kind.parse]
          cases WheelChoice.parse parts.2 <;> rfl
        · rw [if_neg key]
          cases found : Slot.ofKey parts.1 with
          | none => rfl
          | some slot =>
              have apart : Slot.wheel ≠ slot := by
                rintro rfl
                exact key (Slot.ofKey_eq_some found).1.symm
              simp only [Option.bind_some]
              cases slot.kind.parse parts.2 with
              | none => rfl
              | some value => exact Slot.get_set_of_ne apart value config
  · rfl

theorem wheel_foldl (texts : List Text) (state : Config × LoadReport) :
    (texts.foldl loadLine state).1.wheel =
      (texts.filterMap wheelChoice?).getLast?.getD state.1.wheel := by
  induction texts using List.reverseRecOn with
  | nil => rfl
  | append_singleton front line ih =>
      rw [List.foldl_append, List.foldl_cons, List.foldl_nil, loadLine_fst, wheel_apply, ih,
        List.filterMap_append, List.getLast?_append]
      cases chosen : wheelChoice? line with
      | none => rw [List.filterMap_cons_none chosen]; rfl
      | some choice => rw [List.filterMap_cons_some chosen]; rfl

theorem wheel_loadFrom (text : Text) :
    (Config.loadFrom (some (utf8 text))).wheel =
      ((lines text).filterMap wheelChoice?).getLast?.getD .auto := by
  rw [Config.loadFrom, Config.loadFromWithReport, readToString_utf8]
  exact wheel_foldl (lines text) (default, default)

/-- Saving what was loaded and loading it again changes nothing and skips no line. -/
def SurvivesSave (text : Text) : Prop :=
  Config.loadFromWithReport (some (Config.loadFrom (some (utf8 text))).saveTo) =
    (Config.loadFrom (some (utf8 text)), default)

theorem survives_iff_wheel (text : Text) :
    SurvivesSave text ↔ (Config.loadFrom (some (utf8 text))).wheel = .auto := by
  rw [SurvivesSave, Config.load_saved (savable_loadFrom text), Prod.mk.injEq, and_iff_left rfl]
  constructor
  · intro restored
    rw [← restored]
  · intro auto
    rw [← auto]

theorem wheelLeftOpen_iff (text : Text) :
    WheelLeftOpen text ↔ (Config.loadFrom (some (utf8 text))).wheel = .auto := by
  rw [wheel_loadFrom, WheelLeftOpen]
  cases ((lines text).filterMap wheelChoice?).getLast? with
  | none => simp
  | some choice => simp

/-- A configuration survives exactly where no wheel was chosen, since no `wheel` line is written. -/
theorem survives_save_iff (text : Text) : SurvivesSave text ↔ WheelLeftOpen text :=
  (survives_iff_wheel text).trans (wheelLeftOpen_iff text).symm

theorem chosen_wheel_is_lost : ¬SurvivesSave "wheel=g923\n".toList := by
  intro survives
  have leftOpen := (wheelLeftOpen_iff _).mpr ((survives_iff_wheel _).mp survives)
  revert leftOpen
  decide

end TrueForce.TfSim
