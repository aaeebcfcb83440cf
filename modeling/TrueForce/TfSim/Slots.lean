import TrueForce.TfSim.Config

/-!
# What a line sets

Every line that is applied sets one slot of the configuration: a field, the gain
of a layer, or one field of a game.  The key names the slot, and writing two
different slots commutes.
-/

namespace TrueForce.TfSim

open RustText Splitting Foundation

/-- How the values of a slot are read and printed. -/
inductive Kind where
  | flag
  | percent
  | pitch
  | cylinders
  | port
  | wheel
  | template
  deriving DecidableEq, Repr

namespace Kind

abbrev Value : Kind → Type
  | .flag => Bool
  | .wheel => WheelChoice
  | .template => Text
  | .percent | .pitch | .cylinders | .port => ℕ

def parse : (kind : Kind) → Text → Option kind.Value
  | .flag, raw => parseBool raw
  | .percent, raw => parsePercent raw
  | .pitch, raw => parsePitch raw
  | .cylinders, raw => parseCylinders raw
  | .port, raw => parseUnsigned 16 raw
  | .wheel, raw => WheelChoice.parse raw
  | .template, raw => parseTemplate raw

def print : (kind : Kind) → kind.Value → Text
  | .flag, value => printBool value
  | .wheel, value => WheelChoice.asStr value
  | .template, value => value
  | .percent, value | .pitch, value | .cylinders, value | .port, value =>
      Nat.toDigits 10 (value : ℕ)

/-- The values that a line without a line feed can give. -/
def Valid : (kind : Kind) → kind.Value → Prop
  | .flag, _ | .wheel, _ => True
  | .percent, value => (value : ℕ) ≤ 100
  | .pitch, value => 10 ≤ (value : ℕ) ∧ (value : ℕ) ≤ 200
  | .cylinders, value => 1 ≤ (value : ℕ) ∧ (value : ℕ) ≤ 16
  | .port, value => (value : ℕ) < 2 ^ 16
  | .template, value =>
      Solid (value : Text) ∧ (value : Text) ≠ [] ∧ (utf8 (value : Text)).length ≤ 96 ∧
        '\n' ∉ (value : Text)

end Kind

inductive Slot where
  | enabled
  | intensity
  | wheel
  | pitch
  | cylinders
  | leds
  | codemastersPort
  | pcarsPort
  | beamngPort
  | relayPort
  | effects
  | screen
  | screenTemplate
  | followGameGain
  | g923StreamWithoutFfbMirror
  | g923FfbInvert
  | effectGain (id : EffectId)
  | gameEnabled (id : Text)
  | gameIntensity (id : Text)
  deriving DecidableEq, Repr

namespace Slot

abbrev kind : Slot → Kind
  | .enabled | .leds | .effects | .screen | .followGameGain | .g923StreamWithoutFfbMirror
  | .g923FfbInvert | .gameEnabled _ => .flag
  | .intensity | .effectGain _ | .gameIntensity _ => .percent
  | .wheel => .wheel
  | .pitch => .pitch
  | .cylinders => .cylinders
  | .codemastersPort | .pcarsPort | .beamngPort | .relayPort => .port
  | .screenTemplate => .template

def key : Slot → Text
  | .enabled => "enabled".toList
  | .intensity => "intensity".toList
  | .wheel => "wheel".toList
  | .pitch => "pitch".toList
  | .cylinders => "cylinders".toList
  | .leds => "leds".toList
  | .codemastersPort => "port.codemasters".toList
  | .pcarsPort => "port.pcars".toList
  | .beamngPort => "port.beamng".toList
  | .relayPort => "port.relay".toList
  | .effects => "effects".toList
  | .screen => "screen".toList
  | .screenTemplate => "screen.template".toList
  | .followGameGain => "follow_game_gain".toList
  | .g923StreamWithoutFfbMirror => "g923.stream_without_ffb_mirror".toList
  | .g923FfbInvert => "g923.ffb_invert".toList
  | .effectGain id => "effect_".toList ++ id.key
  | .gameEnabled id => "game.".toList ++ id ++ ".enabled".toList
  | .gameIntensity id => "game.".toList ++ id ++ ".intensity".toList

def ofLayerOrGame (key : Text) : Option Slot :=
  match "effect_".toList.isPrefixOf? key with
  | some name => (EffectId.fromKey name).map .effectGain
  | none =>
      ("game.".toList.isPrefixOf? key).bind fun rest => (rsplitOnce '.' rest).bind fun parts =>
        if parts.1 = [] then none
        else
          match String.ofList parts.2 with
          | "enabled" => some (.gameEnabled parts.1)
          | "intensity" => some (.gameIntensity parts.1)
          | _ => none

/-- The slot that a key names. -/
def ofKey (key : Text) : Option Slot :=
  match String.ofList key with
  | "enabled" => some .enabled
  | "intensity" => some .intensity
  | "wheel" => some .wheel
  | "pitch" => some .pitch
  | "cylinders" => some .cylinders
  | "leds" => some .leds
  | "port.codemasters" => some .codemastersPort
  | "port.pcars" => some .pcarsPort
  | "port.beamng" => some .beamngPort
  | "port.relay" => some .relayPort
  | "effects" => some .effects
  | "screen" => some .screen
  | "screen.template" => some .screenTemplate
  | "follow_game_gain" => some .followGameGain
  | "g923.stream_without_ffb_mirror" => some .g923StreamWithoutFfbMirror
  | "g923.ffb_invert" => some .g923FfbInvert
  | _ => ofLayerOrGame key

def set : (slot : Slot) → slot.kind.Value → Config → Config
  | .enabled, value, config => { config with enabled := value }
  | .intensity, value, config => { config with intensity := value }
  | .wheel, value, config => { config with wheel := value }
  | .pitch, value, config => { config with pitchPct := value }
  | .cylinders, value, config => { config with cylinders := value }
  | .leds, value, config => { config with leds := value }
  | .codemastersPort, value, config => { config with codemastersPort := value }
  | .pcarsPort, value, config => { config with pcarsPort := value }
  | .beamngPort, value, config => { config with beamngPort := value }
  | .relayPort, value, config => { config with relayPort := value }
  | .effects, value, config => { config with effects := value }
  | .screen, value, config => { config with screen := value }
  | .screenTemplate, value, config => { config with screenTemplate := value }
  | .followGameGain, value, config => { config with followGameGain := value }
  | .g923StreamWithoutFfbMirror, value, config =>
      { config with g923StreamWithoutFfbMirror := value }
  | .g923FfbInvert, value, config => { config with g923FfbInvert := value }
  | .effectGain id, value, config =>
      { config with effectGains := config.effectGains.set id value }
  | .gameEnabled id, value, config =>
      { config with games := config.games.modify id ({ · with enabled := value }) }
  | .gameIntensity id, value, config =>
      { config with games := config.games.modify id ({ · with intensity := value }) }

/-- What the configuration has in a slot. -/
def get : (slot : Slot) → Config → slot.kind.Value
  | .enabled, config => config.enabled
  | .intensity, config => config.intensity
  | .wheel, config => config.wheel
  | .pitch, config => config.pitchPct
  | .cylinders, config => config.cylinders
  | .leds, config => config.leds
  | .codemastersPort, config => config.codemastersPort
  | .pcarsPort, config => config.pcarsPort
  | .beamngPort, config => config.beamngPort
  | .relayPort, config => config.relayPort
  | .effects, config => config.effects
  | .screen, config => config.screen
  | .screenTemplate, config => config.screenTemplate
  | .followGameGain, config => config.followGameGain
  | .g923StreamWithoutFfbMirror, config => config.g923StreamWithoutFfbMirror
  | .g923FfbInvert, config => config.g923FfbInvert
  | .effectGain id, config => config.effectGains.get id
  | .gameEnabled id, config => ((config.games.get? id).getD default).enabled
  | .gameIntensity id, config => ((config.games.get? id).getD default).intensity

end Slot

theorem applyLayerOrGame_eq (config : Config) (key raw : Text) :
    applyLayerOrGame config key raw =
      (Slot.ofLayerOrGame key).bind fun slot => (slot.kind.parse raw).map fun value =>
        slot.set value config := by
  simp only [applyLayerOrGame, Slot.ofLayerOrGame]
  cases "effect_".toList.isPrefixOf? key with
  | some name =>
      dsimp only
      cases EffectId.fromKey name <;> rfl
  | none =>
      cases "game.".toList.isPrefixOf? key with
      | none => rfl
      | some rest =>
          simp only [Option.bind_some]
          cases rsplitOnce '.' rest with
          | none => rfl
          | some parts =>
              simp only [Option.bind_some]
              split_ifs
              · rfl
              · generalize String.ofList parts.2 = field
                split
                case h_3 => simp [*]
                all_goals rfl

/-- A line sets the slot its key names to the value it reads. -/
theorem applyLine_eq (config : Config) (key raw : Text) :
    applyLine config key raw =
      (Slot.ofKey key).bind fun slot => (slot.kind.parse raw).map fun value =>
        slot.set value config := by
  simp only [applyLine, Slot.ofKey]
  generalize String.ofList key = name
  split
  case h_17 => exact (applyLayerOrGame_eq config key raw).trans (by simp [*])
  all_goals rfl

theorem EffectId.index_injective {id other : EffectId} (same : id.index = other.index) :
    id = other := by
  revert same
  cases id <;> cases other <;> decide

theorem EffectGains.set_comm {id other : EffectId} (different : id ≠ other) (gains : EffectGains)
    (first second : ℕ) :
    (gains.set id first).set other second = (gains.set other second).set id first := by
  have apart : (id.index : ℕ) ≠ other.index :=
    fun same => different (EffectId.index_injective (Fin.ext same))
  simp only [EffectGains.set, Vector.set_comm _ _ apart]

theorem EffectGains.set_set (id : EffectId) (gains : EffectGains) (first second : ℕ) :
    (gains.set id first).set id second = gains.set id second := by
  simp only [EffectGains.set, Vector.set_set]

theorem EffectGains.get_set (gains : EffectGains) (id other : EffectId) (percent : ℕ) :
    (gains.set id percent).get other = if other = id then min percent 100 else gains.get other := by
  simp only [EffectGains.get, EffectGains.set, Fin.getElem_fin, Vector.getElem_set]
  split_ifs with index same same
  · rfl
  · exact absurd (EffectId.index_injective (Fin.ext index)).symm same
  · exact absurd (congrArg (fun id : EffectId => (id.index : ℕ)) same).symm index
  · rfl

theorem EffectGains.eq_of_get {first second : EffectGains}
    (agree : ∀ id, first.get id = second.get id) : first = second := by
  rcases first with ⟨first⟩
  rcases second with ⟨second⟩
  congr 1
  apply Vector.ext
  intro index bound
  have surjective : ∀ index : Fin 10, ∃ id ∈ EffectId.all, id.index = index := by decide
  rcases surjective ⟨index, bound⟩ with ⟨id, -, place⟩
  have same := agree id
  simp only [EffectGains.get, place] at same
  exact same

theorem GameConfig.modify_comm (games : SortedMap Text GameConfig) (id other : Text) (enabled : Bool)
    (intensity : ℕ) :
    (games.modify id ({ · with enabled := enabled })).modify other
        ({ · with intensity := intensity }) =
      (games.modify other ({ · with intensity := intensity })).modify id
        ({ · with enabled := enabled }) :=
  SortedMap.modify_comm games fun _ _ => rfl

namespace Slot

/-- Writing two slots in either order gives the same configuration. -/
theorem set_comm {slot other : Slot} (different : slot ≠ other) (first : slot.kind.Value)
    (second : other.kind.Value) (config : Config) :
    other.set second (slot.set first config) = slot.set first (other.set second config) := by
  cases slot <;> cases other <;> first | rfl | exact absurd rfl different | skip
  case effectGain.effectGain id other =>
    have apart : id ≠ other := fun same => different (congrArg Slot.effectGain same)
    simp only [set, EffectGains.set_comm apart]
  case gameEnabled.gameEnabled id other =>
    have apart : other ≠ id := fun same => different (congrArg Slot.gameEnabled same.symm)
    simp only [set, SortedMap.modify_comm_of_ne _ apart]
  case gameIntensity.gameIntensity id other =>
    have apart : other ≠ id := fun same => different (congrArg Slot.gameIntensity same.symm)
    simp only [set, SortedMap.modify_comm_of_ne _ apart]
  case gameEnabled.gameIntensity id other =>
    simp only [set, GameConfig.modify_comm config.games id other first second]
  case gameIntensity.gameEnabled id other =>
    simp only [set, GameConfig.modify_comm config.games other id second first]

/-- The last write of a slot is the one that counts. -/
theorem set_set (slot : Slot) (first second : slot.kind.Value) (config : Config) :
    slot.set second (slot.set first config) = slot.set second config := by
  cases slot <;> try rfl
  case effectGain id => simp only [set, EffectGains.set_set]
  case gameEnabled id => simp only [set, SortedMap.modify_modify]
  case gameIntensity id => simp only [set, SortedMap.modify_modify]

/-- A game has a name. -/
def Named : Slot → Prop
  | .gameEnabled id | .gameIntensity id => id ≠ []
  | _ => True

theorem key_effectGain (id : EffectId) :
    (Slot.effectGain id).key = "effect_".toList ++ id.key := rfl

theorem key_gameEnabled (id : Text) :
    (Slot.gameEnabled id).key = "game.".toList ++ id ++ ".enabled".toList := rfl

theorem key_gameIntensity (id : Text) :
    (Slot.gameIntensity id).key = "game.".toList ++ id ++ ".intensity".toList := rfl

theorem toList_of_ofList {text : Text} {literal : String} (same : String.ofList text = literal) :
    literal.toList = text := by
  rw [← same, String.toList_ofList]

theorem ofLayerOrGame_eq_some {key : Text} {slot : Slot} (found : ofLayerOrGame key = some slot) :
    slot.key = key ∧ slot.Named := by
  simp only [ofLayerOrGame] at found
  cases layer : "effect_".toList.isPrefixOf? key with
  | some name =>
      rw [layer] at found
      rcases Option.map_eq_some_iff.mp found with ⟨id, known, rfl⟩
      have named : id.key = name := by simpa using List.find?_some known
      refine ⟨?_, trivial⟩
      rw [key_effectGain, named]
      exact List.isPrefixOf?_eq_some_iff_append_eq.mp layer
  | none =>
      rw [layer] at found
      rcases Option.bind_eq_some_iff.mp found with ⟨rest, game, found⟩
      rcases Option.bind_eq_some_iff.mp found with ⟨parts, split, found⟩
      rcases rsplitOnce_eq_some_iff.mp split with ⟨-, whole⟩
      have prefixed := List.isPrefixOf?_eq_some_iff_append_eq.mp game
      split_ifs at found with unnamed
      split at found
      · rename_i field
        cases Option.some.inj found
        refine ⟨?_, unnamed⟩
        rw [key_gameEnabled, ← prefixed, whole, ← toList_of_ofList field, List.append_assoc]
        rfl
      · rename_i field
        cases Option.some.inj found
        refine ⟨?_, unnamed⟩
        rw [key_gameIntensity, ← prefixed, whole, ← toList_of_ofList field, List.append_assoc]
        rfl
      · exact absurd found.symm (Option.some_ne_none slot)

theorem ofKey_eq_some {key : Text} {slot : Slot} (found : ofKey key = some slot) :
    slot.key = key ∧ slot.Named := by
  simp only [ofKey] at found
  split at found
  case h_17 => exact ofLayerOrGame_eq_some found
  all_goals
    rename_i literal
    cases Option.some.inj found
    exact ⟨toList_of_ofList literal, trivial⟩

theorem ofKey_game (rest : Text) :
    ofKey ("game.".toList ++ rest) = ofLayerOrGame ("game.".toList ++ rest) := by
  simp only [ofKey]
  split
  case h_17 => rfl
  all_goals
    rename_i literal
    have spelled := toList_of_ofList literal
    simp at spelled

theorem ofLayerOrGame_game {id field : Text} (named : id ≠ []) (dotFree : '.' ∉ field) :
    ofLayerOrGame ("game.".toList ++ id ++ '.' :: field) =
      match String.ofList field with
      | "enabled" => some (.gameEnabled id)
      | "intensity" => some (.gameIntensity id)
      | _ => none := by
  have game : "game.".toList.isPrefixOf? ("game.".toList ++ id ++ '.' :: field) =
      some (id ++ '.' :: field) :=
    List.isPrefixOf?_eq_some_iff_append_eq.mpr (List.append_assoc ..).symm
  have layer : "effect_".toList.isPrefixOf? ("game.".toList ++ id ++ '.' :: field) = none := rfl
  have parts : rsplitOnce '.' (id ++ '.' :: field) = some (id, field) :=
    rsplitOnce_eq_some_iff.mpr ⟨dotFree, rfl⟩
  simp only [ofLayerOrGame, layer, game, parts, Option.bind_some, if_neg named]

/-- A key names the slot it was made from. -/
theorem ofKey_key {slot : Slot} (named : slot.Named) : ofKey slot.key = some slot := by
  cases slot
  case effectGain id => cases id <;> decide
  case gameEnabled id =>
    rw [key_gameEnabled, List.append_assoc, ofKey_game, ← List.append_assoc]
    exact ofLayerOrGame_game named (by decide)
  case gameIntensity id =>
    rw [key_gameIntensity, List.append_assoc, ofKey_game, ← List.append_assoc]
    exact ofLayerOrGame_game named (by decide)
  all_goals rfl

end Slot

theorem toAsciiLowercase_asStr (choice : WheelChoice) :
    toAsciiLowercase (trim choice.asStr) = choice.asStr := by
  cases choice <;> decide

theorem WheelChoice.parse_asStr (choice : WheelChoice) : parse choice.asStr = some choice := by
  simp only [parse, toAsciiLowercase_asStr]
  cases choice <;> rfl

theorem parseBool_printBool (value : Bool) : parseBool (printBool value) = some value := by
  cases value <;> rfl

theorem parseTemplate_eq_some {raw template : Text} :
    parseTemplate raw = some template ↔
      template = trim raw ∧ template ≠ [] ∧ (utf8 template).length ≤ 96 := by
  simp only [parseTemplate]
  split_ifs with refused
  · constructor
    · exact False.elim
    · rintro ⟨rfl, nonempty, short⟩
      rcases refused with empty | long
      · exact absurd empty nonempty
      · omega
  · rw [not_or, not_lt] at refused
    constructor
    · intro accepted
      rw [← Option.some.inj accepted]
      exact ⟨rfl, refused⟩
    · rintro ⟨rfl, -⟩
      rfl

theorem filter_toDigits {accepts : ℕ → Bool} {value : ℕ} (fits : value < 2 ^ 8)
    (accepted : accepts value = true) :
    (parseUnsigned 8 (Nat.toDigits 10 value)).filter accepts = some value := by
  rw [parseUnsigned_toDigits fits, Option.filter_some, if_pos accepted]

theorem bounds_of_filter {low high value : ℕ} {parsed : Option ℕ}
    (found : (parsed.filter fun value => low ≤ value && value ≤ high) = some value) :
    low ≤ value ∧ value ≤ high := by
  simpa using (Option.filter_eq_some_iff.mp found).2

namespace Kind

/-- What is printed of a valid value is read back. -/
theorem parse_print {kind : Kind} {value : kind.Value} (valid : kind.Valid value) :
    kind.parse (kind.print value) = some value := by
  cases kind with
  | flag => exact parseBool_printBool value
  | wheel => exact WheelChoice.parse_asStr value
  | template =>
      rcases valid with ⟨solid, nonempty, short, -⟩
      exact parseTemplate_eq_some.mpr ⟨(trim_eq_self_iff.mpr solid).symm, nonempty, short⟩
  | port => exact parseUnsigned_toDigits valid
  | percent =>
      exact filter_toDigits (lt_of_le_of_lt valid (by decide)) (decide_eq_true valid)
  | pitch =>
      exact filter_toDigits (lt_of_le_of_lt valid.2 (by decide))
        (Bool.and_eq_true_iff.mpr ⟨decide_eq_true valid.1, decide_eq_true valid.2⟩)
  | cylinders =>
      exact filter_toDigits (lt_of_le_of_lt valid.2 (by decide))
        (Bool.and_eq_true_iff.mpr ⟨decide_eq_true valid.1, decide_eq_true valid.2⟩)

/-- What is read from one line is valid. -/
theorem valid_of_parse {kind : Kind} {raw : Text} {value : kind.Value} (oneLine : '
' ∉ raw)
    (parsed : kind.parse raw = some value) : kind.Valid value := by
  cases kind with
  | flag => trivial
  | wheel => trivial
  | template =>
      rcases parseTemplate_eq_some.mp parsed with ⟨rfl, nonempty, short⟩
      exact ⟨trim_solid raw, nonempty, short, fun inside =>
        oneLine ((trim_sublist raw).subset inside)⟩
  | port => exact parseUnsigned_lt parsed
  | percent =>
      change (value : ℕ) ≤ 100
      exact of_decide_eq_true (Option.filter_eq_some_iff.mp parsed).2
  | pitch => exact bounds_of_filter parsed
  | cylinders => exact bounds_of_filter parsed

theorem print_solid {kind : Kind} {value : kind.Value} (valid : kind.Valid value) :
    Solid (kind.print value) := by
  cases kind with
  | flag => cases value <;> exact trim_eq_self_iff.mp rfl
  | wheel => cases value <;> exact trim_eq_self_iff.mp (by decide)
  | template => exact valid.1
  | port => exact toDigits_solid _
  | percent => exact toDigits_solid _
  | pitch => exact toDigits_solid _
  | cylinders => exact toDigits_solid _

theorem lineFeed_not_mem_print {kind : Kind} {value : kind.Value} (valid : kind.Valid value) :
    '
' ∉ kind.print value := by
  have number : ∀ number : ℕ, '
' ∉ Nat.toDigits 10 number :=
    fun number member => absurd (toDigits_isDigit number '
' member) Bool.false_ne_true
  cases kind with
  | flag => cases value <;> decide
  | wheel => cases value <;> decide
  | template => exact valid.2.2.2
  | port => exact number _
  | percent => exact number _
  | pitch => exact number _
  | cylinders => exact number _

end Kind

end TrueForce.TfSim
