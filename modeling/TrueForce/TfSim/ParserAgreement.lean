import TrueForce.TfSim.FrontEnd
import TrueForce.TfSim.Slots

/-!
# The parsers of `tf-sim.conf` agree

Line by line, the front-ends' parser changes what it models as the daemon's does,
and the recogniser accepts what the daemon's parser consumes.
-/

namespace TrueForce.TfSim.FrontEnd

open RustText Splitting Foundation

/-- The front-ends' configuration is what the daemon's has in the fields both model. -/
structure Agrees (front : Config) (daemon : TfSim.Config) : Prop where
  enabled : front.enabled = daemon.enabled
  intensity : front.intensity = daemon.intensity
  pitchPct : front.pitchPct = daemon.pitchPct
  wheel : front.wheel = daemon.wheel
  leds : front.leds = daemon.leds
  screen : front.screen = daemon.screen
  screenTemplate : front.screenTemplate = daemon.screenTemplate
  effects : front.effects = daemon.effects
  effectGains : ∀ id : EffectId, front.effectGains.get id.key = daemon.effectGains.get id
  games : ∀ id, (front.games.get? id).map (fun game => (game.enabled, game.intensity)) =
    (daemon.games.get? id).map fun game => (game.enabled, game.intensity)

theorem effectPosition_key (id : EffectId) : effectPosition id.key = some id.index := by
  cases id <;> rfl

theorem effects_keys : effects.map Effect.key = EffectId.all.map EffectId.key := rfl

theorem fromKey_eq_some {name : Text} {id : EffectId} (known : EffectId.fromKey name = some id) :
    id.key = name := by
  simpa using List.find?_some known

theorem key_ne_of_fromKey {name : Text} (unknown : EffectId.fromKey name = none) :
    ∀ effect ∈ effects, effect.key ≠ name := by
  intro effect member same
  have listed : effect.key ∈ EffectId.all.map EffectId.key := by
    rw [← effects_keys]
    exact List.mem_map_of_mem member
  rcases List.mem_map.mp listed with ⟨id, known, key⟩
  have refused := List.find?_eq_none.mp unknown id known
  simp [key, same] at refused

theorem EffectGains.get_set (gains : EffectGains) (id other : EffectId) (percent : ℕ) :
    (gains.set id.key percent).get other.key =
      if other = id then min percent 100 else gains.get other.key := by
  simp only [EffectGains.get, EffectGains.set, effectPosition_key]
  by_cases same : other = id
  · subst same
    rw [if_pos rfl]
    exact Vector.getElem_set_self _
  · have apart : (id.index : ℕ) ≠ other.index :=
      fun index => same (EffectId.index_injective (Fin.ext index)).symm
    rw [if_neg same]
    exact Vector.getElem_set_ne _ _ apart

theorem EffectGains.set_of_unknown {name : Text} (unknown : EffectId.fromKey name = none)
    (gains : EffectGains) (percent : ℕ) : gains.set name percent = gains := by
  have absent : effectPosition name = none := by
    apply List.findFinIdx?_eq_none_iff.mpr
    intro effect member
    simpa using key_ne_of_fromKey unknown effect member
  rw [EffectGains.set, absent]

theorem agrees_default : Agrees default default where
  enabled := rfl
  intensity := rfl
  pitchPct := rfl
  wheel := rfl
  leds := rfl
  screen := rfl
  screenTemplate := rfl
  effects := rfl
  effectGains := fun id => by cases id <;> rfl
  games := fun _ => rfl

theorem parseBool_eq (raw : Text) : parseBool raw = TfSim.parseBool raw := rfl

theorem parsePercent_eq (raw : Text) : parsePercent raw = TfSim.parsePercent raw := rfl

section Step

variable {front : Config} {daemon : TfSim.Config} (agrees : Agrees front daemon)

include agrees

theorem Agrees.setGain (id : EffectId) (percent : ℕ) :
    Agrees { front with effectGains := front.effectGains.set id.key percent }
      { daemon with effectGains := daemon.effectGains.set id percent } where
  __ := agrees
  effectGains := by
    intro other
    rw [EffectGains.get_set, TfSim.EffectGains.get_set, agrees.effectGains]

theorem Agrees.gameOr (id : Text) :
    ((front.games.get? id).getD default).enabled = ((daemon.games.get? id).getD default).enabled ∧
      ((front.games.get? id).getD default).intensity =
        ((daemon.games.get? id).getD default).intensity := by
  have same := agrees.games id
  cases mine : front.games.get? id with
  | none =>
      cases theirs : daemon.games.get? id with
      | none => exact ⟨rfl, rfl⟩
      | some game => simp [mine, theirs] at same
  | some game =>
      cases theirs : daemon.games.get? id with
      | none => simp [mine, theirs] at same
      | some other => simpa [mine, theirs] using same

theorem Agrees.setGameEnabled (id : Text) (value : Bool) :
    Agrees { front with games := front.games.modify id ({ · with enabled := value }) }
      { daemon with games := daemon.games.modify id ({ · with enabled := value }) } where
  __ := agrees
  games := by
    intro other
    simp only [SortedMap.get?_modify]
    split_ifs
    · simp only [Option.map_some, (agrees.gameOr id).2]
    · exact agrees.games other

theorem Agrees.setGameIntensity (id : Text) (value : ℕ) :
    Agrees { front with games := front.games.modify id ({ · with intensity := value }) }
      { daemon with games := daemon.games.modify id ({ · with intensity := value }) } where
  __ := agrees
  games := by
    intro other
    simp only [SortedMap.get?_modify]
    split_ifs
    · simp only [Option.map_some, (agrees.gameOr id).1]
    · exact agrees.games other

theorem Agrees.applyLayerOrGame (key raw : Text) :
    Agrees (applyLayerOrGame front key raw)
      ((TfSim.applyLayerOrGame daemon key raw).getD daemon) := by
  simp only [FrontEnd.applyLayerOrGame, TfSim.applyLayerOrGame, parseBool_eq, parsePercent_eq]
  cases "effect_".toList.isPrefixOf? key with
  | some name =>
      dsimp only
      cases known : EffectId.fromKey name with
      | none =>
          simp only [EffectGains.set_of_unknown known, Option.bind_none, Option.getD_none]
          cases TfSim.parsePercent raw <;> exact agrees
      | some id =>
          rw [← fromKey_eq_some known]
          cases TfSim.parsePercent raw with
          | none => exact agrees
          | some value => exact agrees.setGain id value
  | none =>
      dsimp only
      cases "game.".toList.isPrefixOf? key with
      | none => exact agrees
      | some rest =>
          simp only [Option.bind_some]
          cases rsplitOnce '.' rest with
          | none => exact agrees
          | some parts =>
              simp only [Option.bind_some]
              split_ifs
              · exact agrees
              · generalize String.ofList parts.2 = field
                split
                · cases TfSim.parseBool raw with
                  | none => exact agrees
                  | some value => exact agrees.setGameEnabled parts.1 value
                · cases TfSim.parsePercent raw with
                  | none => exact agrees
                  | some value => exact agrees.setGameIntensity parts.1 value
                · rename_i enabled intensity
                  simpa [enabled, intensity] using agrees

theorem Agrees.of_map {Value : Type} (parsed : Option Value) {change : Value → TfSim.Config}
    (keeps : ∀ value, Agrees front (change value)) :
    Agrees front ((parsed.map change).getD daemon) := by
  cases parsed with
  | none => exact agrees
  | some value => exact keeps value

omit agrees in
/-- A key that only the daemon models changes nothing here. -/
theorem applyLayerOrGame_of_none {key : Text} (layer : "effect_".toList.isPrefixOf? key = none)
    (game : "game.".toList.isPrefixOf? key = none) (raw : Text) :
    FrontEnd.applyLayerOrGame front key raw = front := by
  simp only [FrontEnd.applyLayerOrGame, layer, game, Option.bind_none]

theorem Agrees.applyLine (key raw : Text) :
    Agrees (applyLine front key raw) ((TfSim.applyLine daemon key raw).getD daemon) := by
  simp only [FrontEnd.applyLine, TfSim.applyLine, parseBool_eq, parsePercent_eq]
  have spelled : ∀ literal, String.ofList key = literal → key = literal.toList :=
    fun literal same => (Slot.toList_of_ofList same).symm
  generalize String.ofList key = name at spelled
  split
  case h_1 =>
    cases TfSim.parseBool raw with
    | none => exact agrees
    | some value => exact { agrees with enabled := rfl }
  case h_2 =>
    cases TfSim.parsePercent raw with
    | none => exact agrees
    | some value => exact { agrees with intensity := rfl }
  case h_3 =>
    simp only [parsePitch]
    cases parseUnsigned 8 raw with
    | none => exact agrees
    | some value =>
        simp only [Option.filter_some]
        split_ifs
        · exact { agrees with pitchPct := rfl }
        · exact agrees
  case h_4 =>
    cases WheelChoice.parse raw with
    | none => exact agrees
    | some value => exact { agrees with wheel := rfl }
  case h_5 =>
    cases TfSim.parseBool raw with
    | none => exact agrees
    | some value => exact { agrees with leds := rfl }
  case h_6 =>
    cases TfSim.parseBool raw with
    | none => exact agrees
    | some value => exact { agrees with screen := rfl }
  case h_7 =>
    simp only [parseTemplate]
    by_cases refused : trim raw = [] ∨ 96 < (utf8 (trim raw)).length
    · have rejected : ¬(trim raw ≠ [] ∧ (utf8 (trim raw)).length ≤ 96) := by
        rw [not_and_or, not_not, not_le]
        exact refused
      rw [if_neg rejected, if_pos refused]
      exact agrees
    · rw [if_neg refused]
      rw [not_or, not_lt] at refused
      rw [if_pos refused]
      exact { agrees with screenTemplate := rfl }
  case h_8 =>
    cases TfSim.parseBool raw with
    | none => exact agrees
    | some value => exact { agrees with effects := rfl }
  case h_9 =>
    split
    case h_5 =>
      rw [spelled _ rfl, applyLayerOrGame_of_none rfl rfl]
      exact agrees.of_map _ fun _ => { agrees with }
    case h_7 =>
      rw [spelled _ rfl, applyLayerOrGame_of_none rfl rfl]
      exact agrees.of_map _ fun _ => { agrees with }
    case h_8 =>
      rw [spelled _ rfl, applyLayerOrGame_of_none rfl rfl]
      exact agrees.of_map _ fun _ => { agrees with }
    case h_9 =>
      rw [spelled _ rfl, applyLayerOrGame_of_none rfl rfl]
      exact agrees.of_map _ fun _ => { agrees with }
    case h_10 =>
      rw [spelled _ rfl, applyLayerOrGame_of_none rfl rfl]
      exact agrees.of_map _ fun _ => { agrees with }
    case h_14 =>
      rw [spelled _ rfl, applyLayerOrGame_of_none rfl rfl]
      exact agrees.of_map _ fun _ => { agrees with }
    case h_15 =>
      rw [spelled _ rfl, applyLayerOrGame_of_none rfl rfl]
      exact agrees.of_map _ fun _ => { agrees with }
    case h_16 =>
      rw [spelled _ rfl, applyLayerOrGame_of_none rfl rfl]
      exact agrees.of_map _ fun _ => { agrees with }
    case h_17 => exact agrees.applyLayerOrGame key raw
    all_goals contradiction

end Step

theorem effectByKey_isSome (name : Text) :
    (effectByKey name).isSome = (EffectId.fromKey name).isSome := by
  have keys : ∀ list : List Effect,
      (list.find? fun effect => effect.key = name).isSome =
        ((list.map Effect.key).find? (· = name)).isSome := by
    intro list
    rw [List.find?_map, Option.isSome_map]
    rfl
  have ids : ∀ list : List EffectId,
      (list.find? fun id => id.key = name).isSome =
        ((list.map EffectId.key).find? (· = name)).isSome := by
    intro list
    rw [List.find?_map, Option.isSome_map]
    rfl
  rw [effectByKey, EffectId.fromKey, keys, ids, effects_keys]

theorem isSome_filter {Value : Type} (parsed : Option Value) (accepts : Value → Bool) :
    (parsed.filter accepts).isSome = parsed.any accepts := by
  cases parsed with
  | none => rfl
  | some value => by_cases accepted : accepts value = true <;> simp [accepted]

theorem parseTemplate_isSome (raw : Text) :
    (parseTemplate raw).isSome =
      (!(trim raw).isEmpty && decide ((utf8 (trim raw)).length ≤ 96)) := by
  simp only [parseTemplate]
  split_ifs with refused
  · rcases refused with empty | long
    · simp [empty]
    · simp [long]
  · rw [not_or, not_lt] at refused
    simp [refused]

theorem recognisesLayerOrGame_eq (daemon : TfSim.Config) (key raw : Text) :
    recognisesLayerOrGame key raw = (TfSim.applyLayerOrGame daemon key raw).isSome := by
  simp only [recognisesLayerOrGame, TfSim.applyLayerOrGame, parseBool_eq, parsePercent_eq]
  cases "effect_".toList.isPrefixOf? key with
  | some name =>
      dsimp only
      rw [effectByKey_isSome]
      cases EffectId.fromKey name with
      | none => rfl
      | some id => exact Option.isSome_map.symm
  | none =>
      dsimp only
      cases "game.".toList.isPrefixOf? key with
      | none => rfl
      | some rest =>
          simp only [Option.bind_some]
          cases rsplitOnce '.' rest with
          | none => rfl
          | some parts =>
              simp only [Option.bind_some]
              split_ifs
              · rfl
              · generalize String.ofList parts.2 = field
                split
                case h_3 => simp [*]
                all_goals exact Option.isSome_map.symm

/-- The recogniser accepts what the daemon's parser consumes. -/
theorem daemonRecognises_eq (daemon : TfSim.Config) (key raw : Text) :
    daemonRecognises key raw = (TfSim.applyLine daemon key raw).isSome := by
  simp only [daemonRecognises, TfSim.applyLine, parseBool_eq, parsePercent_eq]
  generalize String.ofList key = name
  split
  case h_10 => exact (parseTemplate_isSome raw).symm.trans Option.isSome_map.symm
  case h_11 => exact (isSome_filter _ _).symm.trans Option.isSome_map.symm
  case h_12 => exact (isSome_filter _ _).symm.trans Option.isSome_map.symm
  case h_17 =>
    split
    case h_17 => exact recognisesLayerOrGame_eq daemon key raw
    all_goals contradiction
  all_goals exact Option.isSome_map.symm

theorem ignored_iff (line : Text) :
    (trim line = [] ∨ (trim line).head? = some '#') ↔ meaningful line = false := by
  cases core : trim line with
  | nil => simp [meaningful, core]
  | cons char rest => simp [meaningful, core]

theorem Agrees.loadLine {front : Config} {state : TfSim.Config × LoadReport}
    (agrees : Agrees front state.1) (line : Text) :
    Agrees (loadLine front line) (TfSim.loadLine state line).1 := by
  simp only [FrontEnd.loadLine, TfSim.loadLine, ignored_iff, keyValue]
  cases meaningful line with
  | false => exact agrees
  | true =>
      simp only [Bool.true_eq_false, ↓reduceIte]
      cases splitOnce '=' (trim line) with
      | none => exact agrees
      | some parts =>
          simp only [Option.map_some, Option.bind_some]
          have step := agrees.applyLine (trim parts.1) (trim parts.2)
          cases applied : TfSim.applyLine state.1 (trim parts.1) (trim parts.2) with
          | none =>
              rw [applied] at step
              exact step
          | some config =>
              rw [applied] at step
              exact step

theorem scanLine_eq (state : TfSim.Config × LoadReport) (line : Text) :
    scanLine (state.2.skipped, state.2.first) line =
      ((TfSim.loadLine state line).2.skipped, (TfSim.loadLine state line).2.first) := by
  simp only [scanLine, TfSim.loadLine, ignored_iff, keyValue]
  cases meaningful line with
  | false => rfl
  | true =>
      simp only [Bool.true_eq_false, ↓reduceIte]
      cases splitOnce '=' (trim line) with
      | none => rfl
      | some parts =>
          simp only [Option.map_some, Option.bind_some, Option.any_some,
            daemonRecognises_eq state.1]
          cases TfSim.applyLine state.1 (trim parts.1) (trim parts.2) <;> rfl

/-- Over a whole text: the fields agree, and the scan counts what the daemon skips. -/
theorem agrees_foldl (texts : List Text) {front : Config} {state : TfSim.Config × LoadReport}
    (agrees : Agrees front state.1) :
    Agrees (texts.foldl FrontEnd.loadLine front) (texts.foldl TfSim.loadLine state).1 ∧
      texts.foldl scanLine (state.2.skipped, state.2.first) =
        ((texts.foldl TfSim.loadLine state).2.skipped,
          (texts.foldl TfSim.loadLine state).2.first) := by
  induction texts generalizing front state with
  | nil => exact ⟨agrees, rfl⟩
  | cons line rest ih =>
      simp only [List.foldl_cons]
      rw [scanLine_eq]
      exact ih (agrees.loadLine line)

/-- Every file reads alike in the front-ends and in the daemon. -/
theorem front_ends_read_alike (file : Option (List UInt8)) :
    Agrees (Config.loadFrom file) (TfSim.Config.loadFrom file) ∧
      unrecognisedLines file =
        ((TfSim.Config.loadFromWithReport file).2.skipped,
          (TfSim.Config.loadFromWithReport file).2.first) := by
  simp only [Config.loadFrom, TfSim.Config.loadFrom, TfSim.Config.loadFromWithReport,
    unrecognisedLines]
  cases readToString file with
  | none => exact ⟨agrees_default, rfl⟩
  | some text => exact agrees_foldl (lines text) agrees_default

end TrueForce.TfSim.FrontEnd
