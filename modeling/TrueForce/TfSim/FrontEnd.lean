import TrueForce.TfSim.Config

/-!
# The front-ends' reader

The front-ends read `tf-sim.conf` with a parser of their own, which models only
the keys they edit, and with a third reading of the grammar that finds the lines
the daemon would skip.
-/

namespace TrueForce.TfSim.FrontEnd

open RustText Splitting Foundation

structure Effect where
  key : Text
  defaultGain : ℕ

/-- `EFFECTS`. -/
def effects : List Effect :=
  [⟨"engine".toList, 100⟩, ⟨"rev_limiter".toList, 70⟩, ⟨"pit_limiter".toList, 50⟩,
    ⟨"gear_shift".toList, 60⟩, ⟨"abs".toList, 60⟩, ⟨"traction_loss".toList, 50⟩,
    ⟨"road_bumps".toList, 40⟩, ⟨"airborne".toList, 85⟩, ⟨"collision".toList, 80⟩,
    ⟨"drs".toList, 40⟩]

def effectByKey (key : Text) : Option Effect := effects.find? fun effect => effect.key = key

def effectPosition (key : Text) : Option (Fin effects.length) :=
  effects.findFinIdx? fun effect => effect.key = key

/-- Gains in percent, beside the table. -/
structure EffectGains where
  gains : Vector ℕ effects.length

namespace EffectGains

instance : Inhabited EffectGains where
  default := ⟨Vector.ofFn fun position => (effects.get position).defaultGain⟩

def get (gains : EffectGains) (key : Text) : ℕ :=
  match effectPosition key with
  | some position => gains.gains[position]
  | none => 0

def set (gains : EffectGains) (key : Text) (percent : ℕ) : EffectGains :=
  match effectPosition key with
  | some position => ⟨gains.gains.set position (min percent 100)⟩
  | none => gains

end EffectGains

structure GameConfig where
  enabled : Bool
  intensity : ℕ
  deriving DecidableEq, Repr

instance : Inhabited GameConfig where
  default := { enabled := true, intensity := 100 }

structure Config where
  enabled : Bool
  intensity : ℕ
  pitchPct : ℕ
  wheel : WheelChoice
  leds : Bool
  screen : Bool
  screenTemplate : Text
  effects : Bool
  effectGains : EffectGains
  games : SortedMap Text GameConfig

instance : Inhabited Config where
  default :=
    { enabled := true
      intensity := 30
      pitchPct := 35
      wheel := .auto
      leds := true
      screen := false
      screenTemplate := "G|\x7bgear\x7d|\x7bspeed\x7d".toList
      effects := true
      effectGains := default
      games := SortedMap.empty }

def parseBool (raw : Text) : Option Bool :=
  match String.ofList raw with
  | "1" | "true" | "on" => some true
  | "0" | "false" | "off" => some false
  | _ => none

def parsePercent (raw : Text) : Option ℕ := (parseUnsigned 8 raw).filter (· ≤ 100)

def applyLayerOrGame (config : Config) (key raw : Text) : Config :=
  match "effect_".toList.isPrefixOf? key with
  | some name =>
      match parsePercent raw with
      | some value => { config with effectGains := config.effectGains.set name value }
      | none => config
  | none =>
      match ("game.".toList.isPrefixOf? key).bind fun rest => rsplitOnce '.' rest with
      | none => config
      | some parts =>
          if parts.1 = [] then config
          else
            match String.ofList parts.2 with
            | "enabled" =>
                match parseBool raw with
                | some value =>
                    { config with
                      games := config.games.modify parts.1 ({ · with enabled := value }) }
                | none => config
            | "intensity" =>
                match parsePercent raw with
                | some value =>
                    { config with
                      games := config.games.modify parts.1 ({ · with intensity := value }) }
                | none => config
            | _ => config

def applyLine (config : Config) (key raw : Text) : Config :=
  match String.ofList key with
  | "enabled" =>
      match parseBool raw with
      | some value => { config with enabled := value }
      | none => config
  | "intensity" =>
      match parsePercent raw with
      | some value => { config with intensity := value }
      | none => config
  | "pitch" =>
      match parseUnsigned 8 raw with
      | some value =>
          if 10 ≤ value && value ≤ 200 then { config with pitchPct := value } else config
      | none => config
  | "wheel" =>
      match WheelChoice.parse raw with
      | some value => { config with wheel := value }
      | none => config
  | "leds" =>
      match parseBool raw with
      | some value => { config with leds := value }
      | none => config
  | "screen" =>
      match parseBool raw with
      | some value => { config with screen := value }
      | none => config
  | "screen.template" =>
      let template := trim raw
      if template ≠ [] ∧ (utf8 template).length ≤ 96 then
        { config with screenTemplate := template }
      else config
  | "effects" =>
      match parseBool raw with
      | some value => { config with effects := value }
      | none => config
  | _ => applyLayerOrGame config key raw

def loadLine (config : Config) (line : Text) : Config :=
  let line := trim line
  if line = [] ∨ line.head? = some '#' then config
  else
    match splitOnce '=' line with
    | some parts => applyLine config (trim parts.1) (trim parts.2)
    | none => config

def Config.loadFrom (file : Option (List UInt8)) : Config :=
  match readToString file with
  | none => default
  | some text => (lines text).foldl loadLine default

def recognisesLayerOrGame (key raw : Text) : Bool :=
  match "effect_".toList.isPrefixOf? key with
  | some name => (effectByKey name).isSome && (parsePercent raw).isSome
  | none =>
      match ("game.".toList.isPrefixOf? key).bind fun rest => rsplitOnce '.' rest with
      | none => false
      | some parts =>
          if parts.1 = [] then false
          else
            match String.ofList parts.2 with
            | "enabled" => (parseBool raw).isSome
            | "intensity" => (parsePercent raw).isSome
            | _ => false

def daemonRecognises (key raw : Text) : Bool :=
  match String.ofList key with
  | "enabled" | "screen" | "leds" | "effects" | "follow_game_gain" | "g923.ffb_invert"
  | "g923.stream_without_ffb_mirror" => (parseBool raw).isSome
  | "intensity" => (parsePercent raw).isSome
  | "wheel" => (WheelChoice.parse raw).isSome
  | "screen.template" => !(trim raw).isEmpty && (utf8 (trim raw)).length ≤ 96
  | "pitch" => (parseUnsigned 8 raw).any fun value => 10 ≤ value && value ≤ 200
  | "cylinders" => (parseUnsigned 8 raw).any fun value => 1 ≤ value && value ≤ 16
  | "port.codemasters" | "port.pcars" | "port.beamng" | "port.relay" =>
      (parseUnsigned 16 raw).isSome
  | _ => recognisesLayerOrGame key raw

def scanLine (found : ℕ × Option Text) (line : Text) : ℕ × Option Text :=
  let line := trim line
  if line = [] ∨ line.head? = some '#' then found
  else if (splitOnce '=' line).any fun parts => daemonRecognises (trim parts.1) (trim parts.2) then
    found
  else (found.1 + 1, found.2.or (some line))

/-- How many lines the daemon would skip, and the first of them. -/
def unrecognisedLines (file : Option (List UInt8)) : ℕ × Option Text :=
  match readToString file with
  | none => (0, none)
  | some text => (lines text).foldl scanLine (0, none)

end TrueForce.TfSim.FrontEnd
