import TrueForce.Foundation.SortedMap
import TrueForce.Foundation.TextFile
import Mathlib.Data.Char
import Mathlib.Data.List.Lex

/-!
# The configuration of the simulator

`tf-sim.conf` is read line by line, each line applied or skipped by itself, and
written key by key from one list.
-/

namespace TrueForce.TfSim

open RustText Splitting Foundation

/-- The layers, in mix order. -/
inductive EffectId where
  | engine
  | revLimiter
  | pitLimiter
  | gearShift
  | abs
  | tractionLoss
  | roadBumps
  | airborne
  | collision
  | drs
  deriving DecidableEq, Repr

namespace EffectId

def all : List EffectId :=
  [.engine, .revLimiter, .pitLimiter, .gearShift, .abs, .tractionLoss, .roadBumps, .airborne,
    .collision, .drs]

def key : EffectId → Text
  | .engine => "engine".toList
  | .revLimiter => "rev_limiter".toList
  | .pitLimiter => "pit_limiter".toList
  | .gearShift => "gear_shift".toList
  | .abs => "abs".toList
  | .tractionLoss => "traction_loss".toList
  | .roadBumps => "road_bumps".toList
  | .airborne => "airborne".toList
  | .collision => "collision".toList
  | .drs => "drs".toList

def fromKey (key : Text) : Option EffectId := all.find? fun id => id.key = key

def defaultGain : EffectId → ℕ
  | .engine => 100
  | .collision => 80
  | .airborne => 85
  | .revLimiter => 70
  | .gearShift => 60
  | .abs => 60
  | .pitLimiter => 50
  | .tractionLoss => 50
  | .roadBumps => 40
  | .drs => 40

def index : EffectId → Fin 10
  | .engine => 0
  | .revLimiter => 1
  | .pitLimiter => 2
  | .gearShift => 3
  | .abs => 4
  | .tractionLoss => 5
  | .roadBumps => 6
  | .airborne => 7
  | .collision => 8
  | .drs => 9

end EffectId

/-- Gain per layer, in percent. -/
structure EffectGains where
  gains : Vector ℕ 10
  deriving DecidableEq, Repr

namespace EffectGains

def get (gains : EffectGains) (id : EffectId) : ℕ := gains.gains[id.index]

def set (gains : EffectGains) (id : EffectId) (percent : ℕ) : EffectGains :=
  ⟨gains.gains.set id.index (min percent 100)⟩

instance : Inhabited EffectGains where
  default :=
    ⟨EffectId.all.foldl (fun gains id => gains.set id.index id.defaultGain) (Vector.replicate 10 0)⟩

end EffectGains

inductive WheelChoice where
  | auto
  | directDrive
  | g923
  deriving DecidableEq, Repr

namespace WheelChoice

def asStr : WheelChoice → Text
  | .auto => "auto".toList
  | .directDrive => "dd".toList
  | .g923 => "g923".toList

def parse (raw : Text) : Option WheelChoice :=
  match String.ofList (toAsciiLowercase (trim raw)) with
  | "auto" | "" => some .auto
  | "dd" | "rs50" | "gpro" | "g pro" | "g-pro" | "direct-drive" | "directdrive" =>
      some .directDrive
  | "g923" | "923" | "xbox" | "g923-xbox" => some .g923
  | _ => none

end WheelChoice

def fileHeader : Text := "# logi-tf-sim configuration".toList

def defaultIntensity : ℕ := 30

def defaultGameIntensity : ℕ := 100

structure GameConfig where
  enabled : Bool
  intensity : ℕ
  deriving DecidableEq, Repr

instance : Inhabited GameConfig where
  default := { enabled := true, intensity := defaultGameIntensity }

structure Config where
  enabled : Bool
  intensity : ℕ
  wheel : WheelChoice
  pitchPct : ℕ
  cylinders : ℕ
  leds : Bool
  effects : Bool
  effectGains : EffectGains
  codemastersPort : ℕ
  pcarsPort : ℕ
  beamngPort : ℕ
  relayPort : ℕ
  followGameGain : Bool
  screen : Bool
  screenTemplate : Text
  g923StreamWithoutFfbMirror : Bool
  g923FfbInvert : Bool
  games : SortedMap Text GameConfig

instance : Inhabited Config where
  default :=
    { enabled := true
      intensity := defaultIntensity
      wheel := .auto
      pitchPct := 35
      cylinders := 4
      leds := true
      effects := true
      effectGains := default
      codemastersPort := 20777
      pcarsPort := 5606
      beamngPort := 4444
      relayPort := 20780
      followGameGain := true
      screen := false
      screenTemplate := "G|\x7bgear\x7d|\x7bspeed\x7d".toList
      g923StreamWithoutFfbMirror := false
      g923FfbInvert := true
      games := SortedMap.empty }

def parseBool (raw : Text) : Option Bool :=
  match String.ofList raw with
  | "1" | "true" | "on" => some true
  | "0" | "false" | "off" => some false
  | _ => none

def parsePercent (raw : Text) : Option ℕ := (parseUnsigned 8 raw).filter (· ≤ 100)

def parsePitch (raw : Text) : Option ℕ :=
  (parseUnsigned 8 raw).filter fun value => 10 ≤ value && value ≤ 200

def parseCylinders (raw : Text) : Option ℕ :=
  (parseUnsigned 8 raw).filter fun value => 1 ≤ value && value ≤ 16

/-- The template, in at most 96 bytes. -/
def parseTemplate (raw : Text) : Option Text :=
  let template := trim raw
  if template = [] ∨ 96 < (utf8 template).length then none else some template

/-- The last arm of `apply_line`: `effect_<name>` and `game.<id>.<field>`. -/
def applyLayerOrGame (config : Config) (key raw : Text) : Option Config :=
  match "effect_".toList.isPrefixOf? key with
  | some name =>
      (EffectId.fromKey name).bind fun id => (parsePercent raw).map fun value =>
        { config with effectGains := config.effectGains.set id value }
  | none =>
      ("game.".toList.isPrefixOf? key).bind fun rest => (rsplitOnce '.' rest).bind fun parts =>
        if parts.1 = [] then none
        else
          match String.ofList parts.2 with
          | "enabled" =>
              (parseBool raw).map fun value =>
                { config with games := config.games.modify parts.1 ({ · with enabled := value }) }
          | "intensity" =>
              (parsePercent raw).map fun value =>
                { config with
                  games := config.games.modify parts.1 ({ · with intensity := value }) }
          | _ => none

/-- `apply_line`; `none` where it returns false, with the configuration as it was. -/
def applyLine (config : Config) (key raw : Text) : Option Config :=
  match String.ofList key with
  | "enabled" => (parseBool raw).map fun value => { config with enabled := value }
  | "intensity" => (parsePercent raw).map fun value => { config with intensity := value }
  | "wheel" => (WheelChoice.parse raw).map fun value => { config with wheel := value }
  | "pitch" => (parsePitch raw).map fun value => { config with pitchPct := value }
  | "cylinders" => (parseCylinders raw).map fun value => { config with cylinders := value }
  | "leds" => (parseBool raw).map fun value => { config with leds := value }
  | "port.codemasters" =>
      (parseUnsigned 16 raw).map fun value => { config with codemastersPort := value }
  | "port.pcars" => (parseUnsigned 16 raw).map fun value => { config with pcarsPort := value }
  | "port.beamng" => (parseUnsigned 16 raw).map fun value => { config with beamngPort := value }
  | "port.relay" => (parseUnsigned 16 raw).map fun value => { config with relayPort := value }
  | "effects" => (parseBool raw).map fun value => { config with effects := value }
  | "screen" => (parseBool raw).map fun value => { config with screen := value }
  | "screen.template" =>
      (parseTemplate raw).map fun value => { config with screenTemplate := value }
  | "follow_game_gain" => (parseBool raw).map fun value => { config with followGameGain := value }
  | "g923.stream_without_ffb_mirror" =>
      (parseBool raw).map fun value => { config with g923StreamWithoutFfbMirror := value }
  | "g923.ffb_invert" => (parseBool raw).map fun value => { config with g923FfbInvert := value }
  | _ => applyLayerOrGame config key raw

/-- How many lines were skipped, and the first of them. -/
structure LoadReport where
  skipped : ℕ
  first : Option Text
  deriving DecidableEq, Repr

instance : Inhabited LoadReport where
  default := { skipped := 0, first := none }

def LoadReport.skip (report : LoadReport) (line : Text) : LoadReport :=
  { skipped := report.skipped + 1, first := report.first.or (some line) }

/-- Neither empty nor a comment. -/
def meaningful (line : Text) : Bool := !(trim line).isEmpty && (trim line).head? != some '#'

/-- The key and the value of a line, both trimmed. -/
def keyValue (line : Text) : Option (Text × Text) :=
  (splitOnce '=' (trim line)).map fun parts => (trim parts.1, trim parts.2)

def loadLine (state : Config × LoadReport) (line : Text) : Config × LoadReport :=
  if meaningful line then
    match (keyValue line).bind fun parts => applyLine state.1 parts.1 parts.2 with
    | some config => (config, state.2)
    | none => (state.1, state.2.skip (trim line))
  else state

namespace Config

def loadFromWithReport (file : Option (List UInt8)) : Config × LoadReport :=
  match readToString file with
  | none => (default, default)
  | some text => (lines text).foldl loadLine (default, default)

def loadFrom (file : Option (List UInt8)) : Config := (loadFromWithReport file).1

end Config

def printBool (value : Bool) : Text := if value then ['1'] else ['0']

def formatLine (key value : Text) : Text := key ++ '=' :: value ++ ['\n']

def Config.saved (config : Config) : Text :=
  fileHeader ++ ['\n'] ++
  formatLine "enabled".toList (printBool config.enabled) ++
  formatLine "intensity".toList (Nat.toDigits 10 config.intensity) ++
  formatLine "pitch".toList (Nat.toDigits 10 config.pitchPct) ++
  formatLine "cylinders".toList (Nat.toDigits 10 config.cylinders) ++
  formatLine "leds".toList (printBool config.leds) ++
  formatLine "screen".toList (printBool config.screen) ++
  formatLine "screen.template".toList config.screenTemplate ++
  formatLine "port.codemasters".toList (Nat.toDigits 10 config.codemastersPort) ++
  formatLine "port.pcars".toList (Nat.toDigits 10 config.pcarsPort) ++
  formatLine "port.beamng".toList (Nat.toDigits 10 config.beamngPort) ++
  formatLine "port.relay".toList (Nat.toDigits 10 config.relayPort) ++
  formatLine "effects".toList (printBool config.effects) ++
  EffectId.all.flatMap (fun id =>
    formatLine ("effect_".toList ++ id.key) (Nat.toDigits 10 (config.effectGains.get id))) ++
  formatLine "follow_game_gain".toList (printBool config.followGameGain) ++
  formatLine "g923.stream_without_ffb_mirror".toList
    (printBool config.g923StreamWithoutFfbMirror) ++
  formatLine "g923.ffb_invert".toList (printBool config.g923FfbInvert) ++
  config.games.entries.flatMap fun game =>
    formatLine ("game.".toList ++ game.1 ++ ".enabled".toList) (printBool game.2.enabled) ++
    formatLine ("game.".toList ++ game.1 ++ ".intensity".toList)
      (Nat.toDigits 10 game.2.intensity)

/-- The file that `save_to` writes. -/
def Config.saveTo (config : Config) : List UInt8 := utf8 config.saved

end TrueForce.TfSim
