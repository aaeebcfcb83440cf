import TrueForce.Foundation.Rewriting
import TrueForce.TfSim.FrontEnd
import TrueForce.TfSim.SaveRoundTrip

/-!
# A front-end edit

`write_key_in` reads the whole file, replaces the line of one key and writes the
file back.  Every setter of the front-ends goes through it.
-/

namespace TrueForce.TfSim.FrontEnd

open RustText Splitting Foundation Rewriting

def isKeyLine (key line : Text) : Bool :=
  (splitOnce '=' line).any fun parts => (trimStart line).head? != some '#' && trim parts.1 == key

/-- One turn of the loop, on the text written so far and on whether the key was written. -/
def writeLine (key value : Text) (state : Text × Bool) (line : Text) : Text × Bool :=
  if isKeyLine key line then
    if state.2 then state else (state.1 ++ formatLine key value, true)
  else (state.1 ++ line ++ ['\n'], state.2)

def writtenText (key value text : Text) : Text :=
  let state := (lines text).foldl (writeLine key value) ([], false)
  if state.2 then state.1 else state.1 ++ formatLine key value

/-- The file that `write_key_in` leaves. -/
def writeKeyIn (file : Option (List UInt8)) (key value : Text) : List UInt8 :=
  utf8 (writtenText key value ((readToString file).getD (fileHeader ++ ['\n'])))

/-- `Error::Invalid`. -/
inductive Error where
  | invalid
  deriving DecidableEq, Repr

section Setters

variable (file : Option (List UInt8))

def setEnabledIn (enabled : Bool) : Except Error (Option (List UInt8)) :=
  .ok (some (writeKeyIn file "enabled".toList (if enabled then ['1'] else ['0'])))

def setIntensityIn (intensity : UInt8) : Except Error (Option (List UInt8)) :=
  .ok (some (writeKeyIn file "intensity".toList (Nat.toDigits 10 (min intensity.toNat 100))))

def setPitchIn (pitchPct : UInt8) : Except Error (Option (List UInt8)) :=
  .ok (some (writeKeyIn file "pitch".toList
    (Nat.toDigits 10 (max 10 (min pitchPct.toNat 200)))))

def setWheelIn (wheel : WheelChoice) : Except Error (Option (List UInt8)) :=
  .ok (some (writeKeyIn file "wheel".toList wheel.asStr))

def setLedsIn (leds : Bool) : Except Error (Option (List UInt8)) :=
  .ok (some (writeKeyIn file "leds".toList (if leds then ['1'] else ['0'])))

def setScreenIn (on : Bool) : Except Error (Option (List UInt8)) :=
  .ok (some (writeKeyIn file "screen".toList (if on then ['1'] else ['0'])))

def setScreenTemplateIn (template : Text) : Except Error (Option (List UInt8)) :=
  let trimmed := trim template
  if trimmed = [] ∨ 96 < (utf8 trimmed).length then .error .invalid
  else .ok (some (writeKeyIn file "screen.template".toList trimmed))

def setEffectsIn (effects : Bool) : Except Error (Option (List UInt8)) :=
  .ok (some (writeKeyIn file "effects".toList (if effects then ['1'] else ['0'])))

/-- An unknown layer writes nothing. -/
def setEffectGainIn (key : Text) (percent : UInt8) : Except Error (Option (List UInt8)) :=
  if (effectByKey key).isNone then .ok file
  else
    .ok (some (writeKeyIn file ("effect_".toList ++ key)
      (Nat.toDigits 10 (min percent.toNat 100))))

def setGameEnabledIn (id : Text) (enabled : Bool) : Except Error (Option (List UInt8)) :=
  .ok (some (writeKeyIn file ("game.".toList ++ id ++ ".enabled".toList)
    (if enabled then ['1'] else ['0'])))

def setGameIntensityIn (id : Text) (intensity : UInt8) : Except Error (Option (List UInt8)) :=
  .ok (some (writeKeyIn file ("game.".toList ++ id ++ ".intensity".toList)
    (Nat.toDigits 10 (min intensity.toNat 100))))

end Setters

/-- A call of one of the setters. -/
inductive Call where
  | enabled (enabled : Bool)
  | intensity (intensity : UInt8)
  | pitch (pitchPct : UInt8)
  | wheel (wheel : WheelChoice)
  | leds (leds : Bool)
  | screen (on : Bool)
  | screenTemplate (template : Text)
  | effects (effects : Bool)
  | effectGain (key : Text) (percent : UInt8)
  | gameEnabled (id : Text) (enabled : Bool)
  | gameIntensity (id : Text) (intensity : UInt8)

namespace Call

def run (file : Option (List UInt8)) : Call → Except Error (Option (List UInt8))
  | .enabled on => setEnabledIn file on
  | .intensity percent => setIntensityIn file percent
  | .pitch percent => setPitchIn file percent
  | .wheel choice => setWheelIn file choice
  | .leds on => setLedsIn file on
  | .screen on => setScreenIn file on
  | .screenTemplate template => setScreenTemplateIn file template
  | .effects on => setEffectsIn file on
  | .effectGain name percent => setEffectGainIn file name percent
  | .gameEnabled id on => setGameEnabledIn file id on
  | .gameIntensity id percent => setGameIntensityIn file id percent

/-- The key a call edits. -/
def key : Call → Text
  | .enabled _ => "enabled".toList
  | .intensity _ => "intensity".toList
  | .pitch _ => "pitch".toList
  | .wheel _ => "wheel".toList
  | .leds _ => "leds".toList
  | .screen _ => "screen".toList
  | .screenTemplate _ => "screen.template".toList
  | .effects _ => "effects".toList
  | .effectGain name _ => "effect_".toList ++ name
  | .gameEnabled id _ => "game.".toList ++ id ++ ".enabled".toList
  | .gameIntensity id _ => "game.".toList ++ id ++ ".intensity".toList

/-- What a call is to set, and to which value. -/
def assignment? : Call → Option Assignment
  | .enabled on => some ⟨.enabled, on⟩
  | .intensity percent => some ⟨.intensity, min percent.toNat 100⟩
  | .pitch percent => some ⟨.pitch, max 10 (min percent.toNat 200)⟩
  | .wheel choice => some ⟨.wheel, choice⟩
  | .leds on => some ⟨.leds, on⟩
  | .screen on => some ⟨.screen, on⟩
  | .screenTemplate template => some ⟨.screenTemplate, trim template⟩
  | .effects on => some ⟨.effects, on⟩
  | .effectGain name percent =>
      (EffectId.fromKey name).map fun id => ⟨.effectGain id, min percent.toNat 100⟩
  | .gameEnabled id on => some ⟨.gameEnabled id, on⟩
  | .gameIntensity id percent => some ⟨.gameIntensity id, min percent.toNat 100⟩

/-- The strings among the arguments fit into a line. -/
def Fits : Call → Prop
  | .screenTemplate template => '\n' ∉ trim template
  | .gameEnabled id _ | .gameIntensity id _ => id ≠ [] ∧ '=' ∉ id ∧ '\n' ∉ id
  | _ => True

end Call

/-- Whether a line of a file, as bytes, carries a key. -/
def carries (key : Text) (line : List UInt8) : Bool :=
  (splitOnce 0x3D line).any fun parts => (decode parts.1).any fun name => trim name == key

/-- The lines that do not carry the key. -/
def otherLines (key : Text) (file : List UInt8) : List (List UInt8) :=
  (pieces 0x0A file).filter fun line => !carries key line

/-- What an edit promises of the file before and after it. -/
structure TouchesOneKey (call : Call) (before after : List UInt8) : Prop where
  others : otherLines call.key after = otherLines call.key before
  setting : TfSim.Config.loadFrom (some after) =
    call.assignment?.elim (TfSim.Config.loadFrom (some before))
      (Assignment.apply (TfSim.Config.loadFrom (some before)))
  again : call.run (some after) = .ok (some after)

end TrueForce.TfSim.FrontEnd
