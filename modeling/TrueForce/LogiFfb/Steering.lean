import TrueForce.Foundation.TextFile

/-!
# Steering a game away from the real wheel

In the registry file of a Wine prefix the real wheel is disabled by its name.  A line
that does so is added behind what the file has, unless there is such a line.
-/

namespace TrueForce.LogiFfb.Steering

open RustText (Text lines)

def wineDinputJoysticksSection : Text :=
  "[Software\\\\Wine\\\\DirectInput\\\\Joysticks]".toList

structure Plan where
  env : List (Text × Text)
  regDisableName : Text
  deriving DecidableEq

/-- `{:04x}` -/
def hex (value : UInt16) : Text :=
  let digits := Nat.toDigits 16 value.toNat
  List.replicate (4 - digits.length) '0' ++ digits

def planFor (realVendor realProduct : UInt16) (realName : Text) : Plan where
  env := [("SDL_GAMECONTROLLER_IGNORE_DEVICES".toList,
    "0x".toList ++ hex realVendor ++ "/0x".toList ++ hex realProduct)]
  regDisableName := realName

def disableLine (name : Text) : Text := '"' :: (name ++ "\"=\"disabled\"".toList)

/-- What `fs::read_to_string` finds of `user.reg`. -/
inductive Registry where
  | missing
  | unreadable
  | text (contents : Text)
  deriving DecidableEq

/-- `Path::join` with a relative path. -/
def join (path file : Text) : Text :=
  if path = [] ∨ path.getLast? = some '/' then path ++ file else path ++ '/' :: file

def ended (existing : Text) : Text :=
  if existing ≠ [] ∧ existing.getLast? ≠ some '\n' then existing ++ ['\n'] else existing

/-- The text that `apply` writes where the line is not there. -/
def updated (existing line : Text) : Text :=
  ended existing ++ wineDinputJoysticksSection ++ ['\n'] ++ line ++ ['\n']

/-- The registry after a successful call, or the context of the error.  Whether the file can be
written is up to the file system. -/
def apply (plan : Plan) (winePrefix : Option Text) (writable : Bool) (registry : Registry) :
    Except Text Registry :=
  match winePrefix with
  | none => .ok registry
  | some path =>
      let regPath := join path "user.reg".toList
      let line := disableLine plan.regDisableName
      match registry with
      | .missing => .ok .missing
      | .unreadable => .error ("read ".toList ++ regPath)
      | .text existing =>
          if line ∈ lines existing then .ok (.text existing)
          else if writable then .ok (.text (updated existing line))
          else .error ("write ".toList ++ regPath)

end TrueForce.LogiFfb.Steering
