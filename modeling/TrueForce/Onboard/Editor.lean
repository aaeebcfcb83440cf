import TrueForce.Foundation.Transition
import TrueForce.Onboard.Wheel

/-!
# The onboard editor

`begin` selects a slot and snapshots its values, `set` writes one value, and
`revert` writes the snapshot back.  Each call is a script of steps: a SET, the
cache update behind it, a read.  Between any two of them the refresh work may
take a step of its own, which is either a query to the wheel or the update of
the cache with the answer.  Any query and any SET may go unanswered.  The slot
that was active before is read for `finish` alone and does not appear.
-/

namespace TrueForce.Onboard

open TrueForce.Settings TrueForce.Transition

/-- The settings the connected wheel exposes, in registry order. -/
def editable : Model → List Setting
  | .rs50 =>
      [.strength, .ffbFilter, .ffbFilterAuto, .damping, .trueforce, .range, .brakeForce,
        .ledEffect, .ledBrightness]
  | .gpro =>
      [.strength, .ffbFilter, .ffbFilterAuto, .damping, .trueforce, .range, .brakeForce,
        .ledBrightness]

inductive Operation where
  /-- SET the profile; the profile write of `begin` must succeed, that of the mode need not. -/
  | selectProfile (profile : ℕ) (required : Bool)
  | cacheProfile (profile : ℕ)
  | queueRefresh
  | verifyStillActive
  | enterOnboardMode
  | snapshot (setting : Setting)
  | write (setting : Setting) (value : Value)
  | keep (setting : Setting) (value : ℕ)
  deriving DecidableEq

/-- The call in progress, or the last one when no step of it is left. -/
inductive Call where
  | none
  | begin
  | set
  | revert
  deriving DecidableEq

structure Editor where
  call : Call
  slot : ℕ
  script : List Operation
  snapshot : List (Setting × Value)
  aborted : Bool
  errors : List (Setting × Error)
  /-- What the slot held when `begin` was called. -/
  original : Slot

/-- A refresh run: the queries left, and the answer to the first of them once it has arrived. -/
structure Refresh where
  remaining : List Query
  reply : Option Reply
  deriving DecidableEq

structure State where
  model : Model
  slots : ℕ → Slot
  active : ℕ
  cache : Cache
  queued : Bool
  running : Option Refresh
  editor : Editor

inductive Event where
  | begin (slot : ℕ)
  | set (setting : Setting) (value : Value)
  | revert
  | editorStep (answered : Bool)
  | refreshStart
  | refreshStep (answered : Bool)
  deriving DecidableEq

namespace State

def proceed (state : State) (script : List Operation) : State :=
  { state with editor := { state.editor with script } }

def abort (state : State) : State :=
  { state with editor := { state.editor with script := [], aborted := true } }

def fail (state : State) (setting : Setting) (error : Error) (rest : List Operation) : State :=
  { state with
    editor := { state.editor with
      script := rest
      errors := state.editor.errors ++ [(setting, error)] } }

/-- The checks in front of a SET: the file exists, the value fits its kind, and the brake force is
written in onboard mode. -/
def checkWrite (state : State) (setting : Setting) (value : Value) : Except Error ℕ := do
  if setting ∉ editable state.model then .error .io
  else
    setting.kind.validate value
    let raw ← setting.kind.format value
    if setting = .brakeForce ∧ state.cache.currentProfile = 0 then .error (.wrongMode .onboard)
    else
      match raw with
      | .number number => return setting.wire number
      | _ => .error .invalid

/-- The wheel accepts a SET: it goes to whatever slot is active. -/
def store (state : State) (setting : Setting) (value : ℕ) : State :=
  { state with
    slots := Function.update state.slots state.active
      ((state.slots state.active).set state.cache setting value) }

def execute (state : State) (answered : Bool) (rest : List Operation) : Operation → State
  | .selectProfile profile required =>
      if answered then
        State.proceed { state with active := profile }
          (.cacheProfile profile :: .queueRefresh :: rest)
      else if required then state.abort
      else state.proceed rest
  | .cacheProfile profile =>
      State.proceed { state with cache := { state.cache with currentProfile := profile } } rest
  | .queueRefresh => State.proceed { state with queued := true } rest
  | .verifyStillActive =>
      if state.cache.currentProfile = state.editor.slot then state.proceed rest else state.abort
  | .enterOnboardMode =>
      let current := state.cache.currentProfile
      let profile := if 1 ≤ current ∧ current ≤ 5 then current else 1
      state.proceed (.selectProfile profile false :: rest)
  | .snapshot setting =>
      match state.cache.read setting with
      | .error _ => state.proceed rest
      | .ok value =>
          { state with
            editor := { state.editor with
              script := rest
              snapshot := state.editor.snapshot ++ [(setting, value)] } }
  | .write setting value =>
      match state.checkWrite setting value with
      | .error error => state.fail setting error rest
      | .ok wire =>
          if answered then (state.store setting wire).proceed (.keep setting wire :: rest)
          else state.fail setting .io rest
  | .keep setting value =>
      State.proceed { state with cache := state.cache.keep setting value } rest

def refresh (state : State) (run : Refresh) (answered : Bool) : State :=
  match run.remaining, run.reply with
  | [], _ => { state with running := none }
  | query :: rest, some reply =>
      { state with
        cache := state.cache.absorb reply query
        running := some { remaining := rest, reply := none } }
  | query :: rest, none =>
      if answered then
        { state with
          running := some
            { remaining := query :: rest
              reply := some { profile := state.active, slot := state.slots state.active } } }
      else
        { state with
          cache := state.cache.miss query
          running := some { remaining := rest, reply := none } }

/-- `begin` returned an editor, and no call on it is in progress. -/
def EditorReady (state : State) : Prop :=
  state.editor.script = [] ∧ state.editor.call ≠ .none ∧
    (state.editor.call = .begin → state.editor.aborted = false)

instance (state : State) : Decidable state.EditorReady :=
  inferInstanceAs (Decidable (_ ∧ _ ∧ _))

end State

def beginScript (model : Model) (slot : ℕ) : List Operation :=
  [.selectProfile slot true, .verifyStillActive, .enterOnboardMode] ++
    (editable model).map .snapshot

def setScript (setting : Setting) (value : Value) : List Operation :=
  [.verifyStillActive, .write setting value]

def revertScript (snapshot : List (Setting × Value)) : List Operation :=
  .verifyStillActive :: snapshot.map fun entry => .write entry.1 entry.2

namespace State

def call (state : State) (call : Call) (script : List Operation) : State :=
  { state with editor := { state.editor with call, script, aborted := false, errors := [] } }

def step (state : State) : Event → Option State
  | .begin slot =>
      if state.editor.script = [] ∧ 1 ≤ slot ∧ slot ≤ 5 then
        some
          { state with
            editor :=
              { call := .begin, slot, script := beginScript state.model slot, snapshot := [],
                aborted := false, errors := [], original := state.slots slot } }
      else none
  | .set setting value =>
      if state.EditorReady then some (state.call .set (setScript setting value)) else none
  | .revert =>
      if state.EditorReady then some (state.call .revert (revertScript state.editor.snapshot))
      else none
  | .editorStep answered =>
      match state.editor.script with
      | [] => none
      | operation :: rest => some (state.execute answered rest operation)
  | .refreshStart =>
      if state.queued ∧ state.running = none then
        some
          { state with
            queued := false
            running := some { remaining := queries state.model, reply := none } }
      else none
  | .refreshStep answered => state.running.map fun run => state.refresh run answered

end State

/-- Runs start with no editor, and with any slots, any cache and any refresh under way. -/
def system : System State Event where
  initial state := state.editor.call = .none ∧ state.editor.script = [] ∧ state.editor.snapshot = []
  step := State.step

end TrueForce.Onboard
