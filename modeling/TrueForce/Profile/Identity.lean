import TrueForce.Profile.Replay

/-!
# When a replay changes nothing

The curves and the brightness are instances of `Register` with the lines of a
profile as writes.  The last line that touches each is found by splitting the
registry at the setting it comes from; what that line says is the state's own
cache, which every run of writes keeps within the bounds that its text needs.
-/

namespace TrueForce.Profile

open TrueForce.CInt TrueForce.Settings TrueForce.Transition

theorem exists_ok_of_bind {Failure First Second : Type} {first : Except Failure First}
    {next : First → Except Failure Second} {result : Second}
    (succeeded : (first >>= next) = .ok result) :
    ∃ value, first = .ok value ∧ next value = .ok result := by
  cases first with
  | error failure => cases succeeded
  | ok value => exact ⟨value, rfl, succeeded⟩

theorem ok_bind {Failure First Second : Type} (value : First)
    (next : First → Except Failure Second) : (Except.ok value >>= next) = next value :=
  rfl

def Attribute.axis : Attribute → Option Axis
  | .wheelSensitivity | .wheelResponseCurve => some .steering
  | .pedalSensitivity pedal | .pedalCurve pedal | .pedalDeadzone pedal => some (.pedal pedal)
  | .handbrakeSensitivity | .handbrakeCurve => some .handbrake
  | _ => none

def Attribute.setsBrightness : Attribute → Bool
  | .ledBrightness | .ledSlotBrightness => true
  | _ => false

namespace Command

def curveOn (axis : Axis) : Command → Option Curve
  | .shape target curve _ => if target = axis then some curve else none
  | _ => none

def brightness (session : Session) : Command → Option ℕ
  | .ledBrightness brightness => some brightness
  | .ledSlotBrightness brightness => if session.brightness then some brightness else none
  | _ => none

/-- The command writes a curve only to the axis of the attribute, the register only for one of
the two brightnesses, and caches only what the attribute's text can say. -/
structure Fits (command : Command) (attr : Attribute) : Prop where
  axis : ∀ axis, attr.axis ≠ some axis → command.curveOn axis = none
  register : ∀ session, attr.setsBrightness = false → command.brightness session = none
  bounded : match command with
    | .shape _ _ (.sensitivity value) => value ≤ 100
    | .shape _ _ (.deadzone lower upper) => lower + upper ≤ 99
    | .ledBrightness value | .ledSlotBrightness value => value ≤ 100
    | _ => True

theorem shape_fits {attr : Attribute} {axis : Axis} {curve : Curve} {kept : Kept}
    (own : attr.axis = some axis)
    (bounded : match kept with
      | .nothing => True
      | .sensitivity value => value ≤ 100
      | .deadzone lower upper => lower + upper ≤ 99) :
    (Command.shape axis curve kept).Fits attr where
  axis := by
    intro other different
    have ne : axis ≠ other := by
      intro same
      exact different (same ▸ own)
    simp [curveOn, ne]
  register := by
    intro session _
    rfl
  bounded := by
    cases kept with
    | nothing => trivial
    | sensitivity value => exact bounded
    | deadzone lower upper => exact bounded

end Command

theorem clamp_percent (value : ℤ) : (clamp value 0 100).toNat ≤ 100 := by
  simp only [clamp]
  omega

theorem kstrtoint_percent {value : ℕ} (bound : value ≤ 100) :
    kstrtoint (.number value) = .ok (value : ℤ) := by
  have range : (-0x80000000 : ℤ) ≤ value ∧ (value : ℤ) < 0x80000000 := by omega
  simp only [kstrtoint, if_pos range]

theorem clamp_of_percent {value : ℕ} (bound : value ≤ 100) :
    (clamp (value : ℤ) 0 100).toNat = value := by
  simp only [clamp]
  omega

theorem kstrtouint_percent {value : ℕ} (bound : value ≤ 100) :
    kstrtouint (.number value) = .ok value := by
  have nonneg : ¬ ((value : ℤ) < 0) := by omega
  have range : (value : ℤ) < 0x100000000 := by omega
  simp only [kstrtouint, if_neg nonneg, if_pos range, Int.toNat_natCast]

theorem sensitivityStore_fits {gate : Except Errno Unit} {axis : Axis} {attr : Attribute}
    (own : attr.axis = some axis) {raw : Raw} {command : Command}
    (decoded : sensitivityStore gate axis raw = .ok command) : command.Fits attr := by
  rcases exists_ok_of_bind decoded with ⟨_, _, decoded⟩
  rcases exists_ok_of_bind decoded with ⟨value, _, decoded⟩
  rcases exists_ok_of_bind decoded with ⟨curve, _, decoded⟩
  cases decoded
  exact Command.shape_fits own (clamp_percent value)

theorem curveStore_fits {gate : Except Errno Unit} {axis : Axis} {attr : Attribute}
    (own : attr.axis = some axis) {raw : Raw} {command : Command}
    (decoded : curveStore gate axis raw = .ok command) : command.Fits attr := by
  rcases exists_ok_of_bind decoded with ⟨_, _, decoded⟩
  cases raw with
  | reset =>
      cases decoded
      exact Command.shape_fits own trivial
  | points pairs =>
      rcases exists_ok_of_bind decoded with ⟨curve, _, decoded⟩
      cases decoded
      exact Command.shape_fits own trivial
  | number | numbers | pointsLoaded => cases decoded

theorem pedalDeadzoneStore_fits {session : Session} {pedal : Pedal} {raw : Raw}
    {command : Command} (decoded : pedalDeadzoneStore session pedal raw = .ok command) :
    command.Fits (.pedalDeadzone pedal) := by
  rcases exists_ok_of_bind decoded with ⟨_, _, decoded⟩
  cases raw with
  | numbers lower upper =>
      simp only at decoded
      split at decoded
      · cases decoded
      · rename_i inside
        rcases exists_ok_of_bind decoded with ⟨curve, _, decoded⟩
        cases decoded
        apply Command.shape_fits rfl
        show lower + upper ≤ 99
        omega
  | reset | points | number | pointsLoaded => cases decoded

theorem decode_fits {session : Session} {attr : Attribute} {raw : Raw} {command : Command}
    (decoded : decode session attr raw = .ok command) : command.Fits attr := by
  cases attr with
  | wheelSensitivity =>
      simp only [decode, wheelSensitivityStore] at decoded
      split at decoded
      · cases decoded
      · rcases exists_ok_of_bind decoded with ⟨_, _, decoded⟩
        exact sensitivityStore_fits rfl decoded
  | wheelResponseCurve | handbrakeCurve | pedalCurve => exact curveStore_fits rfl decoded
  | pedalSensitivity | handbrakeSensitivity => exact sensitivityStore_fits rfl decoded
  | pedalDeadzone pedal => exact pedalDeadzoneStore_fits decoded
  | ledEffect =>
      rcases exists_ok_of_bind decoded with ⟨value, _, decoded⟩
      split at decoded
      · cases decoded
        exact ⟨fun _ _ => rfl, fun _ _ => rfl, trivial⟩
      · cases decoded
  | ledBrightness =>
      rcases exists_ok_of_bind decoded with ⟨value, _, decoded⟩
      split at decoded
      · cases decoded
        exact ⟨fun _ _ => rfl, fun _ => nofun, clamp_percent value⟩
      · cases decoded
  | ledSlot =>
      rcases exists_ok_of_bind decoded with ⟨value, _, decoded⟩
      split at decoded
      · split at decoded
        · cases decoded
          exact ⟨fun _ _ => rfl, fun _ _ => rfl, trivial⟩
        · cases decoded
      · cases decoded
  | ledSlotBrightness =>
      rcases exists_ok_of_bind decoded with ⟨value, _, decoded⟩
      cases decoded
      exact ⟨fun _ _ => rfl, fun _ => nofun, Nat.min_le_right value 100⟩

namespace State

structure Bounded (state : State) : Prop where
  sensitivity : ∀ axis, state.sensitivity axis ≤ 100
  deadzone : ∀ pedal, (state.deadzone pedal).1 + (state.deadzone pedal).2 ≤ 99
  ledBrightness : state.ledBrightness ≤ 100
  slotBrightness : ∀ slot, state.slotBrightness slot ≤ 100

theorem Fresh.bounded {state : State} (fresh : state.Fresh) : state.Bounded := by
  rcases fresh with ⟨sensitivity, deadzone, ledBrightness, _, _, slotBrightness⟩
  refine ⟨?_, ?_, ?_, ?_⟩
  · intro axis
    rw [sensitivity]
    decide
  · intro pedal
    rw [deadzone]
    decide
  · rw [ledBrightness]
    exact Nat.min_le_right _ _
  · intro slot
    exact Nat.le_of_eq (slotBrightness slot)

theorem keep_curve (state : State) (axis : Axis) (kept : Kept) :
    (state.keep axis kept).curve = state.curve := by
  cases kept with
  | nothing | sensitivity => rfl
  | deadzone lower upper => cases axis <;> rfl

theorem keep_register (state : State) (axis : Axis) (kept : Kept) :
    (state.keep axis kept).register = state.register := by
  cases kept with
  | nothing | sensitivity => rfl
  | deadzone lower upper => cases axis <;> rfl

theorem perform_curve (session : Session) (state : State) (command : Command) (axis : Axis) :
    (state.perform session command).curve axis =
      (command.curveOn axis).getD (state.curve axis) := by
  cases command with
  | shape target curve kept =>
      simp only [perform, keep_curve, Command.curveOn, Function.update_apply]
      split_ifs with first second second
      · rfl
      · exact absurd first.symm second
      · exact absurd second.symm first
      · rfl
  | ledEffect | ledBrightness | ledSlot | ledSlotBrightness => rfl

theorem perform_register (session : Session) (state : State) (command : Command) :
    (state.perform session command).register =
      (command.brightness session).getD state.register := by
  cases command with
  | shape target curve kept => simp only [perform, keep_register, Command.brightness, Option.getD]
  | ledEffect | ledBrightness | ledSlot => rfl
  | ledSlotBrightness brightness =>
      simp only [perform, Command.brightness]
      split <;> rfl

theorem Bounded.perform {session : Session} {state : State} {command : Command}
    {attr : Attribute} (bounded : state.Bounded) (fits : command.Fits attr) :
    (state.perform session command).Bounded := by
  have limit := fits.bounded
  cases command with
  | shape axis curve kept =>
      cases kept with
      | nothing => exact { bounded with }
      | sensitivity value =>
          refine { bounded with sensitivity := ?_ }
          intro other
          simp only [State.perform, keep, Function.update_apply]
          split
          · exact limit
          · exact bounded.sensitivity other
      | deadzone lower upper =>
          cases axis with
          | steering | handbrake => exact { bounded with }
          | pedal pedal =>
              refine { bounded with deadzone := ?_ }
              intro other
              simp only [State.perform, keep, Function.update_apply]
              split
              · exact limit
              · exact bounded.deadzone other
  | ledEffect | ledSlot => exact { bounded with }
  | ledBrightness value => exact { bounded with ledBrightness := limit }
  | ledSlotBrightness value =>
      refine { bounded with ledBrightness := limit, slotBrightness := ?_ }
      intro slot
      simp only [State.perform, Function.update_apply]
      split
      · exact limit
      · exact bounded.slotBrightness slot

end State

theorem reachable_bounded {session : Session} {state : State}
    (reachable : (writes session).Reachable state) : state.Bounded := by
  apply System.ReachableUnder.invariant reachable
  · intro start fresh
    exact fresh.bounded
  · intro current write next bounded _ stepped
    simp only [writes] at stepped
    split at stepped
    · rename_i command decoded
      cases stepped
      exact bounded.perform (decode_fits decoded)
    · cases stepped

theorem writeChecked_decoded {session : Session} {spec : SettingSpec} {value : Value}
    {command : Command} (written : writeChecked session spec value = .ok command) :
    ∃ raw, decode session spec.attr raw = .ok command := by
  rcases exists_ok_of_bind written with ⟨_, _, written⟩
  split at written
  · cases written
  · cases written
  · rcases exists_ok_of_bind written with ⟨raw, _, written⟩
    split at written
    · refine ⟨raw, ?_⟩
      cases decoded : decode session spec.attr raw with
      | error errno =>
          rw [decoded] at written
          cases written
      | ok result =>
          rw [decoded] at written
          cases written
          rfl
    · cases written

/-- A line that does something does what a store of its attribute decodes. -/
theorem lineCommand_decoded {session : Session} {line : Line} {command : Command}
    (commanded : lineCommand session line = .ok command) :
    ∃ raw, decode session line.1 raw = .ok command := by
  simp only [lineCommand] at commanded
  split at commanded
  · cases commanded
  · rename_i spec found
    have same : spec.attr = line.1 := by simpa using List.find?_some found
    rcases exists_ok_of_bind commanded with ⟨value, _, written⟩
    simp only [write, found] at written
    split at written
    · cases written
    · exact same ▸ writeChecked_decoded written

theorem lineCommand_fits {session : Session} {line : Line} {command : Command}
    (commanded : lineCommand session line = .ok command) : command.Fits line.1 := by
  rcases lineCommand_decoded commanded with ⟨raw, decoded⟩
  exact decode_fits decoded

theorem feature_of_ok {session : Session} (gate : session.responseCurveFeature = .ok ()) :
    session.responseCurve = true := by
  simp only [Session.responseCurveFeature] at gate
  split at gate
  · assumption
  · cases gate

/-- No store shapes an axis of a wheel without response curves. -/
theorem decode_feature {session : Session} {attr : Attribute} {raw : Raw} {command : Command}
    (decoded : decode session attr raw = .ok command) (shapes : attr.axis ≠ none) :
    session.responseCurve = true := by
  have pedals : session.pedalFf = .ok () → session.responseCurve = true := by
    intro gate
    simp only [Session.pedalFf] at gate
    split at gate
    · simp_all
    · cases gate
  cases attr with
  | wheelSensitivity =>
      simp only [decode, wheelSensitivityStore] at decoded
      split at decoded
      · cases decoded
      · rcases exists_ok_of_bind decoded with ⟨_, _, decoded⟩
        rcases exists_ok_of_bind decoded with ⟨_, gate, _⟩
        exact feature_of_ok gate
  | wheelResponseCurve | handbrakeCurve | handbrakeSensitivity =>
      rcases exists_ok_of_bind decoded with ⟨_, gate, _⟩
      exact feature_of_ok gate
  | pedalSensitivity | pedalCurve | pedalDeadzone =>
      rcases exists_ok_of_bind decoded with ⟨_, gate, _⟩
      exact pedals gate
  | ledEffect | ledBrightness | ledSlot | ledSlotBrightness => exact absurd rfl shapes

/-- What a part of the state that commands replace becomes under a line. -/
theorem applyLine_read {Value : Type} (session : Session) (outcome : Outcome) (line : Line)
    (part : State → Value) (effect : Command → Option Value)
    (performed : ∀ command, part (outcome.1.perform session command) =
      (effect command).getD (part outcome.1)) :
    part (applyLine session outcome line).1 =
      ((lineCommand session line).toOption.bind effect).getD (part outcome.1) := by
  have replayed : ¬ (roleOf line.1 = .storeSelector ∨ roleOf line.1 = .transient) := by
    cases line.1 <;> simp [roleOf]
  simp only [applyLine, if_neg replayed]
  cases lineCommand session line with
  | ok command => exact performed command
  | error error => rfl

def curveRegister (session : Session) (axis : Axis) : Register Outcome Line Curve where
  apply := applyLine session
  read outcome := outcome.1.curve axis
  written line := (lineCommand session line).toOption.bind (Command.curveOn axis)
  read_apply outcome line :=
    applyLine_read session outcome line (fun state => state.curve axis) _
      fun command => outcome.1.perform_curve session command axis

def brightnessRegister (session : Session) : Register Outcome Line ℕ where
  apply := applyLine session
  read outcome := outcome.1.register
  written line := (lineCommand session line).toOption.bind (Command.brightness session)
  read_apply outcome line :=
    applyLine_read session outcome line State.register _
      fun command => outcome.1.perform_register session command

theorem curve_untouched (session : Session) {axis : Axis} {line : Line}
    (other : line.1.axis ≠ some axis) : (curveRegister session axis).written line = none := by
  simp only [curveRegister]
  cases commanded : lineCommand session line with
  | error error => rfl
  | ok command => exact (lineCommand_fits commanded).axis axis other

theorem brightness_untouched (session : Session) {line : Line}
    (other : line.1.setsBrightness = false) :
    (brightnessRegister session).written line = none := by
  simp only [brightnessRegister]
  cases commanded : lineCommand session line with
  | error error => rfl
  | ok command => exact (lineCommand_fits commanded).register session other

/-- The lines a replay applies: the settings in file order, then the strip's selection. -/
def replayOrder (lines : List Line) : List Line :=
  lines.filter (fun line => roleOf line.1 ≠ .displaySelector) ++
    lines.filter fun line => roleOf line.1 = .displaySelector

theorem replay_eq (session : Session) (state : State) :
    applyIn session (saveIn session state) state =
      (replayOrder (registry.filterMap (saveLine session state))).foldl (applyLine session)
        (state, []) := by
  have every : registry.filter snapshotted = registry := by decide
  simp only [applyIn, saveIn, replayOrder, every, List.foldl_append]

theorem mem_saved {session : Session} {state : State} {specs : List SettingSpec} {line : Line}
    (member : line ∈ specs.filterMap (saveLine session state)) :
    ∃ spec ∈ specs, saveLine session state spec = some line := by
  simpa using member

section Last

variable {session : Session} {state : State} {Content : Type}
  (register : Register Outcome Line Content)

theorem replay_untouched (applies : register.apply = applyLine session)
    (untouched : ∀ spec ∈ registry, ∀ line, saveLine session state spec = some line →
      register.written line = none) :
    register.read (applyIn session (saveIn session state) state) = register.read (state, []) := by
  rw [replay_eq, ← applies]
  apply register.read_foldl_untouched
  intro line member
  have saved : line ∈ registry.filterMap (saveLine session state) := by
    rcases List.mem_append.mp member with member | member
    · exact List.mem_of_mem_filter member
    · exact List.mem_of_mem_filter member
  rcases mem_saved saved with ⟨spec, inRegistry, isLine⟩
  exact untouched spec inRegistry line isLine

theorem replay_last (applies : register.apply = applyLine session)
    (before : List SettingSpec) {after : List SettingSpec} {spec : SettingSpec} {line : Line}
    {content : Content} (split : registry = before ++ spec :: after)
    (saved : saveLine session state spec = some line)
    (setting : roleOf line.1 ≠ .displaySelector)
    (touched : register.written line = some content)
    (untouched : ∀ other ∈ after, ∀ line, saveLine session state other = some line →
      register.written line = none)
    (selector : ∀ line : Line, roleOf line.1 = .displaySelector → register.written line = none) :
    register.read (applyIn session (saveIn session state) state) = content := by
  rw [replay_eq, ← applies, split, replayOrder, List.filterMap_append,
    List.filterMap_cons_some saved, List.filter_append, List.filter_cons_of_pos (by simpa),
    List.append_assoc, List.cons_append]
  apply register.read_foldl_last _ touched
  intro other member
  rcases List.mem_append.mp member with member | member
  · rcases mem_saved (List.mem_of_mem_filter member) with ⟨spec, inAfter, isLine⟩
    exact untouched spec inAfter other isLine
  · apply selector
    simpa using (List.mem_filter.mp member).2

end Last

theorem saveLine_attr {session : Session} {state : State} {spec : SettingSpec} {line : Line}
    (saved : saveLine session state spec = some line) : line.1 = spec.attr := by
  simp only [saveLine] at saved
  split_ifs at saved
  split at saved
  · cases saved
  · split at saved
    · cases saved
    · cases saved
      rfl

theorem selector_axis (session : Session) (axis : Axis) (line : Line)
    (selector : roleOf line.1 = .displaySelector) :
    (curveRegister session axis).written line = none := by
  apply curve_untouched
  cases shape : line.1 <;> simp_all [roleOf, Attribute.axis]

theorem selector_brightness (session : Session) (line : Line)
    (selector : roleOf line.1 = .displaySelector) :
    (brightnessRegister session).written line = none := by
  apply brightness_untouched
  cases shape : line.1 <;> simp_all [roleOf, Attribute.setsBrightness]

theorem saveLine_eq {session : Session} {state : State} {spec : SettingSpec} {text raw : Raw}
    (value : Value) (available : session.available spec.attr = true)
    (shown : state.shown session spec.attr = .ok text) (parsed : spec.kind.parse text = .ok value)
    (formatted : spec.kind.format value = .ok raw) :
    saveLine session state spec = some (spec.attr, raw) := by
  have got : read session state spec = .ok value := by
    rw [read, shown]
    exact parsed
  simp only [saveLine, if_pos available, got, formatted]

theorem lineCommand_eq {session : Session} {spec : SettingSpec} {raw : Raw} {value : Value}
    (found : specOf spec.attr = some spec) (writable : spec.access = .readWrite)
    (mode : spec.modeReq = .any ∨ spec.modeReq = .desktopOnly ∧ session.mode = .desktop)
    (exposed : session.exposes spec.attr = true) (parsed : spec.kind.parse raw = .ok value)
    (formatted : spec.kind.format value = .ok raw) :
    lineCommand session (spec.attr, raw) = (decode session spec.attr raw).mapError mapIoError := by
  have valid : spec.kind.validate value = .ok () := by
    rw [Kind.validate, formatted]
    show (do let _ ← spec.kind.parse raw; pure ()) = _
    rw [parsed]
    rfl
  have checked : writeChecked session spec value =
      (decode session spec.attr raw).mapError mapIoError := by
    rw [writeChecked, valid]
    rcases mode with any | ⟨desktopOnly, desktop⟩
    · simp [any, bind, Except.bind, formatted, exposed]
    · simp [desktopOnly, desktop, bind, Except.bind, formatted, exposed]
  have written : write session spec.attr value = writeChecked session spec value := by
    simp [write, found, writable]
  simp only [lineCommand, found]
  rw [parsed, ← checked, ← written]
  rfl

theorem sensitivityStore_eq {axis : Axis} {sensitivity : ℕ} (bound : sensitivity ≤ 100)
    {curve : Curve} (generated : sensitivityCurve sensitivity = .ok curve) :
    sensitivityStore (.ok ()) axis (.number sensitivity) =
      .ok (.shape axis curve (.sensitivity sensitivity)) := by
  rw [sensitivityStore, ok_bind, kstrtoint_percent bound, ok_bind, clamp_of_percent bound]
  show (sensitivityCurve sensitivity >>= fun curve =>
    pure (Command.shape axis curve (.sensitivity sensitivity))) = _
  rw [generated]
  rfl

def deadzoneSpec (pedal : Pedal) : SettingSpec :=
  ⟨.pedalDeadzone pedal, .pair 99, .readWrite, .any⟩

theorem registry_split_deadzone (pedal : Pedal) :
    ∃ before after, registry = before ++ deadzoneSpec pedal :: after ∧
      ∀ other ∈ after, other.attr.axis ≠ some (.pedal pedal) := by
  cases pedal with
  | throttle => exact ⟨registry.take 4, registry.drop 5, rfl, by decide⟩
  | brake => exact ⟨registry.take 7, registry.drop 8, rfl, by decide⟩
  | clutch => exact ⟨registry.take 10, registry.drop 11, rfl, by decide⟩

theorem decode_deadzone {session : Session} {pedal : Pedal} {lower upper : ℕ} {curve : Curve}
    (offered : session.pedalFf = .ok ()) (bound : lower + upper ≤ 99)
    (generated : deadzoneCurve lower upper = .ok curve) :
    decode session (.pedalDeadzone pedal) (.numbers lower upper) =
      .ok (.shape (.pedal pedal) curve (.deadzone lower upper)) := by
  have inside : ¬ (100 < lower ∨ 100 < upper ∨ 99 < lower + upper) := by omega
  simp only [decode, pedalDeadzoneStore, offered, bind, Except.bind, if_neg inside, generated]
  rfl

/-- A replay leaves a pedal with the curve of its cached deadzone. -/
theorem replay_pedal {session : Session} {state : State} (bounded : state.Bounded)
    (offered : session.pedalFf = .ok ()) (pedal : Pedal) {curve : Curve}
    (generated : deadzoneCurve (state.deadzone pedal).1 (state.deadzone pedal).2 = .ok curve) :
    (replay session state).curve (.pedal pedal) = curve := by
  have bound := bounded.deadzone pedal
  have parsed := @Kind.parse_pair 99 _ _ (by decide) bound
  rcases registry_split_deadzone pedal with ⟨before, after, split, others⟩
  have saved : saveLine session state (deadzoneSpec pedal) =
      some (.pedalDeadzone pedal, .numbers (state.deadzone pedal).1 (state.deadzone pedal).2) := by
    apply saveLine_eq _ rfl _ parsed rfl
    simp only [deadzoneSpec, State.shown, offered]
    rfl
  have commanded : lineCommand session (.pedalDeadzone pedal,
      .numbers (state.deadzone pedal).1 (state.deadzone pedal).2) =
      .ok (.shape (.pedal pedal) curve
        (.deadzone (state.deadzone pedal).1 (state.deadzone pedal).2)) := by
    have found : specOf (.pedalDeadzone pedal) = some (deadzoneSpec pedal) := by
      cases pedal <;> rfl
    have line := @lineCommand_eq session (deadzoneSpec pedal) _ _ found rfl (.inl rfl) rfl
      parsed rfl
    rw [deadzoneSpec] at line
    rw [line, decode_deadzone offered bound generated]
    rfl
  apply replay_last (curveRegister session (.pedal pedal)) rfl before split saved (by nofun)
  · simp only [curveRegister, commanded]
    simp [Except.toOption, Command.curveOn]
  · intro other member line isLine
    apply curve_untouched
    rw [saveLine_attr isLine]
    exact others other member
  · exact selector_axis session (.pedal pedal)

/-- Without a pedal unit no line of a pedal is saved. -/
theorem replay_pedal_unoffered {session : Session} {state : State}
    (unoffered : session.pedalFf = .error .eopnotsupp) (pedal : Pedal) :
    (replay session state).curve (.pedal pedal) = state.curve (.pedal pedal) := by
  apply replay_untouched (curveRegister session (.pedal pedal)) rfl
  intro spec _ line isLine
  apply curve_untouched
  rw [saveLine_attr isLine]
  intro own
  have failed : read session state spec = .error .unsupported := by
    cases shape : spec.attr with
    | pedalSensitivity | pedalCurve | pedalDeadzone =>
        simp only [read, shape, State.shown, unoffered]
        rfl
    | wheelSensitivity | wheelResponseCurve | handbrakeSensitivity | handbrakeCurve | ledEffect
    | ledBrightness | ledSlot | ledSlotBrightness =>
        rw [shape] at own
        cases own
  simp [saveLine, failed] at isLine

inductive Slider where
  | steering
  | handbrake
  deriving DecidableEq

namespace Slider

def axis : Slider → Axis
  | steering => .steering
  | handbrake => .handbrake

def sensitivitySpec : Slider → SettingSpec
  | steering => ⟨.wheelSensitivity, .percent, .readWrite, .desktopOnly⟩
  | handbrake => ⟨.handbrakeSensitivity, .percent, .readWrite, .any⟩

def curveSpec : Slider → SettingSpec
  | steering => ⟨.wheelResponseCurve, .curve, .readWrite, .any⟩
  | handbrake => ⟨.handbrakeCurve, .curve, .readWrite, .any⟩

def Offered (session : Session) : Slider → Prop
  | steering => session.responseCurve = true
  | handbrake => session.responseCurve = true ∧ session.handbrake = true

theorem registry_split (slider : Slider) :
    ∃ before after, registry = before ++ slider.sensitivitySpec :: slider.curveSpec :: after ∧
      ∀ other ∈ after, other.attr.axis ≠ some slider.axis := by
  cases slider with
  | steering => exact ⟨[], registry.drop 2, rfl, by decide⟩
  | handbrake => exact ⟨registry.take 11, registry.drop 13, rfl, by decide⟩

variable {session : Session} {state : State} {slider : Slider}

theorem feature_of_offered (offered : slider.Offered session) : session.responseCurve = true := by
  cases slider with
  | steering => exact offered
  | handbrake => exact offered.1

theorem available_sensitivity (offered : slider.Offered session) :
    session.available slider.sensitivitySpec.attr = true := by
  cases slider with
  | steering => rfl
  | handbrake => simpa [Session.available, Session.exposes, sensitivitySpec] using offered.2

theorem available_curve (offered : slider.Offered session) :
    session.available slider.curveSpec.attr = true := by
  cases slider with
  | steering => rfl
  | handbrake => simpa [Session.available, Session.exposes, curveSpec] using offered.2

theorem shown_sensitivity (feature : session.responseCurve = true) :
    state.shown session slider.sensitivitySpec.attr =
      .ok (.number (state.sensitivity slider.axis)) := by
  cases slider with
  | steering => rfl
  | handbrake =>
      simp only [sensitivitySpec, State.shown, Session.responseCurveFeature, feature]
      rfl

theorem shown_curve (feature : session.responseCurve = true) :
    state.shown session slider.curveSpec.attr =
      .ok (.pointsLoaded (state.curve slider.axis).length curvePoints) := by
  cases slider <;>
    simp only [curveSpec, State.shown, Session.responseCurveFeature, feature] <;> rfl

theorem decode_sensitivity (desktop : session.mode = .desktop)
    (feature : session.responseCurve = true) {sensitivity : ℕ} (bound : sensitivity ≤ 100)
    {curve : Curve} (generated : sensitivityCurve sensitivity = .ok curve) :
    decode session slider.sensitivitySpec.attr (.number sensitivity) =
      .ok (.shape slider.axis curve (.sensitivity sensitivity)) := by
  have gate : session.responseCurveFeature = .ok () := by
    simp only [Session.responseCurveFeature, feature, if_true]
  cases slider with
  | steering =>
      have mode : ¬ session.mode ≠ .desktop := not_not_intro desktop
      rw [sensitivitySpec, decode, wheelSensitivityStore, if_neg mode, kstrtoint_percent bound,
        ok_bind, gate, sensitivityStore_eq bound generated, axis]
  | handbrake =>
      rw [sensitivitySpec, decode, handbrakeSensitivityStore, gate,
        sensitivityStore_eq bound generated, axis]

theorem written_sensitivity (desktop : session.mode = .desktop)
    (feature : session.responseCurve = true) {sensitivity : ℕ} (bound : sensitivity ≤ 100)
    {curve : Curve} (generated : sensitivityCurve sensitivity = .ok curve) :
    (curveRegister session slider.axis).written
      (slider.sensitivitySpec.attr, .number sensitivity) = some curve := by
  have line : lineCommand session (slider.sensitivitySpec.attr, .number sensitivity) =
      (decode session slider.sensitivitySpec.attr (.number sensitivity)).mapError mapIoError := by
    cases slider with
    | steering =>
        exact @lineCommand_eq session (sensitivitySpec .steering) _ _ rfl rfl
          (.inr ⟨rfl, desktop⟩) rfl (Kind.parse_percent bound) rfl
    | handbrake =>
        exact @lineCommand_eq session (sensitivitySpec .handbrake) _ _ rfl rfl (.inl rfl) rfl
          (Kind.parse_percent bound) rfl
  simp only [curveRegister, line, decode_sensitivity desktop feature bound generated]
  simp [Except.mapError, Except.toOption, Command.curveOn]

theorem written_reset (feature : session.responseCurve = true) :
    (curveRegister session slider.axis).written (slider.curveSpec.attr, .reset) = some [] := by
  have line : lineCommand session (slider.curveSpec.attr, .reset) =
      .ok (.shape slider.axis [] .nothing) := by
    have decoded : decode session slider.curveSpec.attr .reset =
        .ok (.shape slider.axis [] .nothing) := by
      cases slider <;>
        simp only [curveSpec, decode, wheelResponseCurveStore, handbrakeCurveStore, curveStore,
          Session.responseCurveFeature, feature] <;> rfl
    have found : specOf slider.curveSpec.attr = some slider.curveSpec := by cases slider <;> rfl
    have parsed : slider.curveSpec.kind.parse .reset = .ok (.curve []) := by cases slider <;> rfl
    rw [lineCommand_eq found (by cases slider <;> rfl) (by cases slider <;> exact .inl rfl)
      (by cases slider <;> rfl) parsed (by cases slider <;> rfl), decoded]
    rfl
  simp only [curveRegister, line]
  simp [Except.toOption, Command.curveOn]

theorem others_untouched {specs : List SettingSpec}
    (others : ∀ other ∈ specs, other.attr.axis ≠ some slider.axis) (other : SettingSpec)
    (member : other ∈ specs) (line : Line) (isLine : saveLine session state other = some line) :
    (curveRegister session slider.axis).written line = none := by
  apply curve_untouched
  rw [saveLine_attr isLine]
  exact others other member

/-- A built-in curve is saved as such, and its line comes last. -/
theorem replay_builtIn (offered : slider.Offered session) (builtIn : state.curve slider.axis = []) :
    (replay session state).curve slider.axis = [] := by
  have feature := feature_of_offered offered
  rcases slider.registry_split with ⟨before, after, split, others⟩
  have saved : saveLine session state slider.curveSpec = some (slider.curveSpec.attr, .reset) := by
    apply saveLine_eq (.curve []) (available_curve offered) (shown_curve feature)
    · rw [builtIn]
      cases slider <;> rfl
    · cases slider <;> rfl
  have joined : registry = (before ++ [slider.sensitivitySpec]) ++ slider.curveSpec :: after := by
    rw [split, List.append_assoc]
    rfl
  apply replay_last (curveRegister session slider.axis) rfl _ joined saved
  · cases slider <;> nofun
  · exact written_reset feature
  · exact others_untouched others
  · exact selector_axis session slider.axis

/-- The points of a loaded curve have no text. -/
theorem saveLine_loaded (loaded : state.curve slider.axis ≠ []) :
    saveLine session state slider.curveSpec = none := by
  by_cases feature : session.responseCurve = true
  · have count : (state.curve slider.axis).length ≠ 0 := by simpa using loaded
    have parsed : read session state slider.curveSpec =
        .ok (.curveLoaded (state.curve slider.axis).length) := by
      rw [read, shown_curve feature]
      cases slider <;> simp [Except.mapError, bind, Except.bind, curveSpec, Kind.parse, count]
    have unformatted : slider.curveSpec.kind.format
        (.curveLoaded (state.curve slider.axis).length) = .error .parse := by
      cases slider <;> rfl
    simp only [saveLine, parsed, unformatted, ite_self]
  · have failed : read session state slider.curveSpec = .error .unsupported := by
      cases slider <;>
        simp only [read, curveSpec, State.shown, Session.responseCurveFeature, if_neg feature] <;>
        rfl
    simp only [saveLine, failed, ite_self]

/-- A loaded curve gets no line, which leaves the last word to the slider. -/
theorem replay_loaded (bounded : state.Bounded) (desktop : session.mode = .desktop)
    (offered : slider.Offered session) (loaded : state.curve slider.axis ≠ []) {curve : Curve}
    (generated : sensitivityCurve (state.sensitivity slider.axis) = .ok curve) :
    (replay session state).curve slider.axis = curve := by
  have feature := feature_of_offered offered
  have bound := bounded.sensitivity slider.axis
  rcases slider.registry_split with ⟨before, after, split, others⟩
  have saved : saveLine session state slider.sensitivitySpec =
      some (slider.sensitivitySpec.attr, .number (state.sensitivity slider.axis)) := by
    refine saveLine_eq (.percent (state.sensitivity slider.axis))
      (available_sensitivity offered) (shown_sensitivity feature) ?_ ?_
    · cases slider <;> exact Kind.parse_percent bound
    · cases slider <;> rfl
  apply replay_last (curveRegister session slider.axis) rfl before split saved
  · cases slider <;> nofun
  · exact written_sensitivity desktop feature bound generated
  · intro other member line isLine
    rcases List.mem_cons.mp member with rfl | member
    · rw [saveLine_loaded loaded] at isLine
      cases isLine
    · exact others_untouched others other member line isLine
  · exact selector_axis session slider.axis

theorem replay_unoffered (unoffered : ¬ slider.Offered session) :
    (replay session state).curve slider.axis = state.curve slider.axis := by
  apply replay_untouched (curveRegister session slider.axis) rfl
  intro spec _ line isLine
  by_cases own : spec.attr.axis = some slider.axis
  · by_cases feature : session.responseCurve = true
    · cases slider with
      | steering => exact absurd feature unoffered
      | handbrake =>
          have detached : session.available spec.attr = false := by
            have absent : session.handbrake = false := by simpa [Offered, feature] using unoffered
            cases shape : spec.attr <;> simp_all [Attribute.axis, axis, Session.available]
          simp [saveLine, detached] at isLine
    · simp only [curveRegister]
      cases commanded : lineCommand session line with
      | error error => rfl
      | ok command =>
          rcases lineCommand_decoded commanded with ⟨raw, decoded⟩
          have shapes : line.1.axis ≠ none := by
            rw [saveLine_attr isLine, own]
            nofun
          exact absurd (decode_feature decoded shapes) feature
  · apply curve_untouched
    rwa [saveLine_attr isLine]

end Slider

def ledBrightnessSpec : SettingSpec := ⟨.ledBrightness, .percent, .readWrite, .any⟩

def ledSlotBrightnessSpec : SettingSpec := ⟨.ledSlotBrightness, .percent, .readWrite, .any⟩

theorem decode_ledBrightness {session : Session} {attr : Attribute} {raw : Raw} {value : ℕ}
    (decoded : decode session attr raw = .ok (.ledBrightness value)) :
    session.brightness = true := by
  cases sets : attr.setsBrightness with
  | false => cases (decode_fits decoded).register session sets
  | true =>
      cases attr with
      | ledBrightness =>
          rcases exists_ok_of_bind decoded with ⟨_, _, decoded⟩
          split at decoded
          · assumption
          · cases decoded
      | ledSlotBrightness =>
          rcases exists_ok_of_bind decoded with ⟨_, _, decoded⟩
          cases decoded
      | wheelSensitivity | wheelResponseCurve | pedalSensitivity | pedalCurve | pedalDeadzone
      | handbrakeSensitivity | handbrakeCurve | ledEffect | ledSlot => cases sets

section Brightness

variable {session : Session} {state : State}

theorem saveLine_ledBrightness (bounded : state.Bounded) :
    saveLine session state ledBrightnessSpec =
      some (.ledBrightness, .number state.ledBrightness) :=
  saveLine_eq _ rfl rfl (Kind.parse_percent bounded.ledBrightness) rfl

theorem saveLine_ledSlotBrightness (bounded : state.Bounded) (strip : session.model = .rs50) :
    saveLine session state ledSlotBrightnessSpec =
      some (.ledSlotBrightness, .number (state.slotBrightness state.ledActiveSlot)) := by
  refine saveLine_eq _ ?_ rfl (Kind.parse_percent (bounded.slotBrightness _)) rfl
  simp [Session.available, Session.exposes, ledSlotBrightnessSpec, strip]

theorem written_ledBrightness (feature : session.brightness = true) {value : ℕ}
    (bound : value ≤ 100) :
    (brightnessRegister session).written (.ledBrightness, .number value) = some value := by
  have decoded : decode session .ledBrightness (.number value) = .ok (.ledBrightness value) := by
    rw [decode, ledBrightnessStore, kstrtoint_percent bound, ok_bind, if_pos feature,
      clamp_of_percent bound]
    rfl
  have line := @lineCommand_eq session ledBrightnessSpec _ _ rfl rfl (.inl rfl) rfl
    (Kind.parse_percent bound) rfl
  rw [ledBrightnessSpec] at line
  simp only [brightnessRegister, line, decoded]
  rfl

theorem written_ledSlotBrightness (feature : session.brightness = true)
    (strip : session.model = .rs50) {value : ℕ} (bound : value ≤ 100) :
    (brightnessRegister session).written (.ledSlotBrightness, .number value) = some value := by
  have decoded : decode session .ledSlotBrightness (.number value) =
      .ok (.ledSlotBrightness value) := by
    rw [decode, ledSlotBrightnessStore, kstrtouint_percent bound, ok_bind, Nat.min_eq_left bound]
    rfl
  have exposed : session.exposes ledSlotBrightnessSpec.attr = true := by
    simp [Session.exposes, ledSlotBrightnessSpec, strip]
  have line := @lineCommand_eq session ledSlotBrightnessSpec _ _ rfl rfl (.inl rfl) exposed
    (Kind.parse_percent bound) rfl
  rw [ledSlotBrightnessSpec] at line
  simp only [brightnessRegister, line, decoded]
  simp [Except.mapError, Except.toOption, Command.brightness, feature]

/-- With light slots the active slot's brightness is replayed last. -/
theorem replay_brightness_rs50 (bounded : state.Bounded) (feature : session.brightness = true)
    (strip : session.model = .rs50) :
    (replay session state).register = state.slotBrightness state.ledActiveSlot := by
  have split : registry = registry.take 16 ++ ledSlotBrightnessSpec :: [] := rfl
  apply replay_last (brightnessRegister session) rfl _ split
    (saveLine_ledSlotBrightness bounded strip) (by nofun)
  · exact written_ledSlotBrightness feature strip (bounded.slotBrightness _)
  · exact fun _ => nofun
  · exact selector_brightness session

theorem replay_brightness_gpro (bounded : state.Bounded) (feature : session.brightness = true)
    (strip : session.model = .gpro) :
    (replay session state).register = state.ledBrightness := by
  have split : registry = registry.take 14 ++ ledBrightnessSpec :: registry.drop 15 := rfl
  apply replay_last (brightnessRegister session) rfl _ split
    (saveLine_ledBrightness bounded) (by nofun)
  · exact written_ledBrightness feature bounded.ledBrightness
  · intro other member line isLine
    have hidden : session.available other.attr = false := by
      have slots : ∀ spec ∈ registry.drop 15,
          spec.attr = .ledSlot ∨ spec.attr = .ledSlotBrightness := by decide
      rcases slots other member with slot | slot <;>
        simp [slot, Session.available, Session.exposes, strip]
    simp [saveLine, hidden] at isLine
  · exact selector_brightness session

theorem replay_brightness_unoffered (unoffered : ¬ session.brightness = true) :
    (replay session state).register = state.register := by
  apply replay_untouched (brightnessRegister session) rfl
  intro spec _ line isLine
  simp only [brightnessRegister]
  cases commanded : lineCommand session line with
  | error error => rfl
  | ok command =>
      rcases lineCommand_decoded commanded with ⟨raw, decoded⟩
      cases command with
      | shape | ledEffect | ledSlot => rfl
      | ledSlotBrightness value => simp [Except.toOption, Command.brightness, unoffered]
      | ledBrightness value => exact absurd (decode_ledBrightness decoded) unoffered

end Brightness

/-- Saving a profile and replaying it leaves every curve and the brightness as they were. -/
def ReplayIsIdentity (session : Session) (state : State) : Prop :=
  (∀ axis, (replay session state).curve axis = state.curve axis) ∧
    (replay session state).register = state.register

/-- Every register holds what the last line for it is going to say: a pedal the curve of its cached
deadzone, the steering and the handbrake their built-in curve or that of the cached slider, the
strip the brightness cached for the active slot, or on a wheel without slots the one it has. -/
structure Replayable (session : Session) (state : State) : Prop where
  pedals : session.responseCurve = true → session.pedals = true → ∀ pedal,
    deadzoneCurve (state.deadzone pedal).1 (state.deadzone pedal).2 =
      .ok (state.curve (.pedal pedal))
  sliders : ∀ slider : Slider, slider.Offered session → state.curve slider.axis = [] ∨
    sensitivityCurve (state.sensitivity slider.axis) = .ok (state.curve slider.axis)
  brightness : session.brightness = true → state.register =
    match session.model with
    | .rs50 => state.slotBrightness state.ledActiveSlot
    | .gpro => state.ledBrightness

section Identity

variable {session : Session} {state : State}

theorem replay_pedal_iff (bounded : state.Bounded) (pedal : Pedal) :
    (replay session state).curve (.pedal pedal) = state.curve (.pedal pedal) ↔
      (session.responseCurve = true → session.pedals = true →
        deadzoneCurve (state.deadzone pedal).1 (state.deadzone pedal).2 =
          .ok (state.curve (.pedal pedal))) := by
  rcases deadzoneCurve_ok (bounded.deadzone pedal) with ⟨curve, generated⟩
  by_cases offered : session.responseCurve = true ∧ session.pedals = true
  · have gate : session.pedalFf = .ok () := by simp [Session.pedalFf, offered]
    rw [replay_pedal bounded gate pedal generated, generated]
    simp [offered]
  · have gate : session.pedalFf = .error .eopnotsupp := by
      simp only [Session.pedalFf, Bool.and_eq_true, if_neg offered]
    apply iff_of_true (replay_pedal_unoffered gate pedal)
    intro feature pedals
    exact absurd ⟨feature, pedals⟩ offered

theorem replay_slider_iff (bounded : state.Bounded) (desktop : session.mode = .desktop)
    (slider : Slider) :
    (replay session state).curve slider.axis = state.curve slider.axis ↔
      (slider.Offered session → state.curve slider.axis = [] ∨
        sensitivityCurve (state.sensitivity slider.axis) = .ok (state.curve slider.axis)) := by
  rcases sensitivityCurve_ok (bounded.sensitivity slider.axis) with ⟨curve, generated⟩
  by_cases offered : slider.Offered session
  · by_cases builtIn : state.curve slider.axis = []
    · rw [Slider.replay_builtIn offered builtIn]
      simp [builtIn]
    · rw [Slider.replay_loaded bounded desktop offered builtIn generated, generated]
      simp [offered, builtIn]
  · apply iff_of_true (Slider.replay_unoffered offered)
    intro isOffered
    exact absurd isOffered offered

theorem replay_brightness_iff (bounded : state.Bounded) :
    (replay session state).register = state.register ↔
      (session.brightness = true → state.register =
        match session.model with
        | .rs50 => state.slotBrightness state.ledActiveSlot
        | .gpro => state.ledBrightness) := by
  by_cases feature : session.brightness = true
  · cases strip : session.model with
    | rs50 =>
        rw [replay_brightness_rs50 bounded feature strip, eq_comm]
        simp [feature]
    | gpro =>
        rw [replay_brightness_gpro bounded feature strip, eq_comm]
        simp [feature]
  · apply iff_of_true (replay_brightness_unoffered feature)
    intro isOffered
    exact absurd isOffered feature

end Identity

/-- In desktop mode, from every state that a run of successful writes reaches, a replay is the
identity exactly if the registers already hold what the last lines for them say. -/
theorem replay_isIdentity_iff {session : Session} (desktop : session.mode = .desktop)
    {state : State} (reachable : (writes session).Reachable state) :
    ReplayIsIdentity session state ↔ Replayable session state := by
  have bounded := reachable_bounded reachable
  constructor
  · rintro ⟨curves, register⟩
    refine ⟨?_, ?_, ?_⟩
    · intro feature pedals pedal
      exact (replay_pedal_iff bounded pedal).mp (curves (.pedal pedal)) feature pedals
    · intro slider
      exact (replay_slider_iff bounded desktop slider).mp (curves slider.axis)
    · exact (replay_brightness_iff bounded).mp register
  · rintro ⟨pedals, sliders, brightness⟩
    refine ⟨?_, (replay_brightness_iff bounded).mpr brightness⟩
    intro axis
    cases axis with
    | steering => exact (replay_slider_iff bounded desktop .steering).mpr (sliders .steering)
    | handbrake => exact (replay_slider_iff bounded desktop .handbrake).mpr (sliders .handbrake)
    | pedal pedal =>
        apply (replay_pedal_iff bounded pedal).mpr
        intro feature offered
        exact pedals feature offered pedal

/-- An RS50 with pedals and an analog handbrake, in desktop mode. -/
def fullSession : Session := ⟨.rs50, .desktop, true, true, true, true, true⟩

/-- A throttle deadzone survives. -/
theorem replay_isIdentity_after_deadzone :
    ∃ state, (writes fullSession).Reachable state ∧ state.curve (.pedal .throttle) ≠ [] ∧
      ReplayIsIdentity fullSession state := by
  have reachable : (writes fullSession).Reachable (probed.perform fullSession
      (.shape (.pedal .throttle) (resample (deadzonePoints 5 10) inputs) (.deadzone 5 10))) :=
    System.Reachable.of_run probed [(.pedalDeadzone .throttle, .numbers 5 10)] probed_fresh rfl
  refine ⟨_, reachable, by decide, (replay_isIdentity_iff rfl reachable).mpr ⟨?_, ?_, ?_⟩⟩
  · intro _ _ pedal
    cases pedal <;> rfl
  · intro slider _
    cases slider <;> exact .inl rfl
  · exact fun _ => rfl

/-- A throttle sensitivity of 70 does not: the deadzone line behind it reverts the curve. -/
theorem replay_forgets_sensitivity :
    ¬ ∀ (session : Session) (state : State), session.mode = .desktop →
      (writes session).Reachable state → ReplayIsIdentity session state := by
  intro identity
  rcases sensitivityCurve_ok (show 70 ≤ 100 by decide) with ⟨curve, generated⟩
  have loaded : curve ≠ [] := by
    rintro rfl
    revert generated
    decide
  have decoded : decode fullSession (.pedalSensitivity .throttle) (.number 70) =
      .ok (.shape (.pedal .throttle) curve (.sensitivity 70)) :=
    sensitivityStore_eq (by decide) generated
  have reachable : (writes fullSession).Reachable (probed.perform fullSession
      (.shape (.pedal .throttle) curve (.sensitivity 70))) :=
    System.Reachable.of_run probed [(.pedalSensitivity .throttle, .number 70)] probed_fresh
      (by simp only [System.run, writes, decoded, Option.bind])
  have kept := (identity fullSession _ rfl reachable).1 (.pedal .throttle)
  rw [@replay_pedal _ _ (reachable_bounded reachable) rfl .throttle [] rfl] at kept
  exact loaded kept.symm

end TrueForce.Profile
