import TrueForce.Hidpp.Transport
import Mathlib.Data.List.Induction

/-!
# What a command may believe

The pointer of the device names the frame of the caller that holds the lock and no other, in
every run.  What the handler does through it is another matter: it uses the pointer some time
after it has read it.
-/

namespace TrueForce.Hidpp.Transport

open TrueForce.Transition

/-- The handler has a question in hand. -/
def State.Asked (state : State) (report : Report) (frame : ℕ) (phase : HandlerPhase) : Prop :=
  state.handler = some ⟨report, some frame, phase⟩

/-- What one step can do. -/
inductive Stepped (dd : Bool) (state : State) : Event → State → Prop
  | lock (message garbage : Report) (free : state.holder = none) :
      Stepped dd state (.lock message garbage)
        ({ state with frames := state.frames + 1 }.hold
          ⟨state.frames, message, garbage, maxRetries, .publish, [], [], []⟩)
  | lockWorker (free : state.holder = none) :
      Stepped dd state .lockWorker { state with holder := some .worker }
  | unlockWorker (held : state.holder = some .worker) :
      Stepped dd state .unlockWorker { state with holder := none }
  | publish (call : Call) (held : state.holder = some (.call call)) (here : call.phase = .publish) :
      Stepped dd state .proceed
        ({ state with sendReceiveBuf := some call.frame }.hold { call with phase := .reset })
  | reset (call : Call) (held : state.holder = some (.call call)) (here : call.phase = .reset) :
      Stepped dd state .proceed
        ({ state with answerAvailable := false }.hold { call with phase := .copy })
  | copy (call : Call) (held : state.holder = some (.call call)) (here : call.phase = .copy) :
      Stepped dd state .proceed
        (state.hold { call with
          message := call.message.addressed
          response := call.message.addressed
          phase := .send
          earlier := call.earlier ++ call.heard
          heard := [] })
  | wake (call : Call) (held : state.holder = some (.call call)) (here : call.phase = .wait)
      (available : state.answerAvailable = true) :
      Stepped dd state .proceed (state.hold (call.settle (outcome call.response)))
  | clear (call : Call) (ret : ℤ) (held : state.holder = some (.call call))
      (here : call.phase = .clear ret) :
      Stepped dd state .proceed
        ({ state with sendReceiveBuf := none }.hold { call with phase := .unlock ret })
  | unlock (call : Call) (ret : ℤ) (held : state.holder = some (.call call))
      (here : call.phase = .unlock ret) :
      Stepped dd state .proceed
        { state with
          holder := none
          returned := state.returned ++
            [⟨call.message, ret, call.response, call.earlier, call.heard, call.sent⟩] }
  | sent (call : Call) (whole : Bool) (held : state.holder = some (.call call))
      (here : call.phase = .send) :
      Stepped dd state (.send whole)
        (state.hold { call with phase := .wait, sent := call.sent ++ [call.message] })
  | failed (call : Call) (whole : Bool) (ret : ℤ) (held : state.holder = some (.call call))
      (here : call.phase = .send) (bad : ret < 0) :
      Stepped dd state (.send whole) (state.hold { call with response := .zero, phase := .note ret })
  | timeOut (call : Call) (held : state.holder = some (.call call)) (here : call.phase = .wait) :
      Stepped dd state .timeOut
        (state.hold { call with response := .zero, phase := .note (-etimedout) })
  | note (call : Call) (uncounted : Bool) (ret : ℤ) (held : state.holder = some (.call call))
      (here : call.phase = .note ret) :
      Stepped dd state (.note uncounted)
        ({ state with
          detector := (state.detector.noteSyncResult uncounted ret).1
          results := state.results ++ [(uncounted, ret)]
          notices := state.notices ++ (state.detector.noteSyncResult uncounted ret).2.toList }.hold
            { call with phase := .clear ret })
  | receive (report : Report) (idle : state.handler = none) :
      Stepped dd state (.receive report)
        { state with
          handler := some ⟨report, state.sendReceiveBuf, .check⟩
          received := state.received ++ [report] }
  | pass (report : Report) (question : Option ℕ) (phase : HandlerPhase)
      (at_hand : state.handler = some ⟨report, question, phase⟩)
      (unasked : question = none ∨ phase = .check) :
      Stepped dd state .handle (state.pass report)
  | check (report : Report) (frame : ℕ) (asked : state.Asked report frame .check) :
      Stepped dd state .handle { state with handler := some ⟨report, some frame, .compare⟩ }
  | stray (report : Report) (frame : ℕ) (phase : HandlerPhase)
      (asked : state.Asked report frame phase) (gone : state.callOf frame = none) :
      Stepped dd state .handle state.stray
  | ignore (report : Report) (frame : ℕ) (call : Call) (asked : state.Asked report frame .compare)
      (own : state.callOf frame = some call) (other : takes dd call.response report = false) :
      Stepped dd state .handle
        ((state.hold { call with heard := call.heard ++ [report] }).pass report)
  | take (report : Report) (frame : ℕ) (call : Call) (asked : state.Asked report frame .compare)
      (own : state.callOf frame = some call) (answers : takes dd call.response report = true) :
      Stepped dd state .handle { state with handler := some ⟨report, some frame, .store⟩ }
  | store (report : Report) (frame : ℕ) (call : Call) (asked : state.Asked report frame .store)
      (own : state.callOf frame = some call) :
      Stepped dd state .handle
        { state.hold { call with response := report, heard := call.heard ++ [report] } with
          handler := some ⟨report, some frame, .announce⟩ }
  | announce (report : Report) (frame : ℕ) (asked : state.Asked report frame .announce) :
      Stepped dd state .handle { state with handler := none, answerAvailable := true }

section Steps

variable {dd : Bool} {state next : State} {call : Call} {frame : ℕ}

theorem callOf_eq_some : state.callOf frame = some call ↔
    state.holder = some (.call call) ∧ call.frame = frame := by
  rw [State.callOf]
  split
  · rename_i other held
    rw [held]
    split
    · rename_i own
      constructor
      · intro same
        cases same
        exact ⟨rfl, own⟩
      · rintro ⟨same, -⟩
        cases same
        rfl
    · rename_i foreign
      constructor
      · intro same
        cases same
      · rintro ⟨same, own⟩
        cases same
        exact absurd own foreign
  · rename_i other
    constructor
    · intro same
      cases same
    · rintro ⟨held, -⟩
      exact absurd held (other call)

theorem sendReport_nonpos (report : Report) (whole : Bool) :
    sendReport report whole = 0 ∨ sendReport report whole < 0 := by
  rw [sendReport]
  split
  · cases whole
    · right
      decide
    · exact .inl rfl
  · right
    decide

theorem settle_of_neg {ret : ℤ} (call : Call) (bad : ret < 0) :
    call.settle ret = { call with phase := .note ret } := by
  rw [Call.settle, again, if_pos bad]
  rfl

theorem proceed_stepped (held : state.holder = some (.call call))
    (stepped : state.proceed call = some next) : Stepped dd state .proceed next := by
  rw [State.proceed.eq_def] at stepped
  split at stepped
  · rename_i here
    cases stepped
    exact .publish call held here
  · rename_i here
    cases stepped
    exact .reset call held here
  · rename_i here
    cases stepped
    exact .copy call held here
  · rename_i here
    split at stepped
    · rename_i available
      cases stepped
      exact .wake call held here available
    · cases stepped
  · rename_i ret here
    cases stepped
    exact .clear call ret held here
  · rename_i ret here
    cases stepped
    exact .unlock call ret held here
  · cases stepped
  · cases stepped

theorem handle_stepped (stepped : state.handle dd = some next) : Stepped dd state .handle next := by
  rw [State.handle, Option.map_eq_some_iff] at stepped
  rcases stepped with ⟨⟨report, question, phase⟩, found, rfl⟩
  cases question with
  | none => exact .pass report none phase found (.inl rfl)
  | some frame =>
      cases phase with
      | check =>
          dsimp only
          split
          · exact .check report frame found
          · exact .pass report (some frame) .check found (.inr rfl)
      | compare =>
          dsimp only
          split
          · rename_i gone
            exact .stray report frame .compare found gone
          · rename_i call own
            split
            · rename_i answers
              exact .take report frame call found own answers
            · rename_i other
              exact .ignore report frame call found own (Bool.eq_false_iff.mpr other)
      | store =>
          dsimp only
          split
          · rename_i gone
            exact .stray report frame .store found gone
          · rename_i call own
            exact .store report frame call found own
      | announce => exact .announce report frame found

theorem stepped_of_step {event : Event} (stepped : step dd state event = some next) :
    Stepped dd state event next := by
  cases event with
  | lock message garbage =>
      simp only [step] at stepped
      split at stepped
      · rename_i free
        cases stepped
        exact .lock message garbage free
      · cases stepped
  | lockWorker =>
      simp only [step] at stepped
      split at stepped
      · rename_i free
        cases stepped
        exact .lockWorker free
      · cases stepped
  | unlockWorker =>
      simp only [step] at stepped
      split at stepped
      · rename_i held
        cases stepped
        exact .unlockWorker held
      · cases stepped
  | proceed =>
      simp only [step] at stepped
      split at stepped
      · rename_i call held
        exact proceed_stepped held stepped
      · cases stepped
  | send whole =>
      simp only [step] at stepped
      split at stepped
      · rename_i call held
        split at stepped
        · rename_i here
          split at stepped
          · cases stepped
            exact .sent call whole held here
          · rename_i failed
            have bad := (sendReport_nonpos call.message whole).resolve_left failed
            rw [settle_of_neg _ bad] at stepped
            cases stepped
            exact .failed call whole _ held here bad
        · cases stepped
      · cases stepped
  | timeOut =>
      simp only [step] at stepped
      split at stepped
      · rename_i call held
        split at stepped
        · rename_i here
          rw [settle_of_neg _ (by decide)] at stepped
          cases stepped
          exact .timeOut call held here.1
        · cases stepped
      · cases stepped
  | note uncounted =>
      simp only [step] at stepped
      split at stepped
      · rename_i call held
        split at stepped
        · rename_i ret here
          cases stepped
          exact .note call uncounted ret held here
        · cases stepped
      · cases stepped
  | receive report =>
      simp only [step] at stepped
      split at stepped
      · rename_i idle
        cases stepped
        exact .receive report idle
      · cases stepped
  | handle => exact handle_stepped stepped

end Steps

/-- What the caller that holds the lock has heard. -/
def State.hearing (state : State) : List Report :=
  match state.holder with
  | some (.call call) => call.earlier ++ call.heard
  | _ => []

/-- The report that the handler is still to make up its mind on. -/
def State.undecided (state : State) : List Report :=
  match state.handler with
  | some ⟨_, _, .announce⟩ | none => []
  | some ⟨report, _, _⟩ => [report]

/-- Every report that a caller has heard in any attempt, caller after caller. -/
def State.accounted (state : State) : List Report :=
  state.returned.flatMap (fun returned => returned.earlier ++ returned.heard) ++ state.hearing ++
    state.undecided

/-- The log as the results make it. -/
def replay (results : List (Bool × ℤ)) : Detector × List Notice :=
  results.foldl (fun told result =>
    ((told.1.noteSyncResult result.1 result.2).1,
      told.2 ++ (told.1.noteSyncResult result.1 result.2).2.toList)) (.fresh, [])

structure Owned (state : State) : Prop where
  buffer : ∀ frame, state.sendReceiveBuf = some frame →
    ∃ call, state.holder = some (.call call) ∧ call.frame = frame ∧
      ∀ ret, call.phase ≠ .unlock ret
  once : state.accounted.Sublist state.received
  told : (state.detector, state.notices) = replay state.results

section Pointer

variable {dd : Bool} {state next : State} {event : Event}

theorem owned_fresh : Owned State.fresh where
  buffer := by
    intro frame named
    cases named
  once := List.Sublist.refl []
  told := rfl

/-- A caller that moves on keeps its frame's name and its claim to the pointer. -/
theorem Owned.buffer_hold (owned : Owned state) {call after : Call} (call_held :
    state.holder = some (.call call)) (same : after.frame = call.frame)
    (locked : ∀ ret, after.phase ≠ .unlock ret) :
    ∀ frame, state.sendReceiveBuf = some frame →
      ∃ other, (state.hold after).holder = some (.call other) ∧ other.frame = frame ∧
        ∀ ret, other.phase ≠ .unlock ret := by
  intro frame named
  rcases owned.buffer frame named with ⟨other, held, own, -⟩
  rw [call_held] at held
  cases held
  exact ⟨after, rfl, same.trans own, locked⟩

theorem accounted_hold (state : State) (call : Call) : (state.hold call).accounted =
    state.returned.flatMap (fun returned => returned.earlier ++ returned.heard) ++
      (call.earlier ++ call.heard) ++ state.undecided := rfl

theorem accounted_of_held {call : Call} (held : state.holder = some (.call call)) :
    state.accounted =
      state.returned.flatMap (fun returned => returned.earlier ++ returned.heard) ++
        (call.earlier ++ call.heard) ++ state.undecided := by
  rw [State.accounted, State.hearing, held]

/-- A caller hears one more report, on which the handler has made up its mind. -/
theorem accounted_hear (state : State) (call : Call) (report : Report) :
    state.returned.flatMap (fun returned => returned.earlier ++ returned.heard) ++
        (call.earlier ++ (call.heard ++ [report])) ++ [] =
      state.returned.flatMap (fun returned => returned.earlier ++ returned.heard) ++
        (call.earlier ++ call.heard) ++ [report] := by
  simp only [List.append_nil, List.append_assoc]

theorem accounted_of_free (free : ∀ call, state.holder ≠ some (.call call)) :
    state.accounted =
      state.returned.flatMap (fun returned => returned.earlier ++ returned.heard) ++
        state.undecided := by
  have silent : state.hearing = [] := by
    rw [State.hearing]
    split
    · rename_i call held
      exact absurd held (free call)
    · rfl
  rw [State.accounted, silent, List.append_nil]

theorem settle_heard (call : Call) (ret : ℤ) :
    (call.settle ret).earlier ++ (call.settle ret).heard = call.earlier ++ call.heard := by
  rw [Call.settle]
  split <;> rfl

theorem settle_frame (call : Call) (ret : ℤ) : (call.settle ret).frame = call.frame := by
  rw [Call.settle]
  split <;> rfl

theorem settle_locked (call : Call) (ret other : ℤ) : (call.settle ret).phase ≠ .unlock other := by
  rw [Call.settle]
  split <;> exact Phase.noConfusion

theorem replay_append (results : List (Bool × ℤ)) (uncounted : Bool) (ret : ℤ) :
    replay (results ++ [(uncounted, ret)]) =
      (((replay results).1.noteSyncResult uncounted ret).1,
        (replay results).2 ++ ((replay results).1.noteSyncResult uncounted ret).2.toList) := by
  rw [replay, List.foldl_append]
  rfl

theorem not_call_of_free (free : state.holder = none) (call : Call) :
    state.holder ≠ some (.call call) := by
  rw [free]
  intro held
  cases held

theorem not_call_of_worker (worker : state.holder = some .worker) (call : Call) :
    state.holder ≠ some (.call call) := by
  rw [worker]
  intro held
  cases held

/-- Without a caller the pointer is empty. -/
theorem Owned.empty (owned : Owned state) (free : ∀ call, state.holder ≠ some (.call call)) :
    state.sendReceiveBuf = none := by
  cases named : state.sendReceiveBuf with
  | none => rfl
  | some frame =>
      rcases owned.buffer frame named with ⟨call, held, -⟩
      exact absurd held (free call)

/-- A report that the handler lets go is one the less to decide. -/
theorem accounted_release (state : State) (handler : Option Handler)
    (decided : ({ state with handler } : State).undecided = []) :
    ({ state with handler } : State).accounted.Sublist state.accounted := by
  simp only [State.accounted, decided, List.append_nil]
  exact List.sublist_append_left _ _

theorem Owned.step (owned : Owned state) (stepped : Stepped dd state event next) : Owned next := by
  have once := owned.once
  cases stepped with
  | lock message garbage free =>
      have empty := owned.empty (not_call_of_free free)
      rw [accounted_of_free (not_call_of_free free)] at once
      refine ⟨?_, ?_, owned.told⟩
      · intro frame named
        exact absurd (named.symm.trans empty) (Option.some_ne_none frame)
      · rw [accounted_hold, List.append_nil, List.append_nil]
        exact once
  | lockWorker free =>
      have empty := owned.empty (not_call_of_free free)
      rw [accounted_of_free (not_call_of_free free)] at once
      refine ⟨?_, ?_, owned.told⟩
      · intro frame named
        exact absurd (named.symm.trans empty) (Option.some_ne_none frame)
      · rw [accounted_of_free (not_call_of_worker rfl)]
        exact once
  | unlockWorker worker =>
      have empty := owned.empty (not_call_of_worker worker)
      rw [accounted_of_free (not_call_of_worker worker)] at once
      refine ⟨?_, ?_, owned.told⟩
      · intro frame named
        exact absurd (named.symm.trans empty) (Option.some_ne_none frame)
      · rw [accounted_of_free (not_call_of_free rfl)]
        exact once
  | publish call held here =>
      rw [accounted_of_held held] at once
      refine ⟨?_, once, owned.told⟩
      intro frame named
      cases named
      exact ⟨_, rfl, rfl, fun _ => Phase.noConfusion⟩
  | reset call held here =>
      rw [accounted_of_held held] at once
      exact ⟨owned.buffer_hold held rfl fun _ => Phase.noConfusion, once, owned.told⟩
  | copy call held here =>
      rw [accounted_of_held held] at once
      refine ⟨owned.buffer_hold held rfl fun _ => Phase.noConfusion, ?_, owned.told⟩
      rw [accounted_hold, List.append_nil]
      exact once
  | wake call held here available =>
      rw [accounted_of_held held] at once
      refine ⟨owned.buffer_hold held (settle_frame _ _) (settle_locked _ _), ?_, owned.told⟩
      rw [accounted_hold, settle_heard]
      exact once
  | clear call ret held here =>
      rw [accounted_of_held held] at once
      refine ⟨?_, once, owned.told⟩
      intro frame named
      cases named
  | unlock call ret held here =>
      rw [accounted_of_held held] at once
      refine ⟨?_, ?_, owned.told⟩
      · intro frame named
        rcases owned.buffer frame named with ⟨other, found, -, locked⟩
        rw [held] at found
        cases found
        exact absurd here (locked ret)
      · rw [accounted_of_free (not_call_of_free rfl), List.flatMap_append, List.flatMap_singleton]
        exact once
  | sent call whole held here =>
      rw [accounted_of_held held] at once
      exact ⟨owned.buffer_hold held rfl fun _ => Phase.noConfusion, once, owned.told⟩
  | failed call whole ret held here bad =>
      rw [accounted_of_held held] at once
      exact ⟨owned.buffer_hold held rfl fun _ => Phase.noConfusion, once, owned.told⟩
  | timeOut call held here =>
      rw [accounted_of_held held] at once
      exact ⟨owned.buffer_hold held rfl fun _ => Phase.noConfusion, once, owned.told⟩
  | note call uncounted ret held here =>
      rw [accounted_of_held held] at once
      refine ⟨owned.buffer_hold held rfl fun _ => Phase.noConfusion, once, ?_⟩
      have told := owned.told
      change (_, _) = replay (state.results ++ [(uncounted, ret)])
      rw [replay_append, ← told]
      rfl
  | receive report idle =>
      refine ⟨owned.buffer, ?_, owned.told⟩
      have silent : state.undecided = [] := by
        rw [State.undecided, idle]
      rw [State.accounted, silent, List.append_nil] at once
      exact once.append (List.Sublist.refl [report])
  | pass report question phase at_hand unasked =>
      exact ⟨owned.buffer, (accounted_release state none rfl).trans once, owned.told⟩
  | check report frame asked =>
      refine ⟨owned.buffer, ?_, owned.told⟩
      have same : state.undecided = [report] := by
        rw [State.undecided, asked]
      rw [State.accounted, same] at once
      exact once
  | stray report frame phase asked gone =>
      exact ⟨owned.buffer, (accounted_release state none rfl).trans once, owned.told⟩
  | ignore report frame call asked own other =>
      rcases callOf_eq_some.mp own with ⟨held, -⟩
      have same : state.undecided = [report] := by
        rw [State.undecided, asked]
      rcases owned with ⟨buffer, -, told⟩
      rw [accounted_of_held held, same] at once
      refine ⟨?_, ?_, told⟩
      · intro frame named
        rcases buffer frame named with ⟨caller, found, kept, locked⟩
        rw [held] at found
        cases found
        exact ⟨_, rfl, kept, locked⟩
      · refine List.Sublist.trans ?_ once
        exact (accounted_hear state call report) ▸ List.Sublist.refl _
  | take report frame call asked own answers =>
      refine ⟨owned.buffer, ?_, owned.told⟩
      have same : state.undecided = [report] := by
        rw [State.undecided, asked]
      rw [State.accounted, same] at once
      exact once
  | store report frame call asked own =>
      rcases callOf_eq_some.mp own with ⟨held, -⟩
      have same : state.undecided = [report] := by
        rw [State.undecided, asked]
      rcases owned with ⟨buffer, -, told⟩
      rw [accounted_of_held held, same] at once
      refine ⟨?_, ?_, told⟩
      · intro frame named
        rcases buffer frame named with ⟨caller, found, kept, locked⟩
        rw [held] at found
        cases found
        exact ⟨_, rfl, kept, locked⟩
      · refine List.Sublist.trans ?_ once
        exact (accounted_hear state call report) ▸ List.Sublist.refl _
  | announce report frame asked =>
      exact ⟨owned.buffer, (accounted_release state none rfl).trans once, owned.told⟩

theorem owned_of_reachable {guard : State → Event → Prop}
    (reachable : (system dd).ReachableUnder guard state) : Owned state := by
  apply reachable.invariant
  · rintro start rfl
    exact owned_fresh
  · intro current event next owned _ stepped
    exact owned.step (stepped_of_step stepped)

end Pointer

/-- The frame holds the question until a report takes its place, and then that report; whatever
comes next is compared with what is there. -/
def hear (dd : Bool) (held : Report × Bool) (report : Report) : Report × Bool :=
  if takes dd held.1 report then (report, true) else held

def listen (dd : Bool) (question : Report) (heard : List Report) : Report × Bool :=
  heard.foldl (hear dd) (question, false)

def Report.IsError (report : Report) : Prop :=
  report.featureIndex = hidppError ∨ report.featureIndex = hidpp20Error

/-- The result is that of a report heard, and the response is what all reports heard have left. -/
def Answered (dd : Bool) (question : Report) (heard : List Report) (ret : ℤ) (response : Report) :
    Prop :=
  ∃ early late, heard = early ++ late ∧ (listen dd question early).2 = true ∧
    ret = outcome (listen dd question early).1 ∧ response = (listen dd question heard).1

section Listening

variable {dd : Bool} {question middle answer report response : Report} {heard : List Report}
  {ret : ℤ}

theorem listen_append (dd : Bool) (question : Report) (heard : List Report) (report : Report) :
    listen dd question (heard ++ [report]) = hear dd (listen dd question heard) report := by
  rw [listen, List.foldl_append]
  rfl

theorem featureIndex_of_matchAnswer (matched : matchAnswer dd question answer = true) :
    answer.featureIndex = question.featureIndex := by
  rw [matchAnswer] at matched
  grind

theorem isError_of_matchError (matched : matchError dd question answer = true) :
    answer.IsError := by
  rw [matchError] at matched
  rw [Report.IsError]
  grind

theorem matchAnswer_trans (first : matchAnswer dd question middle = true)
    (second : matchAnswer dd middle answer = true) : matchAnswer dd question answer = true := by
  rw [matchAnswer] at first second ⊢
  grind

/-- An answer that is no error is one to the question, however many reports came before it. -/
theorem listen_spec (dd : Bool) (question : Report) (heard : List Report) :
    ((listen dd question heard).2 = false → (listen dd question heard).1 = question) ∧
      ((listen dd question heard).2 = true → (listen dd question heard).1 ∈ heard ∧
        (¬(listen dd question heard).1.IsError →
          matchAnswer dd question (listen dd question heard).1 = true)) := by
  induction heard using List.reverseRecOn with
  | nil => exact ⟨fun _ => rfl, fun absurd => Bool.noConfusion absurd⟩
  | append_singleton heard report ih =>
      rw [listen_append]
      generalize listen dd question heard = held at ih
      rcases ih with ⟨blank, answered⟩
      rw [hear]
      split
      · rename_i taken
        refine ⟨fun absurd => Bool.noConfusion absurd, fun _ => ⟨List.mem_concat_self, ?_⟩⟩
        intro sane
        have matched : matchAnswer dd held.1 report = true := by
          rw [takes, Bool.or_eq_true] at taken
          exact taken.resolve_right fun error => sane (isError_of_matchError error)
        cases hit : held.2 with
        | false => exact blank hit ▸ matched
        | true =>
            have same := featureIndex_of_matchAnswer matched
            apply matchAnswer_trans ((answered hit).2 ?_) matched
            intro error
            rw [Report.IsError, ← same] at error
            exact sane error
      · refine ⟨blank, fun hit => ⟨?_, (answered hit).2⟩⟩
        exact List.mem_append_left _ (answered hit).1

/-- A question that was answered stays so. -/
theorem listen_hit (early late : List Report) (hit : (listen dd question early).2 = true) :
    (listen dd question (early ++ late)).2 = true := by
  induction late using List.reverseRecOn with
  | nil => rwa [List.append_nil]
  | append_singleton late report ih =>
      rw [← List.append_assoc, listen_append, hear]
      split
      · rfl
      · exact ih

theorem Answered.ignore (answered : Answered dd question heard ret response)
    (other : takes dd response report = false) :
    Answered dd question (heard ++ [report]) ret response := by
  rcases answered with ⟨early, late, rfl, hit, value, rfl⟩
  refine ⟨early, late ++ [report], List.append_assoc _ _ _, hit, value, ?_⟩
  rw [listen_append, hear, if_neg (Bool.eq_false_iff.mp other)]

theorem Answered.take (answered : Answered dd question heard ret response)
    (taken : takes dd response report = true) :
    Answered dd question (heard ++ [report]) ret report := by
  rcases answered with ⟨early, late, rfl, hit, value, rfl⟩
  refine ⟨early, late ++ [report], List.append_assoc _ _ _, hit, value, ?_⟩
  rw [listen_append, hear, if_pos taken]

end Listening

namespace State

def phase (state : State) : Option Phase :=
  match state.holder with
  | some (.call call) => some call.phase
  | _ => none

/-- The handler has read a pointer and is not done with it. -/
def busy (state : State) : Bool := state.handler.any fun handler => handler.question.isSome

end State

/-- The caller is about to make its frame ready for a question, or to take it away. -/
def Phase.exposed : Phase → Bool
  | .reset | .clear _ => true
  | _ => false

/-- No report is underway while a caller starts an attempt or takes its frame away. -/
def Undisturbed (state : State) : Event → Prop
  | .proceed => state.phase.any Phase.exposed = true → state.busy = false
  | .receive _ => state.phase ≠ some .copy
  | _ => True

instance (state : State) : ∀ event, Decidable (Undisturbed state event)
  | .proceed => inferInstanceAs (Decidable (_ → _))
  | .receive _ => inferInstanceAs (Decidable (_ ≠ _))
  | .lock _ _ | .lockWorker | .unlockWorker | .send _ | .timeOut | .note _ | .handle =>
      inferInstanceAs (Decidable True)

/-- What is so of a caller's question. -/
def Call.Keeps (dd : Bool) (available : Bool) (call : Call) : Prop :=
  match call.phase with
  | .publish | .reset => True
  | .copy => available = false
  | .send | .wait =>
      call.response = (listen dd call.message call.heard).1 ∧
        (available = true → (listen dd call.message call.heard).2 = true)
  | .note ret | .clear ret | .unlock ret =>
      0 ≤ ret → Answered dd call.message call.heard ret call.response

/-- The frame holds the question or an answer. -/
def Call.Open (call : Call) : Prop :=
  match call.phase with
  | .send | .wait => True
  | .note ret | .clear ret => 0 ≤ ret
  | _ => False

/-- What is so of a caller whose question the handler has in hand. -/
structure Call.Met (dd : Bool) (report : Report) (phase : HandlerPhase) (call : Call) : Prop where
  settled : call.phase ≠ .copy
  locked : ∀ ret, call.phase ≠ .unlock ret
  store : phase = .store → call.Open → takes dd call.response report = true
  announce : phase = .announce → call.phase = .send ∨ call.phase = .wait →
    (listen dd call.message call.heard).2 = true

structure Sound (dd : Bool) (state : State) : Prop where
  clean : state.strayed = false
  call : ∀ call, state.holder = some (.call call) → call.Keeps dd state.answerAvailable
  asked : ∀ report frame phase, state.Asked report frame phase →
    ∃ call, state.holder = some (.call call) ∧ call.frame = frame ∧ call.Met dd report phase
  returned : ∀ returned ∈ state.returned, 0 ≤ returned.ret →
    Answered dd returned.question returned.heard returned.ret returned.response

section Undisturbed

variable {dd : Bool} {state next : State} {call after : Call} {event : Event} {report : Report}
  {frame : ℕ} {phase : HandlerPhase}

theorem sound_fresh (dd : Bool) : Sound dd State.fresh where
  clean := rfl
  call := by
    intro call held
    cases held
  asked := by
    intro report frame phase asked
    cases asked
  returned := by
    intro returned listed
    cases listed

theorem not_asked_of_idle (idle : state.busy = false) : ¬state.Asked report frame phase := by
  intro asked
  rw [State.busy, asked] at idle
  cases idle

theorem phase_of_held (held : state.holder = some (.call call)) :
    state.phase = some call.phase := by
  rw [State.phase, held]

/-- A step of the caller that leaves the handler as it is. -/
theorem Sound.moved (sound : Sound dd state) (held : state.holder = some (.call call))
    (holder : next.holder = some (.call after)) (same : after.frame = call.frame)
    (handler : next.handler = state.handler) (clean : next.strayed = state.strayed)
    (returned : next.returned = state.returned) (keeps : after.Keeps dd next.answerAvailable)
    (met : ∀ report frame phase, state.Asked report frame phase → call.Met dd report phase →
      after.Met dd report phase) : Sound dd next where
  clean := clean.trans sound.clean
  call := by
    intro other found
    rw [holder] at found
    cases found
    exact keeps
  asked := by
    intro report frame phase asked
    rw [State.Asked, handler] at asked
    rcases sound.asked report frame phase asked with ⟨other, found, own, facts⟩
    rw [held] at found
    cases found
    exact ⟨after, holder, same.trans own, met report frame phase asked facts⟩
  returned := by
    rw [returned]
    exact sound.returned

/-- A step that takes the handler's question away. -/
theorem Sound.dropped (sound : Sound dd state) (holder : next.holder = state.holder)
    (available : next.answerAvailable = state.answerAvailable)
    (unasked : ∀ report frame phase, ¬next.Asked report frame phase)
    (clean : next.strayed = state.strayed) (returned : next.returned = state.returned) :
    Sound dd next where
  clean := clean.trans sound.clean
  call := by
    rw [holder, available]
    exact sound.call
  asked := by
    intro report frame phase asked
    exact absurd asked (unasked report frame phase)
  returned := by
    rw [returned]
    exact sound.returned

theorem Sound.lookup (sound : Sound dd state) (asked : state.Asked report frame phase) :
    ∃ call, state.holder = some (.call call) ∧ state.callOf frame = some call ∧
      call.Met dd report phase := by
  rcases sound.asked report frame phase asked with ⟨call, held, own, met⟩
  exact ⟨call, held, callOf_eq_some.mpr ⟨held, own⟩, met⟩

/-- The end of an attempt that was answered. -/
theorem keeps_settle (keeps : call.Keeps dd true) (here : call.phase = .wait) (available : Bool) :
    (call.settle (outcome call.response)).Keeps dd available := by
  simp only [Call.Keeps, here] at keeps
  rw [Call.settle]
  split
  · trivial
  · intro _
    refine ⟨call.heard, [], (List.append_nil _).symm, keeps.2 trivial, ?_, keeps.1⟩
    rw [← keeps.1]

theorem met_settle (met : call.Met dd report phase) (here : call.phase = .wait) (ret : ℤ) :
    (call.settle ret).Met dd report phase := by
  have still : call.Open := by
    rw [Call.Open, here]
    trivial
  rw [Call.settle]
  split
  · exact ⟨Phase.noConfusion, fun _ => Phase.noConfusion, fun _ absurd => absurd.elim,
      fun _ other => by rcases other with other | other <;> cases other⟩
  · exact ⟨Phase.noConfusion, fun _ => Phase.noConfusion, fun stored _ => met.store stored still,
      fun _ other => by rcases other with other | other <;> cases other⟩

/-- A report that is compared and let go leaves the frame as it is. -/
theorem keeps_ignore {available : Bool} (keeps : call.Keeps dd available)
    (other : takes dd call.response report = false) :
    ({ call with heard := call.heard ++ [report] } : Call).Keeps dd available := by
  have missed := Bool.eq_false_iff.mp other
  cases here : call.phase with
  | publish | reset =>
      simp only [Call.Keeps]
  | copy =>
      simp only [Call.Keeps, here] at keeps ⊢
      exact keeps
  | send | wait =>
      simp only [Call.Keeps, here] at keeps ⊢
      rw [listen_append, hear, ← keeps.1, if_neg missed]
      exact keeps
  | note ret | clear ret | unlock ret =>
      simp only [Call.Keeps, here] at keeps ⊢
      exact fun good => (keeps good).ignore other

/-- A report that the handler stores is one that the frame's content takes. -/
theorem keeps_store {available : Bool} (keeps : call.Keeps dd available)
    (met : call.Met dd report .store) :
    ({ call with response := report, heard := call.heard ++ [report] } : Call).Keeps dd
      available := by
  cases here : call.phase with
  | publish | reset => simp only [Call.Keeps]
  | copy => exact absurd here met.settled
  | send | wait =>
      have taken := met.store rfl (by simp only [Call.Open, here])
      simp only [Call.Keeps, here] at keeps ⊢
      rw [listen_append, hear, ← keeps.1, if_pos taken]
      exact ⟨rfl, fun _ => rfl⟩
  | note ret | clear ret =>
      simp only [Call.Keeps, here] at keeps ⊢
      intro good
      have taken := met.store rfl (by simpa only [Call.Open, here] using good)
      exact (keeps good).take taken
  | unlock ret => exact absurd here (met.locked ret)

theorem open_of_waiting (waiting : call.phase = .send ∨ call.phase = .wait) : call.Open := by
  rcases waiting with here | here <;> simp only [Call.Open, here]

theorem held_of_waiting {available : Bool} (keeps : call.Keeps dd available)
    (waiting : call.phase = .send ∨ call.phase = .wait) :
    call.response = (listen dd call.message call.heard).1 := by
  rcases waiting with here | here
  · simp only [Call.Keeps, here] at keeps
    exact keeps.1
  · simp only [Call.Keeps, here] at keeps
    exact keeps.1

theorem met_store {available : Bool} (keeps : call.Keeps dd available)
    (met : call.Met dd report .store) :
    ({ call with response := report, heard := call.heard ++ [report] } : Call).Met dd report
      .announce := by
  refine ⟨met.settled, met.locked, fun other => HandlerPhase.noConfusion other, ?_⟩
  intro _ waiting
  have taken := met.store rfl (open_of_waiting waiting)
  rw [listen_append, hear, ← held_of_waiting keeps waiting, if_pos taken]

theorem Sound.step (sound : Sound dd state) (owned : Owned state)
    (undisturbed : Undisturbed state event) (stepped : Stepped dd state event next) :
    Sound dd next := by
  cases stepped with
  | lock message garbage free =>
      refine ⟨sound.clean, ?_, ?_, sound.returned⟩
      · intro call held
        cases held
        trivial
      · intro report frame phase asked
        rcases sound.asked report frame phase asked with ⟨call, held, -⟩
        exact absurd held (not_call_of_free free call)
  | lockWorker free =>
      refine ⟨sound.clean, ?_, ?_, sound.returned⟩
      · intro call held
        cases held
      · intro report frame phase asked
        rcases sound.asked report frame phase asked with ⟨call, held, -⟩
        exact absurd held (not_call_of_free free call)
  | unlockWorker worker =>
      refine ⟨sound.clean, ?_, ?_, sound.returned⟩
      · intro call held
        cases held
      · intro report frame phase asked
        rcases sound.asked report frame phase asked with ⟨call, held, -⟩
        exact absurd held (not_call_of_worker worker call)
  | publish call held here =>
      refine sound.moved held rfl rfl rfl rfl rfl trivial ?_
      intro report frame phase asked met
      exact ⟨Phase.noConfusion, fun _ => Phase.noConfusion, fun _ absurd => absurd.elim,
        fun _ other => by rcases other with other | other <;> cases other⟩
  | reset call held here =>
      have idle : state.busy = false := by
        apply undisturbed
        rw [phase_of_held held, here]
        rfl
      refine sound.moved held rfl rfl rfl rfl rfl rfl ?_
      intro report frame phase asked
      exact absurd asked (not_asked_of_idle idle)
  | copy call held here =>
      have off := sound.call call held
      simp only [Call.Keeps, here] at off
      refine sound.moved held rfl rfl rfl rfl rfl ?_ ?_
      · refine ⟨rfl, ?_⟩
        intro available
        exact absurd (available.symm.trans off) Bool.noConfusion
      · intro report frame phase asked met
        exact absurd here met.settled
  | wake call held here available =>
      have keeps := sound.call call held
      rw [available] at keeps
      refine sound.moved held rfl (settle_frame _ _) rfl rfl rfl (keeps_settle keeps here _) ?_
      intro report frame phase asked met
      exact met_settle met here _
  | clear call ret held here =>
      have idle : state.busy = false := by
        apply undisturbed
        rw [phase_of_held held, here]
        rfl
      have keeps := sound.call call held
      simp only [Call.Keeps, here] at keeps
      refine sound.moved held rfl rfl rfl rfl rfl keeps ?_
      intro report frame phase asked
      exact absurd asked (not_asked_of_idle idle)
  | unlock call ret held here =>
      have keeps := sound.call call held
      simp only [Call.Keeps, here] at keeps
      refine ⟨sound.clean, ?_, ?_, ?_⟩
      · intro call held
        cases held
      · intro report frame phase asked
        rcases sound.asked report frame phase asked with ⟨other, found, -, met⟩
        rw [held] at found
        cases found
        exact absurd here (met.locked ret)
      · intro returned listed
        rcases List.mem_append.mp listed with earlier | last
        · exact sound.returned returned earlier
        · rw [List.mem_singleton] at last
          rw [last]
          exact keeps
  | sent call whole held here =>
      have keeps := sound.call call held
      simp only [Call.Keeps, here] at keeps
      refine sound.moved held rfl rfl rfl rfl rfl keeps ?_
      intro report frame phase asked met
      exact ⟨Phase.noConfusion, fun _ => Phase.noConfusion,
        fun stored _ => met.store stored (open_of_waiting (.inl here)),
        fun told _ => met.announce told (.inl here)⟩
  | failed call whole ret held here bad =>
      refine sound.moved held rfl rfl rfl rfl rfl ?_ ?_
      · intro good
        omega
      · intro report frame phase asked met
        refine ⟨Phase.noConfusion, fun _ => Phase.noConfusion, ?_, ?_⟩
        · intro _ good
          exact absurd good (Int.not_le.mpr bad)
        · intro _ other
          rcases other with other | other <;> cases other
  | timeOut call held here =>
      have late : ¬0 ≤ -etimedout := by decide
      refine sound.moved held rfl rfl rfl rfl rfl ?_ ?_
      · intro good
        exact absurd good late
      · intro report frame phase asked met
        refine ⟨Phase.noConfusion, fun _ => Phase.noConfusion, ?_, ?_⟩
        · intro _ good
          exact absurd good late
        · intro _ other
          rcases other with other | other <;> cases other
  | note call uncounted ret held here =>
      have keeps := sound.call call held
      simp only [Call.Keeps, here] at keeps
      refine sound.moved held rfl rfl rfl rfl rfl keeps ?_
      intro report frame phase asked met
      refine ⟨Phase.noConfusion, fun _ => Phase.noConfusion, ?_, ?_⟩
      · intro stored good
        exact met.store stored (by simpa only [Call.Open, here] using good)
      · intro _ other
        rcases other with other | other <;> cases other
  | receive report idle =>
      refine ⟨sound.clean, sound.call, ?_, sound.returned⟩
      intro other frame phase asked
      simp only [State.Asked, Option.some.injEq, Handler.mk.injEq] at asked
      rcases asked with ⟨-, named, rfl⟩
      rcases owned.buffer frame named with ⟨call, held, own, locked⟩
      refine ⟨call, held, own, ?_, locked, fun absurd => HandlerPhase.noConfusion absurd,
        fun absurd => HandlerPhase.noConfusion absurd⟩
      intro here
      apply undisturbed
      rw [phase_of_held held, here]
  | pass report question phase at_hand unasked =>
      refine sound.dropped rfl rfl ?_ rfl rfl
      intro report frame phase asked
      cases asked
  | check report frame asked =>
      rcases sound.lookup asked with ⟨call, held, own, met⟩
      refine ⟨sound.clean, sound.call, ?_, sound.returned⟩
      intro other named phase still
      cases still
      exact ⟨call, held, (callOf_eq_some.mp own).2, met.settled, met.locked,
        fun absurd => HandlerPhase.noConfusion absurd,
        fun absurd => HandlerPhase.noConfusion absurd⟩
  | stray report frame phase asked gone =>
      rcases sound.lookup asked with ⟨call, -, own, -⟩
      rw [gone] at own
      cases own
  | ignore report frame call asked own other =>
      rcases callOf_eq_some.mp own with ⟨held, -⟩
      refine ⟨sound.clean, ?_, ?_, sound.returned⟩
      · intro after found
        cases found
        exact keeps_ignore (sound.call call held) other
      · intro report frame phase asked
        cases asked
  | take report frame call asked own answers =>
      rcases sound.lookup asked with ⟨caller, held, found, met⟩
      rw [own] at found
      cases found
      refine ⟨sound.clean, sound.call, ?_, sound.returned⟩
      intro other named phase still
      cases still
      exact ⟨call, held, (callOf_eq_some.mp own).2, met.settled, met.locked,
        fun _ _ => answers, fun absurd => HandlerPhase.noConfusion absurd⟩
  | store report frame call asked own =>
      rcases sound.lookup asked with ⟨caller, held, found, met⟩
      rw [own] at found
      cases found
      have keeps := sound.call call held
      refine ⟨sound.clean, ?_, ?_, sound.returned⟩
      · intro after found
        cases found
        exact keeps_store keeps met
      · intro other named phase still
        cases still
        exact ⟨_, rfl, (callOf_eq_some.mp own).2, met_store keeps met⟩
  | announce report frame asked =>
      rcases sound.lookup asked with ⟨call, held, own, met⟩
      refine ⟨sound.clean, ?_, ?_, sound.returned⟩
      · intro other found
        change state.holder = _ at found
        rw [held] at found
        cases found
        have keeps := sound.call call held
        cases here : call.phase with
        | publish | reset => simp only [Call.Keeps, here]
        | copy => exact absurd here met.settled
        | send =>
            simp only [Call.Keeps, here] at keeps ⊢
            exact ⟨keeps.1, fun _ => met.announce rfl (.inl here)⟩
        | wait =>
            simp only [Call.Keeps, here] at keeps ⊢
            exact ⟨keeps.1, fun _ => met.announce rfl (.inr here)⟩
        | note ret | clear ret | unlock ret =>
            simp only [Call.Keeps, here] at keeps ⊢
            exact keeps
      · intro report frame phase asked
        cases asked

theorem sound_of_reachable (reachable : (system dd).ReachableUnder Undisturbed state) :
    Sound dd state := by
  have both : Owned state ∧ Sound dd state := by
    apply reachable.invariant
    · rintro start rfl
      exact ⟨owned_fresh, sound_fresh dd⟩
    · intro current event next both undisturbed stepped
      have moved := stepped_of_step stepped
      exact ⟨both.1.step moved, both.2.step both.1 undisturbed moved⟩
  exact both.2

end Undisturbed

/-- The message of this attempt is not on its way yet. -/
def Phase.unsent : Phase → Bool
  | .publish | .reset | .copy | .send => true
  | _ => false

structure Call.Tries (call : Call) : Prop where
  left : 1 ≤ call.retries
  few : call.sent.length + call.retries ≤ maxRetries + if call.phase.unsent then 0 else 1
  same : ∀ report ∈ call.sent, report = call.message.addressed
  ready : call.phase = .send → call.message.addressed = call.message

/-- A command went to the wheel three times at most, and always as the same message. -/
def Call.Tried (call : Call) : Prop :=
  call.sent.length ≤ maxRetries ∧ ∀ report ∈ call.sent, report = call.message.addressed

def Returned.Tried (returned : Returned) : Prop :=
  returned.sent.length ≤ maxRetries ∧
    ∀ report ∈ returned.sent, report = returned.question.addressed

structure Tried (state : State) : Prop where
  call : ∀ call, state.holder = some (.call call) → call.Tries
  returned : ∀ returned ∈ state.returned, returned.Tried

section Attempts

variable {dd : Bool} {state next : State} {call after : Call} {event : Event}

theorem addressed_addressed (report : Report) : report.addressed.addressed = report.addressed := by
  by_cases receiver : report.deviceIndex = 0
  · have named : report.addressed = { report with deviceIndex := 0xff } := if_pos receiver
    rw [named]
    rfl
  · have kept : report.addressed = report := if_neg receiver
    rw [kept, kept]

theorem Call.Tries.tried (tries : call.Tries) : call.Tried := by
  have left := tries.left
  have few := tries.few
  refine ⟨?_, tries.same⟩
  split at few <;> omega

theorem Tried.moved (tried : Tried state) (holder : next.holder = some (.call after))
    (returned : next.returned = state.returned) (tries : after.Tries) : Tried next where
  call := by
    intro other held
    rw [holder] at held
    cases held
    exact tries
  returned := by
    rw [returned]
    exact tried.returned

theorem Tried.free (tried : Tried state) (holder : ∀ call, next.holder ≠ some (.call call))
    (returned : next.returned = state.returned) : Tried next where
  call := by
    intro call held
    exact absurd held (holder call)
  returned := by
    rw [returned]
    exact tried.returned

theorem Tried.kept (tried : Tried state) (holder : next.holder = state.holder)
    (returned : next.returned = state.returned) : Tried next where
  call := by
    rw [holder]
    exact tried.call
  returned := by
    rw [returned]
    exact tried.returned

theorem tries_settle (tries : call.Tries) (here : call.phase = .wait) (ret : ℤ) :
    (call.settle ret).Tries := by
  have few := tries.few
  rw [here] at few
  simp only [Phase.unsent, Bool.false_eq_true, if_false] at few
  rw [Call.settle]
  split
  · rename_i more
    refine ⟨Nat.le_sub_of_add_le more.2, ?_, tries.same, fun absurd => Phase.noConfusion absurd⟩
    simp only [Phase.unsent, if_true]
    omega
  · exact ⟨tries.left, few, tries.same, fun absurd => Phase.noConfusion absurd⟩

theorem Tried.step (tried : Tried state) (stepped : Stepped dd state event next) : Tried next := by
  cases stepped with
  | lock message garbage free =>
      have some : 1 ≤ maxRetries := by decide
      refine tried.moved rfl rfl
        ⟨some, Nat.le_of_eq (Nat.zero_add _), ?_, fun absurd => Phase.noConfusion absurd⟩
      intro report listed
      cases listed
  | lockWorker free => exact tried.free (not_call_of_worker rfl) rfl
  | unlockWorker worker => exact tried.free (not_call_of_free rfl) rfl
  | publish call held here =>
      have tries := tried.call call held
      have few := tries.few
      rw [here] at few
      exact tried.moved rfl rfl ⟨tries.left, few, tries.same, fun absurd => Phase.noConfusion absurd⟩
  | reset call held here =>
      have tries := tried.call call held
      have few := tries.few
      rw [here] at few
      exact tried.moved rfl rfl ⟨tries.left, few, tries.same, fun absurd => Phase.noConfusion absurd⟩
  | copy call held here =>
      have tries := tried.call call held
      have few := tries.few
      rw [here] at few
      refine tried.moved rfl rfl ⟨tries.left, few, ?_, fun _ => addressed_addressed _⟩
      rw [addressed_addressed]
      exact tries.same
  | wake call held here available =>
      exact tried.moved rfl rfl (tries_settle (tried.call call held) here _)
  | clear call ret held here =>
      have tries := tried.call call held
      have few := tries.few
      rw [here] at few
      exact tried.moved rfl rfl ⟨tries.left, few, tries.same, fun absurd => Phase.noConfusion absurd⟩
  | unlock call ret held here =>
      refine ⟨?_, ?_⟩
      · intro other found
        cases found
      · intro returned listed
        rcases List.mem_append.mp listed with earlier | last
        · exact tried.returned returned earlier
        · rw [List.mem_singleton] at last
          rw [last]
          exact (tried.call call held).tried
  | sent call whole held here =>
      have tries := tried.call call held
      have few := tries.few
      rw [here] at few
      simp only [Phase.unsent, if_true] at few
      refine tried.moved rfl rfl ⟨tries.left, ?_, ?_, fun absurd => Phase.noConfusion absurd⟩
      · simp only [Phase.unsent, Bool.false_eq_true, if_false, List.length_append,
          List.length_singleton]
        omega
      · intro report listed
        rcases List.mem_append.mp listed with earlier | last
        · exact tries.same report earlier
        · rw [List.mem_singleton] at last
          rw [last]
          exact (tries.ready here).symm
  | failed call whole ret held here bad =>
      have tries := tried.call call held
      have few := tries.few
      rw [here] at few
      exact tried.moved rfl rfl
        ⟨tries.left, Nat.le_succ_of_le few, tries.same, fun absurd => Phase.noConfusion absurd⟩
  | timeOut call held here =>
      have tries := tried.call call held
      have few := tries.few
      rw [here] at few
      exact tried.moved rfl rfl ⟨tries.left, few, tries.same, fun absurd => Phase.noConfusion absurd⟩
  | note call uncounted ret held here =>
      have tries := tried.call call held
      have few := tries.few
      rw [here] at few
      exact tried.moved rfl rfl ⟨tries.left, few, tries.same, fun absurd => Phase.noConfusion absurd⟩
  | receive report idle => exact tried.kept rfl rfl
  | pass report question phase at_hand unasked => exact tried.kept rfl rfl
  | check report frame asked => exact tried.kept rfl rfl
  | stray report frame phase asked gone => exact tried.kept rfl rfl
  | ignore report frame call asked own other =>
      have tries := tried.call call (callOf_eq_some.mp own).1
      exact tried.moved rfl rfl ⟨tries.left, tries.few, tries.same, tries.ready⟩
  | take report frame call asked own answers => exact tried.kept rfl rfl
  | store report frame call asked own =>
      have tries := tried.call call (callOf_eq_some.mp own).1
      exact tried.moved rfl rfl ⟨tries.left, tries.few, tries.same, tries.ready⟩
  | announce report frame asked => exact tried.kept rfl rfl

theorem tried_of_reachable {guard : State → Event → Prop}
    (reachable : (system dd).ReachableUnder guard state) : Tried state := by
  apply reachable.invariant
  · rintro start rfl
    refine ⟨?_, ?_⟩
    · intro call held
      cases held
    · intro returned listed
      cases listed
  · intro current event next tried _ stepped
    exact tried.step (stepped_of_step stepped)

end Attempts

section Laws

variable {dd : Bool} {state : State}

/-- In every run the pointer names the frame of the caller that holds the lock, no report is
heard twice, and no command goes to the wheel more than three times, be it under way or done. -/
theorem pointer_law (reachable : (system dd).Reachable state) :
    (∀ frame, state.sendReceiveBuf = some frame →
      ∃ call, state.holder = some (.call call) ∧ call.frame = frame) ∧
      state.accounted.Sublist state.received ∧
        (∀ call, state.holder = some (.call call) → call.Tried) ∧
          ∀ returned ∈ state.returned, returned.Tried := by
  have owned := owned_of_reachable reachable
  have tried := tried_of_reachable reachable
  refine ⟨?_, owned.once, fun call held => (tried.call call held).tried, tried.returned⟩
  intro frame named
  rcases owned.buffer frame named with ⟨call, held, own, -⟩
  exact ⟨call, held, own⟩

/-- What a caller gets is the result of a report that came in while its question stood, and an
answer that is no error has the question's device, feature and function. -/
theorem answer_law (reachable : (system dd).ReachableUnder Undisturbed state) :
    state.strayed = false ∧ ∀ returned ∈ state.returned, 0 ≤ returned.ret →
      Answered dd returned.question returned.heard returned.ret returned.response ∧
        returned.response ∈ returned.heard ∧
          (¬returned.response.IsError →
            matchAnswer dd returned.question returned.response = true) := by
  have sound := sound_of_reachable reachable
  refine ⟨sound.clean, ?_⟩
  intro returned listed good
  have answered := sound.returned returned listed good
  refine ⟨answered, ?_⟩
  rcases answered with ⟨early, late, whole, hit, -, response⟩
  rw [response]
  apply (listen_spec dd returned.question returned.heard).2
  rw [whole]
  exact listen_hit early late hit

def wakeUp : Report := ⟨reportIdHidppShort, 0, 0x05, 0x1a, [1]⟩

/-- The first attempt finds the wheel busy; a report on the pedals comes in before the answer. -/
def busyWheel : List Event :=
  [.lock wakeUp .zero, .proceed, .proceed, .proceed, .send true,
    .receive ⟨reportIdHidppVeryLong, 0xff, hidpp20Error, 0x05, [0x1a, 8]⟩,
    .handle, .handle, .handle, .handle, .proceed, .proceed, .proceed, .proceed, .send true,
    .receive ⟨reportIdHidppVeryLong, 0x02, 0x05, 0x10, [9]⟩, .handle, .handle,
    .receive ⟨reportIdHidppVeryLong, 0xff, 0x05, 0x10, [7]⟩, .handle, .handle, .handle, .handle,
    .proceed, .note false, .proceed, .proceed]

theorem pointer_law_busy : ∃ state, (system true).Reachable state ∧
    state.returned.map (fun returned => returned.sent.length) = [2] ∧
      ∀ returned ∈ state.returned, returned.Tried := by
  have executed : (system true).run .fresh busyWheel = some _ := rfl
  have reachable := System.Reachable.of_run _ busyWheel rfl executed
  exact ⟨_, reachable, rfl, (pointer_law reachable).2.2.2⟩

theorem answer_law_busy : ∃ state, (system true).ReachableUnder Undisturbed state ∧
    state.returned.map (fun returned => (returned.ret, returned.response.params)) = [(0, [7])] ∧
      state.strayed = false := by
  have executed : (system true).run .fresh busyWheel = some _ := rfl
  have initial : (system true).ReachableUnder Undisturbed .fresh := .of_initial rfl
  have reachable := initial.run executed (by decide)
  exact ⟨_, reachable, rfl, (answer_law reachable).1⟩

/-- A handler that is underway when the wait runs out uses the frame of a caller that is gone. -/
example : ((system true).run .fresh
    [.lock wakeUp .zero, .proceed, .proceed, .proceed, .send true,
      .receive ⟨reportIdHidppVeryLong, 0xff, 0x05, 0x10, [7]⟩, .handle, .timeOut, .note false,
      .proceed, .proceed, .handle]).any State.strayed = true := by
  decide

end Laws

end TrueForce.Hidpp.Transport
