import TrueForce.Foundation.Transition
import TrueForce.Hidpp.Requests

/-!
# Requests, answers and the reports in between

A process makes one call after the other on an open HID++ node.  The wheel answers
each request whenever it likes, once, with a report that echoes the request's
header; any other report may arrive at any time.  A read that times out leaves its
reader behind, which may take a later report.  Nothing in a report tells which of
two requests with one header it answers.
-/

namespace TrueForce.Hidpp

open TrueForce.Dialogue TrueForce.Transition

inductive Call where
  | resolveFeatureIndex (featureId : UInt16)
  | entityCount (featureIndex : UInt8)
  | fwEntity (featureIndex entity : UInt8)
  | enumerateFeatures
  | revState (idx : UInt8) (reads : ℕ)
  | revSend (idx function p0 : UInt8)

namespace Call

abbrev Result : Call → Type
  | .resolveFeatureIndex _ | .entityCount _ | .revState _ _ => Option UInt8
  | .fwEntity _ _ => Option FwEntity
  | .enumerateFeatures => Option (List (UInt8 × UInt16))
  | .revSend _ _ _ => Bool

def program (longOnly : Bool) : (call : Call) → Conversation call.Result
  | .resolveFeatureIndex featureId => Hidpp.resolveFeatureIndex longOnly featureId
  | .entityCount featureIndex => Hidpp.entityCount longOnly featureIndex
  | .fwEntity featureIndex entity => Hidpp.fwEntity longOnly featureIndex entity
  | .enumerateFeatures => Hidpp.enumerateFeatures longOnly
  | .revState idx reads => Hidpp.revState longOnly idx reads
  | .revSend idx function p0 => Hidpp.revSend longOnly idx function p0

/-- The check by which a call takes a report for the answer to a question. -/
def takes : Call → Bytes → Bytes → Bool
  | .revState idx _ => fun _ => takesState idx
  | _ => echoes

/-- What a call returns is read off answers to questions of its own. -/
def FromAnswers (longOnly : Bool) (answered : Bytes → Bytes → Prop) :
    (call : Call) → call.Result → Prop
  | .resolveFeatureIndex featureId => fun result => ∀ idx, result = some idx →
      ∃ report, (report.drop 4).head? = some idx ∧
        answered (requestReport longOnly deviceIndexBase rootFeatureIndex fnGetInfo
          (getFeatureParams featureId)) report
  | .entityCount featureIndex => fun result => ∀ count, result = some count →
      ∃ report, (report.drop 4).head? = some count ∧
        answered (requestReport longOnly deviceIndexBase featureIndex fnGetInfo []) report
  | .fwEntity featureIndex entity => fun result => ∀ fw, result = some fw →
      ∃ report, FwEntity.parse (report.drop 4) = some fw ∧
        answered (requestReport longOnly deviceIndexBase featureIndex fnGet [entity]) report
  | .enumerateFeatures => fun result => ∀ entries, result = some entries → ∃ setIndex,
      (∃ report, (report.drop 4).head? = some setIndex ∧
        answered (requestReport longOnly deviceIndexBase rootFeatureIndex fnGetInfo
          (getFeatureParams featureSet)) report) ∧
      ∀ entry ∈ entries, FeatureTold longOnly setIndex answered entry
  | .revState idx _ => fun result => ∀ state, result = some state →
      ∃ report, report[4]? = some state ∧ answered (revReport longOnly idx 2 0) report
  | .revSend _ _ _ => fun _ => True

theorem FromAnswers.mono {longOnly : Bool} {answered more : Bytes → Bytes → Prop} {call : Call}
    {result : call.Result} (told : FromAnswers longOnly answered call result)
    (grows : ∀ question report, answered question report → more question report) :
    FromAnswers longOnly more call result := by
  cases call with
  | resolveFeatureIndex | entityCount | fwEntity | revState =>
      intro value returned
      rcases told value returned with ⟨report, shape, entered⟩
      exact ⟨report, shape, grows _ _ entered⟩
  | enumerateFeatures =>
      intro entries returned
      rcases told entries returned with ⟨setIndex, ⟨report, first, entered⟩, listed⟩
      exact ⟨setIndex, ⟨report, first, grows _ _ entered⟩,
        fun entry mem => (listed entry mem).mono grows⟩
  | revSend => trivial

theorem program_ensures (longOnly : Bool) (call : Call) (record : Record Bytes) :
    Program.Ensures call.takes
      (fun after result => call.FromAnswers longOnly after.has result)
      record (call.program longOnly) := by
  cases call with
  | resolveFeatureIndex featureId =>
      exact (resolveFeatureIndex_ensures featureId).mono fun _ _ both => both.2
  | entityCount featureIndex => exact entityCount_ensures featureIndex
  | fwEntity featureIndex entity => exact fwEntity_ensures featureIndex entity
  | enumerateFeatures => exact enumerateFeatures_ensures
  | revState idx reads => exact revState_ensures idx reads
  | revSend idx function p0 => exact ⟨trivial, trivial⟩

end Call

/-- A report, and the request it answers. -/
structure Arrival where
  report : Bytes
  answers : Option ℕ

structure Running where
  call : Call
  /-- The requests sent before this call. -/
  first : ℕ
  program : Conversation call.Result
  record : Record Bytes

structure Returned where
  call : Call
  first : ℕ
  last : ℕ
  result : call.Result

structure State where
  requests : List Bytes
  answered : List (ℕ × Bytes)
  queue : List Arrival
  /-- Readers left behind by reads that timed out. -/
  readers : ℕ
  running : Option Running
  returned : List Returned

inductive Event where
  | start (call : Call)
  | write (ok : Bool)
  | answer (request : ℕ) (report : Bytes)
  | unrelated (report : Bytes)
  | read
  | timeOut
  | fail
  | steal
  | finish

namespace State

def fresh : State :=
  { requests := [], answered := [], queue := [], readers := 0, running := none, returned := [] }

def arrive (state : State) (arrival : Arrival) : State :=
  { state with queue := state.queue ++ [arrival] }

/-- The running call goes on with what its read came to. -/
def resume (state : State) (running : Running) (next : Option Bytes → Conversation running.call.Result)
    (report : Option Bytes) : State :=
  { state with running := some { running with
      program := next report
      record := match report with
        | none => running.record
        | some report => running.record.enter running.call.takes report } }

end State

/-- One thing that happens between a process and a wheel, which answers as `wheel` has it. -/
def step (longOnly : Bool) (wheel : Bytes → Bytes → Bool) (state : State) :
    Event → Option State
  | .start call =>
      if state.running.isNone then
        some { state with running := some {
          call, first := state.requests.length, program := call.program longOnly,
          record := Record.blank } }
      else none
  | .write ok =>
      match state.running with
      | some ⟨call, first, .write report next, record⟩ =>
          if ok then
            some { state with
              requests := state.requests ++ [report]
              running := some ⟨call, first, next true, record.ask report⟩ }
          else some { state with running := some ⟨call, first, next false, record⟩ }
      | _ => none
  | .answer request report =>
      match state.requests[request]? with
      | some question =>
          if (state.answered.map Prod.fst).contains request = false ∧
              echoes question report = true ∧ wheel question report = true then
            some ({ state with answered := (request, report) :: state.answered }.arrive
              ⟨report, some request⟩)
          else none
      | none => none
  | .unrelated report => some (state.arrive ⟨report, none⟩)
  | .read =>
      match state.running, state.queue with
      | some ⟨call, first, .read next, record⟩, arrival :: queue =>
          some ({ state with queue }.resume ⟨call, first, .read next, record⟩ next
            (some arrival.report))
      | _, _ => none
  | .timeOut =>
      match state.running with
      | some ⟨call, first, .read next, record⟩ =>
          some ({ state with readers := state.readers + 1 }.resume
            ⟨call, first, .read next, record⟩ next none)
      | _ => none
  | .fail =>
      match state.running with
      | some ⟨call, first, .read next, record⟩ =>
          some (state.resume ⟨call, first, .read next, record⟩ next none)
      | _ => none
  | .steal =>
      match state.readers, state.queue with
      | readers + 1, _ :: queue => some { state with readers, queue }
      | _, _ => none
  | .finish =>
      match state.running with
      | some ⟨call, first, .done result, _⟩ =>
          some { state with
            running := none
            returned := ⟨call, first, state.requests.length, result⟩ :: state.returned }
      | _ => none

def system (longOnly : Bool) (wheel : Bytes → Bytes → Bool) : System State Event where
  initial := (· = State.fresh)
  step := step longOnly wheel

/-- One of the requests from `first` on and before `last`, and the wheel's answer to it. -/
def Exchanged (state : State) (first last : ℕ) (question report : Bytes) : Prop :=
  ∃ request, first ≤ request ∧ request < last ∧ state.requests[request]? = some question ∧
    (request, report) ∈ state.answered

/-- The feature that a wheel has at an index, by what it answers of its feature set. -/
def HasFeatures (longOnly : Bool) (wheel : Bytes → Bytes → Bool) (features : UInt8 → UInt16) :
    Prop :=
  ∀ setIndex report, wheel (requestReport longOnly deviceIndexBase rootFeatureIndex fnGetInfo
      (getFeatureParams featureSet)) report = true → (report.drop 4).head? = some setIndex →
    ∀ i answer high low rest,
      wheel (requestReport longOnly deviceIndexBase setIndex fnGet [i]) answer = true →
      answer.drop 4 = high :: low :: rest → beWord high low = features i

/-- What a call returned is the wheel's answer to that call's own requests. -/
structure Returned.Genuine (longOnly : Bool) (wheel : Bytes → Bytes → Bool) (state : State)
    (returned : Returned) : Prop where
  fromAnswers : returned.call.FromAnswers longOnly
    (Exchanged state returned.first returned.last) returned.result
  ofWheel : ∀ entries, (⟨returned.call, returned.result⟩ : (call : Call) × call.Result) =
      ⟨.enumerateFeatures, some entries⟩ →
    ∀ features, HasFeatures longOnly wheel features →
      ∀ entry ∈ entries, entry.2 = features entry.1

def Genuine (longOnly : Bool) (wheel : Bytes → Bytes → Bool) (state : State) : Prop :=
  ∀ returned ∈ state.returned, returned.Genuine longOnly wheel state

/-- A report that answers no request, or one sent before the last. -/
def Arrival.IsStray (state : State) (arrival : Arrival) : Prop :=
  ∀ request ∈ arrival.answers, request + 1 < state.requests.length

instance (state : State) (arrival : Arrival) : Decidable (arrival.IsStray state) :=
  inferInstanceAs (Decidable (∀ request ∈ arrival.answers, request + 1 < state.requests.length))

/-- A call that reads does not find a stray report next that it takes for its answer. -/
def FindsNoStray (state : State) : Prop :=
  ∀ arrival ∈ state.queue.head?, ∀ running ∈ state.running,
    ∀ question ∈ running.record.asked,
      running.call.takes question arrival.report = true → ¬arrival.IsStray state

instance (state : State) : Decidable (FindsNoStray state) :=
  inferInstanceAs (Decidable (∀ arrival ∈ state.queue.head?, ∀ running ∈ state.running,
    ∀ question ∈ running.record.asked,
      running.call.takes question arrival.report = true → ¬arrival.IsStray state))

def Undeceived (state : State) : Event → Prop
  | .read => FindsNoStray state
  | _ => True

instance (state : State) : ∀ event, Decidable (Undeceived state event)
  | .read => inferInstanceAs (Decidable (FindsNoStray state))
  | .start _ | .write _ | .answer _ _ | .unrelated _ | .timeOut | .fail | .steal | .finish =>
      inferInstanceAs (Decidable True)

/-- What is so of a running call. -/
structure Running.Sound (longOnly : Bool) (state : State) (running : Running) : Prop where
  started : running.first ≤ state.requests.length
  asked : ∀ question, running.record.asked = some question →
    running.first < state.requests.length ∧
    state.requests[state.requests.length - 1]? = some question
  answered : ∀ question report, running.record.has question report →
    Exchanged state running.first state.requests.length question report
  ensures : Program.Ensures running.call.takes
    (fun after result => running.call.FromAnswers longOnly after.has result)
    running.record running.program

structure Sound (longOnly : Bool) (wheel : Bytes → Bytes → Bool) (state : State) : Prop where
  queued : ∀ arrival ∈ state.queue, ∀ request, arrival.answers = some request →
    (request, arrival.report) ∈ state.answered
  answered : ∀ request report, (request, report) ∈ state.answered →
    ∃ question, state.requests[request]? = some question ∧ wheel question report = true
  running : ∀ running, state.running = some running → running.Sound longOnly state
  returned : ∀ returned ∈ state.returned, returned.call.FromAnswers longOnly
    (Exchanged state returned.first returned.last) returned.result

section Soundness

variable {longOnly : Bool} {wheel : Bytes → Bytes → Bool} {state next : State}

/-- Requests and answers are only ever added. -/
structure Extends (state next : State) : Prop where
  requests : ∀ (request : ℕ) (question : Bytes), state.requests[request]? = some question →
    next.requests[request]? = some question
  answered : state.answered ⊆ next.answered

theorem Extends.of_eq (requests : next.requests = state.requests)
    (answered : next.answered = state.answered) : Extends state next := by
  refine ⟨?_, ?_⟩
  · rw [requests]
    exact fun _ _ sent => sent
  · rw [answered]
    exact List.Subset.refl _

theorem Exchanged.extend {first last further : ℕ} {question report : Bytes}
    (exchanged : Exchanged state first last question report) (grown : Extends state next)
    (later : last ≤ further) : Exchanged next first further question report := by
  rcases exchanged with ⟨request, own, before, sent, answered⟩
  exact ⟨request, own, Nat.lt_of_lt_of_le before later, grown.requests request question sent,
    grown.answered answered⟩

theorem Sound.returned_extend (sound : Sound longOnly wheel state) (grown : Extends state next) :
    ∀ returned ∈ state.returned, returned.call.FromAnswers longOnly
      (Exchanged next returned.first returned.last) returned.result :=
  fun returned listed => (sound.returned returned listed).mono
    fun _ _ exchanged => exchanged.extend grown (Nat.le_refl _)

theorem Running.Sound.extend {running : Running} (sound : running.Sound longOnly state)
    (grown : Extends state next) (same : next.requests = state.requests) :
    running.Sound longOnly next := by
  rcases sound with ⟨started, asked, answered, ensures⟩
  refine ⟨?_, ?_, ?_, ensures⟩
  · rw [same]
    exact started
  · rw [same]
    exact asked
  · intro question report entered
    exact (answered question report entered).extend grown (by rw [same])

theorem extends_answer (state : State) (request : ℕ) (report : Bytes) :
    Extends state ({ state with answered := (request, report) :: state.answered }.arrive
      ⟨report, some request⟩) :=
  ⟨fun _ _ sent => sent, List.subset_cons_self _ _⟩

theorem extends_write (state : State) (report : Bytes) (running : Option Running) :
    Extends state { state with requests := state.requests ++ [report], running } := by
  refine ⟨fun request question sent => ?_, List.Subset.refl _⟩
  rw [List.getElem?_append_left (List.getElem?_eq_some_iff.mp sent).1]
  exact sent

theorem sound_fresh : Sound longOnly wheel State.fresh where
  queued := by simp [State.fresh]
  answered := by simp [State.fresh]
  running := by simp [State.fresh]
  returned := by simp [State.fresh]

theorem Running.Sound.start (call : Call) : Running.Sound longOnly state {
    call, first := state.requests.length, program := call.program longOnly,
    record := Record.blank } where
  started := Nat.le_refl _
  asked _ none := nomatch none
  answered _ _ entered := by simp [Record.has, Record.blank] at entered
  ensures := call.program_ensures longOnly _

theorem Running.Sound.sent {call : Call} {first : ℕ} {report : Bytes}
    {next : Bool → Conversation call.Result} {record : Record Bytes}
    (sound : Running.Sound longOnly state ⟨call, first, .write report next, record⟩)
    (running : Option Running) :
    Running.Sound longOnly { state with requests := state.requests ++ [report], running }
      ⟨call, first, next true, record.ask report⟩ := by
  have started : first ≤ state.requests.length := sound.started
  refine ⟨?_, ?_, ?_, sound.ensures.2⟩
  · simp only [List.length_append, List.length_singleton]
    omega
  · rintro question ⟨⟩
    simp only [List.length_append, List.length_singleton, Nat.add_sub_cancel,
      List.getElem?_concat_length, and_true]
    omega
  · intro question answer entered
    exact (sound.answered question answer entered).extend (extends_write state report running)
      (by simp)

/-- The next report is entered only where it answers the request sent last. -/
theorem Running.Sound.resumed {call : Call} {first : ℕ} {record : Record Bytes}
    {next : Option Bytes → Conversation call.Result} {arrival : Arrival} {queue : List Arrival}
    (sound : Hidpp.Sound longOnly wheel state)
    (running : state.running = some ⟨call, first, .read next, record⟩)
    (queued : state.queue = arrival :: queue) (undeceived : FindsNoStray state) :
    Running.Sound longOnly state
      ⟨call, first, next (some arrival.report), record.enter call.takes arrival.report⟩ := by
  have current := sound.running _ running
  rcases current with ⟨started, asked, answered, ensures⟩
  refine ⟨started, ?_, ?_, ensures.2 arrival.report⟩
  · intro question waiting
    apply asked
    simp only [Record.enter] at waiting
    split at waiting
    · exact waiting
    · split at waiting <;> exact waiting
  · intro question report entered
    simp only [Record.has, Record.enter] at entered
    split at entered
    · exact answered question report entered
    · rename_i last lastAsked
      split at entered
      · rename_i taken
        rcases List.mem_cons.mp entered with new | old
        · cases new
          have genuine := undeceived arrival (by rw [queued]; rfl) _ running question
            lastAsked taken
          simp only [Arrival.IsStray, Option.mem_def, not_forall, Nat.not_lt] at genuine
          rcases genuine with ⟨request, answers, latest⟩
          have entry := sound.queued arrival (by simp [queued]) request answers
          rcases sound.answered _ _ entry with ⟨other, sent, -⟩
          have inside := (List.getElem?_eq_some_iff.mp sent).1
          rcases asked question lastAsked with ⟨own, lastSent⟩
          have begun : first < state.requests.length := own
          have ours : first ≤ request := by omega
          have here : request = state.requests.length - 1 := by omega
          exact ⟨request, ours, inside, here ▸ lastSent, entry⟩
        · exact answered question report old
      · exact answered question report entered

theorem Running.Sound.unread {call : Call} {first : ℕ} {record : Record Bytes}
    {next : Option Bytes → Conversation call.Result}
    (sound : Running.Sound longOnly state ⟨call, first, .read next, record⟩) :
    Running.Sound longOnly state ⟨call, first, next none, record⟩ :=
  ⟨sound.started, sound.asked, sound.answered, sound.ensures.1⟩

theorem Sound.step {event : Event} (sound : Sound longOnly wheel state)
    (undeceived : Undeceived state event) (stepped : step longOnly wheel state event = some next) :
    Sound longOnly wheel next := by
  rcases sound with ⟨queued, answered, running, returned⟩
  have whole : Sound longOnly wheel state := ⟨queued, answered, running, returned⟩
  cases event with
  | start call =>
      simp only [Hidpp.step, Option.ite_none_right_eq_some, Option.some.injEq] at stepped
      rcases stepped with ⟨-, rfl⟩
      refine ⟨queued, answered, ?_, returned⟩
      rintro _ ⟨⟩
      exact .start call
  | write ok =>
      simp only [Hidpp.step] at stepped
      split at stepped
      · rename_i call first report rest record current
        split at stepped
        · cases stepped
          have grown := extends_write state report
            (some ⟨call, first, rest true, record.ask report⟩)
          refine ⟨queued, ?_, ?_, whole.returned_extend grown⟩
          · intro request answer listed
            rcases answered request answer listed with ⟨question, sent, allowed⟩
            exact ⟨question, grown.requests request question sent, allowed⟩
          · rintro _ ⟨⟩
            exact (running _ current).sent _
        · cases stepped
          refine ⟨queued, answered, ?_, returned⟩
          rintro _ ⟨⟩
          have unsent := running _ current
          exact ⟨unsent.started, unsent.asked, unsent.answered, unsent.ensures.1⟩
      · cases stepped
  | answer request report =>
      simp only [Hidpp.step] at stepped
      split at stepped
      · rename_i question sent
        simp only [Option.ite_none_right_eq_some, Option.some.injEq] at stepped
        rcases stepped with ⟨⟨-, -, allowed⟩, rfl⟩
        have grown := extends_answer state request report
        refine ⟨?_, ?_, ?_, whole.returned_extend grown⟩
        · intro arrival listed other answers
          rcases List.mem_append.mp listed with old | new
          · exact List.mem_cons_of_mem _ (queued arrival old other answers)
          · rw [List.mem_singleton] at new
            subst new
            cases answers
            exact List.mem_cons_self
        · intro other answer listed
          rcases List.mem_cons.mp listed with new | old
          · cases new
            exact ⟨question, sent, allowed⟩
          · exact answered other answer old
        · exact fun current found => (running current found).extend grown rfl
      · cases stepped
  | unrelated report =>
      cases stepped
      refine ⟨?_, answered, ?_, returned⟩
      · intro arrival listed request answers
        rcases List.mem_append.mp listed with old | new
        · exact queued arrival old request answers
        · rw [List.mem_singleton] at new
          subst new
          cases answers
      · exact fun current found => (running current found).extend (.of_eq rfl rfl) rfl
  | read =>
      simp only [Hidpp.step] at stepped
      split at stepped
      · rename_i call first rest record arrival queue current inQueue
        cases stepped
        refine ⟨?_, answered, ?_, returned⟩
        · intro other listed
          exact queued other (by rw [inQueue]; exact List.mem_cons_of_mem _ listed)
        · rintro _ ⟨⟩
          exact (Running.Sound.resumed whole current inQueue undeceived).extend (.of_eq rfl rfl) rfl
      · cases stepped
  | timeOut | fail =>
      simp only [Hidpp.step] at stepped
      split at stepped
      · rename_i call first rest record current
        cases stepped
        refine ⟨queued, answered, ?_, returned⟩
        rintro _ ⟨⟩
        exact (running _ current).unread.extend (.of_eq rfl rfl) rfl
      · cases stepped
  | steal =>
      simp only [Hidpp.step] at stepped
      split at stepped
      · rename_i readers lost queue _ inQueue
        cases stepped
        refine ⟨?_, answered, ?_, returned⟩
        · intro other listed
          exact queued other (by rw [inQueue]; exact List.mem_cons_of_mem _ listed)
        · exact fun current found => (running current found).extend (.of_eq rfl rfl) rfl
      · cases stepped
  | finish =>
      simp only [Hidpp.step] at stepped
      split at stepped
      · rename_i call first result record current
        cases stepped
        refine ⟨queued, answered, by simp, ?_⟩
        intro ended listed
        rcases List.mem_cons.mp listed with new | old
        · subst new
          have last := running _ current
          have told : call.FromAnswers longOnly record.has result := last.ensures
          exact told.mono last.answered
        · exact returned ended old
      · cases stepped

theorem sound_of_reachable
    (reachable : (system longOnly wheel).ReachableUnder Undeceived state) :
    Sound longOnly wheel state :=
  reachable.invariant (fun _ fresh => fresh ▸ sound_fresh)
    fun _ _ _ sound undeceived stepped => sound.step undeceived stepped

/-- An exchange is as the wheel answers. -/
theorem Sound.allowed {first last : ℕ} {question report : Bytes}
    (sound : Sound longOnly wheel state)
    (exchanged : Exchanged state first last question report) : wheel question report = true := by
  rcases exchanged with ⟨request, -, -, sent, answered⟩
  rcases sound.answered request report answered with ⟨other, same, allowed⟩
  rw [sent, Option.some.injEq] at same
  exact same ▸ allowed

/-- In a run in which no call takes a stray report for its answer, what calls return is
the wheel's answer to their own requests. -/
theorem answers_belong_to_questions
    (reachable : (system longOnly wheel).ReachableUnder Undeceived state) :
    Genuine longOnly wheel state := by
  have sound := sound_of_reachable reachable
  intro returned listed
  have told := sound.returned returned listed
  refine ⟨told, ?_⟩
  rcases returned with ⟨call, first, last, result⟩
  rintro entries ⟨⟩ features has entry mem
  rcases told entries rfl with ⟨setIndex, ⟨report, resolved, asked⟩, each⟩
  rcases each entry mem with ⟨answer, high, low, rest, shape, word, exchanged⟩
  rw [word]
  exact has setIndex report (sound.allowed asked) resolved entry.1 answer high low rest
    (sound.allowed exchanged) shape

end Soundness

/-- The parameters of its answers: `FeatureSet` is at index 1 and the device information at 2. -/
def twoFeatureParams (question : Bytes) : Bytes :=
  if question[2]? = some rootFeatureIndex then [1]
  else if question[3]? = some (fnGetInfo ||| swId) then [2]
  else if question[4]? = some 1 then [0x00, 0x01]
  else [0x00, 0x03]

def twoFeatureAnswer (question : Bytes) : Bytes :=
  reportIdLong :: (question.drop 1).take 3 ++ padded (twoFeatureParams question) 16

def twoFeatureWheel (question report : Bytes) : Bool := report = twoFeatureAnswer question

/-- A short request, as `enumerate_features` sends them to that wheel. -/
def asked (featureIndex function : UInt8) (params : Bytes) : Bytes :=
  shortReport deviceIndexBase featureIndex function params

/-- The first two requests of `enumerate_features` and their answers. -/
def countTold : List Event :=
  [.start .enumerateFeatures, .write true,
    .answer 0 (twoFeatureAnswer (asked rootFeatureIndex fnGetInfo [0x00, 0x01])), .read,
    .write true, .answer 1 (twoFeatureAnswer (asked 1 fnGetInfo [])), .read]

def enumerated (entries : List (UInt8 × UInt16)) (state : State) : Bool :=
  state.returned.any fun returned =>
    match returned with
    | ⟨.enumerateFeatures, _, _, some found⟩ => found = entries
    | _ => false

theorem listed_of_enumerated {entries : List (UInt8 × UInt16)} {state : State}
    (done : enumerated entries state = true) :
    ∃ returned ∈ state.returned, (⟨returned.call, returned.result⟩ : (call : Call) × call.Result) =
      ⟨.enumerateFeatures, some entries⟩ := by
  rcases List.any_eq_true.mp done with ⟨returned, listed, matched⟩
  refine ⟨returned, listed, ?_⟩
  split at matched
  · rw [decide_eq_true_eq] at matched
    subst matched
    rfl
  · cases matched

theorem hasFeatures_twoFeatureWheel :
    HasFeatures false twoFeatureWheel fun i => if i = 1 then 0x0001 else 0x0003 := by
  intro setIndex report answered first i answer high low rest told shape
  simp only [twoFeatureWheel, decide_eq_true_eq] at answered told
  subst answered told
  cases first
  by_cases one : i = 1
  · subst one
    cases shape
    rfl
  · have params : twoFeatureParams (requestReport false deviceIndexBase 1 fnGet [i]) =
        [0x00, 0x03] := by
      rcases requestReport_header false deviceIndexBase 1 fnGet [i] with
        ⟨-, feature, function⟩
      have index : (requestReport false deviceIndexBase 1 fnGet [i])[4]? = some i := rfl
      rw [twoFeatureParams, feature, function, index, if_neg (by decide), if_neg (by decide),
        if_neg (by simpa using one)]
    rw [twoFeatureAnswer, params] at shape
    cases shape
    exact (if_neg one).symm

theorem enumeration_is_told :
    ∃ state, enumerated [(1, 0x0001), (2, 0x0003)] state = true ∧
      Genuine false twoFeatureWheel state := by
  rcases System.ReachableUnder.of_check (system false twoFeatureWheel) Undeceived State.fresh
    (countTold ++ [.write true, .answer 2 (twoFeatureAnswer (asked 1 fnGet [1])), .read,
      .write true, .answer 3 (twoFeatureAnswer (asked 1 fnGet [2])), .read, .finish])
    (enumerated [(1, 0x0001), (2, 0x0003)]) rfl (by decide) (by decide)
    with ⟨state, reachable, done⟩
  exact ⟨state, done, answers_belong_to_questions reachable⟩

/-- The answer to a request that timed out is taken for the answer to the next. -/
theorem late_answer_names_another_feature :
    ¬∀ (longOnly : Bool) (wheel : Bytes → Bytes → Bool) (state : State),
      (system longOnly wheel).Reachable state → Genuine longOnly wheel state := by
  intro law
  rcases System.ReachableUnder.of_check (system false twoFeatureWheel) System.anyStep State.fresh
    (countTold ++ [.write true, .timeOut, .write true,
      .answer 2 (twoFeatureAnswer (asked 1 fnGet [1])), .read, .finish])
    (enumerated [(2, 0x0001)]) rfl (by decide) (System.runMeets_anyStep _ _)
    with ⟨state, reachable, done⟩
  rcases listed_of_enumerated done with ⟨returned, listed, same⟩
  have named := (law false twoFeatureWheel state reachable returned listed).ofWheel _ same _
    hasFeatures_twoFeatureWheel (2, 0x0001) (by simp)
  exact absurd named (by decide)

end TrueForce.Hidpp
