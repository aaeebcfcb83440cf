import TrueForce.Hidpp.TransportLaw
import TrueForce.Hidpp.Requests

/-!
# Where the wheel keeps a feature

The driver asks the wheel for the index of a feature, and the answer does not say which
feature was asked for: one that comes in late passes for the answer to the next question.  So
the driver asks the feature set which feature the index holds, and asks once more where it is
another one.
-/

namespace TrueForce.Hidpp.Transport

def linuxKernelSwId : UInt8 := 0x0a

def hidppPageRootIdx : UInt8 := 0x00

def cmdRootGetFeature : UInt8 := 0x00

def hidppPageFeatureSet : UInt16 := 0x0001

def hidppPageFeatureSetIdx : UInt8 := 0x01

def cmdFeatureSetGetFeatureId : UInt8 := 0x10

def enoent : ℤ := 2

def eio : ℤ := 5

def einval : ℤ := 22

/-- What becomes of an attempt: whether the message goes out, and how many of the wheel's reports
come in before the wait is over and before the frame is taken away. -/
structure Timing where
  whole : Bool
  early : ℕ
  late : ℕ
  deriving DecidableEq, Repr

structure World where
  timing : ℕ → Timing
  reply : ℕ → Report → Report

inductive FeatureSetState where
  | unasked
  | usable
  | unusable
  deriving DecidableEq, Repr

/-- `pending` are the wheel's replies that are still to come in, behind the questions they are
for.  `failedChecks` counts the questions to the feature set that got no feature for an answer. -/
structure Session where
  pending : List (Report × Report)
  attempts : ℕ
  featureSetState : FeatureSetState
  failedChecks : ℕ
  deriving DecidableEq, Repr

def Session.fresh : Session := ⟨[], 0, .unasked, 0⟩

/-- The result of an attempt, the response that it was read off and what the caller is left
with. -/
structure Exchange where
  ret : ℤ
  judged : Report
  response : Report
  deriving DecidableEq, Repr

section Lookup

variable (dd : Bool) (world : World)

/-- `__do_hidpp_send_message_sync` -/
def attempt (question : Report) (session : Session) : Exchange × Session :=
  let timing := world.timing session.attempts
  if timing.whole then
    let pending := session.pending ++ [(question, world.reply session.attempts question)]
    let early := listen dd question ((pending.take timing.early).map Prod.snd)
    let heard := listen dd question ((pending.take (timing.early + timing.late)).map Prod.snd)
    let session := { session with
      pending := pending.drop (timing.early + timing.late)
      attempts := session.attempts + 1 }
    if early.2 then (⟨outcome early.1, early.1, heard.1⟩, session)
    else (⟨-etimedout, .zero, .zero⟩, session)
  else (⟨-1, .zero, .zero⟩, { session with attempts := session.attempts + 1 })

/-- `hidpp_send_message_sync` with this many attempts more than one. -/
def sendMessageSync (question : Report) : ℕ → Session → Exchange × Session
  | 0, session => attempt dd world question session
  | more + 1, session =>
      let done := attempt dd world question session
      if again done.1.ret done.1.judged then sendMessageSync question more done.2 else done

def fapMessage (featIndex funcindexClientid : UInt8) (params : List UInt8) : Report where
  reportId :=
    if dd = true ∧ params.length ≤ 3 then reportIdHidppShort
    else if 16 < params.length then reportIdHidppVeryLong
    else reportIdHidppLong
  deviceIndex := 0
  featureIndex := featIndex
  funcindexClientid := funcindexClientid ||| linuxKernelSwId
  params := params

def sendFapCommandSync (featIndex funcindexClientid : UInt8) (params : List UInt8)
    (session : Session) : Exchange × Session :=
  if 60 < params.length then (⟨-einval, .zero, .zero⟩, session)
  else
    sendMessageSync dd world (fapMessage dd featIndex funcindexClientid params).addressed
      (maxRetries - 1) session

/-- `hidpp_feature_id_at` -/
def featureIdAt (index : UInt8) (session : Session) : Except ℤ UInt16 × Session :=
  let done := sendFapCommandSync dd world hidppPageFeatureSetIdx cmdFeatureSetGetFeatureId [index]
    session
  if done.1.ret ≠ 0 then
    (.error (if done.1.ret < 0 then done.1.ret else -eio),
      { done.2 with failedChecks := done.2.failedChecks + 1 })
  else (.ok (beWord (done.1.response.param 0) (done.1.response.param 1)), done.2)

/-- The feature set is asked about itself first. -/
def ensureFeatureSet (session : Session) : Session :=
  if session.featureSetState = .unasked then
    let asked := featureIdAt dd world hidppPageFeatureSetIdx session
    match asked.1 with
    | .ok id =>
        { asked.2 with
          featureSetState := if id = hidppPageFeatureSet then .usable else .unusable }
    | .error _ => { asked.2 with featureSetState := .unusable }
  else session

/-- `hidpp_index_holds_feature` -/
def indexHoldsFeature (index : UInt8) (feature : UInt16) (session : Session) : Bool × Session :=
  let session := ensureFeatureSet dd world session
  if session.featureSetState ≠ .usable then (true, session)
  else
    let asked := featureIdAt dd world index session
    match asked.1 with
    | .error _ => (true, asked.2)
    | .ok id => (id == feature, asked.2)

/-- `hidpp_root_get_feature_once` -/
def rootGetFeatureOnce (feature : UInt16) (session : Session) : Except ℤ UInt8 × Session :=
  let done := sendFapCommandSync dd world hidppPageRootIdx cmdRootGetFeature
    (getFeatureParams feature) session
  if done.1.ret ≠ 0 then (.error done.1.ret, done.2)
  else if done.1.response.param 0 = 0 then (.error (-enoent), done.2)
  else (.ok (done.1.response.param 0), done.2)

/-- `hidpp_root_get_feature` -/
def rootGetFeature (feature : UInt16) (session : Session) : Except ℤ UInt8 × Session :=
  let first := rootGetFeatureOnce dd world feature session
  match first.1 with
  | .error ret => (.error ret, first.2)
  | .ok index =>
      if dd = false ∨ feature = hidppPageFeatureSet then (.ok index, first.2)
      else
        let checked := indexHoldsFeature dd world index feature first.2
        if checked.1 then (.ok index, checked.2)
        else
          let second := rootGetFeatureOnce dd world feature checked.2
          match second.1 with
          | .error ret => (.error ret, second.2)
          | .ok index =>
              let checked := indexHoldsFeature dd world index feature second.2
              if checked.1 then (.ok index, checked.2) else (.error (-enoent), checked.2)

/-- Lookups, other commands, and times when nobody waits. -/
inductive Operation where
  | lookup (feature : UInt16)
  | ask (question : Report)
  | idle (count : ℕ)
  deriving DecidableEq, Repr

abbrev Found := UInt16 × Except ℤ UInt8

def operate (told : List Found × Session) : Operation → List Found × Session
  | .lookup feature =>
      let found := rootGetFeature dd world feature told.2
      (told.1 ++ [(feature, found.1)], found.2)
  | .ask question =>
      (told.1, (sendMessageSync dd world question.addressed (maxRetries - 1) told.2).2)
  | .idle count => (told.1, { told.2 with pending := told.2.pending.drop count })

def session (operations : List Operation) : List Found × Session :=
  operations.foldl (operate dd world) ([], .fresh)

end Lookup

/-- What a wheel has where. -/
structure FeatureTable where
  holds : UInt8 → UInt16
  index : UInt16 → UInt8
  indexed : ∀ feature, index feature ≠ 0 → holds (index feature) = feature

namespace Report

/-- The first two parameters. -/
def word (report : Report) : UInt16 := beWord (report.param 0) (report.param 1)

def function (report : Report) : UInt8 := report.funcindexClientid &&& 0xf0

/-- The report is for a function of a feature that the wheel itself has. -/
def Asks (report : Report) (featureIndex function : UInt8) : Prop :=
  report.deviceIndex = 0xff ∧ report.featureIndex = featureIndex ∧ report.function = function

def IsRoot (report : Report) : Prop := report.Asks hidppPageRootIdx cmdRootGetFeature

def IsCheck (report : Report) : Prop :=
  report.Asks hidppPageFeatureSetIdx cmdFeatureSetGetFeatureId

/-- A command of the driver. -/
structure Ordinary (report : Report) : Prop where
  older : report.featureIndex ≠ hidppError
  newer : report.featureIndex ≠ hidpp20Error
  client : report.funcindexClientid &&& 0x0f = linuxKernelSwId

end Report

/-- The wheel's replies: an answer to the question, with the software's id or without, or an
error that names it. -/
inductive Answers (table : FeatureTable) (question reply : Report) : Prop
  | plain (device : reply.deviceIndex = question.deviceIndex) (kind : reply.IsShort ∨ reply.IsLong)
      (feature : reply.featureIndex = question.featureIndex)
      (function : reply.funcindexClientid = question.funcindexClientid ∨
        reply.funcindexClientid = question.function)
      (root : question.IsRoot → reply.param 0 = table.index question.word)
      (check : question.IsCheck → reply.word = table.holds (question.param 0))
  | error (device : reply.deviceIndex = question.deviceIndex)
      (kind : reply.IsShort ∧ reply.featureIndex = hidppError ∨
        reply.IsLong ∧ reply.featureIndex = hidpp20Error)
      (feature : reply.funcindexClientid = question.featureIndex)
      (function : reply.param 0 = question.funcindexClientid) (code : reply.param 1 ≠ 0)

def World.Honest (world : World) (table : FeatureTable) : Prop :=
  ∀ attempt question, question.Ordinary → Answers table question (world.reply attempt question)

section Wheel

variable {table : FeatureTable} {question other reply : Report}

theorem Answers.device (answers : Answers table question reply) :
    reply.deviceIndex = question.deviceIndex := by
  cases answers with
  | plain device => exact device
  | error device => exact device

theorem not_isError_of_ordinary (ordinary : question.Ordinary)
    (feature : reply.featureIndex = question.featureIndex) : ¬reply.IsError := by
  rw [Report.IsError, feature]
  rintro (older | newer)
  · exact ordinary.older older
  · exact ordinary.newer newer

/-- A reply passes for an answer to a question of the same device, feature and function only. -/
theorem Answers.same (answers : Answers table question reply) (ordinary : question.Ordinary)
    (plain : other.Ordinary) (taken : takes true other reply = true) :
    question.deviceIndex = other.deviceIndex ∧ question.featureIndex = other.featureIndex ∧
      question.function = other.function := by
  rw [takes, Bool.or_eq_true] at taken
  have client := ordinary.client
  have older := ordinary.older
  have newer := ordinary.newer
  have otherOlder := plain.older
  have otherNewer := plain.newer
  rw [Report.function, Report.function]
  cases answers with
  | plain device kind feature function =>
      have sane := not_isError_of_ordinary ordinary feature
      rcases taken with matched | matched
      · rw [matchAnswer] at matched
        rw [Report.function] at function
        grind
      · exact absurd (isError_of_matchError matched) sane
  | error device kind feature function code =>
      rcases taken with matched | matched
      · have same := featureIndex_of_matchAnswer matched
        rcases kind with ⟨-, named⟩ | ⟨-, named⟩
        · exact absurd (same.symm.trans named) otherOlder
        · exact absurd (same.symm.trans named) otherNewer
      · rw [matchError] at matched
        grind

end Wheel

section Attempt

variable {dd : Bool} {world : World} {table : FeatureTable} {question : Report}
  {session : Session} {heard : List Report}

theorem listen_of_missed (missed : ∀ report ∈ heard, takes dd question report = false) :
    listen dd question heard = (question, false) := by
  induction heard using List.reverseRecOn with
  | nil => rfl
  | append_singleton heard report ih =>
      have none := Bool.eq_false_iff.mp (missed report List.mem_concat_self)
      rw [listen_append, ih fun other listed => missed other (List.mem_append_left _ listed), hear,
        if_neg none]

/-- What an attempt makes of the reports that come in. -/
theorem attempt_of_good (good : 0 ≤ (attempt dd world question session).1.ret) :
    ∃ early late,
      let pending := session.pending ++ [(question, world.reply session.attempts question)]
      (listen dd question ((pending.take early).map Prod.snd)).2 = true ∧
        attempt dd world question session =
          (⟨outcome (listen dd question ((pending.take early).map Prod.snd)).1,
            (listen dd question ((pending.take early).map Prod.snd)).1,
            (listen dd question ((pending.take (early + late)).map Prod.snd)).1⟩,
          { session with
            pending := pending.drop (early + late)
            attempts := session.attempts + 1 }) := by
  have silent : ¬0 ≤ -etimedout := by decide
  have unsent : ¬(0 : ℤ) ≤ -1 := by decide
  refine ⟨(world.timing session.attempts).early, (world.timing session.attempts).late, ?_⟩
  simp only [attempt] at good ⊢
  split at good
  · rename_i whole
    split at good
    · rename_i hit
      rw [if_pos whole, if_pos hit]
      exact ⟨hit, rfl⟩
    · exact absurd good silent
  · exact absurd good unsent

/-- Where nothing else passes for the answer, it is the wheel's reply to the question. -/
theorem attempt_of_missed (missed : ∀ entry ∈ session.pending, takes dd question entry.2 = false)
    (good : 0 ≤ (attempt dd world question session).1.ret) :
    ∃ number, (attempt dd world question session).1 =
        ⟨outcome (world.reply number question), world.reply number question,
          world.reply number question⟩ ∧
      (attempt dd world question session).2.pending = [] := by
  rcases attempt_of_good good with ⟨early, late, hit, done⟩
  generalize reply : world.reply session.attempts question = answer at hit done
  have silent : listen dd question (session.pending.map Prod.snd) = (question, false) := by
    apply listen_of_missed
    intro report listed
    rcases List.mem_map.mp listed with ⟨entry, waiting, rfl⟩
    exact missed entry waiting
  have enough : session.pending.length < early := by
    apply Nat.lt_of_not_le
    intro short
    rw [List.take_append_of_le_length short, listen_of_missed] at hit
    · cases hit
    · intro report listed
      rcases List.mem_map.mp listed with ⟨entry, waiting, rfl⟩
      exact missed entry (List.mem_of_mem_take waiting)
  have all (count : ℕ) (most : early ≤ count) :
      ((session.pending ++ [(question, answer)]).take count).map Prod.snd =
        session.pending.map Prod.snd ++ [answer] := by
    rw [List.take_of_length_le, List.map_append]
    · rfl
    · rw [List.length_append, List.length_singleton]
      omega
  rw [all early (Nat.le_refl _), listen_append, silent, hear] at hit
  have taken : takes dd question answer = true := by
    split at hit
    · assumption
    · cases hit
  have heard (count : ℕ) (most : early ≤ count) :
      listen dd question (((session.pending ++ [(question, answer)]).take count).map Prod.snd) =
        (answer, true) := by
    rw [all count most, listen_append, silent, hear, if_pos taken]
  refine ⟨session.attempts, ?_, ?_⟩
  · rw [done, heard early (Nat.le_refl _), heard (early + late) (Nat.le_add_right _ _), reply]
  · rw [done]
    apply List.drop_of_length_le
    rw [List.length_append, List.length_singleton]
    omega

/-- The response is a reply that came in, to a question of the same kind unless it is an error. -/
theorem attempt_response (good : 0 ≤ (attempt dd world question session).1.ret) :
    ∃ entry ∈ session.pending ++ [(question, world.reply session.attempts question)],
      entry.2 = (attempt dd world question session).1.response ∧
        (¬(attempt dd world question session).1.response.IsError →
          matchAnswer dd question (attempt dd world question session).1.response = true) := by
  rcases attempt_of_good good with ⟨early, late, hit, done⟩
  generalize session.pending ++ [(question, world.reply session.attempts question)] = pending at *
  have still : (listen dd question ((pending.take (early + late)).map Prod.snd)).2 = true := by
    rw [List.take_add, List.map_append]
    exact listen_hit _ _ hit
  rcases (listen_spec dd question _).2 still with ⟨listed, matched⟩
  rcases List.mem_map.mp listed with ⟨entry, waiting, same⟩
  refine ⟨entry, List.mem_of_mem_take waiting, ?_, ?_⟩
  · rw [done]
    exact same
  · rw [done]
    exact matched

theorem attempt_ret (dd : Bool) (world : World) (question : Report) (session : Session) :
    (attempt dd world question session).1.ret = -1 ∨
      (attempt dd world question session).1.ret = -etimedout ∨
        0 ≤ (attempt dd world question session).1.ret := by
  have nonneg (report : Report) : 0 ≤ outcome report := by
    rw [outcome]
    split
    · exact Int.natCast_nonneg _
    · split
      · exact Int.natCast_nonneg _
      · exact Int.le_refl _
  simp only [attempt]
  split
  · split
    · exact .inr (.inr (nonneg _))
    · exact .inr (.inl rfl)
  · exact .inl rfl

theorem attempt_pending {entry : Report × Report}
    (waiting : entry ∈ (attempt dd world question session).2.pending) :
    entry ∈ session.pending ∨ ∃ number, entry = (question, world.reply number question) := by
  have sorted (count : ℕ) (left : entry ∈ (session.pending ++
      [(question, world.reply session.attempts question)]).drop count) :
      entry ∈ session.pending ∨ ∃ number, entry = (question, world.reply number question) := by
    rcases List.mem_append.mp (List.mem_of_mem_drop left) with earlier | last
    · exact .inl earlier
    · exact .inr ⟨session.attempts, List.mem_singleton.mp last⟩
  simp only [attempt] at waiting
  split at waiting
  · split at waiting
    · exact sorted _ waiting
    · exact sorted _ waiting
  · exact .inl waiting

theorem attempt_books (dd : Bool) (world : World) (question : Report) (session : Session) :
    (attempt dd world question session).2.featureSetState = session.featureSetState ∧
      (attempt dd world question session).2.failedChecks = session.failedChecks := by
  simp only [attempt]
  split
  · split <;> exact ⟨rfl, rfl⟩
  · exact ⟨rfl, rfl⟩

end Attempt

section Command

variable {dd : Bool} {world : World} {question : Report} {session : Session} {more : ℕ}

theorem ret_of_again {ret : ℤ} {response : Report} (goesOn : again ret response = true) :
    0 ≤ ret := by
  rw [again] at goesOn
  split at goesOn
  · cases goesOn
  · omega

/-- A command is one attempt, or a busy wheel and then a command. -/
theorem command_rule {holds : Session → Exchange × Session → Prop}
    (last : ∀ session, holds session (attempt dd world question session))
    (busy : ∀ session done, 0 ≤ (attempt dd world question session).1.ret →
      holds (attempt dd world question session).2 done → holds session done)
    (more : ℕ) (session : Session) :
    holds session (sendMessageSync dd world question more session) := by
  induction more generalizing session with
  | zero => exact last session
  | succ more ih =>
      rw [sendMessageSync]
      split
      · rename_i goesOn
        exact busy session _ (ret_of_again goesOn) (ih _)
      · exact last session

/-- Where nothing else passes for the answer, a command gets the wheel's reply to its question. -/
def GetsReply (dd : Bool) (world : World) (question : Report) (session : Session)
    (done : Exchange × Session) : Prop :=
  (∀ entry ∈ session.pending, takes dd question entry.2 = false) → 0 ≤ done.1.ret →
    ∃ number, done.1 = ⟨outcome (world.reply number question), world.reply number question,
        world.reply number question⟩ ∧ done.2.pending = []

theorem command_of_missed (dd : Bool) (world : World) (question : Report) (more : ℕ)
    (session : Session) :
    GetsReply dd world question session (sendMessageSync dd world question more session) := by
  apply command_rule
  · intro session missed good
    exact attempt_of_missed missed good
  · intro session done answered gets missed good
    rcases attempt_of_missed missed answered with ⟨number, -, empty⟩
    apply gets _ good
    rw [empty]
    intro entry waiting
    cases waiting

/-- The replies that are still to come are earlier ones and those to the command itself. -/
def Owed (world : World) (question : Report) (session : Session) (entry : Report × Report) :
    Prop :=
  entry ∈ session.pending ∨ ∃ number, entry = (question, world.reply number question)

theorem command_pending (dd : Bool) (world : World) (question : Report) (more : ℕ)
    (session : Session) :
    ∀ entry ∈ (sendMessageSync dd world question more session).2.pending,
      Owed world question session entry := by
  apply @command_rule dd world question fun session done =>
    ∀ entry ∈ done.2.pending, Owed world question session entry
  · intro session entry waiting
    exact attempt_pending waiting
  · intro session done _ owed entry waiting
    rcases owed entry waiting with earlier | own
    · exact attempt_pending earlier
    · exact .inr own

/-- The response is a reply that was owed, to a question of the same kind unless it is an error. -/
def Responds (dd : Bool) (world : World) (question : Report) (session : Session)
    (done : Exchange × Session) : Prop :=
  0 ≤ done.1.ret → ∃ entry, Owed world question session entry ∧ entry.2 = done.1.response ∧
    (¬done.1.response.IsError → matchAnswer dd question done.1.response = true)

theorem command_response (dd : Bool) (world : World) (question : Report) (more : ℕ)
    (session : Session) :
    Responds dd world question session (sendMessageSync dd world question more session) := by
  apply command_rule
  · intro session good
    rcases attempt_response good with ⟨entry, waiting, facts⟩
    refine ⟨entry, ?_, facts⟩
    rcases List.mem_append.mp waiting with earlier | last
    · exact .inl earlier
    · exact .inr ⟨session.attempts, List.mem_singleton.mp last⟩
  · intro session done _ responds good
    rcases responds good with ⟨entry, owed, facts⟩
    refine ⟨entry, ?_, facts⟩
    rcases owed with earlier | own
    · exact attempt_pending earlier
    · exact .inr own

theorem command_ret (dd : Bool) (world : World) (question : Report) (more : ℕ)
    (session : Session) :
    (sendMessageSync dd world question more session).1.ret = -1 ∨
      (sendMessageSync dd world question more session).1.ret = -etimedout ∨
        0 ≤ (sendMessageSync dd world question more session).1.ret := by
  apply @command_rule dd world question fun _ done =>
    done.1.ret = -1 ∨ done.1.ret = -etimedout ∨ 0 ≤ done.1.ret
  · exact attempt_ret dd world question
  · intro session done _ ret
    exact ret

/-- A command leaves what the driver knows of the feature set as it is. -/
theorem command_books (dd : Bool) (world : World) (question : Report) (more : ℕ)
    (session : Session) :
    (sendMessageSync dd world question more session).2.featureSetState = session.featureSetState ∧
      (sendMessageSync dd world question more session).2.failedChecks = session.failedChecks := by
  apply @command_rule dd world question fun session done =>
    done.2.featureSetState = session.featureSetState ∧
      done.2.failedChecks = session.failedChecks
  · exact attempt_books dd world question
  · intro session done _ rest
    have books := attempt_books dd world question session
    exact ⟨rest.1.trans books.1, rest.2.trans books.2⟩

end Command

def rootQuestion (feature : UInt16) : Report :=
  (fapMessage true hidppPageRootIdx cmdRootGetFeature (getFeatureParams feature)).addressed

def checkQuestion (index : UInt8) : Report :=
  (fapMessage true hidppPageFeatureSetIdx cmdFeatureSetGetFeatureId [index]).addressed

section Questions

variable {table : FeatureTable}

theorem rootQuestion_ordinary (feature : UInt16) : (rootQuestion feature).Ordinary where
  older := by
    change hidppPageRootIdx ≠ hidppError
    decide
  newer := by
    change hidppPageRootIdx ≠ hidpp20Error
    decide
  client := by
    change (cmdRootGetFeature ||| linuxKernelSwId) &&& 0x0f = linuxKernelSwId
    decide

theorem checkQuestion_ordinary (index : UInt8) : (checkQuestion index).Ordinary where
  older := by
    change hidppPageFeatureSetIdx ≠ hidppError
    decide
  newer := by
    change hidppPageFeatureSetIdx ≠ hidpp20Error
    decide
  client := by
    change (cmdFeatureSetGetFeatureId ||| linuxKernelSwId) &&& 0x0f = linuxKernelSwId
    decide

theorem rootQuestion_isRoot (feature : UInt16) : (rootQuestion feature).IsRoot := by
  refine ⟨rfl, rfl, ?_⟩
  change (cmdRootGetFeature ||| linuxKernelSwId) &&& 0xf0 = cmdRootGetFeature
  decide

theorem checkQuestion_isCheck (index : UInt8) : (checkQuestion index).IsCheck := by
  refine ⟨rfl, rfl, ?_⟩
  change (cmdFeatureSetGetFeatureId ||| linuxKernelSwId) &&& 0xf0 = cmdFeatureSetGetFeatureId
  decide

theorem not_check_of_root {question : Report} (root : question.IsRoot) : ¬question.IsCheck := by
  intro check
  have same : hidppPageRootIdx = hidppPageFeatureSetIdx := root.2.1.symm.trans check.2.1
  exact absurd same (by decide)

theorem beWord_getFeatureParams (feature : UInt16) :
    beWord (feature >>> 8).toUInt8 feature.toUInt8 = feature := by
  apply UInt16.toNat_inj.mp
  have small := feature.toNat_lt
  have high : (feature >>> 8).toUInt8.toNat = feature.toNat / 256 := by
    simp [Nat.shiftRight_eq_div_pow]
    omega
  have low : feature.toUInt8.toNat = feature.toNat % 256 := by simp
  have joined := @Nat.two_pow_add_eq_or_of_lt 8 (feature.toNat % 256) (by omega)
    (feature.toNat / 256)
  have byte : (8 : UInt16).toNat % 16 = 8 := rfl
  rw [beWord, UInt16.toNat_or, UInt16.toNat_shiftLeft, UInt8.toNat_toUInt16, UInt8.toNat_toUInt16,
    high, low, Nat.shiftLeft_eq, byte, Nat.mod_eq_of_lt (by omega), Nat.mul_comm, ← joined]
  omega

theorem word_rootQuestion (feature : UInt16) : (rootQuestion feature).word = feature :=
  beWord_getFeatureParams feature

/-- A reply that reports success is an answer. -/
theorem Answers.of_outcome {question reply : Report} (answers : Answers table question reply)
    (success : outcome reply = 0) :
    (question.IsRoot → reply.param 0 = table.index question.word) ∧
      (question.IsCheck → reply.word = table.holds (question.param 0)) := by
  cases answers with
  | plain device kind feature function root check => exact ⟨root, check⟩
  | error device kind feature function code =>
      have named : outcome reply = (reply.param 1).toNat := by
        rw [outcome]
        rcases kind with older | newer
        · rw [if_pos older]
        · have other : ¬(reply.IsShort ∧ reply.featureIndex = hidppError) := by
            rintro ⟨-, older⟩
            exact absurd (older.symm.trans newer.2) (by decide)
          rw [if_neg other, if_pos newer]
      rw [named] at success
      exfalso
      apply code
      apply UInt8.toNat_inj.mp
      exact Int.natCast_eq_zero.mp success

end Questions

/-- A reply that the wheel owes to a command of the driver. -/
structure Known (table : FeatureTable) (asked : List UInt16) (entry : Report × Report) : Prop where
  answers : Answers table entry.1 entry.2
  ordinary : entry.1.Ordinary
  root : entry.1.IsRoot → entry.1.word ∈ asked

/-- As long as every check got its answer, no answer to a check is still to come. -/
structure Healthy (table : FeatureTable) (asked : List UInt16) (session : Session) : Prop where
  known : ∀ entry ∈ session.pending, Known table asked entry
  quiet : session.failedChecks = 0 →
    (∀ entry ∈ session.pending, ¬entry.1.IsCheck) ∧ session.featureSetState ≠ .unusable

/-- What a lookup may tell. -/
structure Right (table : FeatureTable) (asked : List UInt16) (found : Found) : Prop where
  holds : ∀ index, found.2 = .ok index → index ≠ 0 ∧ table.holds index = found.1
  missing : found.2 = .error (-enoent) → ∃ missing ∈ asked, table.index missing = 0

section Lookup

variable {world : World} {table : FeatureTable} {asked : List UInt16} {session : Session}
  {feature : UInt16} {index : UInt8}

theorem Known.missed {entry : Report × Report} (known : Known table asked entry)
    (quiet : ¬entry.1.IsCheck) (index : UInt8) : takes true (checkQuestion index) entry.2 = false := by
  cases taken : takes true (checkQuestion index) entry.2 with
  | false => rfl
  | true =>
      have same := known.answers.same known.ordinary (checkQuestion_ordinary index) taken
      exact absurd ⟨same.1, same.2.1, same.2.2.trans (checkQuestion_isCheck index).2.2⟩ quiet

theorem known_of_owed {question : Report} {entry : Report × Report} (honest : world.Honest table)
    (known : ∀ entry ∈ session.pending, Known table asked entry) (ordinary : question.Ordinary)
    (root : question.IsRoot → question.word ∈ asked) (owed : Owed world question session entry) :
    Known table asked entry := by
  rcases owed with earlier | ⟨number, rfl⟩
  · exact known entry earlier
  · exact ⟨honest number question ordinary, ordinary, root⟩

theorem featureIdAt_eq (world : World) (index : UInt8) (session : Session) :
    featureIdAt true world index session =
      let done := sendMessageSync true world (checkQuestion index) 2 session
      if done.1.ret ≠ 0 then
        (.error (if done.1.ret < 0 then done.1.ret else -eio),
          { done.2 with failedChecks := done.2.failedChecks + 1 })
      else (.ok done.1.response.word, done.2) := rfl

theorem featureIdAt_known (honest : world.Honest table)
    (known : ∀ entry ∈ session.pending, Known table asked entry) (index : UInt8) :
    ∀ entry ∈ (featureIdAt true world index session).2.pending, Known table asked entry := by
  have owed := command_pending true world (checkQuestion index) 2 session
  rw [featureIdAt_eq]
  dsimp only
  intro entry waiting
  have listed : entry ∈ (sendMessageSync true world (checkQuestion index) 2 session).2.pending := by
    split at waiting <;> exact waiting
  apply known_of_owed honest known (checkQuestion_ordinary index) _ (owed entry listed)
  intro root
  exact absurd (checkQuestion_isCheck index) (not_check_of_root root)

/-- A check that got its answer has what the wheel holds, and nothing is left to come. -/
theorem featureIdAt_clean (honest : world.Honest table) (healthy : Healthy table asked session)
    (clean : (featureIdAt true world index session).2.failedChecks = 0) :
    session.failedChecks = 0 ∧
      (featureIdAt true world index session).1 = .ok (table.holds index) ∧
        (featureIdAt true world index session).2.pending = [] ∧
          (featureIdAt true world index session).2.featureSetState = session.featureSetState := by
  have books := command_books true world (checkQuestion index) 2 session
  have reply := command_of_missed true world (checkQuestion index) 2 session
  rw [featureIdAt_eq] at clean ⊢
  dsimp only at clean ⊢
  generalize sendMessageSync true world (checkQuestion index) 2 session = done at clean books reply ⊢
  split at clean
  · cases clean
  · rename_i success
    have fine := not_not.mp success
    have none : session.failedChecks = 0 := books.2.symm.trans clean
    have missed : ∀ entry ∈ session.pending, takes true (checkQuestion index) entry.2 = false := by
      intro entry waiting
      exact (healthy.known entry waiting).missed ((healthy.quiet none).1 entry waiting) index
    rcases reply missed (Int.le_of_eq fine.symm) with ⟨number, exchange, empty⟩
    have answers := honest number (checkQuestion index) (checkQuestion_ordinary index)
    rw [exchange] at fine
    have told := (answers.of_outcome fine).2 (checkQuestion_isCheck index)
    rw [if_neg success, exchange]
    exact ⟨none, congrArg Except.ok told, empty, books.1⟩

theorem ensureFeatureSet_known (honest : world.Honest table)
    (known : ∀ entry ∈ session.pending, Known table asked entry) :
    ∀ entry ∈ (ensureFeatureSet true world session).pending, Known table asked entry := by
  have checked := featureIdAt_known honest known hidppPageFeatureSetIdx
  rw [ensureFeatureSet]
  split
  · dsimp only
    split <;> exact checked
  · exact known

theorem ensureFeatureSet_clean (honest : world.Honest table)
    (set : table.holds hidppPageFeatureSetIdx = hidppPageFeatureSet)
    (healthy : Healthy table asked session)
    (clean : (ensureFeatureSet true world session).failedChecks = 0) :
    session.failedChecks = 0 ∧ (ensureFeatureSet true world session).featureSetState = .usable ∧
      ∀ entry ∈ (ensureFeatureSet true world session).pending, ¬entry.1.IsCheck := by
  have answered : (featureIdAt true world hidppPageFeatureSetIdx session).2.failedChecks = 0 → _ :=
    featureIdAt_clean honest healthy
  rw [set] at answered
  rw [ensureFeatureSet] at clean ⊢
  split at clean
  · rename_i unasked
    rw [if_pos unasked]
    dsimp only at clean ⊢
    generalize featureIdAt true world hidppPageFeatureSetIdx session = checked at clean answered ⊢
    rcases checked with ⟨result, checked⟩
    cases result with
    | error ret => cases (answered clean).2.1
    | ok id =>
        have facts := answered clean
        cases facts.2.1
        refine ⟨facts.1, rfl, ?_⟩
        intro entry waiting
        change entry ∈ checked.pending at waiting
        rw [facts.2.2.1] at waiting
        cases waiting
  · rename_i asked
    rw [if_neg asked]
    have quiet := healthy.quiet clean
    refine ⟨clean, ?_, quiet.1⟩
    cases state : session.featureSetState with
    | unasked => exact absurd state asked
    | usable => rfl
    | unusable => exact absurd state quiet.2

theorem indexHoldsFeature_known (honest : world.Honest table)
    (known : ∀ entry ∈ session.pending, Known table asked entry) (index : UInt8)
    (feature : UInt16) :
    ∀ entry ∈ (indexHoldsFeature true world index feature session).2.pending,
      Known table asked entry := by
  have ensured := ensureFeatureSet_known honest known
  have checked := featureIdAt_known honest ensured index
  rw [indexHoldsFeature]
  dsimp only
  split
  · exact ensured
  · split <;> exact checked

/-- A check that got its answers tells whether the index holds the feature. -/
theorem indexHoldsFeature_clean (honest : world.Honest table)
    (set : table.holds hidppPageFeatureSetIdx = hidppPageFeatureSet)
    (healthy : Healthy table asked session)
    (clean : (indexHoldsFeature true world index feature session).2.failedChecks = 0) :
    session.failedChecks = 0 ∧
      (indexHoldsFeature true world index feature session).1 = (table.holds index == feature) ∧
        (indexHoldsFeature true world index feature session).2.pending = [] ∧
          (indexHoldsFeature true world index feature session).2.featureSetState = .usable := by
  have ensured := ensureFeatureSet_clean honest set healthy
  have known := ensureFeatureSet_known honest healthy.known
  rw [indexHoldsFeature] at clean ⊢
  dsimp only at clean ⊢
  generalize ensureFeatureSet true world session = ready at clean ensured known ⊢
  have fresh (none : ready.failedChecks = 0) : Healthy table asked ready := by
    refine ⟨known, fun _ => ⟨(ensured none).2.2, ?_⟩⟩
    rw [(ensured none).2.1]
    exact FeatureSetState.noConfusion
  split at clean
  · rename_i other
    exact absurd (ensured clean).2.1 other
  · rename_i usable
    rw [if_neg usable]
    have unchanged : (featureIdAt true world index ready).2.failedChecks = 0 →
        ready.failedChecks = 0 := by
      intro none
      have books := command_books true world (checkQuestion index) 2 ready
      rw [featureIdAt_eq] at none
      dsimp only at none
      split at none
      · cases none
      · exact books.2.symm.trans none
    have answered : (featureIdAt true world index ready).2.failedChecks = 0 → _ :=
      fun none => featureIdAt_clean honest (fresh (unchanged none)) none
    generalize featureIdAt true world index ready = checked at clean answered ⊢
    rcases checked with ⟨result, checked⟩
    cases result with
    | error ret => cases (answered clean).2.1
    | ok id =>
        have facts := answered clean
        cases facts.2.1
        exact ⟨(ensured facts.1).1, rfl, facts.2.2.1, facts.2.2.2.trans (ensured facts.1).2.1⟩

theorem indexHoldsFeature_healthy (honest : world.Honest table)
    (set : table.holds hidppPageFeatureSetIdx = hidppPageFeatureSet)
    (healthy : Healthy table asked session) (index : UInt8) (feature : UInt16) :
    Healthy table asked (indexHoldsFeature true world index feature session).2 := by
  refine ⟨indexHoldsFeature_known honest healthy.known index feature, ?_⟩
  intro clean
  have facts := indexHoldsFeature_clean honest set healthy clean
  rw [facts.2.2.1, facts.2.2.2]
  exact ⟨fun entry waiting => absurd waiting List.not_mem_nil, FeatureSetState.noConfusion⟩

theorem rootGetFeatureOnce_eq (world : World) (feature : UInt16) (session : Session) :
    rootGetFeatureOnce true world feature session =
      let done := sendMessageSync true world (rootQuestion feature) 2 session
      if done.1.ret ≠ 0 then (.error done.1.ret, done.2)
      else if done.1.response.param 0 = 0 then (.error (-enoent), done.2)
      else (.ok (done.1.response.param 0), done.2) := rfl

theorem rootGetFeatureOnce_session (world : World) (feature : UInt16) (session : Session) :
    (rootGetFeatureOnce true world feature session).2 =
      (sendMessageSync true world (rootQuestion feature) 2 session).2 := by
  rw [rootGetFeatureOnce_eq]
  dsimp only
  split
  · rfl
  · split <;> rfl

theorem rootGetFeatureOnce_books (world : World) (feature : UInt16) (session : Session) :
    (rootGetFeatureOnce true world feature session).2.failedChecks = session.failedChecks := by
  rw [rootGetFeatureOnce_session]
  exact (command_books true world (rootQuestion feature) 2 session).2

/-- A command that is no check leaves no answer to a check behind. -/
theorem command_healthy {question : Report} (honest : world.Honest table)
    (healthy : Healthy table asked session) (ordinary : question.Ordinary)
    (root : question.IsRoot → question.word ∈ asked) (other : ¬question.IsCheck) (more : ℕ) :
    Healthy table asked (sendMessageSync true world question more session).2 := by
  have owed := command_pending true world question more session
  have books := command_books true world question more session
  refine ⟨fun entry waiting => ?_, fun none => ⟨fun entry waiting => ?_, ?_⟩⟩
  · exact known_of_owed honest healthy.known ordinary root (owed entry waiting)
  · rw [books.2] at none
    rcases owed entry waiting with earlier | ⟨number, rfl⟩
    · exact (healthy.quiet none).1 entry earlier
    · exact other
  · rw [books.2] at none
    rw [books.1]
    exact (healthy.quiet none).2

theorem rootGetFeatureOnce_healthy (honest : world.Honest table)
    (healthy : Healthy table asked session) (listed : feature ∈ asked) :
    Healthy table asked (rootGetFeatureOnce true world feature session).2 := by
  rw [rootGetFeatureOnce_session]
  apply command_healthy honest healthy (rootQuestion_ordinary feature)
  · intro _
    rw [word_rootQuestion]
    exact listed
  · exact not_check_of_root (rootQuestion_isRoot feature)

/-- A feature is only reported missing after the wheel was asked for one that it does not have. -/
theorem rootGetFeatureOnce_missing (honest : world.Honest table)
    (known : ∀ entry ∈ session.pending, Known table asked entry) (listed : feature ∈ asked)
    (gone : (rootGetFeatureOnce true world feature session).1 = .error (-enoent)) :
    ∃ missing ∈ asked, table.index missing = 0 := by
  have ret := command_ret true world (rootQuestion feature) 2 session
  have responds := command_response true world (rootQuestion feature) 2 session
  rw [rootGetFeatureOnce_eq] at gone
  dsimp only at gone
  generalize sendMessageSync true world (rootQuestion feature) 2 session = done at gone ret responds
  split at gone
  · simp only [Except.error.injEq] at gone
    simp only [enoent] at gone
    simp only [etimedout] at ret
    omega
  · rename_i success
    split at gone
    · rename_i zero
      have fine := not_not.mp success
      rcases responds (Int.le_of_eq fine.symm) with ⟨entry, owed, same, matched⟩
      rw [← same] at zero matched
      have facts : Known table asked entry := by
        apply known_of_owed honest known (rootQuestion_ordinary feature) _ owed
        intro _
        rw [word_rootQuestion]
        exact listed
      cases facts.answers with
      | plain device kind index function root check =>
          have taken : takes true (rootQuestion feature) entry.2 = true := by
            rw [takes, matched (not_isError_of_ordinary facts.ordinary index), Bool.true_or]
          have asks := facts.answers.same facts.ordinary (rootQuestion_ordinary feature) taken
          have isRoot : entry.1.IsRoot :=
            ⟨asks.1, asks.2.1, asks.2.2.trans (rootQuestion_isRoot feature).2.2⟩
          exact ⟨entry.1.word, facts.root isRoot, (root isRoot).symm.trans zero⟩
      | error device kind index function code =>
          have client := facts.ordinary.client
          rw [← function, zero] at client
          exact absurd client (by decide)
    · cases gone

/-- When nothing else is to come, the index is the wheel's. -/
theorem rootGetFeatureOnce_genuine (honest : world.Honest table) (empty : session.pending = [])
    (found : (rootGetFeatureOnce true world feature session).1 = .ok index) :
    index = table.index feature := by
  have reply := command_of_missed true world (rootQuestion feature) 2 session
  rw [rootGetFeatureOnce_eq] at found
  dsimp only at found
  generalize sendMessageSync true world (rootQuestion feature) 2 session = done at found reply
  split at found
  · cases found
  · rename_i success
    split at found
    · cases found
    · have fine := not_not.mp success
      have missed : ∀ entry ∈ session.pending,
          takes true (rootQuestion feature) entry.2 = false := by
        rw [empty]
        intro entry waiting
        cases waiting
      rcases reply missed (Int.le_of_eq fine.symm) with ⟨number, exchange, -⟩
      have answers := honest number (rootQuestion feature) (rootQuestion_ordinary feature)
      rw [exchange] at fine found
      have told := (answers.of_outcome fine).1 (rootQuestion_isRoot feature)
      rw [word_rootQuestion] at told
      cases found
      exact told

theorem rootGetFeatureOnce_nonzero
    (found : (rootGetFeatureOnce true world feature session).1 = .ok index) : index ≠ 0 := by
  rw [rootGetFeatureOnce_eq] at found
  dsimp only at found
  split at found
  · cases found
  · split at found
    · cases found
    · rename_i some
      cases found
      exact some

/-- What a lookup does, as long as every check gets its answer. -/
structure Sure (table : FeatureTable) (asked : List UInt16) (feature : UInt16) (session : Session)
    (done : Except ℤ UInt8 × Session) : Prop where
  healthy : Healthy table asked done.2
  clean : done.2.failedChecks = 0 → session.failedChecks = 0
  right : done.2.failedChecks = 0 → feature ≠ hidppPageFeatureSet →
    Right table asked (feature, done.1)

theorem right_of_error {ret : ℤ}
    (missing : Except.error ret = (.error (-enoent) : Except ℤ UInt8) →
      ∃ missing ∈ asked, table.index missing = 0) :
    Right table asked (feature, .error ret) where
  holds := by
    intro index found
    cases found
  missing := missing

theorem right_of_ok (some : index ≠ 0) (holds : table.holds index = feature) :
    Right table asked (feature, .ok index) where
  holds := by
    intro other found
    cases found
    exact ⟨some, holds⟩
  missing := by
    intro gone
    cases gone

theorem rootGetFeature_sure (honest : world.Honest table)
    (set : table.holds hidppPageFeatureSetIdx = hidppPageFeatureSet)
    (healthy : Healthy table asked session) (listed : feature ∈ asked) :
    Sure table asked feature session (rootGetFeature true world feature session) := by
  rw [rootGetFeature]
  have books := rootGetFeatureOnce_books world feature session
  have once := rootGetFeatureOnce_healthy honest healthy listed
  have missing := rootGetFeatureOnce_missing honest healthy.known listed
  have nonzero (index : UInt8) := @rootGetFeatureOnce_nonzero world session feature index
  dsimp only
  generalize rootGetFeatureOnce true world feature session = first at books once missing nonzero ⊢
  rcases first with ⟨result, first⟩
  cases result with
  | error ret => exact ⟨once, fun none => books.symm.trans none, fun _ _ => right_of_error missing⟩
  | ok index =>
      dsimp only
      split
      · rename_i plain
        have own := plain.resolve_left Bool.noConfusion
        exact ⟨once, fun none => books.symm.trans none, fun _ other => absurd own other⟩
      · have kept := indexHoldsFeature_healthy honest set once index feature
        have facts : (indexHoldsFeature true world index feature first).2.failedChecks = 0 → _ :=
          fun none => indexHoldsFeature_clean honest set once none
        generalize indexHoldsFeature true world index feature first = checked at kept facts ⊢
        rcases checked with ⟨held, checked⟩
        have earlier (none : checked.failedChecks = 0) : session.failedChecks = 0 :=
          books.symm.trans (facts none).1
        cases held with
        | true =>
            refine ⟨kept, earlier, fun none _ => right_of_ok (nonzero index rfl) ?_⟩
            exact beq_iff_eq.mp (facts none).2.1.symm
        | false =>
            have again := rootGetFeatureOnce_healthy honest kept listed
            have later := rootGetFeatureOnce_books world feature checked
            have gone := rootGetFeatureOnce_missing honest kept.known listed
            have some (index : UInt8) := @rootGetFeatureOnce_nonzero world checked feature index
            have genuine (index : UInt8) (empty : checked.pending = []) :=
              @rootGetFeatureOnce_genuine world table checked feature index honest empty
            dsimp only
            generalize rootGetFeatureOnce true world feature checked = second
              at again later gone some genuine ⊢
            rcases second with ⟨result, second⟩
            cases result with
            | error ret =>
                exact ⟨again, fun none => earlier (later.symm.trans none),
                  fun _ _ => right_of_error gone⟩
            | ok other =>
                have still := indexHoldsFeature_healthy honest set again other feature
                have last : (indexHoldsFeature true world other feature second).2.failedChecks = 0 →
                    _ := fun none => indexHoldsFeature_clean honest set again none
                dsimp only
                generalize indexHoldsFeature true world other feature second = final at still last ⊢
                rcases final with ⟨held, final⟩
                have before (none : final.failedChecks = 0) : checked.failedChecks = 0 :=
                  later.symm.trans (last none).1
                have holds (none : final.failedChecks = 0) : table.holds other = feature := by
                  have own := genuine other (facts (before none)).2.2.1 rfl
                  rw [own]
                  apply table.indexed
                  rw [← own]
                  exact some other rfl
                cases held with
                | true =>
                    exact ⟨still, fun none => earlier (before none),
                      fun none _ => right_of_ok (some other rfl) (holds none)⟩
                | false =>
                    refine ⟨still, fun none => earlier (before none), fun none _ => ?_⟩
                    have differs := beq_eq_false_iff_ne.mp (last none).2.1.symm
                    exact absurd (holds none) differs

end Lookup

/-- Commands of the driver that are neither of the two questions. -/
def Operation.Fits : Operation → Prop
  | .ask question => question.addressed.Ordinary ∧ ¬question.addressed.IsRoot ∧
      ¬question.addressed.IsCheck
  | _ => True

/-- The features that were looked up. -/
def lookedUp (found : List Found) : List UInt16 := found.map Prod.fst

structure Trusted (table : FeatureTable) (told : List Found × Session) : Prop where
  healthy : Healthy table (lookedUp told.1) told.2
  right : told.2.failedChecks = 0 → ∀ found ∈ told.1, found.1 ≠ hidppPageFeatureSet →
    Right table (lookedUp told.1) found

section Sessions

variable {world : World} {table : FeatureTable} {asked more : List UInt16}
  {told : List Found × Session} {operations : List Operation}

theorem Healthy.mono {session : Session} (healthy : Healthy table asked session)
    (grown : asked ⊆ more) : Healthy table more session where
  known := fun entry waiting =>
    { healthy.known entry waiting with
      root := fun root => grown ((healthy.known entry waiting).root root) }
  quiet := healthy.quiet

theorem Right.mono {found : Found} (right : Right table asked found) (grown : asked ⊆ more) :
    Right table more found where
  holds := right.holds
  missing := by
    intro gone
    rcases right.missing gone with ⟨missing, listed, absent⟩
    exact ⟨missing, grown listed, absent⟩

theorem Trusted.operate (honest : world.Honest table)
    (set : table.holds hidppPageFeatureSetIdx = hidppPageFeatureSet) (trusted : Trusted table told)
    {operation : Operation} (fits : operation.Fits) :
    Trusted table (operate true world told operation) := by
  cases operation with
  | lookup feature =>
      have grown : lookedUp told.1 ⊆ lookedUp told.1 ++ [feature] := List.subset_append_left _ _
      have sure := rootGetFeature_sure honest set (trusted.healthy.mono grown) List.mem_concat_self
      have names (result : Except ℤ UInt8) :
          lookedUp (told.1 ++ [(feature, result)]) = lookedUp told.1 ++ [feature] := by
        rw [lookedUp, List.map_append]
        rfl
      simp only [Transport.operate]
      refine ⟨?_, ?_⟩
      · rw [names]
        exact sure.healthy
      · intro none found listed
        rw [names]
        rcases List.mem_append.mp listed with earlier | last
        · intro other
          exact (trusted.right (sure.clean none) found earlier other).mono grown
        · rw [List.mem_singleton] at last
          rw [last]
          exact sure.right none
  | ask question =>
      rcases fits with ⟨ordinary, notRoot, notCheck⟩
      have books := command_books true world question.addressed (maxRetries - 1) told.2
      refine ⟨?_, ?_⟩
      · apply command_healthy honest trusted.healthy ordinary _ notCheck
        intro root
        exact absurd root notRoot
      · intro none
        exact trusted.right (books.2.symm.trans none)
  | idle count =>
      refine ⟨⟨?_, ?_⟩, trusted.right⟩
      · intro entry waiting
        exact trusted.healthy.known entry (List.mem_of_mem_drop waiting)
      · intro none
        refine ⟨fun entry waiting => ?_, (trusted.healthy.quiet none).2⟩
        exact (trusted.healthy.quiet none).1 entry (List.mem_of_mem_drop waiting)

theorem trusted_session (honest : world.Honest table)
    (set : table.holds hidppPageFeatureSetIdx = hidppPageFeatureSet)
    (fits : ∀ operation ∈ operations, operation.Fits) :
    Trusted table (session true world operations) := by
  induction operations using List.reverseRecOn with
  | nil =>
      refine ⟨⟨fun entry waiting => absurd waiting List.not_mem_nil, fun _ =>
        ⟨fun entry waiting => absurd waiting List.not_mem_nil, FeatureSetState.noConfusion⟩⟩, ?_⟩
      intro _ found listed
      cases listed
  | append_singleton operations operation ih =>
      rw [session, List.foldl_append]
      apply Trusted.operate honest set _ (fits operation List.mem_concat_self)
      exact ih fun other listed => fits other (List.mem_append_left _ listed)

/-- Whatever comes in late, an index that the driver goes by holds the feature it was looked up
for, as long as the feature set answers; and no feature is taken for missing on a wheel that has
all that were asked for. -/
theorem feature_law (honest : world.Honest table)
    (set : table.holds hidppPageFeatureSetIdx = hidppPageFeatureSet)
    (fits : ∀ operation ∈ operations, operation.Fits)
    (answered : (session true world operations).2.failedChecks = 0) :
    ∀ found ∈ (session true world operations).1, found.1 ≠ hidppPageFeatureSet →
      (∀ index, found.2 = .ok index → index ≠ 0 ∧ table.holds index = found.1) ∧
        (found.2 = .error (-enoent) → ∃ missing ∈ lookedUp (session true world operations).1,
          table.index missing = 0) := by
  intro found listed other
  have right := (trusted_session honest set fits).right answered found listed other
  exact ⟨right.holds, right.missing⟩

instance (report : Report) (featureIndex function : UInt8) :
    Decidable (report.Asks featureIndex function) :=
  inferInstanceAs (Decidable (_ ∧ _ ∧ _))

instance (report : Report) : Decidable report.IsRoot :=
  inferInstanceAs (Decidable (report.Asks _ _))

instance (report : Report) : Decidable report.IsCheck :=
  inferInstanceAs (Decidable (report.Asks _ _))

/-- A wheel with its feature set and two more features. -/
def smallTable : FeatureTable where
  holds index := if index = 1 then 0x0001 else if index = 5 then 0x8138 else 0x8137
  index feature :=
    if feature = 0x0001 then 1 else if feature = 0x8138 then 5 else if feature = 0x8137 then 6
    else 0
  indexed := by
    intro feature
    split
    · rename_i same
      exact fun _ => same.symm
    · split
      · rename_i same
        exact fun _ => same.symm
      · split
        · rename_i same
          exact fun _ => same.symm
        · intro absent
          exact absurd rfl absent

/-- The reply to the first command comes in during the second. -/
def lateWheel : World where
  timing number := ⟨true, number.min 2, 0⟩
  reply _ question :=
    { question with
      reportId := reportIdHidppVeryLong
      params :=
        if question.IsRoot then [smallTable.index question.word]
        else getFeatureParams (smallTable.holds (question.param 0)) }

theorem lateWheel_honest : lateWheel.Honest smallTable := by
  intro number question ordinary
  refine .plain rfl (.inr (.inr rfl)) rfl (.inl rfl) ?_ ?_
  · intro root
    simp only [lateWheel, if_pos root]
    rfl
  · intro check
    have other : ¬question.IsRoot := fun root => not_check_of_root root check
    simp only [lateWheel, if_neg other]
    exact beWord_getFeatureParams _

theorem feature_law_late :
    (session true lateWheel [.lookup 0x8138, .lookup 0x8137]).1.map
        (fun found => (found.1, found.2.toOption)) = [(0x8138, none), (0x8137, some 6)] ∧
      smallTable.holds 6 = 0x8137 := by
  have fits : ∀ operation ∈ [Operation.lookup 0x8138, .lookup 0x8137], operation.Fits := by
    intro operation listed
    rcases List.mem_pair.mp listed with rfl | rfl <;> trivial
  have law := feature_law lateWheel_honest rfl fits rfl
  refine ⟨rfl, ?_⟩
  exact ((law (0x8137, .ok 6) (List.mem_cons_of_mem _ List.mem_cons_self) (by decide)).1 6 rfl).2

/-- A device that is not checked is believed the late reply. -/
example : (session false lateWheel [.lookup 0x8138, .lookup 0x8137]).1.map
    (fun found => (found.1, found.2.toOption)) = [(0x8138, none), (0x8137, some 5)] := rfl

end Sessions

end TrueForce.Hidpp.Transport
