import TrueForce.Foundation.Transition
import TrueForce.LogiFfb.Sink
import Mathlib.Tactic.Common

/-!
# Creating an effect on the virtual wheel

A host creates an effect with Set_Report(0x54), which names only its type, and reads
the block that it was given with Get_Report(0x56).  The proxy hands out the blocks
by a counter that only a Device Reset sets back, and remembers the last one it gave
away; the operations go to the sink worker in the order of the reports.

The counter knows nothing of the blocks that the descriptor declares or that are in
use, so the indices are good for as many effects as there are blocks and no longer.
The Block Load report always says "success", so it is true only while the last
Create was one that the proxy accepted.

A request whose reply cannot be sent ends the loop and with it the run.
-/

namespace TrueForce.LogiFfb

open TrueForce.Transition

/-- The events of the virtual device, without the request ids that the replies repeat. -/
inductive Event where
  | output (bytes : List UInt8)
  | setReport (rnum : UInt8) (data : List UInt8)
  | getReport (rnum : UInt8)
  /-- Open, Close and what the loop has no use for. -/
  | other
  deriving DecidableEq, Repr

inductive Reply where
  | setReport (err : UInt16)
  | getReport (err : UInt16) (data : List UInt8)
  deriving DecidableEq, Repr

structure Proxy where
  nextBlock : UInt8
  lastCreatedBlock : UInt8
  /-- What the channel to the sink worker has carried. -/
  sent : List EffectOp

/-- The block to give away and the counter afterwards. -/
def assignBlock (nextBlock : UInt8) : UInt8 × UInt8 := (nextBlock, nextBlock + 1)

namespace Proxy

def new : Proxy where
  nextBlock := 1
  lastCreatedBlock := 0
  sent := []

def dispatch (proxy : Proxy) (op : EffectOp) : Proxy :=
  let proxy :=
    if op = .deviceControl .reset then { proxy with nextBlock := 1, lastCreatedBlock := 0 }
    else proxy
  { proxy with sent := proxy.sent ++ [op] }

def dispatchDecoded (proxy : Proxy) (report : List UInt8) : Proxy :=
  match decode report with
  | some op => proxy.dispatch op
  | none => proxy

/-- The type that a Create New Effect asks for, if there is such a one. -/
def createdKind (data : List UInt8) : Option EffectKind := data[1]?.bind effectKindFromTypeByte

def createNewEffect (proxy : Proxy) (data : List UInt8) : Proxy :=
  match createdKind data with
  | some kind =>
      let (block, nextBlock) := assignBlock proxy.nextBlock
      { proxy with nextBlock, lastCreatedBlock := block }.dispatch (.create block kind)
  | none => proxy

/-- One event of the loop of `run`, and the reply to it. -/
def receive (proxy : Proxy) : Event → Proxy × Option Reply
  | .output bytes => (proxy.dispatchDecoded bytes, none)
  | .setReport rnum data =>
      if rnum = 0x54 then (proxy.createNewEffect data, some (.setReport 0))
      else (proxy.dispatchDecoded data, some (.setReport 0))
  | .getReport rnum =>
      if rnum = 0x56 then
        (proxy, some (.getReport 0 (pidBlockLoadReply proxy.lastCreatedBlock)))
      else if rnum = 0x57 then (proxy, some (.getReport 0 pidPoolReply))
      else (proxy, some (.getReport 0 [rnum]))
  | .other => (proxy, none)

end Proxy

/-- The blocks that were created and neither freed nor reset since, with their kinds. -/
def enterOp (blocks : UInt8 → Option EffectKind) : EffectOp → UInt8 → Option EffectKind
  | .create block kind => Function.update blocks block (some kind)
  | .destroy block => Function.update blocks block none
  | .deviceControl .reset => fun _ => none
  | _ => blocks

@[simp]
theorem enterOp_create (blocks : UInt8 → Option EffectKind) (block : UInt8) (kind : EffectKind) :
    enterOp blocks (.create block kind) = Function.update blocks block (some kind) :=
  rfl

@[simp]
theorem enterOp_destroy (blocks : UInt8 → Option EffectKind) (block : UInt8) :
    enterOp blocks (.destroy block) = Function.update blocks block none :=
  rfl

@[simp]
theorem enterOp_reset (blocks : UInt8 → Option EffectKind) :
    enterOp blocks (.deviceControl .reset) = fun _ => none :=
  rfl

def blocksAfter (ops : List EffectOp) : UInt8 → Option EffectKind :=
  ops.foldl enterOp fun _ => none

/-- The worker's loop over the operations of the channel, with the kernel's answers to each. -/
def runSinkWorker (sink : Sink) (ops : List (EffectOp × Answers)) : Sink :=
  ops.foldl (fun sink sent => (sink.apply sent.1 sent.2).1) sink

namespace Sink

theorem kinds_upload (sink : Sink) (block : UInt8) (answers : Answers) :
    (sink.upload block answers).1.kinds = sink.kinds := by
  simp only [upload]
  split
  · rfl
  · split <;> rfl

theorem kinds_apply (sink : Sink) (op : EffectOp) (answers : Answers) :
    (sink.apply op answers).1.kinds = enterOp sink.kinds op := by
  cases op with
  | create block kind => rfl
  | setEffect block durationMs direction => exact kinds_upload _ block answers
  | setConstant block magnitude => exact kinds_upload _ block answers
  | setRamp block start stop => exact kinds_upload _ block answers
  | setPeriodic block magnitude offset phase periodMs => exact kinds_upload _ block answers
  | setCondition block center coeffPos coeffNeg satPos satNeg =>
      exact kinds_upload _ block answers
  | setEnvelope block attackMs attackLevel fadeMs fadeLevel => exact kinds_upload _ block answers
  | operation block start loopCount =>
      simp only [apply]
      split <;> rfl
  | destroy block => rfl
  | gain value => rfl
  | deviceControl op => cases op <;> rfl

end Sink

/-- The blocks in use are those whose kind the sink knows once it has caught up, whatever the kernel
answers. -/
theorem kinds_runSinkWorker (ops : List (EffectOp × Answers)) :
    (runSinkWorker .opened ops).kinds = blocksAfter (ops.map Prod.fst) := by
  have caughtUp : ∀ sink : Sink, (runSinkWorker sink ops).kinds =
      (ops.map Prod.fst).foldl enterOp sink.kinds := by
    induction ops with
    | nil => exact fun _ => rfl
    | cons sent ops ih =>
        intro sink
        rw [List.map_cons, List.foldl_cons, ← Sink.kinds_apply sink sent.1 sent.2]
        exact ih _
  exact caughtUp .opened

namespace Event

/-- A Create New Effect that the proxy accepts. -/
def creates : Event → Bool
  | .setReport rnum data => rnum = 0x54 && (Proxy.createdKind data).isSome
  | _ => false

def asksCreate : Event → Bool
  | .setReport rnum _ => rnum = 0x54
  | _ => false

def asksBlockLoad : Event → Bool
  | .getReport rnum => rnum = 0x56
  | _ => false

def resets : Event → Bool
  | .output bytes => decode bytes = some (.deviceControl .reset)
  | .setReport rnum data => rnum ≠ 0x54 && decode data = some (.deviceControl .reset)
  | _ => false

end Event

/-- The creates accepted since the start or the last Device Reset, and the block of the last Create,
unless it was refused or has been reset. -/
structure Ledger where
  sinceReset : ℕ
  created : Option UInt8

def Ledger.enter (ledger : Ledger) (event : Event) (after : Proxy) : Ledger :=
  if event.creates then
    { sinceReset := ledger.sinceReset + 1, created := some after.lastCreatedBlock }
  else if event.asksCreate then { ledger with created := none }
  else if event.resets then { sinceReset := 0, created := none }
  else ledger

def proxySystem : System (Proxy × Ledger) Event where
  initial view := view = (.new, { sinceReset := 0, created := none })
  step view event :=
    let after := (view.1.receive event).1
    some (after, view.2.enter event after)

/-- What one event does to the counters, the operations sent and the ledger. -/
inductive Handled (view : Proxy × Ledger) : Event → Proxy × Ledger → Prop where
  | created (event : Event) (kind : EffectKind) (accepted : event.creates = true) :
      Handled view event
        ({ nextBlock := view.1.nextBlock + 1
           lastCreatedBlock := view.1.nextBlock
           sent := view.1.sent ++ [.create view.1.nextBlock kind] },
         { sinceReset := view.2.sinceReset + 1, created := some view.1.nextBlock })
  | refused (event : Event) (notAccepted : event.creates = false) (asked : event.asksCreate = true) :
      Handled view event (view.1, { view.2 with created := none })
  | reset (event : Event) (notAccepted : event.creates = false) :
      Handled view event
        ({ nextBlock := 1, lastCreatedBlock := 0, sent := view.1.sent ++ [.deviceControl .reset] },
         { sinceReset := 0, created := none })
  | forwarded (event : Event) (op : EffectOp) (notAccepted : event.creates = false)
      (notCreate : ∀ block kind, op ≠ .create block kind) :
      Handled view event ({ view.1 with sent := view.1.sent ++ [op] }, view.2)
  | ignored (event : Event) (notAccepted : event.creates = false) : Handled view event view

theorem bind_ne_some {α β : Type} {result : α → Option β} {value : β}
    (never : ∀ found, result found ≠ some value) (read : Option α) :
    read.bind result ≠ some value := by
  cases read with
  | none => simp
  | some found => exact never found

theorem ite_ne {α : Type} {condition : Prop} [Decidable condition] {yes no value : α}
    (yesNe : yes ≠ value) (noNe : no ≠ value) : (if condition then yes else no) ≠ value := by
  split
  · exact yesNe
  · exact noNe

theorem decode_ne_create (report : List UInt8) (block : UInt8) (kind : EffectKind) :
    decode report ≠ some (.create block kind) := by
  rw [decode]
  cases report.head? with
  | none => simp
  | some id =>
      refine ite_ne ?_ (ite_ne ?_ (ite_ne ?_ (ite_ne ?_ (ite_ne ?_ (ite_ne ?_ (ite_ne ?_
        (ite_ne ?_ (ite_ne ?_ (ite_ne ?_ ?_)))))))))
      -- Every arm reads its fields one after the other and ends in an operation of its own.
      all_goals
        try simp only [decodeDeviceControl, decodeSetEffect, decodeSetEnvelope, decodeSetCondition,
          decodeSetConstant, decodeSetRamp, decodeEffectOperation, decodeSetPeriodic]
        repeat refine bind_ne_some (fun _ => ?_) _
        simp

section Handling

variable (view : Proxy × Ledger)

/-- A report that goes through the decoder is forwarded, and resets the counters if it is a reset. -/
theorem handled_decoded (event : Event) (report : List UInt8)
    (received : (view.1.receive event).1 = view.1.dispatchDecoded report)
    (notAccepted : event.creates = false) (notAsked : event.asksCreate = false)
    (resets_iff : event.resets = true ↔ decode report = some (.deviceControl .reset)) :
    Handled view event ((view.1.receive event).1, view.2.enter event (view.1.receive event).1) := by
  rw [received]
  cases decoded : decode report with
  | none =>
      have quiet : event.resets = false := by
        rw [← Bool.not_eq_true, resets_iff, decoded]
        simp
      simp only [Proxy.dispatchDecoded, decoded, Ledger.enter, notAccepted, notAsked, quiet,
        Bool.false_eq_true, ↓reduceIte]
      exact .ignored event notAccepted
  | some op =>
      by_cases isReset : op = .deviceControl .reset
      · have resets : event.resets = true := by rw [resets_iff, decoded, isReset]
        simp only [Proxy.dispatchDecoded, decoded, Proxy.dispatch, isReset, Ledger.enter,
          notAccepted, notAsked, resets, Bool.false_eq_true, ↓reduceIte]
        exact .reset event notAccepted
      · have quiet : event.resets = false := by
          rw [← Bool.not_eq_true, resets_iff, decoded]
          simpa using isReset
        simp only [Proxy.dispatchDecoded, decoded, Proxy.dispatch, isReset, Ledger.enter,
          notAccepted, notAsked, quiet, Bool.false_eq_true, ↓reduceIte]
        apply Handled.forwarded event op notAccepted
        intro block kind same
        exact decode_ne_create report block kind (same ▸ decoded)

theorem handled (event : Event) :
    Handled view event ((view.1.receive event).1, view.2.enter event (view.1.receive event).1) := by
  cases event with
  | output bytes => exact handled_decoded view _ bytes rfl rfl rfl (by simp [Event.resets])
  | setReport rnum data =>
      by_cases create : rnum = 0x54
      · subst create
        cases found : Proxy.createdKind data with
        | none =>
            have unchanged : (view.1.receive (.setReport 0x54 data)).1 = view.1 := by
              simp [Proxy.receive, Proxy.createNewEffect, found]
            have refused : (Event.setReport 0x54 data).creates = false := by
              simp [Event.creates, found]
            simp only [unchanged, Ledger.enter, refused, Event.asksCreate, decide_true,
              Bool.false_eq_true, ↓reduceIte]
            exact .refused _ refused rfl
        | some kind =>
            have accepted : (Event.setReport 0x54 data).creates = true := by
              simp [Event.creates, found]
            simp only [Ledger.enter, accepted, ↓reduceIte]
            simp only [Proxy.receive, Proxy.createNewEffect, found, assignBlock, Proxy.dispatch,
              reduceCtorEq, ↓reduceIte]
            exact .created _ kind accepted
      · refine handled_decoded view _ data ?_ ?_ ?_ ?_
        · simp [Proxy.receive, create]
        · simp [Event.creates, create]
        · simp [Event.asksCreate, create]
        · simp [Event.resets, create]
  | getReport rnum =>
      have unchanged : (view.1.receive (.getReport rnum)).1 = view.1 := by
        simp only [Proxy.receive]
        split_ifs <;> rfl
      rw [unchanged]
      exact .ignored _ rfl
  | other => exact .ignored _ rfl

theorem handled_of_step {view next : Proxy × Ledger} {event : Event}
    (stepped : proxySystem.step view event = some next) : Handled view event next := by
  simp only [proxySystem, Option.some.injEq] at stepped
  exact stepped ▸ handled view event

end Handling

/-- The Logical Maximum of the Effect Block Index; its minimum is 1. -/
def blockIndexMax : ℕ := 0x28

def Proxy.InUse (proxy : Proxy) (block : UInt8) : Prop := (blocksAfter proxy.sent block).isSome

instance (proxy : Proxy) (block : UInt8) : Decidable (proxy.InUse block) :=
  inferInstanceAs (Decidable (_ = true))

/-- The block that a Create is given is declared by the descriptor, and not in use. -/
def AssignsFreeBlock (view : Proxy × Ledger) (event : Event) : Prop :=
  event.creates →
    let block := (view.1.receive event).1.lastCreatedBlock
    1 ≤ block.toNat ∧ block.toNat ≤ blockIndexMax ∧ ¬view.1.InUse block

instance (view : Proxy × Ledger) (event : Event) : Decidable (AssignsFreeBlock view event) :=
  inferInstanceAs (Decidable (_ → _))

def BlocksLeft (view : Proxy × Ledger) (event : Event) : Prop :=
  event.creates → view.2.sinceReset < blockIndexMax

/-- The counter is one past the creates since the last reset, and so are the blocks in use. -/
structure CountsBlocks (view : Proxy × Ledger) : Prop where
  bounded : view.2.sinceReset ≤ blockIndexMax
  next : view.1.nextBlock.toNat = view.2.sinceReset + 1
  inUse : ∀ block, view.1.InUse block → 1 ≤ block.toNat ∧ block.toNat ≤ view.2.sinceReset

theorem blocksAfter_append (ops : List EffectOp) (op : EffectOp) :
    blocksAfter (ops ++ [op]) = enterOp (blocksAfter ops) op := by
  simp [blocksAfter, List.foldl_append]

/-- No operation but a create brings a block into use. -/
theorem isSome_enterOp {blocks : UInt8 → Option EffectKind} {op : EffectOp}
    (notCreate : ∀ block kind, op ≠ .create block kind) {block : UInt8}
    (used : (enterOp blocks op block).isSome) : (blocks block).isSome := by
  cases op with
  | create created kind => exact absurd rfl (notCreate created kind)
  | destroy freed =>
      by_cases same : block = freed
      · subst same
        simp at used
      · simpa [same] using used
  | deviceControl op =>
      cases op with
      | reset => simp at used
      | _ => exact used
  | _ => exact used

theorem lastCreatedBlock_receive {event : Event} (accepted : event.creates = true)
    (proxy : Proxy) : (proxy.receive event).1.lastCreatedBlock = proxy.nextBlock := by
  cases event with
  | setReport rnum data =>
      simp only [Event.creates, Bool.and_eq_true, decide_eq_true_eq] at accepted
      rcases accepted with ⟨rfl, known⟩
      rcases Option.isSome_iff_exists.mp known with ⟨kind, found⟩
      simp [Proxy.receive, Proxy.createNewEffect, found, assignBlock, Proxy.dispatch]
  | output bytes => exact absurd accepted (by simp [Event.creates])
  | getReport rnum => exact absurd accepted (by simp [Event.creates])
  | other => exact absurd accepted (by simp [Event.creates])

theorem CountsBlocks.assigns_iff {view : Proxy × Ledger} (counts : CountsBlocks view)
    (event : Event) : AssignsFreeBlock view event ↔ BlocksLeft view event := by
  simp only [AssignsFreeBlock, BlocksLeft]
  apply imp_congr_right
  intro accepted
  rw [lastCreatedBlock_receive accepted, counts.next]
  constructor
  · rintro ⟨-, declared, -⟩
    omega
  · intro left
    refine ⟨by omega, by omega, ?_⟩
    intro used
    have := (counts.inUse _ used).2
    rw [counts.next] at this
    omega

theorem CountsBlocks.step {view next : Proxy × Ledger} {event : Event} (counts : CountsBlocks view)
    (left : BlocksLeft view event) (handled : Handled view event next) : CountsBlocks next := by
  cases handled with
  | created kind accepted =>
      have room := left accepted
      have fits : view.1.nextBlock.toNat + 1 < 256 := by
        rw [counts.next]
        simp only [blockIndexMax] at room
        omega
      refine ⟨room, ?_, ?_⟩
      · rw [UInt8.toNat_add, UInt8.toNat_one, Nat.mod_eq_of_lt fits, counts.next]
      · intro block used
        simp only [Proxy.InUse, blocksAfter_append, enterOp_create] at used
        show 1 ≤ block.toNat ∧ block.toNat ≤ view.2.sinceReset + 1
        by_cases same : block = view.1.nextBlock
        · subst same
          rw [counts.next]
          omega
        · rw [Function.update_of_ne same] at used
          have := counts.inUse block used
          omega
  | refused notAccepted asked => exact ⟨counts.bounded, counts.next, counts.inUse⟩
  | reset notAccepted =>
      refine ⟨Nat.zero_le _, rfl, ?_⟩
      intro block used
      simp [Proxy.InUse, blocksAfter_append] at used
  | forwarded op notAccepted notCreate =>
      refine ⟨counts.bounded, counts.next, ?_⟩
      intro block used
      simp only [Proxy.InUse, blocksAfter_append] at used
      exact counts.inUse block (isSome_enterOp notCreate used)
  | ignored notAccepted => exact counts

theorem CountsBlocks.start {view : Proxy × Ledger} (initial : proxySystem.initial view) :
    CountsBlocks view := by
  cases initial
  exact ⟨Nat.zero_le _, rfl, by simp [Proxy.InUse, Proxy.new, blocksAfter]⟩

theorem assigned_blocks_free_iff (events : List Event) :
    proxySystem.RunMeets AssignsFreeBlock (.new, { sinceReset := 0, created := none }) events ↔
      proxySystem.RunMeets BlocksLeft (.new, { sinceReset := 0, created := none }) events := by
  refine System.runMeets_congr ?_ ?_ (CountsBlocks.start rfl) events
  · exact fun view event counts => counts.assigns_iff event
  · intro view event next counts assigns stepped
    exact counts.step ((counts.assigns_iff event).mp assigns) (handled_of_step stepped)

/-- Constant effects are created and freed one after the other; the 41st create is the first to be
given a block that does not exist. -/
theorem assigned_block_past_declared :
    ¬proxySystem.RunMeets AssignsFreeBlock (.new, { sinceReset := 0, created := none })
      ((List.range 41).flatMap fun index =>
        [.setReport 0x54 [0x54, 1], .output [0x5B, UInt8.ofNat (index + 1)]]) := by
  decide +kernel

/-- The block that a Block Load report hands over if it reports success. -/
def Reply.loadedBlock : Reply → Option UInt8
  | .getReport _ data => if data[2]? = some 1 then data[1]? else none
  | .setReport _ => none

/-- A Block Load that reports success names the block of the Create before it. -/
def LoadsCreated (view : Proxy × Ledger) (event : Event) : Prop :=
  event.asksBlockLoad →
    ∀ block ∈ (view.1.receive event).2.bind Reply.loadedBlock, view.2.created = some block

instance (view : Proxy × Ledger) (event : Event) : Decidable (LoadsCreated view event) :=
  inferInstanceAs (Decidable (_ → _))

/-- The last Create was accepted, and no Device Reset came after it. -/
def FollowsCreate (view : Proxy × Ledger) (event : Event) : Prop :=
  event.asksBlockLoad → view.2.created.isSome

def RemembersCreated (view : Proxy × Ledger) : Prop :=
  ∀ block, view.2.created = some block → view.1.lastCreatedBlock = block

theorem RemembersCreated.start {view : Proxy × Ledger} (initial : proxySystem.initial view) :
    RemembersCreated view := by
  cases initial
  simp [RemembersCreated]

theorem RemembersCreated.step {view next : Proxy × Ledger} {event : Event}
    (remembers : RemembersCreated view) (handled : Handled view event next) :
    RemembersCreated next := by
  intro block created
  cases handled with
  | created kind accepted => simpa using created
  | refused notAccepted asked => exact absurd created (by simp)
  | reset notAccepted => exact absurd created (by simp)
  | forwarded op notAccepted notCreate => exact remembers block created
  | ignored notAccepted => exact remembers block created

theorem RemembersCreated.loads_iff {view : Proxy × Ledger} (remembers : RemembersCreated view)
    (event : Event) : LoadsCreated view event ↔ FollowsCreate view event := by
  simp only [LoadsCreated, FollowsCreate]
  apply imp_congr_right
  intro asked
  cases event with
  | getReport rnum =>
      simp only [Event.asksBlockLoad, decide_eq_true_eq] at asked
      have loaded : (view.1.receive (.getReport rnum)).2.bind Reply.loadedBlock =
          some view.1.lastCreatedBlock := by
        simp [Proxy.receive, asked, Reply.loadedBlock, pidBlockLoadReply]
      rw [loaded]
      constructor
      · intro loads
        rw [loads _ rfl]
        rfl
      · rintro created _ ⟨rfl⟩
        rcases Option.isSome_iff_exists.mp created with ⟨block, created⟩
        rw [created, remembers block created]
  | output bytes => exact absurd asked (by simp [Event.asksBlockLoad])
  | setReport rnum data => exact absurd asked (by simp [Event.asksBlockLoad])
  | other => exact absurd asked (by simp [Event.asksBlockLoad])

theorem block_load_names_created_iff (events : List Event) :
    proxySystem.RunMeets LoadsCreated (.new, { sinceReset := 0, created := none }) events ↔
      proxySystem.RunMeets FollowsCreate (.new, { sinceReset := 0, created := none }) events := by
  refine System.runMeets_congr ?_ ?_ (RemembersCreated.start rfl) events
  · exact fun view event remembers => remembers.loads_iff event
  · exact fun view event next remembers _ stepped => remembers.step (handled_of_step stepped)

/-- A Custom Force effect is refused, and the host is given the block of the effect before it. -/
theorem block_load_names_earlier_block :
    ¬proxySystem.RunMeets LoadsCreated (.new, { sinceReset := 0, created := none })
      [.setReport 0x54 [0x54, 1], .getReport 0x56, .setReport 0x54 [0x54, 3], .getReport 0x56] := by
  decide +kernel

end TrueForce.LogiFfb
