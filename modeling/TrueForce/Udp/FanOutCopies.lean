import TrueForce.Udp.FanOutWiring
import TrueForce.Foundation.UpwardFlow
import Mathlib.Algebra.Group.Nat.Defs

/-!
# How many copies there are

Every copy that was sent to a port is taken there at most once, and a hub
forwards what it took once to each of its ports.  Where forwarding goes upward,
a datagram comes to a bounded number of copies.
-/

namespace TrueForce.Udp.FanOut

open Transition

namespace State

variable (state : State) (number port source target : ℕ)

/-- The copies producers and hubs sent to a port. -/
def sentTo : ℕ :=
  (if state.origins[number]? = some port then 1 else 0) +
    state.forwards.countP fun forward => forward.number = number ∧ forward.target = port

/-- What waits at a port. -/
def queue : List Datagram :=
  match state.sockets port with
  | some socket => socket.queue
  | none => []

def queued : ℕ := (state.queue port).countP fun datagram => datagram.number = number

def takenAt : ℕ := state.takes.countP fun take => take.number = number ∧ take.port = port

def passed : ℕ :=
  state.forwards.countP fun forward =>
    forward.number = number ∧ forward.source = source ∧ forward.target = target

def copies : ℕ := state.forwards.countP fun forward => forward.number = number

end State

variable {state next : State} {event : Event} {id now number port source target : ℕ}
  {reader : Reader}

def Conserved (state : State) : Prop :=
  ∀ number port, state.queued number port + state.takenAt number port ≤ state.sentTo number port

theorem queue_setSocket (socket : Option Socket) (other : ℕ) :
    (state.setSocket port socket).queue other =
      if other = port then socket.elim [] Socket.queue else state.queue other := by
  simp only [State.queue, State.sockets_setSocket, Function.update_apply]
  by_cases same : other = port
  · simp only [same, if_true]
    cases socket with
    | none => rfl
    | some socket => rfl
  · simp only [same, if_false]

theorem queue_deliver (datagram : Datagram) (kept : Bool) (other : ℕ) :
    (state.deliver target datagram kept).queue other = state.queue other ∨
      target = other ∧
        (state.deliver target datagram kept).queue other = state.queue other ++ [datagram] := by
  simp only [State.deliver]
  split
  · rename_i socket bound
    split
    · rw [queue_setSocket]
      split
      · rename_i same
        subst same
        simp only [State.queue, bound, Option.elim_some, true_and, or_true]
      · exact .inl rfl
    · exact .inl rfl
  · exact .inl rfl

theorem queue_exit : ((state.exit id).queue port).Sublist (state.queue port) := by
  simp only [State.queue, State.exit, State.setReader]
  cases state.sockets port with
  | none => exact .refl _
  | some socket =>
      by_cases mine : socket.holder = id
      · simp only [Option.filter_some, mine, ne_eq, not_true_eq_false, decide_false,
          Bool.false_eq_true, if_false]
        exact List.nil_sublist _
      · simp only [Option.filter_some, mine, ne_eq, not_false_eq_true, decide_true, if_true]
        exact .refl _

/-- A socket that was just bound has nothing in it. -/
theorem queue_bind :
    ((state.setSocket port (some { holder := id, queue := [] })).queue target).Sublist
      (state.queue target) := by
  rw [queue_setSocket]
  split
  · exact List.nil_sublist _
  · exact .refl _

theorem queue_close : ((state.setSocket port none).queue target).Sublist (state.queue target) := by
  rw [queue_setSocket]
  split
  · exact List.nil_sublist _
  · exact .refl _

theorem queued_deliver (datagram : Datagram) (kept : Bool) :
    (state.deliver target datagram kept).queued number port ≤
      state.queued number port + if datagram.number = number ∧ target = port then 1 else 0 := by
  simp only [State.queued]
  rcases @queue_deliver state target datagram kept port with same | ⟨rfl, longer⟩
  · rw [same]
    exact Nat.le_add_right _ _
  · simp only [longer, List.countP_append, List.countP_singleton, decide_eq_true_eq, and_true,
      Nat.le_refl]

theorem Conserved.weaken (conserved : Conserved state)
    (queue : ∀ port, (next.queue port).Sublist (state.queue port))
    (takes : next.takes = state.takes) (origins : next.origins = state.origins)
    (forwards : next.forwards = state.forwards) : Conserved next := by
  intro number port
  have before := conserved number port
  have fewer : next.queued number port ≤ state.queued number port :=
    (queue port).countP_le
  simp only [State.takenAt, State.sentTo, takes, origins, forwards] at before ⊢
  omega

theorem takenAt_cons (take : Take) :
    { state with takes := take :: state.takes }.takenAt number port =
      state.takenAt number port + if take.number = number ∧ take.port = port then 1 else 0 := by
  simp only [State.takenAt, List.countP_cons, decide_eq_true_eq]

theorem takenAt_setSocket (socket : Option Socket) (other : ℕ) :
    (state.setSocket port socket).takenAt number other = state.takenAt number other := rfl

theorem sentTo_forward (forward : Forward) :
    { state with forwards := forward :: state.forwards }.sentTo number port =
      state.sentTo number port +
        if forward.number = number ∧ forward.target = port then 1 else 0 := by
  simp only [State.sentTo, List.countP_cons, decide_eq_true_eq, Nat.add_assoc]

theorem le_sentTo_send : (state.sentTo number target +
      if state.origins.length = number ∧ port = target then 1 else 0) ≤
    { state with origins := state.origins ++ [port] }.sentTo number target := by
  simp only [State.sentTo, Nat.add_right_comm _ (List.countP _ _)]
  apply Nat.add_le_add_right
  by_cases inside : number < state.origins.length
  · have different : state.origins.length ≠ number := by omega
    simp only [List.getElem?_append_left inside, different, false_and, if_false, Nat.add_zero,
      Nat.le_refl]
  · have absent : state.origins[number]? = none := by
      rw [List.getElem?_eq_none_iff]
      omega
    simp only [absent, reduceCtorEq, if_false, Nat.zero_add]
    by_cases last : state.origins.length = number
    · subst last
      simp only [true_and, List.getElem?_concat_length, Option.some.injEq, Nat.le_refl]
    · simp only [last, false_and, if_false, Nat.zero_le]

theorem sentTo_deliver (datagram : Datagram) (kept : Bool) (other : ℕ) :
    (state.deliver target datagram kept).sentTo number other = state.sentTo number other := by
  simp only [State.sentTo, State.origins_deliver, State.forwards_deliver]

theorem takenAt_deliver (datagram : Datagram) (kept : Bool) (other : ℕ) :
    (state.deliver target datagram kept).takenAt number other = state.takenAt number other := by
  simp only [State.takenAt, State.takes_deliver]

theorem Conserved.received {socket : Socket} {datagram : Datagram} {waiting : List Datagram}
    (conserved : Conserved state) (bound : state.sockets port = some socket)
    (queue : socket.queue = datagram :: waiting) :
    Conserved ({ state with
      takes := { reader := id, number := datagram.number, port } :: state.takes
      }.setSocket port (some { holder := id, queue := waiting })) := by
  intro number other
  have before := conserved number other
  rw [takenAt_setSocket, takenAt_cons]
  change _ ≤ state.sentTo number other
  simp only [State.queued, queue_setSocket] at before ⊢
  by_cases same : other = port
  · subst same
    simp only [State.queue, bound, queue, List.countP_cons, decide_eq_true_eq] at before
    simp only [Option.elim_some, and_true, if_true]
    omega
  · have apart : ¬port = other := Ne.symm same
    simp only [same, if_false, apart, and_false, Nat.add_zero]
    exact before

theorem Conserved.forwarded (conserved : Conserved state) (datagram : Datagram) (kept : Bool) :
    Conserved ({ state with
      forwards := { number := datagram.number, source, target } :: state.forwards
      }.deliver target { datagram with via := some id } kept) := by
  intro number other
  have before := conserved number other
  rw [takenAt_deliver, sentTo_deliver, sentTo_forward]
  apply Nat.le_trans (Nat.add_le_add_right (queued_deliver _ kept) _)
  change state.queued number other + _ + state.takenAt number other ≤ _
  simp only
  omega

theorem Conserved.sent (conserved : Conserved state) (payload : List UInt8) (kept : Bool) :
    Conserved ({ state with origins := state.origins ++ [port] }.deliver port
      { number := state.origins.length, payload, via := none } kept) := by
  intro number other
  have before := conserved number other
  have more := @le_sentTo_send state number port other
  rw [takenAt_deliver, sentTo_deliver]
  apply Nat.le_trans (Nat.add_le_add_right (queued_deliver _ kept) _)
  change state.queued number other + _ + state.takenAt number other ≤ _
  simp only at more ⊢
  omega

theorem Conserved.stepped (conserved : Conserved state) (stepped : Stepped state event next) :
    Conserved next := by
  cases stepped with
  | opened impl base => exact conserved
  | gaveUp found phase => exact conserved
  | refused found phase => exact conserved
  | bound found phase candidate free => exact conserved.weaken (fun _ => queue_bind) rfl rfl rfl
  | received found phase bound queue number taken => exact conserved.received bound queue
  | timedOut found phase => exact conserved
  | stayed found looks => exact conserved
  | promoted found looks due free => exact conserved.weaken (fun _ => queue_bind) rfl rfl rfl
  | swapped found phase => exact conserved.weaken (fun _ => queue_close) rfl rfl rfl
  | forwarded found phase => exact conserved.forwarded _ _
  | finished found phase => exact conserved
  | exited found => exact conserved.weaken (fun _ => queue_exit) rfl rfl rfl
  | sent port payload kept => exact conserved.sent payload kept

/-- A hub that will forward a copy to a port. -/
def Reader.Owes (reader : Reader) (number target : ℕ) : Prop :=
  reader.hub = true ∧
    ((∃ datagram left, reader.phase = .forwarding datagram left ∧ datagram.number = number ∧
        target ∈ left) ∨
      ∃ datagram, reader.phase = .received (some datagram) ∧ datagram.number = number)

/-- Nobody forwards more copies than were taken, and who still has to, has not. -/
structure Spent (state : State) : Prop where
  passed : ∀ number source target,
    state.passed number source target ≤ state.takenAt number source
  owing : ∀ id reader number target, state.readers id = some reader → reader.Owes number target →
    state.passed number reader.port target < state.takenAt number reader.port

namespace Spent

/-- A reader that changes, and owes no more than before. -/
theorem setReader (spent : Spent state) (after : Option Reader)
    (readers : next.readers = Function.update state.readers id after)
    (forwards : next.forwards = state.forwards) (takes : next.takes = state.takes)
    (owing : ∀ reader, after = some reader → ∀ number target, reader.Owes number target →
      state.passed number reader.port target < state.takenAt number reader.port) :
    Spent next := by
  refine ⟨?_, ?_⟩
  · intro number source target
    simp only [State.passed, State.takenAt, forwards, takes]
    exact spent.passed number source target
  · intro other reader number target found owes
    simp only [State.passed, State.takenAt, forwards, takes]
    simp only [readers, Function.update_apply] at found
    split at found
    · exact owing reader found number target owes
    · exact spent.owing other reader number target found owes

theorem received (spent : Spent state) {take : Take} {after : Reader}
    (readers : next.readers = Function.update state.readers id (some after))
    (forwards : next.forwards = state.forwards) (takes : next.takes = take :: state.takes)
    (port : after.port = take.port)
    (owing : ∀ number target, after.Owes number target → number = take.number) : Spent next := by
  have more : ∀ number port, next.takenAt number port =
      state.takenAt number port +
        if take.number = number ∧ take.port = port then 1 else 0 := by
    intro number port
    rw [← takenAt_cons]
    simp only [State.takenAt, takes]
  have same : ∀ number source target,
      next.passed number source target = state.passed number source target := by
    intro number source target
    simp only [State.passed, forwards]
  refine ⟨?_, ?_⟩
  · intro number source target
    have before := spent.passed number source target
    rw [more, same]
    omega
  · intro other reader number target found owes
    rw [more, same]
    simp only [readers, Function.update_apply] at found
    split at found
    · cases found
      have before := spent.passed number after.port target
      have mine := owing number target owes
      simp only [mine, port, and_self, if_true] at before ⊢
      omega
    · have before := spent.owing other reader number target found owes
      omega

theorem forwarded (spent : Spent state) (wired : Wired state) {datagram : Datagram}
    {left : List ℕ} (found : state.readers id = some reader)
    (phase : reader.phase = .forwarding datagram (target :: left))
    (readers : next.readers = Function.update state.readers id
      (some { reader with phase := .forwarding datagram left }))
    (forwards : next.forwards =
      { number := datagram.number, source := reader.port, target } :: state.forwards)
    (takes : next.takes = state.takes) : Spent next := by
  have on : reader.listening = true := by simp only [Reader.listening, phase]
  have fair := wired.fair id reader found
  have hub := (fair.hub_of_left phase).1
  have distinct := (fair.left datagram _ phase).1.nodup (nodup_fanoutPorts reader.impl reader.base)
  rw [List.nodup_cons] at distinct
  have owed : ∀ other, other ∈ target :: left →
      state.passed datagram.number reader.port other <
        state.takenAt datagram.number reader.port := by
    intro other occurs
    exact spent.owing id reader datagram.number other found
      ⟨hub, .inl ⟨datagram, _, phase, rfl, occurs⟩⟩
  have more : ∀ number source other, next.passed number source other =
      state.passed number source other +
        if datagram.number = number ∧ reader.port = source ∧ target = other then 1 else 0 := by
    intro number source other
    simp only [State.passed, forwards, List.countP_cons, decide_eq_true_eq]
  have same : ∀ number port, next.takenAt number port = state.takenAt number port := by
    intro number port
    simp only [State.takenAt, takes]
  refine ⟨?_, ?_⟩
  · intro number source other
    have before := spent.passed number source other
    rw [more, same]
    split
    · rename_i this
      rcases this with ⟨rfl, rfl, rfl⟩
      exact owed target List.mem_cons_self
    · exact before
  · intro owner owing number other found' owes
    rw [more, same]
    simp only [readers, Function.update_apply] at found'
    split at found'
    · cases found'
      rcases owes with ⟨_, ⟨_, _, ⟨⟩, rfl, occurs⟩ | ⟨_, ⟨⟩, _⟩⟩
      have differs : target ≠ other := by
        rintro rfl
        exact distinct.1 occurs
      simp only [differs, and_false, if_false, Nat.add_zero]
      exact owed other (List.mem_cons_of_mem target occurs)
    · rename_i different
      have before := spent.owing owner owing number other found' owes
      have apart : reader.port ≠ owing.port := by
        intro same
        have isOn : owing.listening = true := by
          rcases owes with ⟨_, ⟨_, _, phase', _⟩ | ⟨_, phase', _⟩⟩
          · simp only [Reader.listening, phase']
          · simp only [Reader.listening, phase']
        have theirs := wired.holderOf_port found' isOn
        rw [← same, wired.holderOf_port found on, Option.some.injEq] at theirs
        exact different theirs.symm
      simp only [apart, false_and, and_false, if_false, Nat.add_zero]
      exact before

theorem stepped (spent : Spent state) (wired : Wired state)
    (stepped : Stepped state event next) : Spent next := by
  cases stepped with
  | opened impl base =>
      refine spent.setReader (some _) rfl rfl rfl ?_
      rintro _ ⟨⟩ number target ⟨⟨⟩, _⟩
  | gaveUp found phase =>
      refine spent.setReader none rfl rfl rfl ?_
      rintro _ ⟨⟩
  | refused found phase =>
      refine spent.setReader (some _) rfl rfl rfl ?_
      rintro _ ⟨⟩ number target ⟨_, ⟨_, _, ⟨⟩, _⟩ | ⟨_, ⟨⟩, _⟩⟩
  | bound found phase candidate free =>
      refine spent.setReader (some _) rfl rfl rfl ?_
      rintro _ ⟨⟩ number target ⟨_, ⟨_, _, ⟨⟩, _⟩ | ⟨_, ⟨⟩, _⟩⟩
  | received found phase bound queue number taken =>
      refine spent.received rfl rfl rfl rfl ?_
      rintro other target ⟨_, ⟨_, _, after, rfl, _⟩ | ⟨_, after, rfl⟩⟩
      · rcases taken with rfl | ⟨_, rfl⟩
        · cases after
          exact number
        · cases after
      · rcases taken with rfl | ⟨_, rfl⟩
        · cases after
        · cases after
          exact number
  | timedOut found phase =>
      refine spent.setReader (some _) rfl rfl rfl ?_
      rintro _ ⟨⟩ number target ⟨_, ⟨_, _, ⟨⟩, _⟩ | ⟨_, ⟨⟩, _⟩⟩
  | @stayed id now later reader inHand found looks =>
      refine spent.setReader (some _) rfl rfl rfl ?_
      cases inHand with
      | none => rintro _ ⟨⟩ number target ⟨_, ⟨_, _, ⟨⟩, _⟩ | ⟨_, ⟨⟩, _⟩⟩
      | some datagram =>
          rintro _ ⟨⟩ number target ⟨hub, ⟨_, _, ⟨⟩, rfl, _⟩ | ⟨_, ⟨⟩, _⟩⟩
          rcases looks with ⟨_, ⟨⟩⟩ | ⟨_, phase⟩
          exact spent.owing id reader _ target found ⟨hub, .inr ⟨datagram, phase, rfl⟩⟩
  | promoted found looks due free =>
      refine spent.setReader (some _) rfl rfl rfl ?_
      rintro _ ⟨⟩ number target ⟨_, ⟨_, _, ⟨⟩, _⟩ | ⟨_, ⟨⟩, _⟩⟩
  | swapped found phase =>
      rcases (wired.fair _ _ found).promoting _ phase with ⟨rfl, _⟩
      refine spent.setReader (some _) rfl rfl rfl ?_
      rintro _ ⟨⟩ number target ⟨_, ⟨_, _, ⟨⟩, _⟩ | ⟨_, ⟨⟩, _⟩⟩
  | forwarded found phase =>
      apply spent.forwarded wired found phase
      · rw [State.readers_setReader, State.readers_deliver]
      · exact State.forwards_deliver ..
      · exact State.takes_deliver ..
  | finished found phase =>
      refine spent.setReader (some _) rfl rfl rfl ?_
      rintro _ ⟨⟩ number target ⟨_, ⟨_, _, ⟨⟩, _⟩ | ⟨_, ⟨⟩, _⟩⟩
  | exited found =>
      refine spent.setReader none rfl rfl rfl ?_
      rintro _ ⟨⟩
  | sent port payload kept =>
      refine ⟨?_, ?_⟩
      · intro number source target
        simp only [State.passed, State.takenAt, State.forwards_deliver, State.takes_deliver]
        exact spent.passed number source target
      · intro id reader number target found owes
        simp only [State.passed, State.takenAt, State.forwards_deliver, State.takes_deliver]
        rw [State.readers_deliver] at found
        exact spent.owing id reader number target found owes

end Spent

def Reader.nextTarget (reader : Reader) : Option ℕ :=
  match reader.phase with
  | .forwarding _ left => left.head?
  | .opening _ | .idle | .received _ | .promoting _ => none

theorem Reader.nextTarget_eq_some :
    reader.nextTarget = some target ↔
      ∃ datagram left, reader.phase = .forwarding datagram (target :: left) := by
  constructor
  · intro next
    simp only [Reader.nextTarget] at next
    split at next
    · rename_i datagram left phase
      rcases List.head?_eq_some_iff.mp next with ⟨rest, rfl⟩
      exact ⟨datagram, rest, phase⟩
    all_goals cases next
  · rintro ⟨datagram, left, phase⟩
    simp only [Reader.nextTarget, phase, List.head?_cons]

/-- What is forwarded goes to a port above the one it was read from. -/
def Upward (state : State) : Event → Prop
  | .forward id _ => ∀ reader ∈ state.readers id, ∀ target ∈ reader.nextTarget, reader.port < target
  | _ => True

instance (state : State) : ∀ event, Decidable (Upward state event)
  | .forward id _ => inferInstanceAs (Decidable (∀ reader ∈ state.readers id, _))
  | .open _ _ | .bind _ _ | .receive _ | .timeout _ | .promote _ _ | .swap _ | .finish _ | .exit _
  | .send _ _ _ => isTrue trivial

def Rising (state : State) : Prop :=
  ∀ forward ∈ state.forwards, forward.source < forward.target ∧ forward.target < 2 ^ 16

theorem lt_of_mem_fanoutPorts {impl : Impl} {base : ℕ} (occurs : port ∈ fanoutPorts impl base) :
    port < 2 ^ 16 := by
  cases impl with
  | rust =>
      simp only [fanoutPorts, List.mem_filter, decide_eq_true_eq] at occurs
      exact occurs.2
  | c =>
      simp only [fanoutPorts, wire, List.mem_cons, List.not_mem_nil, or_false] at occurs
      omega

theorem Rising.stepped (rising : Rising state) (wired : Wired state) (meets : Upward state event)
    (stepped : Stepped state event next) : Rising next := by
  cases stepped with
  | @forwarded id target kept reader datagram left found phase =>
      intro forward occurs
      simp only [State.setReader, State.forwards_deliver, List.mem_cons] at occurs
      rcases occurs with rfl | occurs
      · have upward := meets reader found target
          (Reader.nextTarget_eq_some.mpr ⟨datagram, left, phase⟩)
        refine ⟨upward, ?_⟩
        exact lt_of_mem_fanoutPorts ((wired.fair id reader found).hub_of_left phase).2
      · exact rising forward occurs
  | sent port payload kept =>
      intro forward occurs
      rw [State.forwards_deliver] at occurs
      exact rising forward occurs
  | _ => exact rising

theorem sentTo_le (conserved : Conserved state) (spent : Spent state) (rising : Rising state)
    (number port : ℕ) :
    state.sentTo number port ≤ 1 + ∑ source ∈ Finset.range port, state.sentTo number source := by
  have fed : (state.forwards.countP fun forward => forward.number = number ∧
      forward.target = port) ≤ ∑ source ∈ Finset.range port, state.sentTo number source := by
    apply Nat.le_trans (UpwardFlow.countP_le_sum _ Forward.source port ?_)
    · apply Finset.sum_le_sum
      intro source _
      have taken := spent.passed number source port
      have sent := conserved number source
      simp only [State.passed] at taken
      apply Nat.le_trans (List.countP_mono_left ?_) (Nat.le_trans taken (by omega))
      intro forward _ counted
      simp only [Bool.and_eq_true, decide_eq_true_eq] at counted ⊢
      exact ⟨counted.1.1, counted.2, counted.1.2⟩
    · intro forward occurs counted
      simp only [decide_eq_true_eq] at counted
      rw [← counted.2]
      exact (rising forward occurs).1
  simp only [State.sentTo] at fed ⊢
  split
  · omega
  · omega

theorem copies_lt (conserved : Conserved state) (spent : Spent state) (rising : Rising state)
    (number : ℕ) : state.copies number < 2 ^ 2 ^ 16 := by
  have total := UpwardFlow.sum_load_lt (sentTo_le conserved spent rising number) (2 ^ 16)
  apply Nat.lt_of_le_of_lt _ total
  apply Nat.le_trans (UpwardFlow.countP_le_sum _ Forward.target (2 ^ 16) ?_)
  · apply Finset.sum_le_sum
    intro port _
    simp only [State.sentTo]
    apply Nat.le_trans (List.countP_mono_left ?_) (Nat.le_add_left _ _)
    intro forward _ counted
    simp only [Bool.and_eq_true, decide_eq_true_eq] at counted ⊢
    exact counted
  · intro forward occurs _
    exact (rising forward occurs).2

end TrueForce.Udp.FanOut
