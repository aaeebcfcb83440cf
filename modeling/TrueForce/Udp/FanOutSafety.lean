import TrueForce.Udp.FanOutCopies

/-!
# What the readers of one relay port may rely on

With one relay port in use every copy starts there, so a port behind it sees a
datagram once at most.  A reader that reads one port and is promoted to the relay
port is then still handed each datagram once: what reached it as a follower has
been taken from the relay port already.
-/

namespace TrueForce.Udp.FanOut

open Transition

variable {state next : State} {event : Event} {base id : ℕ} {reader : Reader}

/-- One relay port is in use. -/
def OnPort (base : ℕ) : Event → Prop
  | .open _ relay => relay = base
  | .send port _ _ => port = base
  | _ => True

instance (base : ℕ) : ∀ event, Decidable (OnPort base event)
  | .open _ relay => inferInstanceAs (Decidable (relay = base))
  | .send port _ _ => inferInstanceAs (Decidable (port = base))
  | .bind _ _ | .receive _ | .timeout _ | .promote _ _ | .swap _ | .forward _ _ | .finish _
  | .exit _ => isTrue trivial

theorem fanoutPorts_of_le (low : base ≤ 65531) (impl : Impl) :
    fanoutPorts impl base = [base + 2, base + 3, base + 4] := by
  cases impl with
  | rust =>
      simp only [fanoutPorts]
      rw [List.filter_eq_self]
      simp only [List.mem_cons, List.not_mem_nil, or_false, decide_eq_true_eq]
      omega
  | c =>
      simp only [fanoutPorts, wire, List.cons.injEq, and_true]
      omega

theorem wire_of_le (low : base ≤ 65531) : wire base = base := by
  simp only [wire]
  omega

/-- Everything starts at the relay port. -/
structure Centred (base : ℕ) (state : State) : Prop where
  based : ∀ id reader, state.readers id = some reader → reader.base = base
  origins : ∀ port ∈ state.origins, port = base
  forwards : ∀ forward ∈ state.forwards, forward.source = base ∧ base < forward.target

theorem upward_of_centred (low : base ≤ 65531) (wired : Wired state) (centred : Centred base state)
    (event : Event) : Upward state event := by
  cases event with
  | forward id kept =>
      intro reader found target next
      rcases Reader.nextTarget_eq_some.mp next with ⟨datagram, left, phase⟩
      rcases (wired.fair id reader found).hub_of_left phase with ⟨hub, occurs⟩
      have based := centred.based id reader found
      rw [(wired.fair id reader found).hubPort hub, based, wire_of_le low]
      rw [based, fanoutPorts_of_le low] at occurs
      simp only [List.mem_cons, List.not_mem_nil, or_false] at occurs
      omega
  | _ => trivial

theorem Centred.stepped (centred : Centred base state) (low : base ≤ 65531)
    (wired : Wired state) (meets : OnPort base event) (stepped : Stepped state event next) :
    Centred base next := by
  have update : ∀ {id : ℕ} {reader : Reader}, state.readers id = some reader →
      ∀ after : Option Reader, (∀ reader', after = some reader' → reader'.base = reader.base) →
        ∀ other reader', Function.update state.readers id after other = some reader' →
          reader'.base = base := by
    intro id reader found after same other reader' found'
    rw [Function.update_apply] at found'
    split at found'
    · rw [same reader' found']
      exact centred.based id reader found
    · exact centred.based other reader' found'
  have kept : ∀ {id : ℕ} {reader after : Reader}, state.readers id = some reader →
      after.base = reader.base → ∀ other reader',
        Function.update state.readers id (some after) other = some reader' →
          reader'.base = base := by
    intro id reader after found same
    apply update found
    rintro _ ⟨⟩
    exact same
  cases stepped with
  | opened impl base' =>
      refine ⟨?_, centred.origins, centred.forwards⟩
      intro other reader found
      simp only [State.readers_setReader, Function.update_apply] at found
      split at found
      · cases found
        exact meets
      · exact centred.based other reader found
  | gaveUp found phase =>
      refine ⟨update found none ?_, centred.origins, centred.forwards⟩
      rintro _ ⟨⟩
  | refused found phase => exact ⟨kept found rfl, centred.origins, centred.forwards⟩
  | bound found phase candidate free =>
      exact ⟨kept found rfl, centred.origins, centred.forwards⟩
  | received found phase bound queue number taken =>
      exact ⟨kept found rfl, centred.origins, centred.forwards⟩
  | timedOut found phase => exact ⟨kept found rfl, centred.origins, centred.forwards⟩
  | stayed found looks => exact ⟨kept found rfl, centred.origins, centred.forwards⟩
  | promoted found looks due free => exact ⟨kept found rfl, centred.origins, centred.forwards⟩
  | swapped found phase => exact ⟨kept found rfl, centred.origins, centred.forwards⟩
  | @forwarded id target isKept reader datagram left found phase =>
      have upward := upward_of_centred low wired centred (.forward id isKept) reader found target
        (Reader.nextTarget_eq_some.mpr ⟨datagram, left, phase⟩)
      have fair := wired.fair id reader found
      have source : reader.port = base := by
        rw [fair.hubPort (fair.hub_of_left phase).1, centred.based id reader found, wire_of_le low]
      refine ⟨?_, ?_, ?_⟩
      · rw [State.readers_setReader, State.readers_deliver]
        exact kept found rfl
      · simp only [State.setReader, State.origins_deliver]
        exact centred.origins
      · intro forward occurs
        simp only [State.setReader, State.forwards_deliver, List.mem_cons] at occurs
        rcases occurs with rfl | occurs
        · rw [source] at upward
          exact ⟨source, upward⟩
        · exact centred.forwards forward occurs
  | finished found phase => exact ⟨kept found rfl, centred.origins, centred.forwards⟩
  | exited found =>
      refine ⟨update found none ?_, centred.origins, centred.forwards⟩
      rintro _ ⟨⟩
  | sent port payload isKept =>
      refine ⟨?_, ?_, ?_⟩
      · rw [State.readers_deliver]
        exact centred.based
      · intro other occurs
        rw [State.origins_deliver, List.mem_append, List.mem_singleton] at occurs
        rcases occurs with occurs | rfl
        · exact centred.origins other occurs
        · exact meets
      · rw [State.forwards_deliver]
        exact centred.forwards

theorem sentTo_relay (centred : Centred base state) (number : ℕ) :
    state.sentTo number base ≤ 1 := by
  have none : (state.forwards.countP fun forward => forward.number = number ∧
      forward.target = base) = 0 := by
    rw [List.countP_eq_zero]
    intro forward occurs counted
    simp only [decide_eq_true_eq] at counted
    have above := (centred.forwards forward occurs).2
    omega
  simp only [State.sentTo, none]
  split
  · exact Nat.le_refl _
  · exact Nat.zero_le _

/-- What reached a port behind the relay port was taken from the relay port. -/
theorem sentTo_behind (centred : Centred base state) (spent : Spent state) {port : ℕ}
    (behind : port ≠ base) (number : ℕ) :
    state.sentTo number port ≤ state.takenAt number base := by
  have origin : state.origins[number]? ≠ some port := by
    intro origin
    exact behind (centred.origins port (List.mem_of_getElem? origin))
  have passed := spent.passed number base port
  simp only [State.sentTo, origin, if_false, Nat.zero_add]
  apply Nat.le_trans (List.countP_mono_left ?_) passed
  intro forward occurs counted
  simp only [decide_eq_true_eq] at counted ⊢
  exact ⟨counted.1, (centred.forwards forward occurs).1, counted.2⟩

theorem sentTo_le_one (centred : Centred base state) (conserved : Conserved state)
    (spent : Spent state) (number port : ℕ) : state.sentTo number port ≤ 1 := by
  by_cases relay : port = base
  · subst relay
    exact sentTo_relay centred number
  · have behind := sentTo_behind centred spent relay number
    have sent := conserved number base
    have relay := sentTo_relay centred number
    omega

def State.Took (state : State) (id number : ℕ) : Prop :=
  ∃ take ∈ state.takes, take.reader = id ∧ take.number = number

structure Once (state : State) : Prop where
  born : ∀ take ∈ state.takes, take.reader < state.born
  still : ∀ id reader, state.readers id = some reader → reader.hub = false →
    ∀ take ∈ state.takes, take.reader = id → reader.listening = true ∧ take.port = reader.port
  handed : state.handed.Nodup
  taken : ∀ pair ∈ state.handed, state.Took pair.1 pair.2
  pending : ∀ id reader datagram, state.readers id = some reader →
    reader.inHand = some datagram →
      (id, datagram.number) ∉ state.handed ∧ state.Took id datagram.number

/-- A reader that has a datagram in its queue has not taken it before. -/
theorem Once.fresh {socket : Socket} {datagram : Datagram} {waiting : List Datagram}
    (once : Once state) (low : base ≤ 65531) (wired : Wired state) (centred : Centred base state)
    (conserved : Conserved state) (spent : Spent state) (found : state.readers id = some reader)
    (bound : state.sockets reader.port = some socket)
    (queue : socket.queue = datagram :: waiting) :
    ∀ take ∈ state.takes, take.reader = id → take.number ≠ datagram.number := by
  intro take occurs mine same
  have taken : 0 < state.takenAt datagram.number take.port := by
    simp only [State.takenAt, List.countP_pos_iff, decide_eq_true_eq]
    exact ⟨take, occurs, same, rfl⟩
  have waits : 0 < state.queued datagram.number reader.port := by
    simp only [State.queued, State.queue, bound, queue, List.countP_pos_iff, decide_eq_true_eq]
    exact ⟨datagram, List.mem_cons_self, rfl⟩
  have here := conserved datagram.number reader.port
  have atMost := sentTo_le_one centred conserved spent datagram.number reader.port
  cases hub : reader.hub with
  | false =>
      rw [(once.still id reader found hub take occurs mine).2] at taken
      omega
  | true =>
      have port : reader.port = base := by
        rw [(wired.fair id reader found).hubPort hub, centred.based id reader found, wire_of_le low]
      rw [port] at here atMost waits
      by_cases relay : take.port = base
      · rw [relay] at taken
        omega
      · have behind := sentTo_behind centred spent relay datagram.number
        have there := conserved datagram.number take.port
        omega

theorem Once.setReader (once : Once state) (after : Option Reader)
    (readers : next.readers = Function.update state.readers id after)
    (born : state.born ≤ next.born) (takes : next.takes = state.takes)
    (handed : next.handed = state.handed)
    (still : ∀ reader, after = some reader → reader.hub = false →
      ∀ take ∈ state.takes, take.reader = id → reader.listening = true ∧ take.port = reader.port)
    (pending : ∀ reader datagram, after = some reader → reader.inHand = some datagram →
      (id, datagram.number) ∉ state.handed ∧ state.Took id datagram.number) : Once next := by
  refine ⟨?_, ?_, ?_, ?_, ?_⟩
  · rw [takes]
    intro take occurs
    exact Nat.lt_of_lt_of_le (once.born take occurs) born
  · rw [takes]
    intro other reader found
    simp only [readers, Function.update_apply] at found
    split at found
    · rename_i same
      subst same
      exact still reader found
    · exact once.still other reader found
  · rw [handed]
    exact once.handed
  · simp only [State.Took, handed, takes]
    exact once.taken
  · simp only [State.Took, handed, takes]
    intro other reader datagram found
    simp only [readers, Function.update_apply] at found
    split at found
    · rename_i same
      subst same
      exact pending reader datagram found
    · exact once.pending other reader datagram found

/-- A reader goes on where it reads, with what it had in hand or with nothing. -/
theorem Once.goOn (once : Once state) (after : Reader) (found : state.readers id = some reader)
    (readers : next.readers = Function.update state.readers id (some after))
    (born : state.born ≤ next.born) (takes : next.takes = state.takes)
    (handed : next.handed = state.handed) (port : after.port = reader.port)
    (hub : after.hub = reader.hub) (on : after.listening = true)
    (inHand : after.inHand = none ∨ after.inHand = reader.inHand) : Once next := by
  apply once.setReader (some after) readers born takes handed
  · rintro _ ⟨⟩ follower take occurs mine
    rw [hub] at follower
    rw [port]
    exact ⟨on, (once.still id reader found follower take occurs mine).2⟩
  · rintro _ datagram ⟨⟩ holds
    rcases inHand with none | same
    · cases none.symm.trans holds
    · exact once.pending id reader datagram found (same.symm.trans holds)

/-- A reader that is still opening has taken nothing. -/
theorem Once.untaken {tried : ℕ} (once : Once state) (wired : Wired state)
    (found : state.readers id = some reader) (phase : reader.phase = .opening tried) :
    ∀ take ∈ state.takes, take.reader ≠ id := by
  intro take occurs mine
  have off : reader.listening = false := by simp only [Reader.listening, phase]
  have follower := (wired.fair id reader found).opening off
  have on := (once.still id reader found follower take occurs mine).1
  cases off.symm.trans on

theorem Once.received {cut : Datagram} {after : Phase} {take : Take} (once : Once state)
    (wired : Wired state) (found : state.readers id = some reader)
    (taken : reader.Takes cut after)
    (fresh : ∀ take ∈ state.takes, take.reader = id → take.number ≠ cut.number)
    (made : take = { reader := id, number := cut.number, port := reader.port })
    (readers : next.readers =
      Function.update state.readers id (some { reader with phase := after }))
    (born : next.born = state.born) (takes : next.takes = take :: state.takes)
    (handed : next.handed = state.handed) : Once next := by
  have inHand : ∀ datagram, Reader.inHand { reader with phase := after } = some datagram →
      datagram = cut := by
    intro datagram holds
    rcases taken with rfl | ⟨_, rfl⟩
    · cases holds
      rfl
    · cases holds
      rfl
  have stillOn : Reader.listening { reader with phase := after } = true := by
    rcases taken with rfl | ⟨_, rfl⟩
    · rfl
    · rfl
  have more : ∀ other number, state.Took other number → next.Took other number := by
    rintro other number ⟨earlier, occurs, same⟩
    simp only [State.Took, takes]
    exact ⟨earlier, List.mem_cons_of_mem take occurs, same⟩
  subst made
  refine ⟨?_, ?_, ?_, ?_, ?_⟩
  · rw [takes, born]
    intro take occurs
    rcases List.mem_cons.mp occurs with rfl | occurs
    · exact wired.numbered id reader found
    · exact once.born take occurs
  · rw [takes]
    intro other reader' found' follower take occurs mine
    simp only [readers, Function.update_apply] at found'
    rcases List.mem_cons.mp occurs with rfl | earlier
    · simp only [mine.symm, if_true] at found'
      cases found'
      exact ⟨stillOn, rfl⟩
    · split at found'
      · rename_i same
        subst same
        cases found'
        exact ⟨stillOn, (once.still other reader found follower take earlier mine).2⟩
      · exact once.still other reader' found' follower take earlier mine
  · rw [handed]
    exact once.handed
  · rw [handed]
    intro pair occurs
    exact more pair.1 pair.2 (once.taken pair occurs)
  · rw [handed]
    intro other reader' datagram found' holds
    simp only [readers, Function.update_apply] at found'
    split at found'
    · rename_i same
      subst same
      cases found'
      rw [inHand datagram holds]
      refine ⟨?_, ?_⟩
      · intro occurs
        rcases once.taken _ occurs with ⟨take, taken, mine, same⟩
        exact fresh take taken mine same
      · simp only [State.Took, takes]
        exact ⟨_, List.mem_cons_self, rfl, rfl⟩
    · rcases once.pending other reader' datagram found' holds with ⟨unhanded, took⟩
      exact ⟨unhanded, more other datagram.number took⟩

theorem Once.finished {datagram : Datagram} (once : Once state)
    (found : state.readers id = some reader) (phase : reader.phase = .forwarding datagram []) :
    Once ({ state with handed := (id, datagram.number) :: state.handed }.setReader id
      (some { reader with phase := .idle })) := by
  have inHand : reader.inHand = some datagram := by simp only [Reader.inHand, phase]
  refine ⟨once.born, ?_, ?_, ?_, ?_⟩
  · intro other reader' found' follower take occurs mine
    simp only [State.readers_setReader, Function.update_apply] at found'
    split at found'
    · rename_i same
      subst same
      cases found'
      exact ⟨rfl, (once.still other reader found follower take occurs mine).2⟩
    · exact once.still other reader' found' follower take occurs mine
  · apply List.nodup_cons.mpr
    exact ⟨(once.pending id reader datagram found inHand).1, once.handed⟩
  · intro pair occurs
    rcases List.mem_cons.mp occurs with rfl | occurs
    · exact (once.pending id reader datagram found inHand).2
    · exact once.taken pair occurs
  · intro other reader' datagram' found' holds
    simp only [State.readers_setReader, Function.update_apply] at found'
    split at found'
    · cases found'
      cases holds
    · rename_i different
      rcases once.pending other reader' datagram' found' holds with ⟨unhanded, took⟩
      refine ⟨?_, took⟩
      intro occurs
      rcases List.mem_cons.mp occurs with same | occurs
      · exact different (Prod.mk.inj same).1
      · exact unhanded occurs

theorem Once.stepped (once : Once state) (low : base ≤ 65531) (wired : Wired state)
    (centred : Centred base state) (conserved : Conserved state) (spent : Spent state)
    (stepped : Stepped state event next) : Once next := by
  cases stepped with
  | opened impl base =>
      refine once.setReader (some _) rfl (Nat.le_succ _) rfl rfl ?_ ?_
      · rintro _ ⟨⟩ _ take occurs mine
        have earlier := once.born take occurs
        omega
      · rintro _ _ ⟨⟩ ⟨⟩
  | gaveUp found phase =>
      refine once.setReader none rfl (Nat.le_refl _) rfl rfl ?_ ?_
      · rintro _ ⟨⟩
      · rintro _ _ ⟨⟩
  | refused found phase =>
      refine once.setReader (some _) rfl (Nat.le_refl _) rfl rfl ?_ ?_
      · rintro _ ⟨⟩ _ take occurs mine
        exact absurd mine (once.untaken wired found phase take occurs)
      · rintro _ _ ⟨⟩ ⟨⟩
  | bound found phase candidate free =>
      refine once.setReader (some _) rfl (Nat.le_refl _) rfl rfl ?_ ?_
      · rintro _ ⟨⟩ _ take occurs mine
        exact absurd mine (once.untaken wired found phase take occurs)
      · rintro _ _ ⟨⟩ ⟨⟩
  | @received id reader socket datagram cut waiting after found phase bound queue number taken =>
      have fresh := once.fresh low wired centred conserved spent found bound queue
      rw [← number] at fresh
      refine once.received wired found taken fresh ?_ rfl rfl rfl rfl
      rw [number]
  | timedOut found phase =>
      exact once.goOn _ found rfl (Nat.le_refl _) rfl rfl rfl rfl rfl (.inl rfl)
  | @stayed id now later reader inHand found looks =>
      refine once.goOn _ found rfl (Nat.le_refl _) rfl rfl rfl rfl ?_ ?_
      · cases inHand with
        | none => rfl
        | some datagram => rfl
      · rw [looks.inHand]
        cases inHand with
        | none => exact .inr rfl
        | some datagram => exact .inr rfl
  | promoted found looks due free =>
      refine once.goOn _ found rfl (Nat.le_refl _) rfl rfl rfl rfl rfl ?_
      rw [looks.inHand]
      exact .inr rfl
  | @swapped id reader inHand found phase =>
      rcases (wired.fair _ _ found).promoting _ phase with ⟨rfl, _⟩
      refine once.setReader (some _) rfl (Nat.le_refl _) rfl rfl ?_ ?_
      · rintro _ ⟨⟩ ⟨⟩
      · rintro _ _ ⟨⟩ ⟨⟩
  | @forwarded id target kept reader datagram left found phase =>
      refine once.goOn { reader with phase := .forwarding datagram left } found ?_ ?_
        (State.takes_deliver ..) (State.handed_deliver ..) rfl rfl rfl ?_
      · rw [State.readers_setReader, State.readers_deliver]
      · rw [State.born_setReader, State.born_deliver]
      · right
        simp only [Reader.inHand, phase]
  | finished found phase => exact once.finished found phase
  | exited found =>
      refine once.setReader none rfl (Nat.le_refl _) rfl rfl ?_ ?_
      · rintro _ ⟨⟩
      · rintro _ _ ⟨⟩
  | sent port payload kept =>
      refine ⟨?_, ?_, ?_, ?_, ?_⟩
      · rw [State.takes_deliver, State.born_deliver]
        exact once.born
      · rw [State.takes_deliver, State.readers_deliver]
        exact once.still
      · rw [State.handed_deliver]
        exact once.handed
      · simp only [State.Took, State.takes_deliver, State.handed_deliver]
        exact once.taken
      · simp only [State.Took, State.takes_deliver, State.handed_deliver, State.readers_deliver]
        exact once.pending

/-- What a hub forwarded waits behind the relay port, and a hub stays one. -/
def Echoless (base : ℕ) (state : State) : Prop :=
  ∀ port datagram hub, datagram ∈ state.queue port → datagram.via = some hub →
    base ≠ port ∧ hub < state.born ∧
      ∀ reader, state.readers hub = some reader → reader.hub = true

/-- Nobody becomes a follower who was a hub. -/
def HubsStay (state next : State) : Prop :=
  ∀ id after, next.readers id = some after → id < state.born →
    ∃ reader, state.readers id = some reader ∧ (reader.hub = true → after.hub = true)

theorem HubsStay.of_update (after : Option Reader) (found : state.readers id = some reader)
    (readers : next.readers = Function.update state.readers id after)
    (hub : ∀ reader', after = some reader' → reader.hub = true → reader'.hub = true) :
    HubsStay state next := by
  intro other after found' _
  simp only [readers, Function.update_apply] at found'
  split at found'
  · rename_i same
    subst same
    exact ⟨reader, found, hub after found'⟩
  · exact ⟨after, found', fun isHub => isHub⟩

theorem Stepped.hubsStay (stepped : Stepped state event next) (wired : Wired state) :
    HubsStay state next := by
  cases stepped with
  | opened impl base =>
      intro other after found earlier
      simp only [State.readers_setReader, Function.update_apply] at found
      split at found
      · omega
      · exact ⟨after, found, fun isHub => isHub⟩
  | gaveUp found phase =>
      refine .of_update none found rfl ?_
      rintro _ ⟨⟩
  | refused found phase =>
      refine .of_update _ found rfl ?_
      rintro _ ⟨⟩ isHub
      exact isHub
  | @bound id now tried port reader found phase candidate free =>
      have off : reader.listening = false := by simp only [Reader.listening, phase]
      have follower := (wired.fair id reader found).opening off
      refine .of_update _ found rfl ?_
      rintro _ _ isHub
      cases follower.symm.trans isHub
  | received found phase bound queue number taken =>
      refine .of_update _ found rfl ?_
      rintro _ ⟨⟩ isHub
      exact isHub
  | timedOut found phase =>
      refine .of_update _ found rfl ?_
      rintro _ ⟨⟩ isHub
      exact isHub
  | stayed found looks =>
      refine .of_update _ found rfl ?_
      rintro _ ⟨⟩ isHub
      exact isHub
  | promoted found looks due free =>
      refine .of_update _ found rfl ?_
      rintro _ ⟨⟩ isHub
      exact isHub
  | swapped found phase =>
      refine .of_update _ found rfl ?_
      rintro _ ⟨⟩ _
      rfl
  | @forwarded id target kept reader datagram left found phase =>
      refine .of_update (some { reader with phase := .forwarding datagram left }) found ?_ ?_
      · rw [State.readers_setReader, State.readers_deliver]
      · rintro _ ⟨⟩ isHub
        exact isHub
  | finished found phase =>
      refine .of_update _ found rfl ?_
      rintro _ ⟨⟩ isHub
      exact isHub
  | exited found =>
      refine .of_update none found rfl ?_
      rintro _ ⟨⟩
  | sent port payload kept =>
      intro other after found _
      rw [State.readers_deliver] at found
      exact ⟨after, found, fun isHub => isHub⟩

theorem Stepped.born_le (stepped : Stepped state event next) : state.born ≤ next.born := by
  cases stepped with
  | opened impl base => exact Nat.le_succ _
  | forwarded found phase => rw [State.born_setReader, State.born_deliver]
  | sent port payload kept => rw [State.born_deliver]
  | _ => exact Nat.le_refl _

theorem mem_queue_deliver {target other : ℕ} {sent datagram : Datagram} {kept : Bool}
    (occurs : datagram ∈ (state.deliver target sent kept).queue other) :
    datagram ∈ state.queue other ∨ target = other ∧ datagram = sent := by
  rcases @queue_deliver state target sent kept other with same | ⟨here, longer⟩
  · rw [same] at occurs
    exact .inl occurs
  · rw [longer, List.mem_append, List.mem_singleton] at occurs
    rcases occurs with occurs | rfl
    · exact .inl occurs
    · exact .inr ⟨here, rfl⟩

/-- What is new in a queue was forwarded in this step, or comes from a producer. -/
theorem Stepped.mem_queue (stepped : Stepped state event next) {port : ℕ} {datagram : Datagram}
    (occurs : datagram ∈ next.queue port) :
    datagram ∈ state.queue port ∨ datagram.via = none ∨
      ∃ id reader carried left, state.readers id = some reader ∧
        reader.phase = .forwarding carried (port :: left) ∧ datagram.via = some id := by
  cases stepped with
  | bound found phase candidate free => exact .inl (queue_bind.subset occurs)
  | @received id reader socket head cut waiting after found phase bound queue number taken =>
      left
      change datagram ∈ State.queue (State.setSocket _ _ _) port at occurs
      rw [queue_setSocket] at occurs
      split at occurs
      · rename_i same
        subst same
        simp only [State.queue, bound, queue]
        exact List.mem_cons_of_mem _ occurs
      · exact occurs
  | promoted found looks due free => exact .inl (queue_bind.subset occurs)
  | swapped found phase => exact .inl (queue_close.subset occurs)
  | @forwarded id target kept reader carried left found phase =>
      rcases mem_queue_deliver occurs with waited | ⟨rfl, rfl⟩
      · exact .inl waited
      · exact .inr (.inr ⟨id, reader, carried, left, found, phase, rfl⟩)
  | exited found => exact .inl (queue_exit.subset occurs)
  | sent target payload kept =>
      rcases mem_queue_deliver occurs with waited | ⟨rfl, rfl⟩
      · exact .inl waited
      · exact .inr (.inl rfl)
  | _ => exact .inl occurs

theorem Echoless.stepped (echoless : Echoless base state) (low : base ≤ 65531)
    (wired : Wired state) (centred : Centred base state) (stepped : Stepped state event next) :
    Echoless base next := by
  intro port datagram hub occurs via
  have known : base ≠ port ∧ hub < state.born ∧
      ∀ reader, state.readers hub = some reader → reader.hub = true := by
    rcases stepped.mem_queue occurs with waited | produced | forwarded
    · exact echoless port datagram hub waited via
    · cases produced.symm.trans via
    · rcases forwarded with ⟨id, reader, carried, left, found, phase, by'⟩
      cases by'.symm.trans via
      have fair := wired.fair hub reader found
      rcases fair.hub_of_left phase with ⟨isHub, behind⟩
      refine ⟨?_, wired.numbered hub reader found, ?_⟩
      · rw [centred.based hub reader found, fanoutPorts_of_le low] at behind
        simp only [List.mem_cons, List.not_mem_nil, or_false] at behind
        omega
      · intro reader' found'
        cases found.symm.trans found'
        exact isHub
  rcases known with ⟨behind, earlier, isHub⟩
  refine ⟨behind, Nat.lt_of_lt_of_le earlier stepped.born_le, ?_⟩
  intro after found
  rcases stepped.hubsStay wired hub after found earlier with ⟨reader, found, stays⟩
  exact stays (isHub reader found)

/-- A reader that listens goes on listening, whatever is done but its exit. -/
theorem Stepped.listening (stepped : Stepped state event next) (wired : Wired state)
    (found : state.readers id = some reader) (on : reader.listening = true)
    (stays : event ≠ .exit id) :
    ∃ after, next.readers id = some after ∧ after.listening = true := by
  have update : ∀ {other : ℕ} {old : Reader} {after : Option Reader},
      state.readers other = some old →
      (old.listening = true → ∃ reader', after = some reader' ∧ reader'.listening = true) →
      ∃ reader', Function.update state.readers other after id = some reader' ∧
        reader'.listening = true := by
    intro other old after found' goesOn
    by_cases same : id = other
    · subst same
      cases found.symm.trans found'
      rw [Function.update_self]
      exact goesOn on
    · rw [Function.update_of_ne same]
      exact ⟨reader, found, on⟩
  cases stepped with
  | opened impl base =>
      have different : id ≠ state.born := Nat.ne_of_lt (wired.numbered id reader found)
      refine ⟨reader, ?_, on⟩
      rw [State.readers_setReader, Function.update_of_ne different]
      exact found
  | gaveUp found' phase =>
      apply update found'
      intro isOn
      simp only [Reader.listening, phase] at isOn
      cases isOn
  | refused found' phase =>
      apply update found'
      intro isOn
      simp only [Reader.listening, phase] at isOn
      cases isOn
  | bound found' phase candidate free => exact update found' fun _ => ⟨_, rfl, rfl⟩
  | received found' phase bound queue number taken =>
      apply update found'
      intro _
      refine ⟨_, rfl, ?_⟩
      rcases taken with rfl | ⟨_, rfl⟩
      · rfl
      · rfl
  | timedOut found' phase => exact update found' fun _ => ⟨_, rfl, rfl⟩
  | @stayed other now later old inHand found' looks =>
      apply update found'
      intro _
      refine ⟨_, rfl, ?_⟩
      cases inHand with
      | none => rfl
      | some datagram => rfl
  | promoted found' looks due free => exact update found' fun _ => ⟨_, rfl, rfl⟩
  | @swapped other old inHand found' phase =>
      apply update found'
      intro _
      refine ⟨_, rfl, ?_⟩
      cases inHand with
      | none => rfl
      | some datagram => rfl
  | forwarded found' phase =>
      rw [State.readers_setReader, State.readers_deliver]
      exact update found' fun _ => ⟨_, rfl, rfl⟩
  | finished found' phase => exact update found' fun _ => ⟨_, rfl, rfl⟩
  | @exited other old found' =>
      have different : id ≠ other := by
        rintro rfl
        exact stays rfl
      refine ⟨reader, ?_, on⟩
      change Function.update state.readers other none id = some reader
      rw [Function.update_of_ne different, found]
  | sent port payload kept =>
      rw [State.readers_deliver]
      exact ⟨reader, found, on⟩

structure Safe (state : State) : Prop where
  oneHub : ∀ first second reader other, state.readers first = some reader →
    state.readers second = some other → reader.hub = true → other.hub = true → first = second
  apart : ∀ first second reader other port, state.readers first = some reader →
    state.readers second = some other → port ∈ reader.ports → port ∈ other.ports → first = second
  listens : ∀ id reader, state.readers id = some reader → reader.listening = true →
    ∃ socket, state.sockets reader.port = some socket ∧ socket.holder = id
  goesOn : ∀ id reader event next, state.readers id = some reader → reader.listening = true →
    step state event = some next → event ≠ .exit id →
      ∃ after, next.readers id = some after ∧ after.listening = true
  once : state.handed.Nodup
  noEcho : ∀ port socket, state.sockets port = some socket →
    ∀ datagram ∈ socket.queue, datagram.via ≠ some socket.holder

theorem Reader.Fair.port_mem (fair : reader.Fair) (hub : reader.hub = true) :
    wire reader.base ∈ reader.ports := by
  have port := fair.hubPort hub
  simp only [Reader.ports]
  split
  · rename_i phase
    have off := fair.opening (by simp only [Reader.listening, phase])
    cases off.symm.trans hub
  · exact List.mem_cons_of_mem _ List.mem_cons_self
  all_goals
    rw [port]
    exact List.mem_cons_self

theorem Wired.apart (wired : Wired state) {first second port : ℕ} {other : Reader}
    (found : state.readers first = some reader) (found' : state.readers second = some other)
    (mine : port ∈ reader.ports) (theirs : port ∈ other.ports) : first = second := by
  have holds := (wired.owned port first).mpr ⟨reader, found, mine⟩
  rw [(wired.owned port second).mpr ⟨other, found', theirs⟩, Option.some.injEq] at holds
  exact holds.symm

theorem noEcho (low : base ≤ 65531) (wired : Wired state) (centred : Centred base state)
    (echoless : Echoless base state) {port : ℕ} {socket : Socket} {datagram : Datagram}
    (bound : state.sockets port = some socket) (occurs : datagram ∈ socket.queue) :
    datagram.via ≠ some socket.holder := by
  intro via
  have waits : datagram ∈ state.queue port := by
    simp only [State.queue, bound]
    exact occurs
  have holds : state.holderOf port = some socket.holder := by
    simp only [State.holderOf, bound, Option.map_some]
  rcases echoless port datagram socket.holder waits via with ⟨behind, _, isHub⟩
  rcases (wired.owned port socket.holder).mp holds with ⟨reader, found, mine⟩
  have fair := wired.fair socket.holder reader found
  have hub := isHub reader found
  have port' : reader.port = base := by
    rw [fair.hubPort hub, centred.based socket.holder reader found, wire_of_le low]
  simp only [Reader.ports] at mine
  split at mine
  · cases mine
  · rename_i inHand phase
    cases (fair.promoting inHand phase).2.symm.trans hub
  all_goals
    rw [List.mem_singleton, port'] at mine
    exact behind mine.symm

theorem safe_of (low : base ≤ 65531) (wired : Wired state) (centred : Centred base state)
    (once : Once state) (echoless : Echoless base state) : Safe state := by
  refine ⟨?_, ?_, ?_, ?_, once.handed, ?_⟩
  · intro first second reader other found found' hub hub'
    apply wired.apart found found' ((wired.fair first reader found).port_mem hub)
    rw [centred.based first reader found, ← centred.based second other found']
    exact (wired.fair second other found').port_mem hub'
  · intro first second reader other port found found' mine theirs
    exact wired.apart found found' mine theirs
  · intro id reader found on
    have holds := wired.holderOf_port found on
    simp only [State.holderOf, Option.map_eq_some_iff] at holds
    exact holds
  · intro id reader event next found on stepped stays
    exact (stepped_of_step stepped).listening wired found on stays
  · intro port socket bound datagram occurs
    exact noEcho low wired centred echoless bound occurs

/-- What any run keeps in which bridges are promoted with empty hands. -/
structure Counted (state : State) : Prop where
  wired : Wired state
  conserved : Conserved state
  spent : Spent state

theorem Counted.initial : Counted State.initial := by
  refine ⟨.initial, ?_, ?_, ?_⟩
  · intro number port
    exact Nat.zero_le _
  · intro number source target
    exact Nat.le_refl _
  · rintro id reader number target ⟨⟩

theorem Counted.stepped (counted : Counted state) (meets : EmptyHanded state event)
    (stepped : Stepped state event next) : Counted next :=
  ⟨counted.wired.stepped meets stepped, counted.conserved.stepped stepped,
    counted.spent.stepped counted.wired stepped⟩

/-- What every state is besides, with one relay port in use. -/
structure OnePort (base : ℕ) (state : State) : Prop extends Counted state where
  centred : Centred base state
  once : Once state
  echoless : Echoless base state

theorem OnePort.initial (base : ℕ) : OnePort base State.initial := by
  refine ⟨.initial, ⟨?_, ?_, ?_⟩, ⟨?_, ?_, List.nodup_nil, ?_, ?_⟩, ?_⟩
  · rintro id reader ⟨⟩
  · rintro port ⟨⟩
  · rintro forward ⟨⟩
  · rintro take ⟨⟩
  · rintro id reader ⟨⟩
  · rintro pair ⟨⟩
  · rintro id reader datagram ⟨⟩
  · rintro port datagram hub ⟨⟩

theorem OnePort.stepped (onePort : OnePort base state) (low : base ≤ 65531)
    (meets : EmptyHanded state event ∧ OnPort base event)
    (stepped : Stepped state event next) : OnePort base next := by
  rcases onePort with ⟨counted, centred, once, echoless⟩
  refine ⟨counted.stepped meets.1 stepped, ?_, ?_, ?_⟩
  · exact centred.stepped low counted.wired meets.2 stepped
  · exact once.stepped low counted.wired centred counted.conserved counted.spent stepped
  · exact echoless.stepped low counted.wired centred stepped

/-- The fan-out is safe in every run in which no bridge is promoted with a datagram in hand;
with many relay ports, no copy may be sent to a port below the one it was read from. -/
theorem fan_out_safe (state : State) :
    (∀ base ≤ 65531,
      system.ReachableUnder (fun state event => EmptyHanded state event ∧ OnPort base event) state →
        Safe state) ∧
    (system.ReachableUnder (fun state event => EmptyHanded state event ∧ Upward state event) state →
      ∀ number, state.copies number < 2 ^ 2 ^ 16) := by
  refine ⟨?_, ?_⟩
  · intro base low reachable
    have onePort : OnePort base state := by
      apply reachable.invariant
      · rintro start rfl
        exact .initial base
      · intro current event next holds meets stepped
        exact holds.stepped low meets (stepped_of_step stepped)
    exact safe_of low onePort.wired onePort.centred onePort.once onePort.echoless
  · intro reachable number
    have holds : Counted state ∧ Rising state := by
      apply reachable.invariant
      · rintro start rfl
        refine ⟨.initial, ?_⟩
        rintro forward ⟨⟩
      · intro current event next holds meets stepped
        have stepped := stepped_of_step stepped
        exact ⟨holds.1.stepped meets.1 stepped, holds.2.stepped holds.1.wired meets.2 stepped⟩
    exact copies_lt holds.1.conserved holds.1.spent holds.2 number

/-- A daemon is the hub, a bridge and a second daemon follow, and one datagram goes round; then
the hub exits. -/
def oneHandOver : List Event :=
  [.open .rust 20780, .bind 0 0, .open .c 20780, .bind 1 0, .bind 1 0, .open .rust 20780,
    .bind 2 0, .bind 2 0, .bind 2 0, .send 20780 [1] true, .receive 0, .forward 0 true,
    .forward 0 true, .forward 0 true, .finish 0, .receive 2, .finish 2, .exit 0]

theorem fan_out_safe_handOver :
    (∃ state, Safe state ∧ state.handed = [(1, 0), (2, 0), (0, 0)] ∧
      (state.readers 1).any (·.hub) = true) ∧
    ∃ state : State, state.copies 0 = 3 ∧ state.copies 0 < 2 ^ 2 ^ 16 := by
  refine ⟨?_, ?_⟩
  · rcases System.ReachableUnder.of_check system
      (fun state event => EmptyHanded state event ∧ OnPort 20780 event) State.initial
      (oneHandOver ++ [.receive 1, .promote 1 1, .finish 1, .timeout 1, .promote 1 2, .swap 1])
      (fun state => state.handed = [(1, 0), (2, 0), (0, 0)] ∧
        (state.readers 1).any (·.hub) = true) rfl (by decide) (by decide) with
      ⟨state, reachable, checked⟩
    rw [decide_eq_true_eq] at checked
    exact ⟨state, (fan_out_safe state).1 20780 (by decide) reachable, checked⟩
  · rcases System.ReachableUnder.of_check system
      (fun state event => EmptyHanded state event ∧ Upward state event) State.initial oneHandOver
      (fun state => state.copies 0 = 3) rfl (by decide) (by decide) with
      ⟨state, reachable, checked⟩
    rw [decide_eq_true_eq] at checked
    exact ⟨state, checked, (fan_out_safe state).2 reachable 0⟩

/-- The bridge gets the relay port with a copy in hand and sends it round again. -/
theorem handed_twice :
    ∃ state, system.ReachableUnder (fun _ event => OnPort 20780 event) state ∧
      state.handed = [(2, 0), (2, 0), (0, 0)] := by
  rcases System.ReachableUnder.of_check system (fun _ event => OnPort 20780 event) State.initial
    (oneHandOver ++ [.receive 1, .promote 1 2, .swap 1, .forward 1 true, .forward 1 true,
      .forward 1 true, .receive 2, .finish 2])
    (fun state => state.handed = [(2, 0), (2, 0), (0, 0)]) rfl (by decide)
    (by decide) with ⟨state, reachable, checked⟩
  rw [decide_eq_true_eq] at checked
  exact ⟨state, reachable, checked⟩

end TrueForce.Udp.FanOut
