import TrueForce.Udp.FanOut
import Mathlib.Data.Option.Basic
import Mathlib.Data.List.Basic

/-!
# Who holds which port

Everything a reader may do is one of thirteen moves.  What the sockets say about
who holds a port is then what the readers say about themselves, through every
move: the port a reader listens on is its own, also while it changes over.
-/

namespace TrueForce.Udp.FanOut

open Transition

namespace State

variable (state : State)

@[simp] theorem readers_setReader (id : ℕ) (reader : Option Reader) :
    (state.setReader id reader).readers = Function.update state.readers id reader := rfl

@[simp] theorem sockets_setSocket (port : ℕ) (socket : Option Socket) :
    (state.setSocket port socket).sockets = Function.update state.sockets port socket := rfl

@[simp] theorem born_setReader (id : ℕ) (reader : Option Reader) :
    (state.setReader id reader).born = state.born := rfl

def holderOf (port : ℕ) : Option ℕ := (state.sockets port).map Socket.holder

variable {state} in
@[simp] theorem holderOf_setReader (id : ℕ) (reader : Option Reader) :
    (state.setReader id reader).holderOf = state.holderOf := rfl

variable {state} in
theorem holderOf_setSocket (port : ℕ) (socket : Option Socket) :
    (state.setSocket port socket).holderOf =
      Function.update state.holderOf port (socket.map Socket.holder) := by
  funext other
  simp only [holderOf, sockets_setSocket, Function.update_apply]
  split
  · rfl
  · rfl

theorem holderOf_exit (id port : ℕ) :
    (state.exit id).holderOf port = (state.holderOf port).filter (· ≠ id) := by
  simp only [holderOf, exit, setReader]
  cases state.sockets port with
  | none => rfl
  | some socket =>
      simp only [Option.filter_some, Option.map_some, decide_not, Bool.not_eq_true']
      split
      · rfl
      · rfl

section

variable (port : ℕ) (datagram : Datagram) (kept : Bool)

/-- Delivering touches the sockets only. -/
theorem deliver_eq : ∃ sockets, state.deliver port datagram kept = { state with sockets } := by
  simp only [deliver]
  split
  · split
    · exact ⟨_, rfl⟩
    · exact ⟨_, rfl⟩
  · exact ⟨_, rfl⟩

@[simp] theorem readers_deliver : (state.deliver port datagram kept).readers = state.readers := by
  rcases state.deliver_eq port datagram kept with ⟨_, same⟩
  rw [same]

@[simp] theorem born_deliver : (state.deliver port datagram kept).born = state.born := by
  rcases state.deliver_eq port datagram kept with ⟨_, same⟩
  rw [same]

theorem origins_deliver : (state.deliver port datagram kept).origins = state.origins := by
  rcases state.deliver_eq port datagram kept with ⟨_, same⟩
  rw [same]

theorem forwards_deliver : (state.deliver port datagram kept).forwards = state.forwards := by
  rcases state.deliver_eq port datagram kept with ⟨_, same⟩
  rw [same]

theorem takes_deliver : (state.deliver port datagram kept).takes = state.takes := by
  rcases state.deliver_eq port datagram kept with ⟨_, same⟩
  rw [same]

theorem handed_deliver : (state.deliver port datagram kept).handed = state.handed := by
  rcases state.deliver_eq port datagram kept with ⟨_, same⟩
  rw [same]

@[simp] theorem holderOf_deliver : (state.deliver port datagram kept).holderOf = state.holderOf := by
  simp only [deliver]
  split
  · rename_i socket bound
    split
    · rw [holderOf_setSocket, Function.update_eq_self_iff]
      simp only [holderOf, bound, Option.map_some]
    · rfl
  · rfl

end

end State

def Reader.inHand (reader : Reader) : Option Datagram :=
  match reader.phase with
  | .opening _ | .idle => none
  | .received datagram | .promoting datagram => datagram
  | .forwarding datagram _ => some datagram

/-- What comes after a datagram is taken. -/
def Reader.Takes (reader : Reader) (datagram : Datagram) (after : Phase) : Prop :=
  after = reader.judge (some datagram) ∨ reader.impl = .c ∧ after = .received (some datagram)

/-- What a reader has in hand when it looks at the relay port. -/
def Reader.Looks (reader : Reader) (inHand : Option Datagram) : Prop :=
  reader.phase = .idle ∧ inHand = none ∨ reader.impl = .c ∧ reader.phase = .received inHand

def Reader.asHub (reader : Reader) (inHand : Option Datagram) : Reader :=
  let hub := { reader with port := wire reader.base, hub := true }
  { hub with phase := hub.judge inHand }

/-- The moves there are. -/
inductive Stepped (state : State) : Event → State → Prop
  | opened (impl : Impl) (base : ℕ) :
      Stepped state (.open impl base) ({ state with born := state.born + 1 }.setReader state.born
        (some { impl, base, port := 0, hub := false, nextPromote := 0, phase := .opening 0 }))
  | gaveUp {id now tried : ℕ} {reader : Reader} (found : state.readers id = some reader)
      (phase : reader.phase = .opening tried) :
      Stepped state (.bind id now) (state.setReader id none)
  | refused {id now tried : ℕ} {reader : Reader} (found : state.readers id = some reader)
      (phase : reader.phase = .opening tried) :
      Stepped state (.bind id now)
        (state.setReader id (some { reader with phase := .opening (tried + 1) }))
  | bound {id now tried port : ℕ} {reader : Reader} (found : state.readers id = some reader)
      (phase : reader.phase = .opening tried)
      (candidate : (candidates reader.impl reader.base)[tried]? = some port)
      (free : state.sockets port = none) :
      Stepped state (.bind id now)
        ((state.setSocket port (some { holder := id, queue := [] })).setReader id (some { reader
          with port, hub := tried = 0, nextPromote := now + promoteInterval, phase := .idle }))
  | received {id : ℕ} {reader : Reader} {socket : Socket} {datagram cut : Datagram}
      {waiting : List Datagram} {after : Phase} (found : state.readers id = some reader)
      (phase : reader.phase = .idle) (bound : state.sockets reader.port = some socket)
      (queue : socket.queue = datagram :: waiting) (number : cut.number = datagram.number)
      (taken : reader.Takes cut after) :
      Stepped state (.receive id)
        (({ state with
          takes := { reader := id, number := datagram.number, port := reader.port } :: state.takes
          }.setSocket reader.port (some { holder := id, queue := waiting })).setReader id
          (some { reader with phase := after }))
  | timedOut {id : ℕ} {reader : Reader} (found : state.readers id = some reader)
      (phase : reader.phase = .idle) :
      Stepped state (.timeout id)
        (state.setReader id (some { reader with phase := .received none }))
  | stayed {id now later : ℕ} {reader : Reader} {inHand : Option Datagram}
      (found : state.readers id = some reader) (looks : reader.Looks inHand) :
      Stepped state (.promote id now) (state.setReader id
        (some { reader with nextPromote := later, phase := reader.judge inHand }))
  | promoted {id now : ℕ} {reader : Reader} {inHand : Option Datagram}
      (found : state.readers id = some reader) (looks : reader.Looks inHand)
      (due : reader.due now = true) (free : state.sockets (wire reader.base) = none) :
      Stepped state (.promote id now)
        ((state.setSocket (wire reader.base) (some { holder := id, queue := [] })).setReader id
          (some { reader with
            nextPromote := now + promoteInterval, phase := .promoting inHand }))
  | swapped {id : ℕ} {reader : Reader} {inHand : Option Datagram}
      (found : state.readers id = some reader) (phase : reader.phase = .promoting inHand) :
      Stepped state (.swap id)
        ((state.setSocket reader.port none).setReader id (some (reader.asHub inHand)))
  | forwarded {id target : ℕ} {kept : Bool} {reader : Reader} {datagram : Datagram}
      {left : List ℕ} (found : state.readers id = some reader)
      (phase : reader.phase = .forwarding datagram (target :: left)) :
      Stepped state (.forward id kept) (({ state with
        forwards := { number := datagram.number, source := reader.port, target } :: state.forwards
        }.deliver target { datagram with via := some id } kept).setReader id
        (some { reader with phase := .forwarding datagram left }))
  | finished {id : ℕ} {reader : Reader} {datagram : Datagram}
      (found : state.readers id = some reader)
      (phase : reader.phase = .forwarding datagram []) :
      Stepped state (.finish id) ({ state with handed := (id, datagram.number) :: state.handed
        }.setReader id (some { reader with phase := .idle }))
  | exited {id : ℕ} {reader : Reader} (found : state.readers id = some reader) :
      Stepped state (.exit id) (state.exit id)
  | sent (port : ℕ) (payload : List UInt8) (kept : Bool) :
      Stepped state (.send port payload kept) ({ state with origins := state.origins ++ [port]
        }.deliver port { number := state.origins.length, payload, via := none } kept)

variable {state next : State} {event : Event} {id now : ℕ} {reader : Reader}

theorem stepped_receive {socket : Socket} {datagram : Datagram} {waiting : List Datagram}
    (found : state.readers id = some reader) (phase : reader.phase = .idle)
    (bound : state.sockets reader.port = some socket)
    (queue : socket.queue = datagram :: waiting) :
    Stepped state (.receive id) (state.receive id reader datagram waiting) := by
  let cut := { datagram with payload := datagram.payload.take (bufferLen reader.impl) }
  refine @Stepped.received state id reader socket datagram cut waiting _ found phase bound queue rfl
    ?_
  simp only [Reader.Takes]
  split
  · exact .inl rfl
  · rename_i bridge
    exact .inr ⟨bridge, rfl⟩

theorem stepped_bind {tried : ℕ} (found : state.readers id = some reader)
    (phase : reader.phase = .opening tried) :
    Stepped state (.bind id now) (state.bind id now reader tried) := by
  simp only [State.bind]
  split
  · exact .gaveUp found phase
  · rename_i candidate
    split
    · rename_i free
      exact .bound found phase candidate free
    · exact .refused found phase

theorem stepped_promote {inHand : Option Datagram} (found : state.readers id = some reader)
    (looks : reader.Looks inHand) :
    Stepped state (.promote id now) (state.promote id now reader inHand) := by
  simp only [State.promote]
  split
  · rename_i due
    split
    · rename_i free
      exact .promoted found looks due free
    · exact .stayed found looks
  · exact .stayed found looks

theorem stepped_of_step (stepped : step state event = some next) : Stepped state event next := by
  cases event with
  | «open» impl base =>
      cases stepped
      exact .opened impl base
  | bind id now =>
      simp only [step, bind, Option.bind_eq_some_iff] at stepped
      rcases stepped with ⟨reader, found, stepped⟩
      split at stepped
      · rename_i phase
        cases stepped
        exact stepped_bind found phase
      · cases stepped
  | receive id =>
      simp only [step, bind, Option.bind_eq_some_iff] at stepped
      rcases stepped with ⟨reader, found, socket, bound, stepped⟩
      split at stepped
      · rename_i phase queue
        cases stepped
        exact stepped_receive found phase bound queue
      · cases stepped
  | timeout id =>
      simp only [step, bind, Option.bind_eq_some_iff] at stepped
      rcases stepped with ⟨reader, found, stepped⟩
      split at stepped
      · rename_i phase _
        cases stepped
        exact .timedOut found phase
      · cases stepped
  | promote id now =>
      simp only [step, bind, Option.bind_eq_some_iff] at stepped
      rcases stepped with ⟨reader, found, stepped⟩
      split at stepped
      · rename_i phase _
        cases stepped
        exact stepped_promote found (.inl ⟨phase, rfl⟩)
      · rename_i phase impl
        cases stepped
        exact stepped_promote found (.inr ⟨impl, phase⟩)
      · cases stepped
  | swap id =>
      simp only [step, bind, Option.bind_eq_some_iff] at stepped
      rcases stepped with ⟨reader, found, stepped⟩
      split at stepped
      · rename_i phase
        cases stepped
        exact .swapped found phase
      · cases stepped
  | forward id kept =>
      simp only [step, bind, Option.bind_eq_some_iff] at stepped
      rcases stepped with ⟨reader, found, stepped⟩
      split at stepped
      · rename_i phase
        cases stepped
        exact .forwarded found phase
      · cases stepped
  | finish id =>
      simp only [step, bind, Option.bind_eq_some_iff] at stepped
      rcases stepped with ⟨reader, found, stepped⟩
      split at stepped
      · rename_i phase
        cases stepped
        exact .finished found phase
      · cases stepped
  | exit id =>
      simp only [step, Option.map_eq_some_iff] at stepped
      rcases stepped with ⟨reader, found, rfl⟩
      exact .exited found
  | send port payload kept =>
      cases stepped
      exact .sent port payload kept

/-- The ports a reader holds. -/
def Reader.ports (reader : Reader) : List ℕ :=
  match reader.phase with
  | .opening _ => []
  | .promoting _ => [reader.port, wire reader.base]
  | .idle | .received _ | .forwarding _ _ => [reader.port]

/-- A reader's port goes with its role, and only a hub forwards. -/
structure Reader.Fair (reader : Reader) : Prop where
  hubPort : reader.hub = true → reader.port = wire reader.base
  followerPort : reader.listening = true → reader.hub = false →
    reader.port ∈ fanoutPorts reader.impl reader.base
  opening : reader.listening = false → reader.hub = false
  promoting : ∀ inHand, reader.phase = .promoting inHand → inHand = none ∧ reader.hub = false
  left : ∀ datagram left, reader.phase = .forwarding datagram left →
    List.Sublist left (fanoutPorts reader.impl reader.base) ∧ (reader.hub = false → left = [])

namespace Reader.Fair

theorem judge (fair : reader.Fair) (on : reader.listening = true) (later : ℕ)
    (inHand : Option Datagram) :
    Fair { reader with nextPromote := later, phase := reader.judge inHand } := by
  refine ⟨fair.hubPort, fun _ => fair.followerPort on, ?_, ?_, ?_⟩
  · cases inHand with
    | none => rintro ⟨⟩
    | some datagram => rintro ⟨⟩
  · cases inHand with
    | none => rintro _ ⟨⟩
    | some datagram => rintro _ ⟨⟩
  · cases inHand with
    | none => rintro _ _ ⟨⟩
    | some datagram =>
        rintro _ _ ⟨⟩
        refine ⟨?_, ?_⟩
        · split
          · exact .refl _
          · exact List.nil_sublist _
        · intro follower
          simp only at follower
          simp only [follower, Bool.false_eq_true, if_false]

theorem idle (fair : reader.Fair) (on : reader.listening = true) :
    Fair { reader with phase := .idle } := fair.judge on reader.nextPromote none

theorem received (fair : reader.Fair) (on : reader.listening = true) (inHand : Option Datagram) :
    Fair { reader with phase := .received inHand } := by
  refine ⟨fair.hubPort, fun _ => fair.followerPort on, ?_, ?_, ?_⟩
  · rintro ⟨⟩
  · rintro _ ⟨⟩
  · rintro _ _ ⟨⟩

theorem promoted (fair : reader.Fair) (on : reader.listening = true)
    (follower : reader.hub = false) (later : ℕ) :
    Fair { reader with nextPromote := later, phase := .promoting none } := by
  refine ⟨fair.hubPort, fun _ => fair.followerPort on, ?_, ?_, ?_⟩
  · rintro ⟨⟩
  · rintro _ ⟨⟩
    exact ⟨rfl, follower⟩
  · rintro _ _ ⟨⟩

theorem forwarded {datagram : Datagram} {target : ℕ} {left : List ℕ} (fair : reader.Fair)
    (phase : reader.phase = .forwarding datagram (target :: left)) :
    Fair { reader with phase := .forwarding datagram left } := by
  have on : reader.listening = true := by simp only [Reader.listening, phase]
  refine ⟨fair.hubPort, fun _ => fair.followerPort on, ?_, ?_, ?_⟩
  · rintro ⟨⟩
  · rintro _ ⟨⟩
  · rintro _ _ ⟨⟩
    rcases fair.left datagram _ phase with ⟨sublist, follower⟩
    refine ⟨(List.sublist_cons_self target left).trans sublist, ?_⟩
    intro isFollower
    cases follower isFollower

theorem hub_of_left {datagram : Datagram} {target : ℕ} {left : List ℕ} (fair : reader.Fair)
    (phase : reader.phase = .forwarding datagram (target :: left)) :
    reader.hub = true ∧ target ∈ fanoutPorts reader.impl reader.base := by
  rcases fair.left datagram _ phase with ⟨sublist, follower⟩
  refine ⟨?_, sublist.subset List.mem_cons_self⟩
  cases hub : reader.hub with
  | true => rfl
  | false => cases follower hub

theorem asHub (reader : Reader) : (reader.asHub none).Fair := by
  refine ⟨fun _ => rfl, ?_, ?_, ?_, ?_⟩
  · rintro _ ⟨⟩
  · rintro ⟨⟩
  · rintro _ ⟨⟩
  · rintro _ _ ⟨⟩

end Reader.Fair

theorem wire_not_mem_fanoutPorts (impl : Impl) (base : ℕ) : wire base ∉ fanoutPorts impl base := by
  cases impl with
  | rust =>
      simp only [fanoutPorts, wire, List.mem_filter, List.mem_cons, List.not_mem_nil, or_false,
        decide_eq_true_eq]
      omega
  | c =>
      simp only [fanoutPorts, wire, List.mem_cons, List.not_mem_nil, or_false]
      omega

theorem nodup_fanoutPorts (impl : Impl) (base : ℕ) : (fanoutPorts impl base).Nodup := by
  cases impl with
  | rust =>
      apply List.filter_sublist.nodup
      simp only [List.nodup_cons, List.mem_cons, List.not_mem_nil, or_false, not_false_eq_true,
        List.nodup_nil, and_true]
      omega
  | c =>
      simp only [fanoutPorts, wire, List.nodup_cons, List.mem_cons, List.not_mem_nil, or_false,
        not_false_eq_true, List.nodup_nil, and_true]
      omega

theorem fair_bound {tried port later : ℕ}
    (candidate : (candidates reader.impl reader.base)[tried]? = some port) :
    Reader.Fair { reader with
      port, hub := tried = 0, nextPromote := later, phase := .idle } := by
  refine ⟨?_, ?_, ?_, ?_, ?_⟩
  · intro hub
    simp only [decide_eq_true_eq] at hub
    subst hub
    cases candidate
    rfl
  · intro _ follower
    cases tried with
    | zero => cases follower
    | succ tried => exact List.mem_of_getElem? candidate
  · rintro ⟨⟩
  · rintro _ ⟨⟩
  · rintro _ _ ⟨⟩

theorem Reader.Looks.listening {inHand : Option Datagram} (looks : reader.Looks inHand) :
    reader.listening = true := by
  rcases looks with ⟨phase, _⟩ | ⟨_, phase⟩
  · simp only [Reader.listening, phase]
  · simp only [Reader.listening, phase]

theorem Reader.Looks.inHand {inHand : Option Datagram} (looks : reader.Looks inHand) :
    reader.inHand = inHand := by
  rcases looks with ⟨phase, rfl⟩ | ⟨_, phase⟩
  · simp only [Reader.inHand, phase]
  · simp only [Reader.inHand, phase]

theorem Reader.Looks.ports {inHand : Option Datagram} (looks : reader.Looks inHand) :
    reader.ports = [reader.port] := by
  rcases looks with ⟨phase, _⟩ | ⟨_, phase⟩
  · simp only [Reader.ports, phase]
  · simp only [Reader.ports, phase]

structure Wired (state : State) : Prop where
  owned : ∀ port id, state.holderOf port = some id ↔
    ∃ reader, state.readers id = some reader ∧ port ∈ reader.ports
  fair : ∀ id reader, state.readers id = some reader → reader.Fair
  numbered : ∀ id reader, state.readers id = some reader → id < state.born

/-- A bridge is not promoted with a datagram in hand. -/
def EmptyHanded (state : State) : Event → Prop
  | .promote id now => ∀ reader ∈ state.readers id, reader.due now = true →
      state.sockets (wire reader.base) = none → reader.inHand = none
  | _ => True

instance (state : State) : ∀ event, Decidable (EmptyHanded state event)
  | .promote id _ => inferInstanceAs (Decidable (∀ reader ∈ state.readers id, _))
  | .open _ _ | .bind _ _ | .receive _ | .timeout _ | .swap _ | .forward _ _ | .finish _ | .exit _
  | .send _ _ _ => isTrue trivial

namespace Wired

theorem initial : Wired State.initial where
  owned port id := by simp [State.holderOf, State.initial]
  fair id reader found := by cases found
  numbered id reader found := by cases found

/-- One reader changes, and with it the ports that are its own. -/
theorem replace (wired : Wired state) (id : ℕ) (after : Option Reader)
    (readers : next.readers = Function.update state.readers id after)
    (born : state.born ≤ next.born)
    (mine : ∀ port, next.holderOf port = some id ↔
      ∃ reader, after = some reader ∧ port ∈ reader.ports)
    (others : ∀ port other, other ≠ id →
      (next.holderOf port = some other ↔ state.holderOf port = some other))
    (fair : ∀ reader, after = some reader → reader.Fair ∧ id < next.born) : Wired next := by
  refine ⟨?_, ?_, ?_⟩
  · intro port other
    by_cases same : other = id
    · subst same
      rw [readers, Function.update_self]
      exact mine port
    · rw [readers, Function.update_of_ne same, others port other same]
      exact wired.owned port other
  · intro other reader found
    simp only [readers, Function.update_apply] at found
    split at found
    · exact (fair reader found).1
    · exact wired.fair other reader found
  · intro other reader found
    simp only [readers, Function.update_apply] at found
    split at found
    · rename_i same
      subst same
      exact (fair reader found).2
    · exact Nat.lt_of_lt_of_le (wired.numbered other reader found) born

/-- A reader that changes but keeps its ports. -/
theorem keep (wired : Wired state) {after : Reader} (found : state.readers id = some reader)
    (readers : next.readers = Function.update state.readers id (some after))
    (born : state.born ≤ next.born) (holders : next.holderOf = state.holderOf)
    (ports : after.ports = reader.ports) (fair : after.Fair) : Wired next := by
  apply wired.replace id (some after) readers born
  · intro port
    rw [holders, wired.owned, found]
    simp only [Option.some.injEq, exists_eq_left', ports]
  · intro port other _
    rw [holders]
  · rintro _ ⟨⟩
    exact ⟨fair, Nat.lt_of_lt_of_le (wired.numbered id reader found) born⟩

theorem same (wired : Wired state) (readers : next.readers = state.readers)
    (born : next.born = state.born) (holders : next.holderOf = state.holderOf) : Wired next := by
  refine ⟨?_, ?_, ?_⟩
  · rw [readers, holders]
    exact wired.owned
  · rw [readers]
    exact wired.fair
  · rw [readers, born]
    exact wired.numbered

theorem holderOf_port (wired : Wired state) (found : state.readers id = some reader)
    (on : reader.listening = true) : state.holderOf reader.port = some id := by
  rw [wired.owned]
  refine ⟨reader, found, ?_⟩
  revert on
  simp only [Reader.listening, Reader.ports]
  cases reader.phase with
  | opening tried => rintro ⟨⟩
  | _ => exact fun _ => List.mem_cons_self

/-- A free port is bound. -/
theorem bind (wired : Wired state) {port : ℕ} {after : Reader}
    (found : state.readers id = some reader) (free : state.sockets port = none)
    (ports : ∀ other, other ∈ after.ports ↔ other = port ∨ other ∈ reader.ports)
    (fair : after.Fair) :
    Wired ((state.setSocket port (some { holder := id, queue := [] })).setReader id
      (some after)) := by
  have nobody : state.holderOf port = none := by simp only [State.holderOf, free, Option.map_none]
  refine wired.replace id (some after) rfl (Nat.le_refl _) ?_ ?_ ?_
  · intro other
    simp only [State.holderOf_setReader, State.holderOf_setSocket, Function.update_apply,
      Option.map_some, Option.some.injEq, exists_eq_left', ports]
    split
    · rename_i same
      simp only [same, true_or]
    · rename_i same
      simp only [same, false_or, wired.owned, found, Option.some.injEq, exists_eq_left']
  · intro other holder different
    simp only [State.holderOf_setReader, State.holderOf_setSocket, Function.update_apply,
      Option.map_some]
    split
    · rename_i same
      simp only [same, nobody, Option.some.injEq, reduceCtorEq, iff_false]
      exact different.symm
    · rfl
  · rintro _ ⟨⟩
    exact ⟨fair, wired.numbered id reader found⟩

theorem stepped (wired : Wired state) (meets : EmptyHanded state event)
    (stepped : Stepped state event next) : Wired next := by
  cases stepped with
  | opened impl base =>
      have absent : state.readers state.born = none := by
        cases found : state.readers state.born with
        | none => rfl
        | some reader => exact absurd (wired.numbered _ _ found) (Nat.lt_irrefl _)
      refine wired.replace state.born (some _) rfl (Nat.le_succ _) ?_ ?_ ?_
      · intro port
        have owned := wired.owned port state.born
        simp only [absent, reduceCtorEq, false_and, exists_false, iff_false] at owned
        simp only [State.holderOf_setReader, Option.some.injEq, exists_eq_left', Reader.ports,
          List.not_mem_nil, iff_false]
        exact owned
      · intro port other _
        rfl
      · rintro _ ⟨⟩
        refine ⟨⟨?_, ?_, fun _ => rfl, ?_, ?_⟩, Nat.lt_succ_self _⟩
        · rintro ⟨⟩
        · rintro ⟨⟩
        · rintro _ ⟨⟩
        · rintro _ _ ⟨⟩
  | @gaveUp id now tried reader found phase =>
      refine wired.replace id none rfl (Nat.le_refl _) ?_ ?_ ?_
      · intro port
        simp only [State.holderOf_setReader, wired.owned, found, Option.some.injEq,
          exists_eq_left', Reader.ports, phase, List.not_mem_nil, reduceCtorEq, false_and,
          exists_false]
      · intro port other _
        rfl
      · rintro _ ⟨⟩
  | refused found phase =>
      have fair := wired.fair _ _ found
      have off := fair.opening (by simp only [Reader.listening, phase])
      refine wired.keep found rfl (Nat.le_refl _) rfl ?_ ⟨fair.hubPort, ?_, fun _ => off, ?_, ?_⟩
      · simp only [Reader.ports, phase]
      · rintro ⟨⟩
      · rintro _ ⟨⟩
      · rintro _ _ ⟨⟩
  | bound found phase candidate free =>
      apply wired.bind found free
      · intro other
        simp only [Reader.ports, phase, List.mem_singleton, List.not_mem_nil, or_false]
      · exact fair_bound candidate
  | @received id reader socket datagram cut waiting after found phase bound queue number taken =>
      have on : reader.listening = true := by simp only [Reader.listening, phase]
      have fair := wired.fair _ _ found
      have holders :
          Function.update state.holderOf reader.port (some id) = state.holderOf := by
        rw [Function.update_eq_self_iff]
        exact (wired.holderOf_port found on).symm
      refine wired.keep found rfl (Nat.le_refl _) ?_ ?_ ?_
      · rw [State.holderOf_setReader, State.holderOf_setSocket]
        exact holders
      · simp only [Reader.ports, phase]
        rcases taken with rfl | ⟨_, rfl⟩
        · rfl
        · rfl
      · rcases taken with rfl | ⟨_, rfl⟩
        · exact fair.judge on reader.nextPromote _
        · exact fair.received on _
  | @timedOut id reader found phase =>
      have on : reader.listening = true := by simp only [Reader.listening, phase]
      refine wired.keep found rfl (Nat.le_refl _) rfl ?_ ((wired.fair _ _ found).received on none)
      simp only [Reader.ports, phase]
  | @stayed id now later reader inHand found looks =>
      refine wired.keep found rfl (Nat.le_refl _) rfl ?_
        ((wired.fair _ _ found).judge looks.listening _ _)
      rw [looks.ports]
      cases inHand with
      | none => rfl
      | some datagram => rfl
  | @promoted id now reader inHand found looks due free =>
      have follower : reader.hub = false := by
        simp only [Reader.due, Bool.and_eq_true, Bool.not_eq_true'] at due
        exact due.1
      have none : inHand = none := by
        rw [← looks.inHand]
        exact meets reader found due free
      subst none
      apply wired.bind found free
      · intro other
        rw [looks.ports]
        simp only [Reader.ports, List.mem_cons, List.not_mem_nil, or_false]
        exact or_comm
      · exact (wired.fair _ _ found).promoted looks.listening follower _
  | @swapped id reader inHand found phase =>
      rcases (wired.fair _ _ found).promoting inHand phase with ⟨rfl, follower⟩
      have on : reader.listening = true := by simp only [Reader.listening, phase]
      have mine := wired.holderOf_port found on
      have differs : reader.port ≠ wire reader.base := by
        intro same
        apply wire_not_mem_fanoutPorts reader.impl reader.base
        rw [← same]
        exact (wired.fair _ _ found).followerPort on follower
      refine wired.replace id (some _) rfl (Nat.le_refl _) ?_ ?_ ?_
      · intro port
        simp only [State.holderOf_setReader, State.holderOf_setSocket, Function.update_apply,
          Option.map_none, Option.some.injEq, exists_eq_left', Reader.asHub, Reader.judge,
          Reader.ports, List.mem_singleton]
        split
        · rename_i same
          simp only [same, differs, reduceCtorEq]
        · rename_i different
          simp only [wired.owned, found, Option.some.injEq, exists_eq_left', Reader.ports, phase,
            List.mem_cons, different, List.not_mem_nil, or_false, false_or]
      · intro port other different
        simp only [State.holderOf_setReader, State.holderOf_setSocket, Function.update_apply,
          Option.map_none]
        split
        · rename_i same
          simp only [same, mine, Option.some.injEq, reduceCtorEq, false_iff]
          exact different.symm
        · rfl
      · rintro _ ⟨⟩
        exact ⟨.asHub reader, wired.numbered _ _ found⟩
  | @forwarded id target kept reader datagram left found phase =>
      refine wired.keep found ?_ ?_ ?_ ?_ ((wired.fair _ _ found).forwarded phase)
      · simp only [State.readers_setReader, State.readers_deliver]
      · simp only [State.born_setReader, State.born_deliver, Nat.le_refl]
      · rw [State.holderOf_setReader, State.holderOf_deliver]
        rfl
      · simp only [Reader.ports, phase]
  | @finished id reader datagram found phase =>
      have on : reader.listening = true := by simp only [Reader.listening, phase]
      refine wired.keep found rfl (Nat.le_refl _) rfl ?_ ((wired.fair _ _ found).idle on)
      simp only [Reader.ports, phase]
  | @exited id reader found =>
      refine wired.replace id none rfl (Nat.le_refl _) ?_ ?_ ?_
      · intro port
        simp only [State.holderOf_exit, Option.filter_eq_some_iff, ne_eq, decide_not,
          Bool.not_eq_true', decide_eq_false_iff_not, not_true_eq_false, and_false, reduceCtorEq,
          false_and, exists_false]
      · intro port other different
        simp only [State.holderOf_exit, Option.filter_eq_some_iff, ne_eq, decide_not,
          Bool.not_eq_true', decide_eq_false_iff_not, different, not_false_eq_true, and_true]
      · rintro _ ⟨⟩
  | sent port payload kept =>
      exact wired.same (State.readers_deliver ..) (State.born_deliver ..) (State.holderOf_deliver ..)

end Wired

end TrueForce.Udp.FanOut
