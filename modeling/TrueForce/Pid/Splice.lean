import TrueForce.Foundation.ByteBuffer
import TrueForce.Pid.Descriptor

/-!
# Splicing the PID collection into the descriptor

`hidpp_dd_pid_splice_rdesc` walks the original descriptor item by item and copies it,
with the PID collection in front of the End Collection that closes the outermost one.
The walker is modelled on the bytes of its two buffers, and an access outside of them has
no result; the descriptor as a list of items is what it is compared with.
-/

namespace TrueForce.Pid

open TrueForce.ByteBuffer

def ENOENT : ℤ := 2

def ENOSPC : ℤ := 28

/-- `memcpy`, where both buffers have the bytes. -/
def memcpy (dst : Bytes) (offset : ℕ) (src : Bytes) (start size : ℕ) : Option Bytes := do
  let data ← slice src start size
  if offset + size ≤ dst.length then some (write dst offset data) else none

/-- The read and the write position, and what the walker remembers. -/
structure Walk where
  p : ℕ
  q : ℕ
  depth : ℕ
  spliced : Bool
  dst : Bytes
  deriving DecidableEq, Repr

def itemSize (lead : UInt8) : ℕ := if lead &&& 0x03 = 3 then 4 else (lead &&& 0x03).toNat

/-- What an End Collection does before it is copied. -/
def Walk.endCollection (walk : Walk) : Option (Except ℤ Walk) := do
  if walk.depth = 1 ∧ walk.spliced = false then
    if walk.dst.length < walk.q + hidppDdPidRdesc.length then some (.error (-ENOSPC))
    else do
      let dst ← memcpy walk.dst walk.q hidppDdPidRdesc 0 hidppDdPidRdesc.length
      some (.ok { walk with
        dst := dst, q := walk.q + hidppDdPidRdesc.length, spliced := true
        depth := walk.depth - 1 })
  else some (.ok { walk with depth := walk.depth - 1 })

def Walk.copyItem (src : Bytes) (lead : UInt8) (walk : Walk) : Option (Except ℤ Walk) :=
  let size := itemSize lead + 1
  if src.length < walk.p + size ∨ walk.dst.length < walk.q + size then some (.error (-ENOSPC))
  else do
    let dst ← memcpy walk.dst walk.q src walk.p size
    some (.ok { walk with
      dst := dst, p := walk.p + size, q := walk.q + size
      depth := if lead = 0xA1 then walk.depth + 1 else walk.depth })

/-- One turn of the loop. -/
def Walk.item (src : Bytes) (walk : Walk) : Option (Except ℤ Walk) := do
  let lead ← src[walk.p]?
  if lead = 0xC0 then
    match ← walk.endCollection with
    | .error errno => some (.error errno)
    | .ok closed => closed.copyItem src lead
  else walk.copyItem src lead

theorem memcpy_of_le {dst src : Bytes} {offset start size : ℕ}
    (reads : start + size ≤ src.length) (writes : offset + size ≤ dst.length) :
    memcpy dst offset src start size = some (write dst offset ((src.drop start).take size)) := by
  rw [memcpy, slice_of_le reads]
  exact if_pos writes

theorem Walk.endCollection_p {walk closed : Walk} (done : walk.endCollection = some (.ok closed)) :
    closed.p = walk.p := by
  simp only [endCollection] at done
  split at done
  · split at done
    · cases done
    · simp only [bind, Option.bind_eq_some_iff, Option.some.injEq, Except.ok.injEq] at done
      rcases done with ⟨_, _, rfl⟩
      rfl
  · cases done
    rfl

theorem Walk.copyItem_advances {src : Bytes} {lead : UInt8} {walk next : Walk}
    (done : walk.copyItem src lead = some (.ok next)) : walk.p < next.p := by
  simp only [copyItem] at done
  split at done
  · cases done
  · simp only [bind, Option.bind_eq_some_iff, Option.some.injEq, Except.ok.injEq] at done
    rcases done with ⟨_, _, rfl⟩
    exact Nat.lt_add_of_pos_right (Nat.succ_pos _)

theorem Walk.item_advances {src : Bytes} {walk next : Walk}
    (done : walk.item src = some (.ok next)) : walk.p < next.p := by
  simp only [item, bind, Option.bind_eq_some_iff] at done
  rcases done with ⟨lead, _, done⟩
  split at done
  · simp only [Option.bind_eq_some_iff] at done
    rcases done with ⟨closed, ended, done⟩
    cases closed with
    | error errno => cases done
    | ok closed =>
        have advanced := copyItem_advances done
        rw [endCollection_p ended] at advanced
        exact advanced
  · exact copyItem_advances done

def Walk.loop (src : Bytes) (walk : Walk) : Option (Except ℤ Walk) :=
  if walk.p < src.length then
    match _ : walk.item src with
    | none => none
    | some (.error errno) => some (.error errno)
    | some (.ok next) => next.loop src
  else some (.ok walk)
termination_by src.length - walk.p
decreasing_by
  rename_i step
  have advanced := Walk.item_advances step
  omega

/-- `hidpp_dd_pid_splice_rdesc`: the size and the buffer, or an error. -/
def spliceRdesc (src dst : Bytes) : Option (Except ℤ (ℕ × Bytes)) := do
  match ← Walk.loop src ⟨0, 0, 0, false, dst⟩ with
  | .error errno => some (.error errno)
  | .ok walk => some (if walk.spliced then .ok (walk.q, walk.dst) else .error (-ENOENT))

namespace Walk

variable {src : Bytes} {walk next : Walk} {lead : UInt8}

theorem loop_done (ended : src.length ≤ walk.p) : walk.loop src = some (.ok walk) := by
  rw [loop, if_neg (Nat.not_lt.mpr ended)]

theorem loop_step (inside : walk.p < src.length) (step : walk.item src = some (.ok next)) :
    walk.loop src = next.loop src := by
  rw [loop, if_pos inside]
  split
  · rename_i none
    rw [step] at none
    cases none
  · rename_i error
    rw [step] at error
    cases error
  · rename_i other
    rw [step] at other
    cases other
    rfl

theorem loop_error {errno : ℤ} (inside : walk.p < src.length)
    (step : walk.item src = some (.error errno)) : walk.loop src = some (.error errno) := by
  rw [loop, if_pos inside]
  split
  · rename_i none
    rw [step] at none
    cases none
  · rename_i error
    rw [step] at error
    cases error
    rfl
  · rename_i other
    rw [step] at other
    cases other

theorem endCollection_isSome (walk : Walk) : walk.endCollection.isSome := by
  simp only [endCollection]
  split
  · split
    · rfl
    · rename_i room
      rw [memcpy_of_le (by omega) (by omega)]
      rfl
  · rfl

theorem copyItem_isSome (src : Bytes) (lead : UInt8) (walk : Walk) :
    (walk.copyItem src lead).isSome := by
  simp only [copyItem]
  split
  · rfl
  · rename_i room
    rw [memcpy_of_le (by omega) (by omega)]
    rfl

theorem item_isSome (inside : walk.p < src.length) : (walk.item src).isSome := by
  simp only [item, List.getElem?_eq_getElem inside, bind, Option.bind_some]
  split
  · rcases Option.isSome_iff_exists.mp walk.endCollection_isSome with ⟨closed, ended⟩
    rw [ended, Option.bind_some]
    cases closed with
    | error errno => rfl
    | ok closed => exact copyItem_isSome src _ closed
  · exact copyItem_isSome src _ walk

theorem loop_isSome (src : Bytes) (walk : Walk) : (walk.loop src).isSome := by
  induction walk using loop.induct src with
  | case1 walk inside stopped =>
      have some := item_isSome inside
      rw [stopped] at some
      cases some
  | case2 walk inside errno step =>
      rw [loop_error inside step]
      rfl
  | case3 walk inside next step ih =>
      rw [loop_step inside step]
      exact ih
  | case4 walk ended =>
      rw [loop_done (Nat.le_of_not_lt ended)]
      rfl

end Walk

theorem spliceRdesc_isSome (src dst : Bytes) : (spliceRdesc src dst).isSome := by
  rcases Option.isSome_iff_exists.mp (Walk.loop_isSome src ⟨0, 0, 0, false, dst⟩) with
    ⟨outcome, looped⟩
  simp only [spliceRdesc, looped, bind, Option.bind_some]
  cases outcome <;> rfl

/-- A complete short item. -/
structure ShortItem where
  lead : UInt8
  data : Bytes
  complete : data.length = itemSize lead

namespace ShortItem

def bytes (item : ShortItem) : Bytes := item.lead :: item.data

def isCollection (item : ShortItem) : Prop := item.lead &&& 0xFC = 0xA0

def isEnd (item : ShortItem) : Prop := item.lead &&& 0xFC = 0xC0

instance (item : ShortItem) : Decidable item.isCollection := inferInstanceAs (Decidable (_ = _))

instance (item : ShortItem) : Decidable item.isEnd := inferInstanceAs (Decidable (_ = _))

/-- A collection item has its one byte of data, the end of one has none. -/
def Plain (item : ShortItem) : Prop :=
  (item.isCollection → item.lead = 0xA1) ∧ (item.isEnd → item.lead = 0xC0)

/-- The nesting behind an item; an end without a collection ends nothing. -/
def nest (depth : ℕ) (item : ShortItem) : ℕ :=
  if item.isEnd then depth - 1 else if item.isCollection then depth + 1 else depth

end ShortItem

def encode (items : List ShortItem) : Bytes := items.flatMap ShortItem.bytes

def nesting (items : List ShortItem) : ℕ := items.foldl ShortItem.nest 0

/-- Behind these items, the item ends the outermost collection. -/
def Closes (before : List ShortItem) (item : ShortItem) : Prop := item.isEnd ∧ nesting before = 1

/-- A buffer with its first bytes overwritten. -/
def filled (dst out : Bytes) : Bytes := out ++ dst.drop out.length

theorem length_filled {dst out : Bytes} (fits : out.length ≤ dst.length) :
    (filled dst out).length = dst.length := by
  rw [filled, List.length_append, List.length_drop]
  omega

theorem write_filled {dst out data : Bytes} :
    write (filled dst out) out.length data = filled dst (out ++ data) := by
  rw [write, filled, filled, List.take_left, List.drop_length_add_append, List.drop_drop,
    List.length_append]

namespace ShortItem

theorem length_bytes (item : ShortItem) : item.bytes.length = itemSize item.lead + 1 := by
  rw [bytes, List.length_cons, item.complete]

theorem lead_eq_end {item : ShortItem} (plain : item.Plain) : item.lead = 0xC0 ↔ item.isEnd := by
  constructor
  · intro ending
    rw [isEnd, ending]
    decide
  · exact plain.2

theorem lead_eq_collection {item : ShortItem} (plain : item.Plain) :
    item.lead = 0xA1 ↔ item.isCollection := by
  constructor
  · intro collection
    rw [isCollection, collection]
    decide
  · exact plain.1

end ShortItem

/-- The walker behind `front`, with `out` in the buffer. -/
def Walk.behind (front out dst : Bytes) (depth : ℕ) (spliced : Bool) : Walk :=
  ⟨front.length, out.length, depth, spliced, filled dst out⟩

section

variable {front back out dst : Bytes} {depth : ℕ} {spliced : Bool} {item : ShortItem}

theorem copyItem_behind (fits : out.length ≤ dst.length) :
    (Walk.behind front out dst depth spliced).copyItem (front ++ (item.bytes ++ back)) item.lead =
      if out.length + item.bytes.length ≤ dst.length then
        some (.ok (.behind (front ++ item.bytes) (out ++ item.bytes) dst
          (if item.lead = 0xA1 then depth + 1 else depth) spliced))
      else some (.error (-ENOSPC)) := by
  have size := item.length_bytes
  have capacity := length_filled fits
  have source : (front ++ (item.bytes ++ back)).length =
      front.length + item.bytes.length + back.length := by
    rw [List.length_append, List.length_append]
    omega
  simp only [Walk.copyItem, Walk.behind, ← size, capacity]
  by_cases room : out.length + item.bytes.length ≤ dst.length
  · have read : ((front ++ (item.bytes ++ back)).drop front.length).take item.bytes.length =
        item.bytes := by
      rw [List.drop_left, List.take_left]
    rw [if_pos room, if_neg (by omega), memcpy_of_le (by omega) (by omega), read, write_filled]
    simp only [bind, Option.bind_some, List.length_append]
  · rw [if_neg room, if_pos (by omega)]

theorem endCollection_behind (fits : out.length ≤ dst.length) :
    (Walk.behind front out dst depth spliced).endCollection =
      if depth = 1 ∧ spliced = false then
        if out.length + hidppDdPidRdesc.length ≤ dst.length then
          some (.ok (.behind front (out ++ hidppDdPidRdesc) dst (depth - 1) true))
        else some (.error (-ENOSPC))
      else some (.ok (.behind front out dst (depth - 1) spliced)) := by
  have capacity := length_filled fits
  simp only [Walk.endCollection, Walk.behind, capacity]
  by_cases here : depth = 1 ∧ spliced = false
  · rw [if_pos here, if_pos here]
    by_cases room : out.length + hidppDdPidRdesc.length ≤ dst.length
    · rw [if_pos room, if_neg (Nat.not_lt.mpr room), memcpy_of_le (by omega) (by omega),
        List.drop_zero, List.take_length, write_filled]
      simp only [bind, Option.bind_some, List.length_append]
    · rw [if_neg room, if_pos (Nat.lt_of_not_le room)]
  · rw [if_neg here, if_neg here]

/-- The item ends the outermost collection, and the PID collection is still to come. -/
def Here (item : ShortItem) (depth : ℕ) (spliced : Bool) : Prop :=
  item.isEnd ∧ depth = 1 ∧ spliced = false

instance : Decidable (Here item depth spliced) := inferInstanceAs (Decidable (_ ∧ _))

/-- What the item adds to the output. -/
def addition (item : ShortItem) (depth : ℕ) (spliced : Bool) : Bytes :=
  (if Here item depth spliced then hidppDdPidRdesc else []) ++ item.bytes

theorem item_behind (plain : item.Plain) (fits : out.length ≤ dst.length) :
    (Walk.behind front out dst depth spliced).item (front ++ (item.bytes ++ back)) =
      if out.length + (addition item depth spliced).length ≤ dst.length then
        some (.ok (.behind (front ++ item.bytes) (out ++ addition item depth spliced) dst
          (item.nest depth) (spliced || decide (Here item depth spliced))))
      else some (.error (-ENOSPC)) := by
  have lead : (front ++ (item.bytes ++ back))[(Walk.behind front out dst depth spliced).p]? =
      some item.lead := by
    rw [Walk.behind, List.getElem?_append_right (le_refl _), Nat.sub_self]
    rfl
  simp only [Walk.item, lead, bind, Option.bind_some]
  by_cases ending : item.isEnd
  · have isEnd := (ShortItem.lead_eq_end plain).mpr ending
    have unopened : item.lead ≠ 0xA1 := by
      rw [isEnd]
      decide
    have nested : item.nest depth = depth - 1 := if_pos ending
    rw [if_pos isEnd, endCollection_behind fits, nested]
    by_cases here : depth = 1 ∧ spliced = false
    · have hereToo : Here item depth spliced := ⟨ending, here⟩
      rw [if_pos here, addition, if_pos hereToo, List.length_append, ← Nat.add_assoc]
      by_cases room : out.length + hidppDdPidRdesc.length ≤ dst.length
      · have fitsToo : (out ++ hidppDdPidRdesc).length ≤ dst.length := by
          rw [List.length_append]
          exact room
        rw [if_pos room, Option.bind_some]
        simp only [copyItem_behind fitsToo, if_neg unopened, hereToo, decide_true, Bool.or_true,
          List.append_assoc, List.length_append]
      · rw [if_neg room, if_neg (by omega)]
        rfl
    · have notHere : ¬Here item depth spliced := fun both => here both.2
      rw [if_neg here, addition, if_neg notHere, List.nil_append, Option.bind_some]
      simp only [copyItem_behind fits, if_neg unopened, notHere, decide_false, Bool.or_false]
  · have notEnd : item.lead ≠ 0xC0 := fun same => ending ((ShortItem.lead_eq_end plain).mp same)
    have notHere : ¬Here item depth spliced := fun both => ending both.1
    have nested : item.nest depth = if item.lead = 0xA1 then depth + 1 else depth := by
      rw [ShortItem.nest, if_neg ending]
      simp only [ShortItem.lead_eq_collection plain]
    rw [if_neg notEnd, copyItem_behind fits, addition, if_neg notHere, List.nil_append, nested]
    simp only [notHere, decide_false, Bool.or_false]

/-- What is written for the items from a depth on, and whether the collection is in then. -/
def spliceItems (depth : ℕ) (spliced : Bool) : List ShortItem → Bytes × Bool
  | [] => ([], spliced)
  | item :: items =>
      let (rest, last) := spliceItems (item.nest depth)
        (spliced || decide (Here item depth spliced)) items
      (addition item depth spliced ++ rest, last)

theorem loop_behind {items : List ShortItem} (plain : ∀ item ∈ items, item.Plain)
    (fits : out.length ≤ dst.length) :
    (Walk.behind front out dst depth spliced).loop (front ++ encode items) =
      if out.length + (spliceItems depth spliced items).1.length ≤ dst.length then
        some (.ok (.behind (front ++ encode items)
          (out ++ (spliceItems depth spliced items).1) dst (items.foldl ShortItem.nest depth)
          (spliceItems depth spliced items).2))
      else some (.error (-ENOSPC)) := by
  induction items generalizing front out depth spliced with
  | nil =>
      have whole : front ++ encode [] = front := List.append_nil front
      rw [whole, Walk.loop_done (le_refl _), spliceItems, List.append_nil, List.length_nil,
        Nat.add_zero, if_pos fits]
      rfl
  | cons item items ih =>
      have own := plain item List.mem_cons_self
      have inside : (Walk.behind front out dst depth spliced).p <
          (front ++ (item.bytes ++ encode items)).length := by
        change front.length < _
        rw [List.length_append, List.length_append, item.length_bytes]
        omega
      have step := @item_behind front (encode items) out dst depth spliced item own fits
      have source : front ++ encode (item :: items) = front ++ (item.bytes ++ encode items) := rfl
      rw [source]
      simp only [spliceItems, @List.length_append _ (addition item depth spliced)]
      by_cases room : out.length + (addition item depth spliced).length ≤ dst.length
      · rw [if_pos room] at step
        have fitsToo : (out ++ addition item depth spliced).length ≤ dst.length := by
          rw [List.length_append]
          exact room
        rw [Walk.loop_step inside step, ← List.append_assoc,
          ih (fun other mem => plain other (List.mem_cons_of_mem _ mem)) fitsToo]
        simp only [List.length_append, List.append_assoc, Nat.add_assoc, List.foldl_cons]
      · rw [if_neg room] at step
        rw [Walk.loop_error inside step, if_neg (by omega)]

/-- Once the collection is in, the rest is copied. -/
theorem spliceItems_spliced (depth : ℕ) (items : List ShortItem) :
    spliceItems depth true items = (encode items, true) := by
  induction items generalizing depth with
  | nil => rfl
  | cons item items ih =>
      have notHere : ¬Here item depth true := fun here => Bool.noConfusion here.2.2
      rw [spliceItems, Bool.true_or, ih, addition, if_neg notHere]
      rfl

/-- No item ends the outermost collection. -/
def Unclosed (depth : ℕ) (items : List ShortItem) : Prop :=
  ∀ before item after, items = before ++ item :: after →
    ¬(item.isEnd ∧ before.foldl ShortItem.nest depth = 1)

theorem Unclosed.tail {items : List ShortItem} (unclosed : Unclosed depth (item :: items)) :
    Unclosed (item.nest depth) items := by
  intro before other after split
  exact unclosed (item :: before) other after (by rw [split, List.cons_append])

theorem Unclosed.head {items : List ShortItem} (unclosed : Unclosed depth (item :: items)) :
    ¬Here item depth false :=
  fun here => unclosed [] item items rfl ⟨here.1, here.2.1⟩

theorem spliceItems_unclosed {before : List ShortItem} (unclosed : Unclosed depth before)
    (items : List ShortItem) :
    spliceItems depth false (before ++ items) =
      (encode before ++ (spliceItems (before.foldl ShortItem.nest depth) false items).1,
        (spliceItems (before.foldl ShortItem.nest depth) false items).2) := by
  induction before generalizing depth with
  | nil => rfl
  | cons item before ih =>
      have notHere := unclosed.head
      simp only [List.cons_append, spliceItems, notHere, decide_false, Bool.or_false,
        ih unclosed.tail, addition, if_false, List.nil_append, List.foldl_cons]
      rw [← List.append_assoc]
      rfl

/-- A closing item has a first one before it or is the first itself. -/
theorem exists_first_of_closes {items : List ShortItem} (closed : ¬Unclosed depth items) :
    ∃ before item after, items = before ++ item :: after ∧
      (item.isEnd ∧ before.foldl ShortItem.nest depth = 1) ∧ Unclosed depth before := by
  induction items generalizing depth with
  | nil =>
      refine absurd ?_ closed
      intro before item after split
      cases before <;> cases split
  | cons item items ih =>
      by_cases here : item.isEnd ∧ depth = 1
      · refine ⟨[], item, items, rfl, here, ?_⟩
        intro before other after split
        cases before <;> cases split
      · have later : ¬Unclosed (item.nest depth) items := by
          intro unclosed
          apply closed
          intro before other after split
          cases before with
          | nil =>
              cases split
              exact here
          | cons first before =>
              cases split
              exact unclosed before other after rfl
        rcases ih later with ⟨before, other, after, rfl, closes, first⟩
        refine ⟨item :: before, other, after, rfl, closes, ?_⟩
        intro earlier last rest split
        cases earlier with
        | nil =>
            cases split
            exact here
        | cons head earlier =>
            cases split
            exact first earlier last rest rfl

end

theorem spliceRdesc_encode {items : List ShortItem} (plain : ∀ item ∈ items, item.Plain)
    (dst : Bytes) :
    spliceRdesc (encode items) dst =
      if (spliceItems 0 false items).1.length ≤ dst.length then
        if (spliceItems 0 false items).2 then
          some (.ok ((spliceItems 0 false items).1.length, filled dst (spliceItems 0 false items).1))
        else some (.error (-ENOENT))
      else some (.error (-ENOSPC)) := by
  have start := @loop_behind [] [] dst 0 false items plain (Nat.zero_le _)
  simp only [List.nil_append, List.length_nil, Nat.zero_add] at start
  change Walk.loop (encode items) ⟨0, 0, 0, false, dst⟩ = _ at start
  simp only [spliceRdesc, start, bind]
  by_cases room : (spliceItems 0 false items).1.length ≤ dst.length
  · rw [if_pos room, if_pos room, Option.bind_some]
    exact apply_ite some _ _ _
  · rw [if_neg room, if_neg room, Option.bind_some]

/-- With a closing item, the collection is put in front of the first. -/
theorem spliceItems_of_closes {before after : List ShortItem} {closing : ShortItem}
    (closes : Closes before closing) (first : Unclosed 0 before) :
    spliceItems 0 false (before ++ closing :: after) =
      (encode before ++ hidppDdPidRdesc ++ encode (closing :: after), true) := by
  have here : Here closing (before.foldl ShortItem.nest 0) false := ⟨closes.1, closes.2, rfl⟩
  rw [spliceItems_unclosed first, spliceItems]
  simp only [here, decide_true, Bool.or_true, spliceItems_spliced, addition, if_true]
  rw [List.append_assoc, List.append_assoc]
  rfl

theorem spliceItems_of_unclosed {items : List ShortItem} (unclosed : Unclosed 0 items) :
    (spliceItems 0 false items).2 = false := by
  have none := spliceItems_unclosed unclosed []
  rw [List.append_nil] at none
  rw [none]
  rfl

/-- The walker stays inside its buffers whatever it is given.  Of a descriptor of plain items it
succeeds in making the one with the PID collection in front of the first End Collection that ends
the outermost collection, where there is one and the buffer has room, and fails where there is
none. -/
theorem splice_law :
    (∀ src dst, (spliceRdesc src dst).isSome) ∧
    ∀ items : List ShortItem, (∀ item ∈ items, item.Plain) →
      ((∃ before closing after, items = before ++ closing :: after ∧ Closes before closing) →
        ∃ before closing after, items = before ++ closing :: after ∧ Closes before closing ∧
          (∀ earlier item rest, before = earlier ++ item :: rest → ¬Closes earlier item) ∧
          ∀ dst : Bytes, (encode items).length + hidppDdPidRdesc.length ≤ dst.length →
            spliceRdesc (encode items) dst =
              some (.ok ((encode items).length + hidppDdPidRdesc.length,
                filled dst (encode before ++ hidppDdPidRdesc ++ encode (closing :: after))))) ∧
      ((¬∃ before closing after, items = before ++ closing :: after ∧ Closes before closing) →
        ∀ dst, ∃ errno, spliceRdesc (encode items) dst = some (.error errno)) := by
  refine ⟨spliceRdesc_isSome, ?_⟩
  intro items plain
  refine ⟨?_, ?_⟩
  · intro contains
    have closed : ¬Unclosed 0 items := by
      rcases contains with ⟨before, closing, after, split, closes⟩
      intro unclosed
      exact unclosed before closing after split closes
    rcases exists_first_of_closes closed with ⟨before, closing, after, rfl, closes, first⟩
    refine ⟨before, closing, after, rfl, closes, first, ?_⟩
    intro dst room
    have size : (encode before ++ hidppDdPidRdesc ++ encode (closing :: after)).length =
        (encode (before ++ closing :: after)).length + hidppDdPidRdesc.length := by
      simp only [encode, List.flatMap_append, List.length_append]
      omega
    rw [spliceRdesc_encode plain, spliceItems_of_closes closes first, size, if_pos room]
    rfl
  · intro none dst
    have unclosed : Unclosed 0 items := by
      intro before closing after split closes
      exact none ⟨before, closing, after, split, closes⟩
    rw [spliceRdesc_encode plain, spliceItems_of_unclosed unclosed]
    split
    · exact ⟨_, rfl⟩
    · exact ⟨_, rfl⟩

/-- A joystick with a pointer of one axis: one collection inside another. -/
def joystick : List ShortItem :=
  [⟨0x05, [0x01], rfl⟩, ⟨0x09, [0x04], rfl⟩, ⟨0xA1, [0x01], rfl⟩, ⟨0x09, [0x01], rfl⟩,
    ⟨0xA1, [0x00], rfl⟩, ⟨0x81, [0x02], rfl⟩, ⟨0xC0, [], rfl⟩, ⟨0xC0, [], rfl⟩]

/-- The collection goes in front of the outer of its two ends. -/
theorem splice_law_joystick :
    ∃ before closing after, joystick = before ++ closing :: after ∧ Closes before closing ∧
      spliceRdesc (encode joystick) (List.replicate 4096 0) =
        some (.ok ((encode joystick).length + hidppDdPidRdesc.length,
          filled (List.replicate 4096 0)
            (encode before ++ hidppDdPidRdesc ++ encode (closing :: after)))) := by
  have plain : ∀ item ∈ joystick, item.Plain := by
    simp only [ShortItem.Plain]
    decide
  rcases (splice_law.2 joystick plain).1 ⟨joystick.take 7, ⟨0xC0, [], rfl⟩, [], rfl,
    by decide, rfl⟩ with ⟨before, closing, after, split, closes, -, spliced⟩
  refine ⟨before, closing, after, split, closes, spliced _ ?_⟩
  rw [List.length_replicate]
  decide +kernel

def USB_DEVICE_ID_LOGITECH_G_PRO_WHEEL : UInt16 := 0xc272

def USB_DEVICE_ID_LOGITECH_G_PRO_PS_WHEEL : UInt16 := 0xc268

def USB_DEVICE_ID_LOGITECH_RS50 : UInt16 := 0xc276

/-- What decides whether a descriptor is extended; `allocates` is the outcome of `devm_kzalloc`. -/
structure InjectSite where
  injectPid : Bool
  isUsb : Bool
  product : UInt16
  interfaceNumber : ℕ
  pidFixupBuf : Bool
  allocates : Bool
  deriving DecidableEq, Repr

def InjectSite.wants (site : InjectSite) : Prop :=
  (site.injectPid ∧ site.isUsb) ∧
    (site.product = USB_DEVICE_ID_LOGITECH_RS50 ∨
      site.product = USB_DEVICE_ID_LOGITECH_G_PRO_WHEEL ∨
      site.product = USB_DEVICE_ID_LOGITECH_G_PRO_PS_WHEEL) ∧
    site.interfaceNumber = 0 ∧ site.pidFixupBuf = false ∧ site.allocates

instance (site : InjectSite) : Decidable site.wants := inferInstanceAs (Decidable (_ ∧ _))

/-- `hidpp_dd_maybe_inject_pid_descriptor`: the descriptor that is handed back. -/
def maybeInjectPidDescriptor (site : InjectSite) (rdesc : Bytes) : Option Bytes := do
  if site.wants then
    let cap := rdesc.length + hidppDdPidRdesc.length + 16
    match ← spliceRdesc rdesc (List.replicate cap 0) with
    | .error _ => some rdesc
    | .ok (size, buf) => some (buf.take size)
  else some rdesc

theorem length_spliceItems_le (depth : ℕ) (items : List ShortItem) :
    (spliceItems depth false items).1.length ≤
      (encode items).length + hidppDdPidRdesc.length := by
  induction items generalizing depth with
  | nil => exact Nat.zero_le _
  | cons item items ih =>
      have encoded : (encode (item :: items)).length = item.bytes.length + (encode items).length :=
        List.length_append
      rw [spliceItems, encoded]
      simp only [List.length_append, addition]
      by_cases here : Here item depth false
      · rw [if_pos here]
        simp only [here, decide_true, Bool.or_true, spliceItems_spliced]
        omega
      · have rest := ih (item.nest depth)
        rw [if_neg here]
        simp only [here, decide_false, Bool.or_false, List.length_nil]
        omega

/-- On its wheels the interface's descriptor is extended if it has a closing item, and anything
else is handed back as it came. -/
theorem maybeInject_eq (site : InjectSite) {items : List ShortItem}
    (plain : ∀ item ∈ items, item.Plain) :
    maybeInjectPidDescriptor site (encode items) =
      some (if site.wants ∧ (spliceItems 0 false items).2 then (spliceItems 0 false items).1
        else encode items) := by
  have room := length_spliceItems_le 0 items
  simp only [maybeInjectPidDescriptor, spliceRdesc_encode plain, List.length_replicate, bind]
  by_cases wants : site.wants
  · rw [if_pos wants, if_pos (Nat.le_add_right_of_le room)]
    cases extended : (spliceItems 0 false items).2 with
    | true =>
        simp only [if_true, Option.bind_some, filled, List.take_left, wants, and_self]
    | false =>
        simp only [Bool.false_eq_true, if_false, Option.bind_some, and_false]
  · rw [if_neg wants, if_neg (fun both => wants both.1)]

end TrueForce.Pid
