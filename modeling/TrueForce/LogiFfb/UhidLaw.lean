import TrueForce.LogiFfb.Uhid

/-!
# The conversation with the kernel

The kernel stores its requests over whatever its buffer held before, and reads the answers
at the same places.  Between the two ends nothing is lost: the proxy handles the event that
the kernel meant, and the kernel finds the answer to the request that it waits for.
-/

namespace TrueForce.LogiFfb.Uhid

open ByteBuffer RustText

section Reading

variable {buffer : Bytes} {fields : List Placed} {off : ℕ}

/-- Fields of a record that can all be read back. -/
structure Laid (buffer : Bytes) (fields : List Placed) : Prop where
  fits : ∀ field ∈ fields, field.Fits buffer.length
  apart : fields.Pairwise Placed.Apart

theorem Laid.le32At (laid : Laid buffer fields) {value : UInt32}
    (known : ⟨off, le32 value⟩ ∈ fields) : le32At (store buffer fields) off = some value := by
  have read : slice (store buffer fields) off 4 = some (le32 value) :=
    slice_store laid.fits laid.apart known
  rw [Uhid.le32At, read, Option.map_some, littleEndian_le32, UInt32.ofNat_toNat]

theorem Laid.le16At (laid : Laid buffer fields) {value : UInt16}
    (known : ⟨off, le16 value⟩ ∈ fields) : le16At (store buffer fields) off = some value := by
  have read : slice (store buffer fields) off 2 = some (le16 value) :=
    slice_store laid.fits laid.apart known
  rw [Uhid.le16At, read, Option.map_some, littleEndian_le16, UInt16.ofNat_toNat]

theorem Laid.byte (laid : Laid buffer fields) {byte : UInt8} (known : ⟨off, [byte]⟩ ∈ fields) :
    (store buffer fields)[off]? = some byte :=
  getElem?_of_slice (slice_store laid.fits laid.apart known)

theorem Laid.slice (laid : Laid buffer fields) {data : Bytes} (known : ⟨off, data⟩ ∈ fields) :
    slice (store buffer fields) off data.length = some data :=
  slice_store laid.fits laid.apart known

theorem Laid.length (laid : Laid buffer fields) : (store buffer fields).length = buffer.length :=
  length_store laid.fits

end Reading

/-- `UHID_STOP`, which the proxy has no name for. -/
def uhidStop : UInt32 := 3

/-- What the kernel tells the device. -/
inductive Request where
  | start
  | stop
  | opened
  | closed
  | output (report : Bytes) (rtype : UInt8)
  | getReport (id : UInt32) (rnum rtype : UInt8)
  | setReport (id : UInt32) (rnum rtype : UInt8) (data : Bytes)

namespace Request

/-- `UHID_DATA_MAX` bounds the data. -/
def Fits : Request → Prop
  | .output report _ => report.length ≤ outputDataLen
  | .setReport _ _ _ data => data.length ≤ reportDataLen
  | _ => True

def fields : Request → List Placed
  | .start => [⟨0, le32 uhidStart⟩]
  | .stop => [⟨0, le32 uhidStop⟩]
  | .opened => [⟨0, le32 uhidOpen⟩]
  | .closed => [⟨0, le32 uhidClose⟩]
  | .output report rtype =>
      [⟨0, le32 uhidOutput⟩, ⟨4, report⟩, ⟨4100, le16 (UInt16.ofNat report.length)⟩,
        ⟨4102, [rtype]⟩]
  | .getReport id rnum rtype =>
      [⟨0, le32 uhidGetReport⟩, ⟨4, le32 id⟩, ⟨8, [rnum]⟩, ⟨9, [rtype]⟩]
  | .setReport id rnum rtype data =>
      [⟨0, le32 uhidSetReport⟩, ⟨4, le32 id⟩, ⟨8, [rnum]⟩, ⟨9, [rtype]⟩,
        ⟨10, le16 (UInt16.ofNat data.length)⟩, ⟨12, data⟩]

def event : Request → Event
  | .start => .start
  | .stop => .other uhidStop
  | .opened => .opened
  | .closed => .closed
  | .output report _ => .output report
  | .getReport id rnum rtype => .getReport id rnum rtype
  | .setReport id rnum rtype data => .setReport id rnum rtype data

theorem laid {request : Request} (fits : request.Fits) {stale : Bytes}
    (whole : stale.length = eventSize) : Laid stale request.fields := by
  have size : eventSize = 4376 := rfl
  rw [size] at whole
  cases request with
  | start | stop | opened | closed =>
      constructor <;> simp [fields, Placed.Fits, whole]
  | output report rtype =>
      simp only [Fits, outputDataLen] at fits
      constructor
      · simp [fields, Placed.Fits, whole]
        omega
      · simp [fields, Placed.Apart]
        omega
  | getReport id rnum rtype =>
      constructor <;> simp [fields, Placed.Fits, Placed.Apart, whole]
  | setReport id rnum rtype data =>
      simp only [Fits, reportDataLen] at fits
      constructor
      · simp [fields, Placed.Fits, whole]
        omega
      · simp [fields, Placed.Apart]

end Request

theorem toNat_ofNat_length {data : Bytes} (fits : data.length ≤ 4096) :
    (UInt16.ofNat data.length).toNat = data.length := by
  rw [UInt16.toNat_ofNat']
  omega

section Parsing

variable {buf report data : Bytes} {id : UInt32} {rnum rtype : UInt8}

theorem parseOutput_eq (whole : buf.length = eventSize) (fits : report.length ≤ outputDataLen)
    (size : le16At buf 4100 = some (UInt16.ofNat report.length))
    (read : slice buf 4 report.length = some report) :
    parseOutput buf = some (.ok (.output report)) := by
  have length : buf.length = 4376 := whole
  have sized := toNat_ofNat_length fits
  have sizeOff : 4 + OutputOff.size = 4100 := rfl
  have dataOff : 4 + OutputOff.data = 4 := rfl
  rw [outputDataLen] at fits
  simp only [parseOutput, sizeOff, dataOff, size, sized, read, Option.bind_eq_bind,
    Option.bind_some]
  rw [if_neg (by omega), if_neg (by omega)]

theorem parseGetReport_eq (whole : buf.length = eventSize) (idRead : le32At buf 4 = some id)
    (rnumRead : buf[8]? = some rnum) (rtypeRead : buf[9]? = some rtype) :
    parseGetReport buf = some (.ok (.getReport id rnum rtype)) := by
  have length : buf.length = 4376 := whole
  have idOff : 4 + GetReportOff.id = 4 := rfl
  have rnumOff : 4 + GetReportOff.rnum = 8 := rfl
  have rtypeOff : 4 + GetReportOff.rtype = 9 := rfl
  simp only [parseGetReport, idOff, rnumOff, rtypeOff, idRead, rnumRead, rtypeRead,
    Option.bind_eq_bind, Option.bind_some]
  rw [if_neg (by omega)]

theorem parseSetReport_eq (whole : buf.length = eventSize) (fits : data.length ≤ reportDataLen)
    (idRead : le32At buf 4 = some id) (rnumRead : buf[8]? = some rnum)
    (rtypeRead : buf[9]? = some rtype) (size : le16At buf 10 = some (UInt16.ofNat data.length))
    (read : slice buf 12 data.length = some data) :
    parseSetReport buf = some (.ok (.setReport id rnum rtype data)) := by
  have length : buf.length = 4376 := whole
  have sized := toNat_ofNat_length fits
  have idOff : 4 + SetReportOff.id = 4 := rfl
  have rnumOff : 4 + SetReportOff.rnum = 8 := rfl
  have rtypeOff : 4 + SetReportOff.rtype = 9 := rfl
  have sizeOff : 4 + SetReportOff.size = 10 := rfl
  have dataOff : 4 + SetReportOff.data = 12 := rfl
  rw [reportDataLen] at fits
  simp only [parseSetReport, idOff, rnumOff, rtypeOff, sizeOff, dataOff, idRead, rnumRead,
    rtypeRead, size, sized, read, Option.bind_eq_bind, Option.bind_some]
  rw [if_neg (by omega), if_neg (by omega)]

/-- A record is read by its type. -/
theorem parseEvent_eq (whole : buf.length = eventSize) {type : UInt32}
    (read : le32At buf 0 = some type) :
    parseEvent buf =
      if type = uhidStart then some (.ok .start)
      else if type = uhidOpen then some (.ok .opened)
      else if type = uhidClose then some (.ok .closed)
      else if type = uhidOutput then parseOutput buf
      else if type = uhidGetReport then parseGetReport buf
      else if type = uhidSetReport then parseSetReport buf
      else some (.ok (.other type)) := by
  have length : buf.length = 4376 := whole
  rw [parseEvent, if_neg (by omega), read]
  rfl

end Parsing

/-- What the kernel stores, the proxy reads, whatever else is in the record. -/
theorem parseEvent_store {request : Request} (fits : request.Fits) {stale : Bytes}
    (stored : stale.length = eventSize) :
    parseEvent (store stale request.fields) = some (.ok request.event) := by
  have laid := request.laid fits stored
  have whole := laid.length.trans stored
  cases request with
  | start =>
      have type : le32At (store stale _) 0 = some uhidStart := laid.le32At List.mem_cons_self
      rw [parseEvent_eq whole type]
      rfl
  | stop =>
      have type : le32At (store stale _) 0 = some uhidStop := laid.le32At List.mem_cons_self
      rw [parseEvent_eq whole type]
      rfl
  | opened =>
      have type : le32At (store stale _) 0 = some uhidOpen := laid.le32At List.mem_cons_self
      rw [parseEvent_eq whole type]
      rfl
  | closed =>
      have type : le32At (store stale _) 0 = some uhidClose := laid.le32At List.mem_cons_self
      rw [parseEvent_eq whole type]
      rfl
  | output report rtype =>
      have type : le32At (store stale _) 0 = some uhidOutput := laid.le32At List.mem_cons_self
      rw [parseEvent_eq whole type]
      simp +decide only [if_true, if_false]
      apply parseOutput_eq whole fits
      · exact laid.le16At (by simp [Request.fields])
      · exact laid.slice (by simp [Request.fields])
  | getReport id rnum rtype =>
      have type : le32At (store stale _) 0 = some uhidGetReport := laid.le32At List.mem_cons_self
      rw [parseEvent_eq whole type]
      simp +decide only [if_true, if_false]
      apply parseGetReport_eq whole
      · exact laid.le32At (by simp [Request.fields])
      · exact laid.byte (by simp [Request.fields])
      · exact laid.byte (by simp [Request.fields])
  | setReport id rnum rtype data =>
      have type : le32At (store stale _) 0 = some uhidSetReport := laid.le32At List.mem_cons_self
      rw [parseEvent_eq whole type]
      simp +decide only [if_true, if_false]
      apply parseSetReport_eq whole fits
      · exact laid.le32At (by simp [Request.fields])
      · exact laid.byte (by simp [Request.fields])
      · exact laid.byte (by simp [Request.fields])
      · exact laid.le16At (by simp [Request.fields])
      · exact laid.slice (by simp [Request.fields])

/-- What the kernel takes from the device for a request that it waits on. -/
inductive Answer where
  | getReport (id : UInt32) (err : UInt16) (data : Bytes)
  | setReport (id : UInt32) (err : UInt16)
  deriving DecidableEq

namespace Answer

def id : Answer → UInt32
  | .getReport id _ _ => id
  | .setReport id _ => id

def read (buf : Bytes) : Option Answer := do
  let type ← le32At buf 0
  let id ← le32At buf 4
  let err ← le16At buf 8
  if type = uhidGetReportReply then
    let size ← le16At buf 10
    let data ← slice buf 12 size.toNat
    some (.getReport id err data)
  else if type = uhidSetReportReply then some (.setReport id err)
  else none

end Answer

section Replies

variable {data zeros : Bytes} {id : UInt32} {err : UInt16}

theorem laid_getReportReply (stored : zeros.length = eventSize)
    (fits : data.length ≤ reportDataLen) (id : UInt32) (err : UInt16) :
    Laid zeros
      [⟨0, le32 uhidGetReportReply⟩, ⟨4, le32 id⟩, ⟨8, le16 err⟩,
        ⟨10, le16 (UInt16.ofNat data.length)⟩, ⟨12, data⟩] := by
  have whole : zeros.length = 4376 := stored
  rw [reportDataLen] at fits
  constructor
  · simp [Placed.Fits, whole]
    omega
  · simp [Placed.Apart]

theorem laid_setReportReply (stored : zeros.length = eventSize) (id : UInt32) (err : UInt16) :
    Laid zeros [⟨0, le32 uhidSetReportReply⟩, ⟨4, le32 id⟩, ⟨8, le16 err⟩] := by
  have whole : zeros.length = 4376 := stored
  constructor <;> simp [Placed.Fits, Placed.Apart, whole]

theorem read_getReportReply (fits : data.length ≤ reportDataLen) (id : UInt32) (err : UInt16) :
    ∃ written, encodeGetReportReply id err data = some written ∧
      Answer.read written = some (.getReport id err data) := by
  refine ⟨_, if_pos fits, ?_⟩
  simp only [record, GetReportReplyOff.id, GetReportReplyOff.err, GetReportReplyOff.size,
    GetReportReplyOff.data, Nat.reduceAdd]
  generalize zeroed : List.replicate eventSize (0 : UInt8) = zeros
  have stored : zeros.length = eventSize := by rw [← zeroed, List.length_replicate]
  have laid := laid_getReportReply stored fits id err
  generalize fields : [_, _, _, _, _] = placed at laid ⊢
  have type : le32At (store zeros placed) 0 = some uhidGetReportReply :=
    laid.le32At (by simp [← fields])
  have idRead : le32At (store zeros placed) 4 = some id := laid.le32At (by simp [← fields])
  have errRead : le16At (store zeros placed) 8 = some err := laid.le16At (by simp [← fields])
  have size : le16At (store zeros placed) 10 = some (UInt16.ofNat data.length) :=
    laid.le16At (by simp [← fields])
  have read : slice (store zeros placed) 12 data.length = some data :=
    laid.slice (by simp [← fields])
  simp only [Answer.read, type, idRead, errRead, size, toNat_ofNat_length fits, read,
    Option.bind_eq_bind, Option.bind_some, if_true]

theorem read_setReportReply (id : UInt32) (err : UInt16) :
    Answer.read (encodeSetReportReply id err) = some (.setReport id err) := by
  simp only [encodeSetReportReply, record, SetReportReplyOff.id, SetReportReplyOff.err,
    Nat.reduceAdd]
  generalize zeroed : List.replicate eventSize (0 : UInt8) = zeros
  have stored : zeros.length = eventSize := by rw [← zeroed, List.length_replicate]
  have laid := laid_setReportReply stored id err
  generalize fields : [_, _, _] = placed at laid ⊢
  have type : le32At (store zeros placed) 0 = some uhidSetReportReply :=
    laid.le32At (by simp [← fields])
  have idRead : le32At (store zeros placed) 4 = some id := laid.le32At (by simp [← fields])
  have errRead : le16At (store zeros placed) 8 = some err := laid.le16At (by simp [← fields])
  have other : uhidSetReportReply ≠ uhidGetReportReply := by decide
  simp only [Answer.read, type, idRead, errRead, other, Option.bind_eq_bind, Option.bind_some,
    if_true, if_false]

end Replies

/-- The report that the proxy has for a number. -/
def featureReport (proxy : Proxy) (rnum : UInt8) : Bytes :=
  if rnum = 0x56 then pidBlockLoadReply proxy.lastCreatedBlock
  else if rnum = 0x57 then pidPoolReply
  else [rnum]

theorem length_featureReport (proxy : Proxy) (rnum : UInt8) :
    (featureReport proxy rnum).length ≤ 5 := by
  rw [featureReport]
  split
  · exact Nat.le_refl 5
  · split
    · exact Nat.le_refl 5
    · exact Nat.le_add_left 1 4

/-- What the kernel is told of an event. -/
def Event.answered (proxy : Proxy) : Event → Option Answer
  | .getReport id rnum _ => some (.getReport id 0 (featureReport proxy rnum))
  | .setReport id _ _ _ => some (.setReport id 0)
  | _ => none

namespace Request

/-- The id that the kernel waits for. -/
def awaits : Request → Option UInt32
  | .getReport id _ _ => some id
  | .setReport id _ _ _ => some id
  | _ => none

def answered (proxy : Proxy) (request : Request) : Option Answer := request.event.answered proxy

theorem id_answered (request : Request) (proxy : Proxy) :
    (request.answered proxy).map Answer.id = request.awaits := by
  cases request <;> rfl

/-- The proxy behind the request. -/
def after (proxy : Proxy) (request : Request) : Proxy :=
  (proxy.receive request.event.handled).1

end Request

theorem receive_getReport (proxy : Proxy) (rnum : UInt8) :
    proxy.receive (.getReport rnum) =
      (proxy, some (.getReport 0 (featureReport proxy rnum))) := by
  simp only [Proxy.receive, featureReport]
  split
  · rfl
  · split <;> rfl

theorem receive_setReport (proxy : Proxy) (rnum : UInt8) (data : Bytes) :
    (proxy.receive (.setReport rnum data)).2 = some (.setReport 0) := by
  rw [Proxy.receive]
  split <;> rfl

/-- The reply to an event always fits into its record, and the kernel reads it from there. -/
theorem exists_answer (proxy : Proxy) (event : Event) :
    ∃ written, event.answer (proxy.receive event.handled).2 = some written ∧
      written.map Answer.read = (event.answered proxy).map some := by
  cases event with
  | start | opened | closed | output | other => exact ⟨none, rfl, rfl⟩
  | getReport id rnum rtype =>
      have short := length_featureReport proxy rnum
      have small : (featureReport proxy rnum).length ≤ reportDataLen := by
        rw [reportDataLen]
        omega
      rcases read_getReportReply small id 0 with ⟨written, encoded, read⟩
      refine ⟨some written, ?_, ?_⟩
      · rw [Event.handled, receive_getReport, Event.answer, encoded, Option.map_some]
      · simp only [Event.answered, Option.map_some, read]
  | setReport id rnum rtype data =>
      refine ⟨some (encodeSetReportReply id 0), ?_, ?_⟩
      · rw [Event.handled, receive_setReport, Event.answer]
      · simp only [Event.answered, Option.map_some, read_setReportReply]

/-- One record: the proxy takes its event, and the kernel reads the answer that it waits for. -/
theorem serve_store (proxy : Proxy) {request : Request} (fits : request.Fits) {stale : Bytes}
    (stored : stale.length = eventSize) :
    ∃ written,
      serve proxy (store stale request.fields) = some (.ok (request.after proxy, written)) ∧
        written.map Answer.read = (request.answered proxy).map some := by
  rcases exists_answer proxy request.event with ⟨written, answered, read⟩
  refine ⟨written, ?_, read⟩
  rw [serve, parseEvent_store fits stored]
  simp only [Option.bind_eq_bind, Option.bind_some, answered, Request.after]

def answers : Proxy → List Request → List Answer
  | _, [] => []
  | proxy, request :: requests =>
      (request.answered proxy).toList ++ answers (request.after proxy) requests

theorem ids_answers (proxy : Proxy) (requests : List Request) :
    (answers proxy requests).map Answer.id = requests.filterMap Request.awaits := by
  induction requests generalizing proxy with
  | nil => rfl
  | cons request requests ih =>
      rw [answers, List.map_append, ih, ← Option.toList_map, Request.id_answered]
      cases request <;> rfl

/-- A request and what the kernel's buffer held before it. -/
abbrev Delivery := Request × Bytes

def Delivery.record (delivery : Delivery) : Bytes := store delivery.2 delivery.1.fields

def Delivery.Valid (delivery : Delivery) : Prop :=
  delivery.1.Fits ∧ delivery.2.length = eventSize

/-- Over any sequence of requests the proxy handles the events that the kernel meant, fails
nowhere, and each request that the kernel waits on is answered once, in turn and under its id. -/
theorem conversation_law (proxy : Proxy) {deliveries : List Delivery}
    (valid : ∀ delivery ∈ deliveries, delivery.Valid) :
    ∃ records,
      serveAll proxy (deliveries.map Delivery.record) =
          some (.ok ((deliveries.map Prod.fst).foldl (fun proxy request => request.after proxy)
            proxy, records)) ∧
        records.map Answer.read = (answers proxy (deliveries.map Prod.fst)).map some ∧
        (answers proxy (deliveries.map Prod.fst)).map Answer.id =
          (deliveries.map Prod.fst).filterMap Request.awaits := by
  induction deliveries generalizing proxy with
  | nil => exact ⟨[], rfl, rfl, rfl⟩
  | cons delivery deliveries ih =>
      rcases valid delivery List.mem_cons_self with ⟨fits, stored⟩
      rcases serve_store proxy fits stored with ⟨written, served, read⟩
      rcases ih (delivery.1.after proxy) fun other known =>
        valid other (List.mem_cons_of_mem delivery known) with ⟨records, rest, answered, -⟩
      refine ⟨written.toList ++ records, ?_, ?_, ids_answers _ _⟩
      · rw [List.map_cons, serveAll, Delivery.record, served]
        simp only [Option.bind_eq_bind, Option.bind_some, rest, List.map_cons, List.foldl_cons]
      · rw [List.map_append, answered, ← Option.toList_map, read]
        simp only [List.map_cons, answers, List.map_append, Option.toList_map]

/-- The host creates an effect and asks for its block. -/
def creation : List Delivery :=
  [(.setReport 7 0x54 3 [0x54, 1], List.replicate eventSize 0),
    (.getReport 8 0x56 3, List.replicate eventSize 0xFF)]

theorem conversation_law_creation :
    ∃ last records, serveAll .new (creation.map Delivery.record) = some (.ok (last, records)) ∧
      records.map Answer.read =
        [some (.setReport 7 0), some (.getReport 8 0 [0x56, 1, 1, 0xFF, 0xFF])] := by
  have valid : ∀ delivery ∈ creation, delivery.Valid := by
    intro delivery known
    rcases List.mem_pair.mp known with rfl | rfl
    · refine ⟨?_, List.length_replicate⟩
      simp only [Request.Fits, reportDataLen]
      decide
    · exact ⟨trivial, List.length_replicate⟩
  rcases conversation_law .new valid with ⟨records, served, read, -⟩
  exact ⟨_, records, served, read⟩

/-- The record ends in front of a field that its type has, or in front of the end of its data. -/
def Truncated (buf : Bytes) : Prop :=
  buf.length < 4 ∨
    (le32At buf 0 = some uhidOutput ∧
      (buf.length < 4102 ∨ ∃ size, le16At buf 4100 = some size ∧ buf.length < 4 + size.toNat)) ∨
    (le32At buf 0 = some uhidGetReport ∧ buf.length < 10) ∨
    (le32At buf 0 = some uhidSetReport ∧
      (buf.length < 12 ∨ ∃ size, le16At buf 10 = some size ∧ buf.length < 12 + size.toNat))

section Truncation

variable {buf : Bytes} {off : ℕ}

theorem exists_le16At (fits : off + 2 ≤ buf.length) : ∃ value, le16At buf off = some value := by
  rw [le16At, slice_of_le fits]
  exact ⟨_, rfl⟩

theorem exists_le32At (fits : off + 4 ≤ buf.length) : ∃ value, le32At buf off = some value := by
  rw [le32At, slice_of_le fits]
  exact ⟨_, rfl⟩

/-- A read that fails exactly when a condition holds. -/
def FailsWhen (parsed : Option (Except Error Event)) (short : Prop) : Prop :=
  (∃ error, parsed = some (.error error)) ∧ short ∨ (∃ event, parsed = some (.ok event)) ∧ ¬ short

theorem parseOutput_failsWhen (buf : Bytes) :
    FailsWhen (parseOutput buf)
      (buf.length < 4102 ∨ ∃ size, le16At buf 4100 = some size ∧ buf.length < 4 + size.toNat) := by
  have sizeOff : 4 + OutputOff.size = 4100 := rfl
  have dataOff : 4 + OutputOff.data = 4 := rfl
  simp only [parseOutput, sizeOff, dataOff]
  split
  · rename_i short
    exact .inl ⟨⟨_, rfl⟩, .inl short⟩
  · rename_i long
    rcases @exists_le16At buf 4100 (by omega) with ⟨size, read⟩
    simp only [read, Option.bind_eq_bind, Option.bind_some]
    split
    · rename_i short
      exact .inl ⟨⟨_, rfl⟩, .inr ⟨size, rfl, short⟩⟩
    · rename_i within
      rw [slice_of_le (by omega)]
      refine .inr ⟨⟨_, rfl⟩, ?_⟩
      rintro (short | ⟨other, same, short⟩)
      · exact long short
      · cases same
        exact within short

theorem parseGetReport_failsWhen (buf : Bytes) :
    FailsWhen (parseGetReport buf) (buf.length < 10) := by
  have idOff : 4 + GetReportOff.id = 4 := rfl
  have rnumOff : 4 + GetReportOff.rnum = 8 := rfl
  have rtypeOff : 4 + GetReportOff.rtype = 9 := rfl
  simp only [parseGetReport, idOff, rnumOff, rtypeOff]
  split
  · rename_i short
    exact .inl ⟨⟨_, rfl⟩, short⟩
  · rename_i long
    rcases @exists_le32At buf 4 (by omega) with ⟨id, idRead⟩
    have rnumRead : buf[8]? = some buf[8] := List.getElem?_eq_getElem (by omega)
    have rtypeRead : buf[9]? = some buf[9] := List.getElem?_eq_getElem (by omega)
    simp only [idRead, rnumRead, rtypeRead, Option.bind_eq_bind, Option.bind_some]
    exact .inr ⟨⟨_, rfl⟩, long⟩

theorem parseSetReport_failsWhen (buf : Bytes) :
    FailsWhen (parseSetReport buf)
      (buf.length < 12 ∨ ∃ size, le16At buf 10 = some size ∧ buf.length < 12 + size.toNat) := by
  have idOff : 4 + SetReportOff.id = 4 := rfl
  have rnumOff : 4 + SetReportOff.rnum = 8 := rfl
  have rtypeOff : 4 + SetReportOff.rtype = 9 := rfl
  have sizeOff : 4 + SetReportOff.size = 10 := rfl
  have dataOff : 4 + SetReportOff.data = 12 := rfl
  simp only [parseSetReport, idOff, rnumOff, rtypeOff, sizeOff, dataOff]
  split
  · rename_i short
    exact .inl ⟨⟨_, rfl⟩, .inl short⟩
  · rename_i long
    rcases @exists_le32At buf 4 (by omega) with ⟨id, idRead⟩
    rcases @exists_le16At buf 10 (by omega) with ⟨size, sizeRead⟩
    have rnumRead : buf[8]? = some buf[8] := List.getElem?_eq_getElem (by omega)
    have rtypeRead : buf[9]? = some buf[9] := List.getElem?_eq_getElem (by omega)
    simp only [idRead, rnumRead, rtypeRead, sizeRead, Option.bind_eq_bind, Option.bind_some]
    split
    · rename_i short
      exact .inl ⟨⟨_, rfl⟩, .inr ⟨size, rfl, short⟩⟩
    · rename_i within
      rw [slice_of_le (by omega)]
      refine .inr ⟨⟨_, rfl⟩, ?_⟩
      rintro (short | ⟨other, same, short⟩)
      · exact long short
      · cases same
        exact within short

theorem FailsWhen.congr {parsed : Option (Except Error Event)} {short other : Prop}
    (fails : FailsWhen parsed short) (same : short ↔ other) : FailsWhen parsed other := by
  rwa [FailsWhen, ← same]

theorem failsWhen_ok {event : Event} {short : Prop} (long : ¬ short) :
    FailsWhen (some (.ok event)) short :=
  .inr ⟨⟨event, rfl⟩, long⟩

theorem parseEvent_failsWhen (buf : Bytes) : FailsWhen (parseEvent buf) (Truncated buf) := by
  rw [parseEvent]
  split
  · rename_i short
    exact .inl ⟨⟨_, rfl⟩, .inl short⟩
  · rename_i long
    rcases @exists_le32At buf 0 (by omega) with ⟨type, read⟩
    simp only [read, Option.bind_eq_bind, Option.bind_some]
    by_cases output : type = uhidOutput
    · have truncated : Truncated buf ↔ (buf.length < 4102 ∨
          ∃ size, le16At buf 4100 = some size ∧ buf.length < 4 + size.toNat) := by
        have others : uhidOutput ≠ uhidGetReport ∧ uhidOutput ≠ uhidSetReport := by decide
        simp [Truncated, read, output, others, long]
      rw [output]
      exact (parseOutput_failsWhen buf).congr truncated.symm
    · by_cases getReport : type = uhidGetReport
      · have truncated : Truncated buf ↔ buf.length < 10 := by
          have others : uhidGetReport ≠ uhidOutput ∧ uhidGetReport ≠ uhidSetReport := by decide
          simp [Truncated, read, getReport, others, long]
        rw [getReport]
        exact (parseGetReport_failsWhen buf).congr truncated.symm
      · by_cases setReport : type = uhidSetReport
        · have truncated : Truncated buf ↔ (buf.length < 12 ∨
              ∃ size, le16At buf 10 = some size ∧ buf.length < 12 + size.toNat) := by
            have others : uhidSetReport ≠ uhidOutput ∧ uhidSetReport ≠ uhidGetReport := by decide
            simp [Truncated, read, setReport, others, long]
          rw [setReport]
          exact (parseSetReport_failsWhen buf).congr truncated.symm
        · have whole : ¬ Truncated buf := by
            simp [Truncated, read, output, getReport, setReport, long]
          rw [if_neg output, if_neg getReport, if_neg setReport]
          split
          · exact failsWhen_ok whole
          · split
            · exact failsWhen_ok whole
            · split <;> exact failsWhen_ok whole

/-- Nothing that is read panics the proxy: a record fails exactly when it is cut short, and of any
other the event is handled and its answer, if it has one, is written. -/
theorem serve_law (proxy : Proxy) (buf : Bytes) :
    (∃ error, serve proxy buf = some (.error error)) ∧ Truncated buf ∨
      (∃ event written, parseEvent buf = some (.ok event) ∧
        event.answer (proxy.receive event.handled).2 = some written ∧
        written.map Answer.read = (event.answered proxy).map some ∧
        serve proxy buf = some (.ok ((proxy.receive event.handled).1, written))) ∧
          ¬ Truncated buf := by
  rw [serve]
  rcases parseEvent_failsWhen buf with ⟨⟨error, parsed⟩, short⟩ | ⟨⟨event, parsed⟩, long⟩
  · rw [parsed]
    exact .inl ⟨⟨error, rfl⟩, short⟩
  · rcases exists_answer proxy event with ⟨written, answered, read⟩
    rw [parsed]
    refine .inr ⟨⟨event, written, rfl, answered, read, ?_⟩, long⟩
    simp only [Option.bind_eq_bind, Option.bind_some, answered]

end Truncation

/-- What the kernel takes as input from the device. -/
def readInput2 (buf : Bytes) : Option Bytes := do
  let type ← le32At buf 0
  guard (type = uhidInput2)
  let size ← le16At buf 4
  slice buf 6 size.toNat

/-- An input report reaches the kernel whole or is not sent. -/
theorem input2_law (report : Bytes) :
    (encodeInput2 report).bind readInput2 =
      if report.length ≤ input2DataLen then some report else none := by
  rw [encodeInput2]
  split
  · rename_i fits
    simp only [record, Input2Off.size, Input2Off.data, Nat.reduceAdd, Option.bind_some]
    generalize zeroed : List.replicate eventSize (0 : UInt8) = zeros
    have stored : zeros.length = 4376 := by
      rw [← zeroed, List.length_replicate]
      rfl
    have sized := toNat_ofNat_length fits
    generalize fields : [_, _, _] = placed
    have laid : Laid zeros placed := by
      rw [input2DataLen] at fits
      rw [← fields]
      constructor
      · simp [Placed.Fits, stored]
        omega
      · simp [Placed.Apart]
    have type : le32At (store zeros placed) 0 = some uhidInput2 := laid.le32At (by simp [← fields])
    have size : le16At (store zeros placed) 4 = some (UInt16.ofNat report.length) :=
      laid.le16At (by simp [← fields])
    have read : slice (store zeros placed) 6 report.length = some report :=
      laid.slice (by simp [← fields])
    simp only [readInput2, type, size, sized, read, guard, Option.bind_eq_bind, Option.bind_some,
      if_true]
    rfl
  · rfl

/-- What the kernel makes of a record that creates a device. -/
structure Device where
  name : Bytes
  bus : UInt16
  vendor : UInt32
  product : UInt32
  version : UInt32
  country : UInt32
  rdData : Bytes

/-- The name ends at its first NUL, and there is no device without a report descriptor. -/
def Device.read (buf : Bytes) : Option Device := do
  let type ← le32At buf 0
  guard (type = uhidCreate2)
  let name ← slice buf 4 nameLen
  let rdSize ← le16At buf 260
  guard (0 < rdSize.toNat)
  let bus ← le16At buf 262
  let vendor ← le32At buf 264
  let product ← le32At buf 268
  let version ← le32At buf 272
  let country ← le32At buf 276
  let rdData ← slice buf 280 rdSize.toNat
  return { name := name.takeWhile (· ≠ 0), bus, vendor, product, version, country, rdData }

theorem takeWhile_append_zeros (bytes : Bytes) {count : ℕ} (room : 0 < count) :
    (bytes ++ List.replicate count (0 : UInt8)).takeWhile (· ≠ 0) = bytes.takeWhile (· ≠ 0) := by
  induction bytes with
  | nil =>
      rcases Nat.exists_eq_succ_of_ne_zero (Nat.ne_of_gt room) with ⟨rest, rfl⟩
      rfl
  | cons byte bytes ih =>
      rw [List.cons_append, List.takeWhile_cons, List.takeWhile_cons, ih]

/-- The fields of the record, by the places where the kernel has them. -/
def create2Fields (name : Bytes) (bus : UInt16) (vendor product : UInt32) (rdData : Bytes) :
    List Placed :=
  [⟨0, le32 uhidCreate2⟩, ⟨4, name⟩, ⟨260, le16 (UInt16.ofNat rdData.length)⟩, ⟨262, le16 bus⟩,
    ⟨264, le32 vendor⟩, ⟨268, le32 product⟩, ⟨280, rdData⟩]

section Creation

variable {zeros name rdData : Bytes} {bus : UInt16} {vendor product : UInt32}

theorem laid_create2 (stored : zeros.length = eventSize) (short : name.length ≤ 127)
    (fits : rdData.length ≤ rdDataLen) :
    Laid zeros (create2Fields name bus vendor product rdData) := by
  have whole : zeros.length = 4376 := stored
  rw [rdDataLen] at fits
  constructor
  · simp [create2Fields, Placed.Fits, whole]
    omega
  · simp [create2Fields, Placed.Apart]
    omega

theorem read_create2 (zeroed : List.replicate eventSize (0 : UInt8) = zeros)
    (short : name.length ≤ 127) (fits : rdData.length ≤ rdDataLen) :
    Device.read (store zeros (create2Fields name bus vendor product rdData)) =
      if 0 < rdData.length then
        some { name := name.takeWhile (· ≠ 0), bus, vendor, product
               version := 0, country := 0, rdData }
      else none := by
  have stored : zeros.length = eventSize := by rw [← zeroed, List.length_replicate]
  have laid : Laid zeros (create2Fields name bus vendor product rdData) :=
    laid_create2 stored short fits
  have size : eventSize = 4376 := rfl
  have gap {off count : ℕ} (within : off + count ≤ eventSize)
      (apart : ∀ field ∈ create2Fields name bus vendor product rdData,
        off + count ≤ field.offset ∨ field.offset + field.data.length ≤ off) :
      slice (store zeros (create2Fields name bus vendor product rdData)) off count =
        some (List.replicate count 0) := by
    rw [slice_store_apart laid.fits apart, ← zeroed]
    exact slice_replicate within
  have type : le32At (store zeros _) 0 = some uhidCreate2 :=
    laid.le32At (by simp [create2Fields])
  have rdSize : le16At (store zeros _) 260 = some (UInt16.ofNat rdData.length) :=
    laid.le16At (by simp [create2Fields])
  have busRead : le16At (store zeros _) 262 = some bus := laid.le16At (by simp [create2Fields])
  have vendorRead : le32At (store zeros _) 264 = some vendor :=
    laid.le32At (by simp [create2Fields])
  have productRead : le32At (store zeros _) 268 = some product :=
    laid.le32At (by simp [create2Fields])
  have data : slice (store zeros _) 280 rdData.length = some rdData :=
    laid.slice (by simp [create2Fields])
  have front : slice (store zeros _) 4 name.length = some name :=
    laid.slice (by simp [create2Fields])
  have rest := @gap (4 + name.length) (nameLen - name.length)
    (by simp only [size, nameLen]; omega) (by simp [create2Fields, nameLen]; omega)
  have slot := slice_add front rest
  have together : name.length + (nameLen - name.length) = nameLen := by
    simp only [nameLen]
    omega
  rw [together] at slot
  have version := @gap 272 4 (by simp only [size]; omega) (by simp [create2Fields]; omega)
  have country := @gap 276 4 (by simp only [size]; omega) (by simp [create2Fields]; omega)
  have terminated : 0 < nameLen - name.length := by
    simp only [nameLen]
    omega
  simp only [Device.read, type, rdSize, busRead, vendorRead, productRead, slot,
    toNat_ofNat_length fits, data, takeWhile_append_zeros name terminated, Option.bind_eq_bind,
    Option.bind_some, guard, if_true]
  split
  · simp only [le32At, version, country]
    rfl
  · rfl

end Creation

/-- A descriptor that fits makes the device with its first 127 name bytes, its ids and the whole
descriptor; an empty one and one that does not fit make none. -/
theorem create2_law (name : Text) (bus : UInt16) (vendor product : UInt32) (rdData : Bytes) :
    (encodeCreate2 name bus vendor product rdData).bind Device.read =
      if 0 < rdData.length ∧ rdData.length ≤ rdDataLen then
        some { name := ((utf8 name).take 127).takeWhile (· ≠ 0), bus, vendor, product
               version := 0, country := 0, rdData }
      else none := by
  rw [encodeCreate2]
  split
  · rename_i fits
    have cut : (utf8 name).take (min (utf8 name).length (nameLen - 1)) = (utf8 name).take 127 := by
      rw [Nat.min_comm, ← List.take_eq_take_min]
      rfl
    have short : ((utf8 name).take 127).length ≤ 127 := List.length_take_le 127 _
    have offsets : 4 + Create2Off.name = 4 ∧ 4 + Create2Off.rdSize = 260 ∧
        4 + Create2Off.bus = 262 ∧ 4 + Create2Off.vendor = 264 ∧ 4 + Create2Off.product = 268 ∧
          4 + Create2Off.rdData = 280 := by decide
    rcases offsets with ⟨nameOff, rdSizeOff, busOff, vendorOff, productOff, rdDataOff⟩
    simp only [record, cut, nameOff, rdSizeOff, busOff, vendorOff, productOff, rdDataOff,
      Option.bind_some]
    refine (read_create2 rfl short fits).trans ?_
    simp only [fits, and_true]
  · rename_i long
    rw [if_neg fun both => long both.2]
    rfl

end TrueForce.LogiFfb.Uhid
