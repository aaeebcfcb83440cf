import TrueForce.Foundation.ByteBuffer
import TrueForce.Foundation.RustText
import TrueForce.LogiFfb.Handshake

/-!
# The records of the virtual device

The kernel and the proxy exchange records of one size through the uhid node: a type, and
behind it a struct that depends on the type.  The proxy reads the kernel's records field by
field, and answers each request with a record that repeats the id of the request.
-/

namespace TrueForce.LogiFfb.Uhid

open ByteBuffer RustText

def uhidDestroy : UInt32 := 1

def uhidStart : UInt32 := 2

def uhidOpen : UInt32 := 4

def uhidClose : UInt32 := 5

def uhidOutput : UInt32 := 6

def uhidGetReport : UInt32 := 9

def uhidGetReportReply : UInt32 := 10

def uhidCreate2 : UInt32 := 11

def uhidInput2 : UInt32 := 12

def uhidSetReport : UInt32 := 13

def uhidSetReportReply : UInt32 := 14

def nameLen : ℕ := 128

def physLen : ℕ := 64

def uniqLen : ℕ := 64

def rdDataLen : ℕ := 4096

def input2DataLen : ℕ := 4096

def outputDataLen : ℕ := 4096

def reportDataLen : ℕ := 4096

-- The offsets within the union, behind the type.

namespace Create2Off

def name : ℕ := 0

def phys : ℕ := name + nameLen

def uniq : ℕ := phys + physLen

def rdSize : ℕ := uniq + uniqLen

def bus : ℕ := rdSize + 2

def vendor : ℕ := bus + 2

def product : ℕ := vendor + 4

def version : ℕ := product + 4

def country : ℕ := version + 4

def rdData : ℕ := country + 4

end Create2Off

namespace Input2Off

def size : ℕ := 0

def data : ℕ := 2

end Input2Off

namespace OutputOff

def data : ℕ := 0

def size : ℕ := data + outputDataLen

end OutputOff

namespace GetReportOff

def id : ℕ := 0

def rnum : ℕ := 4

def rtype : ℕ := 5

end GetReportOff

namespace GetReportReplyOff

def id : ℕ := 0

def err : ℕ := 4

def size : ℕ := 6

def data : ℕ := 8

end GetReportReplyOff

namespace SetReportOff

def id : ℕ := 0

def rnum : ℕ := 4

def rtype : ℕ := 5

def size : ℕ := 6

def data : ℕ := 8

end SetReportOff

namespace SetReportReplyOff

def id : ℕ := 0

def err : ℕ := 4

end SetReportReplyOff

/-- The type and the largest member of the union, `uhid_create2_req`. -/
def eventSize : ℕ := 4 + (Create2Off.rdData + rdDataLen)

/-- Stores into a zeroed record. -/
def record (fields : List Placed) : Bytes := store (List.replicate eventSize 0) fields

/-- A report descriptor that is too large panics. -/
def encodeCreate2 (name : Text) (bus : UInt16) (vendor product : UInt32) (rdData : Bytes) :
    Option Bytes :=
  if rdData.length ≤ rdDataLen then
    let nameBytes := utf8 name
    let copyLen := min nameBytes.length (nameLen - 1)
    some (record [
      ⟨0, le32 uhidCreate2⟩,
      ⟨4 + Create2Off.name, nameBytes.take copyLen⟩,
      ⟨4 + Create2Off.rdSize, le16 (UInt16.ofNat rdData.length)⟩,
      ⟨4 + Create2Off.bus, le16 bus⟩,
      ⟨4 + Create2Off.vendor, le32 vendor⟩,
      ⟨4 + Create2Off.product, le32 product⟩,
      ⟨4 + Create2Off.rdData, rdData⟩])
  else none

/-- An input report that is too large panics. -/
def encodeInput2 (report : Bytes) : Option Bytes :=
  if report.length ≤ input2DataLen then
    some (record [
      ⟨0, le32 uhidInput2⟩,
      ⟨4 + Input2Off.size, le16 (UInt16.ofNat report.length)⟩,
      ⟨4 + Input2Off.data, report⟩])
  else none

def encodeBare (eventType : UInt32) : Bytes := record [⟨0, le32 eventType⟩]

/-- Data that is too large panics. -/
def encodeGetReportReply (id : UInt32) (err : UInt16) (data : Bytes) : Option Bytes :=
  if data.length ≤ reportDataLen then
    some (record [
      ⟨0, le32 uhidGetReportReply⟩,
      ⟨4 + GetReportReplyOff.id, le32 id⟩,
      ⟨4 + GetReportReplyOff.err, le16 err⟩,
      ⟨4 + GetReportReplyOff.size, le16 (UInt16.ofNat data.length)⟩,
      ⟨4 + GetReportReplyOff.data, data⟩])
  else none

def encodeSetReportReply (id : UInt32) (err : UInt16) : Bytes :=
  record [
    ⟨0, le32 uhidSetReportReply⟩,
    ⟨4 + SetReportReplyOff.id, le32 id⟩,
    ⟨4 + SetReportReplyOff.err, le16 err⟩]

inductive Event where
  | start
  | opened
  | closed
  | output (report : Bytes)
  | getReport (id : UInt32) (rnum rtype : UInt8)
  | setReport (id : UInt32) (rnum rtype : UInt8) (data : Bytes)
  | other (eventType : UInt32)
  deriving DecidableEq

/-- `Error::Protocol` -/
inductive Error where
  | protocol (message : String)
  deriving DecidableEq

def le16At (buf : Bytes) (off : ℕ) : Option UInt16 :=
  (slice buf off 2).map fun data => UInt16.ofNat (littleEndian data)

def le32At (buf : Bytes) (off : ℕ) : Option UInt32 :=
  (slice buf off 4).map fun data => UInt32.ofNat (littleEndian data)

def parseOutput (buf : Bytes) : Option (Except Error Event) :=
  let sizeOff := 4 + OutputOff.size
  if buf.length < sizeOff + 2 then
    some (.error (.protocol "uhid output event truncated before size field"))
  else do
    let size ← le16At buf sizeOff
    let dataOff := 4 + OutputOff.data
    if buf.length < dataOff + size.toNat then
      some (.error (.protocol "uhid output event truncated before report data"))
    else do
      let report ← slice buf dataOff size.toNat
      some (.ok (.output report))

def parseGetReport (buf : Bytes) : Option (Except Error Event) :=
  let rtypeOff := 4 + GetReportOff.rtype
  if buf.length < rtypeOff + 1 then
    some (.error (.protocol "uhid get-report event truncated before rtype field"))
  else do
    let id ← le32At buf (4 + GetReportOff.id)
    let rnum ← buf[4 + GetReportOff.rnum]?
    let rtype ← buf[rtypeOff]?
    some (.ok (.getReport id rnum rtype))

def parseSetReport (buf : Bytes) : Option (Except Error Event) :=
  let sizeOff := 4 + SetReportOff.size
  if buf.length < sizeOff + 2 then
    some (.error (.protocol "uhid set-report event truncated before size field"))
  else do
    let id ← le32At buf (4 + SetReportOff.id)
    let rnum ← buf[4 + SetReportOff.rnum]?
    let rtype ← buf[4 + SetReportOff.rtype]?
    let size ← le16At buf sizeOff
    let dataOff := 4 + SetReportOff.data
    if buf.length < dataOff + size.toNat then
      some (.error (.protocol "uhid set-report event truncated before report data"))
    else do
      let data ← slice buf dataOff size.toNat
      some (.ok (.setReport id rnum rtype data))

/-- A read outside the buffer panics. -/
def parseEvent (buf : Bytes) : Option (Except Error Event) :=
  if buf.length < 4 then
    some (.error (.protocol "uhid event buffer shorter than the type field"))
  else do
    let eventType ← le32At buf 0
    if eventType = uhidStart then some (.ok .start)
    else if eventType = uhidOpen then some (.ok .opened)
    else if eventType = uhidClose then some (.ok .closed)
    else if eventType = uhidOutput then parseOutput buf
    else if eventType = uhidGetReport then parseGetReport buf
    else if eventType = uhidSetReport then parseSetReport buf
    else some (.ok (.other eventType))

/-- The event without the ids, as the proxy handles it. -/
def Event.handled : Event → LogiFfb.Event
  | .output report => .output report
  | .getReport _ rnum _ => .getReport rnum
  | .setReport _ rnum _ data => .setReport rnum data
  | _ => .other

/-- The record of a reply to an event. -/
def Event.answer : Event → Option Reply → Option (Option Bytes)
  | .getReport id _ _, some (.getReport err data) => (encodeGetReportReply id err data).map some
  | .setReport id _ _ _, some (.setReport err) => some (some (encodeSetReportReply id err))
  | _, _ => some none

/-- `read_event`, the arm for its event, and the record written in answer. -/
def serve (proxy : Proxy) (buf : Bytes) : Option (Except Error (Proxy × Option Bytes)) := do
  match ← parseEvent buf with
  | .error error => some (.error error)
  | .ok event => do
      let (proxy, reply) := proxy.receive event.handled
      let written ← event.answer reply
      some (.ok (proxy, written))

/-- The records that are read one after the other, and what is written back until one fails. -/
def serveAll (proxy : Proxy) : List Bytes → Option (Except Error (Proxy × List Bytes))
  | [] => some (.ok (proxy, []))
  | buf :: bufs => do
      match ← serve proxy buf with
      | .error error => some (.error error)
      | .ok (next, written) => do
          match ← serveAll next bufs with
          | .error error => some (.error error)
          | .ok (last, rest) => some (.ok (last, written.toList ++ rest))

end TrueForce.LogiFfb.Uhid
