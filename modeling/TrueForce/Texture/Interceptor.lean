import TrueForce.Texture.Merge

/-!
# The interceptor on interface 2

`hidpp_dd_texmerge_classify` sees every output report on its way to the wheel.
It may put the driver's own force into a foreign stream packet, hand a range push
to the tracker, or splice engine texture in.  The sysfs stores change the
synthesiser's settings between packets; they take the values that the kernel's
parsers have read.  The rest of the driver changes its own fields at will.
-/

namespace TrueForce.Texture

open TrueForce.ByteBuffer

/-- The context that `in_interrupt` and `PF_KTHREAD` tell apart. -/
inductive Context where
  | process
  | kernelThread
  | interrupt
  deriving DecidableEq, Repr

/-- The fields of `hidpp_dd_ff_data` that the interceptor reads or writes. -/
structure FfData where
  foreignStreamAt : UInt64
  anyEffectPlaying : Bool
  yieldForce : UInt16
  selfInflight : ℕ
  stopping : Bool
  rangeRestore : Bool
  range : ℕ
  tmPushSeen : Bool
  tmRestoreDeg : ℕ
  tmRestoreGen : UInt32
  tmRestoreWork : Bool
  deriving DecidableEq, Repr

/-- One report as it reaches the interceptor, with the clocks it reads. -/
structure Report where
  bytes : Bytes
  context : Context
  jiffies : UInt64
  now : UInt64
  deriving DecidableEq, Repr

/-- `hidpp_dd_texmerge_shim` and the driver state behind it.  The two point at each
other until the override is uninstalled. -/
structure Shim where
  texmerge : Texmerge
  ff : FfData
  linked : Bool

inductive StoreError where
  | enodev
  | einval
  deriving DecidableEq, Repr

inductive Event where
  | packet (report : Report)
  | storeMerge (on : Bool)
  | storeRpm (rpm maxRpm : ℕ) (now : UInt64)
  | storeIntensity (value : ℕ)
  | storeCylinders (value : ℕ)
  | driver (ff : FfData)
  | uninstall
  deriving DecidableEq, Repr

namespace FfData

def sdkBlindRangeDeg : ℕ := 90

/-- `hidpp_dd_texmerge_seen_range_push`. -/
def seenRangePush (ff : FfData) (buffer : Bytes) : FfData :=
  if Texmerge.decodePushDeg buffer ≠ sdkBlindRangeDeg then ff
  else if ff.rangeRestore = false ∨ ff.tmPushSeen = true then ff
  else if ff.range = 0 ∨ ff.range = sdkBlindRangeDeg then ff
  else
    { ff with
      tmPushSeen := true
      tmRestoreDeg := ff.range
      tmRestoreGen := ff.tmRestoreGen + 1
      tmRestoreWork := true }

end FfData

/-- A stream packet that no kernel code wrote. -/
def Report.foreignStream (report : Report) : Bool :=
  report.bytes[0]? == some 1 && report.bytes[4]? == some 1 && report.context == .process

namespace Shim

/-- The force put into a foreign stream packet while an effect of ours plays. -/
def carriedForce (shim : Shim) (report : Report) : Option UInt16 :=
  if shim.linked ∧ report.foreignStream ∧ 10 ≤ report.bytes.length ∧ shim.ff.anyEffectPlaying then
    some shim.ff.yieldForce
  else none

def carry (shim : Shim) (report : Report) : Bytes :=
  match shim.carriedForce report with
  | some force => write (write report.bytes 6 (le16 force)) 8 (le16 force)
  | none => report.bytes

def noteForeign (shim : Shim) (report : Report) : Shim :=
  if shim.linked ∧ report.foreignStream then
    { shim with ff := { shim.ff with foreignStreamAt := report.jiffies ||| 1 } }
  else shim

def isRangePush (buffer : Bytes) : Bool :=
  buffer.length == 64 && buffer[0]? == some 1 && buffer[4]? == some 0x0e

/-- What becomes of a report that is not our own: the tracker's or the splice's. -/
def dispatch (shim : Shim) (buffer : Bytes) (now : UInt64) : Shim × Bytes × ℕ :=
  if isRangePush buffer then
    (if shim.linked then { shim with ff := shim.ff.seenRangePush buffer } else shim, buffer, 0)
  else if shim.texmerge.enabled then
    let (texmerge, buffer, count) := shim.texmerge.splice buffer now
    ({ shim with texmerge }, buffer, count)
  else (shim, buffer, 0)

/-- `hidpp_dd_texmerge_classify`: the shim, the report and the number of samples put in. -/
def classify (shim : Shim) (report : Report) : Shim × Bytes × ℕ :=
  let buffer := shim.carry report
  let shim := shim.noteForeign report
  if shim.linked ∧ shim.ff.selfInflight ≠ 0 then (shim, buffer, 0)
  else shim.dispatch buffer report.now

/-- A store with a valid value reaches the shim unless the driver is stopping. -/
def store (shim : Shim) (valid : Bool) (change : Texmerge → Texmerge) : Except StoreError Shim :=
  if shim.ff.stopping then .error .enodev
  else if valid = false then .error .einval
  else if shim.linked = false then .error .enodev
  else .ok { shim with texmerge := change shim.texmerge }

/-- `wheel_tf_merge_store`. -/
def storeMerge (shim : Shim) (on : Bool) : Except StoreError Shim :=
  shim.store true fun texmerge =>
    { texmerge with enabled := on, debtQ8 := if on then texmerge.debtQ8 else 0 }

/-- `wheel_texture_rpm_store`. -/
def storeRpm (shim : Shim) (rpm maxRpm : ℕ) (now : UInt64) : Except StoreError Shim :=
  shim.store (decide (rpm ≤ 30000) && decide (maxRpm ≤ 30000)) fun texmerge =>
    { texmerge with rpmX10 := rpm * 10, maxRpmX10 := maxRpm * 10, rpmStampNs := now }

/-- `wheel_texture_intensity_store`. -/
def storeIntensity (shim : Shim) (value : ℕ) : Except StoreError Shim :=
  shim.store (decide (value ≤ 200)) fun texmerge => { texmerge with intensity := value }

/-- `wheel_texture_cylinders_store`. -/
def storeCylinders (shim : Shim) (value : ℕ) : Except StoreError Shim :=
  shim.store (decide (1 ≤ value) && decide (value ≤ 16)) fun texmerge =>
    { texmerge with cylinders := value }

def settle (shim : Shim) : Except StoreError Shim → Shim
  | .ok next => next
  | .error _ => shim

def step (shim : Shim) : Event → Shim
  | .packet report => (shim.classify report).1
  | .storeMerge on => shim.settle (shim.storeMerge on)
  | .storeRpm rpm maxRpm now => shim.settle (shim.storeRpm rpm maxRpm now)
  | .storeIntensity value => shim.settle (shim.storeIntensity value)
  | .storeCylinders value => shim.settle (shim.storeCylinders value)
  | .driver ff => { shim with ff }
  | .uninstall => { shim with linked := false }

/-- The report as it leaves the interceptor. -/
def forwarded (shim : Shim) (report : Report) : Bytes := (shim.classify report).2.1

def Splices (shim : Shim) (report : Report) : Prop :=
  (shim.classify report).2.2 = Texmerge.blockSize

instance (shim : Shim) (report : Report) : Decidable (shim.Splices report) :=
  inferInstanceAs (Decidable (_ = _))

end Shim

end TrueForce.Texture
