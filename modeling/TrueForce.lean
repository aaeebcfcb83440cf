import TrueForce.Foundation.Transition
import TrueForce.Foundation.Clock
import TrueForce.Foundation.CInt
import TrueForce.Foundation.ByteBuffer
import TrueForce.Foundation.Ring
import TrueForce.Foundation.Register
import TrueForce.Foundation.HidDescriptor
import TrueForce.Foundation.EffectTable
import TrueForce.Foundation.HandleMap
import TrueForce.Foundation.InFlight
import TrueForce.Foundation.DelayedWork
import TrueForce.Foundation.CString
import TrueForce.Foundation.RustText
import TrueForce.Foundation.Splitting
import TrueForce.Foundation.TextFile
import TrueForce.Foundation.SortedMap
import TrueForce.Foundation.Rewriting
import TrueForce.Foundation.Separated
import TrueForce.Foundation.PointList
import TrueForce.Foundation.Polyline
import TrueForce.Foundation.Binary32
import TrueForce.Foundation.UpwardFlow
import TrueForce.Foundation.Tally
import TrueForce.Foundation.CheckedInt
import TrueForce.Foundation.Clamp
import TrueForce.Foundation.Lerp
import TrueForce.Foundation.Pursuit
import TrueForce.Settings.Kind
import TrueForce.Range.PushRestore
import TrueForce.Range.Arming
import TrueForce.Range.UserIntent
import TrueForce.Range.Poll
import TrueForce.Range.Classic
import TrueForce.Ffb.EffectMath
import TrueForce.Ffb.EnvelopeLaw
import TrueForce.Ffb.ConditionLaw
import TrueForce.Ffb.Effect
import TrueForce.Ffb.Motion
import TrueForce.Ffb.AccelFilter
import TrueForce.Ffb.Carrier
import TrueForce.Ffb.Engine
import TrueForce.Ffb.WakeUp
import TrueForce.Ffb.StopSafety
import TrueForce.Ffb.Contract
import TrueForce.Ffb.WireDiscipline
import TrueForce.Ffb.InfiniteEffects
import TrueForce.Ffb.SpringCap
import TrueForce.Ffb.MotionRange
import TrueForce.Ffb.CarrierForce
import TrueForce.Texture.Merge
import TrueForce.Texture.Pacing
import TrueForce.Texture.Interceptor
import TrueForce.Texture.FrameLaw
import TrueForce.Texture.Synthesiser
import TrueForce.Texture.RangePush
import TrueForce.TfSim.Writer
import TrueForce.TfSim.WriterTrace
import TrueForce.TfSim.Config
import TrueForce.TfSim.Slots
import TrueForce.TfSim.Loading
import TrueForce.TfSim.RevDisplay
import TrueForce.Foundation.Sampled
import TrueForce.TfSim.Haptics
import TrueForce.TfSim.HapticLevel
import TrueForce.TfSim.HapticReals
import TrueForce.TfSim.BlockSize
import TrueForce.TfSim.MixLaw
import TrueForce.Kf.Angle
import TrueForce.Udp.RevBridge
import TrueForce.Udp.RevStripLaw
import TrueForce.TfSim.SaveRoundTrip
import TrueForce.TfSim.FrontEnd
import TrueForce.TfSim.ParserAgreement
import TrueForce.TfSim.WriteKey
import TrueForce.TfSim.EditLaw
import TrueForce.Pid.Injector
import TrueForce.Pid.Slots
import TrueForce.Pid.Descriptor
import TrueForce.Pid.Splice
import TrueForce.LogiFfb.Source
import TrueForce.LogiFfb.Report
import TrueForce.LogiFfb.Sink
import TrueForce.LogiFfb.Bookkeeping
import TrueForce.LogiFfb.Handshake
import TrueForce.LogiFfb.Session
import TrueForce.LogiFfb.Translators
import TrueForce.Profile.ResponseCurve
import TrueForce.Profile.CurveEditor
import TrueForce.Profile.Deadzones
import TrueForce.Profile.CurveUpload
import TrueForce.Profile.Driver
import TrueForce.Profile.Replay
import TrueForce.Profile.Identity
import TrueForce.Onboard.Wheel
import TrueForce.Onboard.Editor
import TrueForce.Onboard.Restore
import TrueForce.Lights.RevLevel
import TrueForce.Lights.RevStrip
import TrueForce.Lights.SlotCache
import TrueForce.Oled.Driver
import TrueForce.Oled.Layout
import TrueForce.Oled.Agreement
import TrueForce.Oled.Refresh
import TrueForce.Discovery.Hidraw
import TrueForce.Accessory.Roles
import TrueForce.Kf.Torque
import TrueForce.Stream.Device
import TrueForce.Stream.Machine
import TrueForce.Stream.RingLaw
import TrueForce.Stream.Tick
import TrueForce.Stream.Standby
import TrueForce.Stream.Starvation
import TrueForce.Stream.Pairing
import TrueForce.Stream.Pausing
import TrueForce.Stream.Provenance
import TrueForce.Stream.PacketLaw
import TrueForce.Stream.SampleFormats
import TrueForce.Relay.TornRead
import TrueForce.Hidpp.Correlation
import TrueForce.TfSim.LeaseSafety
import TrueForce.TfSim.NativeTitles
import TrueForce.TfSim.StandbyTiming
import TrueForce.TfSim.GenerationPacing
import TrueForce.Udp.Telemetry
import TrueForce.Udp.RelayWire
import TrueForce.Udp.RelayCodec
import TrueForce.Udp.Decoders
import TrueForce.Udp.SaneSamples
import TrueForce.Udp.CapturedStream
import TrueForce.Gui.Picker
import TrueForce.Gui.DriftWatch
import TrueForce.Udp.FanOut
import TrueForce.Udp.FanOutWiring
import TrueForce.Udp.FanOutCopies
import TrueForce.Udp.FanOutSafety
import TrueForce.Classic.Force
import TrueForce.Classic.Command
import TrueForce.Classic.Engine
import TrueForce.Classic.Ownership
import TrueForce.Classic.Timer
import TrueForce.Classic.IdleSafety
import TrueForce.Classic.SlotLaw
import TrueForce.Classic.Playing
import TrueForce.Classic.Shape
import TrueForce.Classic.Wave
import TrueForce.Classic.WaveLaw
import TrueForce.Classic.EnvelopeLaw
import TrueForce.LogiFfb.UploadLaw
import TrueForce.LogiFfb.Descriptor
import TrueForce.Foundation.Binary64
import TrueForce.Relay.IRacing
import TrueForce.Relay.IRacingTable
import TrueForce.Relay.IRacingLaw
import TrueForce.Foundation.KeyedTable
import TrueForce.Relay.RaceRoom
import TrueForce.Relay.AssettoCorsa
import TrueForce.Relay.Games
import TrueForce.Relay.ReadFront
import TrueForce.Relay.ReadLimit
import TrueForce.Foundation.Sections
import TrueForce.LogiFfb.Steering
import TrueForce.LogiFfb.UserReg
import TrueForce.LogiFfb.SteeringLaw
import TrueForce.Foundation.Conversation
import TrueForce.Fftest.Effect
import TrueForce.Fftest.Sequence
import TrueForce.Fftest.SequenceLaw
import TrueForce.Foundation.Json
import TrueForce.Launchers.ScrapeLaw
import TrueForce.Scs.PluginLaw
import TrueForce.LogiFfb.UhidLaw
import TrueForce.LogiFfb.InputLaw
import TrueForce.Foundation.Coalescing
import TrueForce.Hidpp.FeatureLookup
import TrueForce.Range.EffectQueueLaw
import TrueForce.Hidpp.Unresponsive
