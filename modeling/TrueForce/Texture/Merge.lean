import TrueForce.Foundation.ByteBuffer
import TrueForce.Foundation.CInt
import Mathlib.Algebra.Group.Int.Defs
import Mathlib.Algebra.Group.Nat.Defs
import Mathlib.Algebra.Ring.Int.Defs
import Mathlib.Data.List.FinRange

/-!
# The engine texture and its splice

`hidpp_dd_texture_merge.h`: a five-harmonic synthesiser whose phases run on from
sample to sample, a rolling window of the last thirteen samples, and the splice
that puts four new samples and the window into a packet which carries none.
Times are nanoseconds and wrap as `u64`; phases are fractions of a turn and wrap
as `u32`.
-/

namespace TrueForce.Texture

open TrueForce.ByteBuffer

namespace Texmerge

def sampleRate : ℕ := 4000

def blockSize : ℕ := 4

def windowSize : ℕ := 13

def harmonics : ℕ := 5

def staleNs : UInt64 := 200000000

def minRpmX10 : ℕ := 3000

/-- `hidpp_dd_texmerge_band`: lower edge, harmonic gains in Q12, amplitude in Q8. -/
structure Band where
  f0MinX100 : ℕ
  gainQ12 : List ℕ
  ampQ8 : ℕ

/-- The first quarter of `hidpp_dd_texmerge_sine_lut`, up to and with its peak. -/
def sineQuarter : List ℕ :=
   [0, 201, 402, 603, 804, 1005, 1206, 1407, 1608, 1809, 2009, 2210, 2410, 2611, 2811, 3012, 3212,
    3412, 3612, 3811, 4011, 4210, 4410, 4609, 4808, 5007, 5205, 5404, 5602, 5800, 5998, 6195,
    6393, 6590, 6786, 6983, 7179, 7375, 7571, 7767, 7962, 8157, 8351, 8545, 8739, 8933, 9126,
    9319, 9512, 9704, 9896, 10087, 10278, 10469, 10659, 10849, 11039, 11228, 11417, 11605, 11793,
    11980, 12167, 12353, 12539, 12725, 12910, 13094, 13279, 13462, 13645, 13828, 14010, 14191,
    14372, 14553, 14732, 14912, 15090, 15269, 15446, 15623, 15800, 15976, 16151, 16325, 16499,
    16673, 16846, 17018, 17189, 17360, 17530, 17700, 17869, 18037, 18204, 18371, 18537, 18703,
    18868, 19032, 19195, 19357, 19519, 19680, 19841, 20000, 20159, 20317, 20475, 20631, 20787,
    20942, 21096, 21250, 21403, 21554, 21705, 21856, 22005, 22154, 22301, 22448, 22594, 22739,
    22884, 23027, 23170, 23311, 23452, 23592, 23731, 23870, 24007, 24143, 24279, 24413, 24547,
    24680, 24811, 24942, 25072, 25201, 25329, 25456, 25582, 25708, 25832, 25955, 26077, 26198,
    26319, 26438, 26556, 26674, 26790, 26905, 27019, 27133, 27245, 27356, 27466, 27575, 27683,
    27790, 27896, 28001, 28105, 28208, 28310, 28411, 28510, 28609, 28706, 28803, 28898, 28992,
    29085, 29177, 29268, 29358, 29447, 29534, 29621, 29706, 29791, 29874, 29956, 30037, 30117,
    30195, 30273, 30349, 30424, 30498, 30571, 30643, 30714, 30783, 30852, 30919, 30985, 31050,
    31113, 31176, 31237, 31297, 31356, 31414, 31470, 31526, 31580, 31633, 31685, 31736, 31785,
    31833, 31880, 31926, 31971, 32014, 32057, 32098, 32137, 32176, 32213, 32250, 32285, 32318,
    32351, 32382, 32412, 32441, 32469, 32495, 32521, 32545, 32567, 32589, 32609, 32628, 32646,
    32663, 32678, 32692, 32705, 32717, 32728, 32737, 32745, 32752, 32757, 32761, 32765, 32766,
    32767]

/-- `hidpp_dd_texmerge_sine_lut`: 1024 entries, mirrored at the peak and odd at half a turn. -/
def sineLut (index : ℕ) : ℤ :=
  let half := index % 512
  let value : ℤ := (sineQuarter.getD (min half (512 - half)) 0 : ℕ)
  if index < 512 then value else -value

def lowestBand : Band := ⟨0, [4096, 1556, 901, 655, 573], 325⟩

/-- The bands above the lowest one, from the top down. -/
def upperBands : List Band :=
  [⟨29000, [4096, 1106, 1024, 287, 205], 339⟩, ⟨24000, [4096, 942, 532, 328, 287], 348⟩,
    ⟨19000, [4096, 614, 369, 328, 123], 355⟩, ⟨14000, [4096, 451, 328, 205, 82], 358⟩]

def bandFor (f0X100 : ℕ) : Band :=
  (upperBands.find? fun band => decide (band.f0MinX100 ≤ f0X100)).getD lowestBand

/-- The rolling sample history, oldest first. -/
structure Window where
  slots : List ℤ
  full : slots.length = windowSize
  deriving DecidableEq

/-- A block of fresh samples. -/
structure Block where
  samples : List ℤ
  full : samples.length = blockSize
  deriving DecidableEq

def Window.zero : Window := ⟨List.replicate windowSize 0, rfl⟩

def Window.append (window : Window) (block : Block) : Window :=
  ⟨window.slots.drop blockSize ++ block.samples, by
    simp only [List.length_append, List.length_drop, window.full, block.full]
    rfl⟩

end Texmerge

/-- `hidpp_dd_texmerge`. -/
structure Texmerge where
  phase : Fin Texmerge.harmonics → UInt32
  window : Texmerge.Window
  debtQ8 : ℕ
  lastNs : UInt64
  rpmX10 : ℕ
  maxRpmX10 : ℕ
  rpmStampNs : UInt64
  intensity : ℕ
  cylinders : ℕ
  enabled : Bool

namespace Texmerge

open TrueForce.CInt

/-- The firing frequency in hundredths of a hertz. -/
def f0X100 (texmerge : Texmerge) : ℕ := texmerge.rpmX10 * texmerge.cylinders * 10 / 120

/-- How far the fundamental turns in one sample. -/
def increment (f0X100 : ℕ) : UInt32 := UInt32.ofNat (f0X100 * 2 ^ 32 / (100 * sampleRate))

def advancePhase (phase : Fin harmonics → UInt32) (f0X100 : ℕ) : Fin harmonics → UInt32 :=
  fun harmonic => phase harmonic + increment f0X100 * UInt32.ofNat (harmonic.val + 1)

/-- One harmonic's share of a sample; at and past 0.45 of the sample rate it has none. -/
def harmonicShare (band : Band) (phase : Fin harmonics → UInt32) (f0X100 : ℕ)
    (harmonic : Fin harmonics) : ℤ :=
  if 45 * sampleRate ≤ (harmonic.val + 1) * f0X100 then 0
  else sineLut (phase harmonic >>> 22).toNat * band.gainQ12.getD harmonic.val 0 / 2 ^ 12

/-- The amplitude of the fundamental, in counts. -/
def amplitude (band : Band) (f0X100 : ℕ) : ℕ :=
  (72 + 113 * (f0X100 / 100) / 100) * band.ampQ8 / 2 ^ 8

def sampleValue (phase : Fin harmonics → UInt32) (f0X100 intensity : ℕ) : ℤ :=
  let band := bandFor f0X100
  let acc := ((List.finRange harmonics).map (harmonicShare band phase f0X100)).sum
  clampS16 ((acc * amplitude band f0X100 / 2 ^ 15 * intensity).tdiv 100)

def nextSample (phase : Fin harmonics → UInt32) (f0X100 intensity : ℕ) :
    (Fin harmonics → UInt32) × ℤ :=
  let phase := advancePhase phase f0X100
  (phase, sampleValue phase f0X100 intensity)

/-- The synthesiser left to run for a number of samples. -/
def nextSamples (phase : Fin harmonics → UInt32) (f0X100 intensity : ℕ) :
    ℕ → (Fin harmonics → UInt32) × List ℤ
  | 0 => (phase, [])
  | count + 1 =>
      let (phase, sample) := nextSample phase f0X100 intensity
      let (phase, samples) := nextSamples phase f0X100 intensity count
      (phase, sample :: samples)

theorem length_nextSamples (f0X100 intensity count : ℕ) (phase : Fin harmonics → UInt32) :
    (nextSamples phase f0X100 intensity count).2.length = count := by
  induction count generalizing phase with
  | zero => rfl
  | succ count ih =>
      simp only [nextSamples, List.length_cons]
      rw [ih]

/-- The next four samples at the settings in force. -/
def nextBlock (texmerge : Texmerge) : Block :=
  ⟨(nextSamples texmerge.phase texmerge.f0X100 texmerge.intensity blockSize).2,
    length_nextSamples _ _ _ _⟩

/-- The phases behind those four samples. -/
def nextPhase (texmerge : Texmerge) : Fin harmonics → UInt32 :=
  (nextSamples texmerge.phase texmerge.f0X100 texmerge.intensity blockSize).1

def eligible (buffer : Bytes) : Bool :=
  buffer.length == 64 && buffer[0]? == some 1 && buffer[4]? == some 1 && buffer[10]? == some 0

/-- `hidpp_dd_texmerge_decode_push_deg`: the whole degrees of a float, 0 out of coverage. -/
def decodePushDeg (buffer : Bytes) : ℕ :=
  let byte (index : ℕ) : ℕ := (buffer.getD index 0).toNat
  let bits := byte 6 + byte 7 * 2 ^ 8 + byte 8 * 2 ^ 16 + byte 9 * 2 ^ 24
  let exponent := bits / 2 ^ 23 % 2 ^ 8
  if exponent < 127 ∨ 138 < exponent then 0
  else (bits % 2 ^ 23 + 2 ^ 23) / 2 ^ (23 - (exponent - 127))

/-- The rpm feed is live and the engine is turning. -/
def fresh (texmerge : Texmerge) (now : UInt64) : Bool :=
  texmerge.rpmStampNs != 0 && decide (now - texmerge.rpmStampNs ≤ staleNs) &&
    decide (minRpmX10 ≤ texmerge.rpmX10)

/-- The samples that have come due, in 256ths, for at most one second. -/
def earned (elapsed : UInt64) : ℕ :=
  min elapsed.toNat 1000000000 * sampleRate * 256 / 1000000000

/-- Sample-debt pacing: the debt grows with the clock up to sixteen samples. -/
def pace (texmerge : Texmerge) (now : UInt64) : Texmerge :=
  { texmerge with
    debtQ8 :=
      if texmerge.lastNs < now then
        min (texmerge.debtQ8 + earned (now - texmerge.lastNs)) (16 * 256)
      else texmerge.debtQ8
    lastNs := now }

/-- Offset binary, twice. -/
def slotBytes (sample : ℤ) : Bytes :=
  le16 (UInt16.ofInt (sample + 32768)) ++ le16 (UInt16.ofInt (sample + 32768))

def windowBytes (window : Window) : Bytes := window.slots.flatMap slotBytes

/-- Take four samples of the debt and run the synthesiser on for them. -/
def play (texmerge : Texmerge) : Texmerge :=
  { texmerge with
    debtQ8 := texmerge.debtQ8 - blockSize * 256
    phase := texmerge.nextPhase
    window := texmerge.window.append texmerge.nextBlock }

def stamp (window : Window) (buffer : Bytes) : Bytes :=
  write (write buffer 10 [4, 0x0d]) 12 (windowBytes window)

/-- `hidpp_dd_texmerge_splice`: the state, the packet and the number of samples put in. -/
def splice (texmerge : Texmerge) (buffer : Bytes) (now : UInt64) : Texmerge × Bytes × ℕ :=
  if texmerge.enabled = false ∨ eligible buffer = false then (texmerge, buffer, 0)
  else if texmerge.fresh now = false then (texmerge, buffer, 0)
  else
    let paced := texmerge.pace now
    if paced.debtQ8 < blockSize * 256 then (paced, buffer, 0)
    else (paced.play, stamp paced.play.window buffer, blockSize)

end Texmerge

namespace Example

def stopped : Texmerge where
  phase _ := 0
  window := Texmerge.Window.zero
  debtQ8 := 0
  lastNs := 0
  rpmX10 := 0
  maxRpmX10 := 0
  rpmStampNs := 0
  intensity := 0
  cylinders := 0
  enabled := false

/-- Eight cylinders at six thousand revolutions. -/
def running : Texmerge :=
  { stopped with
    rpmX10 := 60000, rpmStampNs := 1, intensity := 100, cylinders := 8, enabled := true }

def packet : Bytes := [1, 0, 0, 0, 1] ++ List.replicate 59 0

end Example

end TrueForce.Texture
