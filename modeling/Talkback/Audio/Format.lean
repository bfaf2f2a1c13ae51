import Talkback.Fault
import Talkback.Json.Decode
import Talkback.Text.Shape

/-!
Sample formats: how many samples a second, how many channels interleaved in a frame, and how
each sample is coded. Every byte count of the audio path is derived from these; the count of
a device buffer is a product that can leave the machine word, and then it faults.
-/

namespace Talkback.Audio

/-- How one sample is coded. -/
inductive Encoding where
  /-- Signed 16-bit little-endian linear samples. -/
  | pcm16
  /-- 8-bit G.711 mu-law codes. -/
  | mulaw
  deriving DecidableEq, Repr, Inhabited

namespace Encoding

/-- Bytes in one coded sample. -/
def bytesPerSample : Encoding → Nat
  | .pcm16 => 2
  | .mulaw => 1

/-- The byte that codes zero amplitude. -/
def silence : Encoding → UInt8
  | .pcm16 => 0x00
  | .mulaw => 0xFF

/-- The coding's name in documents. -/
def name : Encoding → String
  | .pcm16 => "pcm16"
  | .mulaw => "mulaw"

/-- The coding's name when inspected. -/
def shape : Encoding → Text.Shape
  | .pcm16 => .atom "Pcm16"
  | .mulaw => .atom "MuLaw"

/-- The coding as a document. -/
def toJson (e : Encoding) : Json.Value := .str e.name

/-- Read a coding from a document. -/
def decode : Json.Decoder Encoding := fun v =>
  (Json.Decoder.constant ["pcm16", "mulaw"] v).map fun s => if s = "mulaw" then .mulaw else .pcm16

end Encoding

/-- Sample rate, channel count and coding shared by capture and playback. -/
structure Format where
  sampleRate : UInt32 := 16000
  channels : UInt16 := 1
  encoding : Encoding := .pcm16
  deriving DecidableEq, Repr, Inhabited

namespace Format

/-- Bytes in one coded sample. -/
def bytesPerSample (f : Format) : Nat := f.encoding.bytesPerSample

/-- Bytes in one interleaved frame: one sample per channel. -/
def bytesPerFrame (f : Format) : Nat := f.bytesPerSample * f.channels.toNat

/-- Bytes in a device buffer of `frames` frames; faults when the count leaves the word. -/
def frameBytes (f : Format) (frames : Nat) : Except Fault Nat :=
  mulChecked wordBits f.bytesPerFrame frames

/-- Bytes in one second of audio. -/
def bytesPerSecond (f : Format) : Nat := f.bytesPerFrame * f.sampleRate.toNat

/-- The byte that codes zero amplitude. -/
def silence (f : Format) : UInt8 := f.encoding.silence

/-- The format as a document. -/
def toJson (f : Format) : Json.Value :=
  .obj [("sampleRate", .ofNat f.sampleRate.toNat), ("channels", .ofNat f.channels.toNat),
    ("encoding", f.encoding.toJson)]

/-- Read a format from a document: all three fields are required. -/
def decode : Json.Decoder Format := fun v => do
  let slots ← Json.Decoder.fields ["sampleRate", "channels", "encoding"] v
  let rate ← Json.Decoder.req (slots.getD 0 none) (Json.Decoder.unsigned 32)
  let channels ← Json.Decoder.req (slots.getD 1 none) (Json.Decoder.unsigned 16)
  let encoding ← Json.Decoder.req (slots.getD 2 none) Encoding.decode
  return { sampleRate := rate.toUInt32, channels := channels.toUInt16, encoding }

/-- The format when inspected. -/
def shape (f : Format) : Text.Shape :=
  .record "AudioFormat" [("sample_rate", .nat f.sampleRate.toNat),
    ("channels", .nat f.channels.toNat), ("encoding", f.encoding.shape)] false

theorem bytesPerFrame_pos (f : Format) (h : 0 < f.channels.toNat) : 0 < f.bytesPerFrame := by
  unfold bytesPerFrame bytesPerSample
  cases f.encoding <;> simp [Encoding.bytesPerSample] <;> omega

end Format

end Talkback.Audio
