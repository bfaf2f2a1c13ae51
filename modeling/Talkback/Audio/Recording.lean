import Talkback.Codec.Wav
import Talkback.Decimal.Binary

/-!
A recording: the audio captured between the start and the end of a capture, its format, and
the bytes dropped because the capture was full. Its length in seconds is the quotient of its
bytes by the format's bytes per second (at least one), as a binary64 value; it is written out
as a WAV file of 16-bit samples.
-/

namespace Talkback.Audio

/-- Captured audio. -/
structure Recording where
  pcm : List UInt8
  format : Format
  dropped : Nat
  deriving DecidableEq, Repr, Inhabited

namespace Recording

/-- Whether nothing was captured. -/
def isEmpty (r : Recording) : Bool := r.pcm.isEmpty

/-- The length in seconds. -/
def duration (r : Recording) : Decimal.Binary :=
  (Decimal.Binary.ofNat r.pcm.length).div (Decimal.Binary.ofNat (max 1 r.format.bytesPerSecond))

/-- The recording as a WAV file. -/
def toWav (r : Recording) : Checked (List UInt8) := Codec.Wav.encode r.pcm r.format

/-- The recording when inspected. -/
def shape (r : Recording) : Text.Shape :=
  .record "Recording" [("pcm", .bytes r.pcm), ("format", r.format.shape),
    ("dropped_bytes", .nat r.dropped)] false

end Recording

end Talkback.Audio
