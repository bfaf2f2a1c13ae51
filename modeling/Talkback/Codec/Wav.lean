import Talkback.Error
import Talkback.Audio.Format
import Talkback.Codec.MuLaw

/-!
RIFF/WAVE containers around 16-bit PCM.

*Locating* the samples of a buffer: a buffer of at least twelve bytes that starts with `RIFF`
is walked chunk by chunk from offset 12, each chunk an eight-byte header (a tag and a
little-endian length) and its body; the first `data` chunk gives the samples, its length cut
to the bytes present. A buffer with no such chunk, or that is not RIFF, is all samples.

*Writing* a container: the header is the canonical 44-byte PCM header for one or two
channels, and the extensible 68-byte header (with a channel mask of the first channels, at
most 18, and the PCM sub-format) for more. The byte rate is a product of 32-bit words and
faults when it overflows; the block alignment divides it by the sample rate. Closing the
container checks that the samples fill whole frames.
-/

namespace Talkback.Codec.Wav

open Talkback.Audio

/-- Where the samples sit inside a buffer. -/
structure Region where
  offset : Nat
  len : Nat
  deriving DecidableEq, Repr, Inhabited

/-- The bytes of an ASCII tag. -/
def tag (s : String) : List UInt8 := s.toList.map fun c => c.toNat.toUInt8

/-- The value of four little-endian bytes (missing bytes count as zero). -/
def le32 (bs : List UInt8) : Nat :=
  (bs.getD 0 0).toNat + (bs.getD 1 0).toNat * 256 + (bs.getD 2 0).toNat * 65536 +
    (bs.getD 3 0).toNat * 16777216

/-- Two little-endian bytes of the low 16 bits of `n`. -/
def put16 (n : Nat) : List UInt8 := [(n % 256).toUInt8, (n / 256 % 256).toUInt8]

/-- Four little-endian bytes of the low 32 bits of `n`. -/
def put32 (n : Nat) : List UInt8 :=
  [(n % 256).toUInt8, (n / 256 % 256).toUInt8, (n / 65536 % 256).toUInt8,
    (n / 16777216 % 256).toUInt8]

/-- The first `data` chunk at or after offset `pos`. -/
def findData (buf : List UInt8) (pos : Nat) : Option Region :=
  if pos + 8 ≤ buf.length then
    let chunk := buf.drop pos
    let size := le32 (chunk.drop 4)
    let body := pos + 8
    if chunk.take 4 = tag "data" then some ⟨body, min size (buf.length - body)⟩
    else findData buf (body + size)
  else none
termination_by buf.length - pos

/-- Where the samples of a buffer sit. -/
def locate (buf : List UInt8) : Region :=
  let whole : Region := ⟨0, buf.length⟩
  if buf.length < 12 ∨ buf.take 4 ≠ tag "RIFF" then whole
  else (findData buf 12).getD whole

/-- The bytes of a region. -/
def Region.slice (r : Region) (buf : List UInt8) : List UInt8 := (buf.drop r.offset).take r.len

/-- The samples of a buffer, cut to whole 16-bit samples when the coding is PCM16. -/
def extract (buf : List UInt8) (enc : Encoding) : List UInt8 :=
  let pcm := (locate buf).slice buf
  match enc with
  | .pcm16 => if pcm.length % 2 = 1 then pcm.take (pcm.length - 1) else pcm
  | .mulaw => pcm

/-- The PCM sub-format identifier of the extensible header. -/
def pcmSubformat : List UInt8 :=
  [0x01, 0x00, 0x00, 0x00, 0x00, 0x00, 0x10, 0x00, 0x80, 0x00, 0x00, 0xAA, 0x00, 0x38, 0x9B, 0x71]

/-- Speaker positions for the first `channels` channels, at most 18. -/
def channelMask (channels : Nat) : Nat := Nat.pow 2 (min channels 18) - 1

/-- The 16-bit sample bytes written for captured bytes: PCM16 keeps whole pairs, mu-law is
expanded. -/
def sampleBytes (pcm : List UInt8) (enc : Encoding) : List UInt8 :=
  match enc with
  | .pcm16 => pcm.take (pcm.length - pcm.length % 2)
  | .mulaw => MuLaw.expand pcm []

/-- The `fmt ` chunk's shared fields: channels, rate, byte rate, block alignment, bits. -/
def waveFields (f : Format) : Except Fault (List UInt8) := do
  let twice ← mulChecked 32 f.sampleRate.toNat 2
  let byteRate ← mulChecked 32 twice f.channels.toNat
  let align ← divChecked byteRate f.sampleRate.toNat
  return put16 f.channels.toNat ++ put32 f.sampleRate.toNat ++ put32 byteRate ++ put16 align ++
    put16 16

/-- The `fmt ` chunk, canonical or extensible. -/
def fmtChunk (f : Format) : Except Fault (List UInt8) := do
  let fields ← waveFields f
  if f.channels.toNat > 2 then
    return tag "fmt " ++ put32 40 ++ put16 0xFFFE ++ fields ++ put16 22 ++ put16 16 ++
      put32 (channelMask f.channels.toNat) ++ pcmSubformat
  else
    return tag "fmt " ++ put32 16 ++ put16 1 ++ fields

/-- A WAV container of captured bytes in format `f`. -/
def encode (pcm : List UInt8) (f : Format) : Checked (List UInt8) := do
  let fmt ← Checked.ofFault (fmtChunk f)
  let data := sampleBytes pcm f.encoding
  let spare ← Checked.ofFault (remChecked (data.length / 2) f.channels.toNat)
  if spare ≠ 0 then
    throw (.error (.format
      "wav: The number of samples written is not a multiple of the number of channels."))
  let headerLen := 4 + fmt.length + 8
  return tag "RIFF" ++ put32 (data.length + headerLen) ++ tag "WAVE" ++ fmt ++ tag "data" ++
    put32 data.length ++ data

end Talkback.Codec.Wav
