/-!
G.711 mu-law companding between signed 16-bit samples and 8-bit codes.

A sample's magnitude is clipped to 32635 and biased by 132; the code holds the sign, the
position of the magnitude's leading bit above bit 7 (the segment) and the four bits below it,
all inverted. Expanding a code rebuilds the segment's midpoint magnitude.
-/

namespace Talkback.Codec.MuLaw

/-- Added to a magnitude before its segment is found. -/
def bias : Nat := 132

/-- Largest magnitude that is coded without clipping. -/
def clip : Nat := 32635

/-- The code of one sample. -/
def encode (sample : Int) : UInt8 :=
  let sign := if sample < 0 then 128 else 0
  let mag := min sample.natAbs clip + bias
  let segment := Nat.log2 (mag / 128)
  let mantissa := mag / Nat.pow 2 (segment + 3) % 16
  (255 - (sign + segment * 16 + mantissa)).toUInt8

/-- The sample a code stands for. -/
def decode (code : UInt8) : Int :=
  let u := 255 - code.toNat
  let segment := u / 16 % 8
  let mantissa := u % 16
  let mag : Int := ((mantissa * 8 + bias) * Nat.pow 2 segment : Nat) - (bias : Int)
  if u ≥ 128 then -mag else mag

/-- Two bytes, low first, of a sample in the signed 16-bit range. -/
def le16 (sample : Int) : List UInt8 :=
  let w := (sample % 65536).toNat
  [(w % 256).toUInt8, (w / 256).toUInt8]

/-- Little-endian 16-bit samples for a stream of codes, appended to `out`. -/
def expand (codes : List UInt8) (out : List UInt8) : List UInt8 :=
  out ++ codes.flatMap fun c => le16 (decode c)

end Talkback.Codec.MuLaw
