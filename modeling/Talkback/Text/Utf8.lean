/-!
Reading bytes as UTF-8 text, replacing what is not UTF-8.

Each maximal run of bytes that begins a well-formed character but breaks off, and each byte
that can begin none, becomes one replacement character `U+FFFD`. A well-formed character
is a lead byte and its continuation bytes in the ranges that exclude overlong forms,
surrogates and code points above `U+10FFFF`.
-/

namespace Talkback.Text.Utf8

/-- A character begun but not finished: the continuation bytes still needed, the range the
next one must fall in, and the code point so far. -/
structure Partial where
  need : Nat
  lo : Nat
  hi : Nat
  acc : Nat
  deriving DecidableEq, Repr

/-- The replacement character. -/
def replacement : Char := '�'

/-- Read byte `b` with nothing begun: a character of one byte, the start of a longer one, or
a replacement. -/
def begin (out : List Char) (b : Nat) : List Char × Option Partial :=
  if b < 0x80 then (Char.ofNat b :: out, none)
  else if 0xC2 ≤ b ∧ b ≤ 0xDF then (out, some ⟨1, 0x80, 0xBF, b % 32⟩)
  else if b = 0xE0 then (out, some ⟨2, 0xA0, 0xBF, b % 16⟩)
  else if b = 0xED then (out, some ⟨2, 0x80, 0x9F, b % 16⟩)
  else if 0xE1 ≤ b ∧ b ≤ 0xEF then (out, some ⟨2, 0x80, 0xBF, b % 16⟩)
  else if b = 0xF0 then (out, some ⟨3, 0x90, 0xBF, b % 8⟩)
  else if b = 0xF4 then (out, some ⟨3, 0x80, 0x8F, b % 8⟩)
  else if 0xF1 ≤ b ∧ b ≤ 0xF3 then (out, some ⟨3, 0x80, 0xBF, b % 8⟩)
  else (replacement :: out, none)

/-- Read byte `b`; the characters come out in reverse order. -/
def step : List Char × Option Partial → Nat → List Char × Option Partial
  | (out, none), b => begin out b
  | (out, some p), b =>
    if p.lo ≤ b ∧ b ≤ p.hi then
      let acc := p.acc * 64 + b % 64
      if p.need = 1 then (Char.ofNat acc :: out, none)
      else (out, some ⟨p.need - 1, 0x80, 0xBF, acc⟩)
    else begin (replacement :: out) b

/-- The text of `bytes`, with a replacement character for each broken sequence. -/
def decodeLossy (bytes : List UInt8) : String :=
  let (out, p) := bytes.foldl (fun st b => step st b.toNat) ([], none)
  String.ofList (match p with
    | some _ => (replacement :: out).reverse
    | none => out.reverse)

end Talkback.Text.Utf8
