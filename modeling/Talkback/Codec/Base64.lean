import Talkback.Error
import Talkback.Text.Blank
import Talkback.Text.Quoted

/-!
Base64 with the standard alphabet and `=` padding.

Encoding writes four characters for every three bytes, padding the last group. Decoding
trims blanks from both ends and drops trailing `=`; any other character outside the
alphabet is an error naming the character and its byte offset in the trimmed text. What is
left is read in groups of four characters; a last group of two or three characters gives one
or two bytes whatever its unused low bits hold, and a single leftover character carries no
whole byte and is dropped.
-/

namespace Talkback.Codec.Base64

/-- The character for a six-bit value. -/
def digit (v : Nat) : Char :=
  if v < 26 then Char.ofNat (65 + v)
  else if v < 52 then Char.ofNat (97 + v - 26)
  else if v < 62 then Char.ofNat (48 + v - 52)
  else if v = 62 then '+'
  else '/'

/-- The six-bit value of an alphabet character. -/
def value? (c : Char) : Option Nat :=
  let n := c.toNat
  if 65 ≤ n ∧ n ≤ 90 then some (n - 65)
  else if 97 ≤ n ∧ n ≤ 122 then some (n - 97 + 26)
  else if 48 ≤ n ∧ n ≤ 57 then some (n - 48 + 52)
  else if c = '+' then some 62
  else if c = '/' then some 63
  else none

/-- The characters for a list of bytes, three bytes to four characters. -/
def encodeChars : List UInt8 → List Char
  | [] => []
  | [a] =>
    let n := a.toNat * 65536
    [digit (n / 262144 % 64), digit (n / 4096 % 64), '=', '=']
  | [a, b] =>
    let n := a.toNat * 65536 + b.toNat * 256
    [digit (n / 262144 % 64), digit (n / 4096 % 64), digit (n / 64 % 64), '=']
  | a :: b :: c :: rest =>
    let n := a.toNat * 65536 + b.toNat * 256 + c.toNat
    digit (n / 262144 % 64) :: digit (n / 4096 % 64) :: digit (n / 64 % 64) :: digit (n % 64) ::
      encodeChars rest

/-- The base64 text of a list of bytes. -/
def encode (data : List UInt8) : String := String.ofList (encodeChars data)

/-- Bytes from six-bit values, four values to three bytes; a short last group gives the
whole bytes it holds. -/
def bytesOfValues : List Nat → List UInt8
  | [] => []
  | [_] => []
  | [a, b] => [(a * 4 + b / 16).toUInt8]
  | [a, b, c] => [(a * 4 + b / 16).toUInt8, ((b % 16) * 16 + c / 4).toUInt8]
  | a :: b :: c :: d :: rest =>
    (a * 4 + b / 16).toUInt8 :: ((b % 16) * 16 + c / 4).toUInt8 :: ((c % 4) * 64 + d).toUInt8 ::
      bytesOfValues rest

/-- The first character outside the alphabet, with its byte offset, scanning from
offset `pos`. -/
def firstStray : Nat → List Char → Option (Char × Nat)
  | _, [] => none
  | pos, c :: rest =>
    match value? c with
    | some _ => firstStray (pos + c.utf8Size) rest
    | none => some (c, pos)

/-- The six-bit values of alphabet characters. -/
def values (cs : List Char) : List Nat := cs.filterMap value?

/-- Decode base64 text, tolerating blanks around it and loose padding. -/
def decode (text : String) : Except Error (List UInt8) :=
  let trimmed := (Text.trimBlank text).toList
  let body := (trimmed.reverse.dropWhile (· = '=')).reverse
  match firstStray 0 body with
  | some (c, pos) =>
    .error (.format ("invalid base64 character " ++ Text.quoteChar c ++ " at offset " ++
      toString pos))
  | none => .ok (bytesOfValues (values body))

end Talkback.Codec.Base64
