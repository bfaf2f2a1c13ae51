/-!
Chunked transfer framing for HTTP/1.1 bodies. A chunk is its length in lower-case
hexadecimal, a line break, the payload and another line break; a body ends with the empty
chunk `0` followed by an empty line.
-/

namespace Talkback.Codec.Chunked

/-- Carriage return and line feed. -/
def crlf : List UInt8 := [13, 10]

/-- The bytes of an ASCII string. -/
def ascii (s : String) : List UInt8 := s.toList.map fun c => c.toNat.toUInt8

/-- The header line of a chunk of `n` bytes. -/
def header (n : Nat) : List UInt8 := ascii (String.ofList (Nat.toDigits 16 n)) ++ crlf

/-- One framed chunk. -/
def frame (payload : List UInt8) : List UInt8 := header payload.length ++ payload ++ crlf

/-- The empty chunk that ends a body. -/
def terminal : List UInt8 := ascii "0" ++ crlf ++ crlf

/-- A body of the given chunks, in order, optionally closed by the terminal chunk. -/
def body (chunks : List (List UInt8)) (close : Bool) : List UInt8 :=
  (chunks.map frame).flatten ++ (if close then terminal else [])

end Talkback.Codec.Chunked
