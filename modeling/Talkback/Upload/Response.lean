import Talkback.Text.Blank
import Talkback.Text.Numeral
import Talkback.Text.Shape
import Talkback.Text.Utf8

/-!
The server's answer to an upload, as text.

Its status is read off the first line: the first word must begin with `HTTP/` and the second
must be a decimal number of 16 bits. The body is what follows the first blank line (the
first `CR LF CR LF`), or the whole text when there is none. While the answer is being read,
it is complete once its head is over and a `Content-Length` header line, the first one whose
value is a number, says that the whole body is there.
-/

namespace Talkback.Upload

/-- The text of a response. -/
structure Response where
  raw : String
  deriving DecidableEq, Repr, Inhabited

/-- A line without the `CR` that ends it, if it ends with one. -/
def dropCR (line : List Char) : List Char :=
  if line.getLast? = some '\r' then line.dropLast else line

/-- The first line of a text without its line ending, if the text is not empty. A `CR` is
part of the line ending only before `LF`. -/
def firstLine (s : String) : Option String :=
  if s.isEmpty then none
  else if '\n' ∈ s.toList then some (String.ofList (dropCR (s.toList.takeWhile (· != '\n'))))
  else some s

/-- What follows the first occurrence of `sep` in a text, if it occurs. -/
def afterFirst (sep : List Char) : List Char → Option (List Char)
  | [] => if sep.isPrefixOf [] then some [] else none
  | c :: cs => if sep.isPrefixOf (c :: cs) then some ((c :: cs).drop sep.length) else afterFirst sep cs

/-- Where the first `CR LF CR LF` of a byte list begins. -/
def blankLineAt? (bs : List UInt8) : Option Nat :=
  let rec go (i : Nat) : List UInt8 → Option Nat
    | 13 :: 10 :: 13 :: 10 :: _ => some i
    | _ :: rest => go (i + 1) rest
    | [] => none
  go 0 bs

namespace Response

/-- The status code of the first line. -/
def status? (r : Response) : Option Nat := do
  let line ← firstLine r.raw
  match Text.words line with
  | first :: second :: _ => if first.startsWith "HTTP/" then Text.readUnsigned? 16 second else none
  | _ => none

/-- Whether the status is a success, 200 to 299. -/
def isSuccess (r : Response) : Bool :=
  match r.status? with
  | some n => 200 ≤ n && n ≤ 299
  | none => false

/-- The text after the head. -/
def body (r : Response) : String :=
  match afterFirst ['\r', '\n', '\r', '\n'] r.raw.toList with
  | some rest => String.ofList rest
  | none => r.raw

/-- The response when inspected. -/
def shape (r : Response) : Text.Shape := .record "UploadResponse" [("raw", .str r.raw)] false

end Response

/-- The body length a head announces: the value of its first `Content-Length` line that
holds a number. The name is matched without regard to ASCII case, name and value without
surrounding blanks. -/
def announcedLength? (head : String) : Option Nat :=
  (head.splitOn "\n").findSome? fun line =>
    let line := if line.endsWith "\r" then (line.dropEnd 1).toString else line
    match line.splitOn ":" with
    | name :: rest@(_ :: _) =>
      if (Text.trimBlank name).map Char.toLower = "content-length" then
        Text.readUnsigned? 64 (Text.trimBlank (":".intercalate rest))
      else none
    | _ => none

/-- Whether the bytes read so far hold a whole response: a head, and as many body bytes as it
announces. A head that announces no length is never complete: the body runs to the end of
the stream. -/
def isComplete (raw : List UInt8) : Bool :=
  match blankLineAt? raw with
  | none => false
  | some e =>
    match announcedLength? (Text.Utf8.decodeLossy (raw.take e)) with
    | some n => raw.length - (e + 4) ≥ n
    | none => false

end Talkback.Upload
