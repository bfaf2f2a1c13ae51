import Talkback.Error
import Talkback.Codec.Chunked
import Talkback.Upload.Response

/-!
Streaming uploads: one HTTP/1.1 request at a time whose body is sent in chunks as audio
arrives.

A session is idle or active. Opening it takes the next upload number, even when the
connection then fails, connects, and sends the request head; it becomes active only if all of
that succeeds. Each non-empty chunk is framed and sent; an empty one would end the body and is
skipped. Finishing sends the last chunk, reads the server's answer and leaves the session idle
whatever happens; aborting just leaves it idle.

The connection is reached through a `Connector`, over a world `ω` that holds the open
connection, so that any behaviour of the peer, failures included, can be plugged in.
-/

namespace Talkback.Upload

/-- Actions on the network world `ω` that may fail with a host error. -/
abbrev Net (ω α : Type) := ExceptT IoError (StateM ω) α

/-- Run an action from world `w`. -/
def Net.exec {ω α : Type} (a : Net ω α) (w : ω) : Except IoError α × ω := a.run.run w

/-- What an upload needs from the network: the `Host` header value, opening a connection,
writing and flushing bytes, and reading at most a given number of bytes (none at the end of
the stream). `patience` bounds the reads the open connection answers before its end.
`halts` counts the operations that did not return at all but stopped the thread making them;
such an operation also shows as a failure here, which that thread never gets to see. -/
structure Connector (ω : Type) where
  host : String
  connect : Net ω Unit
  write : List UInt8 → Net ω Unit
  flush : Net ω Unit
  read : Nat → Net ω (List UInt8)
  patience : ω → Nat
  halts : ω → Nat := fun _ => 0

/-- The request line's path and the body's content type. -/
structure Config where
  path : String := "/api/v1/audio/stream"
  contentType : String := "audio/wav"
  deriving DecidableEq, Repr, Inhabited

/-- The configuration when inspected. -/
def Config.shape (c : Config) : Text.Shape :=
  .record "UploadConfig" [("path", .str c.path), ("content_type", .str c.contentType)] false

/-- Whether a session has a request open, and if so its name, chunks and bytes sent. -/
inductive Phase where
  | idle
  | active (id : String) (chunks bytes : Nat)
  deriving DecidableEq, Repr, Inhabited

/-- An upload session: its configuration, phase, and the number of uploads begun. -/
structure Session where
  config : Config := {}
  phase : Phase := .idle
  started : Nat := 0
  deriving DecidableEq, Repr, Inhabited

/-- The most response bytes read. -/
def responseLimit : Nat := 4096

/-- The name of the `n`-th upload. -/
def uploadName (n : Nat) : String := "upload-" ++ toString n

/-- The request head of an upload. -/
def requestHead (config : Config) (host token : String) : String :=
  "POST " ++ config.path ++ " HTTP/1.1\r\nHost: " ++ host ++ "\r\nAuthorization: Bearer " ++
    token ++ "\r\nContent-Type: " ++ config.contentType ++
    "\r\nTransfer-Encoding: chunked\r\nConnection: close\r\n\r\n"

section

variable {ω : Type} (c : Connector ω)

/-- Read the answer for at most `fuel` reads: until the end of the stream, a complete answer,
the size limit, or a read that would wait after some bytes came. An interrupted read is
tried again. -/
def readLoop : Nat → List UInt8 → ω → Except Error (List UInt8) × ω
  | 0, raw, w => (.ok raw, w)
  | fuel + 1, raw, w =>
    if raw.length ≥ responseLimit then (.ok raw, w)
    else
      match (c.read (min 1024 (responseLimit - raw.length))).exec w with
      | (.ok [], w) => (.ok raw, w)
      | (.ok bs, w) =>
        let raw := raw ++ bs
        if isComplete raw then (.ok raw, w) else readLoop fuel raw w
      | (.error e, w) =>
        if e.kind = .interrupted then readLoop fuel raw w
        else if (e.kind = .wouldBlock ∨ e.kind = .timedOut) ∧ raw ≠ [] then (.ok raw, w)
        else (.error (.transport ("upload response failed: " ++ e.text)), w)

/-- Read the server's answer; an answer with no bytes at all is an error. -/
def readResponse (w : ω) : Except Error (List UInt8) × ω :=
  match readLoop c (responseLimit + c.patience w + 1) [] w with
  | (.ok [], w) => (.error (.transport "server sent no upload response"), w)
  | r => r

namespace Session

/-- Whether a request is open. -/
def isActive (s : Session) : Bool := s.phase != .idle

/-- The name of the open request. -/
def id? (s : Session) : Option String :=
  match s.phase with
  | .active id _ _ => some id
  | .idle => none

/-- The name given to the last upload begun, whether or not it opened. -/
def lastId? (s : Session) : Option String :=
  if s.started > 0 then some (uploadName s.started) else none

/-- Chunks sent on the open request. -/
def chunksSent (s : Session) : Nat :=
  match s.phase with
  | .active _ n _ => n
  | .idle => 0

/-- Begin an upload with bearer `token`; returns its name. -/
def init (s : Session) (token : String) (w : ω) : Except Error String × Session × ω :=
  if s.isActive then (.error .sessionActive, s, w)
  else
    let s := { s with started := s.started + 1 }
    let id := uploadName s.started
    match c.connect.exec w with
    | (.error e, w) => (.error (.transport ("upload connect failed: " ++ e.text)), s, w)
    | (.ok (), w) =>
      let head := (requestHead s.config c.host token).toUTF8.toList
      match (do c.write head; c.flush).exec w with
      | (.error e, w) => (.error (.transport ("upload request failed: " ++ e.text)), s, w)
      | (.ok (), w) => (.ok id, { s with phase := .active id 0 0 }, w)

/-- Send `data` as one chunk of the body; an empty one is skipped. -/
def append (s : Session) (data : List UInt8) (w : ω) : Except Error Unit × Session × ω :=
  match s.phase with
  | .idle => (.error .sessionInactive, s, w)
  | .active id chunks bytes =>
    if data.isEmpty then (.ok (), s, w)
    else
      match (do c.write (Codec.Chunked.header data.length); c.write data
                c.write Codec.Chunked.crlf; c.flush).exec w with
      | (.error e, w) => (.error (.transport ("upload chunk failed: " ++ e.text)), s, w)
      | (.ok (), w) => (.ok (), { s with phase := .active id (chunks + 1) (bytes + data.length) }, w)

/-- End the body and read the server's answer; the session is idle afterwards. -/
def finish (s : Session) (w : ω) : Except Error Response × Session × ω :=
  match s.phase with
  | .idle => (.error .sessionInactive, s, w)
  | .active .. =>
    let s := { s with phase := .idle }
    match (do c.write Codec.Chunked.terminal; c.flush).exec w with
    | (.error e, w) => (.error (.transport ("upload terminator failed: " ++ e.text)), s, w)
    | (.ok (), w) =>
      match readResponse c w with
      | (.error e, w) => (.error e, s, w)
      | (.ok raw, w) => (.ok ⟨Text.Utf8.decodeLossy raw⟩, s, w)

end Session

end

/-- Drop the open request without ending its body. -/
def Session.abort (s : Session) : Session := { s with phase := .idle }

end Talkback.Upload
