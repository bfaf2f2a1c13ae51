import Talkback.Json.Decode
import Talkback.Text.Shape

/-!
Events a running client publishes: text from the server, the outcome of each upload, the
start and end of playback and capture, and every change of the client's status. Events that
happen one after another carry increasing sequence numbers taken from one shared counter.

Each event has a document form (field names in camel case, variant records tagged by a
`result` or `type` member) and an inspection form.
-/

namespace Talkback

/-- A text message received from the server. -/
structure ServerMessage where
  seq : Nat
  text : String
  deriving DecidableEq, Repr, Inhabited

/-- How an upload ended. -/
inductive UploadOutcome where
  /-- The server answered; `status` is absent when its first line was not a status line. -/
  | completed (status : Option Nat) (body : String) (chunks : Nat)
  | failed (detail : String)
  deriving DecidableEq, Repr, Inhabited

/-- One upload's end. -/
structure UploadEvent where
  seq : Nat
  sessionId : String
  outcome : UploadOutcome
  deriving DecidableEq, Repr, Inhabited

/-- What the audio devices did. -/
inductive ActivityKind where
  | playbackStarted
  | playbackStopped (bytes underflows : Nat)
  | captureStarted
  | captureStopped (bytes droppedBytes : Nat)
  deriving DecidableEq, Repr, Inhabited

/-- One device activity. -/
structure ActivityEvent where
  seq : Nat
  kind : ActivityKind
  deriving DecidableEq, Repr, Inhabited

/-- The state of a client. -/
inductive Status where
  | idle
  | connecting
  | connected
  | capturing
  | closed
  | error
  deriving DecidableEq, Repr, Inhabited

/-- A change of status, with an optional explanation. -/
structure StatusEvent where
  status : Status
  detail : Option String
  deriving DecidableEq, Repr, Inhabited

open Json Json.Decoder Text

namespace ServerMessage

/-- The event as a document. -/
def toJson (e : ServerMessage) : Value := .obj [("seq", .ofNat e.seq), ("text", .str e.text)]

/-- Read the event from a document. -/
def decode : Decoder ServerMessage := fun v => do
  let s ← fields ["seq", "text"] v
  return ⟨← req (s.getD 0 none) (unsigned 64), ← req (s.getD 1 none) string⟩

/-- The event when inspected. -/
def shape (e : ServerMessage) : Shape :=
  .record "ServerMessageEvent" [("seq", .nat e.seq), ("text", .str e.text)] false

end ServerMessage

namespace UploadOutcome

/-- The outcome as a document. -/
def toJson : UploadOutcome → Value
  | .completed st body chunks =>
    .obj [("result", .str "completed"), ("status", .ofOption .ofNat st), ("body", .str body),
      ("chunks", .ofNat chunks)]
  | .failed d => .obj [("result", .str "failed"), ("detail", .str d)]

/-- Read the outcome from a document. -/
def decode : Decoder UploadOutcome := fun v => do
  let (name, rest) ← tagged "result" v
  match name with
  | "completed" =>
    let s ← fields ["status", "body", "chunks"] rest
    return .completed (← opt (s.getD 0 none) (unsigned 16)) (← req (s.getD 1 none) string)
      (← req (s.getD 2 none) (unsigned 64))
  | "failed" =>
    let s ← fields ["detail"] rest
    return .failed (← req (s.getD 0 none) string)
  | _ => none

/-- The outcome when inspected. -/
def shape : UploadOutcome → Shape
  | .completed st body chunks =>
    .record "Completed" [("status", .option .nat st), ("body", .str body), ("chunks", .nat chunks)]
      false
  | .failed d => .record "Failed" [("detail", .str d)] false

end UploadOutcome

namespace UploadEvent

/-- The event as a document. -/
def toJson (e : UploadEvent) : Value :=
  .obj [("seq", .ofNat e.seq), ("sessionId", .str e.sessionId), ("outcome", e.outcome.toJson)]

/-- Read the event from a document. -/
def decode : Decoder UploadEvent := fun v => do
  let s ← fields ["seq", "sessionId", "outcome"] v
  return ⟨← req (s.getD 0 none) (unsigned 64), ← req (s.getD 1 none) string,
    ← req (s.getD 2 none) UploadOutcome.decode⟩

/-- The event when inspected. -/
def shape (e : UploadEvent) : Shape :=
  .record "UploadEvent" [("seq", .nat e.seq), ("session_id", .str e.sessionId),
    ("outcome", e.outcome.shape)] false

end UploadEvent

namespace ActivityKind

/-- The activity as a document. -/
def toJson : ActivityKind → Value
  | .playbackStarted => .obj [("type", .str "playbackStarted")]
  | .playbackStopped b u =>
    .obj [("type", .str "playbackStopped"), ("bytes", .ofNat b), ("underflows", .ofNat u)]
  | .captureStarted => .obj [("type", .str "captureStarted")]
  | .captureStopped b d =>
    .obj [("type", .str "captureStopped"), ("bytes", .ofNat b), ("droppedBytes", .ofNat d)]

/-- Read the activity from a document. -/
def decode : Decoder ActivityKind := fun v => do
  let (name, rest) ← tagged "type" v
  match name with
  | "playbackStarted" => do unitFields rest; return .playbackStarted
  | "captureStarted" => do unitFields rest; return .captureStarted
  | "playbackStopped" =>
    let s ← fields ["bytes", "underflows"] rest
    return .playbackStopped (← req (s.getD 0 none) (unsigned 64)) (← req (s.getD 1 none) (unsigned 64))
  | "captureStopped" =>
    let s ← fields ["bytes", "droppedBytes"] rest
    return .captureStopped (← req (s.getD 0 none) (unsigned 64)) (← req (s.getD 1 none) (unsigned 64))
  | _ => none

/-- The activity when inspected. -/
def shape : ActivityKind → Shape
  | .playbackStarted => .atom "PlaybackStarted"
  | .playbackStopped b u => .record "PlaybackStopped" [("bytes", .nat b), ("underflows", .nat u)] false
  | .captureStarted => .atom "CaptureStarted"
  | .captureStopped b d =>
    .record "CaptureStopped" [("bytes", .nat b), ("dropped_bytes", .nat d)] false

end ActivityKind

namespace ActivityEvent

/-- The event as a document. -/
def toJson (e : ActivityEvent) : Value := .obj [("seq", .ofNat e.seq), ("kind", e.kind.toJson)]

/-- Read the event from a document. -/
def decode : Decoder ActivityEvent := fun v => do
  let s ← fields ["seq", "kind"] v
  return ⟨← req (s.getD 0 none) (unsigned 64), ← req (s.getD 1 none) ActivityKind.decode⟩

/-- The event when inspected. -/
def shape (e : ActivityEvent) : Shape :=
  .record "ActivityEvent" [("seq", .nat e.seq), ("kind", e.kind.shape)] false

end ActivityEvent

namespace Status

/-- Every status, in order. -/
def all : List Status := [.idle, .connecting, .connected, .capturing, .closed, .error]

/-- The status's name in documents. -/
def name : Status → String
  | .idle => "idle"
  | .connecting => "connecting"
  | .connected => "connected"
  | .capturing => "capturing"
  | .closed => "closed"
  | .error => "error"

/-- The status's name when inspected. -/
def shape : Status → Shape
  | .idle => .atom "Idle"
  | .connecting => .atom "Connecting"
  | .connected => .atom "Connected"
  | .capturing => .atom "Capturing"
  | .closed => .atom "Closed"
  | .error => .atom "Error"

/-- Read a status from a document. -/
def decode : Decoder Status := fun v => do
  let n ← constant (all.map name) v
  all.find? (·.name = n)

end Status

namespace StatusEvent

/-- The event as a document. -/
def toJson (e : StatusEvent) : Value :=
  .obj [("status", .str e.status.name), ("detail", .ofOption .str e.detail)]

/-- Read the event from a document. -/
def decode : Decoder StatusEvent := fun v => do
  let s ← fields ["status", "detail"] v
  return ⟨← req (s.getD 0 none) Status.decode, ← opt (s.getD 1 none) string⟩

/-- The event when inspected. -/
def shape (e : StatusEvent) : Shape :=
  .record "ClientStatusEvent" [("status", e.status.shape), ("detail", .option .str e.detail)] false

end StatusEvent

end Talkback
