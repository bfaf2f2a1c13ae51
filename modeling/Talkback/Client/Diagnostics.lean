import Talkback.Text.Shape

/-!
Counters a running client keeps for observation: messages queued, refused, sent and failed;
audio bytes received and dropped on the way to the speaker; playback underflows; captured
bytes dropped; upload chunks sent and dropped. All are reset when a connection begins.
-/

namespace Talkback.Client

/-- The client's counters. -/
structure Diagnostics where
  messagesEnqueued : Nat := 0
  queueRejections : Nat := 0
  messagesSent : Nat := 0
  sendErrors : Nat := 0
  audioBytesReceived : Nat := 0
  audioBytesDropped : Nat := 0
  playbackUnderflows : Nat := 0
  captureBytesDropped : Nat := 0
  uploadChunksSent : Nat := 0
  uploadChunksDropped : Nat := 0
  deriving DecidableEq, Repr, Inhabited

namespace Diagnostics

/-- The counters by name, in order. -/
def fields (d : Diagnostics) : List (String × Nat) :=
  [("messages_enqueued", d.messagesEnqueued), ("queue_rejections", d.queueRejections),
    ("messages_sent", d.messagesSent), ("send_errors", d.sendErrors),
    ("audio_bytes_received", d.audioBytesReceived), ("audio_bytes_dropped", d.audioBytesDropped),
    ("playback_underflows", d.playbackUnderflows), ("capture_bytes_dropped", d.captureBytesDropped),
    ("upload_chunks_sent", d.uploadChunksSent), ("upload_chunks_dropped", d.uploadChunksDropped)]

/-- The counters when inspected. -/
def shape (d : Diagnostics) : Text.Shape :=
  .record "DiagnosticsSnapshot" (d.fields.map fun (k, n) => (k, .nat n)) false

end Diagnostics

end Talkback.Client
