import Talkback.Audio.Format
import Talkback.Upload.Session

/-!
How a voice client is set up: the audio format, the sizes of its buffers and queues, how
received audio reaches the speaker, and how captured audio is used.

Received audio is either pulled by the device from a ring (`pull`), the network waiting at
most `playbackPutTimeoutMs` for room, or written to the device directly (`blocking`).
Captured audio is recorded to be sent when capture stops (`record`), streamed to the server
in a chunked upload as it arrives (`stream`), or sent frame by frame on the connection
(`relay`).
-/

namespace Talkback.Client

/-- How received audio reaches the device. -/
inductive PlaybackMode where
  | pull
  | blocking
  deriving DecidableEq, Repr, Inhabited

/-- The mode when inspected. -/
def PlaybackMode.shape : PlaybackMode → Text.Shape
  | .pull => .atom "Pull"
  | .blocking => .atom "Blocking"

/-- What captured audio is used for. -/
inductive CaptureMode where
  | record
  | stream (token : String)
  | relay
  deriving DecidableEq, Repr, Inhabited

/-- The mode when inspected; a token is never shown. -/
def CaptureMode.shape : CaptureMode → Text.Shape
  | .record => .atom "Record"
  | .stream _ => .atom "Stream"
  | .relay => .atom "Relay"

/-- The settings of a client. -/
structure Config where
  format : Audio.Format := {}
  framesPerBuffer : Nat := 512
  queueCapacity : Nat := 10
  playbackBufferBytes : Nat := 1024 * 1024
  playbackMode : PlaybackMode := .pull
  playbackPutTimeoutMs : Nat := 250
  maxRecordingSecs : Nat := 60
  serviceTimeoutMs : Nat := 50
  uploadChunkQueue : Nat := 50
  upload : Upload.Config := {}
  deriving DecidableEq, Repr, Inhabited

/-- The settings when inspected. -/
def Config.shape (c : Config) : Text.Shape :=
  .record "ClientConfig" [("format", c.format.shape), ("frames_per_buffer", .nat c.framesPerBuffer),
    ("queue_capacity", .nat c.queueCapacity), ("playback_buffer_bytes", .nat c.playbackBufferBytes),
    ("playback_mode", c.playbackMode.shape), ("playback_put_timeout", .millis c.playbackPutTimeoutMs),
    ("max_recording_secs", .nat c.maxRecordingSecs), ("service_timeout", .millis c.serviceTimeoutMs),
    ("upload_chunk_queue", .nat c.uploadChunkQueue), ("upload", c.upload.shape)] false

end Talkback.Client
