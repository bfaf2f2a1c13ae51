import Talkback.Error

/-!
The audio device a client drives, with the failures it can be told to show.

Capture hands the device a sink for the frames it records; starting capture fails when told
to, or when a sink is already held, and otherwise delivers the frames queued to arrive at
start before the sink is kept. A device may also play whatever reaches its ring at once, so
that the ring never fills. Playback is opened for pulling (the device asks for audio) or
for blocking writes; writing needs an open blocking stream. Stopping always lets go of the
sink or stream first, then reports a failure if told to; a client only logs those.
-/

namespace Talkback.Client

/-- Where captured frames go: into the recording (and the upload, when streaming), or
straight onto the connection. -/
inductive Sink where
  | record
  | stream
  | relay
  deriving DecidableEq, Repr, Inhabited

/-- How playback is opened. -/
inductive Source where
  | pull
  | blocking
  deriving DecidableEq, Repr, Inhabited

/-- The device: its failure switches, the frames it delivers at start, and what it holds. -/
structure Device where
  captureError : Option String := none
  playbackError : Option String := none
  writeError : Option String := none
  stopCaptureError : Option String := none
  stopPlaybackError : Option String := none
  startFrames : List (List UInt8) := []
  sink : Option Sink := none
  pullOpen : Bool := false
  blockingOpen : Bool := false
  written : List UInt8 := []
  drains : Bool := false
  deriving DecidableEq, Repr, Inhabited

namespace Device

/-- Whether capture can start; the frames to deliver first if so. -/
def startCapture (d : Device) : Except Error (List (List UInt8)) :=
  match d.captureError, d.sink with
  | some e, _ => .error (.audioDevice e)
  | none, some _ => .error .captureActive
  | none, none => .ok d.startFrames

/-- Keep the sink of a capture that started. -/
def keep (d : Device) (s : Sink) : Device := { d with sink := some s }

/-- Stop capture: the sink is let go of, then a failure may be reported. -/
def stopCapture (d : Device) : Device × Except Error Unit :=
  ({ d with sink := none },
    match d.stopCaptureError with
    | some e => .error (.audioDevice e)
    | none => .ok ())

/-- Open playback. -/
def startPlayback (d : Device) (s : Source) : Device × Except Error Unit :=
  match d.playbackError with
  | some e => (d, .error (.audioStream e))
  | none =>
    match s with
    | .pull => ({ d with pullOpen := true }, .ok ())
    | .blocking => ({ d with blockingOpen := true }, .ok ())

/-- Write audio to a blocking stream. -/
def writePlayback (d : Device) (pcm : List UInt8) : Device × Except Error Unit :=
  match d.writeError with
  | some e => (d, .error (.audioStream e))
  | none =>
    if d.blockingOpen then ({ d with written := d.written ++ pcm }, .ok ())
    else (d, .error (.audioStream "playback not open"))

/-- Stop playback: the stream is let go of, then a failure may be reported. -/
def stopPlayback (d : Device) : Device × Except Error Unit :=
  ({ d with pullOpen := false, blockingOpen := false },
    match d.stopPlaybackError with
    | some e => .error (.audioStream e)
    | none => .ok ())

end Device

end Talkback.Client
