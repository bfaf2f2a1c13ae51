import Talkback.Buffer.Ring
import Talkback.Client.Device
import Talkback.Client.Shared
import Talkback.Upload.Session

/-!
Everything a client's loop acts on: the shared client state, the upload session and the
upload thread with the channel that feeds it, open playback, whether capture runs, the audio
device, the connection and the upload peer.

The connection is any type `τ` with the three operations the loop makes on it (`Link`); the
upload peer is reached through an `Upload.Connector`. The upload thread is run eagerly: it
handles each frame the moment the channel holds one, so that between two steps of the loop it
has always caught up, which is the state a caller observes.

Captured frames go where the device's sink says. A recording sink appends them to the capture
record, counting a frame that does not fit as dropped; a streaming sink does that and also
offers the frame to the upload channel, counting it as dropped when the channel is full and
ignoring it once the upload thread has stopped reading; a relaying sink queues it as a binary
message. The device pulls playback from the ring in whole requests, and gets silence when the
ring cannot fill one; only the change from audio to silence counts as an underflow.
-/

namespace Talkback.Client

/-- What the loop does to a connection of type `τ` besides opening and servicing it: ask for a
writable slot, send a message, and close it. -/
structure Link (τ : Type) where
  requestWritable : τ → τ
  send : Dispatch.Message → τ → Except Error Unit × τ
  close : τ → Except Error Unit × τ

/-- Playback opened for a connection: the ring the device pulls from (pull mode only), the
underflows counted, the bytes handed on, and whether the device was last given audio. -/
structure Playback where
  ring : Option Buffer.Ring
  underflows : Nat := 0
  bytes : Nat := 0
  playing : Bool := false
  deriving DecidableEq, Repr

/-- The bounded channel from a streaming capture to its upload thread: the frames in it, its
bound, whether the capture still feeds it, and whether the upload thread still reads it. -/
structure Channel where
  frames : List (List UInt8) := []
  bound : Nat
  fed : Bool := true
  heard : Bool := true
  deriving DecidableEq, Repr

/-- Where an upload thread is: sending, returned with its session, or stopped inside the
network without returning. -/
inductive Stage where
  | working
  | returned
  | crashed
  deriving DecidableEq, Repr

/-- An upload thread: the session it owns, the upload's name, and the chunks it has sent. -/
structure Worker where
  session : Upload.Session
  id : String
  sent : Nat := 0
  stage : Stage := .working
  deriving DecidableEq, Repr

/-- The state of a client and everything around it. `uploads` is empty while an upload thread
owns the session, or for good once a thread holding it crashed. -/
structure World (τ ω : Type) where
  shared : Shared
  uploads : Option Upload.Session := some {}
  worker : Option Worker := none
  channel : Option Channel := none
  playback : Option Playback := none
  capturing : Bool := false
  device : Device
  conn : τ
  peer : ω

namespace World

variable {τ ω : Type}

/-- Change the counters. -/
def count (w : World τ ω) (f : Diagnostics → Diagnostics) : World τ ω :=
  { w with shared := { w.shared with diag := f w.shared.diag } }

/-- Change the shared state. -/
def share (w : World τ ω) (f : Shared → Shared) : World τ ω := { w with shared := f w.shared }

section Upload

variable (c : Upload.Connector ω)

/-- The upload thread, having met a failure from an operation that left the peer as `p`: if
that operation stopped the thread, it is gone without a word; otherwise it gives up its
request and publishes the failure. Either way it reads no more frames. -/
def giveUp (w : World τ ω) (k : Worker) (halts : Nat) (s : Upload.Session) (p : ω) (e : Error) :
    World τ ω :=
  let ch := w.channel.map fun ch => { ch with frames := [], heard := false }
  if c.halts p > halts then { w with peer := p, channel := ch, worker := some { k with stage := .crashed } }
  else
    { w with peer := p, channel := ch, worker := some { k with session := s.abort, stage := .returned },
             shared := w.shared.emitUpload k.id (.failed e.message) }

/-- Let the upload thread catch up for at most `fuel` frames: it sends every frame in the
channel as a chunk, and once the capture has stopped feeding an empty channel it ends the
upload and publishes the server's answer. -/
def pumpBy : Nat → World τ ω → World τ ω
  | 0, w => w
  | fuel + 1, w =>
    match w.worker, w.channel with
    | some k, some ch =>
      if k.stage != .working then w
      else
        match ch.frames with
        | f :: rest =>
          let w := { w with channel := some { ch with frames := rest } }
          match k.session.append c f w.peer with
          | (.ok (), s, p) =>
            pumpBy fuel ({ w with peer := p, worker := some { k with session := s, sent := k.sent + 1 } }.count
              fun d => { d with uploadChunksSent := d.uploadChunksSent + 1 })
          | (.error e, s, p) => giveUp c w k (c.halts w.peer) s p e
        | [] =>
          if ch.fed then w
          else
            match k.session.finish c w.peer with
            | (.ok r, s, p) =>
              { w with peer := p, channel := some { ch with heard := false },
                       worker := some { k with session := s, stage := .returned },
                       shared := w.shared.emitUpload k.id (.completed r.status? r.body k.sent) }
            | (.error e, s, p) => giveUp c w k (c.halts w.peer) s p e
    | _, _ => w

/-- Let the upload thread catch up with its channel. -/
def pump (w : World τ ω) : World τ ω :=
  pumpBy c ((w.channel.map (·.frames.length)).getD 0 + 2) w

/-- Take the session back from an upload thread that has returned; with `wait`, let it catch
up first. A thread that crashed took the session with it. -/
def reap (wait : Bool) (w : World τ ω) : World τ ω :=
  let w := if wait then pump c w else w
  match w.worker with
  | some { stage := .returned, session, .. } => { w with worker := none, uploads := some session }
  | some { stage := .crashed, .. } => { w with worker := none }
  | _ => w

/-- Offer a frame to the upload channel. -/
def offer (w : World τ ω) (frame : List UInt8) : World τ ω :=
  match w.channel with
  | some ch =>
    if !ch.heard then w
    else if ch.frames.length < ch.bound then
      pump c { w with channel := some { ch with frames := ch.frames ++ [frame] } }
    else w.count fun d => { d with uploadChunksDropped := d.uploadChunksDropped + 1 }
  | none => w

/-- Hand a captured frame to sink `s`. -/
def feed (s : Sink) (w : World τ ω) (frame : List UInt8) : World τ ω :=
  let record (w : World τ ω) : World τ ω :=
    match w.shared.capture.append frame with
    | (true, cap) => w.share fun sh => { sh with capture := cap }
    | (false, cap) =>
      (w.share fun sh => { sh with capture := cap }).count
        fun d => { d with captureBytesDropped := d.captureBytesDropped + frame.length }
  match s with
  | .record => record w
  | .stream => offer c (record w) frame
  | .relay => w.share fun sh => (sh.sendBinary frame).2

/-- The device delivers a captured frame; says whether it held a sink to give it to. -/
def deliver (w : World τ ω) (frame : List UInt8) : Bool × World τ ω :=
  match w.device.sink with
  | some s => (true, feed c s w frame)
  | none => (false, w)

end Upload

/-- The device pulls `n` bytes of playback; nothing when it holds no pull stream. -/
def pull (w : World τ ω) (n : Nat) : Option (List UInt8) × World τ ω :=
  if !w.device.pullOpen then (none, w)
  else
    match w.playback with
    | some pb =>
      let silence := List.replicate n w.shared.config.format.silence
      match pb.ring.map fun r => Buffer.Ring.turn (.tryGet n) r with
      | some (.finish (.ok (.filled true data)) r _) =>
        (some data, { w with playback := some { pb with ring := some r, playing := true } })
      | _ =>
        if pb.playing then
          (some silence,
            { w with playback := some { pb with playing := false, underflows := pb.underflows + 1 } }.count
              fun d => { d with playbackUnderflows := d.playbackUnderflows + 1 })
        else (some silence, w)
    | none => (none, w)

end World

end Talkback.Client
