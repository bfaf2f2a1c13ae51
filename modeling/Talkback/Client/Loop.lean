import Talkback.Client.World
import Talkback.Codec.Wav
import Talkback.Transport.Link

/-!
The loop that serves a client's connection.

Each turn checks that the client still runs, takes the control requests waiting (a
disconnect ends the loop and leaves the rest waiting), takes the session back from an upload
thread that has returned, asks for a writable slot when messages were queued, and then
services the connection. The events that come back are handled in order: a writable slot
sends one queued message and asks again while more wait; text is published; audio goes to
playback; a close ends the loop after the whole batch. A failed service call ends the loop
too. Ending it stops capture and playback, waits for the upload thread and closes the
connection.

Servicing is where everything outside the loop happens: the environment `ε` is given the
world at each service call and answers with the events, having acted on the world the way
other threads would. The loop's length is bounded by fuel the environment can vouch for; it
ends as if closed when the fuel runs out.
-/

namespace Talkback.Client

/-- Split `xs` into pieces of `n` items, the last possibly shorter; `fuel` pieces at most. -/
def piecesBy {α : Type} (n : Nat) : Nat → List α → List (List α)
  | 0, _ => []
  | _, [] => []
  | fuel + 1, xs => xs.take n :: piecesBy n fuel (xs.drop n)

/-- Split `xs` into pieces of `n ≥ 1` items, the last possibly shorter. -/
def pieces {α : Type} (n : Nat) (xs : List α) : List (List α) := piecesBy n xs.length xs

/-- Put pieces into a ring one by one, each only if it fits now; a ring that `drains` is
emptied before each piece. Returns the ring and the bytes that went in and that were
dropped. -/
def feedRing (drains : Bool) : Buffer.Ring → List (List UInt8) → Buffer.Ring × Nat × Nat
  | r, [] => (r, 0, 0)
  | r, p :: ps =>
    let r := if drains then (r.read r.used).2 else r
    match Buffer.Ring.turn (.put p true) r with
    | .finish (.ok (.accepted true)) r' _ =>
      let (r'', put, dropped) := feedRing drains r' ps
      (r'', put + p.length, dropped)
    | _ =>
      let (r', put, dropped) := feedRing drains r ps
      (r', put, dropped + p.length)

namespace World

variable {τ ω : Type} (link : Link τ) (c : Upload.Connector ω)

/-- Open playback unless it is open, publishing its start. -/
def ensurePlayback (w : World τ ω) : Except Error Unit × World τ ω :=
  if w.playback.isSome then (.ok (), w)
  else
    let cfg := w.shared.config
    let (src, ring) : Source × Option Buffer.Ring := match cfg.playbackMode with
      | .blocking => (.blocking, none)
      | .pull => (.pull, some (Buffer.Ring.create cfg.playbackBufferBytes))
    match w.device.startPlayback src with
    | (d, .error e) => (.error e, { w with device := d })
    | (d, .ok ()) =>
      (.ok (), { w with device := d, playback := some { ring },
                        shared := w.shared.emitActivity .playbackStarted })

/-- Play received audio: the samples of `data` (all of it unless it is a WAV file) go to the
ring in frame-aligned pieces no larger than the ring, or are written to the device. -/
def play (w : World τ ω) (data : List UInt8) : World τ ω :=
  let cfg := w.shared.config
  let pcm := Codec.Wav.extract data cfg.format.encoding
  let w := w.count fun d => { d with audioBytesReceived := d.audioBytesReceived + pcm.length }
  if pcm.isEmpty then w
  else
    match w.ensurePlayback with
    | (.error _, w) => w.count fun d => { d with audioBytesDropped := d.audioBytesDropped + pcm.length }
    | (.ok (), w) =>
      match w.playback with
      | none => w
      | some pb =>
        match pb.ring with
        | some r =>
          let align := max 1 cfg.format.bytesPerFrame
          let (r, put, dropped) := feedRing w.device.drains r (pieces (max align (r.capacity / align * align)) pcm)
          { w with playback := some { pb with ring := some r, bytes := pb.bytes + put } }.count
            fun d => { d with audioBytesDropped := d.audioBytesDropped + dropped }
        | none =>
          match w.device.writePlayback pcm with
          | (dev, .ok ()) =>
            { w with device := dev, playback := some { pb with bytes := pb.bytes + pcm.length } }
          | (dev, .error _) =>
            { w with device := dev }.count
              fun d => { d with audioBytesDropped := d.audioBytesDropped + pcm.length }

/-- Close playback, publishing what it played. -/
def stopPlayback (w : World τ ω) : World τ ω :=
  match w.playback with
  | none => w
  | some pb =>
    { w with playback := none, device := w.device.stopPlayback.1,
             shared := w.shared.emitActivity (.playbackStopped pb.bytes pb.underflows) }

/-- Start the device capturing into sink `s`; the frames it delivers at once go to the sink
before it is kept. -/
def attach (s : Sink) (w : World τ ω) : Except Error Unit × World τ ω :=
  match w.device.startCapture with
  | .error e => (.error e, w)
  | .ok frames =>
    let w := frames.foldl (feed c s) w
    (.ok (), { w with device := w.device.keep s })

/-- Start a streaming capture: the channel opens before the device starts and the upload
thread starts after the upload request is open. -/
def startStream (token : String) (w : World τ ω) : Except Error Unit × World τ ω :=
  let w := reap c true w
  match w.uploads with
  | none => (.error .sessionActive, w)
  | some session =>
    let w := { w with uploads := none, channel := some { bound := w.shared.config.uploadChunkQueue } }
    match attach c .stream w with
    | (.error e, w) => (.error e, { w with uploads := some session, channel := none })
    | (.ok (), w) =>
      match session.init c token w.peer with
      | (.error e, s, p) =>
        let w := { w with peer := p, device := w.device.stopCapture.1, channel := none, uploads := some s }
        (.error e, w.share fun sh => sh.emitUpload (s.lastId?.getD "") (.failed e.message))
      | (.ok id, s, p) => (.ok (), pump c { w with peer := p, worker := some { session := s, id } })

/-- Start capturing in `mode`. -/
def startCapture (mode : CaptureMode) (w : World τ ω) : Except Error Unit × World τ ω :=
  if w.capturing then (.error .captureActive, w)
  else
    let w := w.share fun sh => { sh with capture := sh.capture.clear }
    let r := match mode with
      | .record => attach c .record w
      | .relay => attach c .relay w
      | .stream token => startStream c token w
    match r with
    | (.error e, w) => (.error e, w)
    | (.ok (), w) =>
      (.ok (), { w with capturing := true }.share fun sh =>
        (sh.publish .capturing none).emitActivity .captureStarted)

/-- Stop capturing and hand back the recording; a streaming upload then ends. -/
def stopCapture (w : World τ ω) : Except Error Audio.Recording × World τ ω :=
  if !w.capturing then (.error .captureInactive, w)
  else
    let w := { w with capturing := false, device := w.device.stopCapture.1,
                      channel := w.channel.map fun (ch : Channel) => { ch with fed := false } }
    let cap := w.shared.capture
    let taken : Audio.Recording := ⟨cap.data, w.shared.config.format, cap.dropped⟩
    let w := w.share fun sh =>
      ({ sh with capture := cap.take.2 }.emitActivity
        (.captureStopped cap.data.length cap.dropped)).publish .connected none
    (.ok taken, pump c w)

/-- Give caller `k` its answer. -/
def answer (w : World τ ω) (k : Nat) (a : Answer) : World τ ω :=
  w.share fun sh => { sh with answers := sh.answers ++ [(k, a)] }

/-- Carry out control requests in order; false when one asks to disconnect, the requests after
it being left waiting. -/
def carryOut : List Request → World τ ω → Bool × World τ ω
  | [], w => (true, w)
  | .disconnect :: rest, w => (false, w.share fun sh => { sh with requests := rest ++ sh.requests })
  | .startCapture m k :: rest, w =>
    let (r, w) := startCapture c m w
    carryOut rest (w.answer k (.started r))
  | .stopCapture k :: rest, w =>
    let (r, w) := stopCapture c w
    carryOut rest (w.answer k (.stopped r))
  | .playClip a :: rest, w => carryOut rest (w.play a)
  | .stopPlayback :: rest, w => carryOut rest w.stopPlayback

/-- Take the control requests waiting. -/
def drain (w : World τ ω) : Bool × World τ ω :=
  carryOut c w.shared.requests (w.share fun sh => { sh with requests := [] })

/-- The connection is open: report it, and ask for a slot if messages wait. -/
def onConnected (w : World τ ω) : World τ ω :=
  let w := w.share fun sh => sh.publish .connected none
  if w.shared.queue.isEmpty then w else { w with conn := link.requestWritable w.conn }

/-- A writable slot: send one queued message, and ask again if more wait. -/
def onWritable (w : World τ ω) : World τ ω :=
  let (m, q) := w.shared.queue.dequeue
  let w := w.share fun sh => { sh with queue := q }
  let w := match m with
    | none => w
    | some m =>
      match link.send m w.conn with
      | (.ok (), t) => { w with conn := t }.count fun d => { d with messagesSent := d.messagesSent + 1 }
      | (.error _, t) => { w with conn := t }.count fun d => { d with sendErrors := d.sendErrors + 1 }
  if w.shared.queue.isEmpty then w else { w with conn := link.requestWritable w.conn }

/-- Handle a batch of events in order; says whether one of them closed the connection. -/
def handle : List Transport.LinkEvent → World τ ω → Bool × World τ ω
  | [], w => (false, w)
  | e :: rest, w =>
    let (closed, w) : Bool × World τ ω := match e with
      | .connected => (false, onConnected link w)
      | .writable => (false, onWritable link w)
      | .received (.text t) => (false, w.share fun sh => sh.emitMessage t)
      | .received (.binary d) => (false, w.play d)
      | .closed => (true, w)
    let (closed', w) := handle rest w
    (closed || closed', w)

/-- End the loop: stop capture, wait for the upload thread, stop playback, close. -/
def teardown (w : World τ ω) : World τ ω :=
  let w := if w.capturing then (stopCapture c w).2 else w
  let w := (reap c true w).stopPlayback
  { w with conn := (link.close w.conn).2 }

/-- Ask for a writable slot if messages were queued since the last turn. -/
def wantWrite (w : World τ ω) : World τ ω :=
  if w.shared.writeWanted then
    { w with conn := link.requestWritable w.conn, shared := { w.shared with writeWanted := false } }
  else w

end World

section Serve

variable {τ ω ε : Type} (link : Link τ) (c : Upload.Connector ω)
  (service : ε → World τ ω → Except Error (List Transport.LinkEvent) × ε × World τ ω)

/-- Turn the loop at most `fuel` times, then end it. -/
def serveBy : Nat → ε → World τ ω → ε × World τ ω
  | 0, e, w => (e, w.teardown link c)
  | fuel + 1, e, w =>
    if !w.shared.running then (e, w.teardown link c)
    else
      match w.drain c with
      | (false, w) => (e, w.teardown link c)
      | (true, w) =>
        match service e (World.wantWrite link (World.reap c false w)) with
        | (.error _, e, w) => (e, w.teardown link c)
        | (.ok events, e, w) =>
          match World.handle link events w with
          | (true, w) => (e, w.teardown link c)
          | (false, w) => serveBy fuel e w

/-- Serve an open connection for at most `fuel` turns; the client no longer runs afterwards. -/
def serve (fuel : Nat) (e : ε) (w : World τ ω) : ε × World τ ω :=
  let (e, w) := serveBy link c service fuel e w
  (e, w.share Shared.finish)

/-- Serve the connection `t` from the calling thread, with the upload session `session`: begin,
open the connection with `connect`, and serve it for at most `fuel` turns from a loop that holds
the session and nothing else. While a loop runs the call is refused and changes nothing; a
connection that does not open fails the client with its error. -/
def runOn (connect : τ → τ × Except Error Unit) (t : τ) (session : Upload.Session) (fuel : Nat) (e : ε)
    (w : World τ ω) : Except Error Unit × ε × World τ ω :=
  match w.shared.begin with
  | .error err => (.error err, e, w)
  | .ok sh =>
    let w := { w with uploads := some session, worker := none, channel := none, playback := none,
                      capturing := false }
    match connect t with
    | (t, .error err) => (.error err, e, { w with conn := t, shared := sh.fail err })
    | (t, .ok ()) =>
      let (e, w) := serve link c service fuel e { w with conn := t, shared := sh }
      (.ok (), e, w)

end Serve

end Talkback.Client
