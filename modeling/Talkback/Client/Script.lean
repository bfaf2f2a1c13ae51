import Talkback.Client.Connection
import Talkback.Client.Loop
import Talkback.Transport.Auth
import Talkback.Upload.Scripted

/-!
A scripted session with a client: a list of steps taken in order against one client, one
audio device and one upload peer, over scripted connections.

A step taken while no loop runs acts at once. A `run` step opens a fresh connection, a fresh
upload session and a loop; while the loop runs, each step is taken inside a service call, so
it acts as another thread would while the loop waits on the network. Before taking a step the
service call lets the loop finish what the previous step set off: it waits (returning no
events) for the answer to a capture request, reports a pending open and a pending writable
slot, and only then records the previous step. Every record is thus taken when the loop is
quiet. When the steps run out inside a loop the connection closes. When a loop ends, the step
that ended it is recorded, then the `run` step.

A record holds the step's outcome, the client's status and counters, and what was published,
sent, played or uploaded since the previous record. Two events published when a streaming
capture stops, its end and the upload's end, are numbered by whichever thread gets there
first; a record shows the capture's end first.
-/

namespace Talkback.Client

/-- Changes to the device's failure switches: `none` leaves a switch, `some v` sets it to `v`;
start frames, when given, replace the list. -/
structure DeviceChange where
  captureError : Option (Option String) := none
  playbackError : Option (Option String) := none
  writeError : Option (Option String) := none
  stopCaptureError : Option (Option String) := none
  stopPlaybackError : Option (Option String) := none
  startFrames : Option (List (List UInt8)) := none
  deriving DecidableEq, Repr, Inhabited

/-- Apply a change to the device. -/
def DeviceChange.apply (c : DeviceChange) (d : Device) : Device :=
  { d with captureError := c.captureError.getD d.captureError,
           playbackError := c.playbackError.getD d.playbackError,
           writeError := c.writeError.getD d.writeError,
           stopCaptureError := c.stopCaptureError.getD d.stopCaptureError,
           stopPlaybackError := c.stopPlaybackError.getD d.stopPlaybackError,
           startFrames := c.startFrames.getD d.startFrames }

/-- A step of a script. -/
inductive Step where
  /-- Serve a connection opened with `auth`; `connectError` makes opening fail. -/
  | run (auth : Transport.Auth) (connectError : Option String) (autoWritable : Bool)
  | sendText (text : String)
  | sendBinary (data : List UInt8)
  | playClip (data : List UInt8)
  | stopPlayback
  | disconnect
  | shutdown
  | noop
  | startCapture (mode : CaptureMode)
  | stopCapture
  /-- The connection reports these events. -/
  | events (es : List Transport.LinkEvent)
  /-- Servicing the connection fails. -/
  | serviceError (message : String)
  /-- The device captures a frame. -/
  | captureFrame (data : List UInt8)
  /-- The device pulls `n` bytes of playback. -/
  | pull (n : Nat)
  | setDevice (change : DeviceChange)
  | closeError (message : Option String)
  | sendError (message : Option String)
  | uploadRefuse (on : Bool)
  | uploadFailWrites (on : Bool)
  | uploadHaltWrites (on : Bool)
  | uploadReply (script : List Upload.ReadItem)
  /-- Ask for a recording capture from a thread nobody waits for, then close the connection. -/
  | startDetached
  /-- Wait for the oldest such request's answer. -/
  | joinDetached
  /-- A step that cannot be taken. -/
  | invalid (reason : String)
  deriving Repr

/-- What a step gives back. -/
inductive Outcome where
  | done
  | failed (e : Error)
  /-- The step needs a running loop. -/
  | skipped
  | delivered (held : Bool)
  | pulled (data : Option (List UInt8))
  | recording (r : Audio.Recording)
  /-- The awaited answer has not come. -/
  | pending
  | refused (reason : String)
  deriving Repr

/-- The outcome an answer stands for. -/
def Answer.outcome : Answer → Outcome
  | .started (.ok ()) => .done
  | .started (.error e) => .failed e
  | .stopped (.ok r) => .recording r
  | .stopped (.error e) => .failed e

/-- The outcome of a call that may fail. -/
def Outcome.ofExcept : Except Error Unit → Outcome
  | .ok () => .done
  | .error e => .failed e

/-- What a record shows of a step and of everything since the previous record. -/
structure Record where
  outcome : Outcome
  status : Status
  running : Bool
  pending : Nat
  diag : Diagnostics
  messages : List ServerMessage
  statuses : List StatusEvent
  uploads : List UploadEvent
  activity : List ActivityEvent
  sent : List Dispatch.Message
  auth : Option String
  connects : Nat
  closes : Nat
  writableRequests : Nat
  captureOpen : Bool
  pullOpen : Bool
  blockingOpen : Bool
  written : List UInt8
  wire : List UInt8
  deriving Repr

/-- How much of each growing list earlier records have shown. -/
structure Cursor where
  messages : Nat := 0
  statuses : Nat := 0
  uploads : Nat := 0
  activity : Nat := 0
  sent : Nat := 0
  written : Nat := 0
  wire : Nat := 0
  deriving DecidableEq, Repr, Inhabited

/-- The world of a script. -/
abbrev Scene := World Connection Upload.Scripted

/-- A step taken inside a loop and not yet recorded: its outcome, or the caller whose answer
is its outcome. -/
inductive Due where
  | ready (o : Outcome)
  | awaiting (caller : Nat)
  deriving Repr

/-- The script's side of a session: the steps left, numbered, the records made, the step due
to be recorded, the cursor, the detached callers oldest first, the next caller's number, and
the upload peer's `Host` header value. -/
structure Bench where
  steps : List (Nat × Step)
  records : Array (Option Record)
  due : Option (Nat × Due) := none
  cursor : Cursor := {}
  detached : List Nat := []
  callers : Nat := 0
  host : String

/-- Number the capture's end before the upload's end when the two were numbered one after the
other: the `i`-th capture end is paired with the `i`-th upload end. -/
def settleOrder : List ActivityEvent → List UploadEvent → List ActivityEvent × List UploadEvent
  | a :: as, u :: us =>
    match a.kind with
    | .captureStopped .. =>
      let (a', u') := if u.seq + 1 = a.seq then ({ a with seq := u.seq }, { u with seq := a.seq }) else (a, u)
      let (as', us') := settleOrder as us
      (a' :: as', u' :: us')
    | _ =>
      let (as', us') := settleOrder as (u :: us)
      (a :: as', us')
  | as, us => (as, us)

/-- The link over a scripted connection. -/
def scriptedLink : Link Connection where
  requestWritable := Connection.requestWritable
  send m t := let (t, r) := t.send m; (r, t)
  close t := let (t, r) := t.close; (r, t)

namespace Bench

/-- The upload peer's connector. -/
def connector (b : Bench) : Upload.Connector Upload.Scripted := Upload.Scripted.connector b.host

/-- Record step `i` with outcome `o` as the world stands. -/
def record (b : Bench) (i : Nat) (o : Outcome) (w : Scene) : Bench :=
  let sh := w.shared
  let cur := b.cursor
  let (activity, uploads) := settleOrder (sh.activity.drop cur.activity) (sh.uploads.drop cur.uploads)
  let r : Record :=
    { outcome := o, status := sh.status, running := sh.running, pending := sh.pending,
      diag := sh.diag, messages := sh.messages.drop cur.messages,
      statuses := sh.statuses.drop cur.statuses, uploads, activity,
      sent := w.conn.sent.drop cur.sent, auth := w.conn.auth, connects := w.conn.connects,
      closes := w.conn.closes, writableRequests := w.conn.writableRequests,
      captureOpen := w.device.sink.isSome, pullOpen := w.device.pullOpen,
      blockingOpen := w.device.blockingOpen, written := w.device.written.drop cur.written,
      wire := w.peer.wire.drop cur.wire }
  { b with records := b.records.setIfInBounds i (some r),
           cursor := { messages := sh.messages.length, statuses := sh.statuses.length,
                       uploads := sh.uploads.length, activity := sh.activity.length,
                       sent := w.conn.sent.length, written := w.device.written.length,
                       wire := w.peer.wire.length } }

/-- Record the step taken inside the loop, if one is due. -/
def recordDue (b : Bench) (w : Scene) : Bench :=
  match b.due with
  | none => b
  | some (i, .ready o) => { b with due := none }.record i o w
  | some (i, .awaiting k) =>
    { b with due := none }.record i ((w.shared.answerOf k).map Answer.outcome |>.getD .pending) w

/-- A new caller's number. -/
def caller (b : Bench) : Nat × Bench := (b.callers, { b with callers := b.callers + 1 })

/-- Take a step that acts the same inside a loop and outside: its outcome and the world after. -/
def act (b : Bench) (w : Scene) : Step → Outcome × Bench × Scene
  | .sendText t => let (r, sh) := w.shared.sendText t; (.ofExcept r, b, { w with shared := sh })
  | .sendBinary d => let (r, sh) := w.shared.sendBinary d; (.ofExcept r, b, { w with shared := sh })
  | .playClip d => let (r, sh) := w.shared.command (.playClip d); (.ofExcept r, b, { w with shared := sh })
  | .stopPlayback => let (r, sh) := w.shared.command .stopPlayback; (.ofExcept r, b, { w with shared := sh })
  | .disconnect => let (r, sh) := w.shared.command .disconnect; (.ofExcept r, b, { w with shared := sh })
  | .shutdown => (.done, b, { w with shared := w.shared.shutdown })
  | .captureFrame d => let (held, w) := w.deliver b.connector d; (.delivered held, b, w)
  | .pull n => let (data, w) := w.pull n; (.pulled data, b, w)
  | .setDevice ch => (.done, b, { w with device := ch.apply w.device })
  | .closeError m => (.done, b, { w with conn := { w.conn with closeError := m } })
  | .sendError m => (.done, b, { w with conn := { w.conn with sendError := m } })
  | .uploadRefuse on => (.done, b, { w with peer := { w.peer with refuse := on } })
  | .uploadFailWrites on => (.done, b, { w with peer := { w.peer with failWrites := on } })
  | .uploadHaltWrites on => (.done, b, { w with peer := { w.peer with haltWrites := on } })
  | .uploadReply s => (.done, b, { w with peer := { w.peer with script := s } })
  | .joinDetached =>
    match b.detached with
    | [] => (.refused "nothing detached", b, w)
    | k :: rest =>
      match w.shared.answerOf k with
      | some a => (a.outcome, { b with detached := rest }, w)
      | none => (.pending, { b with detached := rest }, w)
  | .invalid reason => (.refused reason, b, w)
  | _ => (.done, b, w)

/-- Take a step inside a loop: the events the service call returns, with the step due to be
recorded set. -/
def inLoop (b : Bench) (w : Scene) (i : Nat) :
    Step → Except Error (List Transport.LinkEvent) × Bench × Scene
  | .run .. => (.ok [], { b with due := some (i, .ready (.failed .alreadyRunning)) }, w)
  | .startCapture m =>
    let (k, b) := b.caller
    let (r, sh) := w.shared.command (.startCapture m k)
    let d := match r with | .ok () => Due.awaiting k | .error e => .ready (.failed e)
    (.ok [], { b with due := some (i, d) }, { w with shared := sh })
  | .stopCapture =>
    let (k, b) := b.caller
    let (r, sh) := w.shared.command (.stopCapture k)
    let d := match r with | .ok () => Due.awaiting k | .error e => .ready (.failed e)
    (.ok [], { b with due := some (i, d) }, { w with shared := sh })
  | .events es => (.ok es, { b with due := some (i, .ready .done) }, w)
  | .serviceError m => (.error (.transport m), { b with due := some (i, .ready .done) }, w)
  | .startDetached =>
    let (k, b) := b.caller
    let (_, sh) := w.shared.command (.startCapture .record k)
    (.ok [.closed], { b with due := some (i, .ready .done), detached := b.detached ++ [k] },
      { w with shared := sh })
  | s => let (o, b, w) := b.act w s; (.ok [], { b with due := some (i, .ready o) }, w)

/-- A service call of a loop driven by the script. -/
def service (b : Bench) (w : Scene) : Except Error (List Transport.LinkEvent) × Bench × Scene :=
  let waiting := match b.due with
    | some (_, .awaiting k) => (w.shared.answerOf k).isNone
    | _ => false
  if waiting then (.ok [], b, w)
  else if w.conn.connectedDue then (.ok [.connected], b, { w with conn := { w.conn with connectedDue := false } })
  else if w.conn.writableDue then (.ok [.writable], b, { w with conn := { w.conn with writableDue := false } })
  else
    let b := b.recordDue w
    match b.steps with
    | [] => (.ok [.closed], b, w)
    | (i, s) :: rest => inLoop { b with steps := rest } w i s

/-- Turns enough for a loop over the steps left: every turn but the last takes a step, waits
for an answer, or handles a slot or an open that some step asked for, and a step asks for at
most as many slots as it can queue messages. -/
def fuel (b : Bench) (w : Scene) : Nat :=
  let frames := b.steps.foldl (fun n (_, s) => match s with
    | .setDevice { startFrames := some fs, .. } => max n fs.length
    | _ => n) w.device.startFrames.length
  (b.steps.length + 2) * (w.shared.config.queueCapacity + frames + 8)

/-- Serve one connection from a `run` step. -/
def runLoop (b : Bench) (w : Scene) (auth : Transport.Auth) (failure : Option String)
    (autoWritable : Bool) : Outcome × Bench × Scene :=
  match runOn scriptedLink b.connector service (·.connect auth.header failure) (w.conn.renew autoWritable)
      { config := w.shared.config.upload } (b.fuel w) b w with
  | (.error e, b, w) => (.failed e, b, w)
  | (.ok (), b, w) => (.done, b.recordDue w, w)

/-- Take a step while no loop runs, and record it. -/
def outside (b : Bench) (w : Scene) (i : Nat) (s : Step) : Bench × Scene :=
  let (o, b, w) : Outcome × Bench × Scene := match s with
    | .run auth failure auto => runLoop b w auth failure auto
    | .startCapture m =>
      let (k, b) := b.caller
      let (r, sh) := w.shared.command (.startCapture m k)
      (.ofExcept r, b, { w with shared := sh })
    | .stopCapture =>
      let (k, b) := b.caller
      let (r, sh) := w.shared.command (.stopCapture k)
      match r with
      | .ok () => (.pending, b, { w with shared := sh })
      | .error e => (.failed e, b, { w with shared := sh })
    | .events _ | .serviceError _ => (.skipped, b, w)
    | .startDetached =>
      let (k, b) := b.caller
      (.skipped, { b with detached := b.detached ++ [k] },
        { w with shared := { w.shared with answers := w.shared.answers ++ [(k, .started (.error .notRunning))] } })
    | s => b.act w s
  (b.record i o w, w)

/-- Take the steps left while no loop runs, at most `fuel` of them. -/
def runBy : Nat → Bench → Scene → Bench × Scene
  | 0, b, w => (b, w)
  | fuel + 1, b, w =>
    match b.steps with
    | [] => (b, w)
    | (i, s) :: rest =>
      let (b, w) := outside { b with steps := rest } w i s
      runBy fuel b w

end Bench

/-- The setting of a scripted session: the client's settings, the upload peer's `Host` header
value and read script. -/
structure Setup where
  config : Config
  host : String := "127.0.0.1:8080"
  reply : List Upload.ReadItem := Upload.defaultReply

/-- Run a script, giving each step's record in order; a client whose capture record cannot be
sized stops the whole script. -/
def runScript (setup : Setup) (steps : List Step) : Except Fault (List (Option Record)) := do
  let sh ← Shared.create setup.config
  let w : Scene := { shared := sh, device := {}, conn := {}, peer := { script := setup.reply } }
  let b : Bench := { steps := steps.zipIdx.map (fun (s, i) => (i, s)),
                     records := Array.replicate steps.length none, host := setup.host }
  let (b, _) := Bench.runBy (steps.length + 1) b w
  return b.records.toList

end Talkback.Client
