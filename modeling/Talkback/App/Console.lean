import Talkback.App.Command
import Talkback.App.Peer
import Talkback.Client.Loop
import Talkback.Decimal.Fixed

/-!
The console: it reads commands line by line and drives a running client, while event
printers write what the client publishes.

Each line is first checked against the client: once it no longer runs, the console says the
connection closed and stops reading. `record` and `relay` ask the loop to start a capture and
wait for the answer; `stream` needs an upload token, which this console never has; `stop`
waits for the recording, reports its length to a tenth of a second, and sends a recording
made by `record` as one binary message; `play` reads a file (a named pipe blocks until its
writer is done) and hands it to playback; `hush` stops playback; `stats` prints the counters;
`help` prints the commands; `quit` or the end of input stops reading. Anything else is sent
as text. When the console stops it asks the loop to disconnect.

The printers write a server's text, the connection's close or failure, each upload's end and a
recording cut short by its length cap, each as a line stamped with the time (written `[T]`).

The console and the session around it act inside the loop's service calls, when the peer has
nothing to report: the console takes its next line then, or the session its next action.
-/

namespace Talkback.App

/-- The state of the loop's world in a console session. -/
abbrev Stage := Client.World Wire Unit

/-- The kind of capture the console started. -/
inductive Held where
  | record
  | stream
  | relay
  deriving DecidableEq, Repr, Inhabited

/-- The kind's name as the console prints it. -/
def Held.name : Held → String
  | .record => "Record"
  | .stream => "Stream"
  | .relay => "Relay"

/-- A line the program wrote: by the console, or by a printer. -/
structure Printed where
  text : String
  byPrinter : Bool
  deriving DecidableEq, Repr, Inhabited

/-- Where the console is. -/
inductive Stance where
  /-- Waiting for a line. -/
  | reading
  /-- Waiting for a capture of kind `held` to start, as caller `caller`. -/
  | starting (held : Held) (caller : Nat)
  /-- Waiting for a recording, as caller `caller`. -/
  | stopping (caller : Nat)
  /-- Reading the named pipe `path`. -/
  | blocked (path : String)
  /-- Done reading. -/
  | done
  deriving DecidableEq, Repr, Inhabited

/-- Something done to the running program from outside. -/
inductive Action where
  /-- Type a line on the program's input; line feeds inside it end lines of their own. -/
  | type (line : String)
  /-- Close the program's input. -/
  | endInput
  /-- Wait for an output line holding `needle` that no earlier wait took. -/
  | waitFor (needle : String)
  /-- Wait for the server to record something; no connection ever reaches it. -/
  | waitServer
  /-- Anything that leaves the program alone. -/
  | pause
  /-- Open the writing end of the named pipe `path`. -/
  | openPipe (path : String)
  /-- Write `data` to the named pipe `path` and close it. -/
  | writePipe (path : String) (data : List UInt8)
  /-- Create the empty file `path` unless it exists. -/
  | touch (path : String)
  deriving DecidableEq, Repr, Inhabited

/-- What an action gives back. -/
inductive Report where
  | quiet
  | line (text : String)
  | timeout (needle : String)
  | flag (b : Bool)
  deriving DecidableEq, Repr, Inhabited

/-- How many events of each kind the printers have written. -/
structure Seen where
  messages : Nat := 0
  statuses : Nat := 0
  uploads : Nat := 0
  activity : Nat := 0
  deriving DecidableEq, Repr, Inhabited

/-- A console session: the actions left, their reports, the lines written, the lines taken by
waits, the input lines not yet read and whether input has ended, the console's stance, the
capture it started, the callers numbered so far, the pipes opened for writing, what the
printers have written, whether the console asked to disconnect, and the files as they were
when the program was killed, if it was. -/
structure Session where
  actions : List Action
  reports : Array Report := #[]
  out : Array Printed := #[]
  taken : List Nat := []
  input : List String := []
  ended : Bool := false
  stance : Stance := .reading
  held : Option Held := none
  callers : Nat := 0
  opened : List String := []
  seen : Seen := {}
  hungUp : Bool := false
  frozen : Option Host.Files := none
  deriving Inhabited

/-- The lines of a typed line: split at line feeds, each without a trailing carriage return. -/
def inputLines (line : String) : List String :=
  (line.splitOn "\n").map fun l => if l.endsWith "\r" then (l.dropEnd 1).toString else l

/-- The files after `path` is touched: created empty unless something is there. -/
def touchFile (fs : Host.Files) (path : String) : Host.Files :=
  if fs.exists_ path then fs
  else match fs.write path [] with
    | .ok fs => fs
    | .error _ => fs

/-- The line a printer writes for an upload's end. -/
def uploadLine (e : UploadEvent) : String :=
  match e.outcome with
  | .completed st body chunks =>
    "[T] " ++ e.sessionId ++ " finished: " ++ toString chunks ++ " chunks, status " ++
      (st.map toString).getD "?" ++ ", " ++ Text.trimBlank body
  | .failed d => "[T] " ++ e.sessionId ++ " failed: " ++ d

/-- The line a printer writes for a status change, if any. -/
def statusLine (e : StatusEvent) : Option String :=
  match e.status with
  | .closed => some "[T] connection closed"
  | .error => some ("[T] error: " ++ e.detail.getD "unknown")
  | _ => none

/-- The line a printer writes for device activity, if any. -/
def activityLine (e : ActivityEvent) : Option String :=
  match e.kind with
  | .captureStopped _ dropped => if dropped > 0 then some "[T] recording truncated at the length cap" else none
  | _ => none

namespace Session

/-- Write console lines. -/
def say (s : Session) (lines : List String) : Session :=
  { s with out := s.out ++ (lines.map fun t => ⟨t, false⟩).toArray }

/-- Let the printers write what was published since they last wrote. -/
def print (s : Session) (sh : Client.Shared) : Session :=
  let lines := (sh.messages.drop s.seen.messages).map (fun m => "[T] Server: " ++ m.text) ++
    (sh.statuses.drop s.seen.statuses).filterMap statusLine ++
    (sh.uploads.drop s.seen.uploads).map uploadLine ++
    (sh.activity.drop s.seen.activity).filterMap activityLine
  { s with out := s.out ++ (lines.map fun t => ⟨t, true⟩).toArray,
           seen := ⟨sh.messages.length, sh.statuses.length, sh.uploads.length, sh.activity.length⟩ }

/-- Record an action's report. -/
def report (s : Session) (r : Report) : Session := { s with reports := s.reports.push r }

/-- A new caller's number. -/
def caller (s : Session) : Nat × Session := (s.callers, { s with callers := s.callers + 1 })

/-- Hand audio to playback. -/
def playClip (s : Session) (audio : List UInt8) (w : Stage) : Session × Stage :=
  match w.shared.command (.playClip audio) with
  | (.ok (), sh) => (s, { w with shared := sh })
  | (.error e, sh) => (s.say ["play failed: " ++ e.message], { w with shared := sh })

/-- Ask for a capture of kind `h` and wait for the answer. -/
def startCapture (s : Session) (h : Held) (mode : Client.CaptureMode) (w : Stage) : Session × Stage :=
  let (k, s) := s.caller
  match w.shared.command (.startCapture mode k) with
  | (.ok (), sh) => ({ s with stance := .starting h k }, { w with shared := sh })
  | (.error e, sh) => (s.say ["capture failed: " ++ e.message], { w with shared := sh })

/-- The counters, as `stats` prints them. -/
def statsLines (w : Stage) : List String :=
  let d := w.shared.diag
  ["messages: " ++ toString d.messagesEnqueued ++ " queued, " ++ toString d.messagesSent ++ " sent, " ++
    toString d.queueRejections ++ " rejected, " ++ toString d.sendErrors ++ " send errors, " ++
    toString w.shared.pending ++ " pending",
   "audio: " ++ toString d.audioBytesReceived ++ " B received, " ++ toString d.audioBytesDropped ++
    " B dropped, " ++ toString d.playbackUnderflows ++ " underflows, " ++ toString d.captureBytesDropped ++
    " B capture dropped",
   "upload: " ++ toString d.uploadChunksSent ++ " chunks sent, " ++ toString d.uploadChunksDropped ++
    " chunks dropped"]

/-- Act on one input line. -/
def readLine (s : Session) (line : String) (w : Stage) : Session × Stage :=
  if !w.shared.running then ({ s.say ["connection closed"] with stance := .done }, w)
  else
    match Command.parse line with
    | .empty => (s, w)
    | .help => (s.say (Command.helpText.splitOn "\n"), w)
    | .quit => ({ s with stance := .done }, w)
    | .record => s.startCapture .record .record w
    | .relay => s.startCapture .relay .relay w
    | .stream => (s.say ["stream needs an API token: set apiKey and apiSecret"], w)
    | .stop =>
      let (k, s) := s.caller
      match w.shared.command (.stopCapture k) with
      | (.ok (), sh) => ({ s with stance := .stopping k }, { w with shared := sh })
      | (.error e, sh) => (s.say ["stop failed: " ++ e.message], { w with shared := sh })
    | .play path =>
      match w.conn.files.open_ path with
      | .error e => (s.say ["cannot read " ++ path ++ ": " ++ e.text], w)
      | .ok .fifo => ({ s with stance := .blocked path }, w)
      | .ok .dir => (s.say ["cannot read " ++ path ++ ": " ++ IoError.directory.text], w)
      | .ok (.file d) => s.playClip d w
    | .hush =>
      match w.shared.command .stopPlayback with
      | (.ok (), sh) => (s, { w with shared := sh })
      | (.error e, sh) => (s.say ["hush failed: " ++ e.message], { w with shared := sh })
    | .stats => (s.say (statsLines w), w)
    | .text t =>
      match w.shared.sendText t with
      | (.ok (), sh) => (s, { w with shared := sh })
      | (.error e, sh) => (s.say ["not sent: " ++ e.message], { w with shared := sh })

/-- Send a finished recording made by `record` as one binary message. -/
def sendRecording (s : Session) (r : Audio.Recording) (w : Stage) : Session × Stage :=
  match r.toWav with
  | .error (.error e) => (s.say ["could not encode recording: " ++ e.message], w)
  | .error (.fault f) => (s.say ["could not encode recording: " ++ f.message], w)
  | .ok wav =>
    match w.shared.sendBinary wav with
    | (.ok (), sh) => (s, { w with shared := sh })
    | (.error e, sh) => (s.say ["could not queue recording: " ++ e.message], { w with shared := sh })

/-- Take the answer `a` the console waited for; `h` is the kind of capture it asked to
start, if it asked to start one. A recording made by `record` is sent once it stops; the
capture's kind is forgotten at every stop that succeeds. -/
def resume (s : Session) (h : Option Held) (a : Client.Answer) (w : Stage) : Session × Stage :=
  let s := { s with stance := .reading }
  match a, h with
  | .started (.ok ()), some h =>
    ({ s.say ["capturing (" ++ h.name ++ "); `stop` to finish"] with held := some h }, w)
  | .started (.ok ()), none => (s, w)
  | .started (.error e), _ => (s.say ["capture failed: " ++ e.message], w)
  | .stopped (.error e), _ => (s.say ["stop failed: " ++ e.message], w)
  | .stopped (.ok r), _ =>
    let s := s.say ["captured " ++ r.duration.fixed 1 ++ "s"]
    let wasRecord := s.held == some .record
    let s := { s with held := none }
    if wasRecord && !r.isEmpty then s.sendRecording r w else (s, w)

/-- The console, waiting for an answer, takes it if it has come. -/
def collect (s : Session) (w : Stage) : Option (Session × Stage) :=
  match s.stance with
  | .starting h k => (w.shared.answerOf k).map fun a => s.resume (some h) a w
  | .stopping k => (w.shared.answerOf k).map fun a => s.resume none a w
  | _ => none

/-- What a caller is told when the loop does not answer in time. -/
def lateAnswer : String := "service loop did not answer within 5s"

/-- The console's wait for an answer that will never come ends at its time limit. -/
def giveUpWaiting (s : Session) : Session :=
  match s.stance with
  | .starting .. => { s.say ["capture failed: " ++ lateAnswer] with stance := .reading }
  | .stopping _ => { s.say ["stop failed: " ++ lateAnswer] with stance := .reading }
  | _ => s

/-- Whether the console waits for an answer from the loop. -/
def awaiting (s : Session) : Bool :=
  match s.stance with
  | .starting .. | .stopping _ => true
  | _ => false

/-- Whether any line holds `needle`. -/
def holds (text needle : String) : Bool := (text.splitOn needle).length > 1 || needle.isEmpty

/-- Take the first line holding `needle` that no earlier wait took. -/
def take (s : Session) (needle : String) : Session :=
  let found := (List.range s.out.size).find? fun i =>
    !s.taken.contains i && holds (s.out.getD i default).text needle
  match found with
  | some i => { s with taken := s.taken ++ [i] }.report (.line (s.out.getD i default).text)
  | none => s.report (.timeout needle)

/-- Carry out an action from outside. `live` says the program still runs. -/
def act (s : Session) (live : Bool) (a : Action) (w : Stage) : Session × Stage :=
  match a with
  | .type line =>
    let s := if live && s.stance != .done && !s.ended then { s with input := s.input ++ inputLines line } else s
    (s.report .quiet, w)
  | .endInput => ({ s with ended := true }.report .quiet, w)
  | .waitFor needle => (s.take needle, w)
  | .waitServer => (s.report (.flag false), w)
  | .pause => (s.report .quiet, w)
  | .openPipe path =>
    if live && s.stance == .blocked path then ({ s with opened := s.opened ++ [path] }.report (.flag true), w)
    else (s.report (.flag false), w)
  | .writePipe path data =>
    if live && s.opened.contains path && s.stance == .blocked path then
      let s := { s with opened := s.opened.erase path, stance := .reading }.report (.flag true)
      s.playClip data w
    else (s.report (.flag false), w)
  | .touch path => (s.report .quiet, { w with conn := { w.conn with files := touchFile w.conn.files path } })

/-- After the last action: the pipes opened for writing are closed, then the input. A console
reading a pipe that was opened reads what was written: nothing. -/
def wrapUp (s : Session) (w : Stage) : Session × Stage :=
  let s := { s with ended := true }
  match s.stance with
  | .blocked p =>
    if s.opened.contains p then
      let s := { s with opened := [], stance := .reading }
      s.playClip [] w
    else ({ s with opened := [] }, w)
  | _ => ({ s with opened := [] }, w)

/-- Whether the console is stuck for good: reading a pipe nobody will write, with nothing
left to do. -/
def stuck (s : Session) : Bool :=
  s.actions.isEmpty && s.ended && match s.stance with
    | .blocked p => !s.opened.contains p
    | _ => false

/-- One move of the console while the loop runs, when it has one to make: take an answer,
read a line, stop at the end of input, or ask the loop to disconnect. -/
def move (s : Session) (w : Stage) : Option (Session × Stage) :=
  match s.collect w with
  | some r => some r
  | none =>
    if s.awaiting then some (s, w)
    else
      match s.stance, s.input with
      | .reading, l :: rest => some ({ s with input := rest }.readLine l w)
      | .reading, [] => if s.ended then some ({ s with stance := .done }, w) else none
      | .done, _ =>
        if s.hungUp then none
        else some ({ s with hungUp := true }, { w with shared := (w.shared.command .disconnect).2 })
      | _, _ => none

/-- A service call of the loop while the console runs: the printers write, the console makes
its move if it has one, else the peer reports what it has, else the next action is carried
out. A console stuck for good ends the program, as if it were killed. -/
def service (s : Session) (w : Stage) : Except Error (List Transport.LinkEvent) × Session × Stage :=
  let s := s.print w.shared
  match s.move w with
  | some (s, w) => (.ok [], s, w)
  | none =>
    if !w.conn.idle then
      let (r, conn) := w.conn.service
      (r, s, { w with conn })
    else
      match s.actions with
      | a :: rest =>
        let (s, w) := { s with actions := rest }.act true a w
        (.ok [], s, w)
      | [] =>
        if s.stuck then (.error (.other "killed"), { s with frozen := some w.conn.files }, w)
        else
          let (s, w) := s.wrapUp w
          (.ok [], s, w)

/-- The console once the loop has ended: the printers write what is left, a wait for an
answer runs out, and the next line read finds the client stopped, which ends the console. -/
def settle (s : Session) (w : Stage) : Session × Stage :=
  let s := s.print w.shared
  let (s, w) := match s.collect w with
    | some r => r
    | none => (s.giveUpWaiting, w)
  match s.stance, s.input with
  | .reading, _ :: _ => ({ s.say ["connection closed"] with stance := .done, input := [] }, w)
  | .reading, [] => (if s.ended then { s with stance := .done } else s, w)
  | _, _ => (s, w)

/-- The session after the loop has ended, with the actions left: the program lives on while
its console reads. -/
def afterLoop : List Action → Session → Stage → Session × Stage
  | [], s, w =>
    let (s, w) := s.settle w
    let (s, w) := s.wrapUp w
    s.settle w
  | a :: rest, s, w =>
    let (s, w) := s.settle w
    let (s, w) := s.act (s.stance != .done) a w
    afterLoop rest s w

/-- An action done once the program has exited, on the files `fs`. -/
def actGone (s : Session) (fs : Host.Files) (a : Action) : Session × Host.Files :=
  match a with
  | .waitFor needle => (s.take needle, fs)
  | .waitServer | .openPipe _ | .writePipe .. => (s.report (.flag false), fs)
  | .touch path => (s.report .quiet, touchFile fs path)
  | _ => (s.report .quiet, fs)

/-- The actions done once the program has exited. -/
def afterExit (s : Session) (fs : Host.Files) : List Action → Session × Host.Files
  | [] => (s, fs)
  | a :: rest =>
    let (s, fs) := s.actGone fs a
    afterExit s fs rest

end Session

end Talkback.App
