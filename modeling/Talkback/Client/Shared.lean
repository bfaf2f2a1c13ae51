import Talkback.Audio.Recording
import Talkback.Buffer.Capture
import Talkback.Client.Config
import Talkback.Client.Diagnostics
import Talkback.Dispatch.Queue
import Talkback.Event

/-!
What a voice client shares between the callers holding it and the loop serving its
connection: the outbound queue and the flag asking for a writable slot, the capture record,
whether a loop runs and the status it reports, the event sequence counter, the counters, the
control requests not yet taken, the answers given to callers, and the events published.

Callers queue messages at any time; a message queued counts and asks for a writable slot, a
refused one counts as a rejection. Control requests need a running loop. Beginning a loop
fails if one runs; otherwise it drops the requests left from before (their callers are told
no loop runs), clears the counters and reports that it is connecting.
-/

namespace Talkback.Client

/-- A control request the loop has not yet taken. Capture requests carry the number of the
caller waiting for the answer. -/
inductive Request where
  | startCapture (mode : CaptureMode) (caller : Nat)
  | stopCapture (caller : Nat)
  | playClip (audio : List UInt8)
  | stopPlayback
  | disconnect
  deriving DecidableEq, Repr, Inhabited

/-- The answer a caller waits for. -/
inductive Answer where
  | started (r : Except Error Unit)
  | stopped (r : Except Error Audio.Recording)
  deriving Repr

/-- The answer to a capture request that is dropped, if it has a caller. -/
def Request.dropped : Request → Option (Nat × Answer)
  | .startCapture _ c => some (c, .started (.error .notRunning))
  | .stopCapture c => some (c, .stopped (.error .notRunning))
  | _ => none

/-- The state a client shares with its loop, and everything it has published. -/
structure Shared where
  config : Config
  queue : Dispatch.Queue
  writeWanted : Bool := false
  capture : Buffer.Capture
  running : Bool := false
  status : Status := .idle
  seq : Nat := 0
  diag : Diagnostics := {}
  requests : List Request := []
  answers : List (Nat × Answer) := []
  messages : List ServerMessage := []
  statuses : List StatusEvent := []
  uploads : List UploadEvent := []
  activity : List ActivityEvent := []

namespace Shared

/-- A client with settings `config`; the capture record holds `maxRecordingSecs` seconds,
a size that must fit in a machine word. -/
def create (config : Config) : Except Fault Shared := do
  let capture ← Buffer.Capture.forDuration config.format config.maxRecordingSecs
  return { config, queue := Dispatch.Queue.create config.queueCapacity, capture }

/-- Change the status and publish the change. -/
def publish (s : Shared) (st : Status) (detail : Option String) : Shared :=
  { s with status := st, statuses := s.statuses ++ [⟨st, detail⟩] }

/-- Publish device activity with the next sequence number. -/
def emitActivity (s : Shared) (k : ActivityKind) : Shared :=
  { s with activity := s.activity ++ [⟨s.seq, k⟩], seq := s.seq + 1 }

/-- Publish the end of an upload with the next sequence number. -/
def emitUpload (s : Shared) (id : String) (o : UploadOutcome) : Shared :=
  { s with uploads := s.uploads ++ [⟨s.seq, id, o⟩], seq := s.seq + 1 }

/-- Publish a text from the server with the next sequence number. -/
def emitMessage (s : Shared) (text : String) : Shared :=
  { s with messages := s.messages ++ [⟨s.seq, text⟩], seq := s.seq + 1 }

/-- Queue a message, counting it either way. -/
def enqueue (s : Shared) (m : Dispatch.Message) : Except Error Unit × Shared :=
  match s.queue.push m with
  | .ok q =>
    (.ok (), { s with queue := q, writeWanted := true,
                      diag := { s.diag with messagesEnqueued := s.diag.messagesEnqueued + 1 } })
  | .error e =>
    (.error e, { s with diag := { s.diag with queueRejections := s.diag.queueRejections + 1 } })

/-- Queue a text message. -/
def sendText (s : Shared) (t : String) : Except Error Unit × Shared := s.enqueue (.text t)

/-- Queue a binary message. -/
def sendBinary (s : Shared) (d : List UInt8) : Except Error Unit × Shared := s.enqueue (.binary d)

/-- Hand a control request to the loop, if one runs. -/
def command (s : Shared) (r : Request) : Except Error Unit × Shared :=
  if s.running then (.ok (), { s with requests := s.requests ++ [r] })
  else (.error .notRunning, s)

/-- Stop the loop at its next turn and shut the queue. -/
def shutdown (s : Shared) : Shared := { s with running := false, queue := s.queue.close }

/-- The number of messages waiting to be sent. -/
def pending (s : Shared) : Nat := s.queue.size

/-- Begin serving a connection. -/
def begin (s : Shared) : Except Error Shared :=
  if s.running then .error .alreadyRunning
  else
    let s := { s with running := true, requests := [],
                      answers := s.answers ++ s.requests.filterMap Request.dropped, diag := {} }
    .ok (s.publish .connecting none)

/-- Give up on a connection that could not be opened. -/
def fail (s : Shared) (e : Error) : Shared :=
  { s with running := false }.publish .error (some e.message)

/-- Mark the loop as ended. -/
def finish (s : Shared) : Shared := { s with running := false }.publish .closed none

/-- The answer given to caller `c`, if any. -/
def answerOf (s : Shared) (c : Nat) : Option Answer := (s.answers.find? (·.1 = c)).map (·.2)

end Shared

end Talkback.Client
