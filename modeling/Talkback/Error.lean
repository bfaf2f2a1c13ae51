import Talkback.Fault
import Talkback.Text.Shape

/-!
The library's errors, one constructor per cause, with the sentence each one shows and the
category a caller can branch on.

Host input/output failures keep the kind the host gave them and the text it printed; an
error raised by the operating system prints its description and code, one raised by the
library prints its own words.
-/

namespace Talkback

/-- Kinds of host input/output failure that the library meets or reports. -/
inductive IoKind where
  | notFound
  | permissionDenied
  | connectionRefused
  | connectionReset
  | brokenPipe
  | alreadyExists
  | wouldBlock
  | timedOut
  | interrupted
  | unexpectedEof
  | notADirectory
  | isADirectory
  | networkUnreachable
  | other
  deriving DecidableEq, Repr, Inhabited

namespace IoKind

/-- The kind's name as the host spells it. -/
def name : IoKind → String
  | .notFound => "NotFound"
  | .permissionDenied => "PermissionDenied"
  | .connectionRefused => "ConnectionRefused"
  | .connectionReset => "ConnectionReset"
  | .brokenPipe => "BrokenPipe"
  | .alreadyExists => "AlreadyExists"
  | .wouldBlock => "WouldBlock"
  | .timedOut => "TimedOut"
  | .interrupted => "Interrupted"
  | .unexpectedEof => "UnexpectedEof"
  | .notADirectory => "NotADirectory"
  | .isADirectory => "IsADirectory"
  | .networkUnreachable => "NetworkUnreachable"
  | .other => "Other"

end IoKind

/-- A host input/output failure: its kind and the text it displays. -/
structure IoError where
  kind : IoKind
  text : String
  deriving DecidableEq, Repr, Inhabited

namespace IoError

/-- A failure raised by the operating system, shown as its description and error code. -/
def os (kind : IoKind) (description : String) (code : Nat) : IoError :=
  ⟨kind, description ++ " (os error " ++ toString code ++ ")"⟩

/-- The network refused to route a connection. -/
def unreachable : IoError := os .networkUnreachable "Network is unreachable" 101

/-- A path names no file. -/
def missing : IoError := os .notFound "No such file or directory" 2

/-- A path names a directory where a file was wanted. -/
def directory : IoError := os .isADirectory "Is a directory" 21

/-- A path passes through a file where a directory was wanted. -/
def notDirectory : IoError := os .notADirectory "Not a directory" 20

/-- A path to be created already names something. -/
def occupied : IoError := os .alreadyExists "File exists" 17

end IoError

/-- Everything the library reports as a failure it recovers from. -/
inductive Error where
  | audioDevice (detail : String)
  | audioStream (detail : String)
  | noDefaultInputDevice
  | noDefaultOutputDevice
  | queueFull (capacity : Nat)
  | queueClosed
  | ringClosed
  | chunkTooLarge (len capacity : Nat)
  | sessionActive
  | sessionInactive
  | captureActive
  | captureInactive
  | alreadyRunning
  | notRunning
  | transport (detail : String)
  | format (detail : String)
  | io (cause : IoError)
  | other (text : String)
  deriving DecidableEq, Repr, Inhabited

/-- Coarse classes of errors, for callers that retry, report or give up. -/
inductive Category where
  | capacity
  | format
  | transport
  | shutdown
  | device
  | state
  | other
  deriving DecidableEq, Repr, Inhabited

namespace Error

/-- The sentence an error shows. -/
def message : Error → String
  | .audioDevice s => "audio device error: " ++ s
  | .audioStream s => "audio stream error: " ++ s
  | .noDefaultInputDevice => "no default input device found"
  | .noDefaultOutputDevice => "no default output device found"
  | .queueFull c => "outbound queue is full (" ++ toString c ++ " messages)"
  | .queueClosed => "outbound queue is shut down"
  | .ringClosed => "ring buffer is shut down"
  | .chunkTooLarge l c =>
    "chunk of " ++ toString l ++ " bytes exceeds buffer capacity " ++ toString c
  | .sessionActive => "upload session is already active"
  | .sessionInactive => "no active upload session"
  | .captureActive => "capture is already running"
  | .captureInactive => "capture is not running"
  | .alreadyRunning => "client is already running"
  | .notRunning => "client is not running"
  | .transport s => "transport error: " ++ s
  | .format s => "format error: " ++ s
  | .io e => "IO error: " ++ e.text
  | .other s => s

/-- The class an error belongs to. -/
def category : Error → Category
  | .queueFull _ | .chunkTooLarge _ _ => .capacity
  | .format _ => .format
  | .transport _ | .io _ => .transport
  | .queueClosed | .ringClosed => .shutdown
  | .audioDevice _ | .audioStream _ | .noDefaultInputDevice | .noDefaultOutputDevice => .device
  | .sessionActive | .sessionInactive | .captureActive | .captureInactive
  | .alreadyRunning | .notRunning => .state
  | .other _ => .other

/-- A host failure when inspected: one raised by the operating system shows its code, kind
and description; any other its kind and text. -/
def ioShape (e : IoError) : Text.Shape :=
  let marker := " (os error "
  match e.text.splitOn marker with
  | [desc, code] =>
    .record "Os" [("code", .atom (code.dropEnd 1).toString), ("kind", .atom e.kind.name),
      ("message", .str desc)] false
  | _ => .record "Custom" [("kind", .atom e.kind.name), ("error", .str e.text)] false

/-- The error when inspected. -/
def shape : Error → Text.Shape
  | .audioDevice s => .tuple "AudioDevice" [.str s]
  | .audioStream s => .tuple "AudioStream" [.str s]
  | .noDefaultInputDevice => .atom "NoDefaultInputDevice"
  | .noDefaultOutputDevice => .atom "NoDefaultOutputDevice"
  | .queueFull c => .record "QueueFull" [("capacity", .nat c)] false
  | .queueClosed => .atom "QueueClosed"
  | .ringClosed => .atom "RingBufferClosed"
  | .chunkTooLarge l c => .record "ChunkTooLarge" [("len", .nat l), ("capacity", .nat c)] false
  | .sessionActive => .atom "SessionActive"
  | .sessionInactive => .atom "SessionInactive"
  | .captureActive => .atom "CaptureActive"
  | .captureInactive => .atom "CaptureInactive"
  | .alreadyRunning => .atom "AlreadyRunning"
  | .notRunning => .atom "NotRunning"
  | .transport s => .tuple "Transport" [.str s]
  | .format s => .tuple "Format" [.str s]
  | .io e => .tuple "Io" [ioShape e]
  | .other s => .tuple "Other" [.atom s]

/-- The texts of the errors underneath this one, outermost first. -/
def causes : Error → List String
  | .io e => [e.text]
  | _ => []

end Error

/-- A request either fails with a library error or is stopped by a fault. -/
inductive Failure where
  | error (e : Error)
  | fault (f : Fault)
  deriving DecidableEq, Repr, Inhabited

/-- Results that may fail with an error or stop on a fault. -/
abbrev Checked (α : Type) := Except Failure α

/-- Lift a fault-only computation. -/
def Checked.ofFault {α : Type} : Except Fault α → Checked α
  | .ok a => .ok a
  | .error f => .error (.fault f)

/-- Lift an error-only computation. -/
def Checked.ofError {α : Type} : Except Error α → Checked α
  | .ok a => .ok a
  | .error e => .error (.error e)

end Talkback
