import Talkback.Client.Loop
import Talkback.Upload.Scripted

/-!
Starting a client in the background: the caller begins the client, a worker opens the device
and the connection and serves it, and the caller waits only for the opening. The start fails
with the opening's error, or when the worker dies before it answers; the client is then
marked as failed. A second start while the first one's loop runs is refused.

The connection modelled here opens, stays quiet until it is released, then closes.
-/

namespace Talkback.Client

/-- How the worker's opening ends. -/
inductive Opening where
  /-- The device and the connection were opened; opening the connection may have failed. -/
  | opened (connectFailure : Option String)
  /-- Opening the device failed. -/
  | refused (e : Error)
  /-- The worker died before answering. -/
  | died
  deriving DecidableEq, Repr, Inhabited

/-- The error a start reports for an opening, if any. -/
def Opening.failure : Opening → Option Error
  | .opened none => none
  | .opened (some m) => some (.transport m)
  | .refused e => some e
  | .died => some (.other "service task died unexpectedly")

namespace Shared

/-- Start in the background: begin, then wait for the opening. -/
def launch (s : Shared) (o : Opening) : Except Error Unit × Shared :=
  match s.begin with
  | .error e => (.error e, s)
  | .ok s =>
    match o.failure with
    | some e => (.error e, s.fail e)
    | none => (.ok (), s)

end Shared

/-- The link of a connection that accepts everything. -/
def quietLink : Link Unit where
  requestWritable := id
  send _ t := (.ok (), t)
  close t := (.ok (), t)

/-- What happens after a start, at the service calls of its loop: the first reports the
connection open; at the second the caller may start again, and the connection is released
and closes. -/
def quietService (again : Bool) (calls : Nat × Option (Except Error Unit))
    (w : World Unit Upload.Scripted) :
    Except Error (List Transport.LinkEvent) × (Nat × Option (Except Error Unit)) × World Unit Upload.Scripted :=
  match calls.1 with
  | 0 => (.ok [.connected], (1, calls.2), w)
  | n + 1 =>
    if again then
      let (r, sh) := w.shared.launch (.opened none)
      (.ok [.closed], (n + 2, some r), { w with shared := sh })
    else (.ok [.closed], (n + 2, calls.2), w)

/-- Serve a started client until its connection is released. -/
def serveQuiet (again : Bool) (s : Shared) : Option (Except Error Unit) × Shared :=
  let w : World Unit Upload.Scripted := { shared := s, device := {}, conn := (), peer := {} }
  let ((_, second), w) := serve quietLink (Upload.Scripted.connector "") (quietService again) 3 (0, none) w
  (second, w.shared)

/-- Start a client, `first` being how its opening ends; with `again`, start it once more
while it runs, or after it failed. Gives both starts' results and the client at the end. -/
def startTwice (config : Config) (first : Opening) (again : Bool) :
    Except Fault (Except Error Unit × Option (Except Error Unit) × Shared) := do
  let s ← Shared.create config
  match s.launch first with
  | (.ok (), s) =>
    let (second, s) := serveQuiet again s
    return (.ok (), second, s)
  | (.error e, s) =>
    if again then
      match s.launch (.opened none) with
      | (.ok (), s) => return (.error e, some (.ok ()), (serveQuiet false s).2)
      | (r, s) => return (.error e, some r, s)
    else return (.error e, none, s)

end Talkback.Client
