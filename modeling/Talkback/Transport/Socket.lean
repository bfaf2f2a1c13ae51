import Talkback.Dispatch.Message
import Talkback.Error
import Talkback.Transport.Auth
import Talkback.Transport.Link
import Talkback.Transport.Network
import Talkback.Transport.Target

/-!
The WebSocket connection of a client. Opening it checks the target (a URI with a host and the
`ws` scheme) and the credentials (a header value may hold no control character other than
tab), then reaches the far end at the target's address, which connects and shakes hands or
fails. A service call reports what was pending and, on an open socket, a writable slot asked
for; it then sends a keepalive ping when one is due, and a ping that fails closes the socket;
last it reads once, waiting the whole timeout only when there is nothing to report yet. A close
frame or a connection found closed closes the socket and is reported as the last event; any
other failed read drops the connection and the call fails with its text.

The far end's part in each call is an argument: its answer to the handshake, the clock and the
fate of a ping during a service call (`Poll`), and its answer to a sent frame. In the network of
`dial` no peer answers, so there the socket never opens (`connect`).
-/

namespace Talkback.Transport

/-- Settings of a WebSocket connection. -/
structure SocketConfig where
  url : String := "ws://127.0.0.1:8080/ws"
  connectTimeoutMs : Nat := 5000
  pingIntervalMs : Option Nat := none
  deriving DecidableEq, Repr, Inhabited

/-- The settings when inspected. -/
def SocketConfig.shape (c : SocketConfig) : Text.Shape :=
  .record "WsConfig" [("url", .str c.url), ("connect_timeout", .millis c.connectTimeoutMs),
    ("ping_interval", .option .millis c.pingIntervalMs)] false

/-- A character allowed in a header value. -/
def isHeaderChar (c : Char) : Bool := (c.toNat ≥ 32 && c.toNat != 127) || c = '\t'

/-- What one read of an open socket gives: a message; a control frame (a ping, a pong or a raw
frame, which the socket answers itself); the server's close frame; nothing before the wait ran
out; the connection found closed; or another failure, with its text. -/
inductive Reading where
  | text (s : String)
  | binary (data : List UInt8)
  | control
  | closeFrame
  | timedOut
  | gone
  | failed (message : String)
  deriving DecidableEq, Repr

/-- The far end as one service call meets it: the clock, in milliseconds; whether a keepalive
ping sent now goes out; and what a read gives within the wait it is handed, in milliseconds. -/
structure Poll where
  now : Nat
  pingSent : Bool := true
  read : Nat → Reading

/-- The far end in the network of `dial`: no socket opens there to meet it, and a read would
find nothing. -/
def Poll.silent : Poll := { now := 0, read := fun _ => .timedOut }

/-- A WebSocket connection and what it has to report: whether it is open, the events waiting for
the next service call, whether a writable slot was asked for, and when the last keepalive ping
went out (or the socket opened), in milliseconds. -/
structure Socket where
  config : SocketConfig := {}
  open_ : Bool := false
  pending : List LinkEvent := []
  writableRequested : Bool := false
  lastPing : Nat := 0
  deriving Inhabited

namespace Socket

/-- A closed socket with the given settings, made at time `now`. -/
def new (config : SocketConfig) (now : Nat) : Socket := { config, lastPing := now }

/-- Whether the socket is open. -/
def isOpen (s : Socket) : Bool := s.open_

/-- The socket once a connection opened at time `now`: it has a `connected` event to report. -/
def opened (s : Socket) (now : Nat) : Socket :=
  { s with open_ := true, lastPing := now, pending := s.pending ++ [.connected] }

/-- Open the socket with the given credentials at time `now`, `reach` giving the far end's
answer to a connection and handshake at an address; opening an open socket does nothing. -/
def connectTo (s : Socket) (auth : Auth) (reach : String → Except Error Unit) (now : Nat) :
    Socket × Except Error Unit :=
  if s.open_ then (s, .ok ())
  else
    match Target.request s.config.url with
    | .error e => (s, .error (.transport ("invalid url " ++ s.config.url ++ ": " ++ e.message)))
    | .ok t =>
      if t.scheme ≠ some "ws" then
        (s, .error (.transport ("unsupported scheme in " ++ s.config.url ++
          " (only ws:// is supported)")))
      else if (auth.header.map fun h => h.toList.all isHeaderChar) = some false then
        (s, .error (.transport "invalid auth header: failed to parse header value"))
      else
        match reach t.authority with
        | .error e => (s, .error e)
        | .ok () => (s.opened now, .ok ())

/-- Open the socket with the given credentials in the network of `dial`. -/
def connect (s : Socket) (auth : Auth) : Socket × Except Error Unit :=
  s.connectTo auth (fun address => (dial address).mapError .io) 0

/-- Ask to be told when a message can be sent. -/
def requestWritable (s : Socket) : Socket := { s with writableRequested := true }

/-- Whether a keepalive ping is due at `now`: keepalive is on and its interval has passed since
the last ping. -/
def pingDue (s : Socket) (now : Nat) : Bool :=
  match s.config.pingIntervalMs with
  | none => false
  | some interval => decide (interval ≤ now - s.lastPing)

/-- Drop the connection, forgetting a writable slot asked for. -/
def markClosed (s : Socket) : Socket := { s with open_ := false, writableRequested := false }

/-- What one read adds to the events of an open socket. -/
def afterRead (s : Socket) (events : List LinkEvent) :
    Reading → Socket × Except Error (List LinkEvent)
  | .text t => (s, .ok (events ++ [.received (.text t)]))
  | .binary d => (s, .ok (events ++ [.received (.binary d)]))
  | .closeFrame | .gone => (s.markClosed, .ok (events ++ [.closed]))
  | .control | .timedOut => (s, .ok events)
  | .failed m => ({ s with open_ := false }, .error (.transport m))

/-- Service an open socket whose pending events were `events`: add a writable slot asked for,
then ping if one is due and read once, waiting `timeoutMs` (at least a millisecond) when there
is nothing to report and a millisecond otherwise. -/
def serviceOpen (s : Socket) (events : List LinkEvent) (timeoutMs : Nat) (poll : Poll) :
    Socket × Except Error (List LinkEvent) :=
  let events := if s.writableRequested then events ++ [.writable] else events
  let due := s.pingDue poll.now
  let s := { s with writableRequested := false, lastPing := if due then poll.now else s.lastPing }
  if due && !poll.pingSent then (s.markClosed, .ok (events ++ [.closed]))
  -- the wait handed to the socket is never zero, so setting it as the read timeout cannot fail
  else s.afterRead events (poll.read (max (if events.isEmpty then timeoutMs else 1) 1))

/-- Service the socket for at most `timeoutMs`, meeting the far end `poll`: a closed socket
reports only what was pending. -/
def service (s : Socket) (timeoutMs : Nat) (poll : Poll) :
    Socket × Except Error (List LinkEvent) :=
  if s.open_ then { s with pending := [] }.serviceOpen s.pending timeoutMs poll
  else ({ s with pending := [] }, .ok s.pending)

/-- Send a message, `deliver` giving the far end's answer to its frame. -/
def send (s : Socket) (m : Dispatch.Message) (deliver : Dispatch.Message → Except String Unit) :
    Except Error Unit :=
  if s.open_ then (deliver m).mapError fun e => .transport ("send failed: " ++ e)
  else .error (.transport "websocket is not connected")

/-- Close the socket and forget what it had to report. -/
def close (s : Socket) : Socket := { s with open_ := false, pending := [], writableRequested := false }

end Socket

end Talkback.Transport
