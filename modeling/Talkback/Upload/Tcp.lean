import Talkback.Transport.Network
import Talkback.Upload.Session

/-!
Uploads over TCP to a host and port, with a bound on the time to connect and on each wait
for the answer. The `Host` header names host and port.
-/

namespace Talkback.Upload

/-- Where and how patiently to connect. -/
structure TcpTarget where
  host : String
  port : Nat
  connectTimeoutMs : Nat := 5000
  readTimeoutMs : Nat := 10000
  deriving DecidableEq, Repr, Inhabited

namespace TcpTarget

/-- The `Host` header value. -/
def hostHeader (t : TcpTarget) : String := t.host ++ ":" ++ toString t.port

/-- The target when inspected. -/
def shape (t : TcpTarget) : Text.Shape :=
  .record "TcpConnector" [("host", .str t.host), ("port", .nat t.port),
    ("connect_timeout", .millis t.connectTimeoutMs), ("read_timeout", .millis t.readTimeoutMs)] false

/-- The target as a connector; a connection is open only once dialing succeeds. -/
def connector (t : TcpTarget) : Connector Unit where
  host := t.hostHeader
  connect := liftExcept (Transport.dial t.hostHeader)
  write _ := pure ()
  flush := pure ()
  read _ := pure []
  patience _ := 0

end TcpTarget

end Talkback.Upload
