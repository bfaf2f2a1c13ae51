import Talkback.Dispatch.Message
import Talkback.Error

/-!
The connection a client services, as a script drives it.

Opening it records the credentials and either fails as told or makes the next service call
report that it is connected. Asking for a writable slot is counted, and when slots are
granted by themselves the next service call reports one. Sending records the message, or
fails as told; closing is counted, and may fail as told. The counters and the failure switches
outlive a connection; what is due to be reported belongs to one connection.
-/

namespace Talkback.Client

/-- A scripted connection. -/
structure Connection where
  auth : Option String := none
  connects : Nat := 0
  closes : Nat := 0
  writableRequests : Nat := 0
  sent : List Dispatch.Message := []
  sendError : Option String := none
  closeError : Option String := none
  connectedDue : Bool := false
  writableDue : Bool := false
  autoWritable : Bool := true
  deriving DecidableEq, Repr, Inhabited

namespace Connection

/-- A fresh connection over the same counters and switches. -/
def renew (c : Connection) (autoWritable : Bool) : Connection :=
  { c with connectedDue := false, writableDue := false, autoWritable }

/-- Open with the `Authorization` header value `header`; `failure` makes it fail. -/
def connect (c : Connection) (header : Option String) (failure : Option String) :
    Connection × Except Error Unit :=
  let c := { c with auth := header, connects := c.connects + 1 }
  match failure with
  | some e => (c, .error (.transport e))
  | none => ({ c with connectedDue := true }, .ok ())

/-- Ask for a writable slot. -/
def requestWritable (c : Connection) : Connection :=
  { c with writableRequests := c.writableRequests + 1,
           writableDue := c.writableDue || c.autoWritable }

/-- Send a message. -/
def send (c : Connection) (m : Dispatch.Message) : Connection × Except Error Unit :=
  match c.sendError with
  | some e => (c, .error (.transport e))
  | none => ({ c with sent := c.sent ++ [m] }, .ok ())

/-- Close. -/
def close (c : Connection) : Connection × Except Error Unit :=
  ({ c with closes := c.closes + 1 },
    match c.closeError with
    | some e => .error (.transport e)
    | none => .ok ())

end Connection

end Talkback.Client
