import Talkback.Text.Shape

/-!
What a connection reports to the loop that services it: that it opened, that it can take a
message, a message that arrived (text or bytes), or that it closed.
-/

namespace Talkback.Transport

/-- A message from the server. -/
inductive Inbound where
  | text (s : String)
  | binary (data : List UInt8)
  deriving DecidableEq, Repr, Inhabited

/-- One report of a connection. -/
inductive LinkEvent where
  | connected
  | writable
  | received (m : Inbound)
  | closed
  deriving DecidableEq, Repr, Inhabited

/-- The message when inspected. -/
def Inbound.shape : Inbound → Text.Shape
  | .text s => .tuple "Text" [.str s]
  | .binary d => .tuple "Binary" [.bytes d]

/-- The report when inspected. -/
def LinkEvent.shape : LinkEvent → Text.Shape
  | .connected => .atom "Connected"
  | .writable => .atom "Writable"
  | .received m => .tuple "Received" [m.shape]
  | .closed => .atom "Closed"

end Talkback.Transport
