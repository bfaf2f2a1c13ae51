import Talkback.Text.Shape

/-!
Messages waiting to go out on the connection: a text or a binary payload. A payload of at
most `inlineLimit` bytes is kept inline, a longer one apart; this shows only when a message
is inspected.
-/

namespace Talkback.Dispatch

/-- The two kinds of message a connection carries. -/
inductive Kind where
  | text
  | binary
  deriving DecidableEq, Repr, Inhabited

/-- A message waiting to be sent. -/
inductive Message where
  | text (s : String)
  | binary (data : List UInt8)
  deriving DecidableEq, Repr, Inhabited

namespace Message

/-- The longest payload kept inline. -/
def inlineLimit : Nat := 1024

/-- The message's kind. -/
def kind : Message → Kind
  | .text _ => .text
  | .binary _ => .binary

/-- The payload's bytes. -/
def bytes : Message → List UInt8
  | .text s => s.toUTF8.toList
  | .binary d => d

/-- The payload's length in bytes. -/
def size (m : Message) : Nat := m.bytes.length

/-- Whether the payload is kept inline. -/
def isInline (m : Message) : Bool := m.size ≤ inlineLimit

/-- The text of a text message. -/
def text? : Message → Option String
  | .text s => some s
  | .binary _ => none

/-- The message when inspected. -/
def shape (m : Message) : Text.Shape :=
  .record "QueuedMessage" [("kind", .atom (match m.kind with | .text => "Text" | .binary => "Binary")),
    ("len", .nat m.size), ("inline", .bool m.isInline)] false

end Message

end Talkback.Dispatch
