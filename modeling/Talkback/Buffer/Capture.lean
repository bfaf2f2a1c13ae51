import Talkback.Audio.Format
import Talkback.Text.Shape

/-!
The record of a capture: frames are appended while they fit, a frame that does not fit is
dropped whole and counted, and recording goes on, so a later, smaller frame can still go in.
Taking the record empties it and clears the count.
-/

namespace Talkback.Buffer

/-- Captured bytes, the most the record may hold, and the bytes dropped since it was last
emptied. -/
structure Capture where
  data : List UInt8
  capacity : Nat
  dropped : Nat
  deriving DecidableEq, Repr, Inhabited

namespace Capture

/-- An empty record of at most `n` bytes. -/
def create (n : Nat) : Capture := ⟨[], n, 0⟩

/-- An empty record of `secs` seconds of audio in format `f`; the size is a machine word. -/
def forDuration (f : Audio.Format) (secs : Nat) : Except Fault Capture :=
  create <$> mulChecked wordBits f.bytesPerSecond secs

/-- Append `frame` if it fits whole; otherwise count it as dropped. Says whether it went in. -/
def append (c : Capture) (frame : List UInt8) : Bool × Capture :=
  if c.data.length + frame.length > c.capacity then (false, { c with dropped := c.dropped + frame.length })
  else (true, { c with data := c.data ++ frame })

/-- The captured bytes, leaving the record empty. -/
def take (c : Capture) : List UInt8 × Capture := (c.data, { c with data := [], dropped := 0 })

/-- Empty the record. -/
def clear (c : Capture) : Capture := { c with data := [], dropped := 0 }

/-- The record when inspected. -/
def shape (c : Capture) : Text.Shape :=
  .record "CaptureBuffer" [("data", .bytes c.data), ("capacity", .nat c.capacity),
    ("dropped_bytes", .nat c.dropped)] false

end Capture

end Talkback.Buffer
