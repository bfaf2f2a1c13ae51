import Talkback.Upload.Session

/-!
A peer held in memory, for uploads that run without a network.

Every connection answers reads from the same script: each read gives as many bytes of the
current item as asked for and are left, moving on when the item is used up; a failure item
fails one read and is dropped; after the last item the stream has ended. Writes from every
connection go to one wire. Connecting can be made to fail, and so can every write or flush; a
write can also be made to stop the thread that makes it.
-/

namespace Talkback.Upload

/-- An item of a read script. -/
inductive ReadItem where
  | bytes (data : List UInt8)
  | failure (e : IoError)
  deriving DecidableEq, Repr, Inhabited

/-- The bytes an item of a read script holds; a failure holds none. -/
def ReadItem.length : ReadItem → Nat
  | .bytes d => d.length
  | .failure _ => 0

/-- The reads a script can answer at most before its end: one per item and one per byte. -/
def scriptWorth (items : List ReadItem) : Nat :=
  items.foldl (fun acc item => acc + 1 + item.length) 0

/-- The answer a server gives to an upload when nothing else is scripted. -/
def defaultReply : List ReadItem :=
  [.bytes "HTTP/1.1 200 OK\r\nContent-Length: 2\r\n\r\nok".toUTF8.toList]

/-- A peer in memory: the script for new connections, the reads left on the open one, the
bytes written, the switches that make operations fail (a write may also stop the thread that
makes it), the connection attempts made and the writes that stopped their thread. -/
structure Scripted where
  script : List ReadItem := defaultReply
  pending : List ReadItem := []
  wire : List UInt8 := []
  refuse : Bool := false
  failWrites : Bool := false
  failFlush : Bool := false
  haltWrites : Bool := false
  connects : Nat := 0
  halted : Nat := 0
  deriving DecidableEq, Repr, Inhabited

namespace Scripted

/-- Read at most `n` bytes from the script. -/
def readFrom (n : Nat) : List ReadItem → Except IoError (List UInt8) × List ReadItem
  | [] => (.ok [], [])
  | .failure e :: rest => (.error e, rest)
  | .bytes d :: rest =>
    let left := d.drop n
    (.ok (d.take n), if left.isEmpty then rest else .bytes left :: rest)

/-- The peer as a connector whose `Host` header is `host`. -/
def connector (host : String) : Connector Scripted where
  host := host
  connect := do
    let p ← get
    if p.refuse then
      set { p with connects := p.connects + 1 }
      throw ⟨.connectionRefused, "refused"⟩
    set { p with connects := p.connects + 1, pending := p.script }
  write data := do
    let p ← get
    if p.haltWrites then
      set { p with halted := p.halted + 1 }
      throw ⟨.other, "upload stream panicked"⟩
    if p.failWrites then throw ⟨.brokenPipe, "peer gone"⟩
    set { p with wire := p.wire ++ data }
  flush := do
    if (← get).failFlush then throw ⟨.brokenPipe, "flush failed"⟩
  read n := do
    let p ← get
    let (r, rest) := readFrom n p.pending
    set { p with pending := rest }
    liftExcept r
  patience p := scriptWorth p.pending
  halts p := p.halted

end Scripted

end Talkback.Upload
