import Talkback.Error
import Talkback.Monitor
import Talkback.Text.Shape

/-!
A bounded ring of bytes between a producer and a consumer that run at their own pace.

The bytes live in a fixed array of `capacity` cells: the unread ones are the `used` cells
starting at `readPos`, going round the end of the array, and new bytes go in at `writePos`.
`contents` reads them out in order; it is the view every operation is described by.

Putting waits until the whole chunk fits and taking waits until enough bytes are there; a
chunk longer than the capacity could never fit and is refused at once, even after shutdown.
Shutdown is a one-way latch: it drops the bytes and the array, and every waiter, and every
later call, is told the ring is shut down. The blocking calls are given as a monitor: a put
wakes one thread waiting for data, a take wakes one thread waiting for room.
-/

namespace Talkback.Buffer

/-- A ring of bytes. -/
structure Ring where
  capacity : Nat
  storage : Array UInt8
  readPos : Nat
  writePos : Nat
  used : Nat
  active : Bool
  deriving DecidableEq, Repr

namespace Ring

/-- An empty ring of `n` cells; a ring has at least one. -/
def create (n : Nat) : Ring :=
  let c := max 1 n
  ⟨c, Array.replicate c 0, 0, 0, 0, true⟩

/-- Cells not holding unread bytes. -/
def free (r : Ring) : Nat := r.storage.size - r.used

/-- Write `data` into the cells from `p` on, going round after `cap` cells. -/
def fill (cap : Nat) : Array UInt8 → Nat → List UInt8 → Array UInt8
  | s, _, [] => s
  | s, p, b :: bs => fill cap (s.setIfInBounds p b) ((p + 1) % cap) bs

/-- The `n` bytes in the cells from `p` on, going round after `cap` cells. -/
def peek (s : Array UInt8) (cap : Nat) : Nat → Nat → List UInt8
  | _, 0 => []
  | p, n + 1 => s.getD p 0 :: peek s cap ((p + 1) % cap) n

/-- The unread bytes, oldest first. -/
def contents (r : Ring) : List UInt8 := peek r.storage r.storage.size r.readPos r.used

/-- Append `data`, which must fit in the free cells. -/
def write (r : Ring) (data : List UInt8) : Ring :=
  let cap := r.storage.size
  { r with storage := fill cap r.storage r.writePos data,
           writePos := (r.writePos + data.length) % cap,
           used := r.used + data.length }

/-- Take the `n` oldest bytes, of which there must be that many. -/
def read (r : Ring) (n : Nat) : List UInt8 × Ring :=
  let cap := r.storage.size
  (peek r.storage cap r.readPos n,
    { r with readPos := (r.readPos + n) % cap, used := r.used - n })

/-- Shut the ring: no bytes, no cells, and no more traffic. -/
def close (r : Ring) : Ring := { r with active := false, used := 0, storage := #[] }

/-- A chunk of `len` bytes can ever fit. -/
def check (r : Ring) (len : Nat) : Except Error Unit :=
  if len > r.capacity then .error (.chunkTooLarge len r.capacity) else .ok ()

/-- What a thread waits for. -/
inductive Condition where
  | room
  | data
  deriving DecidableEq, Repr

instance : BEq Condition := instBEqOfDecidableEq

/-- The calls on a ring. A `timed` call has a deadline and says whether it succeeded. -/
inductive Call where
  | put (data : List UInt8) (timed : Bool)
  | get (n : Nat) (timed : Bool)
  | tryGet (n : Nat)
  | shutdown
  | inspect
  deriving DecidableEq, Repr

/-- The answer to a call. -/
inductive Reply where
  /-- Done, with nothing to say. -/
  | done
  /-- A timed put: whether the chunk went in. -/
  | accepted (ok : Bool)
  /-- A get: the bytes taken. -/
  | taken (data : List UInt8)
  /-- A timed or trying get: whether bytes were taken, and the buffer, zeros if not. -/
  | filled (ok : Bool) (data : List UInt8)
  deriving DecidableEq, Repr

/-- A call's turn while it holds the lock. -/
def turn : Call → Ring → Monitor.Turn Ring (Except Error Reply) Condition
  | .put data timed, r =>
    match r.check data.length with
    | .error e => .finish (.error e) r []
    | .ok () =>
      if !r.active then .finish (.error .ringClosed) r []
      else if data.length ≤ r.free then
        .finish (.ok (if timed then .accepted true else .done)) (r.write data) [.one .data]
      else .wait .room
  | .get n timed, r =>
    match r.check n with
    | .error e => .finish (.error e) r []
    | .ok () =>
      if !r.active then .finish (.error .ringClosed) r []
      else if n ≤ r.used then
        let (bytes, r') := r.read n
        .finish (.ok (if timed then .filled true bytes else .taken bytes)) r' [.one .room]
      else .wait .data
  | .tryGet n, r =>
    match r.check n with
    | .error e => .finish (.error e) r []
    | .ok () =>
      if !r.active then .finish (.error .ringClosed) r []
      else if n ≤ r.used then
        let (bytes, r') := r.read n
        .finish (.ok (.filled true bytes)) r' [.one .room]
      else .finish (.ok (.filled false (List.replicate n 0))) r []
  | .shutdown, r =>
    if r.active then .finish (.ok .done) r.close [.all .room, .all .data]
    else .finish (.ok .done) r []
  | .inspect, r => .finish (.ok .done) r []

/-- The answer of a call whose deadline passed with no room or data. -/
def lapse : Call → Except Error Reply
  | .put _ _ => .ok (.accepted false)
  | .get n _ => .ok (.filled false (List.replicate n 0))
  | _ => .ok .done

/-- The ring as a monitor. -/
def spec : Monitor.Spec Ring Call (Except Error Reply) Condition := ⟨turn, lapse, 2⟩

/-- The ring when inspected. -/
def shape (r : Ring) : Text.Shape :=
  .record "RingBuffer" [("capacity", .nat r.capacity), ("used", .nat r.used),
    ("active", .bool r.active)] false

end Ring

end Talkback.Buffer
