import Talkback.Error
import Talkback.Monitor
import Talkback.Dispatch.Message

/-!
The outbound queue: a bounded first-in first-out list of messages with one consumer.

Messages sit in `capacity + 1` slots between `head` and `tail`, going round the end; one slot
always stays empty, so the queue is full when the slot after `tail` is `head`. A producer
never waits: a full queue refuses the message and is left as it was, and a shut queue
refuses everything. Taking a message from a shut queue gives nothing, but a consumer that
waits for one is told the queue is shut. Shutdown drops every message and wakes every
waiter; it is a one-way latch.
-/

namespace Talkback.Dispatch

/-- The queue. -/
structure Queue where
  capacity : Nat
  slots : Array (Option Message)
  head : Nat
  tail : Nat
  active : Bool
  deriving DecidableEq, Repr

namespace Queue

/-- The size of a queue made with no size given. -/
def defaultCapacity : Nat := 10

/-- An empty queue for `n` messages; a queue holds at least one. -/
def create (n : Nat) : Queue :=
  let c := max 1 n
  ⟨c, Array.replicate (c + 1) none, 0, 0, true⟩

/-- The number of messages waiting. -/
def size (q : Queue) : Nat := (q.tail + q.slots.size - q.head) % q.slots.size

/-- Whether no message waits. -/
def isEmpty (q : Queue) : Bool := q.head == q.tail

/-- Whether no slot is free. -/
def isFull (q : Queue) : Bool := (q.tail + 1) % q.slots.size == q.head

/-- The waiting messages, oldest first. -/
def toList (q : Queue) : List Message :=
  (List.range q.size).filterMap fun i => q.slots.getD ((q.head + i) % q.slots.size) none

/-- Put `m` in the slot at `tail`, which must be free. -/
def put (q : Queue) (m : Message) : Queue :=
  { q with slots := q.slots.setIfInBounds q.tail (some m), tail := (q.tail + 1) % q.slots.size }

/-- Take the oldest message, if any. -/
def pop (q : Queue) : Option Message × Queue :=
  if q.isEmpty then (none, q)
  else (q.slots.getD q.head none,
    { q with slots := q.slots.setIfInBounds q.head none, head := (q.head + 1) % q.slots.size })

/-- Drop every message and refuse further traffic. -/
def close (q : Queue) : Queue :=
  { q with active := false, slots := q.slots.map fun _ => none, head := 0, tail := 0 }

/-- Offer a message: refused if the queue is shut or full. -/
def push (q : Queue) (m : Message) : Except Error Queue :=
  if !q.active then .error .queueClosed
  else if q.isFull then .error (.queueFull q.capacity)
  else .ok (q.put m)

/-- Take the oldest message; a shut queue gives none. -/
def dequeue (q : Queue) : Option Message × Queue :=
  if q.active then q.pop else (none, q)

/-- What a consumer waits for. -/
inductive Condition where
  | message
  deriving DecidableEq, Repr

instance : BEq Condition := instBEqOfDecidableEq

/-- The calls on a queue. -/
inductive Call where
  | push (m : Message)
  | dequeue
  /-- Wait for a message until a deadline. -/
  | await
  | shutdown
  | inspect
  deriving DecidableEq, Repr

/-- The answer to a call: nothing, or the message taken, if any. -/
inductive Reply where
  | done
  | taken (m : Option Message)
  deriving DecidableEq, Repr

/-- A call's turn while it holds the lock. -/
def turn : Call → Queue → Monitor.Turn Queue (Except Error Reply) Condition
  | .push m, q =>
    match q.push m with
    | .error e => .finish (.error e) q []
    | .ok q' => .finish (.ok .done) q' [.one .message]
  | .dequeue, q => let (m, q') := q.dequeue; .finish (.ok (.taken m)) q' []
  | .await, q =>
    if !q.active then .finish (.error .queueClosed) q []
    else if !q.isEmpty then let (m, q') := q.pop; .finish (.ok (.taken m)) q' []
    else .wait .message
  | .shutdown, q =>
    if q.active then .finish (.ok .done) q.close [.all .message] else .finish (.ok .done) q []
  | .inspect, q => .finish (.ok .done) q []

/-- The answer of a wait whose deadline passed with no message. -/
def lapse : Call → Except Error Reply
  | .await => .ok (.taken none)
  | _ => .ok .done

/-- The queue as a monitor. -/
def spec : Monitor.Spec Queue Call (Except Error Reply) Condition := ⟨turn, lapse, 1⟩

/-- The queue when inspected. -/
def shape (q : Queue) : Text.Shape :=
  .record "OutboundQueue" [("capacity", .nat q.capacity), ("len", .nat q.size)] false

end Queue

end Talkback.Dispatch
