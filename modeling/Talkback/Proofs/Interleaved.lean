import Mathlib.Logic.Relation
import Talkback.Proofs.Queue
import Talkback.Proofs.Threads

/-!
The loop and the threads around it, step by step.

`serveBy` lets other threads act only while the loop waits in a service call, and takes a
caller's queueing of a message as one step. In the program other threads act at any moment,
and queueing is two steps: the push into the queue, then the caller's bookkeeping, which counts
the message and raises the flag asking the loop for a writable slot (`Shared.push`,
`Shared.noteEnqueue`). Here a turn of the loop is cut into the steps it takes one after
another (`Pc`): the check that the client runs, taking the control requests, taking back the
upload session, the request for a slot, the service call, and the events one by one, where a
writable slot (`World.takeSlot`) and an open are each followed by the check whether more
messages wait (`World.rearm`). Between any two steps of the loop another thread may push a
message, do a caller's bookkeeping, shut the client down, or take any other action that leaves
the queue and the flag alone (`ThreadStep`).

A configuration (`Pace`) also keeps what the run has seen so far, which no step reads: for
each queued message, where the call that queued it stands (`Call`); whether a slot has been
asked for since the last one was taken, or since the run began; and whether the open has been
handled.
-/

namespace Talkback.Client

open Dispatch (Message Queue)
open Transport (LinkEvent Inbound)

namespace Shared

/-- The first step of queueing a message: the push alone. -/
def push (s : Shared) (m : Message) : Except Error Unit × Shared :=
  match s.queue.push m with
  | .ok q => (.ok (), { s with queue := q })
  | .error e => (.error e, s)

/-- The second step: count the push's outcome and, when the queue took the message, ask the
loop for a writable slot. -/
def noteEnqueue (s : Shared) : Except Error Unit → Shared
  | .ok () => { s with writeWanted := true,
                       diag := { s.diag with messagesEnqueued := s.diag.messagesEnqueued + 1 } }
  | .error _ => { s with diag := { s.diag with queueRejections := s.diag.queueRejections + 1 } }

lemma enqueue_eq_noteEnqueue (s : Shared) (m : Message) :
    s.enqueue m = ((s.push m).1, (s.push m).2.noteEnqueue (s.push m).1) := by
  unfold enqueue push
  cases s.queue.push m <;> rfl

end Shared

namespace World

variable {τ ω : Type} (link : Link τ)

/-- The first step of a writable slot: take the oldest message and send it, counting the send. -/
def takeSlot (w : World τ ω) : World τ ω :=
  let (m, q) := w.shared.queue.dequeue
  let w := w.share fun sh => { sh with queue := q }
  match m with
  | none => w
  | some m =>
    match link.send m w.conn with
    | (.ok (), t) => { w with conn := t }.count fun d => { d with messagesSent := d.messagesSent + 1 }
    | (.error _, t) => { w with conn := t }.count fun d => { d with sendErrors := d.sendErrors + 1 }

/-- The check after a writable slot or an open: ask for a slot while messages wait. -/
def rearm (w : World τ ω) : World τ ω :=
  if w.shared.queue.isEmpty then w else { w with conn := link.requestWritable w.conn }

lemma onWritable_eq_rearm (w : World τ ω) : onWritable link w = rearm link (takeSlot link w) := rfl

lemma onConnected_eq_rearm (w : World τ ω) :
    onConnected link w = rearm link (w.share fun sh => sh.publish .connected none) := rfl

end World

/-- Where the call that queued a message stands. -/
inductive Call where
  /-- The message is pushed; the caller's bookkeeping has not run. -/
  | running
  /-- The call returned during the current turn of the loop. -/
  | returned
  /-- The call returned before the current turn began. -/
  | settled
  deriving DecidableEq, Repr

namespace Call

/-- At a new turn, a call that has returned did so before the turn. -/
def settle : Call → Call
  | .running => .running
  | _ => .settled

/-- The caller's bookkeeping returns its call. -/
def finish : Call → Call
  | .running => .returned
  | x => x

@[simp] lemma settle_running : settle .running = .running := rfl

@[simp] lemma finish_ne_settled (x : Call) : finish x = .settled ↔ x = .settled := by
  cases x <;> decide

lemma mem_modify_finish {l : List Call} {i : Nat} {x : Call} (h : x ∈ l.modify i finish) :
    x ∈ l ∨ x = .returned := by
  induction l generalizing i with
  | nil => simp at h
  | cons y l ih =>
    cases i with
    | zero =>
      rw [List.modify_zero_cons, List.mem_cons] at h
      rcases h with rfl | h
      · cases y <;> simp [finish]
      · exact .inl (List.mem_cons_of_mem y h)
    | succ i =>
      rw [List.modify_succ_cons, List.mem_cons] at h
      rcases h with rfl | h
      · exact .inl List.mem_cons_self
      · exact (ih h).imp_left (List.mem_cons_of_mem y)

end Call

/-- Where the loop stands in its turn. -/
inductive Pc where
  /-- A turn begins: the loop checks that the client still runs. -/
  | top
  | drain
  | reap
  | swap
  | service
  /-- Handling `es`, what is left of the events of the service call; `closed` once one of
  them closed the connection. -/
  | handle (es : List LinkEvent) (closed : Bool)
  /-- The check after a writable slot, or after an open (`opening`), before the events `es`. -/
  | rearm (opening : Bool) (es : List LinkEvent) (closed : Bool)
  /-- The loop has left its turns; the teardown comes next. -/
  | exit
  | done
  deriving DecidableEq, Repr

/-- The loop at `pc` over `world`, with what the run has seen: one `Call` for each queued
message, oldest first; whether a writable slot has been asked for since the last one was
taken (or since the run began); and whether the open has been handled. -/
structure Pace (τ ω : Type) where
  world : World τ ω
  pc : Pc := .top
  calls : List Call
  asked : Bool := false
  opened : Bool := false

namespace Pace

variable {τ ω : Type} (link : Link τ) (c : Upload.Connector ω)

/-- A run's start: a turn about to begin, nothing asked for and no open handled yet, the
messages left in the queue with their calls standing as `calls` say. -/
def start (w : World τ ω) (calls : List Call) : Pace τ ω := { world := w, calls }

/-- The calls once the loop's own step has left `w`: the messages it queued have returned. -/
def grow (p : Pace τ ω) (w : World τ ω) : List Call :=
  p.calls ++ List.replicate (w.shared.queue.toList.length - p.world.shared.queue.toList.length) .returned

/-- Handle the event `e`, with `es` left after it. -/
def onEvent (p : Pace τ ω) (es : List LinkEvent) (closed : Bool) : LinkEvent → Pace τ ω
  | .connected =>
    { p with pc := .rearm true es closed, world := p.world.share fun sh => sh.publish .connected none }
  | .writable =>
    { p with pc := .rearm false es closed, world := World.takeSlot link p.world, calls := p.calls.tail,
             asked := false }
  | .received (.text t) => { p with pc := .handle es closed, world := p.world.share fun sh => sh.emitMessage t }
  | .received (.binary d) => { p with pc := .handle es closed, world := p.world.play d }
  | .closed => { p with pc := .handle es true }

/-- The loop's next step; `answer` is what the service call returns, when that is the step. -/
def advance (answer : Except Error (List LinkEvent)) (p : Pace τ ω) : Pace τ ω :=
  match p.pc with
  | .top =>
    if p.world.shared.running then { p with pc := .drain, calls := p.calls.map Call.settle }
    else { p with pc := .exit }
  | .drain =>
    { p with pc := if (p.world.drain c).1 then .reap else .exit, world := (p.world.drain c).2,
             calls := p.grow (p.world.drain c).2 }
  | .reap => { p with pc := .swap, world := World.reap c false p.world }
  | .swap =>
    { p with pc := .service, world := World.wantWrite link p.world,
             asked := p.asked || p.world.shared.writeWanted }
  | .service =>
    match answer with
    | .ok es => { p with pc := .handle es false }
    | .error _ => { p with pc := .exit }
  | .handle [] closed => { p with pc := if closed then .exit else .top }
  | .handle (e :: es) closed => p.onEvent link es closed e
  | .rearm opening es closed =>
    { p with pc := .handle es closed, world := World.rearm link p.world,
             asked := p.asked || !p.world.shared.queue.isEmpty, opened := p.opened || opening }
  | .exit => { p with pc := .done, world := p.world.teardown link c }
  | .done => p

/-- What another thread may do in one step while the loop runs. -/
inductive ThreadStep (c : Upload.Connector ω) : Pace τ ω → Pace τ ω → Prop
  /-- A caller, or the capture relaying frames, pushes a message. -/
  | push (p : Pace τ ω) (m : Message) :
      ThreadStep c p { p with world := { p.world with shared := (p.world.shared.push m).2 },
                              calls := if (p.world.shared.push m).1.isOk then p.calls ++ [.running]
                                       else p.calls }
  /-- A caller does its bookkeeping for a push that ended as `r`; a push that went in placed
  the `i`-th message still queued, if it is still queued. -/
  | note (p : Pace τ ω) (r : Except Error Unit) (i : Nat) :
      ThreadStep c p { p with world := { p.world with shared := p.world.shared.noteEnqueue r },
                              calls := if r.isOk then p.calls.modify i Call.finish else p.calls }
  | shutdown (p : Pace τ ω) :
      ThreadStep c p { p with world := { p.world with shared := p.world.shared.shutdown }, calls := [] }
  /-- Any other action, one that leaves the queue and the flag alone. -/
  | act (p : Pace τ ω) (a : Act τ ω) (hq : (a.run c p.world).2.shared.queue = p.world.shared.queue)
      (hf : (a.run c p.world).2.shared.writeWanted = p.world.shared.writeWanted) :
      ThreadStep c p { p with world := (a.run c p.world).2 }

/-- A step of the loop or of another thread. -/
inductive Step (link : Link τ) (c : Upload.Connector ω) : Pace τ ω → Pace τ ω → Prop
  | loop (p : Pace τ ω) (answer : Except Error (List LinkEvent)) : Step link c p (p.advance link c answer)
  | thread {p p' : Pace τ ω} : ThreadStep c p p' → Step link c p p'

/-- What every step keeps holds all along a run. -/
lemma Step.induct {link : Link τ} {c : Upload.Connector ω} {P : Pace τ ω → Prop}
    (hloop : ∀ p answer, P p → P (p.advance link c answer))
    (hthread : ∀ p p', ThreadStep c p p' → P p → P p') {p p' : Pace τ ω}
    (h : Relation.ReflTransGen (Step link c) p p') (hp : P p) : P p' := by
  induction h with
  | refl => exact hp
  | tail _ hs ih =>
    cases hs with
    | loop answer => exact hloop _ answer ih
    | thread ht => exact hthread _ _ ht ih

/-- The loop on its own, fed the service calls' answers in order. -/
def advanceAll (answers : List (Except Error (List LinkEvent))) (p : Pace τ ω) : Pace τ ω :=
  answers.foldl (fun p a => p.advance link c a) p

/-- The loop's own steps, with no other thread acting, make a run. -/
lemma reach_advanceAll (answers : List (Except Error (List LinkEvent))) (p : Pace τ ω) :
    Relation.ReflTransGen (Step link c) p (advanceAll link c answers p) := by
  induction answers generalizing p with
  | nil => exact .refl
  | cons a as ih => exact Relation.ReflTransGen.head (.loop p a) (ih _)

end Pace

end Talkback.Client
