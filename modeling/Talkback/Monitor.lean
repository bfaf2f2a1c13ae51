/-!
Monitors: shared state behind one lock, with conditions that threads wait on.

A call holding the lock either finishes, leaving a new state and waking waiters, or waits
on a condition. A woken waiter takes the lock again and looks afresh; if it still cannot
finish it waits once more, behind those already waiting. Waiters on one condition are woken
in the order they began to wait, one by one or all at once. A call with a deadline that
passes while it waits takes one last look: it finishes if it can, and otherwise gives its
call's answer for running out of time.

A timeline runs such calls on a virtual clock: each thread has a phase (ready, waiting on a
condition, or finished with a reply), and the clock moves only when asked to, expiring the
waiters whose deadlines it passes in the order of their deadlines.
-/

namespace Talkback.Monitor

/-- A wake-up of the threads waiting on a condition: the first of them, or all. -/
inductive Signal (κ : Type) where
  | one (c : κ)
  | all (c : κ)
  deriving DecidableEq, Repr

/-- What a call does while it holds the lock. -/
inductive Turn (σ ρ κ : Type) where
  /-- It returns `result`, leaves `state`, and wakes waiters by `signals`. -/
  | finish (result : ρ) (state : σ) (signals : List (Signal κ))
  /-- It waits on condition `c`, leaving the state as it was. -/
  | wait (c : κ)

/-- The behaviour of a shared object: how each call proceeds when it holds the lock, and its
answer when its deadline passes before it could proceed. One turn sends at most `fanout`
signals. -/
structure Spec (σ γ ρ κ : Type) where
  turn : γ → σ → Turn σ ρ κ
  lapse : γ → ρ
  fanout : Nat

/-- Where a thread is. -/
inductive Phase (ρ κ : Type) where
  | ready
  | waiting (c : κ)
  | finished (result : ρ)
  deriving DecidableEq, Repr

/-- A thread making one call. -/
structure Thread (γ ρ κ : Type) where
  call : γ
  deadline : Option Nat
  phase : Phase ρ κ

/-- Shared state, a clock in milliseconds, the threads by number, and the waiting threads in
the order they began to wait. -/
structure Timeline (σ γ ρ κ : Type) where
  state : σ
  clock : Nat := 0
  threads : Array (Thread γ ρ κ) := #[]
  queue : List Nat := []

namespace Timeline

variable {σ γ ρ κ : Type} [BEq κ] (spec : Spec σ γ ρ κ)

/-- Whether thread `i` waits on condition `c`. -/
def waitsOn (t : Timeline σ γ ρ κ) (c : κ) (i : Nat) : Bool :=
  match t.threads[i]? with
  | some { phase := .waiting c', .. } => c' == c
  | _ => false

/-- The reply of thread `i`, once it has finished. -/
def reply? (t : Timeline σ γ ρ κ) (i : Nat) : Option ρ :=
  match t.threads[i]? with
  | some { phase := .finished r, .. } => some r
  | _ => none

/-- Thread `i`, out of the queue, takes its turn: it finishes, returning the signals it
sends, or joins the end of the queue. -/
def take (t : Timeline σ γ ρ κ) (i : Nat) : Timeline σ γ ρ κ × List (Signal κ) :=
  match t.threads[i]? with
  | none => (t, [])
  | some th =>
    match spec.turn th.call t.state with
    | .finish r s signals =>
      ({ t with
          state := s
          threads := t.threads.setIfInBounds i { th with phase := .finished r } }, signals)
    | .wait c =>
      ({ t with
          threads := t.threads.setIfInBounds i { th with phase := .waiting c }
          queue := t.queue ++ [i] }, [])

/-- Let threads `ids`, out of the queue, take their turns in order. -/
def takeAll (t : Timeline σ γ ρ κ) : List Nat → Timeline σ γ ρ κ × List (Signal κ)
  | [] => (t, [])
  | i :: rest =>
    let (t1, s1) := take spec t i
    let (t2, s2) := takeAll t1 rest
    (t2, s1 ++ s2)

/-- Deliver signals, and those the woken threads send in turn, for at most `fuel` signals. -/
def deliver : Nat → Timeline σ γ ρ κ → List (Signal κ) → Timeline σ γ ρ κ
  | 0, t, _ => t
  | _, t, [] => t
  | fuel + 1, t, .one c :: rest =>
    match t.queue.find? (t.waitsOn c) with
    | none => deliver fuel t rest
    | some i =>
      let (t', more) := take spec { t with queue := t.queue.erase i } i
      deliver fuel t' (rest ++ more)
  | fuel + 1, t, .all c :: rest =>
    let woken := t.queue.filter (t.waitsOn c)
    let (t', more) := takeAll spec { t with queue := t.queue.filter (!t.waitsOn c ·) } woken
    deliver fuel t' (rest ++ more)

/-- Deliver signals until none is left. Every signal is taken once, and a thread finishes at
most once, sending at most `fanout` more, so this much fuel always suffices. -/
def settle (t : Timeline σ γ ρ κ) (signals : List (Signal κ)) : Timeline σ γ ρ κ :=
  deliver spec (signals.length + spec.fanout * t.threads.size + 1) t signals

/-- Start a thread making `call` at the current time, with `timeout` milliseconds to finish
if it has to wait; returns its number. -/
def start (t : Timeline σ γ ρ κ) (call : γ) (timeout : Option Nat) : Timeline σ γ ρ κ × Nat :=
  let i := t.threads.size
  let t0 := { t with threads := t.threads.push ⟨call, timeout.map (t.clock + ·), .ready⟩ }
  let (t1, signals) := take spec t0 i
  (settle spec t1 signals, i)

/-- Thread `i`, out of the queue, at its deadline: it takes a last turn, and if it would
wait again it finishes with its call's answer for running out of time. -/
def expire (t : Timeline σ γ ρ κ) (i : Nat) : Timeline σ γ ρ κ :=
  match t.threads[i]? with
  | none => t
  | some th =>
    match spec.turn th.call t.state with
    | .finish r s signals =>
      settle spec
        { t with
          state := s
          threads := t.threads.setIfInBounds i { th with phase := .finished r } }
        signals
    | .wait _ =>
      { t with
        threads := t.threads.setIfInBounds i { th with phase := .finished (spec.lapse th.call) } }

/-- The deadline of thread `i`, if it waits and has one. -/
def deadlineOf (t : Timeline σ γ ρ κ) (i : Nat) : Option Nat :=
  (t.threads[i]?).bind Thread.deadline

/-- Of the waiting threads whose deadline is at most `limit`, the one due first (the earliest
in the queue among equal deadlines). -/
def due (t : Timeline σ γ ρ κ) (limit : Nat) : Option (Nat × Nat) :=
  t.queue.foldl (fun best i =>
    match t.deadlineOf i, best with
    | some d, none => if d ≤ limit then some (i, d) else none
    | some d, some (j, e) => if d < e then some (i, d) else some (j, e)
    | none, b => b) none

/-- Move the clock on to `limit`, expiring due waiters in order; each expiry removes one
waiter for good, so `fuel` above the queue's length suffices. -/
def advanceBy : Nat → Timeline σ γ ρ κ → Nat → Timeline σ γ ρ κ
  | 0, t, limit => { t with clock := max t.clock limit }
  | fuel + 1, t, limit =>
    match t.due limit with
    | none => { t with clock := max t.clock limit }
    | some (i, d) =>
      advanceBy fuel (expire spec { t with clock := max t.clock d, queue := t.queue.erase i } i) limit

/-- Move the clock on to `limit`. -/
def advance (t : Timeline σ γ ρ κ) (limit : Nat) : Timeline σ γ ρ κ :=
  advanceBy spec (t.queue.length + 1) t limit

/-- Wait for thread `i`: if it is waiting with a deadline, move the clock on to it. A thread
waiting without a deadline is left waiting. -/
def await (t : Timeline σ γ ρ κ) (i : Nat) : Timeline σ γ ρ κ :=
  match t.reply? i, t.deadlineOf i with
  | none, some d => advance spec t d
  | _, _ => t

/-- Whether thread `i` waits with no deadline. -/
def stuck (t : Timeline σ γ ρ κ) (i : Nat) : Bool :=
  match t.threads[i]? with
  | some { phase := .waiting _, deadline := none, .. } => true
  | _ => false

/-- Withdraw a waiting thread that will never be woken. -/
def withdraw (t : Timeline σ γ ρ κ) (i : Nat) : Timeline σ γ ρ κ :=
  { t with queue := t.queue.erase i }

end Timeline

end Talkback.Monitor
