import Talkback.Monitor

/-!
A bench for a monitor: a script of calls made on the main thread, threads spawned to make
calls of their own, waits for those threads, and pauses, all on one virtual clock.

A call on the main thread that would wait forever is not made: its step reports that it
would block. A main-thread call with a deadline is waited for. A spawned thread starts at
once; joining takes the oldest thread not yet joined and waits for its reply. A job refused
before it starts (its input was out of range) is a thread that replies with the refusal.
While some spawned thread is not joined, a step shows only its outcome, since that thread
may be half-way; pauses and joins show the state too.
-/

namespace Talkback.Monitor

/-- A step of a bench script. -/
inductive Step (γ : Type) where
  | call (job : Except String γ) (timeout : Option Nat)
  | spawn (job : Except String γ) (timeout : Option Nat)
  | join
  | sleep (ms : Nat)

/-- What a step gives back. -/
inductive Outcome (ρ : Type) where
  | spawned
  | wouldBlock
  | replied (reply : Except String ρ)
  | rested

/-- A step's outcome, with the state after it when it can be shown. -/
structure Report (σ ρ : Type) where
  outcome : Outcome ρ
  state : Option σ

/-- A spawned thread: refused before it started, or running as thread `i`. -/
inductive Handle where
  | refused (reason : String)
  | thread (i : Nat)
  deriving DecidableEq, Repr

/-- A bench between steps: the timeline and the spawned threads not yet joined, oldest
first. -/
structure Bench (σ γ ρ κ : Type) where
  timeline : Timeline σ γ ρ κ
  unjoined : List Handle := []

namespace Bench

/-- Refuse a number above `limit`, naming the input it came from. -/
def within (name : String) (limit n : Nat) : Except String Nat :=
  if n ≤ limit then .ok n else .error (name ++ " must be at most " ++ toString limit)

/-- The longest wait, in milliseconds, a spawned thread may be given. -/
def spawnedWaitLimit : Nat := 1000

/-- The longest wait, in milliseconds, a call on the main thread may be given. -/
def mainWaitLimit : Nat := 20

/-- The longest pause, in milliseconds. -/
def pauseLimit : Nat := 200

/-- The largest buffer a script may ask for, in bytes. -/
def sizeLimit : Nat := 4 * 1024 * 1024

variable {σ γ ρ κ : Type} [BEq κ] (spec : Spec σ γ ρ κ)

/-- The reply a handle stands for, once there is one. -/
def replyOf (t : Timeline σ γ ρ κ) : Handle → Option (Except String ρ)
  | .refused reason => some (.error reason)
  | .thread i => (t.reply? i).map .ok

/-- Run one step; a join with no thread to join fails the whole script. -/
def step (b : Bench σ γ ρ κ) : Step γ → Except String (Bench σ γ ρ κ × Outcome ρ)
  | .call (.error reason) _ => .ok (b, .replied (.error reason))
  | .call (.ok c) timeout =>
    let (t, i) := b.timeline.start spec c timeout
    if t.stuck i then .ok ({ b with timeline := t.withdraw i }, .wouldBlock)
    else
      let t := t.await spec i
      match t.reply? i with
      | some r => .ok ({ b with timeline := t }, .replied (.ok r))
      | none => .ok ({ b with timeline := t }, .wouldBlock)
  | .spawn (.error reason) _ =>
    .ok ({ b with unjoined := b.unjoined ++ [.refused reason] }, .spawned)
  | .spawn (.ok c) timeout =>
    let (t, i) := b.timeline.start spec c timeout
    .ok ({ timeline := t, unjoined := b.unjoined ++ [.thread i] }, .spawned)
  | .join =>
    match b.unjoined with
    | [] => .error "nothing to join"
    | h :: rest =>
      let t := match h with
        | .thread i => b.timeline.await spec i
        | .refused _ => b.timeline
      match replyOf t h with
      | some r => .ok ({ timeline := t, unjoined := rest }, .replied r)
      | none => .ok ({ timeline := t, unjoined := rest }, .wouldBlock)
  | .sleep ms => .ok ({ b with timeline := b.timeline.advance spec (b.timeline.clock + ms) }, .rested)

/-- Whether a step shows the state after it. -/
def shows (b : Bench σ γ ρ κ) : Step γ → Bool
  | .join | .sleep _ => true
  | _ => b.unjoined.isEmpty

/-- Run steps in order, reporting each. -/
def runSteps (b : Bench σ γ ρ κ) : List (Step γ) → Except String (Bench σ γ ρ κ × List (Report σ ρ))
  | [] => .ok (b, [])
  | s :: rest => do
    let (b', o) ← b.step spec s
    let shown := if b'.shows s then some b'.timeline.state else none
    let (b'', reports) ← b'.runSteps rest
    return (b'', ⟨o, shown⟩ :: reports)

/-- What a script ends with: the report of each step, the state after the last one, and the
replies of the threads never joined, once `release` has been called on the main thread to let
them go. -/
structure Result (σ ρ : Type) where
  reports : List (Report σ ρ)
  final : σ
  unjoined : List (Option (Except String ρ))

/-- Run a script from state `init`. -/
def run (init : σ) (release : γ) (steps : List (Step γ)) : Except String (Result σ ρ) := do
  let (b, reports) ← runSteps spec { timeline := { state := init } } steps
  let (t, _) := b.timeline.start spec release none
  return ⟨reports, b.timeline.state, b.unjoined.map (replyOf t)⟩

end Bench

end Talkback.Monitor
