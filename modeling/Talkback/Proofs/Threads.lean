import Mathlib.Tactic.Lemma
import Talkback.Client.Script

/-!
The threads around a client's loop.

While the loop waits on the network, other threads act on the client through what they hold:
callers queue messages, hand the loop control requests or shut the client down; the device
delivers captured frames, pulls playback and has its failure switches turned; the connection
and the upload peer change on their own. A `Script` is any company of such threads: at each
service call they act, in an order of their choosing, and then the call hands the loop a batch
of events or fails. `Script.service` runs a script and keeps a log of each action with its
outcome and of each batch of events handed to the loop.

`serveBy_induct` is the one induction over a run of the loop: what taking the control requests
keeps, what the bookkeeping before a service call keeps, and what a service call keeps (with the
handling of its events when it succeeds) holds from turn to turn, and the teardown turns it into
what holds when the run ends.
-/

namespace Talkback.Client

open Transport (LinkEvent Inbound)

/-- What another thread can do to a client while its loop waits on the network. -/
inductive Act (τ ω : Type) where
  | sendText (text : String)
  | sendBinary (data : List UInt8)
  | command (request : Request)
  | shutdown
  /-- The device delivers a captured frame. -/
  | capture (frame : List UInt8)
  /-- The device pulls `n` bytes of playback. -/
  | pull (n : Nat)
  | device (change : DeviceChange)
  | conn (change : τ → τ)
  | peer (change : ω → ω)

variable {τ ω ε : Type}

/-- Take an action: its outcome and the world after. -/
def Act.run (c : Upload.Connector ω) : Act τ ω → World τ ω → Outcome × World τ ω
  | .sendText t, w => let (r, sh) := w.shared.sendText t; (.ofExcept r, { w with shared := sh })
  | .sendBinary d, w => let (r, sh) := w.shared.sendBinary d; (.ofExcept r, { w with shared := sh })
  | .command r, w => let (x, sh) := w.shared.command r; (.ofExcept x, { w with shared := sh })
  | .shutdown, w => (.done, { w with shared := w.shared.shutdown })
  | .capture f, w => let (held, w) := w.deliver c f; (.delivered held, w)
  | .pull n, w => let (data, w) := w.pull n; (.pulled data, w)
  | .device ch, w => (.done, { w with device := ch.apply w.device })
  | .conn f, w => (.done, { w with conn := f w.conn })
  | .peer f, w => (.done, { w with peer := f w.peer })

/-- An entry of a script's log: an action with its outcome, or the events a service call handed
the loop. -/
inductive Entry (τ ω : Type) where
  | act (a : Act τ ω) (outcome : Outcome)
  | events (es : List LinkEvent)

/-- Take actions in order, logging each with its outcome. -/
def runActs (c : Upload.Connector ω) : List (Act τ ω) → World τ ω → List (Entry τ ω) × World τ ω
  | [], w => ([], w)
  | a :: as, w =>
    let (o, w₁) := a.run c w
    let (log, w₂) := runActs c as w₁
    (.act a o :: log, w₂)

/-- Threads around a loop, in state `ε`: at a service call they take their `acts` on the world they
find, then `reply` to the loop from the world they leave. -/
structure Script (τ ω ε : Type) where
  acts : ε → World τ ω → List (Act τ ω)
  reply : ε → World τ ω → Except Error (List LinkEvent) × ε

/-- A service call under script `s`, adding to the log what the threads did and the events the
loop is handed. -/
def Script.service (s : Script τ ω ε) (c : Upload.Connector ω) (st : ε × List (Entry τ ω))
    (w : World τ ω) : Except Error (List LinkEvent) × (ε × List (Entry τ ω)) × World τ ω :=
  let (done, w₁) := runActs c (s.acts st.1 w) w
  match s.reply st.1 w₁ with
  | (.ok es, e) => (.ok es, (e, st.2 ++ done ++ [.events es]), w₁)
  | (.error err, e) => (.error err, (e, st.2 ++ done), w₁)

/-! ### Reading the log -/

/-- The audio of a binary message. -/
def binaryOf : LinkEvent → Option (List UInt8)
  | .received (.binary d) => some d
  | _ => none

namespace Entry

/-- The control request an entry handed the loop, if it is one the client took. -/
def request : Entry τ ω → Option Request
  | .act (.command r) .done => some r
  | _ => none

/-- The control requests handed to the loop, in order. -/
def requests (log : List (Entry τ ω)) : List Request := log.filterMap request

/-- The binary messages the connection brought, in order. -/
def received (log : List (Entry τ ω)) : List (List UInt8) :=
  log.flatMap fun
    | .events es => es.filterMap binaryOf
    | .act .. => []

@[simp] lemma requests_nil : requests ([] : List (Entry τ ω)) = [] := rfl

@[simp] lemma received_nil : received ([] : List (Entry τ ω)) = [] := rfl

@[simp] lemma requests_append (log log' : List (Entry τ ω)) :
    requests (log ++ log') = requests log ++ requests log' := List.filterMap_append

@[simp] lemma received_append (log log' : List (Entry τ ω)) :
    received (log ++ log') = received log ++ received log' := List.flatMap_append

@[simp] lemma received_events (es : List LinkEvent) :
    received [(.events es : Entry τ ω)] = es.filterMap binaryOf := by
  simp [received]

@[simp] lemma received_act (a : Act τ ω) (o : Outcome) : received [Entry.act a o] = [] := rfl

@[simp] lemma requests_events (es : List LinkEvent) : requests [(.events es : Entry τ ω)] = [] := rfl

end Entry

/-! ### Runs of scripts and of the loop -/

section Script

variable (c : Upload.Connector ω)

/-- What each action keeps, taking actions keeps; the log grows by the actions taken. -/
lemma runActs_induct {P : List (Entry τ ω) → World τ ω → Prop}
    (hact : ∀ a log w, P log w → P (log ++ [.act a (a.run c w).1]) (a.run c w).2)
    (as : List (Act τ ω)) (log : List (Entry τ ω)) (w : World τ ω) (h : P log w) :
    P (log ++ (runActs c as w).1) (runActs c as w).2 := by
  induction as generalizing log w with
  | nil => simpa [runActs] using h
  | cons a as ih =>
    have := ih (log ++ [.act a (a.run c w).1]) (a.run c w).2 (hact a log w h)
    simpa [runActs] using this

variable (s : Script τ ω ε) {e e' : ε} {log log' : List (Entry τ ω)} {w w' : World τ ω}

/-- A service call that hands the loop events has logged the actions taken, then the events. -/
lemma service_ok {es : List LinkEvent} (h : s.service c (e, log) w = (.ok es, (e', log'), w')) :
    (runActs c (s.acts e w) w).2 = w' ∧ log' = log ++ (runActs c (s.acts e w) w).1 ++ [.events es] := by
  simp only [Script.service] at h
  split at h
  · simp only [Prod.mk.injEq, Except.ok.injEq] at h
    obtain ⟨rfl, ⟨rfl, rfl⟩, rfl⟩ := h
    simp
  · simp at h

/-- A service call that fails has logged the actions taken. -/
lemma service_error {err : Error} (h : s.service c (e, log) w = (.error err, (e', log'), w')) :
    (runActs c (s.acts e w) w).2 = w' ∧ log' = log ++ (runActs c (s.acts e w) w).1 := by
  simp only [Script.service] at h
  split at h
  · simp at h
  · simp only [Prod.mk.injEq, Except.error.injEq] at h
    obtain ⟨rfl, ⟨rfl, rfl⟩, rfl⟩ := h
    simp

end Script

section Serve

variable (link : Link τ) (c : Upload.Connector ω)
  (service : ε → World τ ω → Except Error (List LinkEvent) × ε × World τ ω)

/-- **What every turn keeps, a run keeps.** A property of the world and the threads' state that
taking the control requests keeps, that the bookkeeping before a service call keeps, and that a
service call keeps (followed by handling its events, when it hands the loop some) holds from
turn to turn; what the teardown makes of it holds when the run ends, however it ends. -/
theorem serveBy_induct {P Q : ε → World τ ω → Prop}
    (hdrain : ∀ e w, P e w → P e (w.drain c).2)
    (hprep : ∀ e w, P e w → P e (World.wantWrite link (World.reap c false w)))
    (hcall : ∀ e w es e' w', P e w → service e w = (.ok es, e', w') → P e' (World.handle link es w').2)
    (hfail : ∀ e w err e' w', P e w → service e w = (.error err, e', w') → P e' w')
    (hend : ∀ e w, P e w → Q e (w.teardown link c))
    (fuel : Nat) (e : ε) (w : World τ ω) (h : P e w) :
    Q (serveBy link c service fuel e w).1 (serveBy link c service fuel e w).2 := by
  -- one turn per unit of fuel; every way out of a turn goes through the teardown
  induction fuel generalizing e w with
  | zero => exact hend e w h
  | succ fuel ih =>
    have hd := hdrain e w h
    simp only [serveBy]
    split
    · exact hend e w h
    split
    · next w₁ hw₁ =>
      rw [hw₁] at hd
      exact hend e w₁ hd
    · next w₁ hw₁ =>
      rw [hw₁] at hd
      split
      · next err e₂ w₂ hsvc => exact hend e₂ w₂ (hfail _ _ err e₂ w₂ (hprep e w₁ hd) hsvc)
      · next es e₂ w₂ hsvc =>
        have hh := hcall _ _ es e₂ w₂ (hprep e w₁ hd) hsvc
        split
        · next w₃ hw₃ =>
          rw [hw₃] at hh
          exact hend e₂ w₃ hh
        · next w₃ hw₃ =>
          rw [hw₃] at hh
          exact ih e₂ w₃ hh

end Serve

end Talkback.Client
