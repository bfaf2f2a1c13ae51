import Talkback.Client.Script
import Talkback.Proofs.Outbound

/-!
The loop sends queued messages one per writable slot, in the order the queue took them.

The connection is traced: `Link.traced` does what a link does and keeps a record of each
request for a writable slot, each message sent and the close, and `noted` adds to that record
the events each service call hands the loop. Other threads act on the world while the loop
waits on the network; all they may do to the outbound path is queue messages and shut the
queue (`Produces`).

Each event is handled by one step (`onWritable_spec`: a writable slot sends the oldest message,
if there is one, and asks for another slot exactly when more wait). Along a whole run the record
reads as turns (`Run`): each turn perhaps asks for a slot, then handles the events of one service
call in order, each as `Handles` allows; at the end the connection is closed. Along the way the
outbound path only moves as a queue with a consumer does (`Outflow`), so what is sent is a
prefix of what the queue accepted, in order, and every message sent is counted once.
-/

namespace Talkback.Client

open Dispatch (Message Queue)
open Transport (LinkEvent Inbound)

/-- One entry of what passes between the loop and its connection. -/
inductive Note where
  | requestWritable
  | send (m : Message)
  | close
  /-- The events a service call handed the loop. -/
  | events (es : List LinkEvent)
  deriving DecidableEq, Repr

namespace Note

/-- The messages sent, in order. -/
def sent (notes : List Note) : List Message :=
  notes.filterMap fun | .send m => some m | _ => none

@[simp] lemma sent_nil : sent [] = [] := rfl

@[simp] lemma sent_append (n n' : List Note) : sent (n ++ n') = sent n ++ sent n' :=
  List.filterMap_append

@[simp] lemma sent_cons_send (m : Message) (n : List Note) : sent (.send m :: n) = m :: sent n := rfl

@[simp] lemma sent_cons_requestWritable (n : List Note) : sent (.requestWritable :: n) = sent n := rfl

@[simp] lemma sent_cons_close (n : List Note) : sent (.close :: n) = sent n := rfl

@[simp] lemma sent_cons_events (es : List LinkEvent) (n : List Note) :
    sent (.events es :: n) = sent n := rfl

end Note

variable {τ ω ε : Type}

/-- `link`, keeping a record of what it is asked. -/
def Link.traced (link : Link τ) : Link (τ × List Note) where
  requestWritable p := (link.requestWritable p.1, p.2 ++ [.requestWritable])
  send m p := ((link.send m p.1).1, ((link.send m p.1).2, p.2 ++ [.send m]))
  close p := ((link.close p.1).1, ((link.close p.1).2, p.2 ++ [.close]))

/-- The service calls of `service`, each also recording the events it hands the loop. -/
def noted (service : ε → World (τ × List Note) ω →
      Except Error (List LinkEvent) × ε × World (τ × List Note) ω)
    (e : ε) (w : World (τ × List Note) ω) :
    Except Error (List LinkEvent) × ε × World (τ × List Note) ω :=
  match service e w with
  | (.ok es, e', w') => (.ok es, e', { w' with conn := (w'.conn.1, w'.conn.2 ++ [.events es]) })
  | r => r

namespace World

/-- The messages handed to the connection so far, sent or failed. -/
def attempts (w : World τ ω) : Nat := w.shared.diag.messagesSent + w.shared.diag.sendErrors

/-- What another thread may do while the loop waits on the network: anything that leaves the
record of the connection and the counts of sent and failed messages alone, and changes the
queue only by pushes and shutdowns. -/
structure Produces (w w' : World (τ × List Note) ω) : Prop where
  notes : w'.conn.2 = w.conn.2
  sent : w'.shared.diag.messagesSent = w.shared.diag.messagesSent
  failed : w'.shared.diag.sendErrors = w.shared.diag.sendErrors
  fills : ∃ acc, Queue.Flow ([], w.shared.queue) acc ([], w'.shared.queue)

lemma Aside.produces {w w' : World (τ × List Note) ω} (h : Aside w w') : Produces w w' :=
  ⟨congrArg Prod.snd h.conn, h.sent, h.failed, h.fills⟩

/-- What a stretch of a run from `w` to `w'` did on the outbound path: it added `new` to the
record of the connection; the messages it sent left the queue one at a time, others joining it
by pushes and leaving it only by a shutdown; and each message sent was counted once, as sent or
as failed. -/
structure Outflow (w w' : World (τ × List Note) ω) (new : List Note) : Prop where
  notes : w'.conn.2 = w.conn.2 ++ new
  flow : ∃ acc, Queue.Flow (Note.sent w.conn.2, w.shared.queue) acc
    (Note.sent w'.conn.2, w'.shared.queue)
  counted : w'.attempts = w.attempts + (Note.sent new).length

namespace Outflow

variable {w w' w'' : World (τ × List Note) ω} {n n' : List Note}

lemma trans (h : Outflow w w' n) (h' : Outflow w' w'' n') : Outflow w w'' (n ++ n') := by
  obtain ⟨acc, hf⟩ := h.flow
  obtain ⟨acc', hf'⟩ := h'.flow
  refine ⟨by rw [h'.notes, h.notes, List.append_assoc], ⟨acc ++ acc', hf.trans hf'⟩, ?_⟩
  rw [h'.counted, h.counted, Note.sent_append, List.length_append, Nat.add_assoc]

lemma of_produces (h : Produces w w') : Outflow w w' [] := by
  obtain ⟨acc, hf⟩ := h.fills
  refine ⟨by simp [h.notes], ⟨acc, ?_⟩, by simp [attempts, h.sent, h.failed]⟩
  simpa [h.notes] using Queue.Flow.frame (Note.sent w.conn.2) hf

lemma of_aside (h : Aside w w') : Outflow w w' [] := of_produces h.produces

lemma refl (w : World (τ × List Note) ω) : Outflow w w [] := of_aside (.refl w)

/-- A step that only adds notes other than sends to the record, leaving the queue and the
counts alone. -/
lemma of_notes (hnotes : w'.conn.2 = w.conn.2 ++ n) (hsent : Note.sent n = [])
    (hq : w'.shared.queue = w.shared.queue) (hc : w'.attempts = w.attempts) : Outflow w w' n :=
  ⟨hnotes, ⟨[], by simpa [hnotes, hsent, hq] using Queue.Flow.rest⟩, by simp [hc, hsent]⟩

/-- The queue stays sound along a stretch of a run. -/
lemma sound (h : Outflow w w' n) (hq : Queue.Sound w.shared.queue) : Queue.Sound w'.shared.queue :=
  (Queue.Flow.fifo hq h.flow.choose_spec).1

end Outflow

end World

/-! ### Handling one event -/

/-- What handling one event may ask of the connection: a writable slot sends at most one
message and may then ask for another slot; an open connection may ask for a slot; nothing else
asks anything. -/
inductive Handles : LinkEvent → List Note → Prop
  | idle : Handles .writable []
  | send (m : Message) : Handles .writable [.send m]
  | sendMore (m : Message) : Handles .writable [.send m, .requestWritable]
  | opened : Handles .connected []
  | openedWaiting : Handles .connected [.requestWritable]
  | received (i : Inbound) : Handles (.received i) []
  | closed : Handles .closed []

namespace World

variable (link : Link τ)

/-- Asking for a slot changes nothing on the outbound path but the record. -/
lemma outflow_requestWritable (w : World (τ × List Note) ω) :
    Outflow w { w with conn := link.traced.requestWritable w.conn } [.requestWritable] :=
  .of_notes rfl rfl rfl rfl

lemma onConnected_handles (w : World (τ × List Note) ω) :
    ∃ asks, Handles .connected asks ∧ Outflow w (onConnected link.traced w) asks := by
  have h₀ : Outflow w (w.share fun sh => sh.publish .connected none) [] := .of_aside (.of_outbound rfl)
  simp only [onConnected]
  split
  · exact ⟨[], .opened, h₀⟩
  · exact ⟨[.requestWritable], .openedWaiting, h₀.trans (outflow_requestWritable link _)⟩

lemma onWritable_of_dequeue {w : World (τ × List Note) ω} {m : Message} {q : Queue}
    (h : w.shared.queue.dequeue = (some m, q)) :
    (onWritable link.traced w).shared.queue = q ∧
      (onWritable link.traced w).conn.2 =
        w.conn.2 ++ .send m :: (if q.isEmpty then [] else [.requestWritable]) ∧
      (onWritable link.traced w).attempts = w.attempts + 1 := by
  simp only [onWritable, h]
  cases hr : (link.send m w.conn.1).1 <;> cases he : q.isEmpty <;>
    simp [Link.traced, hr, he, share, count, attempts] <;> omega

/-- **A writable slot sends one message.** On a sound queue: with nothing waiting the slot asks
nothing and changes nothing on the outbound path; otherwise the oldest message is taken from the
queue and sent, once, and counted once, and another slot is asked for exactly when more
messages wait. -/
lemma onWritable_spec {w : World (τ × List Note) ω} (hq : Queue.Sound w.shared.queue) :
    (w.shared.queue.toList = [] ∧ (onWritable link.traced w).conn.2 = w.conn.2 ∧
        (onWritable link.traced w).shared.queue = w.shared.queue ∧
        (onWritable link.traced w).attempts = w.attempts) ∨
      ∃ m rest, w.shared.queue.toList = m :: rest ∧
        w.shared.queue.dequeue = (some m, (onWritable link.traced w).shared.queue) ∧
        (onWritable link.traced w).shared.queue.toList = rest ∧
        (onWritable link.traced w).conn.2 =
          w.conn.2 ++ .send m :: (if rest = [] then [] else [.requestWritable]) ∧
        (onWritable link.traced w).attempts = w.attempts + 1 := by
  rcases Queue.dequeue_spec hq with ⟨hnil, hdeq⟩ | ⟨m, rest, hl, -, hm, hs, -, hr⟩
  · have he : w.shared.queue.isEmpty = true := (Queue.isEmpty_iff_toList hq).2 hnil
    refine .inl ⟨hnil, ?_⟩
    simp [onWritable, hdeq, share, he, attempts]
  · obtain ⟨hq', hnotes, hcount⟩ := onWritable_of_dequeue link (Prod.ext hm rfl)
    have he : (w.shared.queue.dequeue).2.isEmpty = true ↔ rest = [] := by
      rw [← hr]
      exact Queue.isEmpty_iff_toList hs
    refine .inr ⟨m, rest, hl, by rw [hq']; exact Prod.ext hm rfl, by rw [hq', hr], ?_, hcount⟩
    rw [hnotes]
    by_cases hrest : rest = []
    · simp [hrest, he.2 hrest]
    · have hne : ¬(w.shared.queue.dequeue).2.isEmpty = true := fun h => hrest (he.1 h)
      simp [hrest, hne]

lemma onWritable_handles {w : World (τ × List Note) ω} (hq : Queue.Sound w.shared.queue) :
    ∃ asks, Handles .writable asks ∧ Outflow w (onWritable link.traced w) asks := by
  rcases onWritable_spec link hq with ⟨-, hnotes, hq', hcount⟩ | ⟨m, rest, -, hdeq, -, hnotes, hcount⟩
  · exact ⟨[], .idle, .of_notes (by simp [hnotes]) rfl hq' hcount⟩
  · have hmore : Note.sent (if rest = [] then [] else [.requestWritable]) = [] := by split <;> rfl
    refine ⟨.send m :: (if rest = [] then [] else [.requestWritable]), ?_, hnotes,
      ⟨[], by simpa [hnotes, hmore] using Queue.Flow.rest.send hdeq⟩, by simp [hcount, hmore]⟩
    split
    · exact .send m
    · exact .sendMore m

/-- **Events are handled one by one.** Handling a batch of events asks of the connection, event
by event, what `Handles` allows, and moves the outbound path as a queue with a consumer. -/
lemma handle_handles (es : List LinkEvent) (w : World (τ × List Note) ω)
    (hq : Queue.Sound w.shared.queue) :
    ∃ asks, List.Forall₂ Handles es asks ∧ Outflow w (handle link.traced es w).2 asks.flatten := by
  induction es generalizing w with
  | nil => exact ⟨[], .nil, .refl w⟩
  | cons e es ih =>
    -- the first event is one step; the rest of the batch is handled from where it leaves off
    obtain ⟨a, ha, w₁, hw₁, hstep⟩ : ∃ a, Handles e a ∧ ∃ w₁,
        (handle link.traced (e :: es) w).2 = (handle link.traced es w₁).2 ∧ Outflow w w₁ a := by
      cases e with
      | connected =>
        obtain ⟨a, ha, h⟩ := onConnected_handles link w
        exact ⟨a, ha, _, rfl, h⟩
      | writable =>
        obtain ⟨a, ha, h⟩ := onWritable_handles link hq
        exact ⟨a, ha, _, rfl, h⟩
      | received i =>
        cases i with
        | text t => exact ⟨[], .received _, _, rfl, .of_aside (.of_outbound rfl)⟩
        | binary d => exact ⟨[], .received _, _, rfl, .of_aside (.of_outbound (outbound_play w d))⟩
      | closed => exact ⟨[], .closed, _, rfl, .refl w⟩
    obtain ⟨as, has, hrest⟩ := ih w₁ (hstep.sound hq)
    exact ⟨a :: as, .cons ha has, by simpa [hw₁] using hstep.trans hrest⟩

lemma outflow_close (w : World (τ × List Note) ω) :
    Outflow w { w with conn := (link.traced.close w.conn).2 } [.close] :=
  .of_notes rfl rfl rfl rfl

lemma teardown_outflow (c : Upload.Connector ω) (w : World (τ × List Note) ω) :
    Outflow w (teardown link.traced c w) [.close] := by
  have hstop : Aside w (if w.capturing then (stopCapture c w).2 else w) := by
    split
    · exact .of_outbound (outbound_stopCapture c w)
    · exact .refl w
  have hend := hstop.trans (.of_outbound ((outbound_stopPlayback _).trans (outbound_reap c true _)))
  exact (Outflow.of_aside hend).trans (outflow_close link _)

lemma wantWrite_outflow (w : World (τ × List Note) ω) :
    ∃ want, (want = [] ∨ want = [.requestWritable]) ∧
      Outflow w (wantWrite link.traced w) want := by
  unfold wantWrite
  split
  · exact ⟨[.requestWritable], .inr rfl, .of_notes rfl rfl rfl rfl⟩
  · exact ⟨[], .inl rfl, .refl w⟩

end World

/-! ### A whole run -/

/-- A whole run as its connection sees it: turns, each perhaps asking for a slot and then
handling the events of one service call, event by event; then perhaps a last request for a
slot, and the close. -/
inductive Run : List Note → Prop
  | close {want : List Note} : (want = [] ∨ want = [.requestWritable]) → Run (want ++ [.close])
  | turn {want rest : List Note} {es : List LinkEvent} {asks : List (List Note)} :
      (want = [] ∨ want = [.requestWritable]) → List.Forall₂ Handles es asks → Run rest →
      Run (want ++ .events es :: asks.flatten ++ rest)

section Serve

variable (link : Link τ) (c : Upload.Connector ω)
  (service : ε → World (τ × List Note) ω → Except Error (List LinkEvent) × ε × World (τ × List Note) ω)

lemma noted_ok (hrely : ∀ e w, World.Produces w (service e w).2.2) {e e' : ε}
    {w w' : World (τ × List Note) ω} {es : List LinkEvent} (h : noted service e w = (.ok es, e', w')) :
    World.Outflow w w' [.events es] := by
  have hp := hrely e w
  unfold noted at h
  split at h
  · next es' e₁ w₁ heq =>
    simp only [Prod.mk.injEq, Except.ok.injEq] at h
    obtain ⟨rfl, rfl, rfl⟩ := h
    rw [heq] at hp
    exact (World.Outflow.of_produces hp).trans (.of_notes rfl rfl rfl rfl)
  · next r hr => exact absurd h (hr es e' w')

lemma noted_error (hrely : ∀ e w, World.Produces w (service e w).2.2) {e e' : ε}
    {w w' : World (τ × List Note) ω} {err : Error} (h : noted service e w = (.error err, e', w')) :
    World.Outflow w w' [] := by
  have hp := hrely e w
  unfold noted at h
  split at h
  · simp at h
  · rw [h] at hp
    exact .of_produces hp

/-- **Every run is a sequence of turns.** From a sound queue, under any service calls that act
on the outbound path only as other threads may, a run of the loop asks of its connection what
`Run` allows, and moves its outbound path as a queue with a consumer. -/
lemma serveBy_run (hrely : ∀ e w, World.Produces w (service e w).2.2) (fuel : Nat) (e : ε)
    (w : World (τ × List Note) ω) (hq : Queue.Sound w.shared.queue) :
    ∃ new, Run new ∧ World.Outflow w (serveBy link.traced c (noted service) fuel e w).2 new := by
  have hend : ∀ w : World (τ × List Note) ω,
      ∃ new, Run new ∧ World.Outflow w (w.teardown link.traced c) new :=
    fun w => ⟨[] ++ [.close], .close (.inl rfl), World.teardown_outflow link c w⟩
  -- one turn per unit of fuel; every way out of a turn closes the connection
  induction fuel generalizing e w with
  | zero => exact hend w
  | succ fuel ih =>
    simp only [serveBy]
    split
    · exact hend w
    split
    · next w₁ hdrain =>
      obtain ⟨new, hrun, hout⟩ := hend w₁
      exact ⟨new, hrun, (World.Outflow.of_aside (.of_pair (World.aside_drain c) hdrain)).trans hout⟩
    · next w₁ hdrain =>
      have h₁ : World.Outflow w (World.reap c false w₁) [] :=
        .of_aside ((World.Aside.of_pair (World.aside_drain c) hdrain).trans
          (.of_outbound (World.outbound_reap c false w₁)))
      obtain ⟨want, hwant, h₂⟩ := World.wantWrite_outflow link (World.reap c false w₁)
      split
      · next err e₂ w₂ hsvc =>
        have hout := (h₁.trans h₂).trans ((noted_error service hrely hsvc).trans
          (World.teardown_outflow link c w₂))
        exact ⟨want ++ [.close], .close hwant, by simpa using hout⟩
      · next es e₂ w₂ hsvc =>
        have h₃ := (h₁.trans h₂).trans (noted_ok service hrely hsvc)
        obtain ⟨asks, hasks, h₄⟩ := World.handle_handles link es w₂ (h₃.sound hq)
        split
        · next w₃ hh =>
          rw [hh] at h₄
          have hout := (h₃.trans h₄).trans (World.teardown_outflow link c w₃)
          exact ⟨want ++ .events es :: asks.flatten ++ ([] ++ [.close]),
            .turn hwant hasks (.close (.inl rfl)), by simpa using hout⟩
        · next w₃ hh =>
          rw [hh] at h₄
          obtain ⟨rest, hrest, h₅⟩ := ih e₂ w₃ ((h₃.trans h₄).sound hq)
          exact ⟨want ++ .events es :: asks.flatten ++ rest, .turn hwant hasks hrest,
            by simpa using (h₃.trans h₄).trans h₅⟩

/-- **The loop sends what was queued, one message per writable slot.** Over any connection and
any upload peer, under service calls that touch the outbound path only as other threads may
(queueing messages and shutting the queue), every run of the loop from a sound queue asks of
its connection turn by turn what `Run` allows: it sends only while handling a writable slot,
and at most one message for each. The messages sent are a prefix of what the queue held and
then accepted, in order; messages leave the queue only by being sent or by a shutdown, and
while the queue runs, what was sent and what it still holds make up everything it accepted.
Every message sent is counted once, as sent or as failed. And each writable slot sends the
oldest waiting message, if any, and asks for another slot exactly when more are waiting. -/
theorem sends_follow_queue_order (hrely : ∀ e w, World.Produces w (service e w).2.2) :
    (∀ (fuel : Nat) (e e' : ε) (w w' : World (τ × List Note) ω), Queue.Sound w.shared.queue →
      serve link.traced c (noted service) fuel e w = (e', w') →
      ∃ new acc, w'.conn.2 = w.conn.2 ++ new ∧ Run new ∧
        Queue.Flow (Note.sent w.conn.2, w.shared.queue) acc (Note.sent w'.conn.2, w'.shared.queue) ∧
        Note.sent new <+: w.shared.queue.toList ++ acc ∧
        (w'.shared.queue.active = true →
          Note.sent new ++ w'.shared.queue.toList = w.shared.queue.toList ++ acc) ∧
        w'.attempts = w.attempts + (Note.sent new).length) ∧
    ∀ w : World (τ × List Note) ω, Queue.Sound w.shared.queue →
      (w.shared.queue.toList = [] ∧ (World.onWritable link.traced w).conn.2 = w.conn.2 ∧
          (World.onWritable link.traced w).shared.queue = w.shared.queue ∧
          (World.onWritable link.traced w).attempts = w.attempts) ∨
        ∃ m rest, w.shared.queue.toList = m :: rest ∧
          w.shared.queue.dequeue = (some m, (World.onWritable link.traced w).shared.queue) ∧
          (World.onWritable link.traced w).shared.queue.toList = rest ∧
          (World.onWritable link.traced w).conn.2 =
            w.conn.2 ++ .send m :: (if rest = [] then [] else [.requestWritable]) ∧
          (World.onWritable link.traced w).attempts = w.attempts + 1 := by
  refine ⟨?_, fun w hq => World.onWritable_spec link hq⟩
  intro fuel e e' w w' hq hrun
  obtain ⟨new, hnew, hout⟩ := serveBy_run link c service hrely fuel e w hq
  -- ending the loop touches only its status: the outbound path is where the last turn left it
  have hw' : w' = ((serveBy link.traced c (noted service) fuel e w).2).share Shared.finish := by
    simp only [serve] at hrun
    exact (Prod.mk.inj hrun).2.symm
  subst hw'
  obtain ⟨acc, hflow⟩ := hout.flow
  obtain ⟨-, out, hout', hpre, hrunning⟩ := Queue.Flow.fifo hq hflow
  have hsent : out = Note.sent new := by
    simpa [hout.notes] using hout'.symm
  subst hsent
  exact ⟨new, acc, hout.notes, hnew, hflow, hpre, fun ha => (hrunning ha).2, hout.counted⟩

end Serve

/-- Three turns of a loop whose every service call reports one writable slot, from a queue
holding two texts: the run reads as turns, and what it sends is a prefix of the two texts and
what the queue accepted after them. -/
theorem writable_slots_send_queued_texts :
    (∀ (e : Unit) (w : World (Connection × List Note) Upload.Scripted),
      World.Produces w ((fun e w => (.ok [.writable], e, w) :
        Unit → World (Connection × List Note) Upload.Scripted →
          Except Error (List LinkEvent) × Unit × World (Connection × List Note) Upload.Scripted)
        e w).2.2) ∧
    Queue.Sound (((Queue.create 2).put (.text "a")).put (.text "b")) ∧
    ∃ new acc, Run new ∧
      Note.sent new <+: (((Queue.create 2).put (.text "a")).put (.text "b")).toList ++ acc := by
  have hrely : ∀ (e : Unit) (w : World (Connection × List Note) Upload.Scripted),
      World.Produces w ((fun e w => (.ok [.writable], e, w) :
        Unit → World (Connection × List Note) Upload.Scripted →
          Except Error (List LinkEvent) × Unit × World (Connection × List Note) Upload.Scripted)
        e w).2.2 := fun _ _ => ⟨rfl, rfl, rfl, [], .rest⟩
  have h₁ : Queue.spec.Reachable (Queue.create 2) ((Queue.create 2).put (.text "a")) :=
    .turn (c := .push (.text "a")) .init rfl
  have h₂ : Queue.spec.Reachable (Queue.create 2) (((Queue.create 2).put (.text "a")).put (.text "b")) :=
    .turn (c := .push (.text "b")) h₁ rfl
  have hq := (Queue.sound_of_reachable h₂).1
  obtain ⟨new, acc, -, hrun, -, hpre, -⟩ :=
    (sends_follow_queue_order scriptedLink (Upload.Scripted.connector "host") _ hrely).1 3 () _
      { shared := { config := {}, queue := ((Queue.create 2).put (.text "a")).put (.text "b"),
                    capture := Buffer.Capture.create 0, running := true },
        device := {}, conn := ({}, []), peer := {} } _ hq rfl
  exact ⟨hrely, hq, new, acc, hrun, hpre⟩

end Talkback.Client
