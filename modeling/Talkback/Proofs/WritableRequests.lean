import Talkback.Client.Start
import Talkback.Proofs.Interleaved
import Talkback.Proofs.Outbound

/-!
No message whose queueing has returned waits without a writable slot asked for.

A writable slot is asked for in three places: by the request before each service call, when a
caller's bookkeeping has raised the flag since the last one (`wantWrite`); after each writable
slot, while messages wait (`rearm`); and after the open, for the messages left from before it.
Along any interleaving of the loop's steps with other threads (`Pace.Step`), once the open has
been handled, two facts hold (`Pace.Inv`). Every message whose call has returned is covered: by
a slot asked for since the last one was taken, or by the raised flag, which the next request
turns into one (`Pace.Covered`). And from that request on to the end of the turn, no message
whose call returned before the turn began is left without a slot asked for
(`Pace.Unsettled`). Between a slot taken and the check after it nothing need hold: the check
puts it right.

Queueing by the loop itself (a relaying capture's first frames, when the loop starts it) only
adds messages at the end of the queue and raises the flag (`World.Enqueues`); everything else
the loop does leaves the queue and the flag alone (`World.outbox`).
-/

namespace Talkback.Client

open Dispatch (Message Queue)
open Transport (LinkEvent Inbound)

namespace World

variable {τ ω : Type}

/-- The queue and the flag asking for a writable slot. -/
def outbox (w : World τ ω) : Queue × Bool := (w.shared.queue, w.shared.writeWanted)

/-! ### Steps that leave the queue and the flag alone -/

section Bookkeeping

variable (c : Upload.Connector ω)

lemma outbox_giveUp (w : World τ ω) (k : Worker) (halts : Nat) (s : Upload.Session) (p : ω)
    (e : Error) : (giveUp c w k halts s p e).outbox = w.outbox := by
  unfold giveUp
  split <;> rfl

lemma outbox_pumpBy (n : Nat) (w : World τ ω) : (pumpBy c n w).outbox = w.outbox := by
  fun_induction pumpBy c n w with
  | case3 => rename_i ih; exact ih
  | case4 => exact outbox_giveUp ..
  | case7 => exact outbox_giveUp ..
  | _ => rfl

@[simp] lemma outbox_pump (w : World τ ω) : (pump c w).outbox = w.outbox :=
  outbox_pumpBy c _ w

@[simp] lemma outbox_reap (wait : Bool) (w : World τ ω) : (reap c wait w).outbox = w.outbox := by
  have hw : (if wait then pump c w else w).outbox = w.outbox := by split <;> simp
  simp only [reap]
  split <;> exact hw

lemma outbox_offer (w : World τ ω) (frame : List UInt8) : (offer c w frame).outbox = w.outbox := by
  unfold offer
  split
  · split
    · rfl
    · split
      · exact outbox_pump c _
      · rfl
  · rfl

lemma outbox_stopCapture (w : World τ ω) : (stopCapture c w).2.outbox = w.outbox := by
  unfold stopCapture
  split
  · rfl
  · exact outbox_pump c _

end Bookkeeping

@[simp] lemma outbox_stopPlayback (w : World τ ω) : w.stopPlayback.outbox = w.outbox := by
  unfold stopPlayback
  split <;> rfl

lemma outbox_ensurePlayback (w : World τ ω) : w.ensurePlayback.2.outbox = w.outbox := by
  unfold ensurePlayback
  split
  · rfl
  · dsimp only
    split <;> rfl

lemma outbox_of_ensurePlayback {w w' : World τ ω} {r : Except Error Unit}
    (h : w.ensurePlayback = (r, w')) : w'.outbox = w.outbox := by
  simpa [h] using outbox_ensurePlayback w

lemma outbox_play (w : World τ ω) (data : List UInt8) : (w.play data).outbox = w.outbox := by
  simp only [play]
  split
  · rfl
  · split
    · next _ _ w₁ heq => exact (outbox_of_ensurePlayback heq :)
    · next _ w₁ heq =>
      -- from the world playback opened in, audio goes to the ring or the device
      refine Eq.trans ?_ (outbox_of_ensurePlayback heq :)
      split
      · rfl
      · split
        · rfl
        · split <;> rfl

lemma outbox_teardown (link : Link τ) (c : Upload.Connector ω) (w : World τ ω) :
    (teardown link c w).outbox = w.outbox := by
  have hstop : (if w.capturing then (stopCapture c w).2 else w).outbox = w.outbox := by
    split
    · exact outbox_stopCapture c w
    · rfl
  simp only [teardown]
  exact (outbox_stopPlayback _).trans ((outbox_reap c true _).trans hstop)

/-! ### Steps that queue messages -/

/-- `w'` follows `w` by queueing messages only: a sound queue stays sound and takes messages
at its end, the flag asking for a slot being raised once it has taken any; a raised flag
stays raised. -/
structure Enqueues (w w' : World τ ω) : Prop where
  flag : w.shared.writeWanted = true → w'.shared.writeWanted = true
  queue : Queue.Sound w.shared.queue → Queue.Sound w'.shared.queue ∧
    ∃ ms, w'.shared.queue.toList = w.shared.queue.toList ++ ms ∧
      (ms ≠ [] → w'.shared.writeWanted = true)

namespace Enqueues

variable {w w' w'' : World τ ω}

lemma of_outbox (h : w'.outbox = w.outbox) : Enqueues w w' := by
  simp only [outbox, Prod.mk.injEq] at h
  refine ⟨fun hf => h.2 ▸ hf, fun hs => ⟨h.1 ▸ hs, [], by simp [h.1], fun hne => absurd rfl hne⟩⟩

lemma refl (w : World τ ω) : Enqueues w w := of_outbox rfl

lemma trans (h : Enqueues w w') (h' : Enqueues w' w'') : Enqueues w w'' := by
  refine ⟨fun hf => h'.flag (h.flag hf), fun hs => ?_⟩
  obtain ⟨hs', ms, hl, hm⟩ := h.queue hs
  obtain ⟨hs'', ms', hl', hm'⟩ := h'.queue hs'
  refine ⟨hs'', ms ++ ms', by rw [hl', hl, List.append_assoc], fun hne => ?_⟩
  -- the flag was raised by the later messages, or by the earlier ones and then kept
  by_cases hms' : ms' = []
  · exact h'.flag (hm (by simpa [hms'] using hne))
  · exact hm' hms'

/-- A step that always queues only, taken apart by its result. -/
lemma of_pair {α : Type} {f : World τ ω → α × World τ ω} (hf : ∀ w, Enqueues w (f w).2) {r : α}
    (h : f w = (r, w')) : Enqueues w w' := by
  simpa [h] using hf w

end Enqueues

lemma enqueues_enqueue (w : World τ ω) (m : Message) :
    Enqueues w (w.share fun sh => (sh.enqueue m).2) := by
  simp only [share, Shared.enqueue]
  split
  · next q hq =>
    refine ⟨fun _ => rfl, fun hs => ?_⟩
    obtain ⟨-, hs', -, hl⟩ := Queue.push_eq_ok hs hq
    exact ⟨hs', [m], hl, fun _ => rfl⟩
  · exact .of_outbox rfl

section Capture

variable (c : Upload.Connector ω)

lemma enqueues_feed (s : Sink) (w : World τ ω) (frame : List UInt8) : Enqueues w (feed c s w frame) := by
  cases s with
  | record => exact .of_outbox (by simp only [feed]; split <;> rfl)
  | stream =>
    refine .of_outbox ((outbox_offer c _ frame).trans ?_)
    dsimp only
    split <;> rfl
  | relay => exact enqueues_enqueue w (.binary frame)

lemma enqueues_foldl_feed (s : Sink) (frames : List (List UInt8)) (w : World τ ω) :
    Enqueues w (frames.foldl (feed c s) w) := by
  induction frames generalizing w with
  | nil => exact .refl w
  | cons f fs ih => exact (enqueues_feed c s w f).trans (ih _)

lemma enqueues_attach (s : Sink) (w : World τ ω) : Enqueues w (attach c s w).2 := by
  unfold attach
  split
  · exact .refl w
  · exact (enqueues_foldl_feed c s _ w).trans (.of_outbox rfl)

lemma enqueues_startStream (token : String) (w : World τ ω) : Enqueues w (startStream c token w).2 := by
  have hreap : Enqueues w (reap c true w) := .of_outbox (outbox_reap c true w)
  simp only [startStream]
  split
  · exact hreap
  · split
    · next _ _ w₂ heq =>
      have hattach := Enqueues.of_pair (enqueues_attach c .stream) heq
      refine hreap.trans (Enqueues.trans ?_ (hattach.trans (.of_outbox rfl)))
      exact .of_outbox rfl
    · next _ w₂ heq =>
      have hattach := Enqueues.of_pair (enqueues_attach c .stream) heq
      refine hreap.trans (Enqueues.trans ?_ (hattach.trans ?_))
      · exact .of_outbox rfl
      · split
        · exact .of_outbox rfl
        · exact .of_outbox (outbox_pump c _)

lemma enqueues_startCapture (mode : CaptureMode) (w : World τ ω) :
    Enqueues w (startCapture c mode w).2 := by
  unfold startCapture
  split
  · exact .refl w
  have h₁ : Enqueues w (w.share fun sh => { sh with capture := sh.capture.clear }) := .of_outbox rfl
  -- each mode starts its sink by a step that only queues; marking the capture running is aside
  refine started_of (P := Enqueues w) (fun _ h => h.trans (.of_outbox rfl)) (h₁.trans ?_)
  cases mode with
  | record => exact enqueues_attach c .record _
  | relay => exact enqueues_attach c .relay _
  | stream token => exact enqueues_startStream c token _

lemma enqueues_carryOut (rs : List Request) (w : World τ ω) : Enqueues w (carryOut c rs w).2 := by
  induction rs generalizing w with
  | nil => exact .refl w
  | cons r rs ih =>
    cases r with
    | startCapture m k =>
      exact (enqueues_startCapture c m w).trans (.trans (by exact .of_outbox rfl) (ih _))
    | stopCapture k =>
      exact (Enqueues.of_outbox (outbox_stopCapture c w)).trans (.trans (by exact .of_outbox rfl) (ih _))
    | playClip a => exact (Enqueues.of_outbox (outbox_play w a)).trans (ih _)
    | stopPlayback => exact (Enqueues.of_outbox (outbox_stopPlayback w)).trans (ih _)
    | disconnect => exact .of_outbox rfl

/-- Taking the control requests only queues messages. -/
lemma enqueues_drain (w : World τ ω) : Enqueues w (drain c w).2 := by
  unfold drain
  exact .trans (by exact .of_outbox rfl) (enqueues_carryOut c _ _)

end Capture

/-! ### The loop's own steps on the queue -/

variable (link : Link τ)

lemma takeSlot_queue (w : World τ ω) : (takeSlot link w).shared.queue = w.shared.queue.dequeue.2 := by
  rcases hd : w.shared.queue.dequeue with ⟨_ | m, q⟩
  · simp only [takeSlot, hd]
    rfl
  · simp only [takeSlot, hd]
    split <;> rfl

@[simp] lemma outbox_rearm (w : World τ ω) : (rearm link w).outbox = w.outbox := by
  unfold rearm
  split <;> rfl

lemma wantWrite_queue (w : World τ ω) : (wantWrite link w).shared.queue = w.shared.queue := by
  unfold wantWrite
  split <;> rfl

lemma wantWrite_of_lowered {w : World τ ω} (h : w.shared.writeWanted = false) : wantWrite link w = w := by
  simp [wantWrite, h]

end World

/-! ### The invariant of a run -/

namespace Pace

variable {τ ω : Type} (link : Link τ) (c : Upload.Connector ω)

/-- Every message whose call has returned is covered: by a slot asked for since the last one
was taken, or by the raised flag. -/
def Covered (p : Pace τ ω) : Prop :=
  p.asked = true ∨ p.world.shared.writeWanted = true ∨ ∀ x ∈ p.calls, x = .running

/-- No message whose call returned before the turn began waits without a slot asked for. -/
def Unsettled (p : Pace τ ω) : Prop := p.asked = true ∨ .settled ∉ p.calls

/-- What each point of a turn keeps: the first steps of a turn keep messages covered; from
the request for a slot on, no message settled before the turn waits unasked. -/
def Keeps (p : Pace τ ω) : Prop :=
  match p.pc with
  | .top | .drain | .reap | .swap => p.Covered
  | .service | .handle .. => p.Covered ∧ p.Unsettled
  | .rearm .. | .exit | .done => True

/-- The queue is sound and has one call for each message it holds; once the open has been
handled, each point of a turn keeps what it should. -/
structure Inv (p : Pace τ ω) : Prop where
  sound : Queue.Sound p.world.shared.queue
  calls : p.calls.length = p.world.shared.queue.toList.length
  keeps : p.opened = true → p.Keeps

lemma covered_of_running {p : Pace τ ω} (h : ∀ x ∈ p.calls, x = .running) : p.Covered :=
  .inr (.inr h)

lemma unsettled_of_running {p : Pace τ ω} (h : ∀ x ∈ p.calls, x = .running) : p.Unsettled :=
  .inr fun hs => by cases h _ hs

lemma calls_nil_of_isEmpty {p : Pace τ ω} (h : p.Inv) (he : p.world.shared.queue.isEmpty = true) :
    p.calls = [] := by
  have hnil := (Queue.isEmpty_iff_toList h.sound).1 he
  exact List.eq_nil_of_length_eq_zero (by rw [h.calls, hnil, List.length_nil])

/-! ### Steps of the loop -/

variable {p : Pace τ ω}

lemma inv_settle (h : p.Inv) (hpc : p.pc = .top) :
    ({ p with pc := .drain, calls := p.calls.map Call.settle } : Pace τ ω).Inv := by
  have hkeeps := h.keeps
  simp only [Keeps, hpc] at hkeeps
  refine ⟨h.sound, by simpa using h.calls, fun hop => ?_⟩
  obtain hask | hflag | hrun := hkeeps hop
  · exact .inl hask
  · exact .inr (.inl hflag)
  · -- a call still running stays running
    refine covered_of_running fun x hx => ?_
    obtain ⟨y, hy, rfl⟩ := List.mem_map.1 hx
    rw [hrun y hy]
    rfl

lemma inv_drain (h : p.Inv) (hpc : p.pc = .drain) :
    ({ p with pc := if (p.world.drain c).1 then .reap else .exit, world := (p.world.drain c).2,
              calls := p.grow (p.world.drain c).2 } : Pace τ ω).Inv := by
  have henq := World.enqueues_drain c p.world
  obtain ⟨hs, ms, hl, hm⟩ := henq.queue h.sound
  have hgrow : p.grow (p.world.drain c).2 = p.calls ++ List.replicate ms.length .returned := by
    simp [grow, hl]
  refine ⟨hs, by simp [hgrow, hl, h.calls], fun hop => ?_⟩
  have hkeeps := h.keeps hop
  simp only [Keeps, hpc] at hkeeps
  -- if the loop goes on, what it queued itself raised the flag
  have hcov : ({ p with pc := .reap, world := (p.world.drain c).2, calls := p.grow (p.world.drain c).2 } :
      Pace τ ω).Covered := by
    by_cases hms : ms = []
    · subst hms
      obtain hask | hflag | hrun := hkeeps
      · exact .inl hask
      · exact .inr (.inl (henq.flag hflag))
      · exact covered_of_running (by simpa [hgrow] using hrun)
    · exact .inr (.inl (hm hms))
  cases hmore : (p.world.drain c).1
  · simp [Keeps]
  · simpa [Keeps] using hcov

lemma inv_reap (h : p.Inv) (hpc : p.pc = .reap) :
    ({ p with pc := .swap, world := World.reap c false p.world } : Pace τ ω).Inv := by
  have hbox := World.outbox_reap c false p.world
  simp only [World.outbox, Prod.mk.injEq] at hbox
  have hkeeps := h.keeps
  simp only [Keeps, hpc] at hkeeps
  refine ⟨by rw [hbox.1]; exact h.sound, by rw [hbox.1]; exact h.calls, fun hop => ?_⟩
  simpa [Keeps, Covered, hbox.2] using hkeeps hop

lemma inv_swap (h : p.Inv) (hpc : p.pc = .swap) :
    ({ p with pc := .service, world := World.wantWrite link p.world,
              asked := p.asked || p.world.shared.writeWanted } : Pace τ ω).Inv := by
  have hq := World.wantWrite_queue link p.world
  refine ⟨by rw [hq]; exact h.sound, by rw [hq]; exact h.calls, fun hop => ?_⟩
  have hkeeps := h.keeps hop
  simp only [Keeps, hpc] at hkeeps
  simp only [Keeps, Covered, Unsettled]
  cases hflag : p.world.shared.writeWanted
  · -- nothing was queued since the last request: every call that returned is still covered
    rw [World.wantWrite_of_lowered link hflag]
    rcases hkeeps with hask | hf | hrun
    · simp [hask]
    · simp [hflag] at hf
    · exact ⟨.inr (.inr hrun), .inr fun hs => by cases hrun _ hs⟩
  · -- the request asks for a slot
    simp

lemma inv_service (h : p.Inv) (hpc : p.pc = .service) (answer : Except Error (List LinkEvent)) :
    (match answer with
      | .ok es => { p with pc := .handle es false }
      | .error _ => { p with pc := .exit } : Pace τ ω).Inv := by
  have hkeeps := h.keeps
  simp only [Keeps, hpc] at hkeeps
  cases answer with
  | ok es => exact ⟨h.sound, h.calls, fun hop => hkeeps hop⟩
  | error e => exact ⟨h.sound, h.calls, fun _ => trivial⟩

lemma inv_writable (h : p.Inv) (es : List LinkEvent) (closed : Bool) :
    ({ p with pc := .rearm false es closed, world := World.takeSlot link p.world,
              calls := p.calls.tail, asked := false } : Pace τ ω).Inv := by
  have hq := World.takeSlot_queue link p.world
  refine ⟨?_, ?_, fun _ => trivial⟩
  · -- a slot takes the oldest message, if there is one
    show Queue.Sound (World.takeSlot link p.world).shared.queue
    rw [hq]
    rcases Queue.dequeue_spec h.sound with ⟨-, hnone⟩ | ⟨-, -, -, -, -, hs, -, -⟩
    · rw [hnone]; exact h.sound
    · exact hs
  · show p.calls.tail.length = (World.takeSlot link p.world).shared.queue.toList.length
    rw [hq]
    rcases Queue.dequeue_spec h.sound with ⟨hnil, hnone⟩ | ⟨m, rest, hl, -, -, -, -, hr⟩
    · have hc : p.calls = [] := List.eq_nil_of_length_eq_zero (by rw [h.calls, hnil, List.length_nil])
      simp [hnone, hc, hnil]
    · simp [hr, h.calls, hl]

lemma inv_rearm (h : p.Inv) (opening : Bool) (es : List LinkEvent) (closed : Bool) :
    ({ p with pc := .handle es closed, world := World.rearm link p.world,
              asked := p.asked || !p.world.shared.queue.isEmpty,
              opened := p.opened || opening } : Pace τ ω).Inv := by
  have hbox := World.outbox_rearm link p.world
  simp only [World.outbox, Prod.mk.injEq] at hbox
  refine ⟨by rw [hbox.1]; exact h.sound, by rw [hbox.1]; exact h.calls, fun _ => ?_⟩
  simp only [Keeps, Covered, Unsettled]
  cases he : p.world.shared.queue.isEmpty
  · -- messages wait, so the check asks for a slot
    simp
  · -- nothing waits, so no call is left
    have hc := calls_nil_of_isEmpty h he
    simp [hc]

/-- At a point that handles events, once the open has been handled, messages are covered and
none settled before the turn waits unasked. -/
lemma keeps_of_handle (h : p.Inv) {es : List LinkEvent} {closed : Bool} (hpc : p.pc = .handle es closed) :
    p.opened = true → p.Covered ∧ p.Unsettled := fun hop => by
  have hk := h.keeps hop
  simpa [Keeps, hpc] using hk

lemma inv_onEvent (h : p.Inv) (hk : p.opened = true → p.Covered ∧ p.Unsettled) (es : List LinkEvent)
    (closed : Bool) (e : LinkEvent) : (p.onEvent link es closed e).Inv := by
  -- an event other than a slot or an open leaves the queue, the flag and the calls alone
  have haside : ∀ (w : World τ ω) (closed' : Bool), w.outbox = p.world.outbox →
      ({ p with pc := .handle es closed', world := w } : Pace τ ω).Inv := by
    intro w closed' hw
    simp only [World.outbox, Prod.mk.injEq] at hw
    refine ⟨by rw [hw.1]; exact h.sound, by rw [hw.1]; exact h.calls, fun hop => ?_⟩
    simpa [Keeps, Covered, Unsettled, hw.2] using hk hop
  cases e with
  | connected => exact ⟨h.sound, h.calls, fun _ => trivial⟩
  | writable => exact inv_writable link h es closed
  | received i =>
    cases i with
    | text t => exact haside _ closed rfl
    | binary d => exact haside _ closed (World.outbox_play p.world d)
  | closed => exact haside p.world true rfl

lemma inv_teardown (h : p.Inv) :
    ({ p with pc := .done, world := p.world.teardown link c } : Pace τ ω).Inv := by
  have hbox := World.outbox_teardown link c p.world
  simp only [World.outbox, Prod.mk.injEq] at hbox
  exact ⟨by rw [hbox.1]; exact h.sound, by rw [hbox.1]; exact h.calls, fun _ => trivial⟩

/-- **Every step of the loop keeps the invariant.** -/
lemma inv_advance (h : p.Inv) (answer : Except Error (List LinkEvent)) : (p.advance link c answer).Inv := by
  rcases hpc : p.pc with _ | _ | _ | _ | _ | ⟨es, closed⟩ | ⟨opening, es, closed⟩ | _ | _
  all_goals simp only [advance, hpc]
  · split
    · exact inv_settle h hpc
    · exact ⟨h.sound, h.calls, fun _ => trivial⟩
  · exact inv_drain c h hpc
  · exact inv_reap c h hpc
  · exact inv_swap link h hpc
  · exact inv_service h hpc answer
  · cases es with
    | nil =>
      -- the batch is over: the next turn begins with every message still covered
      refine ⟨h.sound, h.calls, fun hop => ?_⟩
      have hk := keeps_of_handle h hpc hop
      cases closed
      · exact hk.1
      · trivial
    | cons e es => exact inv_onEvent link h (keeps_of_handle h hpc) es closed e
  · exact inv_rearm link h opening es closed
  · exact inv_teardown link c h
  · exact h

/-! ### Steps of other threads -/

lemma keeps_of {p' : Pace τ ω} (h : p.Keeps) (hpc : p'.pc = p.pc) (hcov : p.Covered → p'.Covered)
    (hun : p.Unsettled → p'.Unsettled) : p'.Keeps := by
  unfold Keeps at h ⊢
  rw [hpc]
  rcases hq : p.pc <;> simp only [hq] at h ⊢
  all_goals first | trivial | exact hcov h | exact ⟨hcov h.1, hun h.2⟩

/-- **Every step of another thread keeps the invariant.** A push adds a running call; a
caller's bookkeeping raises the flag as it returns its call; a shutdown empties the queue. -/
lemma inv_thread {p' : Pace τ ω} (hs : ThreadStep c p p') (h : p.Inv) : p'.Inv := by
  cases hs with
  | push m =>
    cases hpush : p.world.shared.queue.push m with
    | ok q =>
      obtain ⟨-, hs, -, hl⟩ := Queue.push_eq_ok h.sound hpush
      simp only [Shared.push, hpush]
      refine ⟨hs, by simp [Except.isOk, Except.toBool, hl, h.calls], fun hop => keeps_of (h.keeps hop) rfl ?_ ?_⟩
      · rintro (hask | hflag | hrun)
        · exact .inl hask
        · exact .inr (.inl hflag)
        · refine covered_of_running fun x hx => ?_
          simp [Except.isOk, Except.toBool] at hx
          rcases hx with hx | rfl
          · exact hrun x hx
          · rfl
      · rintro (hask | hnot)
        · exact .inl hask
        · exact .inr (by simpa [Except.isOk, Except.toBool] using hnot)
    | error e =>
      simp only [Shared.push, hpush]
      exact ⟨h.sound, h.calls, fun hop => keeps_of (h.keeps hop) rfl id id⟩
  | note r i =>
    cases r with
    | ok u =>
      refine ⟨h.sound, by simpa [Except.isOk, Except.toBool, Shared.noteEnqueue] using h.calls, fun hop => keeps_of (h.keeps hop) rfl
        (fun _ => .inr (.inl rfl)) ?_⟩
      -- the call returned is not one settled before the turn
      rintro (hask | hnot)
      · exact .inl hask
      · refine .inr fun hs => ?_
        rcases Call.mem_modify_finish (by simpa [Except.isOk, Except.toBool] using hs) with hs | hs
        · exact hnot hs
        · cases hs
    | error e => exact ⟨h.sound, h.calls, fun hop => keeps_of (h.keeps hop) rfl id id⟩
  | shutdown =>
    have hs := Queue.sound_close h.sound
    refine ⟨hs, by simp [Shared.shutdown, Queue.toList_of_shut hs rfl], fun hop => keeps_of (h.keeps hop) rfl ?_ ?_⟩
    · exact fun _ => covered_of_running (by simp)
    · exact fun _ => unsettled_of_running (by simp)
  | act a hq hf =>
    refine ⟨by rw [hq]; exact h.sound, by rw [hq]; exact h.calls, fun hop => keeps_of (h.keeps hop) rfl ?_ ?_⟩
    · simp [Covered, hf]
    · simp [Unsettled]

end Pace

variable {τ ω : Type}

/-- **A queued message whose call has returned keeps a writable slot asked for.** Take any run
of the loop interleaved with other threads, from a sound queue whose messages' calls stand as
`calls` say. At every service call once the open has been handled, if a message whose call
returned before the turn began is still queued, then a writable slot has been asked for since
the last one was taken, or since the run began if none was. -/
theorem queued_messages_keep_slot_asked (link : Link τ) (c : Upload.Connector ω) (w : World τ ω)
    (calls : List Call) (hq : Queue.Sound w.shared.queue)
    (hcalls : calls.length = w.shared.queue.toList.length) {p : Pace τ ω}
    (h : Relation.ReflTransGen (Pace.Step link c) (Pace.start w calls) p) (hpc : p.pc = .service)
    (hopened : p.opened = true) (hwaits : .settled ∈ p.calls) : p.asked = true := by
  have hinv : p.Inv := Pace.Step.induct (fun q a hq => Pace.inv_advance link c hq a)
    (fun q q' hs hq => Pace.inv_thread c hs hq) h ⟨hq, hcalls, fun hop => by simp [Pace.start] at hop⟩
  have hk := hinv.keeps hopened
  simp only [Pace.Keeps, hpc] at hk
  rcases hk.2 with hask | hnot
  · exact hask
  · exact absurd hwaits hnot

/-- A client whose queue holds one text left from before the run. -/
def leftText : World Unit Upload.Scripted :=
  { shared := { config := {}, queue := (Queue.create 1).put (.text "hi"), capture := Buffer.Capture.create 0,
                running := true },
    device := {}, conn := (), peer := {} }

/-- A run of two turns whose first service call reports the open: the check after the open
asks for a slot for the text left in the queue, which at the second service call has waited
since before the turn began. -/
theorem left_text_asked_after_open :
    let p := Pace.advanceAll quietLink (Upload.Scripted.connector "")
      (List.replicate 4 (.ok []) ++ .ok [.connected] :: List.replicate 7 (.ok [])) (Pace.start leftText [.returned])
    Queue.Sound leftText.shared.queue ∧ [Call.returned].length = leftText.shared.queue.toList.length ∧
      Relation.ReflTransGen (Pace.Step quietLink (Upload.Scripted.connector "")) (Pace.start leftText [.returned]) p ∧
      p.pc = .service ∧ p.opened = true ∧ .settled ∈ p.calls ∧ p.asked = true := by
  intro p
  have hrun : Relation.ReflTransGen (Pace.Step quietLink (Upload.Scripted.connector ""))
      (Pace.start leftText [.returned]) p := Pace.reach_advanceAll _ _ _ _
  have hq : Queue.Sound leftText.shared.queue :=
    (Queue.sound_of_reachable (n := 1) (.turn (c := .push (.text "hi")) .init rfl)).1
  have hlen : [Call.returned].length = leftText.shared.queue.toList.length := by decide
  have hpc : p.pc = .service := by decide
  have hop : p.opened = true := by decide
  have hset : .settled ∈ p.calls := by decide
  exact ⟨hq, hlen, hrun, hpc, hop, hset, queued_messages_keep_slot_asked quietLink (Upload.Scripted.connector "")
    leftText [.returned] hq hlen hrun hpc hop hset⟩

end Talkback.Client
