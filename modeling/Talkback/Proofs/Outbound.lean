import Talkback.Client.Loop
import Talkback.Proofs.Queue

/-!
What the loop's bookkeeping does to the outbound path.

The outbound path of a world is its connection, its queue, and its counts of messages sent and
failed. Everything the loop does besides handling a writable slot, asking for one and closing
the connection leaves that path alone, except that capture in relay mode queues each frame it
is handed as a binary message. So every such step is `Aside`: the connection is untouched, no
message is counted as sent or failed, and the queue only takes messages by pushes (and may be
shut, as other threads do). Taking control requests, answering callers, starting and stopping
capture and playback, playing audio, and letting the upload thread catch up all are.
-/

namespace Talkback.Client

open Dispatch (Message Queue)

namespace World

variable {τ ω : Type}

/-- The connection, the queue, and the counts of messages sent and failed. -/
def outbound (w : World τ ω) : τ × Queue × Nat × Nat :=
  (w.conn, w.shared.queue, w.shared.diag.messagesSent, w.shared.diag.sendErrors)

/-- `w'` follows `w` without anything asked of the connection or counted as sent or failed,
the queue taking messages by pushes and perhaps being shut. -/
structure Aside (w w' : World τ ω) : Prop where
  conn : w'.conn = w.conn
  sent : w'.shared.diag.messagesSent = w.shared.diag.messagesSent
  failed : w'.shared.diag.sendErrors = w.shared.diag.sendErrors
  fills : ∃ acc, Queue.Flow ([], w.shared.queue) acc ([], w'.shared.queue)

namespace Aside

variable {w w' w'' : World τ ω}

lemma refl (w : World τ ω) : Aside w w := ⟨rfl, rfl, rfl, [], .rest⟩

lemma trans (h : Aside w w') (h' : Aside w' w'') : Aside w w'' := by
  obtain ⟨acc, hf⟩ := h.fills
  obtain ⟨acc', hf'⟩ := h'.fills
  exact ⟨h'.conn.trans h.conn, h'.sent.trans h.sent, h'.failed.trans h.failed,
    acc ++ acc', hf.trans hf'⟩

lemma of_outbound (h : w'.outbound = w.outbound) : Aside w w' := by
  simp only [outbound, Prod.mk.injEq] at h
  obtain ⟨hc, hq, hs, hf⟩ := h
  exact ⟨hc, hs, hf, [], hq ▸ .rest⟩

/-- A step that is always aside, taken apart by its result. -/
lemma of_pair {α : Type} {f : World τ ω → α × World τ ω} (hf : ∀ w, Aside w (f w).2) {r : α}
    (h : f w = (r, w')) : Aside w w' := by
  simpa [h] using hf w

end Aside

/-! ### Steps that leave the outbound path alone -/

section Bookkeeping

variable (c : Upload.Connector ω)

lemma outbound_giveUp (w : World τ ω) (k : Worker) (halts : Nat) (s : Upload.Session) (p : ω)
    (e : Error) : (giveUp c w k halts s p e).outbound = w.outbound := by
  unfold giveUp
  split <;> rfl

lemma outbound_pumpBy (n : Nat) (w : World τ ω) : (pumpBy c n w).outbound = w.outbound := by
  -- a chunk sent, a request ended or given up changes the thread, the channel and the peer
  fun_induction pumpBy c n w with
  | case3 => rename_i ih; exact ih
  | case4 => exact outbound_giveUp ..
  | case7 => exact outbound_giveUp ..
  | _ => rfl

@[simp] lemma outbound_pump (w : World τ ω) : (pump c w).outbound = w.outbound :=
  outbound_pumpBy c _ w

@[simp] lemma outbound_reap (wait : Bool) (w : World τ ω) :
    (reap c wait w).outbound = w.outbound := by
  have hw : (if wait then pump c w else w).outbound = w.outbound := by split <;> simp
  simp only [reap]
  split <;> exact hw

lemma outbound_offer (w : World τ ω) (frame : List UInt8) :
    (offer c w frame).outbound = w.outbound := by
  unfold offer
  split
  · split
    · rfl
    · split
      · exact outbound_pump c _
      · rfl
  · rfl

lemma outbound_stopCapture (w : World τ ω) : (stopCapture c w).2.outbound = w.outbound := by
  unfold stopCapture
  split
  · rfl
  · exact outbound_pump c _

end Bookkeeping

@[simp] lemma outbound_answer (w : World τ ω) (k : Nat) (a : Answer) :
    (w.answer k a).outbound = w.outbound := rfl

@[simp] lemma outbound_stopPlayback (w : World τ ω) : w.stopPlayback.outbound = w.outbound := by
  unfold stopPlayback
  split <;> rfl

lemma outbound_ensurePlayback (w : World τ ω) : w.ensurePlayback.2.outbound = w.outbound := by
  unfold ensurePlayback
  split
  · rfl
  · dsimp only
    split <;> rfl

lemma outbound_of_ensurePlayback {w w' : World τ ω} {r : Except Error Unit}
    (h : w.ensurePlayback = (r, w')) : w'.outbound = w.outbound := by
  simpa [h] using outbound_ensurePlayback w

lemma outbound_play (w : World τ ω) (data : List UInt8) : (w.play data).outbound = w.outbound := by
  simp only [play]
  split
  · rfl
  · split
    · next _ _ w₁ heq => exact (outbound_of_ensurePlayback heq :)
    · next _ w₁ heq =>
      -- from the world playback opened in, audio goes to the ring or the device
      refine Eq.trans ?_ (outbound_of_ensurePlayback heq :)
      split
      · rfl
      · split
        · rfl
        · split <;> rfl

/-! ### Steps that may queue messages -/

/-- Queueing a message is a push, whether or not the queue takes it. -/
lemma aside_enqueue (w : World τ ω) (m : Message) : Aside w (w.share fun sh => (sh.enqueue m).2) := by
  simp only [share, Shared.enqueue]
  split
  · next q hq => exact ⟨rfl, rfl, rfl, _, .push .rest hq⟩
  · exact .of_outbound rfl

section Capture

variable (c : Upload.Connector ω)

lemma aside_feed (s : Sink) (w : World τ ω) (frame : List UInt8) : Aside w (feed c s w frame) := by
  cases s with
  | record => exact .of_outbound (by simp only [feed]; split <;> rfl)
  | stream =>
    refine .of_outbound ((outbound_offer c _ frame).trans ?_)
    dsimp only
    split <;> rfl
  | relay => exact aside_enqueue w (.binary frame)

lemma aside_foldl_feed (s : Sink) (frames : List (List UInt8)) (w : World τ ω) :
    Aside w (frames.foldl (feed c s) w) := by
  induction frames generalizing w with
  | nil => exact .refl w
  | cons f fs ih => exact (aside_feed c s w f).trans (ih _)

lemma aside_attach (s : Sink) (w : World τ ω) : Aside w (attach c s w).2 := by
  unfold attach
  split
  · exact .refl w
  · exact (aside_foldl_feed c s _ w).trans (.of_outbound rfl)

lemma aside_startStream (token : String) (w : World τ ω) : Aside w (startStream c token w).2 := by
  have hreap := Aside.of_outbound (outbound_reap c true w)
  simp only [startStream]
  split
  · exact hreap
  · split
    · next _ _ w₂ heq =>
      have hattach := Aside.of_pair (aside_attach c .stream) heq
      refine hreap.trans (Aside.trans ?_ (hattach.trans (.of_outbound rfl)))
      exact .of_outbound rfl
    · next _ w₂ heq =>
      have hattach := Aside.of_pair (aside_attach c .stream) heq
      refine hreap.trans (Aside.trans ?_ (hattach.trans ?_))
      · exact .of_outbound rfl
      · split
        · exact .of_outbound rfl
        · exact .of_outbound (outbound_pump c _)

/-- Whatever starts the sink, a capture start ends by telling its outcome apart and, if the sink
started, marking the capture running and publishing its start: what holds of the world the sink
left, and what that marking keeps, holds after the start. -/
lemma started_of {P : World τ ω → Prop} {r : Except Error Unit × World τ ω}
    (hmark : ∀ w : World τ ω, P w → P ({ w with capturing := true }.share fun sh =>
      (sh.publish .capturing none).emitActivity .captureStarted))
    (h : P r.2) :
    P (match r with
      | (Except.error e, w) => (Except.error e, w)
      | (Except.ok (), w) => (Except.ok (), { w with capturing := true }.share fun sh =>
          (sh.publish .capturing none).emitActivity .captureStarted)).2 := by
  obtain ⟨res, w₂⟩ := r
  cases res with
  | error e => exact h
  | ok u => exact hmark w₂ h

lemma aside_started {w w₁ : World τ ω} {r : Except Error Unit × World τ ω} (h₁ : Aside w w₁)
    (hr : Aside w₁ r.2) :
    Aside w (match r with
      | (Except.error e, w) => (Except.error e, w)
      | (Except.ok (), w) => (Except.ok (), { w with capturing := true }.share fun sh =>
          (sh.publish .capturing none).emitActivity .captureStarted)).2 :=
  started_of (P := Aside w) (fun _ h => h.trans (.of_outbound rfl)) (h₁.trans hr)

lemma aside_startCapture (mode : CaptureMode) (w : World τ ω) :
    Aside w (startCapture c mode w).2 := by
  unfold startCapture
  split
  · exact .refl w
  have h₁ : Aside w (w.share fun sh => { sh with capture := sh.capture.clear }) := .of_outbound rfl
  -- each mode starts its sink by a step already known to be aside
  cases mode with
  | record => exact aside_started h₁ (aside_attach c .record _)
  | relay => exact aside_started h₁ (aside_attach c .relay _)
  | stream token => exact aside_started h₁ (aside_startStream c token _)

lemma aside_carryOut (rs : List Request) (w : World τ ω) : Aside w (carryOut c rs w).2 := by
  induction rs generalizing w with
  | nil => exact .refl w
  | cons r rs ih =>
    cases r with
    | startCapture m k =>
      exact (aside_startCapture c m w).trans (.trans (by exact .of_outbound rfl) (ih _))
    | stopCapture k =>
      exact (Aside.of_outbound (outbound_stopCapture c w)).trans
        (.trans (by exact .of_outbound rfl) (ih _))
    | playClip a => exact (Aside.of_outbound (outbound_play w a)).trans (ih _)
    | stopPlayback => exact (Aside.of_outbound (outbound_stopPlayback w)).trans (ih _)
    | disconnect => exact .of_outbound rfl

/-- Taking the control requests is aside. -/
lemma aside_drain (w : World τ ω) : Aside w (drain c w).2 := by
  unfold drain
  exact .trans (by exact .of_outbound rfl) (aside_carryOut c _ _)

end Capture

end World

end Talkback.Client
