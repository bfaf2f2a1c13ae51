import Mathlib.Tactic.Lemma
import Talkback.Proofs.Streaming

/-!
The ledger of a client's uploads.

A client owns one upload session. A streaming capture lends it to an upload thread, which hands
it back idle once its request has ended, and every request begun takes the session's next
number. As long as no network operation stops a thread, every request ends with exactly one
outcome published under its name. `Holding` says where the session stands between the loop's
steps and how many requests have ended; `Ledger` adds that the outcomes published are those of
the requests ended, named `upload-1`, `upload-2`, … in order, with increasing sequence numbers.
Every step of the loop keeps it, either leaving the requests ended as they were or ending one
and publishing its outcome (`Ledger.keep`, `Ledger.close`), and the teardown leaves no request
open.
-/

namespace Talkback

namespace Upload.Session

variable {ω : Type} (c : Connector ω)

/-- Sending frames keeps the session's count of uploads begun. -/
lemma started_sendAll (fs : List (List UInt8)) (s : Session) (w : ω) :
    (sendAll c fs s w).2.2.1.started = s.started := by
  induction fs generalizing s w with
  | nil => rfl
  | cons f fs ih =>
    have hs := started_append c (s := s) (w := w) f
    simp only [sendAll]
    rcases h : s.append c f w with ⟨_ | u, s', w'⟩
    all_goals rw [h] at hs
    · exact hs
    · cases u
      rcases hr : sendAll c fs s' w' with ⟨m, fail, s'', w''⟩
      have := ih s' w'
      simp only [hr] at this ⊢
      exact this.trans hs

/-- Sending frames with no failure sends every one of them. -/
lemma length_sendAll {fs : List (List UInt8)} {s : Session} {w : ω}
    (h : (sendAll c fs s w).2.1 = none) : (sendAll c fs s w).1 = fs.length := by
  induction fs generalizing s w with
  | nil => rfl
  | cons f fs ih =>
    simp only [sendAll] at h ⊢
    rcases hf : s.append c f w with ⟨_ | u, s', w'⟩
    all_goals rw [hf] at h
    · simp at h
    · cases u
      rcases hr : sendAll c fs s' w' with ⟨m, fail, s'', w''⟩
      have := @ih s' w'
      simp only [hr] at h this ⊢
      simp [this h]

/-- **The sequential uploader's outcome.** With no operation that stops its thread, it always
publishes one: the failure of the first frame that failed to go out; or else the failure of the
end of the request; or else the server's status and body with the number of frames sent, which
is all of them. -/
lemma serveFrames_of_no_halts (hhalts : ∀ p, c.halts p = 0) (fs : List (List UInt8)) (s : Session)
    (p : ω) :
    ∃ o, (serveFrames c fs s p).1 = some o ∧
      ((∃ e h, (sendAll c fs s p).2.1 = some (e, h) ∧ o = .failed e.message) ∨
        ((sendAll c fs s p).2.1 = none ∧
          ((∃ e, ((sendAll c fs s p).2.2.1.finish c (sendAll c fs s p).2.2.2).1 = .error e ∧
              o = .failed e.message) ∨
            ∃ r, ((sendAll c fs s p).2.2.1.finish c (sendAll c fs s p).2.2.2).1 = .ok r ∧
              o = .completed r.status? r.body fs.length))) := by
  have hlen := @length_sendAll ω c fs s p
  unfold serveFrames
  rcases hs : sendAll c fs s p with ⟨n, _ | ⟨e, h⟩, s', p'⟩
  all_goals rw [hs] at hlen; dsimp only at hlen ⊢
  · -- every frame went out: the end of the request decides
    rcases hf : s'.finish c p' with ⟨_ | r, s'', p''⟩
    · next e => exact ⟨.failed e.message, by simp [hhalts], .inr ⟨rfl, .inl ⟨e, rfl, rfl⟩⟩⟩
    · exact ⟨.completed r.status? r.body n, rfl, .inr ⟨rfl, .inr ⟨r, rfl, by rw [hlen rfl]⟩⟩⟩
  · exact ⟨.failed e.message, by simp [hhalts], .inl ⟨e, h, rfl, rfl⟩⟩

end Upload.Session

namespace Client.World

open Upload (Session uploadName)

variable {τ ω : Type} (c : Upload.Connector ω)

/-- Where the session stands once `n` requests have ended: in hand and idle; with an upload
thread that has ended request `n` and returned it idle; or with a thread at work on request
`n + 1` under its name, fed through an empty channel. While no thread works, no upload channel
is read. -/
inductive Holding (w : World τ ω) (n : Nat) : Prop
  | inHand {s : Session} (hup : w.uploads = some s) (hidle : s.phase = .idle)
      (hstarted : s.started = n) (hworker : w.worker = none)
      (hchannel : ∀ ch, w.channel = some ch → ch.heard = false)
  | returned {k : Worker} (hup : w.uploads = none) (hworker : w.worker = some k)
      (hk : k.stage = .returned) (hidle : k.session.phase = .idle) (hstarted : k.session.started = n)
      (hchannel : ∀ ch, w.channel = some ch → ch.heard = false)
  | working {k : Worker} {ch : Channel} (hup : w.uploads = none) (hworker : w.worker = some k)
      (hk : k.stage = .working) (hstarted : k.session.started = n + 1) (hid : k.id = uploadName (n + 1))
      (hchannel : w.channel = some ch) (hfr : ch.frames = []) (hfed : ch.fed = true)
      (hheard : ch.heard = true)

/-- The ledger of a world whose published outcomes were `events₀` when the sequence number was
`q₀`: `n` requests have ended, a thread at work is fed by a running capture, and the outcomes
`new` published since are one for each request ended, named by its number, in order, with
increasing sequence numbers from `q₀` on, all below the next one to be given. -/
structure Ledger (events₀ : List UploadEvent) (q₀ n : Nat) (new : List UploadEvent) (w : World τ ω) :
    Prop where
  holding : Holding w n
  busy : ∀ k, w.worker = some k → k.stage = .working → w.capturing = true
  events : w.shared.uploads = events₀ ++ new
  names : new.map (·.sessionId) = (List.range n).map fun i => uploadName (i + 1)
  ordered : (new.map (·.seq)).Pairwise (· < ·)
  bounds : ∀ ev ∈ new, q₀ ≤ ev.seq ∧ ev.seq < w.shared.seq
  start : q₀ ≤ w.shared.seq

/-- Some number of requests have ended, and the ledger of `w` says so. -/
def Reported (events₀ : List UploadEvent) (q₀ : Nat) (w : World τ ω) : Prop :=
  ∃ n new, Ledger events₀ q₀ n new w

/-- What the ledger reads of a world: the session in hand, the upload thread, the channel,
whether capture runs, and the outcomes published. -/
def ledgerView (w : World τ ω) :
    Option Session × Option Worker × Option Channel × Bool × List UploadEvent :=
  (w.uploads, w.worker, w.channel, w.capturing, w.shared.uploads)

/-- A step that leaves what the ledger reads alone and gives no sequence number back. -/
structure Quiet (w w' : World τ ω) : Prop where
  view : w'.ledgerView = w.ledgerView
  seq : w.shared.seq ≤ w'.shared.seq

namespace Quiet

variable {w w' w'' : World τ ω}

lemma refl (w : World τ ω) : Quiet w w := ⟨rfl, Nat.le_refl _⟩

lemma trans (h : Quiet w w') (h' : Quiet w' w'') : Quiet w w'' :=
  ⟨h'.view.trans h.view, Nat.le_trans h.seq h'.seq⟩

lemma of_view (h : w'.ledgerView = w.ledgerView) (hseq : w'.shared.seq = w.shared.seq) : Quiet w w' :=
  ⟨h, Nat.le_of_eq hseq.symm⟩

/-- A step that is always quiet, taken apart by its result. -/
lemma of_pair {α : Type} {f : World τ ω → α × World τ ω} (hf : ∀ w, Quiet w (f w).2) {r : α}
    (h : f w = (r, w')) : Quiet w w' := by
  simpa [h] using hf w

end Quiet

/-- Where the session stands is read off the session in hand, the thread and the channel. -/
lemma Holding.of_eq {w w' : World τ ω} {n : Nat} (h : Holding w n) (hu : w'.uploads = w.uploads)
    (hw : w'.worker = w.worker) (hc : w'.channel = w.channel) : Holding w' n := by
  cases h with
  | inHand hup hidle hstarted hworker hchannel =>
    exact .inHand (hu.trans hup) hidle hstarted (hw.trans hworker) (hc ▸ hchannel)
  | returned hup hworker hk hidle hstarted hchannel =>
    exact .returned (hu.trans hup) (hw.trans hworker) hk hidle hstarted (hc ▸ hchannel)
  | working hup hworker hk hstarted hid hchannel hfr hfed hheard =>
    exact .working (hu.trans hup) (hw.trans hworker) hk hstarted hid (hc.trans hchannel) hfr hfed hheard

/-- While no thread works, no upload channel is read. -/
lemma Holding.unheard {w : World τ ω} {n : Nat} (h : Holding w n)
    (hthread : ∀ k, w.worker = some k → k.stage ≠ .working) :
    ∀ ch, w.channel = some ch → ch.heard = false := by
  cases h with
  | inHand _ _ _ _ hchannel => exact hchannel
  | returned _ _ _ _ _ hchannel => exact hchannel
  | working _ hworker hk => exact absurd hk (hthread _ hworker)

/-- A thread at work is on the request after those ended, under its name. -/
lemma Holding.working_id {w : World τ ω} {n : Nat} {k : Worker} (h : Holding w n) (hk : w.worker = some k)
    (hs : k.stage = .working) : k.id = uploadName (n + 1) ∧ k.session.started = n + 1 := by
  cases h with
  | inHand _ _ _ hworker => simp [hworker] at hk
  | returned _ hworker hk' =>
    rw [hworker, Option.some.injEq] at hk
    subst hk
    simp [hk'] at hs
  | working _ hworker _ hstarted hid =>
    rw [hworker, Option.some.injEq] at hk
    subst hk
    exact ⟨hid, hstarted⟩

namespace Ledger

variable {events₀ : List UploadEvent} {q₀ n : Nat} {new : List UploadEvent} {w w' : World τ ω}

/-- A step that ends no request and publishes no outcome keeps the ledger. -/
lemma keep (h : Ledger events₀ q₀ n new w) (hh : Holding w' n)
    (hbusy : ∀ k, w'.worker = some k → k.stage = .working → w'.capturing = true)
    (hev : w'.shared.uploads = w.shared.uploads) (hseq : w.shared.seq ≤ w'.shared.seq) :
    Ledger events₀ q₀ n new w' :=
  ⟨hh, hbusy, hev.trans h.events, h.names, h.ordered,
    fun ev hev => ⟨(h.bounds ev hev).1, Nat.lt_of_lt_of_le (h.bounds ev hev).2 hseq⟩,
    Nat.le_trans h.start hseq⟩

lemma quiet (h : Ledger events₀ q₀ n new w) (hq : Quiet w w') : Ledger events₀ q₀ n new w' := by
  have hv := hq.view
  simp only [ledgerView, Prod.mk.injEq] at hv
  obtain ⟨hu, hw, hc, hcap, hev⟩ := hv
  refine h.keep (h.holding.of_eq hu hw hc) ?_ hev hq.seq
  intro k hk hs
  rw [hcap]
  exact h.busy k (hw ▸ hk) hs

/-- A step that ends request `n + 1` and publishes its outcome under its name, numbered at or
after the step's start, keeps the ledger with one more request ended. -/
lemma close {q : Nat} {o : UploadOutcome} (h : Ledger events₀ q₀ n new w) (hh : Holding w' (n + 1))
    (hbusy : ∀ k, w'.worker = some k → k.stage = .working → w'.capturing = true)
    (hev : w'.shared.uploads = w.shared.uploads ++ [⟨q, uploadName (n + 1), o⟩])
    (hq : w.shared.seq ≤ q) (hq' : q < w'.shared.seq) :
    Ledger events₀ q₀ (n + 1) (new ++ [⟨q, uploadName (n + 1), o⟩]) w' := by
  refine ⟨hh, hbusy, by rw [hev, h.events, List.append_assoc], ?_, ?_, ?_, ?_⟩
  · simp [h.names, List.range_succ]
  · -- the new outcome comes after every earlier one, all numbered before the step
    rw [List.map_append, List.pairwise_append]
    refine ⟨h.ordered, by simp, ?_⟩
    intro a ha b hb
    simp only [List.map_cons, List.map_nil, List.mem_singleton] at hb
    subst hb
    obtain ⟨ev, hev, rfl⟩ := List.mem_map.1 ha
    exact Nat.lt_of_lt_of_le (h.bounds ev hev).2 hq
  · intro ev hev
    rcases List.mem_append.1 hev with hev | hev
    · exact ⟨(h.bounds ev hev).1, Nat.lt_trans (h.bounds ev hev).2 (Nat.lt_of_le_of_lt hq hq')⟩
    · rw [List.mem_singleton] at hev
      subst hev
      exact ⟨Nat.le_trans h.start hq, hq'⟩
  · exact Nat.le_trans h.start (Nat.le_trans hq (Nat.le_of_lt hq'))

end Ledger

lemma Reported.quiet {events₀ : List UploadEvent} {q₀ : Nat} {w w' : World τ ω}
    (h : Reported events₀ q₀ w) (hq : Quiet w w') : Reported events₀ q₀ w' :=
  let ⟨n, new, h⟩ := h
  ⟨n, new, h.quiet hq⟩

/-! ### Steps the ledger does not see -/

section Quiet

lemma quiet_count (w : World τ ω) (f : Diagnostics → Diagnostics) : Quiet w (w.count f) := .of_view rfl rfl

lemma quiet_answer (w : World τ ω) (k : Nat) (a : Answer) : Quiet w (w.answer k a) := .of_view rfl rfl

lemma quiet_ensurePlayback (w : World τ ω) : Quiet w w.ensurePlayback.2 := by
  unfold ensurePlayback
  split
  · exact .refl w
  · dsimp only
    split
    · exact .of_view rfl rfl
    · exact ⟨rfl, Nat.le_succ _⟩

lemma quiet_play (w : World τ ω) (data : List UInt8) : Quiet w (w.play data) := by
  simp only [play]
  split
  · exact quiet_count w _
  · split
    · next heq =>
      exact (quiet_count w _).trans ((Quiet.of_pair quiet_ensurePlayback heq).trans (quiet_count _ _))
    · next heq =>
      -- from the world playback opened in, audio goes to the ring or the device
      refine (quiet_count w _).trans ((Quiet.of_pair quiet_ensurePlayback heq).trans ?_)
      split
      · exact .refl _
      · split
        · exact .of_view rfl rfl
        · split <;> exact .of_view rfl rfl

lemma quiet_stopPlayback (w : World τ ω) : Quiet w w.stopPlayback := by
  unfold stopPlayback
  split
  · exact .refl w
  · exact ⟨rfl, Nat.le_succ _⟩

lemma quiet_pull (w : World τ ω) (n : Nat) : Quiet w (w.pull n).2 := by
  unfold pull
  split
  · exact .refl w
  · split
    · split
      · exact .of_view rfl rfl
      · split <;> exact .of_view rfl rfl
    · exact .refl w

lemma quiet_wantWrite (link : Link τ) (w : World τ ω) : Quiet w (wantWrite link w) := by
  unfold wantWrite
  split <;> exact .of_view rfl rfl

lemma quiet_onConnected (link : Link τ) (w : World τ ω) : Quiet w (onConnected link w) := by
  simp only [onConnected]
  split <;> exact .of_view rfl rfl

lemma quiet_onWritable (link : Link τ) (w : World τ ω) : Quiet w (onWritable link w) := by
  simp only [onWritable]
  split <;> (try split) <;> (try split) <;> exact .of_view rfl rfl

lemma quiet_feed_record (w : World τ ω) (f : List UInt8) : Quiet w (feed c .record w f) := by
  simp only [feed]
  split <;> exact .of_view rfl rfl

lemma quiet_feed_relay (w : World τ ω) (f : List UInt8) : Quiet w (feed c .relay w f) := by
  simp only [feed, share, Shared.sendBinary, Shared.enqueue]
  split <;> exact .of_view rfl rfl

end Quiet

/-! ### The upload thread -/

section Thread

variable {w : World τ ω} {n : Nat} {events₀ : List UploadEvent} {q₀ : Nat}

/-- With no operation that stops its thread, a thread that meets a failure returns its session
idle and publishes the failure. -/
lemma giveUp_of_no_halts {k : Worker} {h : Nat} {s : Session} {p : ω} {e : Error} (hp : c.halts p = 0) :
    giveUp c w k h s p e =
      { w with peer := p, channel := w.channel.map fun ch => { ch with frames := [], heard := false },
               worker := some { k with session := s.abort, stage := .returned },
               shared := w.shared.emitUpload k.id (.failed e.message) } := by
  simp [giveUp, hp]

/-- Wherever the session stands, the upload thread has caught up with its channel. -/
lemma pump_of_holding (h : Holding w n) : pump c w = w := by
  cases h with
  | inHand _ _ _ hworker => exact pumpBy_of_not_working c (by simp [hworker]) _
  | returned _ hworker hk => exact pumpBy_of_not_working c (by simp [hworker, hk]) _
  | working _ hworker _ _ _ hchannel hfr hfed => exact pumpBy_fed c hworker hchannel hfr hfed _

/-- **A thread at work catches up with its channel.** On request `n + 1`, either every frame in
the channel goes out and the thread waits on it, empty; or a frame fails, and the thread ends
request `n + 1` and publishes the failure under its name. -/
lemma pump_working (hhalts : ∀ p, c.halts p = 0) {k : Worker} {ch : Channel} (hup : w.uploads = none)
    (hworker : w.worker = some k) (hk : k.stage = .working) (hstarted : k.session.started = n + 1)
    (hid : k.id = uploadName (n + 1)) (hchannel : w.channel = some ch) (hfed : ch.fed = true)
    (hheard : ch.heard = true) :
    (pump c w).capturing = w.capturing ∧
    ((Holding (pump c w) n ∧ (∃ k', (pump c w).worker = some k' ∧ k'.stage = .working) ∧
        (pump c w).shared.uploads = w.shared.uploads ∧ (pump c w).shared.seq = w.shared.seq) ∨
      (Holding (pump c w) (n + 1) ∧ (∀ k', (pump c w).worker = some k' → k'.stage ≠ .working) ∧
        (∃ o, (pump c w).shared.uploads = w.shared.uploads ++ [⟨w.shared.seq, uploadName (n + 1), o⟩]) ∧
        (pump c w).shared.seq = w.shared.seq + 1)) := by
  refine ⟨(pumpBy_keeps c _ w).2.1, ?_⟩
  have hs := Session.started_sendAll c ch.frames k.session w.peer
  rw [pump_of_channel c hchannel, pumpBy_frames c hworker hk hchannel 2]
  rcases hsend : Session.sendAll c ch.frames k.session w.peer with ⟨m, _ | ⟨e, h⟩, s, p⟩
  all_goals rw [hsend, hstarted] at hs
  · -- every frame went out: the thread waits on its empty channel
    dsimp only
    rw [pumpBy_afterSend_fed c hfed]
    refine .inl ⟨.working (k := { k with session := s, sent := k.sent + m }) ?_ rfl hk hs hid rfl rfl hfed
      hheard, ⟨_, rfl, hk⟩, rfl, rfl⟩
    simp [afterSend, countSent, count, hup]
  · -- a frame failed: the thread ends the request and publishes the failure
    dsimp only
    rw [giveUp_of_no_halts c (hhalts p)]
    refine .inr ⟨.returned ?_ rfl rfl rfl hs ?_, by simp, ⟨.failed e.message, ?_⟩, rfl⟩
    · simp [countSent, count, hup]
    · simp [countSent, count, hchannel]
    · simp [Shared.emitUpload, countSent, count, hid]

lemma offer_of_unheard (hch : ∀ ch, w.channel = some ch → ch.heard = false) (f : List UInt8) :
    offer c w f = w := by
  unfold offer
  split
  · next ch hch' => simp [hch ch hch']
  · rfl

/-- A frame offered to the upload channel: nothing happens unless a thread works, which then sends
it at once, or the frame is dropped when the channel is full. -/
lemma reported_offer (hhalts : ∀ p, c.halts p = 0) (h : Reported events₀ q₀ w) (f : List UInt8) :
    Reported events₀ q₀ (offer c w f) := by
  obtain ⟨n, new, h⟩ := h
  cases hh : h.holding with
  | inHand _ _ _ _ hchannel => exact ⟨n, new, by rwa [offer_of_unheard c hchannel]⟩
  | returned _ _ _ _ _ hchannel => exact ⟨n, new, by rwa [offer_of_unheard c hchannel]⟩
  | @working k ch hup hworker hk hstarted hid hchannel hfr hfed hheard =>
    by_cases hb : 0 < ch.bound
    · -- the frame goes into the channel and out as a chunk
      have hoffer : offer c w f = pump c { w with channel := some { ch with frames := [f] } } := by
        simp [offer, hchannel, hheard, hfr, hb]
      have hcap := h.busy k hworker hk
      obtain ⟨hcap', hkeep | hclose⟩ :=
        pump_working c hhalts (w := { w with channel := some { ch with frames := [f] } })
          hup hworker hk hstarted hid rfl hfed hheard
      · obtain ⟨hh', -, hev, hseq⟩ := hkeep
        rw [hoffer]
        exact ⟨n, new, h.keep hh' (fun _ _ _ => hcap'.trans hcap) hev (Nat.le_of_eq hseq.symm)⟩
      · obtain ⟨hh', hthread, ⟨o, hev⟩, hseq⟩ := hclose
        rw [hoffer]
        exact ⟨n + 1, _, h.close hh' (fun k hk hs => absurd hs (hthread k hk)) hev (Nat.le_refl _)
          (by rw [hseq]; exact Nat.lt_succ_self _)⟩
    · -- the channel is full: the frame is dropped
      have hoffer :
          offer c w f = w.count fun d => { d with uploadChunksDropped := d.uploadChunksDropped + 1 } := by
        simp [offer, hchannel, hheard, hfr, hb]
      rw [hoffer]
      exact ⟨n, new, h.quiet (quiet_count w _)⟩

lemma reported_feed (hhalts : ∀ p, c.halts p = 0) (h : Reported events₀ q₀ w) (s : Sink) (f : List UInt8) :
    Reported events₀ q₀ (feed c s w f) := by
  cases s with
  | record => exact h.quiet (quiet_feed_record c w f)
  | relay => exact h.quiet (quiet_feed_relay c w f)
  | stream => exact reported_offer c hhalts (h.quiet (quiet_feed_record c w f)) f

lemma reported_deliver (hhalts : ∀ p, c.halts p = 0) (h : Reported events₀ q₀ w) (f : List UInt8) :
    Reported events₀ q₀ (w.deliver c f).2 := by
  unfold deliver
  split
  · exact reported_feed c hhalts h _ f
  · exact h

/-- Taking back a session that a thread has returned. -/
lemma reap_of_returned {k : Worker} (hpump : pump c w = w) (hw : w.worker = some k)
    (hk : k.stage = .returned) (wait : Bool) :
    reap c wait w = { w with worker := none, uploads := some k.session } := by
  obtain ⟨session, id, sent, stage⟩ := k
  simp only at hk
  subst hk
  cases wait <;> simp [reap, hpump, hw]

/-- With no thread, or one at work, there is nothing to take back. -/
lemma reap_of_unreturned (hpump : pump c w = w) (hw : ∀ k, w.worker = some k → k.stage = .working)
    (wait : Bool) : reap c wait w = w := by
  have hw' : (if wait then pump c w else w) = w := by cases wait <;> simp [hpump]
  simp only [reap, hw']
  split
  · next hk => exact absurd (hw _ hk) (by simp)
  · next hk => exact absurd (hw _ hk) (by simp)
  · rfl

lemma reported_reap (h : Reported events₀ q₀ w) (wait : Bool) : Reported events₀ q₀ (reap c wait w) := by
  obtain ⟨n, new, h⟩ := h
  have hpump := pump_of_holding c h.holding
  cases h.holding with
  | inHand _ _ _ hworker =>
    rw [reap_of_unreturned c hpump (by simp [hworker])]
    exact ⟨n, new, h⟩
  | returned _ hworker hk hidle hstarted hchannel =>
    -- the session returned is back in hand
    rw [reap_of_returned c hpump hworker hk]
    exact ⟨n, new, h.keep (.inHand rfl hidle hstarted rfl hchannel) (by simp) rfl (Nat.le_refl _)⟩
  | working _ hworker hk =>
    rw [reap_of_unreturned c hpump (by simp [hworker, hk])]
    exact ⟨n, new, h⟩

end Thread

/-! ### Starting and stopping capture -/

section Capture

variable {w : World τ ω} {n : Nat} {events₀ : List UploadEvent} {q₀ : Nat}

/-- With no thread, a sink takes a frame without publishing anything or starting a thread. -/
lemma feed_unthreaded (hw : w.worker = none) (s : Sink) (f : List UInt8) :
    (feed c s w f).worker = none ∧ (feed c s w f).shared.seq = w.shared.seq ∧
      (feed c s w f).capturing = w.capturing := by
  have hrecord : (feed c .record w f).worker = none ∧ (feed c .record w f).shared.seq = w.shared.seq ∧
      (feed c .record w f).capturing = w.capturing := by
    simp only [feed]
    split <;> exact ⟨hw, rfl, rfl⟩
  cases s with
  | record => exact hrecord
  | relay =>
    simp only [feed, share, Shared.sendBinary, Shared.enqueue]
    split <;> simp [hw]
  | stream =>
    show (offer c (feed c .record w f) f).worker = none ∧
      (offer c (feed c .record w f) f).shared.seq = w.shared.seq ∧
      (offer c (feed c .record w f) f).capturing = w.capturing
    unfold offer
    split
    · split
      · exact hrecord
      · split
        · rw [pump, pumpBy_of_not_working c (by simp [hrecord.1])]
          exact hrecord
        · exact hrecord
    · exact hrecord

lemma attach_unthreaded (hw : w.worker = none) (s : Sink) :
    (attach c s w).2.worker = none ∧ (attach c s w).2.shared.seq = w.shared.seq ∧
      (attach c s w).2.capturing = w.capturing := by
  unfold attach
  split
  · exact ⟨hw, rfl, rfl⟩
  · next frames _ =>
    -- the start frames go through the sink one by one
    suffices h : ∀ (fs : List (List UInt8)) (u : World τ ω), u.worker = none →
        (fs.foldl (feed c s) u).worker = none ∧ (fs.foldl (feed c s) u).shared.seq = u.shared.seq ∧
          (fs.foldl (feed c s) u).capturing = u.capturing from h frames w hw
    intro fs
    induction fs with
    | nil => exact fun u hu => ⟨hu, rfl, rfl⟩
    | cons f fs ih =>
      intro u hu
      obtain ⟨hw₁, hs₁, hc₁⟩ := feed_unthreaded c hu s f
      obtain ⟨hw₂, hs₂, hc₂⟩ := ih _ hw₁
      exact ⟨hw₂, hs₂.trans hs₁, hc₂.trans hc₁⟩

lemma attach_error {s : Sink} {e : Error} {w' : World τ ω} (h : attach c s w = (.error e, w')) :
    w.device.startCapture = .error e ∧ w' = w := by
  unfold attach at h
  split at h
  · next e' he => simp only [Prod.mk.injEq, Except.error.injEq] at h; exact ⟨h.1 ▸ he, h.2.symm⟩
  · simp at h

lemma attach_ok {s : Sink} {w' : World τ ω} (h : attach c s w = (.ok (), w')) :
    w.device.startCapture = .ok w.device.startFrames := by
  unfold attach at h
  split at h
  · simp at h
  · next frames he => rw [he, Device.frames_of_startCapture he]

/-- With no thread at work, taking the session back leaves it in hand, idle. -/
lemma reap_of_holding (hh : Holding w n) (hthread : ∀ k, w.worker = some k → k.stage ≠ .working) :
    ∃ s : Session, s.phase = .idle ∧ s.started = n ∧
      reap c true w = { w with worker := none, uploads := some s } := by
  have hpump := pump_of_holding c hh
  cases hh with
  | @inHand s hup hidle hstarted hworker =>
    refine ⟨s, hidle, hstarted, ?_⟩
    rw [reap_of_unreturned c hpump (by simp [hworker])]
    obtain ⟨sh, up, wk, chn, pb, cap, dev, conn, peer⟩ := w
    simp only at hup hworker
    rw [hup, hworker]
  | @returned k _ hworker hk hidle hstarted =>
    exact ⟨k.session, hidle, hstarted, reap_of_returned c hpump hworker hk true⟩
  | working _ hworker hk => exact absurd hk (hthread _ hworker)

/-- **A streaming start, from where the session stands.** With `n` requests ended and no thread at
work: if the device refuses to start, nothing is begun or published and the session is back in
hand; otherwise request `n + 1` is begun, and either its thread is at work on it, or it has
already ended (its request could not be opened, or a start frame failed) with its outcome
published under its name, a failure to open it publishing that failure. -/
lemma startStream_of_holding (hhalts : ∀ p, c.halts p = 0) (hh : Holding w n)
    (hthread : ∀ k, w.worker = some k → k.stage ≠ .working) (token : String) :
    let r := startStream c token w
    r.2.capturing = w.capturing ∧ w.shared.seq ≤ r.2.shared.seq ∧
    ((w.device.startCapture.isOk = false ∧ r.1.isOk = false ∧ Holding r.2 n ∧ r.2.worker = none ∧
        r.2.shared.uploads = w.shared.uploads) ∨
      (w.device.startCapture.isOk = true ∧ r.1 = .ok () ∧ Holding r.2 n ∧
        (∃ k, r.2.worker = some k ∧ k.stage = .working) ∧ r.2.shared.uploads = w.shared.uploads) ∨
      (w.device.startCapture.isOk = true ∧ Holding r.2 (n + 1) ∧
        (∀ k, r.2.worker = some k → k.stage ≠ .working) ∧
        ∃ o, r.2.shared.uploads = w.shared.uploads ++ [⟨w.shared.seq, uploadName (n + 1), o⟩] ∧
          w.shared.seq < r.2.shared.seq ∧ ∀ e, r.1 = .error e → o = .failed e.message)) := by
  dsimp only
  obtain ⟨s, hidle, hstarted, hreap⟩ := reap_of_holding c hh hthread
  have hinit := Session.init_of_idle c (s := s) token (w := w.peer) (Session.isActive_eq_false.2 hidle)
  simp only [startStream, hreap]
  rcases hatt : attach c .stream
      { w with worker := none, uploads := none, channel := some { bound := w.shared.config.uploadChunkQueue } }
    with ⟨_ | u, wa⟩
  · -- the device refused: the session goes back in hand
    next e =>
    obtain ⟨hdev, rfl⟩ := attach_error c hatt
    refine ⟨rfl, Nat.le_refl _, .inl ⟨by simp [hdev, Except.isOk, Except.toBool], rfl, ?_, rfl, rfl⟩⟩
    exact .inHand rfl hidle hstarted rfl (by simp)
  cases u
  have hdev := attach_ok c hatt
  obtain ⟨tags, -, -, hside, -, -, hup⟩ := attach_stream c rfl rfl hatt
  obtain ⟨hwa, hseq, hcap⟩ := attach_unthreaded c
    (w := { w with worker := none, uploads := none,
                   channel := some { bound := w.shared.config.uploadChunkQueue } }) rfl .stream
  rw [hatt] at hwa hseq hcap
  simp only [uploadSide, Prod.mk.injEq] at hside
  obtain ⟨-, hch, hpeer, -, hev⟩ := hside
  have hok : w.device.startCapture.isOk = true := by simp [hdev, Except.isOk, Except.toBool]
  simp only at hwa hup hseq hcap hch hpeer hev
  dsimp only
  rw [hpeer]
  rcases hi : s.init c token w.peer with ⟨_ | id, s₁, p₁⟩
  all_goals rw [hi] at hinit; dsimp only at hinit
  · -- the request could not be opened: its failure is published under its name
    next e =>
    obtain ⟨hs₁, -, hphase⟩ := hinit
    have hphase : s₁.phase = .idle := by
      rcases hphase with ⟨_, he, hp⟩ | ⟨he, -⟩
      · exact hp
      · cases he
    have hname : s₁.lastId?.getD "" = uploadName (n + 1) := by
      simp [Session.lastId?, hs₁, hstarted]
    refine ⟨hcap, by simp [share, Shared.emitUpload, hseq],
      .inr (.inr ⟨hok, ?_, ?_, .failed e.message, ?_, ?_, ?_⟩)⟩
    · exact .inHand rfl hphase (by simp [hs₁, hstarted]) (by simp [share, hwa]) (by simp [share])
    · simp [share, hwa]
    · simp [share, Shared.emitUpload, hev, hseq, hname]
    · simp [share, Shared.emitUpload, hseq]
    · intro e' he'
      simp only [Except.error.injEq] at he'
      rw [he']
  · -- the request is open under its name: its thread starts on the frames waiting
    dsimp only
    obtain ⟨hs₁, -, hphase⟩ := hinit
    have hid : id = uploadName (n + 1) := by
      rcases hphase with ⟨_, he, -⟩ | ⟨he, -⟩
      · cases he
      · simp only [Except.ok.injEq] at he
        rw [he, hstarted]
    obtain ⟨hcap', hkeep | hclose⟩ := pump_working c hhalts (n := n) (k := { session := s₁, id })
      (w := { wa with peer := p₁, worker := some { session := s₁, id } }) hup rfl rfl
      (by simp [hs₁, hstarted]) hid hch rfl rfl
    · obtain ⟨hh', hworking, hev', hseq'⟩ := hkeep
      dsimp only at hseq'
      exact ⟨hcap'.trans hcap, by omega, .inr (.inl ⟨hok, rfl, hh', hworking, hev'.trans hev⟩)⟩
    · obtain ⟨hh', hthread', ⟨o, hev'⟩, hseq'⟩ := hclose
      dsimp only at hseq' hev'
      refine ⟨hcap'.trans hcap, by omega, .inr (.inr ⟨hok, hh', hthread', o, ?_, by omega, ?_⟩)⟩
      · rw [hev', hev, hseq]
      · intro e he
        cases he

/-- **Starting a streaming capture.** As `startStream_of_holding`, with the capture then marked
running if it started. -/
lemma startCapture_stream (hhalts : ∀ p, c.halts p = 0) (hh : Holding w n) (hcap : w.capturing = false)
    (hthread : ∀ k, w.worker = some k → k.stage ≠ .working) (token : String) :
    let r := startCapture c (.stream token) w
    w.shared.seq ≤ r.2.shared.seq ∧
    ((w.device.startCapture.isOk = false ∧ r.1.isOk = false ∧ Holding r.2 n ∧ r.2.worker = none ∧
        r.2.capturing = false ∧ r.2.shared.uploads = w.shared.uploads) ∨
      (w.device.startCapture.isOk = true ∧ r.1 = .ok () ∧ r.2.capturing = true ∧ Holding r.2 n ∧
        (∃ k, r.2.worker = some k ∧ k.stage = .working ∧ k.id = uploadName (n + 1)) ∧
        r.2.shared.uploads = w.shared.uploads) ∨
      (w.device.startCapture.isOk = true ∧ Holding r.2 (n + 1) ∧
        (∀ k, r.2.worker = some k → k.stage ≠ .working) ∧
        ∃ o, r.2.shared.uploads = w.shared.uploads ++ [⟨w.shared.seq, uploadName (n + 1), o⟩] ∧
          w.shared.seq < r.2.shared.seq ∧ ∀ e, r.1 = .error e → o = .failed e.message)) := by
  dsimp only
  obtain ⟨hcap', hseq, hcases⟩ := startStream_of_holding c hhalts
    (w := w.share fun sh => { sh with capture := sh.capture.clear }) (hh.of_eq rfl rfl rfl) hthread token
  simp only [startCapture, hcap, Bool.false_eq_true, if_false]
  rcases hr : startStream c token (w.share fun sh => { sh with capture := sh.capture.clear }) with
    ⟨_ | u, w'⟩
  all_goals rw [hr] at hcap' hseq hcases; dsimp only at hcap' hseq hcases ⊢
  · -- the start failed: the capture stays off
    refine ⟨hseq, ?_⟩
    rcases hcases with ⟨hdev, -, hh', hw, hev⟩ | ⟨-, he, -⟩ | h3
    · exact .inl ⟨hdev, rfl, hh', hw, hcap'.trans hcap, hev⟩
    · cases he
    · exact .inr (.inr h3)
  · -- the start succeeded: the capture runs
    cases u
    have hstep : w.shared.seq ≤ w'.shared.seq + 1 := Nat.le_succ_of_le hseq
    refine ⟨hstep, ?_⟩
    rcases hcases with ⟨-, he, -⟩ | ⟨hdev, -, hh', ⟨k, hk, hs⟩, hev⟩ | ⟨hdev, hh', hthread', o, hev, hlt, -⟩
    · cases he
    · -- the thread at work is on request `n + 1`
      exact .inr (.inl ⟨hdev, rfl, rfl, hh'.of_eq rfl rfl rfl, ⟨k, hk, hs, (hh'.working_id hk hs).1⟩, hev⟩)
    · exact .inr (.inr ⟨hdev, hh'.of_eq rfl rfl rfl, hthread', o, hev, Nat.lt_succ_of_lt hlt, nofun⟩)

lemma quiet_attach (s : Sink) (hs : s ≠ .stream) (w : World τ ω) : Quiet w (attach c s w).2 := by
  have hfeed : ∀ (u : World τ ω) f, Quiet u (feed c s u f) := by
    intro u f
    cases s with
    | record => exact quiet_feed_record c u f
    | relay => exact quiet_feed_relay c u f
    | stream => exact absurd rfl hs
  unfold attach
  split
  · exact .refl w
  · next frames _ =>
    -- the start frames go through the sink one by one
    suffices h : ∀ (fs : List (List UInt8)) (u : World τ ω), Quiet u (fs.foldl (feed c s) u) from
      (h frames w).trans (.of_view rfl rfl)
    intro fs
    induction fs with
    | nil => exact .refl
    | cons f fs ih => exact fun u => (hfeed u f).trans (ih _)

/-- A capture that starts is marked running; its start is published. -/
lemma reported_started {r : Except Error Unit × World τ ω} (h : Reported events₀ q₀ r.2) :
    Reported events₀ q₀ (match r with
      | (Except.error e, w) => (Except.error e, w)
      | (Except.ok (), w) => (Except.ok (), { w with capturing := true }.share fun sh =>
          (sh.publish .capturing none).emitActivity .captureStarted)).2 := by
  refine started_of (P := Reported events₀ q₀) ?_ h
  rintro u ⟨n, new, h⟩
  exact ⟨n, new, h.keep (h.holding.of_eq rfl rfl rfl) (fun _ _ _ => rfl) rfl (Nat.le_succ _)⟩

lemma reported_startCapture (hhalts : ∀ p, c.halts p = 0) (h : Reported events₀ q₀ w) (mode : CaptureMode) :
    Reported events₀ q₀ (startCapture c mode w).2 := by
  obtain ⟨n, new, h⟩ := h
  cases hcap : w.capturing
  swap
  · simp only [startCapture, hcap, if_true]
    exact ⟨n, new, h⟩
  -- with capture off, no thread works
  have hthread : ∀ k, w.worker = some k → k.stage ≠ .working := fun k hk hs => by
    simp [h.busy k hk hs] at hcap
  have hclear : Reported events₀ q₀ (w.share fun sh => { sh with capture := sh.capture.clear }) :=
    ⟨n, new, h.quiet (.of_view rfl rfl)⟩
  cases mode with
  | record =>
    simp only [startCapture, hcap, Bool.false_eq_true, if_false]
    exact reported_started (hclear.quiet (quiet_attach c .record nofun _))
  | relay =>
    simp only [startCapture, hcap, Bool.false_eq_true, if_false]
    exact reported_started (hclear.quiet (quiet_attach c .relay nofun _))
  | stream token =>
    obtain ⟨hseq, ⟨-, -, hh, hw, -, hev⟩ | ⟨-, -, hcap', hh, -, hev⟩ | ⟨-, hh, hthread', o, hev, hlt, -⟩⟩ :=
      startCapture_stream c hhalts h.holding hcap hthread token
    · exact ⟨n, new, h.keep hh (by simp [hw]) hev hseq⟩
    · exact ⟨n, new, h.keep hh (fun _ _ _ => hcap') hev hseq⟩
    · exact ⟨n + 1, _, h.close hh (fun k hk hs => absurd hs (hthread' k hk)) hev (Nat.le_refl _) hlt⟩

/-- Once capture stops, a channel nobody read stays unread. -/
lemma unheard_unfed (hchannel : ∀ ch, w.channel = some ch → ch.heard = false) :
    ∀ ch, (w.channel.map fun (ch : Channel) => { ch with fed := false }) = some ch → ch.heard = false := by
  intro ch hch
  obtain ⟨ch₀, hch₀, rfl⟩ := Option.map_eq_some_iff.1 hch
  exact hchannel ch₀ hch₀

/-- **Stopping capture.** A thread at work on request `n + 1` ends it, publishing its outcome
under its name; otherwise only the capture's end is published. -/
lemma reported_stopCapture (hhalts : ∀ p, c.halts p = 0) (h : Reported events₀ q₀ w) :
    Reported events₀ q₀ (stopCapture c w).2 := by
  obtain ⟨n, new, h⟩ := h
  cases hcap : w.capturing
  · simp only [stopCapture, hcap, Bool.not_false, if_true]
    exact ⟨n, new, h⟩
  obtain ⟨w₂, hstop, hw, hch, hp, hev, -, hseq, hup, -, -⟩ := stopCapture_eq c hcap
  rw [hstop]
  have hstep : w.shared.seq ≤ w₂.shared.seq := by omega
  cases h.holding with
  | inHand hup₀ hidle hstarted hworker hchannel =>
    have hh : Holding w₂ n :=
      .inHand (hup.trans hup₀) hidle hstarted (hw.trans hworker) (hch ▸ unheard_unfed hchannel)
    rw [pump_of_holding c hh]
    exact ⟨n, new, h.keep hh (by simp [hw, hworker]) hev hstep⟩
  | returned hup₀ hworker hk hidle hstarted hchannel =>
    have hh : Holding w₂ n :=
      .returned (hup.trans hup₀) (hw.trans hworker) hk hidle hstarted (hch ▸ unheard_unfed hchannel)
    rw [pump_of_holding c hh]
    exact ⟨n, new, h.keep hh (by simp [hw, hworker, hk]) hev hstep⟩
  | @working k ch hup₀ hworker hk hstarted hid hchannel hfr hfed hheard =>
    -- the thread ends request `n + 1`: the server's answer or the failure is published
    rw [pump_of_unfed c (hw.trans hworker) hk (by simp [hch, hchannel])
      (show ({ ch with fed := false } : Channel).frames = [] from hfr) rfl]
    have hfin := Session.finish_session c (s := k.session) (w := w₂.peer)
    rcases hr : k.session.finish c w₂.peer with ⟨_ | r, s, p⟩
    all_goals rw [hr] at hfin; dsimp only at hfin ⊢
    · next e =>
      rw [giveUp_of_no_halts c (hhalts p)]
      refine ⟨n + 1, _, h.close (q := w₂.shared.seq) (o := .failed e.message) ?_ (by simp) ?_ hstep
        (by simp [Shared.emitUpload])⟩
      · refine .returned (by simp [hup, hup₀]) rfl rfl (by simp [hfin, Session.abort])
          (by simp [hfin, Session.abort, hstarted]) ?_
        intro ch' hch'
        simp only [hch, hchannel, Option.map_some, Option.some.injEq] at hch'
        rw [← hch']
      · simp [Shared.emitUpload, hev, hid]
    · refine ⟨n + 1, _, h.close (q := w₂.shared.seq) (o := .completed r.status? r.body k.sent) ?_ (by simp) ?_
        hstep (by simp [Shared.emitUpload])⟩
      · refine .returned (by simp [hup, hup₀]) rfl rfl (by simp [hfin]) (by simp [hfin, hstarted]) ?_
        intro ch' hch'
        simp only [Option.some.injEq] at hch'
        rw [← hch']
      · simp [Shared.emitUpload, hev, hid]

end Capture

/-! ### The loop -/

section Loop

open Transport (LinkEvent)

variable {events₀ : List UploadEvent} {q₀ : Nat}

lemma reported_carryOut (hhalts : ∀ p, c.halts p = 0) (rs : List Request) {w : World τ ω}
    (h : Reported events₀ q₀ w) : Reported events₀ q₀ (carryOut c rs w).2 := by
  induction rs generalizing w with
  | nil => exact h
  | cons r rs ih =>
    cases r with
    | startCapture m k =>
      rcases hs : startCapture c m w with ⟨res, w₁⟩
      have h₁ := reported_startCapture c hhalts h m
      rw [hs] at h₁
      simpa [carryOut, hs] using ih (h₁.quiet (quiet_answer w₁ k (.started res)))
    | stopCapture k =>
      rcases hs : stopCapture c w with ⟨res, w₁⟩
      have h₁ := reported_stopCapture c hhalts h
      rw [hs] at h₁
      simpa [carryOut, hs] using ih (h₁.quiet (quiet_answer w₁ k (.stopped res)))
    | playClip a => exact ih (h.quiet (quiet_play w a))
    | stopPlayback => exact ih (h.quiet (quiet_stopPlayback w))
    | disconnect => exact h.quiet (.of_view rfl rfl)

lemma reported_drain (hhalts : ∀ p, c.halts p = 0) {w : World τ ω} (h : Reported events₀ q₀ w) :
    Reported events₀ q₀ (w.drain c).2 :=
  reported_carryOut c hhalts _ (h.quiet (.of_view rfl rfl))

lemma reported_handle (link : Link τ) (es : List LinkEvent) {w : World τ ω} (h : Reported events₀ q₀ w) :
    Reported events₀ q₀ (handle link es w).2 := by
  induction es generalizing w with
  | nil => exact h
  | cons ev es ih =>
    -- the first event is a quiet step; the rest of the batch is handled from where it leaves off
    obtain ⟨w₁, hw₁, hq⟩ : ∃ w₁, (handle link (ev :: es) w).2 = (handle link es w₁).2 ∧ Quiet w w₁ := by
      cases ev with
      | connected => exact ⟨_, rfl, quiet_onConnected link w⟩
      | writable => exact ⟨_, rfl, quiet_onWritable link w⟩
      | received m =>
        cases m with
        | text t => exact ⟨_, rfl, ⟨rfl, Nat.le_succ _⟩⟩
        | binary d => exact ⟨_, rfl, quiet_play w d⟩
      | closed => exact ⟨_, rfl, .refl w⟩
    rw [hw₁]
    exact ih (h.quiet hq)

lemma quiet_enqueue (w : World τ ω) (m : Dispatch.Message) :
    Quiet w { w with shared := (w.shared.enqueue m).2 } := by
  simp only [Shared.enqueue]
  split <;> exact .of_view rfl rfl

/-- Another thread's action: only a captured frame can reach the upload. -/
lemma reported_act (hhalts : ∀ p, c.halts p = 0) (a : Act τ ω) {w : World τ ω}
    (h : Reported events₀ q₀ w) : Reported events₀ q₀ (a.run c w).2 := by
  cases a with
  | capture f => exact reported_deliver c hhalts h f
  | sendText t => exact h.quiet (quiet_enqueue w (.text t))
  | sendBinary d => exact h.quiet (quiet_enqueue w (.binary d))
  | command r =>
    refine h.quiet ?_
    simp only [Act.run, Shared.command]
    split <;> exact .of_view rfl rfl
  | shutdown => exact h.quiet (.of_view rfl rfl)
  | pull n => exact h.quiet (quiet_pull w n)
  | device ch => exact h.quiet (.of_view rfl rfl)
  | conn f => exact h.quiet (.of_view rfl rfl)
  | peer f => exact h.quiet (.of_view rfl rfl)

lemma reported_runActs (hhalts : ∀ p, c.halts p = 0) (as : List (Act τ ω)) {w : World τ ω}
    (h : Reported events₀ q₀ w) : Reported events₀ q₀ (runActs c as w).2 :=
  runActs_induct c (P := fun _ w => Reported events₀ q₀ w) (fun a _ _ h => reported_act c hhalts a h)
    as [] w h

/-- **The teardown leaves no request open.** Capture stops, ending the request a thread was at
work on, and the session is taken back, idle. -/
lemma teardown_ledger (hhalts : ∀ p, c.halts p = 0) (link : Link τ) {w : World τ ω}
    (h : Reported events₀ q₀ w) :
    ∃ n new s, Ledger events₀ q₀ n new (w.teardown link c) ∧ (w.teardown link c).uploads = some s ∧
      s.phase = .idle ∧ s.started = n ∧ (w.teardown link c).worker = none := by
  have hstopped : Reported events₀ q₀ (if w.capturing then (stopCapture c w).2 else w) ∧
      (if w.capturing then (stopCapture c w).2 else w).capturing = false := by
    split
    · next hcap =>
      obtain ⟨w₂, hstop, -, -, -, -, -, -, -, hcap₂, -⟩ := stopCapture_eq c hcap
      refine ⟨reported_stopCapture c hhalts h, ?_⟩
      rw [hstop, pump, (pumpBy_keeps c _ w₂).2.1, hcap₂]
    · next hcap => exact ⟨h, by simpa using hcap⟩
  obtain ⟨⟨n, new, h₁⟩, hcap⟩ := hstopped
  -- with capture off no thread works, so the session is taken back from where it stands
  have hthread : ∀ k, (if w.capturing then (stopCapture c w).2 else w).worker = some k →
      k.stage ≠ .working := fun k hk hs => by simp [h₁.busy k hk hs] at hcap
  obtain ⟨s, hidle, hstarted, hreap⟩ := reap_of_holding c h₁.holding hthread
  have hclose : Quiet (reap c true (if w.capturing then (stopCapture c w).2 else w)) (w.teardown link c) :=
    (quiet_stopPlayback _).trans (.of_view rfl rfl)
  have hv := hclose.view
  simp only [ledgerView, hreap, Prod.mk.injEq] at hv
  obtain ⟨hu, hw, -, -, -⟩ := hv
  have h₂ : Ledger events₀ q₀ n new (reap c true (if w.capturing then (stopCapture c w).2 else w)) := by
    rw [hreap]
    exact h₁.keep (.inHand rfl hidle hstarted rfl (by simpa using h₁.holding.unheard hthread)) (by simp) rfl
      (Nat.le_refl _)
  exact ⟨n, new, s, h₂.quiet hclose, hu, hidle, hstarted, hw⟩

/-- **The ledger of a run.** Under any threads, a run of the loop keeps the ledger from turn to
turn and ends with the session back in hand, idle, every request begun ended. -/
lemma serveBy_ledger {ε : Type} (hhalts : ∀ p, c.halts p = 0) (link : Link τ) (s : Script τ ω ε)
    (fuel : Nat) (st : ε × List (Entry τ ω)) {w : World τ ω} (h : Reported events₀ q₀ w) :
    ∃ n new s', Ledger events₀ q₀ n new (serveBy link c (s.service c) fuel st w).2 ∧
      (serveBy link c (s.service c) fuel st w).2.uploads = some s' ∧ s'.phase = .idle ∧
      s'.started = n ∧ (serveBy link c (s.service c) fuel st w).2.worker = none := by
  refine serveBy_induct link c (s.service c) (P := fun _ w => Reported events₀ q₀ w)
    (Q := fun _ w => ∃ n new s', Ledger events₀ q₀ n new w ∧ w.uploads = some s' ∧
      s'.phase = .idle ∧ s'.started = n ∧ w.worker = none) ?_ ?_ ?_ ?_ ?_ fuel st w h
  · intro _ w h
    exact reported_drain c hhalts h
  · intro _ w h
    exact (reported_reap c h false).quiet (quiet_wantWrite link _)
  · rintro ⟨e, log⟩ w es ⟨e', log'⟩ w' h hsvc
    obtain ⟨rfl, -⟩ := service_ok c s hsvc
    exact reported_handle link es (reported_runActs c hhalts _ h)
  · rintro ⟨e, log⟩ w err ⟨e', log'⟩ w' h hsvc
    obtain ⟨rfl, -⟩ := service_error c s hsvc
    exact reported_runActs c hhalts _ h
  · intro _ w h
    exact teardown_ledger c hhalts link h

end Loop

end Client.World

namespace Client

open Upload (Session uploadName)
open World

variable {τ ω ε : Type}

/-- The scripted upload peer, its operations never stopping the thread that makes them. -/
def steadyUploads : Upload.Connector Upload.Scripted :=
  { Upload.Scripted.connector "" with halts := fun _ => 0 }

/-- Threads that start a streaming capture, have the device deliver a frame, stop the capture,
and then close the connection. -/
def streamOnce : Script Connection Upload.Scripted Nat where
  acts n _ := match n with
    | 0 => [.command (.startCapture (.stream "t") 0)]
    | 1 => [.capture [1, 2], .command (.stopCapture 1)]
    | _ => []
  reply n _ := if n < 2 then (.ok [], n + 1) else (.ok [.closed], n + 1)

end Client

end Talkback
