import Mathlib.Tactic.Lemma
import Talkback.Event
import Talkback.Proofs.AudioBooks
import Talkback.Proofs.Upload

/-!
A streaming capture and its upload thread.

Captured frames cross a bounded channel to an upload thread that sends each as a chunk of an
open request, gives the request up at the first failure, and ends it once the capture stops.
Because the thread is run eagerly, the pipeline is, frame for frame, the plain sequential
uploader `Session.sendAll` followed by the end of the request (`Session.serveFrames`) run on
the frames that made it into the channel: `pumpBy_frames` says so for one turn of the thread,
and `Streams` carries it from the capture's start through each delivered frame to its stop.

Every frame delivered during the capture has a `Fate`: forwarded into the channel, dropped
because the channel was full (and counted), or discarded because the thread had already
given up on a failure of the frames forwarded before it.
-/

namespace Talkback

namespace Upload.Session

variable {ω : Type} (c : Connector ω)

/-- Send frames as chunks, in order, until one fails: the frames sent (an empty one counts,
though nothing goes out for it), the failure if one came with the number of operations that
had stopped their thread before it, and the session and world after. -/
def sendAll : List (List UInt8) → Session → ω → Nat × Option (Error × Nat) × Session × ω
  | [], s, w => (0, none, s, w)
  | f :: fs, s, w =>
    match s.append c f w with
    | (.ok (), s', w') =>
      let (n, fail, s'', w'') := sendAll fs s' w'
      (n + 1, fail, s'', w'')
    | (.error e, s', w') => (0, some (e, c.halts w), s', w')

/-- An upload thread's whole life on an open request: send the frames, then end the request
and read the answer; the first failure abandons it. What it publishes (nothing when an
operation stopped it) and the world it leaves. -/
def serveFrames (fs : List (List UInt8)) (s : Session) (w : ω) : Option UploadOutcome × ω :=
  match sendAll c fs s w with
  | (_, some (e, h), _, w') => (if c.halts w' > h then none else some (.failed e.message), w')
  | (n, none, s', w') =>
    match s'.finish c w' with
    | (.ok r, _, w'') => (some (.completed r.status? r.body n), w'')
    | (.error e, _, w'') => (if c.halts w'' > c.halts w' then none else some (.failed e.message), w'')

@[simp] lemma sendAll_nil (s : Session) (w : ω) : sendAll c [] s w = (0, none, s, w) := rfl

/-- Sending two runs of frames is sending the first, then, if nothing failed, the second. -/
lemma sendAll_append (fs gs : List (List UInt8)) (s : Session) (w : ω) :
    sendAll c (fs ++ gs) s w =
      match sendAll c fs s w with
      | (n, none, s', w') =>
        let (m, fail, s'', w'') := sendAll c gs s' w'
        (n + m, fail, s'', w'')
      | r => r := by
  induction fs generalizing s w with
  | nil => simp
  | cons f fs ih =>
    simp only [List.cons_append, sendAll]
    rcases s.append c f w with ⟨_ | ⟨⟩, s', w'⟩
    · rfl
    · dsimp only
      rw [ih]
      rcases sendAll c fs s' w' with ⟨n, _ | ⟨e, h⟩, s'', w''⟩
      · dsimp only
        congr 1
        omega
      · rfl

/-- A failed append leaves the session as it was. -/
lemma append_error_session {s : Session} {w : ω} {data : List UInt8} {e : Error}
    (h : (s.append c data w).1 = .error e) : (s.append c data w).2.1 = s := by
  unfold append at h ⊢
  split
  · rfl
  · next id chunks bytes hphase =>
    rw [hphase] at h
    dsimp only at h ⊢
    split
    · rfl
    · next hne =>
      rw [if_neg hne] at h
      split
      · rfl
      · next heq => rw [heq] at h; cases h

end Upload.Session

namespace Client

/-- What became of a frame delivered during a streaming capture. -/
inductive Fate where
  /-- It went into the channel, to the upload thread. -/
  | forwarded
  /-- The channel had no room; it was counted as dropped. -/
  | dropped
  /-- The upload thread no longer read the channel. -/
  | discarded
  deriving DecidableEq, Repr

/-- The frames whose fate was to be forwarded, in order. -/
def Fate.forwardedOf : List (List UInt8) → List Fate → List (List UInt8)
  | f :: fs, t :: ts => (if t = .forwarded then [f] else []) ++ forwardedOf fs ts
  | _, _ => []

namespace Fate

@[simp] lemma forwardedOf_nil_left (ts : List Fate) : forwardedOf [] ts = [] := rfl

@[simp] lemma forwardedOf_nil_right (fs : List (List UInt8)) : forwardedOf fs [] = [] := by
  cases fs <;> rfl

@[simp] lemma forwardedOf_cons (f : List UInt8) (fs : List (List UInt8)) (t : Fate) (ts : List Fate) :
    forwardedOf (f :: fs) (t :: ts) = (if t = .forwarded then [f] else []) ++ forwardedOf fs ts := rfl

lemma forwardedOf_append {fs : List (List UInt8)} {ts : List Fate} (h : ts.length = fs.length)
    (fs' : List (List UInt8)) (ts' : List Fate) :
    forwardedOf (fs ++ fs') (ts ++ ts') = forwardedOf fs ts ++ forwardedOf fs' ts' := by
  induction fs generalizing ts with
  | nil => simp_all
  | cons f fs ih =>
    cases ts with
    | nil => simp at h
    | cons t ts => simp [ih (by simpa using h)]

end Fate

/-- A capture that starts is handed the frames queued for its start. -/
lemma Device.frames_of_startCapture {d : Device} {fs : List (List UInt8)} (h : d.startCapture = .ok fs) :
    d.startFrames = fs := by
  unfold Device.startCapture at h
  split at h <;> simp_all

namespace World

open Upload (Session)

variable {τ ω : Type} (c : Upload.Connector ω)

/-- Count `n` more chunks sent. -/
def countSent (w : World τ ω) (n : Nat) : World τ ω :=
  w.count fun d => { d with uploadChunksSent := d.uploadChunksSent + n }

/-- The world once upload thread `k` has sent the frames of channel `ch`: `n` chunks, reaching
session `s` and peer `p`, with the channel empty. -/
def afterSend (w : World τ ω) (k : Worker) (ch : Channel) (n : Nat) (s : Session) (p : ω) :
    World τ ω :=
  { w.countSent n with peer := p, channel := some { ch with frames := [] },
                       worker := some { k with session := s, sent := k.sent + n } }

section GiveUp

variable (w : World τ ω) (k : Worker) (h : Nat) (s : Session) (p : ω) (e : Error)

@[simp] lemma peer_giveUp : (giveUp c w k h s p e).peer = p := by
  unfold giveUp; split <;> rfl

@[simp] lemma channel_giveUp :
    (giveUp c w k h s p e).channel = w.channel.map fun ch => { ch with frames := [], heard := false } := by
  unfold giveUp; split <;> rfl

@[simp] lemma diag_giveUp : (giveUp c w k h s p e).shared.diag = w.shared.diag := by
  unfold giveUp; split <;> rfl

@[simp] lemma device_giveUp : (giveUp c w k h s p e).device = w.device := by
  unfold giveUp; split <;> rfl

@[simp] lemma capturing_giveUp : (giveUp c w k h s p e).capturing = w.capturing := by
  unfold giveUp; split <;> rfl

@[simp] lemma uploads_giveUp : (giveUp c w k h s p e).uploads = w.uploads := by
  unfold giveUp; split <;> rfl

/-- A thread that gives up publishes its failure, unless the failing operation stopped it. -/
lemma events_giveUp : (giveUp c w k h s p e).shared.uploads =
    w.shared.uploads ++ if c.halts p > h then [] else [⟨w.shared.seq, k.id, .failed e.message⟩] := by
  unfold giveUp
  split <;> simp [Shared.emitUpload]

/-- A thread that gives up stops working: it has returned, or it is gone. -/
lemma not_working_giveUp : ∀ k', (giveUp c w k h s p e).worker = some k' → k'.stage ≠ .working := by
  unfold giveUp
  split <;> simp

end GiveUp

variable {w : World τ ω} {k : Worker} {ch : Channel}

lemma afterSend_zero (hk : w.worker = some k) (hch : w.channel = some ch) (hfr : ch.frames = []) :
    w.afterSend k ch 0 k.session w.peer = w := by
  obtain ⟨sh, up, wk, chn, pb, cap, dev, conn, peer⟩ := w
  cases ch
  simp only at hk hch hfr
  subst hk hch hfr
  simp [afterSend, countSent, count]

/-- **A turn of the upload thread is the sequential uploader.** A working thread takes the
frames in its channel one by one exactly as `sendAll` sends them: with every frame sent it
goes on from an empty channel, and at the first failure it gives up. -/
lemma pumpBy_frames (hk : w.worker = some k) (hs : k.stage = .working) (hch : w.channel = some ch)
    (fuel : Nat) :
    pumpBy c (ch.frames.length + fuel) w =
      match Session.sendAll c ch.frames k.session w.peer with
      | (n, none, s, p) => pumpBy c fuel (w.afterSend k ch n s p)
      | (n, some (e, h), s, p) =>
        giveUp c (w.countSent n) { k with session := s, sent := k.sent + n } h s p e := by
  generalize hfs : ch.frames = fs
  induction fs generalizing w k ch with
  | nil => simp [afterSend_zero hk hch hfs]
  | cons f rest ih =>
    rw [show (f :: rest).length + fuel = (rest.length + fuel) + 1 by simp; omega]
    simp only [pumpBy, hk, hch, hs, hfs, bne_self_eq_false, Bool.false_eq_true, if_false]
    rcases happ : Session.append c k.session f w.peer with ⟨_ | ⟨⟩, s', p'⟩
    · next e =>
      have hs' : s' = k.session := by
        have h := Session.append_error_session c (show (k.session.append c f w.peer).1 = .error e by rw [happ])
        rwa [happ] at h
      subst hs'
      simp only [Session.sendAll, happ, giveUp, countSent, count]
      split <;> simp [hch]
    · simp only [Session.sendAll, happ]
      rw [ih rfl rfl rfl rfl]
      dsimp only [count]
      rcases hrest : Session.sendAll c rest s' p' with ⟨n, _ | ⟨e, h⟩, s'', p''⟩
      · dsimp only
        congr 1
        simp [afterSend, countSent, count, Nat.add_assoc, Nat.add_comm 1 n, hs]
      · simp only [giveUp, countSent, count]
        split <;> simp [hch, Nat.add_assoc, Nat.add_comm 1 n]

/-- A thread with nothing in its channel waits while the capture still feeds it. -/
lemma pumpBy_fed (hk : w.worker = some k) (hch : w.channel = some ch) (hfr : ch.frames = [])
    (hfed : ch.fed = true) (fuel : Nat) : pumpBy c fuel w = w := by
  cases fuel with
  | zero => rfl
  | succ fuel =>
    simp only [pumpBy, hk, hch, hfr, hfed]
    split <;> rfl

/-- Once the capture has stopped feeding an empty channel, a working thread ends its request:
it publishes the server's answer with the chunks it sent, or gives up on a failure. -/
lemma pumpBy_unfed (hk : w.worker = some k) (hs : k.stage = .working) (hch : w.channel = some ch)
    (hfr : ch.frames = []) (hfed : ch.fed = false) (fuel : Nat) :
    pumpBy c (fuel + 1) w =
      match k.session.finish c w.peer with
      | (.ok r, s, p) =>
        { w with peer := p, channel := some { ch with heard := false },
                 worker := some { k with session := s, stage := .returned },
                 shared := w.shared.emitUpload k.id (.completed r.status? r.body k.sent) }
      | (.error e, s, p) => giveUp c w k (c.halts w.peer) s p e := by
  obtain ⟨frames, bound, fed, heard⟩ := ch
  simp only at hfr hfed
  subst hfr hfed
  simp only [pumpBy, hk, hch, hs, bne_self_eq_false, Bool.false_eq_true, if_false]
  -- the two matches are one up to their auxiliary matchers, which one file may already share
  all_goals rfl

/-- A thread that is not working does nothing more. -/
lemma pumpBy_of_not_working (h : ∀ k, w.worker = some k → k.stage ≠ .working) (fuel : Nat) :
    pumpBy c fuel w = w := by
  cases fuel with
  | zero => rfl
  | succ fuel =>
    unfold pumpBy
    split
    · next k _ hk _ => simp [h k hk]
    · rfl

lemma pumpBy_afterSend_fed {n : Nat} {s : Session} {p : ω} (hfed : ch.fed = true) (fuel : Nat) :
    pumpBy c fuel (w.afterSend k ch n s p) = w.afterSend k ch n s p :=
  pumpBy_fed c rfl rfl (show ({ ch with frames := [] } : Channel).frames = [] from rfl) hfed fuel

/-- The upload thread touches neither the device, nor capture, nor the session in hand, nor the
count of dropped chunks. -/
@[simp] lemma pumpBy_keeps (n : Nat) (w : World τ ω) :
    (pumpBy c n w).device = w.device ∧ (pumpBy c n w).capturing = w.capturing ∧
      (pumpBy c n w).uploads = w.uploads ∧
      (pumpBy c n w).shared.diag.uploadChunksDropped = w.shared.diag.uploadChunksDropped := by
  fun_induction pumpBy c n w with
  | case3 => rename_i ih; simpa [count] using ih
  | case4 => simp +zetaDelta
  | _ => simp [Shared.emitUpload]

lemma pump_of_channel (hch : w.channel = some ch) : pump c w = pumpBy c (ch.frames.length + 2) w := by
  simp [pump, hch]

/-! ### A streaming capture, frame by frame -/

/-- What a streaming capture works on: the upload thread, the channel, the upload peer, the
chunks sent and the uploads published. -/
def uploadSide (w : World τ ω) : Option Worker × Option Channel × ω × Nat × List UploadEvent :=
  (w.worker, w.channel, w.peer, w.shared.diag.uploadChunksSent, w.shared.uploads)

/-- Where a streaming capture stands once its upload thread, started as `k` from peer `p` on the
empty channel `ch`, has been forwarded the frames `fw`, counting from `sent₀` chunks sent and the
uploads `events₀` published. The peer and the chunk count are what `sendAll` makes of `fw`;
either nothing failed, and the thread works on an empty channel with nothing more published, or
the thread has given up at a failure, published it unless the failing operation stopped it, and
reads no more. -/
inductive Streams (k : Worker) (ch : Channel) (p : ω) (sent₀ : Nat) (events₀ : List UploadEvent)
    (fw : List (List UInt8)) (w : World τ ω) : Prop
  | working {n : Nat} {s : Session} {p' : ω}
      (hsend : Session.sendAll c fw k.session p = (n, none, s, p'))
      (hworker : w.worker = some { k with session := s, sent := k.sent + n })
      (hchannel : w.channel = some ch) (hpeer : w.peer = p')
      (hsent : w.shared.diag.uploadChunksSent = sent₀ + n) (hevents : w.shared.uploads = events₀)
  | stopped {n h : Nat} {e : Error} {s : Session} {p' : ω}
      (hsend : Session.sendAll c fw k.session p = (n, some (e, h), s, p'))
      (hworker : ∀ k', w.worker = some k' → k'.stage ≠ .working)
      (hchannel : w.channel = some { ch with heard := false }) (hpeer : w.peer = p')
      (hsent : w.shared.diag.uploadChunksSent = sent₀ + n)
      (hevents : ∃ q, w.shared.uploads =
        events₀ ++ if c.halts p' > h then [] else [⟨q, k.id, .failed e.message⟩])

namespace Streams

variable {p : ω} {sent₀ : Nat} {events₀ : List UploadEvent} {fw : List (List UInt8)} {w' : World τ ω}

/-- A thread that has sent `fw` without failing and was then forwarded `gs` stands where the
thread it started as stands after `fw ++ gs`. -/
lemma append {n : Nat} {s : Session} {p' : ω} {gs : List (List UInt8)}
    (hsend : Session.sendAll c fw k.session p = (n, none, s, p'))
    (h : Streams c { k with session := s, sent := k.sent + n } ch p' (sent₀ + n) events₀ gs w) :
    Streams c k ch p sent₀ events₀ (fw ++ gs) w := by
  have hall := Session.sendAll_append c fw gs k.session p
  rw [hsend] at hall
  cases h with
  | working hsend' hworker hchannel hpeer hsent hevents =>
    simp only [hsend'] at hall
    refine .working hall ?_ hchannel hpeer (by rw [hsent, Nat.add_assoc]) hevents
    simp [hworker, Nat.add_assoc]
  | stopped hsend' hworker hchannel hpeer hsent hevents =>
    simp only [hsend'] at hall
    exact .stopped hall hworker hchannel hpeer (by rw [hsent, Nat.add_assoc]) hevents

lemma of_side (h : Streams c k ch p sent₀ events₀ fw w) (hside : w'.uploadSide = w.uploadSide) :
    Streams c k ch p sent₀ events₀ fw w' := by
  simp only [uploadSide, Prod.mk.injEq] at hside
  obtain ⟨hw, hc, hp, hs, he⟩ := hside
  cases h with
  | working hsend hworker hchannel hpeer hsent hevents =>
    exact .working hsend (hw.trans hworker) (hc.trans hchannel) (hp.trans hpeer) (hs.trans hsent)
      (he.trans hevents)
  | stopped hsend hworker hchannel hpeer hsent hevents =>
    exact .stopped hsend (hw ▸ hworker) (hc.trans hchannel) (hp.trans hpeer) (hs.trans hsent)
      (he ▸ hevents)

end Streams

section Capture

variable {p : ω} {sent₀ : Nat} {events₀ : List UploadEvent} {fw : List (List UInt8)}

/-- **A working thread catches up with its channel**: from there the capture stands where the
thread stands after being forwarded the channel's frames. -/
lemma streams_pump (hk : w.worker = some k) (hs : k.stage = .working) (hch : w.channel = some ch)
    (hfed : ch.fed = true) :
    Streams c k { ch with frames := [] } w.peer w.shared.diag.uploadChunksSent w.shared.uploads
      ch.frames (pump c w) := by
  rw [pump_of_channel c hch, pumpBy_frames c hk hs hch 2]
  rcases hsend : Session.sendAll c ch.frames k.session w.peer with ⟨n, _ | ⟨e, h⟩, s, p'⟩
  · -- every frame went out: the thread waits on its empty channel
    dsimp only
    rw [pumpBy_afterSend_fed c hfed]
    refine .working hsend ?_ ?_ rfl ?_ ?_ <;> simp [afterSend, countSent, count]
  · -- a frame failed: the thread has given up
    refine .stopped hsend (not_working_giveUp c _ _ _ _ _ _) ?_ (peer_giveUp ..) ?_ ⟨w.shared.seq, ?_⟩
    · simp [countSent, count, hch]
    · simp [countSent, count]
    · simp [events_giveUp, countSent, count]

/-- **One frame offered to the upload channel.** It is forwarded and sent as `sendAll` sends it,
dropped and counted when the channel has no room, or discarded once the thread has given up on
a failure among the frames forwarded before it. -/
lemma offer_streams (hk : k.stage = .working) (hfr : ch.frames = []) (hfed : ch.fed = true)
    (hheard : ch.heard = true) (h : Streams c k ch p sent₀ events₀ fw w) (f : List UInt8) :
    ∃ t : Fate, Streams c k ch p sent₀ events₀ (fw ++ Fate.forwardedOf [f] [t]) (offer c w f) ∧
      (offer c w f).shared.diag.uploadChunksDropped =
        w.shared.diag.uploadChunksDropped + (if t = .dropped then 1 else 0) ∧
      (t = .discarded → (Session.sendAll c fw k.session p).2.1.isSome) ∧
      (offer c w f).device = w.device ∧ (offer c w f).capturing = w.capturing := by
  obtain ⟨frames, bound, fed, heard⟩ := ch
  simp only at hfr hfed hheard
  subst hfr hfed hheard
  cases h with
  | @working n s p' hsend hworker hchannel hpeer hsent hevents =>
    subst hpeer
    by_cases hb : 0 < bound
    · -- the frame goes into the channel, and the thread catches up with it at once
      have hoffer : offer c w f = pump c { w with channel := some { frames := [f], bound } } := by
        simp [offer, hchannel, hb]
      have hcaught := streams_pump c (w := { w with channel := some { frames := [f], bound } }) hworker
        (by simpa using hk) rfl rfl
      dsimp only at hcaught
      rw [hsent, hevents] at hcaught
      refine ⟨.forwarded, ?_, ?_, nofun, ?_, ?_⟩
      · simpa [hoffer] using Streams.append c hsend hcaught
      all_goals simp [hoffer, pump, pumpBy_keeps]
    · -- the channel has no room: the frame is counted as dropped
      have hoffer : offer c w f =
          w.count fun d => { d with uploadChunksDropped := d.uploadChunksDropped + 1 } := by
        simp [offer, hchannel, hb]
      refine ⟨.dropped, ?_, ?_, nofun, ?_, ?_⟩
      · simp only [Fate.forwardedOf, reduceCtorEq, if_false, List.append_nil]
        refine Streams.of_side c (Streams.working hsend hworker hchannel rfl hsent hevents) ?_
        simp [hoffer, uploadSide, count]
      all_goals simp [hoffer, count]
  | stopped hsend hworker hchannel hpeer hsent hevents =>
    have hoffer : offer c w f = w := by simp [offer, hchannel]
    refine ⟨.discarded, ?_, ?_, fun _ => by simp [hsend], ?_, ?_⟩
    · simpa [Fate.forwardedOf, hoffer] using Streams.stopped hsend hworker hchannel hpeer hsent hevents
    all_goals simp [hoffer]

/-- A streaming sink records the frame, which touches nothing of the upload, then offers it. -/
lemma feed_stream (w : World τ ω) (f : List UInt8) :
    ∃ w', feed c .stream w f = offer c w' f ∧ w'.uploadSide = w.uploadSide ∧
      w'.shared.diag.uploadChunksDropped = w.shared.diag.uploadChunksDropped ∧
      w'.device = w.device ∧ w'.capturing = w.capturing ∧ w'.uploads = w.uploads := by
  simp only [feed]
  split
  · exact ⟨_, rfl, rfl, rfl, rfl, rfl, rfl⟩
  · exact ⟨_, rfl, rfl, rfl, rfl, rfl, rfl⟩

/-- **Frames delivered to a streaming sink.** Each frame meets its fate: the ones forwarded are
sent as `sendAll` sends them after the frames forwarded before, the dropped ones are counted,
and a frame is discarded only once the frames forwarded before it have made the thread give up. -/
lemma deliver_streams (hk : k.stage = .working) (hfr : ch.frames = []) (hfed : ch.fed = true)
    (hheard : ch.heard = true) (fs : List (List UInt8)) (h : Streams c k ch p sent₀ events₀ fw w)
    (hsink : w.device.sink = some .stream) :
    ∃ tags : List Fate, tags.length = fs.length ∧
      Streams c k ch p sent₀ events₀ (fw ++ Fate.forwardedOf fs tags)
        (fs.foldl (fun w f => (w.deliver c f).2) w) ∧
      (fs.foldl (fun w f => (w.deliver c f).2) w).shared.diag.uploadChunksDropped =
        w.shared.diag.uploadChunksDropped + tags.count .dropped ∧
      (∀ i (hi : i < tags.length), tags[i] = .discarded →
        (Session.sendAll c (fw ++ Fate.forwardedOf (fs.take i) (tags.take i)) k.session p).2.1.isSome) ∧
      (fs.foldl (fun w f => (w.deliver c f).2) w).device = w.device ∧
      (fs.foldl (fun w f => (w.deliver c f).2) w).capturing = w.capturing := by
  induction fs generalizing fw w with
  | nil => exact ⟨[], rfl, by simpa using h, by simp, by simp, rfl, rfl⟩
  | cons f fs ih =>
    -- the first frame goes through the sink, then the rest from where it left the capture
    obtain ⟨w', hfeed, hside, hdrop, hdev, hcap, -⟩ := feed_stream c w f
    obtain ⟨t, hst, hdrop₁, hdisc, hdev₁, hcap₁⟩ :=
      offer_streams c hk hfr hfed hheard (Streams.of_side c h hside) f
    have hdeliver : (w.deliver c f).2 = offer c w' f := by simp [deliver, hsink, hfeed]
    obtain ⟨tags, hlen, hst', hdrop', hdisc', hdev', hcap'⟩ :=
      ih hst (by rw [hdev₁, hdev, hsink])
    refine ⟨t :: tags, by simp [hlen], ?_, ?_, ?_, ?_, ?_⟩
    · simpa [List.foldl_cons, hdeliver, List.append_assoc] using hst'
    · simp only [List.foldl_cons, hdeliver, hdrop', hdrop₁, hdrop, List.count_cons]
      cases t with
      | dropped => simp; omega
      | _ => simp
    · intro i hi hti
      cases i with
      | zero => simpa using hdisc hti
      | succ j =>
        have := hdisc' j (by simpa using hi) (by simpa using hti)
        simpa [List.append_assoc] using this
    · simp [List.foldl_cons, hdeliver, hdev', hdev₁, hdev]
    · simp [List.foldl_cons, hdeliver, hcap', hcap₁, hcap]

/-- Taking the session back from a thread that no longer works leaves no thread and changes
nothing else but the session in hand. -/
lemma reap_of_not_working (h : ∀ k, w.worker = some k → k.stage ≠ .working) :
    reap c true w = { w with worker := none, uploads := (reap c true w).uploads } := by
  have hpump : pump c w = w := pumpBy_of_not_working c h _
  simp only [reap, if_true, hpump]
  split
  · rfl
  · rfl
  · next hret hcrash =>
    -- no thread was left: one that works is excluded, the others were just taken back
    cases hw : w.worker with
    | none =>
      obtain ⟨sh, up, wk, chn, pb, cap, dev, conn, peer⟩ := w
      simp only at hw
      rw [hw]
    | some k =>
      obtain ⟨session, id, sent, stage⟩ := k
      cases stage with
      | working => exact absurd rfl (h _ hw)
      | returned => exact (hret _ _ _ hw).elim
      | crashed => exact (hcrash _ _ _ hw).elim

/-- Before its thread starts, a streaming capture's channel keeps the frames offered while it
has room; the others are dropped, and counted. -/
lemma foldl_feed_unthreaded {b : Nat} {fr : List (List UInt8)} (hw : w.worker = none)
    (hch : w.channel = some { frames := fr, bound := b }) (sf : List (List UInt8)) :
    ∃ tags : List Fate, tags.length = sf.length ∧ (∀ t ∈ tags, t ≠ .discarded) ∧
      (sf.foldl (feed c .stream) w).uploadSide =
        { w with channel := some { frames := fr ++ Fate.forwardedOf sf tags, bound := b } }.uploadSide ∧
      (sf.foldl (feed c .stream) w).shared.diag.uploadChunksDropped =
        w.shared.diag.uploadChunksDropped + tags.count .dropped ∧
      (sf.foldl (feed c .stream) w).device = w.device ∧
      (sf.foldl (feed c .stream) w).uploads = w.uploads := by
  induction sf generalizing fr w with
  | nil => exact ⟨[], rfl, by simp, by simp [uploadSide, hch], by simp, rfl, rfl⟩
  | cons f sf ih =>
    obtain ⟨w', hfeed, hside, hdrop, hdev, -, hup⟩ := feed_stream c w f
    simp only [uploadSide, Prod.mk.injEq] at hside
    obtain ⟨hw', hch', hpeer', hsent', hevents'⟩ := hside
    rw [hw] at hw'
    rw [hch] at hch'
    by_cases hb : fr.length < b
    · -- room left: the frame waits in the channel
      have hoffer : offer c w' f = { w' with channel := some { frames := fr ++ [f], bound := b } } := by
        simp only [offer, hch', Bool.not_true, Bool.false_eq_true, if_false, hb, if_true]
        exact pumpBy_of_not_working c (by simp [hw']) _
      obtain ⟨tags, hlen, hdisc, hside, hdrop', hdev', hup'⟩ :=
        ih (w := { w' with channel := some { frames := fr ++ [f], bound := b } }) hw' rfl
      refine ⟨.forwarded :: tags, by simp [hlen], ?_, ?_, ?_, ?_, ?_⟩
      · simpa using hdisc
      · simpa [hfeed, hoffer, uploadSide, hw, hw', hpeer', hsent', hevents'] using hside
      · rw [List.foldl_cons, hfeed, hoffer, hdrop', hdrop]
        simp
      · rw [List.foldl_cons, hfeed, hoffer, hdev']
        exact hdev
      · rw [List.foldl_cons, hfeed, hoffer, hup']
        exact hup
    · -- the channel is full: the frame is dropped and counted
      have hoffer : offer c w' f =
          w'.count fun d => { d with uploadChunksDropped := d.uploadChunksDropped + 1 } := by
        simp [offer, hch', hb]
      obtain ⟨tags, hlen, hdisc, hside, hdrop', hdev', hup'⟩ :=
        ih (w := w'.count fun d => { d with uploadChunksDropped := d.uploadChunksDropped + 1 }) hw' hch'
      refine ⟨.dropped :: tags, by simp [hlen], ?_, ?_, ?_, ?_, ?_⟩
      · simpa using hdisc
      · simpa [hfeed, hoffer, uploadSide, count, hw, hw', hpeer', hsent', hevents'] using hside
      · rw [List.foldl_cons, hfeed, hoffer, hdrop']
        simp [count, hdrop]
        omega
      · rw [List.foldl_cons, hfeed, hoffer, hdev']
        exact hdev
      · rw [List.foldl_cons, hfeed, hoffer, hup']
        exact hup

/-- A streaming sink attached with no thread running: the start frames wait in the fresh
channel while it has room, the others are dropped and counted, and the device keeps the sink. -/
lemma attach_stream {b : Nat} {w' : World τ ω} (hw : w.worker = none)
    (hch : w.channel = some { bound := b }) (h : attach c .stream w = (.ok (), w')) :
    ∃ tags : List Fate, tags.length = w.device.startFrames.length ∧ (∀ t ∈ tags, t ≠ .discarded) ∧
      w'.uploadSide =
        { w with channel := some { frames := Fate.forwardedOf w.device.startFrames tags, bound := b } }.uploadSide ∧
      w'.shared.diag.uploadChunksDropped = w.shared.diag.uploadChunksDropped + tags.count .dropped ∧
      w'.device = w.device.keep .stream ∧ w'.uploads = w.uploads := by
  unfold attach at h
  split at h
  · simp at h
  · next sf hstart =>
    have hsf : sf = w.device.startFrames := (Device.frames_of_startCapture hstart).symm
    subst hsf
    obtain ⟨tags, hlen, hdisc, hside, hdrop, hdev, hup⟩ := foldl_feed_unthreaded c hw hch w.device.startFrames
    simp only [Prod.mk.injEq, true_and] at h
    subst h
    exact ⟨tags, hlen, hdisc, by simpa [uploadSide] using hside, hdrop, by rw [hdev], hup⟩

/-- **A streaming capture that starts.** With no upload thread at work, a streaming capture that
starts has taken the session in hand, opened its request under the next name, and forwarded the
device's start frames while the channel had room, the others dropped and counted; from there it
stands where the new thread stands after being forwarded those frames. -/
lemma start_streams {w₀ w₁ : World τ ω} {token : String}
    (hthread : ∀ k, w₀.worker = some k → k.stage ≠ .working)
    (h : startCapture c (.stream token) w₀ = (.ok (), w₁)) :
    ∃ s₀ id s₁ p₁, (reap c true w₀).uploads = some s₀ ∧ s₀.init c token w₀.peer = (.ok id, s₁, p₁) ∧
    ∃ tags : List Fate, tags.length = w₀.device.startFrames.length ∧ (∀ t ∈ tags, t ≠ .discarded) ∧
      Streams c { session := s₁, id } { bound := w₀.shared.config.uploadChunkQueue } p₁
        w₀.shared.diag.uploadChunksSent w₀.shared.uploads (Fate.forwardedOf w₀.device.startFrames tags) w₁ ∧
      w₁.shared.diag.uploadChunksDropped = w₀.shared.diag.uploadChunksDropped + tags.count .dropped ∧
      w₁.device.sink = some .stream ∧ w₁.capturing = true := by
  unfold startCapture at h
  split at h
  · simp at h
  rcases hs : startStream c token (w₀.share fun sh => { sh with capture := sh.capture.clear }) with
    ⟨_ | ⟨⟩, w₂⟩
  · simp [hs] at h
  simp only [hs, Prod.mk.injEq, true_and] at h
  subst h
  -- clearing the capture record touches nothing the upload reads
  have hup : (reap c true (w₀.share fun sh => { sh with capture := sh.capture.clear })).uploads =
      (reap c true w₀).uploads := by
    simp only [reap, if_true, pumpBy_of_not_working c hthread, pump,
      pumpBy_of_not_working c (w := w₀.share fun sh => { sh with capture := sh.capture.clear }) hthread]
    simp only [share]
    split <;> rfl
  obtain ⟨u, hu⟩ : ∃ u, reap c true (w₀.share fun sh => { sh with capture := sh.capture.clear }) =
      { w₀.share fun sh => { sh with capture := sh.capture.clear } with worker := none, uploads := u } :=
    ⟨_, reap_of_not_working c hthread⟩
  rw [hu] at hup
  simp only [startStream, hu] at hs
  split at hs
  · simp at hs
  next _ s₀ =>
  split at hs
  · simp at hs
  next wa hattach =>
  split at hs
  · simp at hs
  next id s₁ p₁ hinit =>
  simp only [Prod.mk.injEq, true_and] at hs
  subst hs
  obtain ⟨tags, hlen, hdisc, hside, hdrop, hdev, -⟩ := attach_stream c rfl rfl hattach
  simp only [uploadSide, share, Prod.mk.injEq] at hside
  obtain ⟨hw, hch, hpeer, hsent, hevents⟩ := hside
  refine ⟨s₀, id, s₁, p₁, by simpa using hup.symm, by rw [← hpeer]; exact hinit, tags,
    by simpa [share] using hlen, hdisc, ?_, ?_, ?_, rfl⟩
  · -- the thread starts on the frames waiting in the channel
    have hcaught := streams_pump c (w := { wa with peer := p₁, worker := some { session := s₁, id } })
      rfl rfl hch rfl
    refine Streams.of_side c (w := pump c { wa with peer := p₁, worker := some { session := s₁, id } }) ?_ ?_
    · simpa [hsent, hevents] using hcaught
    · simp [uploadSide, share, Shared.publish, Shared.emitActivity]
  · simp [share, Shared.publish, Shared.emitActivity, hdrop, pump]
  · simp [share, hdev, pump, Device.keep]

/-- Stopping capture stops the device, tells the channel that no more frames come, publishes the
capture's end, and lets the upload thread catch up. -/
lemma stopCapture_eq (hcap : w.capturing = true) :
    ∃ w₂, (stopCapture c w).2 = pump c w₂ ∧ w₂.worker = w.worker ∧
      w₂.channel = w.channel.map (fun ch => { ch with fed := false }) ∧ w₂.peer = w.peer ∧
      w₂.shared.uploads = w.shared.uploads ∧ w₂.shared.diag = w.shared.diag ∧
      w₂.shared.seq = w.shared.seq + 1 ∧ w₂.uploads = w.uploads ∧ w₂.capturing = false ∧
      w₂.device = w.device.stopCapture.1 := by
  simp only [stopCapture, hcap, Bool.not_true, Bool.false_eq_true, if_false]
  exact ⟨_, rfl, rfl, rfl, rfl, rfl, rfl, rfl, rfl, rfl, rfl⟩

/-- A working thread on an empty channel that is no longer fed ends its request. -/
lemma pump_of_unfed (hk : w.worker = some k) (hs : k.stage = .working) (hch : w.channel = some ch)
    (hfr : ch.frames = []) (hfed : ch.fed = false) :
    pump c w =
      match k.session.finish c w.peer with
      | (.ok r, s, p) =>
        { w with peer := p, channel := some { ch with heard := false },
                 worker := some { k with session := s, stage := .returned },
                 shared := w.shared.emitUpload k.id (.completed r.status? r.body k.sent) }
      | (.error e, s, p) => giveUp c w k (c.halts w.peer) s p e := by
  rw [pump_of_channel c hch, show ch.frames.length + 2 = 1 + 1 by simp [hfr]]
  exact pumpBy_unfed c hk hs hch hfr hfed 1

/-- **A streaming capture that stops.** Its thread ends the request as `serveFrames` does with
the frames forwarded to it: the capture publishes that upload's outcome, if the thread lives to
publish one, and leaves the peer where the sequential uploader leaves it. -/
lemma stop_streams (hk : k.stage = .working) (hk0 : k.sent = 0) (hfr : ch.frames = [])
    (h : Streams c k ch p sent₀ events₀ fw w) (hcap : w.capturing = true) :
    (stopCapture c w).2.peer = (Session.serveFrames c fw k.session p).2 ∧
      (∃ q, (stopCapture c w).2.shared.uploads =
        events₀ ++ ((Session.serveFrames c fw k.session p).1.map fun o => (⟨q, k.id, o⟩ : UploadEvent)).toList) ∧
      (stopCapture c w).2.shared.diag.uploadChunksSent = sent₀ + (Session.sendAll c fw k.session p).1 ∧
      (stopCapture c w).2.shared.diag.uploadChunksDropped = w.shared.diag.uploadChunksDropped := by
  obtain ⟨w₂, hstop, hw, hch, hp, hev, hdiag, hseq, -, -, -⟩ := stopCapture_eq c hcap
  rw [hstop]
  cases h with
  | @working n s p' hsend hworker hchannel hpeer hsent hevents =>
    -- the thread was waiting on its empty channel: now it ends the request
    rw [pump_of_unfed c (hw.trans hworker) (by simpa using hk) (by simp [hch, hchannel])
      (show ({ ch with fed := false } : Channel).frames = [] from hfr) rfl]
    simp only [Session.serveFrames, hsend, hp, hpeer]
    rcases hfin : s.finish c p' with ⟨_ | r, s', p''⟩
    · refine ⟨by simp, ⟨w₂.shared.seq, ?_⟩, by simp [hdiag, hsent], by simp [hdiag]⟩
      simp only [events_giveUp, hev, hevents]
      split <;> simp
    · refine ⟨rfl, ⟨w₂.shared.seq, ?_⟩, ?_, ?_⟩ <;>
        simp [Shared.emitUpload, hev, hevents, hdiag, hsent, hk0]
  | @stopped n h e s p' hsend hworker hchannel hpeer hsent hevents =>
    -- the thread had given up: it does nothing more
    rw [pump, pumpBy_of_not_working c (hw ▸ hworker)]
    obtain ⟨q, hq⟩ := hevents
    simp only [Session.serveFrames, hsend]
    refine ⟨hp.trans hpeer, ⟨q, ?_⟩, by simp [hdiag, hsent], by simp [hdiag]⟩
    rw [hev, hq]
    split <;> simp

/-- **A streaming capture, start to stop.** With no upload thread at work, a streaming capture
that starts, is delivered frames `fs` and stops: every frame delivered, the device's start
frames first, has a fate; the dropped ones are counted; a frame is discarded only once the
frames forwarded before it have made the sequential uploader fail; and the upload goes as the
sequential uploader `serveFrames` takes the frames forwarded, from the request `init` opened:
its outcome is published under the request's name, the peer is left where it leaves it, and
the chunks it sent are counted. -/
lemma streaming_capture {w₀ w₁ : World τ ω} {token : String}
    (hthread : ∀ k, w₀.worker = some k → k.stage ≠ .working)
    (hstart : startCapture c (.stream token) w₀ = (.ok (), w₁)) (fs : List (List UInt8)) :
    ∃ s₀ id s₁ p₁, (reap c true w₀).uploads = some s₀ ∧ s₀.init c token w₀.peer = (.ok id, s₁, p₁) ∧
    ∃ tags : List Fate, tags.length = (w₀.device.startFrames ++ fs).length ∧
      (stopCapture c (fs.foldl (fun w f => (w.deliver c f).2) w₁)).2.shared.diag.uploadChunksDropped =
        w₀.shared.diag.uploadChunksDropped + tags.count .dropped ∧
      (∀ i (hi : i < tags.length), tags[i] = .discarded →
        (Session.sendAll c (Fate.forwardedOf ((w₀.device.startFrames ++ fs).take i) (tags.take i))
          s₁ p₁).2.1.isSome) ∧
      (stopCapture c (fs.foldl (fun w f => (w.deliver c f).2) w₁)).2.peer =
        (Session.serveFrames c (Fate.forwardedOf (w₀.device.startFrames ++ fs) tags) s₁ p₁).2 ∧
      (∃ q, (stopCapture c (fs.foldl (fun w f => (w.deliver c f).2) w₁)).2.shared.uploads =
        w₀.shared.uploads ++ ((Session.serveFrames c (Fate.forwardedOf (w₀.device.startFrames ++ fs) tags)
          s₁ p₁).1.map fun o => (⟨q, id, o⟩ : UploadEvent)).toList) ∧
      (stopCapture c (fs.foldl (fun w f => (w.deliver c f).2) w₁)).2.shared.diag.uploadChunksSent =
        w₀.shared.diag.uploadChunksSent +
          (Session.sendAll c (Fate.forwardedOf (w₀.device.startFrames ++ fs) tags) s₁ p₁).1 := by
  obtain ⟨s₀, id, s₁, p₁, hs₀, hinit, tags₀, hlen₀, hdisc₀, hst, hdrop, hsink, hcap⟩ :=
    start_streams c hthread hstart
  obtain ⟨tags₁, hlen₁, hst', hdrop', hdisc₁, -, hcap'⟩ := deliver_streams c rfl rfl rfl rfl fs hst hsink
  obtain ⟨hpeer, hevents, hsent, hdrop''⟩ := stop_streams c rfl rfl rfl hst' (hcap'.trans hcap)
  have hfw := Fate.forwardedOf_append hlen₀ fs tags₁
  refine ⟨s₀, id, s₁, p₁, hs₀, hinit, tags₀ ++ tags₁, by simp [hlen₀, hlen₁], ?_, ?_, ?_, ?_, ?_⟩
  · rw [hdrop'', hdrop', hdrop, List.count_append, Nat.add_assoc]
  · -- a start frame is never discarded; a later one only as the deliveries say
    intro i hi hti
    by_cases hi₀ : i < tags₀.length
    · rw [List.getElem_append_left hi₀] at hti
      exact absurd hti (hdisc₀ _ (List.getElem_mem hi₀))
    · obtain ⟨j, rfl⟩ : ∃ j, i = tags₀.length + j := ⟨i - tags₀.length, by omega⟩
      rw [List.getElem_append_right (by omega)] at hti
      have := hdisc₁ j (by simp at hi; omega) (by simpa using hti)
      have hframes : (w₀.device.startFrames ++ fs).take (tags₀.length + j) =
          w₀.device.startFrames ++ fs.take j := by
        rw [hlen₀, List.take_length_add_append]
      rw [hframes, List.take_length_add_append, Fate.forwardedOf_append hlen₀]
      exact this
  · rw [hfw, hpeer]
  · rw [hfw]
    exact hevents
  · rw [hfw, hsent]

end Capture

end World

end Client

end Talkback
