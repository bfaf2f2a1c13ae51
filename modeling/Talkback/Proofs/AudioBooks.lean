import Talkback.Proofs.Outbound
import Talkback.Proofs.Playback
import Talkback.Proofs.Threads

/-!
Every byte of audio a run receives is counted once: as played or as dropped.

The playback books of a world are the audio counted in and dropped, the bytes open playback
has taken, the playback starts and ends published, and (for the requests that carry audio) the
control requests waiting. `Tally w w' n` says how the books move between two worlds while `n`
bytes of audio are counted in: starts and ends of playback alternate, and the bytes counted in
are the bytes dropped, the bytes reported by the ends, and the growth of open playback's bytes.
Playing a buffer tallies its samples (`tally_play`); opening and closing playback, taking
requests, handling events and ending the loop tally what they play; everything else leaves the
books alone (`books_*`). Along a run under any threads (`Script`), the audio counted in is that
of the binary messages handled and of the clips whose requests were taken, and when the run
ends every byte of it is dropped or reported by a playback end.

Each playback end reports what its session's sink accepted (`session_reports_accepted`): the
pieces the ring took whole in pull mode, the buffers the device's write took in blocking mode.
-/

namespace Talkback

namespace ActivityKind

/-- The activity is playback's start or end. -/
def onPlayback : ActivityKind → Bool
  | .playbackStarted | .playbackStopped .. => true
  | _ => false

/-- Whether playback is open after the activity, from `o`; `none` when a start finds playback
open or an end finds it closed. -/
def follow (o : Bool) : ActivityKind → Option Bool
  | .playbackStarted => if o then none else some true
  | .playbackStopped .. => if o then some false else none
  | _ => some o

/-- The bytes the activity reports as played. -/
def playedBytes : ActivityKind → Nat
  | .playbackStopped b _ => b
  | _ => 0

end ActivityKind

namespace ActivityEvent

/-- Whether playback is open after `evs`, from `o`: `none` unless starts and ends alternate. -/
def openAfter (o : Bool) : List ActivityEvent → Option Bool
  | [] => some o
  | a :: evs => (a.kind.follow o).bind (openAfter · evs)

/-- The bytes the playback ends among `evs` report as played. -/
def played : List ActivityEvent → Nat
  | [] => 0
  | a :: evs => a.kind.playedBytes + played evs

@[simp] lemma openAfter_nil (o : Bool) : openAfter o [] = some o := rfl

lemma openAfter_append (o : Bool) (evs evs' : List ActivityEvent) :
    openAfter o (evs ++ evs') = (openAfter o evs).bind (openAfter · evs') := by
  induction evs generalizing o with
  | nil => rfl
  | cons a evs ih =>
    simp only [List.cons_append, openAfter, ih]
    cases a.kind.follow o <;> rfl

@[simp] lemma played_nil : played [] = 0 := rfl

@[simp] lemma played_append (evs evs' : List ActivityEvent) :
    played (evs ++ evs') = played evs + played evs' := by
  induction evs with
  | nil => simp
  | cons a evs ih => simp only [List.cons_append, played, ih]; omega

end ActivityEvent

namespace Client

open Buffer (Ring Traffic)
open Transport (LinkEvent)

/-- The bytes of audio in `bufs`, each read in encoding `enc`. -/
def pcmBytes (enc : Audio.Encoding) : List (List UInt8) → Nat
  | [] => 0
  | b :: bs => (Codec.Wav.extract b enc).length + pcmBytes enc bs

@[simp] lemma pcmBytes_nil (enc : Audio.Encoding) : pcmBytes enc [] = 0 := rfl

@[simp] lemma pcmBytes_append (enc : Audio.Encoding) (bs bs' : List (List UInt8)) :
    pcmBytes enc (bs ++ bs') = pcmBytes enc bs + pcmBytes enc bs' := by
  induction bs with
  | nil => simp
  | cons b bs ih => simp only [List.cons_append, pcmBytes, ih]; omega

/-- The audio a control request asks to play. -/
def Request.clip : Request → Option (List UInt8)
  | .playClip a => some a
  | _ => none

@[simp] lemma Request.clip_playClip (a : List UInt8) : (Request.playClip a).clip = some a := rfl
@[simp] lemma Request.clip_startCapture (m : CaptureMode) (k : Nat) : (Request.startCapture m k).clip = none := rfl
@[simp] lemma Request.clip_stopCapture (k : Nat) : (Request.stopCapture k).clip = none := rfl
@[simp] lemma Request.clip_stopPlayback : Request.stopPlayback.clip = none := rfl
@[simp] lemma Request.clip_disconnect : Request.disconnect.clip = none := rfl

/-- The device stream playback opens in the client's mode. -/
def Config.playbackSource (cfg : Config) : Source :=
  match cfg.playbackMode with
  | .blocking => .blocking
  | .pull => .pull

/-- The ring playback opens with in the client's mode: one of the configured size when the device
pulls, none when it is written to. -/
def Config.playbackRing (cfg : Config) : Option Ring :=
  match cfg.playbackMode with
  | .blocking => none
  | .pull => some (Ring.create cfg.playbackBufferBytes)

namespace World

variable {τ ω : Type}

/-- The playback starts and ends published. -/
def playbackLog (w : World τ ω) : List ActivityEvent := w.shared.activity.filter (·.kind.onPlayback)

/-- The bytes open playback has taken; none when it is closed. -/
def openBytes (w : World τ ω) : Nat := (w.playback.map Playback.bytes).getD 0

/-- The playback books: the settings, the control requests waiting, the playback starts and ends
published, the bytes open playback has taken, and the audio counted in and dropped. -/
def audioBooks (w : World τ ω) :
    Config × List Request × List ActivityEvent × Option Nat × Nat × Nat :=
  (w.shared.config, w.shared.requests, w.playbackLog, w.playback.map Playback.bytes,
    w.shared.diag.audioBytesReceived, w.shared.diag.audioBytesDropped)

/-- How the playback books move from `w` to `w'` while `n` bytes of audio are counted in: the
settings stay; the starts and ends published grow by `extra`, in which playback starts only while
closed and ends only while open, leaving it open as in `w'`; and the bytes counted in, with those
dropped and open playback's bytes before, are the bytes dropped, those reported by the ends, and
open playback's bytes after. -/
structure Tally (w w' : World τ ω) (n : Nat) : Prop where
  config : w'.shared.config = w.shared.config
  received : w'.shared.diag.audioBytesReceived = w.shared.diag.audioBytesReceived + n
  activity : ∃ extra, w'.playbackLog = w.playbackLog ++ extra ∧
    ActivityEvent.openAfter w.playback.isSome extra = some w'.playback.isSome ∧
    n + w.shared.diag.audioBytesDropped + w.openBytes =
      w'.shared.diag.audioBytesDropped + ActivityEvent.played extra + w'.openBytes

namespace Tally

variable {w w' w'' : World τ ω} {n n' : Nat}

lemma refl (w : World τ ω) : Tally w w 0 :=
  ⟨rfl, rfl, [], by simp, by simp, by simp⟩

lemma trans (h : Tally w w' n) (h' : Tally w' w'' n') : Tally w w'' (n + n') := by
  obtain ⟨extra, hlog, hopen, hbal⟩ := h.activity
  obtain ⟨extra', hlog', hopen', hbal'⟩ := h'.activity
  refine ⟨h'.config.trans h.config, by rw [h'.received, h.received, Nat.add_assoc], extra ++ extra',
    by rw [hlog', hlog, List.append_assoc], ?_, ?_⟩
  · rw [ActivityEvent.openAfter_append, hopen]
    exact hopen'
  · rw [ActivityEvent.played_append]
    omega

/-- A step that leaves the books alone tallies nothing. -/
lemma of_books (h : w'.audioBooks = w.audioBooks) : Tally w w' 0 := by
  simp only [audioBooks, Prod.mk.injEq] at h
  obtain ⟨hc, -, hlog, hpb, hr, hd⟩ := h
  have hsome : w'.playback.isSome = w.playback.isSome := by
    rw [← Option.isSome_map (f := Playback.bytes), hpb, Option.isSome_map]
  refine ⟨hc, hr, [], by simp [hlog], by simp [hsome], ?_⟩
  simp [openBytes, hpb, hd]

/-- A step that publishes nothing about playback, neither opens nor closes it, and counts `n`
bytes in, each dropped or added to open playback's bytes. -/
lemma of_counts (hc : w'.shared.config = w.shared.config) (hlog : w'.playbackLog = w.playbackLog)
    (hsome : w'.playback.isSome = w.playback.isSome)
    (hr : w'.shared.diag.audioBytesReceived = w.shared.diag.audioBytesReceived + n)
    (hbal : n + w.shared.diag.audioBytesDropped + w.openBytes = w'.shared.diag.audioBytesDropped + w'.openBytes) :
    Tally w w' n :=
  ⟨hc, hr, [], by simp [hlog], by simp [hsome], by simpa using hbal⟩

lemma requests_eq_of_books (h : w'.audioBooks = w.audioBooks) : w'.shared.requests = w.shared.requests := by
  simp only [audioBooks, Prod.mk.injEq] at h
  exact h.2.1

/-- A step always aside, taken apart by its result. -/
lemma of_pair {α : Type} {f : World τ ω → α × World τ ω} (hf : ∀ w, (f w).2.audioBooks = w.audioBooks)
    {r : α} (h : f w = (r, w')) : w'.audioBooks = w.audioBooks := by
  simpa [h] using hf w

end Tally

/-! ### Steps that leave the books alone -/

section Aside

variable (c : Upload.Connector ω)

lemma books_giveUp (w : World τ ω) (k : Worker) (halts : Nat) (s : Upload.Session) (p : ω)
    (e : Error) : (giveUp c w k halts s p e).audioBooks = w.audioBooks := by
  unfold giveUp
  split <;> rfl

lemma books_pumpBy (n : Nat) (w : World τ ω) : (pumpBy c n w).audioBooks = w.audioBooks := by
  -- the upload thread moves its channel, its session, the peer and the upload counters only
  fun_induction pumpBy c n w with
  | case3 => rename_i ih; exact ih
  | case4 => exact books_giveUp ..
  | case7 => exact books_giveUp ..
  | _ => rfl

lemma books_pump (w : World τ ω) : (pump c w).audioBooks = w.audioBooks := books_pumpBy c _ w

lemma books_reap (wait : Bool) (w : World τ ω) : (reap c wait w).audioBooks = w.audioBooks := by
  have hw : (if wait then pump c w else w).audioBooks = w.audioBooks := by
    split
    · exact books_pump c w
    · rfl
  simp only [reap]
  split <;> exact hw

lemma books_offer (w : World τ ω) (frame : List UInt8) : (offer c w frame).audioBooks = w.audioBooks := by
  unfold offer
  split
  · split
    · rfl
    · split
      · exact books_pump c _
      · rfl
  · rfl

lemma books_enqueue (w : World τ ω) (m : Dispatch.Message) :
    (w.share fun sh => (sh.enqueue m).2).audioBooks = w.audioBooks := by
  simp only [share, Shared.enqueue]
  split <;> rfl

lemma books_feed (s : Sink) (w : World τ ω) (frame : List UInt8) :
    (feed c s w frame).audioBooks = w.audioBooks := by
  -- a streaming sink records the frame as the recording sink does, then offers it
  have hrecord : (feed c .record w frame).audioBooks = w.audioBooks := by
    simp only [feed]
    split <;> rfl
  cases s with
  | record => exact hrecord
  | stream => exact (books_offer c _ frame).trans hrecord
  | relay => exact books_enqueue w (.binary frame)

lemma books_foldl_feed (s : Sink) (frames : List (List UInt8)) (w : World τ ω) :
    (frames.foldl (feed c s) w).audioBooks = w.audioBooks := by
  induction frames generalizing w with
  | nil => rfl
  | cons f fs ih => exact (ih _).trans (books_feed c s w f)

lemma books_deliver (w : World τ ω) (frame : List UInt8) : (w.deliver c frame).2.audioBooks = w.audioBooks := by
  unfold deliver
  split
  · exact books_feed c _ w frame
  · rfl

lemma books_attach (s : Sink) (w : World τ ω) : (attach c s w).2.audioBooks = w.audioBooks := by
  unfold attach
  split
  · rfl
  · exact books_foldl_feed c s _ w

lemma books_startStream (token : String) (w : World τ ω) :
    (startStream c token w).2.audioBooks = w.audioBooks := by
  have hreap := books_reap c true w
  simp only [startStream]
  split
  · exact hreap
  · split
    · next _ _ w₂ heq =>
      exact (Tally.of_pair (books_attach c .stream) heq).trans hreap
    · next _ w₂ heq =>
      have hattach := (Tally.of_pair (books_attach c .stream) heq).trans hreap
      split
      · exact hattach
      · exact (books_pump c _).trans hattach

/-- A capture that starts publishes its start, which is not playback's. -/
lemma books_started {w : World τ ω} {r : Except Error Unit × World τ ω}
    (h : r.2.audioBooks = (w.share fun sh => { sh with capture := sh.capture.clear }).audioBooks) :
    (match r with
      | (Except.error e, w) => (Except.error e, w)
      | (Except.ok (), w) => (Except.ok (), { w with capturing := true }.share fun sh =>
          (sh.publish .capturing none).emitActivity .captureStarted)).2.audioBooks = w.audioBooks := by
  refine started_of (P := fun u => u.audioBooks = w.audioBooks) ?_ h
  intro u hu
  simp only [audioBooks, playbackLog, share, Shared.publish, Shared.emitActivity,
    List.filter_append] at hu ⊢
  simpa [ActivityKind.onPlayback] using hu

lemma books_startCapture (mode : CaptureMode) (w : World τ ω) :
    (startCapture c mode w).2.audioBooks = w.audioBooks := by
  unfold startCapture
  split
  · rfl
  cases mode with
  | record => exact books_started (books_attach c .record _)
  | relay => exact books_started (books_attach c .relay _)
  | stream token => exact books_started (books_startStream c token _)

lemma books_stopCapture (w : World τ ω) : (stopCapture c w).2.audioBooks = w.audioBooks := by
  unfold stopCapture
  split
  · rfl
  · refine (books_pump c _).trans ?_
    simp [audioBooks, playbackLog, share, Shared.publish, Shared.emitActivity, ActivityKind.onPlayback]

end Aside

@[simp] lemma books_answer (w : World τ ω) (k : Nat) (a : Answer) :
    (w.answer k a).audioBooks = w.audioBooks := rfl

lemma books_pull (w : World τ ω) (n : Nat) : (w.pull n).2.audioBooks = w.audioBooks := by
  -- a pull moves the ring and the underflow count, never the bytes playback has taken
  unfold pull
  split
  · rfl
  · split
    · next pb hpb =>
      split
      · simp [audioBooks, playbackLog, hpb]
      · split
        · simp [audioBooks, playbackLog, count, hpb]
        · rfl
    · rfl

lemma books_wantWrite (link : Link τ) (w : World τ ω) : (wantWrite link w).audioBooks = w.audioBooks := by
  unfold wantWrite
  split <;> rfl

lemma books_onConnected (link : Link τ) (w : World τ ω) :
    (onConnected link w).audioBooks = w.audioBooks := by
  simp only [onConnected]
  split <;> rfl

lemma books_onWritable (link : Link τ) (w : World τ ω) : (onWritable link w).audioBooks = w.audioBooks := by
  rcases hq : w.shared.queue.dequeue with ⟨m, q⟩
  simp only [onWritable, hq]
  -- one message at most is handed to the connection; either way only the queue and the
  -- connection move, and the counts of messages sent and failed
  cases m with
  | none =>
    dsimp only
    split <;> rfl
  | some m =>
    dsimp only
    split
    · split <;> rfl
    · split <;> rfl

/-! ### Opening, playing and closing -/

variable {w w₁ : World τ ω} {pb : Playback} {d : List UInt8}

/-- Playback already open stays as it is. -/
lemma ensurePlayback_of_open (h : w.playback.isSome) : w.ensurePlayback = (.ok (), w) := by
  simp [ensurePlayback, h]

/-- Opening playback when none is open: the device's start decides, and a start that succeeds
opens playback on the mode's ring, with no bytes taken, and publishes its start. -/
lemma ensurePlayback_of_closed (h : w.playback = none) :
    w.ensurePlayback =
      match w.device.startPlayback w.shared.config.playbackSource with
      | (d, .error e) => (.error e, { w with device := d })
      | (d, .ok ()) => (.ok (), { w with device := d, playback := some { ring := w.shared.config.playbackRing },
                                         shared := w.shared.emitActivity .playbackStarted }) := by
  simp only [ensurePlayback, h, Option.isSome_none, Bool.false_eq_true, if_false]
  cases hm : w.shared.config.playbackMode <;> simp only [Config.playbackSource, Config.playbackRing, hm] <;> rfl

/-- Playback a start left open. -/
lemma isSome_of_ensurePlayback (h : w.ensurePlayback = (.ok (), w₁)) : w₁.playback.isSome := by
  cases hpb : w.playback with
  | some pb =>
    have ho : w.playback.isSome := by simp [hpb]
    rw [ensurePlayback_of_open ho, Prod.mk.injEq] at h
    rw [← h.2, hpb]
    rfl
  | none =>
    rw [ensurePlayback_of_closed hpb] at h
    split at h
    · simp at h
    · rw [Prod.mk.injEq] at h
      rw [← h.2]
      rfl

/-- A start that fails touches nothing but the device. -/
lemma ensurePlayback_error {e : Error} (h : w.ensurePlayback = (.error e, w₁)) :
    w₁.audioBooks = w.audioBooks ∧ w₁.playback = w.playback ∧ w₁.shared.config = w.shared.config := by
  cases hpb : w.playback with
  | some pb =>
    have ho : w.playback.isSome := by simp [hpb]
    simp [ensurePlayback_of_open ho] at h
  | none =>
    rw [ensurePlayback_of_closed hpb] at h
    split at h
    · simp only [Prod.mk.injEq] at h
      obtain ⟨-, rfl⟩ := h
      exact ⟨rfl, hpb, rfl⟩
    · simp at h

/-- Counting leaves opening playback alone. -/
lemma ensurePlayback_count (w : World τ ω) (f : Diagnostics → Diagnostics) :
    (w.count f).ensurePlayback = (w.ensurePlayback.1, w.ensurePlayback.2.count f) := by
  cases hpb : w.playback with
  | some pb =>
    rw [ensurePlayback_of_open (by simp [count, hpb]), ensurePlayback_of_open (by simp [hpb])]
  | none =>
    rw [ensurePlayback_of_closed (by simpa [count] using hpb), ensurePlayback_of_closed hpb]
    rcases hs : w.device.startPlayback w.shared.config.playbackSource with ⟨dev, _ | ⟨⟩⟩
    · simp only [count, hs]
    · simp only [count, hs]
      rfl

/-- Opening playback tallies nothing: a start that succeeds publishes it, with no bytes taken. -/
lemma tally_ensurePlayback (w : World τ ω) : Tally w w.ensurePlayback.2 0 := by
  cases hpb : w.playback with
  | some pb => rw [ensurePlayback_of_open (by simp [hpb])]; exact .refl w
  | none =>
    rw [ensurePlayback_of_closed hpb]
    split
    · exact .of_books rfl
    · refine ⟨rfl, rfl, [⟨w.shared.seq, .playbackStarted⟩], ?_, ?_, ?_⟩
      · simp [playbackLog, Shared.emitActivity, ActivityKind.onPlayback]
      · simp [hpb, ActivityEvent.openAfter, ActivityKind.follow]
      · simp [openBytes, hpb, Shared.emitActivity, ActivityEvent.played, ActivityKind.playedBytes]

/-- **Playback starts exactly when the device starts it.** Opening playback when none is open
succeeds exactly when the device's start does, and only then publishes a start, with the next
sequence number. -/
lemma ensurePlayback_starts (h : w.playback = none) :
    w.ensurePlayback.1.isOk = (w.device.startPlayback w.shared.config.playbackSource).2.isOk ∧
      w.ensurePlayback.2.shared.activity = w.shared.activity ++
        if (w.device.startPlayback w.shared.config.playbackSource).2.isOk then
          [⟨w.shared.seq, .playbackStarted⟩] else [] := by
  rw [ensurePlayback_of_closed h]
  split
  · next hs => simp [hs, Except.isOk, Except.toBool]
  · next hs => simp [hs, Except.isOk, Except.toBool, Shared.emitActivity]

/-- Received audio with no samples is only counted. -/
lemma tally_play_of_samples_nil (h : w.samples d = []) : Tally w (w.play d) (w.samples d).length := by
  rw [play_of_samples_nil h, h]
  exact .refl w

/-- Received audio played on open playback: its samples are counted in, and each of their bytes is
taken by the session's sink or dropped. -/
lemma tally_play_of_open (hpb : w.playback = some pb) (d : List UInt8) :
    Tally w (w.play d) (w.samples d).length := by
  by_cases hs : w.samples d = []
  · exact tally_play_of_samples_nil hs
  cases hr : pb.ring with
  | some r =>
    -- the ring takes some pieces whole; the others are dropped
    have hsum : (w.feedAudio r d).2.1 + (w.feedAudio r d).2.2 = (w.samples d).length := by
      obtain ⟨-, -, -, h⟩ := offers_feedRing w.device.drains r (pieces (w.pieceLength r) (w.samples d))
      rwa [flatten_pieces (w.pieceLength_pos r)] at h
    rw [play_of_ring hpb hr hs]
    refine .of_counts rfl rfl (by simp [hpb]) rfl ?_
    simp only [openBytes, hpb, Option.map_some, Option.getD_some]
    omega
  | none =>
    -- the device's write takes the samples whole or not at all
    rcases hw : w.device.writePlayback (w.samples d) with ⟨dev, _ | ⟨⟩⟩
    · rw [play_of_unwritten hpb hr hs hw]
      refine .of_counts rfl rfl rfl rfl ?_
      simp only [openBytes]
      omega
    · rw [play_of_written hpb hr hs hw]
      refine .of_counts rfl rfl (by simp [hpb]) rfl ?_
      simp only [openBytes, hpb, Option.map_some, Option.getD_some]
      omega

/-- Received audio for a session that opens for it is played on the session. -/
lemma play_of_opened (hs : w.samples d ≠ []) (h : w.ensurePlayback = (.ok (), w₁)) :
    w.play d = w₁.play d := by
  have hcfg : w₁.shared.config = w.shared.config := by
    have := (tally_ensurePlayback w).config
    rwa [h] at this
  have hopen := isSome_of_ensurePlayback h
  simp only [samples] at hs
  simp only [play, hcfg, List.isEmpty_eq_false_iff.2 hs, Bool.false_eq_true, if_false,
    ensurePlayback_count, h, ensurePlayback_of_open (w := w₁.count _) (by simpa [count] using hopen)]

/-- Received audio for which playback fails to open is dropped whole. -/
lemma play_of_unopened {e : Error} (hs : w.samples d ≠ []) (h : w.ensurePlayback = (.error e, w₁)) :
    w.play d = (w₁.count fun x => { x with audioBytesReceived := x.audioBytesReceived + (w.samples d).length }).count
      fun x => { x with audioBytesDropped := x.audioBytesDropped + (w.samples d).length } := by
  simp only [samples] at hs ⊢
  simp only [play, List.isEmpty_eq_false_iff.2 hs, Bool.false_eq_true, if_false, ensurePlayback_count, h]

/-- **Playing tallies the samples.** Playing a received buffer counts its samples in; each of
their bytes is then dropped or taken by open playback, which the play opens if it must. -/
lemma tally_play (w : World τ ω) (d : List UInt8) : Tally w (w.play d) (w.samples d).length := by
  cases hpb : w.playback with
  | some pb => exact tally_play_of_open hpb d
  | none =>
    by_cases hs : w.samples d = []
    · exact tally_play_of_samples_nil hs
    rcases he : w.ensurePlayback with ⟨_ | ⟨⟩, w₁⟩
    · -- the start failed: the samples are dropped
      obtain ⟨hbooks, hpb₁, -⟩ := ensurePlayback_error he
      simp only [audioBooks, Prod.mk.injEq] at hbooks
      obtain ⟨hc, -, hlog, -, hr, hd⟩ := hbooks
      rw [play_of_unopened hs he]
      refine .of_counts hc hlog (by simp [count, hpb₁]) (by simp [count, hr]) ?_
      simp [openBytes, count, hpb, hpb₁, hd]
      omega
    · -- the start succeeded: the samples go to the new session
      have hopen := tally_ensurePlayback w
      rw [he] at hopen
      obtain ⟨pb₁, hpb₁⟩ := Option.isSome_iff_exists.1 (isSome_of_ensurePlayback he)
      have hsamples : w₁.samples d = w.samples d := by rw [samples_eq_of_config hopen.config]
      rw [play_of_opened hs he, ← Nat.zero_add (w.samples d).length, ← hsamples]
      exact hopen.trans (tally_play_of_open hpb₁ d)

/-- Closing playback publishes its end with the bytes it took. -/
lemma tally_stopPlayback (w : World τ ω) : Tally w w.stopPlayback 0 := by
  unfold stopPlayback
  split
  · exact .refl w
  · next pb hpb =>
    refine ⟨rfl, rfl, [⟨w.shared.seq, .playbackStopped pb.bytes pb.underflows⟩], ?_, ?_, ?_⟩
    · simp [playbackLog, Shared.emitActivity, ActivityKind.onPlayback]
    · simp [hpb, ActivityEvent.openAfter, ActivityKind.follow]
    · simp [openBytes, hpb, Shared.emitActivity, ActivityEvent.played, ActivityKind.playedBytes]

lemma requests_ensurePlayback (w : World τ ω) : w.ensurePlayback.2.shared.requests = w.shared.requests := by
  cases hpb : w.playback with
  | some pb => rw [ensurePlayback_of_open (by simp [hpb])]
  | none =>
    rw [ensurePlayback_of_closed hpb]
    split <;> rfl

lemma requests_play_of_open (hpb : w.playback = some pb) : (w.play d).shared.requests = w.shared.requests := by
  by_cases hs : w.samples d = []
  · rw [play_of_samples_nil hs]
  cases hr : pb.ring with
  | some r => rw [play_of_ring hpb hr hs]
  | none =>
    rcases hw : w.device.writePlayback (w.samples d) with ⟨dev, _ | ⟨⟩⟩
    · rw [play_of_unwritten hpb hr hs hw]
    · rw [play_of_written hpb hr hs hw]

/-- Playing touches no control request. -/
lemma requests_play (w : World τ ω) (d : List UInt8) : (w.play d).shared.requests = w.shared.requests := by
  cases hpb : w.playback with
  | some pb => exact requests_play_of_open hpb
  | none =>
    by_cases hs : w.samples d = []
    · rw [play_of_samples_nil hs]
    rcases he : w.ensurePlayback with ⟨_ | ⟨⟩, w₁⟩
    · have h := requests_ensurePlayback w
      rw [he] at h
      rw [play_of_unopened hs he]
      exact h
    · have h := requests_ensurePlayback w
      rw [he] at h
      obtain ⟨pb₁, hpb₁⟩ := Option.isSome_iff_exists.1 (isSome_of_ensurePlayback he)
      rw [play_of_opened hs he, requests_play_of_open hpb₁, h]

lemma requests_stopPlayback (w : World τ ω) : w.stopPlayback.shared.requests = w.shared.requests := by
  unfold stopPlayback
  split <;> rfl

lemma stopPlayback_closes (w : World τ ω) : w.stopPlayback.playback = none := by
  unfold stopPlayback
  split
  · assumption
  · rfl

/-- Changing only the requests waiting tallies nothing. -/
lemma tally_setRequests (w : World τ ω) (f : List Request → List Request) :
    Tally w (w.share fun sh => { sh with requests := f sh.requests }) 0 :=
  .of_counts rfl rfl rfl rfl (by simp [openBytes, share])

/-! ### The loop's steps -/

section Loop

variable (c : Upload.Connector ω)

/-- **Taking control requests tallies the clips taken.** The requests taken come first among
those given, before those left waiting; the clips among them are played. -/
lemma tally_carryOut (rs : List Request) (w : World τ ω) :
    ∃ taken, taken ++ (carryOut c rs w).2.shared.requests = rs ++ w.shared.requests ∧
      Tally w (carryOut c rs w).2 (pcmBytes w.shared.config.format.encoding (taken.filterMap Request.clip)) := by
  induction rs generalizing w with
  | nil => exact ⟨[], rfl, .refl w⟩
  | cons r rs ih =>
    -- a request that plays nothing and leaves the books alone is taken, then the rest
    have aside : ∀ w₁ : World τ ω, r.clip = none → w₁.audioBooks = w.audioBooks →
        ∃ taken, taken ++ (carryOut c rs w₁).2.shared.requests = (r :: rs) ++ w.shared.requests ∧
          Tally w (carryOut c rs w₁).2 (pcmBytes w.shared.config.format.encoding (taken.filterMap Request.clip)) := by
      intro w₁ hclip hb
      obtain ⟨taken, hreq, ht⟩ := ih w₁
      refine ⟨r :: taken, ?_, ?_⟩
      · rw [List.cons_append, hreq, Tally.requests_eq_of_books hb, List.cons_append]
      · have h := (Tally.of_books hb).trans ht
        rwa [Nat.zero_add, (Tally.of_books hb).config, ← List.filterMap_cons_none hclip] at h
    cases r with
    | startCapture m k =>
      rcases h : startCapture c m w with ⟨res, w₁⟩
      simpa [carryOut, h] using aside _ rfl ((books_answer w₁ k _).trans (Tally.of_pair (books_startCapture c m) h))
    | stopCapture k =>
      rcases h : stopCapture c w with ⟨res, w₁⟩
      simpa [carryOut, h] using aside _ rfl ((books_answer w₁ k _).trans (Tally.of_pair (fun w => books_stopCapture c w) h))
    | playClip a =>
      -- the clip is played, then the rest taken from the world it leaves
      have hc : carryOut c (.playClip a :: rs) w = carryOut c rs (w.play a) := rfl
      obtain ⟨taken, hreq, ht⟩ := ih (w.play a)
      have hplay := tally_play w a
      refine ⟨.playClip a :: taken, ?_, ?_⟩
      · rw [hc, List.cons_append, hreq, requests_play, List.cons_append]
      · have h := hplay.trans ht
        rw [hplay.config] at h
        simpa [hc, Request.clip, pcmBytes, samples] using h
    | stopPlayback =>
      have hc : carryOut c (.stopPlayback :: rs) w = carryOut c rs w.stopPlayback := rfl
      obtain ⟨taken, hreq, ht⟩ := ih w.stopPlayback
      have hstop := tally_stopPlayback w
      refine ⟨.stopPlayback :: taken, ?_, ?_⟩
      · rw [hc, List.cons_append, hreq, requests_stopPlayback, List.cons_append]
      · have h := hstop.trans ht
        rw [hstop.config, Nat.zero_add, ← List.filterMap_cons_none Request.clip_stopPlayback] at h
        simpa [hc] using h
    | disconnect =>
      -- the rest is left waiting, in front of what was waiting
      refine ⟨[.disconnect], rfl, ?_⟩
      rw [List.filterMap_cons_none Request.clip_disconnect, List.filterMap_nil, pcmBytes_nil]
      exact tally_setRequests w (rs ++ ·)

/-- Taking the control requests waiting plays the clips among those taken; the others wait. -/
lemma tally_drain (w : World τ ω) :
    ∃ taken, taken ++ (w.drain c).2.shared.requests = w.shared.requests ∧
      Tally w (w.drain c).2 (pcmBytes w.shared.config.format.encoding (taken.filterMap Request.clip)) := by
  obtain ⟨taken, hreq, ht⟩ := tally_carryOut c w.shared.requests (w.share fun sh => { sh with requests := [] })
  refine ⟨taken, by simpa [drain, share] using hreq, ?_⟩
  have h := (tally_setRequests w fun _ => []).trans ht
  simpa [drain, share] using h

/-- Handling events plays the binary messages among them and takes no request. -/
lemma tally_handle (link : Link τ) (es : List LinkEvent) (w : World τ ω) :
    (handle link es w).2.shared.requests = w.shared.requests ∧
      Tally w (handle link es w).2 (pcmBytes w.shared.config.format.encoding (es.filterMap binaryOf)) := by
  induction es generalizing w with
  | nil => exact ⟨rfl, .refl w⟩
  | cons ev es ih =>
    -- the first event is one step; the rest of the batch is handled from where it leaves off
    obtain ⟨w₁, hw₁, hreq, ht⟩ : ∃ w₁, (handle link (ev :: es) w).2 = (handle link es w₁).2 ∧
        w₁.shared.requests = w.shared.requests ∧
        Tally w w₁ (pcmBytes w.shared.config.format.encoding ([ev].filterMap binaryOf)) := by
      cases ev with
      | connected =>
        exact ⟨_, rfl, Tally.requests_eq_of_books (books_onConnected link w), .of_books (books_onConnected link w)⟩
      | writable =>
        exact ⟨_, rfl, Tally.requests_eq_of_books (books_onWritable link w), .of_books (books_onWritable link w)⟩
      | received m =>
        cases m with
        | text t => exact ⟨_, rfl, rfl, .of_books rfl⟩
        | binary d => exact ⟨_, rfl, requests_play w d, by simpa [binaryOf, pcmBytes, samples] using tally_play w d⟩
      | closed => exact ⟨_, rfl, rfl, .refl w⟩
    obtain ⟨hreq', ht'⟩ := ih w₁
    refine ⟨by rw [hw₁, hreq', hreq], ?_⟩
    have h := ht.trans ht'
    rw [ht.config, ← pcmBytes_append, ← List.filterMap_append] at h
    simpa [hw₁] using h

/-- Ending the loop closes playback, publishing its end, and plays nothing. -/
lemma tally_teardown (link : Link τ) (w : World τ ω) :
    (w.teardown link c).shared.requests = w.shared.requests ∧ Tally w (w.teardown link c) 0 ∧
      (w.teardown link c).playback = none := by
  have hcap : (if w.capturing then (stopCapture c w).2 else w).audioBooks = w.audioBooks := by
    split
    · exact books_stopCapture c w
    · rfl
  have hreap := (books_reap c true _).trans hcap
  have hstop := tally_stopPlayback (reap c true (if w.capturing then (stopCapture c w).2 else w))
  refine ⟨(requests_stopPlayback _).trans (Tally.requests_eq_of_books hreap), ?_, stopPlayback_closes _⟩
  have hclose : Tally (reap c true (if w.capturing then (stopCapture c w).2 else w)).stopPlayback
      (w.teardown link c) 0 := .of_books rfl
  simpa using ((Tally.of_books hreap).trans hstop).trans hclose

/-- Another thread's action plays nothing; a command the client takes joins the requests
waiting. -/
lemma tally_act (a : Act τ ω) (w : World τ ω) :
    (a.run c w).2.shared.requests = w.shared.requests ++ Entry.requests [.act a (a.run c w).1] ∧
      Tally w (a.run c w).2 0 := by
  -- every action but a command leaves the books alone and hands the loop no request
  have aside : (a.run c w).2.audioBooks = w.audioBooks → Entry.requests [.act a (a.run c w).1] = [] →
      (a.run c w).2.shared.requests = w.shared.requests ++ Entry.requests [.act a (a.run c w).1] ∧
        Tally w (a.run c w).2 0 := by
    intro hb hr
    exact ⟨by rw [hr, List.append_nil, Tally.requests_eq_of_books hb], .of_books hb⟩
  cases a with
  | command r =>
    simp only [Act.run, Shared.command]
    split
    · exact ⟨rfl, .of_counts rfl rfl rfl rfl (by simp [openBytes])⟩
    · exact ⟨by simp [Entry.requests, Entry.request, Outcome.ofExcept], .of_books rfl⟩
  | sendText t => exact aside (books_enqueue w (.text t)) rfl
  | sendBinary d => exact aside (books_enqueue w (.binary d)) rfl
  | shutdown => exact aside rfl rfl
  | capture f => exact aside (books_deliver c w f) rfl
  | pull n => exact aside (books_pull w n) rfl
  | device ch => exact aside rfl rfl
  | conn f => exact aside rfl rfl
  | peer f => exact aside rfl rfl

end Loop

/-! ### Runs -/

variable {ε : Type}

/-- The books of a run from `w₀`, `log` being what the threads around the loop did so far: the
requests the loop took, followed by those waiting, are those it was handed; and the audio counted
in is that of the binary messages handled and of the clips taken. -/
def Books (w₀ : World τ ω) (log : List (Entry τ ω)) (w : World τ ω) : Prop :=
  ∃ taken, taken ++ w.shared.requests = w₀.shared.requests ++ Entry.requests log ∧
    Tally w₀ w (pcmBytes w₀.shared.config.format.encoding (Entry.received log ++ taken.filterMap Request.clip))

namespace Books

variable {w₀ w : World τ ω} {log : List (Entry τ ω)}

lemma start (w₀ : World τ ω) : Books w₀ [] w₀ := ⟨[], by simp, by simpa using Tally.refl w₀⟩

/-- A step that plays nothing and takes no request keeps the books. -/
lemma aside {w' : World τ ω} (h : Books w₀ log w) (ht : Tally w w' 0)
    (hr : w'.shared.requests = w.shared.requests) : Books w₀ log w' := by
  obtain ⟨taken, hreq, hb⟩ := h
  exact ⟨taken, by rw [hr, hreq], hb.trans ht⟩

lemma drain (c : Upload.Connector ω) (h : Books w₀ log w) : Books w₀ log (w.drain c).2 := by
  obtain ⟨taken, hreq, hb⟩ := h
  obtain ⟨taken', hreq', ht⟩ := tally_drain c w
  refine ⟨taken ++ taken', by rw [List.append_assoc, hreq', hreq], ?_⟩
  have h := hb.trans ht
  rw [hb.config] at h
  simpa [List.filterMap_append, Nat.add_assoc] using h

lemma act (c : Upload.Connector ω) (a : Act τ ω) (h : Books w₀ log w) :
    Books w₀ (log ++ [.act a (a.run c w).1]) (a.run c w).2 := by
  obtain ⟨taken, hreq, hb⟩ := h
  obtain ⟨hreq', ht⟩ := tally_act c a w
  refine ⟨taken, by rw [hreq', ← List.append_assoc, hreq, Entry.requests_append, List.append_assoc], ?_⟩
  simpa using hb.trans ht

lemma runActs (c : Upload.Connector ω) (as : List (Act τ ω)) (h : Books w₀ log w) :
    Books w₀ (log ++ (runActs c as w).1) (runActs c as w).2 :=
  runActs_induct c (fun a _ _ h => h.act c a) as log w h

lemma handle (link : Link τ) (es : List LinkEvent) (h : Books w₀ log w) :
    Books w₀ (log ++ [.events es]) (handle link es w).2 := by
  obtain ⟨taken, hreq, hb⟩ := h
  obtain ⟨hreq', ht⟩ := tally_handle link es w
  refine ⟨taken, by simp [hreq', hreq], ?_⟩
  have h := hb.trans ht
  rw [hb.config] at h
  have hn : pcmBytes w₀.shared.config.format.encoding (Entry.received log ++ taken.filterMap Request.clip) +
      pcmBytes w₀.shared.config.format.encoding (es.filterMap binaryOf) =
      pcmBytes w₀.shared.config.format.encoding
        (Entry.received (log ++ [.events es]) ++ taken.filterMap Request.clip) := by
    simp only [Entry.received_append, Entry.received_events, pcmBytes_append]
    omega
  exact hn ▸ h

end Books

/-- **The books of a run.** Under any threads, a run of the loop keeps the books from turn to
turn and ends with playback closed. -/
lemma serveBy_books (link : Link τ) (c : Upload.Connector ω) (s : Script τ ω ε) (fuel : Nat) (e : ε)
    {w₀ w : World τ ω} {log : List (Entry τ ω)} (h : Books w₀ log w) :
    Books w₀ (serveBy link c (s.service c) fuel (e, log) w).1.2 (serveBy link c (s.service c) fuel (e, log) w).2 ∧
      (serveBy link c (s.service c) fuel (e, log) w).2.playback = none := by
  refine serveBy_induct link c (s.service c) (P := fun st w => Books w₀ st.2 w)
    (Q := fun st w => Books w₀ st.2 w ∧ w.playback = none) ?_ ?_ ?_ ?_ ?_ fuel (e, log) w h
  · intro st w h
    exact h.drain c
  · intro st w h
    have hb := (books_wantWrite link (reap c false w)).trans (books_reap c false w)
    exact h.aside (.of_books hb) (Tally.requests_eq_of_books hb)
  · rintro ⟨e, log⟩ w es ⟨e', log'⟩ w' h hsvc
    obtain ⟨rfl, rfl⟩ := service_ok c s hsvc
    exact (h.runActs c _).handle link es
  · rintro ⟨e, log⟩ w err ⟨e', log'⟩ w' h hsvc
    obtain ⟨rfl, rfl⟩ := service_error c s hsvc
    exact h.runActs c _
  · intro st w h
    obtain ⟨hreq, ht, hclosed⟩ := tally_teardown c link w
    exact ⟨h.aside ht hreq, hclosed⟩

/-! ### What each playback end reports -/

/-- The bytes a playback session's sink takes from plays and pulls: the pieces the ring accepts
whole in pull mode, the samples of each buffer the device's write takes in blocking mode. -/
inductive Accepts : World τ ω → List Cue → Nat → Prop
  | nil (w : World τ ω) : Accepts w [] 0
  | ring {w : World τ ω} {d : List UInt8} {cs : List Cue} {pb : Playback} {r r' : Ring}
      {t : List Traffic} {n : Nat} :
      w.playback = some pb → pb.ring = some r →
      Ring.Offers w.device.drains r (pieces (w.pieceLength r) (w.samples d)) t r' →
      Accepts (w.play d) cs n → Accepts w (.play d :: cs) ((Traffic.accepted t).length + n)
  | written {w : World τ ω} {d : List UInt8} {cs : List Cue} {pb : Playback} {dev : Device} {n : Nat} :
      w.playback = some pb → pb.ring = none → w.device.writePlayback (w.samples d) = (dev, .ok ()) →
      Accepts (w.play d) cs n → Accepts w (.play d :: cs) ((w.samples d).length + n)
  | refused {w : World τ ω} {d : List UInt8} {cs : List Cue} {pb : Playback} {dev : Device} {e : Error}
      {n : Nat} :
      w.playback = some pb → pb.ring = none → w.device.writePlayback (w.samples d) = (dev, .error e) →
      Accepts (w.play d) cs n → Accepts w (.play d :: cs) n
  | pull {w : World τ ω} {k : Nat} {cs : List Cue} {n : Nat} :
      Accepts (w.pull k).2 cs n → Accepts w (.pull k :: cs) n

variable {r : Ring} {dev : Device}

/-- Playing on a ring adds to the session's bytes what the ring took. -/
lemma playback_play_of_ring (hpb : w.playback = some pb) (hr : pb.ring = some r) :
    (w.play d).playback =
      some { pb with ring := some (w.feedAudio r d).1, bytes := pb.bytes + (w.feedAudio r d).2.1 } := by
  by_cases hs : w.samples d = []
  · have hfeed : w.feedAudio r d = (r, 0, 0) := by simp [feedAudio, hs, pieces, piecesBy, feedRing]
    rw [play_of_samples_nil hs, hpb, hfeed, ← hr]
    rfl
  · rw [play_of_ring hpb hr hs]

/-- Writing to the device adds the samples to the session's bytes when it takes them. -/
lemma playback_play_of_written (hpb : w.playback = some pb) (hr : pb.ring = none)
    (hw : w.device.writePlayback (w.samples d) = (dev, .ok ())) :
    (w.play d).playback = some { pb with bytes := pb.bytes + (w.samples d).length } := by
  by_cases hs : w.samples d = []
  · rw [play_of_samples_nil hs, hpb, hs]
    rfl
  · rw [play_of_written hpb hr hs hw]

/-- A write the device refuses adds nothing to the session's bytes. -/
lemma playback_play_of_refused {e : Error} (hpb : w.playback = some pb) (hr : pb.ring = none)
    (hw : w.device.writePlayback (w.samples d) = (dev, .error e)) : (w.play d).playback = some pb := by
  by_cases hs : w.samples d = []
  · rw [play_of_samples_nil hs, hpb]
  · rw [play_of_unwritten hpb hr hs hw, hpb]

/-- A pull leaves the session's bytes as they were. -/
lemma pull_keeps_bytes (hpb : w.playback = some pb) (k : Nat) :
    ∃ pb', (w.pull k).2.playback = some pb' ∧ pb'.bytes = pb.bytes := by
  have h := books_pull w k
  simp only [audioBooks, Prod.mk.injEq] at h
  obtain ⟨-, -, -, hmap, -⟩ := h
  rw [hpb, Option.map_some, Option.map_eq_some_iff] at hmap
  exact hmap

/-- A session's bytes grow by what its sink accepts, whatever the plays and pulls. -/
lemma session_bytes (hpb : w.playback = some pb) (cs : List Cue) :
    ∃ n, Accepts w cs n ∧ ∃ pb', (w.cues cs).2.playback = some pb' ∧ pb'.bytes = pb.bytes + n := by
  induction cs generalizing w pb with
  | nil => exact ⟨0, .nil w, pb, hpb, rfl⟩
  | cons cue cs ih =>
    cases cue with
    | play d =>
      cases hr : pb.ring with
      | some r =>
        -- the ring's puts decide what it takes
        obtain ⟨t, hoff, hput, -⟩ := offers_feedRing w.device.drains r (pieces (w.pieceLength r) (w.samples d))
        obtain ⟨n, hacc, pb', hpb', hbytes⟩ := ih (playback_play_of_ring hpb hr)
        refine ⟨(Traffic.accepted t).length + n, .ring hpb hr hoff hacc, pb', hpb', ?_⟩
        simp only [feedAudio] at hbytes
        omega
      | none =>
        -- the device's write decides
        rcases hw : w.device.writePlayback (w.samples d) with ⟨dev, _ | ⟨⟩⟩
        · obtain ⟨n, hacc, pb', hpb', hbytes⟩ := ih (playback_play_of_refused hpb hr hw)
          exact ⟨n, .refused hpb hr hw hacc, pb', hpb', hbytes⟩
        · obtain ⟨n, hacc, pb', hpb', hbytes⟩ := ih (playback_play_of_written hpb hr hw)
          dsimp only at hbytes
          exact ⟨_, .written hpb hr hw hacc, pb', hpb', by rw [hbytes]; omega⟩
    | pull k =>
      obtain ⟨pb₁, hpb₁, hb₁⟩ := pull_keeps_bytes hpb k
      obtain ⟨n, hacc, pb', hpb', hbytes⟩ := ih hpb₁
      exact ⟨n, .pull hacc, pb', hpb', by rw [hbytes, hb₁]⟩

/-- **Each playback end reports what its session accepted.** A session opened where none was open
and closed after any plays and pulls publishes an end whose bytes are those its sink accepted. -/
lemma session_reports_accepted {u u₁ : World τ ω} (hpb : u.playback = none)
    (h : u.ensurePlayback = (.ok (), u₁)) (cs : List Cue) :
    ∃ n, Accepts u₁ cs n ∧ ∃ k, (u₁.cues cs).2.stopPlayback.shared.activity =
      (u₁.cues cs).2.shared.activity ++ [⟨(u₁.cues cs).2.shared.seq, .playbackStopped n k⟩] := by
  have hfresh : u₁.playback = some { ring := u.shared.config.playbackRing } := by
    rw [ensurePlayback_of_closed hpb] at h
    split at h
    · simp at h
    · rw [Prod.mk.injEq] at h
      rw [← h.2]
  obtain ⟨n, hacc, pb', hpb', hbytes⟩ := session_bytes hfresh cs
  refine ⟨n, hacc, pb'.underflows, ?_⟩
  simp [stopPlayback, hpb', Shared.emitActivity, hbytes]

end World

/-- A loop begins with its counters cleared and no request waiting. -/
lemma Shared.begin_fresh {s s' : Shared} (h : s.begin = .ok s') : s'.diag = {} ∧ s'.requests = [] := by
  unfold Shared.begin at h
  split at h
  · cases h
  · cases h
    exact ⟨rfl, rfl⟩

section Run

variable {τ ω ε : Type}

open World in
/-- **Every byte of audio received is counted once.** Take a run of the loop that begins with its
counters cleared and playback closed, under any threads around it, and let the connection bring
any binary messages and the callers hand it any clips to play. When the run returns:
the audio counted in is the samples of the binary messages handled and of the clips among the
requests the loop took (the requests taken, followed by those left waiting, being those handed
to it); the playback starts and ends published during the run alternate, starting with a start
and ending with an end; and the audio counted in is the audio dropped and the bytes the ends
report, so that every byte received is counted once, as played or as dropped.
Moreover, opening playback publishes a start exactly when the device's start succeeds, and the
end of every session reports the bytes its sink accepted: those of the pieces the ring took
whole, or of the buffers the device's write took. -/
theorem received_audio_counted_once (link : Link τ) (c : Upload.Connector ω) (s : Script τ ω ε)
    (fuel : Nat) (e : ε) (sh : Shared) (w₀ : World τ ω)
    (hbegin : sh.begin = .ok w₀.shared) (hclosed : w₀.playback = none) :
    let run := serve link c (s.service c) fuel (e, []) w₀
    (∃ taken, taken ++ run.2.shared.requests = Entry.requests run.1.2 ∧
      run.2.shared.diag.audioBytesReceived =
        pcmBytes w₀.shared.config.format.encoding (Entry.received run.1.2) +
          pcmBytes w₀.shared.config.format.encoding (taken.filterMap Request.clip)) ∧
    (∃ new, run.2.playbackLog = w₀.playbackLog ++ new ∧ ActivityEvent.openAfter false new = some false ∧
      run.2.shared.diag.audioBytesReceived = run.2.shared.diag.audioBytesDropped + ActivityEvent.played new) ∧
    (∀ u : World τ ω, u.playback = none →
      u.ensurePlayback.1.isOk = (u.device.startPlayback u.shared.config.playbackSource).2.isOk ∧
      u.ensurePlayback.2.shared.activity = u.shared.activity ++
        if (u.device.startPlayback u.shared.config.playbackSource).2.isOk then
          [⟨u.shared.seq, .playbackStarted⟩] else []) ∧
    (∀ (u u₁ : World τ ω) (cs : List Cue), u.playback = none → u.ensurePlayback = (.ok (), u₁) →
      ∃ n, Accepts u₁ cs n ∧ ∃ k, (u₁.cues cs).2.stopPlayback.shared.activity =
        (u₁.cues cs).2.shared.activity ++ [⟨(u₁.cues cs).2.shared.seq, .playbackStopped n k⟩]) := by
  dsimp only
  generalize hrun : serve link c (s.service c) fuel (e, []) w₀ = r
  obtain ⟨⟨e', log⟩, w⟩ := r
  obtain ⟨hdiag, hreq₀⟩ := Shared.begin_fresh hbegin
  have hin : w₀.shared.diag.audioBytesReceived = 0 := by rw [hdiag]
  have hout : w₀.shared.diag.audioBytesDropped = 0 := by rw [hdiag]
  obtain ⟨⟨taken, hreq, ht⟩, hend⟩ := serveBy_books link c s fuel e (Books.start w₀)
  -- the run ends by marking the loop ended, which leaves the books alone
  simp only [serve] at hrun
  obtain ⟨hst, rfl⟩ := Prod.mk.inj hrun
  have hlog : (serveBy link c (s.service c) fuel (e, []) w₀).1.2 = log := by rw [hst]
  obtain ⟨extra, hplog, hopen, hbal⟩ := ht.activity
  have hrecv := ht.received
  rw [hlog] at hreq hrecv hbal
  simp only [openBytes, hclosed, hend, Option.map_none, Option.getD_none, hout, pcmBytes_append] at hbal
  simp only [pcmBytes_append, hin] at hrecv
  refine ⟨⟨taken, by simpa [share, Shared.finish, Shared.publish, hreq₀] using hreq, ?_⟩,
    ⟨extra, hplog, by simpa [hclosed, hend] using hopen, ?_⟩,
    fun u hu => ensurePlayback_starts hu, fun u u₁ cs hu h => session_reports_accepted hu h cs⟩
  · simpa [share, Shared.finish, Shared.publish] using hrecv
  · simp only [share, Shared.finish, Shared.publish, hrecv]
    omega

/-- A client with the default settings whose loop has not begun. -/
def idleClient : Shared :=
  { config := {}, queue := Dispatch.Queue.create 1, capture := Buffer.Capture.create 0 }

/-- The client once its loop has begun, on a fresh connection, with playback closed. -/
def begunClient : Scene :=
  { shared := { idleClient with running := true }.publish .connecting none, device := {}, conn := {},
    peer := {} }

/-- Threads that hand the loop one binary message, then close the connection. -/
def oneBuffer (data : List UInt8) : Script Connection Upload.Scripted Bool where
  acts _ _ := []
  reply first _ := if first then (.ok [.received (.binary data)], false) else (.ok [.closed], false)

/-- A run of three turns in which a buffer of four bytes arrives ends with playback's starts and
ends alternating, and every byte received counted as played or dropped. -/
theorem one_buffer_run_counted :
    idleClient.begin = .ok begunClient.shared ∧ begunClient.playback = none ∧
      let run := serve scriptedLink (Upload.Scripted.connector "")
        ((oneBuffer [0, 0, 1, 1]).service (Upload.Scripted.connector "")) 3 (true, []) begunClient
      ∃ new, run.2.playbackLog = begunClient.playbackLog ++ new ∧
        ActivityEvent.openAfter false new = some false ∧
        run.2.shared.diag.audioBytesReceived = run.2.shared.diag.audioBytesDropped + ActivityEvent.played new :=
  ⟨rfl, rfl, (received_audio_counted_once scriptedLink (Upload.Scripted.connector "") (oneBuffer [0, 0, 1, 1])
    3 true idleClient begunClient rfl rfl).2.1⟩

end Run

end Client

end Talkback
