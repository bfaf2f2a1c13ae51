import Talkback.Proofs.RequestsOnce

/-!
# What a capture records

A capture empties the record as it starts. While it runs, each frame the device delivers is
offered to the record: it goes in whole if it fits with the bytes already in, and is dropped
whole and counted otherwise, so a later, smaller frame can still go in after a larger one was
dropped (`Capture.greedy`). A relaying capture sends its frames away and keeps none. Stopping
the capture hands the record back, publishes its length with the bytes dropped, and empties it.

Between the start and the stop the loop and the threads around it take any number of steps.
Only the device's deliveries touch what a recording is made of: the settings, the record, the
capture bytes dropped, the sink the device holds and whether capture runs (`recordSide`); every
other step leaves them alone. `Records` is such a stretch of steps, with the frames delivered in
it, and every stretch of a run that takes no stop request and does not end the loop is one
(`Pace.records_of_run`). The recording a stop hands back after one is the greedy pick of the
frames delivered since the start, those the device gave as it started first
(`capture_keeps_frames_greedily`). The record's size is fixed when the client is made, at
`maxRecordingSecs` seconds of its format, and no step changes it (`Pace.sized_of_reach`).
-/

namespace Talkback

namespace Buffer.Capture

/-- A frame offered to a record of at most `cap` bytes, given the bytes kept and the bytes turned
away so far: it is kept whole if it fits with the bytes kept, and turned away whole otherwise. -/
def keepOrDrop (cap : Nat) (acc : List UInt8 × Nat) (frame : List UInt8) : List UInt8 × Nat :=
  if acc.1.length + frame.length ≤ cap then (acc.1 ++ frame, acc.2) else (acc.1, acc.2 + frame.length)

/-- Frames offered in turn to an empty record of at most `cap` bytes: the bytes kept, which are
the frames kept one after another, and the bytes turned away. -/
def greedy (cap : Nat) (frames : List (List UInt8)) : List UInt8 × Nat :=
  frames.foldl (keepOrDrop cap) ([], 0)

@[simp] lemma greedy_nil (cap : Nat) : greedy cap [] = ([], 0) := rfl

lemma greedy_append_frame (cap : Nat) (frames : List (List UInt8)) (frame : List UInt8) :
    greedy cap (frames ++ [frame]) = keepOrDrop cap (greedy cap frames) frame := by
  simp [greedy]

lemma length_keepOrDrop_le {cap : Nat} {acc : List UInt8 × Nat} (h : acc.1.length ≤ cap)
    (frame : List UInt8) : (keepOrDrop cap acc frame).1.length ≤ cap := by
  unfold keepOrDrop
  split
  · simpa
  · exact h

lemma length_foldl_keepOrDrop_le {cap : Nat} (frames : List (List UInt8)) {acc : List UInt8 × Nat}
    (h : acc.1.length ≤ cap) : (frames.foldl (keepOrDrop cap) acc).1.length ≤ cap := by
  induction frames generalizing acc with
  | nil => exact h
  | cons frame frames ih => exact ih (length_keepOrDrop_le h frame)

/-- The bytes kept never exceed the record's size. -/
lemma length_greedy_le (cap : Nat) (frames : List (List UInt8)) : (greedy cap frames).1.length ≤ cap :=
  length_foldl_keepOrDrop_le frames (Nat.zero_le cap)

/-- A frame that fits goes in. -/
lemma append_of_fits {c : Capture} {frame : List UInt8} (h : c.data.length + frame.length ≤ c.capacity) :
    c.append frame = (true, { c with data := c.data ++ frame }) := by
  simp [append, Nat.not_lt.2 h]

/-- A frame that does not fit is counted as dropped. -/
lemma append_of_full {c : Capture} {frame : List UInt8} (h : ¬ c.data.length + frame.length ≤ c.capacity) :
    c.append frame = (false, { c with dropped := c.dropped + frame.length }) := by
  simp [append, Nat.lt_of_not_le h]

@[simp] lemma capacity_append (c : Capture) (frame : List UInt8) :
    (c.append frame).2.capacity = c.capacity := by
  unfold append
  split <;> rfl

end Buffer.Capture

namespace Client

open Transport (LinkEvent)
open Buffer.Capture (keepOrDrop greedy greedy_append_frame)

/-- The sink a capture started in a mode hands its frames to. -/
def CaptureMode.sink : CaptureMode → Sink
  | .record => .record
  | .stream _ => .stream
  | .relay => .relay

/-- What a capture into `s` keeps of the frames `fs` in a record of `cap` bytes emptied before
them: the greedy pick, and nothing when the capture relays. -/
def Sink.kept (s : Sink) (cap : Nat) (fs : List (List UInt8)) : Buffer.Capture :=
  match s with
  | .relay => ⟨[], cap, 0⟩
  | _ => ⟨(greedy cap fs).1, cap, (greedy cap fs).2⟩

lemma CaptureMode.sink_eq_relay {mode : CaptureMode} : mode.sink = .relay ↔ mode = .relay := by
  cases mode <;> simp [CaptureMode.sink]

lemma Sink.kept_of_ne_relay {s : Sink} (hs : s ≠ .relay) (cap : Nat) (fs : List (List UInt8)) :
    s.kept cap fs = ⟨(greedy cap fs).1, cap, (greedy cap fs).2⟩ := by
  cases s with
  | relay => exact absurd rfl hs
  | _ => rfl

lemma Sink.length_kept_le (s : Sink) (cap : Nat) (fs : List (List UInt8)) :
    (s.kept cap fs).data.length ≤ cap := by
  cases s with
  | relay => exact Nat.zero_le cap
  | _ => exact Buffer.Capture.length_greedy_le cap fs

namespace World

variable {τ ω : Type} {w : World τ ω}

/-- What a capture's recording is made of: the settings (the recording's format among them), the
record, the capture bytes dropped, the sink the device holds, and whether capture runs. -/
def recordSide (w : World τ ω) : Config × Buffer.Capture × Nat × Option Sink × Bool :=
  (w.shared.config, w.shared.capture, w.shared.diag.captureBytesDropped, w.device.sink, w.capturing)

section RecordSide

variable {w' : World τ ω}

lemma config_of_recordSide (h : w'.recordSide = w.recordSide) : w'.shared.config = w.shared.config :=
  congrArg (·.1) h

lemma capture_of_recordSide (h : w'.recordSide = w.recordSide) : w'.shared.capture = w.shared.capture :=
  congrArg (·.2.1) h

lemma dropped_of_recordSide (h : w'.recordSide = w.recordSide) :
    w'.shared.diag.captureBytesDropped = w.shared.diag.captureBytesDropped :=
  congrArg (·.2.2.1) h

lemma sink_of_recordSide (h : w'.recordSide = w.recordSide) : w'.device.sink = w.device.sink :=
  congrArg (·.2.2.2.1) h

lemma capturing_of_recordSide (h : w'.recordSide = w.recordSide) : w'.capturing = w.capturing :=
  congrArg (·.2.2.2.2) h

end RecordSide

/-- What a step keeps of every world, it keeps of the world it left, taken apart by its result. -/
lemma eq_of_pair {α β : Type} (v : World τ ω → β) {f : World τ ω → α × World τ ω}
    (hf : ∀ w, v (f w).2 = v w) {w' : World τ ω} {r : α} (h : f w = (r, w')) : v w' = v w := by
  simpa [h] using hf w

/-! ### Steps that leave the record alone -/

section Aside

variable (c : Upload.Connector ω)

lemma recordSide_giveUp (w : World τ ω) (k : Worker) (halts : Nat) (s : Upload.Session) (p : ω)
    (e : Error) : (giveUp c w k halts s p e).recordSide = w.recordSide := by
  unfold giveUp
  split <;> rfl

lemma recordSide_pumpBy (n : Nat) (w : World τ ω) : (pumpBy c n w).recordSide = w.recordSide := by
  fun_induction pumpBy c n w with
  | case3 => rename_i ih; exact ih
  | case4 => exact recordSide_giveUp ..
  | case7 => exact recordSide_giveUp ..
  | _ => rfl

lemma recordSide_pump (w : World τ ω) : (pump c w).recordSide = w.recordSide := recordSide_pumpBy c _ w

lemma recordSide_reap (wait : Bool) (w : World τ ω) : (reap c wait w).recordSide = w.recordSide := by
  have hw : (if wait then pump c w else w).recordSide = w.recordSide := by
    split
    · exact recordSide_pump c w
    · rfl
  simp only [reap]
  split <;> exact hw

lemma recordSide_offer (w : World τ ω) (frame : List UInt8) :
    (offer c w frame).recordSide = w.recordSide := by
  unfold offer
  split
  · split
    · rfl
    · split
      · exact recordSide_pump c _
      · rfl
  · rfl

end Aside

lemma recordSide_enqueue (w : World τ ω) (m : Dispatch.Message) :
    (w.share fun sh => (sh.enqueue m).2).recordSide = w.recordSide := by
  simp only [share, Shared.enqueue]
  split <;> rfl

lemma recordSide_ensurePlayback (w : World τ ω) : w.ensurePlayback.2.recordSide = w.recordSide := by
  cases hpb : w.playback with
  | some pb => rw [ensurePlayback_of_open (by simp [hpb])]
  | none =>
    rw [ensurePlayback_of_closed hpb]
    split
    · next dev e hs => rw [Device.startPlayback_error hs]
    · next dev hs => simp [recordSide, (Device.startPlayback_ok hs).1, Shared.emitActivity]

lemma recordSide_play_of_open {pb : Playback} (hpb : w.playback = some pb) (d : List UInt8) :
    (w.play d).recordSide = w.recordSide := by
  by_cases hs : w.samples d = []
  · rw [play_of_samples_nil hs]
  cases hr : pb.ring with
  | some r => rw [play_of_ring hpb hr hs]; rfl
  | none =>
    -- the device's write keeps the sink it holds
    have hsink := (Device.writePlayback_holds w.device (w.samples d)).1
    rcases hw : w.device.writePlayback (w.samples d) with ⟨dev, _ | ⟨⟩⟩
    · rw [hw] at hsink
      rw [play_of_unwritten hpb hr hs hw]
      simpa [recordSide] using hsink
    · rw [hw] at hsink
      rw [play_of_written hpb hr hs hw]
      simpa [recordSide] using hsink

lemma recordSide_play (w : World τ ω) (d : List UInt8) : (w.play d).recordSide = w.recordSide := by
  cases hpb : w.playback with
  | some pb => exact recordSide_play_of_open hpb d
  | none =>
    by_cases hs : w.samples d = []
    · rw [play_of_samples_nil hs]
    have hopen := recordSide_ensurePlayback w
    rcases he : w.ensurePlayback with ⟨_ | ⟨⟩, w₁⟩
    · rw [he] at hopen
      rw [play_of_unopened hs he]
      exact hopen
    · rw [he] at hopen
      obtain ⟨pb₁, hpb₁⟩ := Option.isSome_iff_exists.1 (isSome_of_ensurePlayback he)
      rw [play_of_opened hs he, recordSide_play_of_open hpb₁ d, hopen]

lemma recordSide_stopPlayback (w : World τ ω) : w.stopPlayback.recordSide = w.recordSide := by
  unfold stopPlayback
  split
  · rfl
  · simp [recordSide, Device.stopPlayback, Shared.emitActivity]

lemma recordSide_pull (w : World τ ω) (n : Nat) : (w.pull n).2.recordSide = w.recordSide := by
  unfold pull
  split
  · rfl
  · split
    · split
      · rfl
      · split <;> rfl
    · rfl

@[simp] lemma recordSide_answer (w : World τ ω) (k : Nat) (a : Answer) :
    (w.answer k a).recordSide = w.recordSide := rfl

section Loop

variable (link : Link τ)

lemma recordSide_takeSlot (w : World τ ω) : (takeSlot link w).recordSide = w.recordSide := by
  simp only [takeSlot]
  split
  · rfl
  · split <;> rfl

lemma recordSide_rearm (w : World τ ω) : (rearm link w).recordSide = w.recordSide := by
  unfold rearm
  split <;> rfl

lemma recordSide_wantWrite (w : World τ ω) : (wantWrite link w).recordSide = w.recordSide := by
  unfold wantWrite
  split <;> rfl

end Loop

section Capture

variable (c : Upload.Connector ω)

/-- A request other than a stop, carried out while capture runs, leaves the record alone: a
second start is refused. -/
lemma recordSide_perform (hcap : w.capturing = true) {r : Request} (hr : ∀ k, r ≠ .stopCapture k) :
    (perform c w r).recordSide = w.recordSide := by
  cases r with
  | startCapture m k => simp [perform, startCapture, hcap]
  | stopCapture k => exact absurd rfl (hr k)
  | playClip a => exact recordSide_play w a
  | stopPlayback => exact recordSide_stopPlayback w
  | disconnect => rfl

/-- Requests none of which is a stop, taken while capture runs, leave the record alone. -/
lemma recordSide_carryOut (rs : List Request) (hcap : w.capturing = true)
    (hr : ∀ k, .stopCapture k ∉ rs) : (carryOut c rs w).2.recordSide = w.recordSide := by
  induction rs generalizing w with
  | nil => rfl
  | cons r rs ih =>
    by_cases hd : r = .disconnect
    · subst hd
      rfl
    have h₁ := recordSide_perform c hcap fun k e => hr k (e ▸ List.mem_cons_self ..)
    rw [carryOut_cons c hd, ih ((capturing_of_recordSide h₁).trans hcap)
      fun k hk => hr k (List.mem_cons_of_mem r hk), h₁]

lemma recordSide_drain (hcap : w.capturing = true) (hr : ∀ k, .stopCapture k ∉ w.shared.requests) :
    (drain c w).2.recordSide = w.recordSide :=
  recordSide_carryOut c (w := w.share fun sh => { sh with requests := [] }) _ hcap hr

/-- Another thread's action other than a delivery leaves the record alone. -/
lemma recordSide_act (a : Act τ ω) (ha : ∀ f, a ≠ .capture f) :
    (a.run c w).2.recordSide = w.recordSide := by
  cases a with
  | sendText t => exact recordSide_enqueue w (.text t)
  | sendBinary d => exact recordSide_enqueue w (.binary d)
  | command r =>
    simp only [Act.run, Shared.command]
    split <;> rfl
  | shutdown => rfl
  | capture f => exact absurd rfl (ha f)
  | pull n => exact recordSide_pull w n
  | device ch => rfl
  | conn f => rfl
  | peer f => rfl

/-- A delivery hands the frame to the sink the device holds. -/
lemma deliver_of_sink {s : Sink} (h : w.device.sink = some s) (frame : List UInt8) :
    (w.deliver c frame).2 = feed c s w frame := by
  simp [deliver, h]

lemma capturing_deliver (w : World τ ω) (frame : List UInt8) :
    (w.deliver c frame).2.capturing = w.capturing := by
  unfold deliver
  split
  · exact congrArg (·.2.1) (fixtures_feed c _ w frame)
  · rfl

end Capture

/-! ### What the record keeps -/

/-- A stretch of steps from `w` to `w'` in which the device delivers the frames `fs`, in order,
and every other step leaves the record, the capture bytes dropped, the sink and whether capture
runs as they were. -/
inductive Records (c : Upload.Connector ω) (w : World τ ω) : List (List UInt8) → World τ ω → Prop
  | refl : Records c w [] w
  | aside {fs : List (List UInt8)} {w' w'' : World τ ω} :
      Records c w fs w' → w''.recordSide = w'.recordSide → Records c w fs w''
  | deliver {fs : List (List UInt8)} {w' : World τ ω} (frame : List UInt8) :
      Records c w fs w' → Records c w (fs ++ [frame]) (w'.deliver c frame).2

/-- The record and the capture bytes dropped hold what a capture into `s` keeps of the frames
`fs`, from a record of `cap` bytes emptied before them, `base` capture bytes having been dropped
until then. -/
structure Keeps (s : Sink) (cap base : Nat) (fs : List (List UInt8)) (w : World τ ω) : Prop where
  record : w.shared.capture = s.kept cap fs
  dropped : w.shared.diag.captureBytesDropped = base + (s.kept cap fs).dropped

namespace Keeps

variable {s : Sink} {cap base : Nat} {fs : List (List UInt8)} {w' : World τ ω}

/-- An emptied record keeps nothing yet. -/
lemma empty (hc : w.shared.capture = ⟨[], cap, 0⟩) (hb : w.shared.diag.captureBytesDropped = base) :
    Keeps s cap base [] w := by
  cases s <;> exact ⟨hc, by simpa [Sink.kept] using hb⟩

lemma of_eq (h : Keeps s cap base fs w) (hc : w'.shared.capture = w.shared.capture)
    (hd : w'.shared.diag.captureBytesDropped = w.shared.diag.captureBytesDropped) : Keeps s cap base fs w' :=
  ⟨hc.trans h.record, hd.trans h.dropped⟩

lemma of_recordSide (h : Keeps s cap base fs w) (hw : w'.recordSide = w.recordSide) :
    Keeps s cap base fs w' :=
  h.of_eq (capture_of_recordSide hw) (dropped_of_recordSide hw)

variable (c : Upload.Connector ω)

/-- Recording a frame keeps it when it fits and counts it as dropped otherwise. -/
lemma feed_record (h : Keeps .record cap base fs w) (frame : List UInt8) :
    Keeps .record cap base (fs ++ [frame]) (feed c .record w frame) := by
  obtain ⟨hrec, hdrop⟩ := h
  simp only [Sink.kept] at hrec hdrop
  by_cases hfit : (greedy cap fs).1.length + frame.length ≤ cap
  · have happ := Buffer.Capture.append_of_fits (show w.shared.capture.data.length + frame.length ≤
        w.shared.capture.capacity by rw [hrec]; exact hfit)
    simp only [feed, happ]
    exact ⟨by simp [share, hrec, Sink.kept, greedy_append_frame, keepOrDrop, hfit],
      by simp [share, hdrop, Sink.kept, greedy_append_frame, keepOrDrop, hfit]⟩
  · have happ := Buffer.Capture.append_of_full (show ¬ w.shared.capture.data.length + frame.length ≤
        w.shared.capture.capacity by rw [hrec]; exact hfit)
    simp only [feed, happ]
    exact ⟨by simp [share, count, hrec, Sink.kept, greedy_append_frame, keepOrDrop, hfit],
      by simp [share, count, hdrop, Sink.kept, greedy_append_frame, keepOrDrop, hfit]; omega⟩

/-- Every sink keeps the frame it is fed as the capture's rule says: a streaming sink records it
as a recording sink does before offering it for upload, and a relaying sink keeps nothing. -/
lemma feed (h : Keeps s cap base fs w) (frame : List UInt8) :
    Keeps s cap base (fs ++ [frame]) (feed c s w frame) := by
  cases s with
  | record => exact h.feed_record c frame
  | stream =>
    -- both sinks keep the same record
    have hrec : Keeps .record cap base (fs ++ [frame]) (World.feed c .record w frame) :=
      feed_record c ⟨h.record, h.dropped⟩ frame
    have hstream : Keeps .stream cap base (fs ++ [frame]) (World.feed c .record w frame) :=
      ⟨hrec.record, hrec.dropped⟩
    exact hstream.of_recordSide (recordSide_offer c _ frame)
  | relay =>
    have hrelay : Keeps .relay cap base (fs ++ [frame]) w := ⟨h.record, h.dropped⟩
    exact hrelay.of_recordSide (recordSide_enqueue w (.binary frame))

lemma foldl_feed (h : Keeps s cap base fs w) (frames : List (List UInt8)) :
    Keeps s cap base (fs ++ frames) (frames.foldl (World.feed c s) w) := by
  induction frames generalizing fs w with
  | nil => simpa using h
  | cons frame frames ih =>
    rw [List.foldl_cons, ← List.singleton_append, ← List.append_assoc]
    exact ih (h.feed c frame)

end Keeps

namespace Records

variable {c : Upload.Connector ω} {fs : List (List UInt8)} {w₁ w₂ : World τ ω}

/-- Capture runs all along a capture's course, or not at all. -/
lemma capturing (h : Records c w₁ fs w₂) : w₂.capturing = w₁.capturing := by
  induction h with
  | refl => rfl
  | aside _ hw ih => exact (capturing_of_recordSide hw).trans ih
  | deliver frame _ ih => exact (capturing_deliver c _ frame).trans ih

/-- Along a capture's course the record keeps what the capture keeps of the frames delivered, and
the device holds its sink. -/
lemma keeps {s : Sink} {cap base : Nat} {fs₀ : List (List UInt8)} (h : Records c w₁ fs w₂)
    (hk : Keeps s cap base fs₀ w₁) (hsink : w₁.device.sink = some s) :
    Keeps s cap base (fs₀ ++ fs) w₂ ∧ w₂.device.sink = some s := by
  induction h with
  | refl => exact ⟨by simpa using hk, hsink⟩
  | aside _ hw ih =>
    obtain ⟨hk', hs'⟩ := ih
    exact ⟨hk'.of_recordSide hw, (sink_of_recordSide hw).trans hs'⟩
  | @deliver fs' w' frame _ ih =>
    obtain ⟨hk', hs'⟩ := ih
    -- the frame goes to the sink, and feeding it leaves the sink in place
    rw [deliver_of_sink c hs', ← List.append_assoc]
    exact ⟨hk'.feed c frame, (congrArg (·.1) (fixtures_feed c s w' frame)).trans hs'⟩

end Records

/-! ### Starting and stopping -/

section Start

variable (c : Upload.Connector ω) {s : Sink} {cap base : Nat} {w' : World τ ω}

lemma device_reap (wait : Bool) (w : World τ ω) : (reap c wait w).device = w.device := by
  have hw : (if wait then pump c w else w).device = w.device := by
    split
    · exact (pumpBy_keeps c _ w).1
    · rfl
  simp only [reap]
  split <;> exact hw

/-- Starting the device hands its first frames to the sink, which it then holds. -/
lemma Keeps.attach (h : Keeps s cap base [] w) (hok : attach c s w = (.ok (), w')) :
    Keeps s cap base w.device.startFrames w' ∧ w'.device.sink = some s := by
  have hdev := attach_ok c hok
  unfold World.attach at hok
  rw [hdev] at hok
  simp only [Prod.mk.injEq, true_and] at hok
  subst hok
  have hfed := h.foldl_feed c w.device.startFrames
  rw [List.nil_append] at hfed
  exact ⟨hfed.of_eq rfl rfl, rfl⟩

/-- A streaming start takes the session back and starts the device before the upload request
opens; only starting the device touches the record. -/
lemma Keeps.startStream (h : Keeps .stream cap base [] w) {token : String}
    (hok : startStream c token w = (.ok (), w')) :
    Keeps .stream cap base w.device.startFrames w' ∧ w'.device.sink = some .stream := by
  have hreap := recordSide_reap c true w
  have hdev := device_reap c true w
  simp only [World.startStream] at hok
  split at hok
  · simp at hok
  split at hok
  · simp at hok
  next wa hatt =>
  split at hok
  · simp at hok
  rename_i id s₁ p₁ _
  simp only [Prod.mk.injEq, true_and] at hok
  subst hok
  have hk : Keeps .stream cap base [] { reap c true w with
      uploads := none, channel := some { bound := (reap c true w).shared.config.uploadChunkQueue } } :=
    h.of_recordSide hreap
  obtain ⟨hka, hsink⟩ := hk.attach c hatt
  rw [hdev] at hka
  -- the upload thread then starts on the frames waiting, leaving the record alone
  have hpump := recordSide_pump c { wa with peer := p₁, worker := some { session := s₁, id } }
  exact ⟨hka.of_recordSide hpump, (sink_of_recordSide hpump).trans hsink⟩

/-- A capture start that succeeds marks the capture running over the world its sink's start left:
what that start made of the record and the sink holds, with the capture running. -/
lemma Keeps.started {fs : List (List UInt8)} {r : Except Error Unit × World τ ω} {w₁ : World τ ω}
    (h : (match r with
      | (Except.error e, w) => (Except.error e, w)
      | (Except.ok (), w) => (Except.ok (), { w with capturing := true }.share fun sh =>
          (sh.publish .capturing none).emitActivity .captureStarted)) = (.ok (), w₁))
    (hr : r = (.ok (), r.2) → Keeps s cap base fs r.2 ∧ r.2.device.sink = some s) :
    Keeps s cap base fs w₁ ∧ w₁.device.sink = some s ∧ w₁.capturing = true := by
  obtain ⟨_ | ⟨⟩, w₂⟩ := r
  · simp at h
  · simp only [Prod.mk.injEq, true_and] at h
    subst h
    obtain ⟨hk, hsink⟩ := hr rfl
    exact ⟨hk.of_eq rfl rfl, hsink, rfl⟩

/-- **A capture that starts** empties the record, hands the device's first frames to the sink of
its mode, holds that sink, and runs. -/
lemma Keeps.startCapture {mode : CaptureMode} {w₀ w₁ : World τ ω}
    (h : startCapture c mode w₀ = (.ok (), w₁)) :
    Keeps mode.sink w₀.shared.capture.capacity w₀.shared.diag.captureBytesDropped
        w₀.device.startFrames w₁ ∧
      w₁.device.sink = some mode.sink ∧ w₁.capturing = true := by
  unfold World.startCapture at h
  split at h
  · simp at h
  have hk : Keeps mode.sink w₀.shared.capture.capacity w₀.shared.diag.captureBytesDropped []
      (w₀.share fun sh => { sh with capture := sh.capture.clear }) := Keeps.empty rfl rfl
  cases mode with
  | record => exact Keeps.started h (hk.attach c)
  | relay => exact Keeps.started h (hk.attach c)
  | stream token => exact Keeps.started h (hk.startStream c)

/-- **Stopping a running capture** hands back the record as it stands, in the client's format,
publishes its length with the bytes dropped, and leaves the count of capture bytes dropped as it
was. -/
lemma stopCapture_running (h : w.capturing = true) :
    (stopCapture c w).1 =
        .ok ⟨w.shared.capture.data, w.shared.config.format, w.shared.capture.dropped⟩ ∧
      (stopCapture c w).2.captureLog = w.captureLog ++
        [⟨w.shared.seq, .captureStopped w.shared.capture.data.length w.shared.capture.dropped⟩] ∧
      (stopCapture c w).2.shared.diag.captureBytesDropped = w.shared.diag.captureBytesDropped := by
  simp only [stopCapture, h, Bool.not_true, Bool.false_eq_true, if_false, true_and]
  refine ⟨?_, (dropped_of_recordSide (recordSide_pump c _)).trans rfl⟩
  rw [pump, captureLog_pumpBy]
  simp [captureLog, share, Shared.emitActivity, Shared.publish, ActivityKind.onCapture]

end Start

/-! ### The record's size -/

/-- The record's size and the settings it was sized from. -/
def sizing (w : World τ ω) : Config × Nat := (w.shared.config, w.shared.capture.capacity)

/-- The record holds `maxRecordingSecs` seconds of the client's format. -/
def Sized (w : World τ ω) : Prop :=
  w.shared.capture.capacity = w.shared.config.format.bytesPerSecond * w.shared.config.maxRecordingSecs

lemma Sized.of_sizing {w' : World τ ω} (h : w.Sized) (hs : w'.sizing = w.sizing) : w'.Sized := by
  simp only [sizing, Prod.mk.injEq] at hs
  simp only [Sized, hs.1, hs.2]
  exact h

lemma sizing_of_recordSide {w' : World τ ω} (h : w'.recordSide = w.recordSide) : w'.sizing = w.sizing := by
  simp [sizing, config_of_recordSide h, capture_of_recordSide h]

section Size

variable (c : Upload.Connector ω)

/-- Every sink keeps the record's size: a frame that goes in leaves its capacity as it was. -/
lemma sizing_feed (s : Sink) (w : World τ ω) (frame : List UInt8) :
    (feed c s w frame).sizing = w.sizing := by
  have hrecord : (feed c .record w frame).sizing = w.sizing := by
    have h := Buffer.Capture.capacity_append w.shared.capture frame
    simp only [feed]
    split <;> next cap heq => simpa [sizing, share, count, heq] using h
  cases s with
  | record => exact hrecord
  | stream => exact (sizing_of_recordSide (recordSide_offer c _ frame)).trans hrecord
  | relay => exact sizing_of_recordSide (recordSide_enqueue w (.binary frame))

lemma sizing_foldl_feed (s : Sink) (frames : List (List UInt8)) (w : World τ ω) :
    (frames.foldl (feed c s) w).sizing = w.sizing := by
  induction frames generalizing w with
  | nil => rfl
  | cons frame frames ih => exact (ih _).trans (sizing_feed c s w frame)

lemma sizing_deliver (w : World τ ω) (frame : List UInt8) : (w.deliver c frame).2.sizing = w.sizing := by
  unfold deliver
  split
  · exact sizing_feed c _ w frame
  · rfl

lemma sizing_attach (s : Sink) (w : World τ ω) : (attach c s w).2.sizing = w.sizing := by
  unfold attach
  split
  · rfl
  · exact sizing_foldl_feed c s _ w

lemma sizing_startStream (token : String) (w : World τ ω) :
    (startStream c token w).2.sizing = w.sizing := by
  have hreap := sizing_of_recordSide (recordSide_reap c true w)
  simp only [startStream]
  split
  · exact hreap
  · split
    · next _ _ w₂ heq => exact (eq_of_pair sizing (sizing_attach c .stream) heq).trans hreap
    · next _ w₂ heq =>
      have hattach := (eq_of_pair sizing (sizing_attach c .stream) heq).trans hreap
      split
      · exact hattach
      · exact (sizing_of_recordSide (recordSide_pump c _)).trans hattach

/-- Starting a capture empties the record and leaves its size. -/
lemma sizing_startCapture (mode : CaptureMode) (w : World τ ω) :
    (startCapture c mode w).2.sizing = w.sizing := by
  unfold startCapture
  split
  · rfl
  refine started_of (P := fun u => u.sizing = w.sizing) (fun u hu => hu) ?_
  cases mode with
  | record => exact sizing_attach c .record _
  | relay => exact sizing_attach c .relay _
  | stream token => exact sizing_startStream c token _

/-- Stopping a capture takes the record and leaves its size. -/
lemma sizing_stopCapture (w : World τ ω) : (stopCapture c w).2.sizing = w.sizing := by
  unfold stopCapture
  split
  · rfl
  · exact (sizing_of_recordSide (recordSide_pump c _)).trans rfl

lemma sizing_perform (w : World τ ω) (r : Request) : (perform c w r).sizing = w.sizing := by
  cases r with
  | startCapture m k => exact sizing_startCapture c m w
  | stopCapture k => exact sizing_stopCapture c w
  | playClip a => exact sizing_of_recordSide (recordSide_play w a)
  | stopPlayback => exact sizing_of_recordSide (recordSide_stopPlayback w)
  | disconnect => rfl

lemma sizing_carryOut (rs : List Request) (w : World τ ω) : (carryOut c rs w).2.sizing = w.sizing := by
  induction rs generalizing w with
  | nil => rfl
  | cons r rs ih =>
    by_cases hd : r = .disconnect
    · subst hd
      rfl
    · rw [carryOut_cons c hd, ih, sizing_perform]

lemma sizing_drain (w : World τ ω) : (drain c w).2.sizing = w.sizing :=
  sizing_carryOut c _ (w.share fun sh => { sh with requests := [] })

lemma sizing_teardown (link : Link τ) (w : World τ ω) : (w.teardown link c).sizing = w.sizing := by
  have hstop : (if w.capturing then (stopCapture c w).2 else w).sizing = w.sizing := by
    split
    · exact sizing_stopCapture c w
    · rfl
  exact (sizing_of_recordSide (recordSide_stopPlayback _)).trans
    ((sizing_of_recordSide (recordSide_reap c true _)).trans hstop)

end Size

namespace Records

variable {c : Upload.Connector ω} {fs : List (List UInt8)} {w₁ w₂ : World τ ω}

/-- A capture's course leaves the record's size and the settings alone. -/
lemma sizing (h : Records c w₁ fs w₂) : w₂.sizing = w₁.sizing := by
  induction h with
  | refl => rfl
  | aside _ hw ih => exact (sizing_of_recordSide hw).trans ih
  | deliver frame _ ih => exact (sizing_deliver c _ frame).trans ih

end Records

end World

/-! ### Along a run -/

namespace Pace

variable {τ ω : Type} (link : Link τ) (c : Upload.Connector ω) {p p' : Pace τ ω}

/-- A step of another thread delivers a frame or leaves the record alone. -/
lemma thread_records (hs : ThreadStep c p p') :
    p'.world.recordSide = p.world.recordSide ∨ ∃ frame, p'.world = (p.world.deliver c frame).2 := by
  cases hs with
  | push m =>
    left
    simp only [Shared.push]
    split <;> rfl
  | note r i =>
    left
    cases r <;> rfl
  | shutdown => exact .inl rfl
  | act a hq hf =>
    by_cases ha : ∃ frame, a = .capture frame
    · obtain ⟨frame, rfl⟩ := ha
      exact .inr ⟨frame, rfl⟩
    · exact .inl (World.recordSide_act c a fun frame e => ha ⟨frame, e⟩)

lemma advance_drain (hq : p.pc = .drain) (answer : Except Error (List LinkEvent)) :
    (p.advance link c answer).world = (p.world.drain c).2 := by
  simp [advance, hq]

lemma advance_exit (hq : p.pc = .exit) (answer : Except Error (List LinkEvent)) :
    (p.advance link c answer).world = p.world.teardown link c := by
  simp [advance, hq]

/-- A step of the loop other than taking the requests and ending the loop leaves the record
alone. -/
lemma advance_records (hdrain : p.pc ≠ .drain) (hexit : p.pc ≠ .exit)
    (answer : Except Error (List LinkEvent)) :
    (p.advance link c answer).world.recordSide = p.world.recordSide := by
  rcases hq : p.pc with _ | _ | _ | _ | _ | ⟨es, closed⟩ | ⟨opening, es, closed⟩ | _ | _
  all_goals simp only [advance, hq]
  · split <;> rfl
  · exact absurd hq hdrain
  · exact World.recordSide_reap c false p.world
  · exact World.recordSide_wantWrite link p.world
  · cases answer <;> rfl
  · cases es with
    | nil => rfl
    | cons e es =>
      cases e with
      | connected => rfl
      | writable => exact World.recordSide_takeSlot link p.world
      | received i =>
        cases i with
        | text t => rfl
        | binary d => exact World.recordSide_play p.world d
      | closed => rfl
  · exact World.recordSide_rearm link p.world
  · exact absurd hq hexit

/-- Every step keeps the record's size and the settings. -/
lemma sizing_step (hs : Step link c p p') : p'.world.sizing = p.world.sizing := by
  cases hs with
  | loop answer =>
    by_cases hd : p.pc = .drain
    · rw [advance_drain link c hd]
      exact World.sizing_drain c p.world
    by_cases he : p.pc = .exit
    · rw [advance_exit link c he]
      exact World.sizing_teardown c link p.world
    exact World.sizing_of_recordSide (advance_records link c hd he answer)
  | thread ht =>
    rcases thread_records c ht with hw | ⟨frame, hw⟩
    · exact World.sizing_of_recordSide hw
    · rw [hw]
      exact World.sizing_deliver c _ frame

/-- **The record keeps its size.** Along every run, a record that holds `maxRecordingSecs`
seconds of the client's format goes on doing so. -/
lemma sized_of_reach (h : Relation.ReflTransGen (Step link c) p p') (hp : p.world.Sized) : p'.world.Sized :=
  Step.induct (P := fun q => q.world.Sized) (fun q a hq => hq.of_sizing (sizing_step link c (.loop q a)))
    (fun _ _ ht hq => hq.of_sizing (sizing_step link c (.thread ht))) h hp

/-- A step that carries a capture on: it does not end the loop, and takes no requests among which
is a stop. -/
def Continues (p p' : Pace τ ω) : Prop :=
  Step link c p p' ∧ p.pc ≠ .exit ∧
    (p.pc = .drain → ∀ k, .stopCapture k ∉ p.world.shared.requests)

/-- **A run carrying a capture on is a capture's course.** From a world in which capture runs,
steps of the loop and of the threads around it that neither end the loop nor take a stop request
only ever deliver frames or leave the record alone. -/
lemma records_of_run (h : Relation.ReflTransGen (Continues link c) p p') (hcap : p.world.capturing = true) :
    ∃ fs, World.Records c p.world fs p'.world := by
  induction h with
  | refl => exact ⟨[], .refl⟩
  | @tail q q' _ hs ih =>
    obtain ⟨fs, hfs⟩ := ih
    obtain ⟨hstep, hexit, hstop⟩ := hs
    cases hstep with
    | loop answer =>
      -- requests none of which is a stop are taken while capture runs; any other step of the
      -- loop leaves the record alone whatever runs
      by_cases hd : q.pc = .drain
      · rw [advance_drain link c hd]
        exact ⟨fs, hfs.aside (World.recordSide_drain c (hfs.capturing.trans hcap) (hstop hd))⟩
      · exact ⟨fs, hfs.aside (advance_records link c hd hexit answer)⟩
    | thread ht =>
      rcases thread_records c ht with hw | ⟨frame, hw⟩
      · exact ⟨fs, hfs.aside hw⟩
      · exact ⟨fs ++ [frame], hw ▸ hfs.deliver frame⟩

end Pace

/-! ### The recording -/

/-- A client's record holds `maxRecordingSecs` seconds of its format. -/
lemma Shared.capacity_of_create {cfg : Config} {sh : Shared} (h : Shared.create cfg = .ok sh) :
    sh.capture.capacity = cfg.format.bytesPerSecond * cfg.maxRecordingSecs := by
  rcases hn : mulChecked wordBits cfg.format.bytesPerSecond cfg.maxRecordingSecs with _ | n
  all_goals simp [Shared.create, Buffer.Capture.forDuration, hn, bind, Except.bind, Functor.map,
    Except.map, pure, Except.pure] at h
  obtain ⟨-, rfl⟩ := mulChecked_eq_ok.1 hn
  rw [← h]
  rfl

variable {τ ω : Type}

/-- **A capture keeps the frames delivered greedily.** Take a client whose record holds
`maxRecordingSecs` seconds of its format (as every client's does, `Shared.capacity_of_create` and
`Pace.sized_of_reach`), a capture started at `w₀`, and any course of steps after it in which the
device delivers the frames `fs` (as every run that carries the capture on is,
`Pace.records_of_run`). Stopping the capture then hands back, in the client's format, the frames
the device gave as it started followed by `fs`, each kept whole if it fit with the bytes kept
before it and dropped whole otherwise, none beyond the record's size; a relaying capture hands
back nothing. The stop publishes the recording's length and the bytes it dropped, and those
bytes are counted as capture bytes dropped. -/
theorem capture_keeps_frames_greedily (c : Upload.Connector ω) {mode : CaptureMode}
    {w₀ w₁ w₂ : World τ ω} {fs : List (List UInt8)}
    (hcap : w₀.shared.capture.capacity =
      w₀.shared.config.format.bytesPerSecond * w₀.shared.config.maxRecordingSecs)
    (hstart : World.startCapture c mode w₀ = (.ok (), w₁)) (hrun : World.Records c w₁ fs w₂) :
    ∃ r : Audio.Recording, (World.stopCapture c w₂).1 = .ok r ∧ r.format = w₀.shared.config.format ∧
      (mode ≠ .relay → (r.pcm, r.dropped) =
        greedy (w₀.shared.config.format.bytesPerSecond * w₀.shared.config.maxRecordingSecs)
          (w₀.device.startFrames ++ fs)) ∧
      (mode = .relay → r.pcm = [] ∧ r.dropped = 0) ∧
      r.pcm.length ≤ w₀.shared.config.format.bytesPerSecond * w₀.shared.config.maxRecordingSecs ∧
      (World.stopCapture c w₂).2.captureLog =
        w₂.captureLog ++ [⟨w₂.shared.seq, .captureStopped r.pcm.length r.dropped⟩] ∧
      (World.stopCapture c w₂).2.shared.diag.captureBytesDropped =
        w₀.shared.diag.captureBytesDropped + r.dropped := by
  obtain ⟨hk₁, hsink₁, hrun₁⟩ := World.Keeps.startCapture c hstart
  obtain ⟨⟨hrec, hdrop⟩, -⟩ := hrun.keeps hk₁ hsink₁
  -- the start and the course leave the settings as they were
  have hstarted := World.sizing_startCapture c mode w₀
  rw [hstart] at hstarted
  have hcfg : w₂.shared.config = w₀.shared.config := congrArg Prod.fst (hrun.sizing.trans hstarted)
  -- the stop finds capture running and hands back the record as the start and the course left it
  obtain ⟨hr, hlog, hdiag⟩ := World.stopCapture_running c (hrun.capturing.trans hrun₁)
  rw [hcap] at hrec hdrop
  rw [hrec, hcfg] at hr
  rw [hrec] at hlog
  refine ⟨_, hr, rfl, fun hm => ?_, fun hm => ?_, Sink.length_kept_le .., hlog, by rw [hdiag, hdrop]⟩
  · rw [Sink.kept_of_ne_relay (mt CaptureMode.sink_eq_relay.1 hm)]
  · subst hm
    exact ⟨rfl, rfl⟩

/-- A client keeping a second of audio at four bytes a second (one-channel PCM16 at two samples a
second), whose device gives three bytes as capture starts. -/
def fourByteRecorder : World Unit Upload.Scripted :=
  { shared := { config := { format := { sampleRate := 2 }, maxRecordingSecs := 1 },
                queue := Dispatch.Queue.create 1, capture := Buffer.Capture.create 4 },
    device := { startFrames := [[1, 2, 3]] }, conn := (), peer := {} }

/-- Recording on that client: after the three bytes of the start, two more no longer fit and are
dropped, and one after them still goes in. -/
theorem small_frame_kept_after_dropped_one :
    let c := Upload.Scripted.connector ""
    let w₁ := (World.startCapture c .record fourByteRecorder).2
    let w₂ := ((w₁.deliver c [4, 5]).2.deliver c [6]).2
    let cfg := fourByteRecorder.shared.config
    fourByteRecorder.shared.capture.capacity = cfg.format.bytesPerSecond * cfg.maxRecordingSecs ∧
      ∃ r : Audio.Recording, (World.stopCapture c w₂).1 = .ok r ∧ r.pcm = [1, 2, 3, 6] ∧
        r.dropped = 2 := by
  intro c w₁ w₂ cfg
  have hcap : fourByteRecorder.shared.capture.capacity =
      cfg.format.bytesPerSecond * cfg.maxRecordingSecs := by
    decide
  obtain ⟨r, hr, -, hgreedy, -⟩ := capture_keeps_frames_greedily c hcap
    (show World.startCapture c .record fourByteRecorder = (.ok (), w₁) from rfl)
    ((World.Records.refl.deliver [4, 5]).deliver [6])
  have hpick : (r.pcm, r.dropped) = ([1, 2, 3, 6], 2) := (hgreedy nofun).trans (by decide)
  simp only [Prod.mk.injEq] at hpick
  exact ⟨hcap, r, hr, hpick⟩

end Client

end Talkback
