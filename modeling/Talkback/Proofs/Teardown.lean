import Talkback.Client.Start
import Talkback.Proofs.Interleaved
import Talkback.Proofs.Service
import Talkback.Proofs.UploadLedger

/-!
What a run leaves behind.

A run begins the client, opens its connection and serves it (`runOn`); a loop begins holding
the upload session and nothing else. However the loop ends (a close, a disconnect request, a
failed service call, a shutdown, or its turns running out), it ends through the teardown, and
the teardown releases everything: capture stops through the device and publishes its end, the
upload thread is joined, playback stops through the device and publishes its end, and the
connection is closed, once.

The resources a loop holds are tracked from the run's start (`Resources`): capture runs exactly
while the device holds a sink, and the capture starts and ends published since alternate, from
stopped to as capture stands; playback is open exactly while the device has a stream open; and
an upload thread works only while capture runs and feeds its channel, so that stopping capture
ends the thread's request and the thread returns. Every step of the loop and of the threads
around it keeps this, and the teardown turns it into a clean end.
-/

namespace Talkback

namespace ActivityKind

/-- The activity is capture's start or end. -/
def onCapture : ActivityKind → Bool
  | .captureStarted | .captureStopped .. => true
  | _ => false

/-- Whether capture runs after the activity, from `o`; `none` when a start finds capture running
or an end finds it stopped. -/
def followCapture (o : Bool) : ActivityKind → Option Bool
  | .captureStarted => if o then none else some true
  | .captureStopped .. => if o then some false else none
  | _ => some o

end ActivityKind

namespace ActivityEvent

/-- Whether capture runs after `evs`, from `o`: `none` unless starts and ends alternate. -/
def capturingAfter (o : Bool) : List ActivityEvent → Option Bool
  | [] => some o
  | a :: evs => (a.kind.followCapture o).bind (capturingAfter · evs)

lemma capturingAfter_append (o : Bool) (evs evs' : List ActivityEvent) :
    capturingAfter o (evs ++ evs') = (capturingAfter o evs).bind (capturingAfter · evs') := by
  induction evs generalizing o with
  | nil => rfl
  | cons a evs ih =>
    simp only [List.cons_append, capturingAfter, ih]
    cases a.kind.followCapture o <;> rfl

end ActivityEvent

namespace Client

namespace World

variable {τ ω : Type} (c : Upload.Connector ω)

/-- The capture starts and ends published. -/
def captureLog (w : World τ ω) : List ActivityEvent := w.shared.activity.filter (·.kind.onCapture)

/-- What the loop holds of the device besides the capture sink: whether capture runs, whether
playback is open, the device's playback streams, and the capture starts and ends published. -/
def gear (w : World τ ω) : Bool × Bool × Bool × Bool × List ActivityEvent :=
  (w.capturing, w.playback.isSome, w.device.pullOpen, w.device.blockingOpen, w.captureLog)

/-- What the loop holds of the device, as the world shows it: the sink the device holds, and
the gear. -/
def fixtures (w : World τ ω) : Option Sink × Bool × Bool × Bool × Bool × List ActivityEvent :=
  (w.device.sink, w.gear)

/-- An upload thread works only while capture runs and feeds its channel. -/
def Feeding (w : World τ ω) : Prop :=
  ∀ k, w.worker = some k → k.stage = .working → w.capturing = true ∧ ∃ ch, w.channel = some ch ∧ ch.fed = true

/-- The resources of a loop, in a run from `w₀`: the capture starts and ends published since
alternate, from stopped to as capture stands; capture runs exactly while the device holds a
sink; playback is open exactly while the device has a stream open; and an upload thread works
only while capture runs and feeds its channel. -/
structure Resources (w₀ w : World τ ω) : Prop where
  captures : ∃ new, w.captureLog = w₀.captureLog ++ new ∧
    ActivityEvent.capturingAfter false new = some w.capturing
  sink : w.device.sink.isSome = w.capturing
  streams : (w.device.pullOpen || w.device.blockingOpen) = w.playback.isSome
  feeding : Feeding w

/-- What the resources read of a world: the fixtures, the upload thread and its channel. -/
def holdings (w : World τ ω) :
    (Option Sink × Bool × Bool × Bool × Bool × List ActivityEvent) × Option Worker × Option Channel :=
  (w.fixtures, w.worker, w.channel)

lemma Feeding.of_eq {w w' : World τ ω} (h : Feeding w) (hw : w'.worker = w.worker)
    (hch : w'.channel.map Channel.fed = w.channel.map Channel.fed) (hcap : w'.capturing = w.capturing) :
    Feeding w' := by
  intro k hk hs
  obtain ⟨hc, ch, hch₀, hfed⟩ := h k (hw ▸ hk) hs
  rw [hch₀, Option.map_some] at hch
  obtain ⟨ch', hch', hfed'⟩ := Option.map_eq_some_iff.1 hch
  exact ⟨hcap ▸ hc, ch', hch', hfed'.trans hfed⟩

lemma Feeding.of_not_working {w : World τ ω} (h : ∀ k, w.worker = some k → k.stage ≠ .working) :
    Feeding w :=
  fun k hk hs => absurd hs (h k hk)

namespace Resources

variable {w₀ w w' : World τ ω}

/-- A step that moves nothing the resources read of the device keeps them, if it keeps the
upload thread at work only while capture feeds it. -/
lemma of_fixtures (h : Resources w₀ w) (hf : w'.fixtures = w.fixtures) (ht : Feeding w') :
    Resources w₀ w' := by
  simp only [fixtures, gear, Prod.mk.injEq] at hf
  obtain ⟨hsink, hcap, hpb, hpull, hblock, hlog⟩ := hf
  obtain ⟨new, hnew, halt⟩ := h.captures
  exact ⟨⟨new, hlog.trans hnew, hcap ▸ halt⟩, by rw [hsink, hcap, h.sink],
    by rw [hpull, hblock, hpb, h.streams], ht⟩

lemma of_holdings (h : Resources w₀ w) (hv : w'.holdings = w.holdings) : Resources w₀ w' := by
  simp only [holdings, Prod.mk.injEq] at hv
  obtain ⟨hf, hw, hch⟩ := hv
  exact h.of_fixtures hf (h.feeding.of_eq hw (by rw [hch]) (congrArg (·.2.1) hf))

/-- A step on playback alone: capture, the sink, the capture record and the upload thread stay,
and the device's streams are open exactly while playback is. -/
lemma of_playback (h : Resources w₀ w) (hcap : w'.capturing = w.capturing)
    (hsink : w'.device.sink = w.device.sink) (hlog : w'.captureLog = w.captureLog)
    (hstreams : (w'.device.pullOpen || w'.device.blockingOpen) = w'.playback.isSome)
    (hw : w'.worker = w.worker) (hch : w'.channel = w.channel) : Resources w₀ w' := by
  obtain ⟨new, hnew, halt⟩ := h.captures
  exact ⟨⟨new, hlog.trans hnew, hcap ▸ halt⟩, by rw [hsink, hcap, h.sink], hstreams,
    h.feeding.of_eq hw (by rw [hch]) hcap⟩

end Resources

/-! ### The upload thread -/

section Thread

variable {w : World τ ω}

lemma fixtures_giveUp (k : Worker) (halts : Nat) (s : Upload.Session) (p : ω) (e : Error) :
    (giveUp c w k halts s p e).fixtures = w.fixtures := by
  unfold giveUp
  split <;> rfl

lemma fixtures_pumpBy (n : Nat) (w : World τ ω) : (pumpBy c n w).fixtures = w.fixtures := by
  fun_induction pumpBy c n w with
  | case3 => rename_i ih; exact ih
  | case4 => exact fixtures_giveUp ..
  | case7 => exact fixtures_giveUp ..
  | _ => rfl

/-- Catching up starts no work: a thread at work afterwards was at work before, and its
channel, still fed, is where it was. -/
lemma working_pumpBy {P : Prop}
    (h : ∀ k, w.worker = some k → k.stage = .working → P ∧ ∃ ch, w.channel = some ch ∧ ch.fed = true)
    (n : Nat) :
    ∀ k, (pumpBy c n w).worker = some k → k.stage = .working →
      P ∧ ∃ ch, (pumpBy c n w).channel = some ch ∧ ch.fed = true := by
  induction n generalizing w with
  | zero => exact h
  | succ n ih =>
    unfold pumpBy
    split
    · next k ch hk hch =>
      split
      · exact h
      · next hwork =>
        have hs : k.stage = .working := by simpa using hwork
        obtain ⟨hP, ch', hch', hfed⟩ := h k hk hs
        rw [hch] at hch'
        cases hch'
        split
        · dsimp only
          split
          · -- a chunk went out: the same thread goes on with the rest of the channel
            exact ih fun k' hk' _ => ⟨hP, _, rfl, hfed⟩
          · exact fun k' hk' hs' => absurd hs' (not_working_giveUp c _ _ _ _ _ _ k' hk')
        · -- the channel is still fed, so the thread waits for more
          split
          · exact h
          · next hf => exact absurd hfed hf
    · exact h

lemma feeding_pumpBy (h : Feeding w) (n : Nat) : Feeding (pumpBy c n w) := by
  intro k hk hs
  obtain ⟨hcap, hfed⟩ := working_pumpBy c h n k hk hs
  exact ⟨by rw [(pumpBy_keeps c n w).2.1, hcap], hfed⟩

/-- A thread whose channel is no longer fed ends its request, given a turn for each frame
waiting and one for the end. -/
lemma pumpBy_ends {ch : Channel} (hch : w.channel = some ch) (hfed : ch.fed = false) {n : Nat}
    (hn : ch.frames.length < n) : ∀ k, (pumpBy c n w).worker = some k → k.stage ≠ .working := by
  induction n generalizing w ch with
  | zero => omega
  | succ n ih =>
    unfold pumpBy
    split
    · next k ch' hk hch' =>
      rw [hch] at hch'
      cases hch'
      split
      · next hwork =>
        intro k' hk'
        rw [hk] at hk'
        cases hk'
        simpa using hwork
      · split
        · next f rest hfr =>
          dsimp only
          split
          · exact ih rfl hfed (by simp [hfr] at hn; omega)
          · exact not_working_giveUp c _ _ _ _ _ _
        · split
          · next hf => simp [hfed] at hf
          · split
            · intro k' hk'
              simp only [Option.some.injEq] at hk'
              subst hk'
              simp
            · exact not_working_giveUp c _ _ _ _ _ _
    · next hnone =>
      intro k' hk'
      exact absurd hch (hnone k' ch hk')

lemma fixtures_reap (wait : Bool) (w : World τ ω) : (reap c wait w).fixtures = w.fixtures := by
  have hw : (if wait then pump c w else w).fixtures = w.fixtures := by
    split
    · exact fixtures_pumpBy c _ w
    · rfl
  simp only [reap]
  split <;> exact hw

lemma feeding_reap (h : Feeding w) (wait : Bool) : Feeding (reap c wait w) := by
  have hw : Feeding (if wait then pump c w else w) := by
    split
    · exact feeding_pumpBy c h _
    · exact h
  simp only [reap]
  split
  · exact .of_not_working (by simp)
  · exact .of_not_working (by simp)
  · exact hw

lemma fixtures_offer (w : World τ ω) (frame : List UInt8) : (offer c w frame).fixtures = w.fixtures := by
  unfold offer
  split
  · split
    · rfl
    · split
      · exact fixtures_pumpBy c _ _
      · rfl
  · rfl

lemma feeding_offer (h : Feeding w) (frame : List UInt8) : Feeding (offer c w frame) := by
  unfold offer
  split
  · next ch hch =>
    split
    · exact h
    · split
      · -- the frame joins the channel, which stays fed as it was
        unfold pump
        refine feeding_pumpBy c ?_ _
        exact h.of_eq rfl (by simp [hch]) rfl
      · exact h.of_eq rfl rfl rfl
  · exact h

lemma fixtures_feed (s : Sink) (w : World τ ω) (frame : List UInt8) :
    (feed c s w frame).fixtures = w.fixtures := by
  cases s with
  | record => simp only [feed]; split <;> rfl
  | stream =>
    refine (fixtures_offer c _ frame).trans ?_
    dsimp only
    split <;> rfl
  | relay =>
    simp only [feed, share, Shared.sendBinary, Shared.enqueue]
    split <;> rfl

lemma feeding_feed (h : Feeding w) (s : Sink) (frame : List UInt8) : Feeding (feed c s w frame) := by
  have hrecord : Feeding (feed c .record w frame) := by
    simp only [feed]
    split <;> exact h.of_eq rfl rfl rfl
  cases s with
  | record => exact hrecord
  | stream => exact feeding_offer c hrecord frame
  | relay =>
    simp only [feed, share, Shared.sendBinary, Shared.enqueue]
    split <;> exact h.of_eq rfl rfl rfl

lemma resources_reap {w₀ : World τ ω} (h : Resources w₀ w) (wait : Bool) : Resources w₀ (reap c wait w) :=
  h.of_fixtures (fixtures_reap c wait w) (feeding_reap c h.feeding wait)

lemma resources_feed {w₀ : World τ ω} (h : Resources w₀ w) (s : Sink) (frame : List UInt8) :
    Resources w₀ (feed c s w frame) :=
  h.of_fixtures (fixtures_feed c s w frame) (feeding_feed c h.feeding s frame)

lemma resources_deliver {w₀ : World τ ω} (h : Resources w₀ w) (frame : List UInt8) :
    Resources w₀ (w.deliver c frame).2 := by
  unfold deliver
  split
  · exact resources_feed c h _ frame
  · exact h

end Thread

/-! ### Playback -/

section Playback

variable {w₀ w w₁ : World τ ω} {pb : Playback} {d : List UInt8}

lemma Device.startPlayback_error {dev dev' : Device} {s : Source} {e : Error}
    (h : dev.startPlayback s = (dev', .error e)) : dev' = dev := by
  unfold Device.startPlayback at h
  split at h
  · exact (Prod.mk.inj h).1.symm
  · split at h <;> simp at h

lemma Device.startPlayback_ok {dev dev' : Device} {s : Source} (h : dev.startPlayback s = (dev', .ok ())) :
    dev'.sink = dev.sink ∧ (dev'.pullOpen || dev'.blockingOpen) = true := by
  unfold Device.startPlayback at h
  split at h
  · simp at h
  · split at h <;> (simp only [Prod.mk.injEq] at h; obtain ⟨rfl, -⟩ := h; simp)

lemma Device.writePlayback_holds (dev : Device) (pcm : List UInt8) :
    (dev.writePlayback pcm).1.sink = dev.sink ∧ (dev.writePlayback pcm).1.pullOpen = dev.pullOpen ∧
      (dev.writePlayback pcm).1.blockingOpen = dev.blockingOpen := by
  unfold Device.writePlayback
  split
  · simp
  · split <;> simp

lemma resources_ensurePlayback (h : Resources w₀ w) : Resources w₀ w.ensurePlayback.2 := by
  cases hpb : w.playback with
  | some pb => rw [ensurePlayback_of_open (by simp [hpb])]; exact h
  | none =>
    rw [ensurePlayback_of_closed hpb]
    split
    · next dev e hs =>
      -- a refused start leaves the device as it was
      rw [Device.startPlayback_error hs]
      exact h
    · next dev hs =>
      obtain ⟨hsink, hopen⟩ := Device.startPlayback_ok hs
      exact h.of_playback rfl hsink (by simp [captureLog, Shared.emitActivity, ActivityKind.onCapture])
        (by simpa using hopen) rfl rfl

lemma holdings_play_of_open (hpb : w.playback = some pb) (d : List UInt8) :
    (w.play d).holdings = w.holdings := by
  by_cases hs : w.samples d = []
  · rw [play_of_samples_nil hs]
  cases hr : pb.ring with
  | some r =>
    rw [play_of_ring hpb hr hs]
    simp [holdings, fixtures, gear, captureLog, hpb]
  | none =>
    obtain ⟨hsink, hpull, hblock⟩ := Device.writePlayback_holds w.device (w.samples d)
    rcases hw : w.device.writePlayback (w.samples d) with ⟨dev, _ | ⟨⟩⟩
    · simp only [hw] at hsink hpull hblock
      rw [play_of_unwritten hpb hr hs hw]
      simp [holdings, fixtures, gear, captureLog, hsink, hpull, hblock]
    · simp only [hw] at hsink hpull hblock
      rw [play_of_written hpb hr hs hw]
      simp [holdings, fixtures, gear, captureLog, hpb, hsink, hpull, hblock]

/-- Playing opens playback if it must; the device's streams follow. -/
lemma resources_play (h : Resources w₀ w) (d : List UInt8) : Resources w₀ (w.play d) := by
  cases hpb : w.playback with
  | some pb => exact h.of_holdings (holdings_play_of_open hpb d)
  | none =>
    by_cases hs : w.samples d = []
    · rw [play_of_samples_nil hs]
      exact h
    have h₁ := resources_ensurePlayback h
    rcases he : w.ensurePlayback with ⟨_ | ⟨⟩, w₁⟩
    · rw [he] at h₁
      rw [play_of_unopened hs he]
      exact h₁.of_holdings rfl
    · rw [he] at h₁
      obtain ⟨pb₁, hpb₁⟩ := Option.isSome_iff_exists.1 (isSome_of_ensurePlayback he)
      rw [play_of_opened hs he]
      exact h₁.of_holdings (holdings_play_of_open hpb₁ d)

lemma resources_stopPlayback (h : Resources w₀ w) : Resources w₀ w.stopPlayback := by
  unfold stopPlayback
  split
  · exact h
  · exact h.of_playback rfl rfl (by simp [captureLog, Shared.emitActivity, ActivityKind.onCapture])
      (by simp [Device.stopPlayback]) rfl rfl

end Playback

/-! ### Bookkeeping -/

section Bookkeeping

variable {w₀ w : World τ ω}

lemma holdings_wantWrite (link : Link τ) (w : World τ ω) : (wantWrite link w).holdings = w.holdings := by
  unfold wantWrite
  split <;> rfl

lemma holdings_onConnected (link : Link τ) (w : World τ ω) : (onConnected link w).holdings = w.holdings := by
  simp only [onConnected]
  split <;> rfl

lemma holdings_onWritable (link : Link τ) (w : World τ ω) : (onWritable link w).holdings = w.holdings := by
  simp only [onWritable]
  split <;> (try split) <;> (try split) <;> rfl

lemma holdings_pull (w : World τ ω) (n : Nat) : (w.pull n).2.holdings = w.holdings := by
  unfold pull
  split
  · rfl
  · split
    · next pb hpb =>
      -- pulling moves the ring and the underflows; playback stays open
      split
      · simp [holdings, fixtures, gear, captureLog, hpb]
      · split <;> simp [holdings, fixtures, gear, captureLog, count, hpb]
    · rfl

lemma holdings_enqueue (w : World τ ω) (m : Dispatch.Message) :
    (w.share fun sh => (sh.enqueue m).2).holdings = w.holdings := by
  simp only [share, Shared.enqueue]
  split <;> rfl

/-- Another thread's action: only a captured frame reaches the upload thread, and none reaches
what the device holds. -/
lemma resources_act (h : Resources w₀ w) (a : Act τ ω) : Resources w₀ (a.run c w).2 := by
  cases a with
  | capture f => exact resources_deliver c h f
  | sendText t => exact h.of_holdings (holdings_enqueue w (.text t))
  | sendBinary d => exact h.of_holdings (holdings_enqueue w (.binary d))
  | command r =>
    refine h.of_holdings ?_
    simp only [Act.run, Shared.command]
    split <;> rfl
  | shutdown => exact h.of_holdings rfl
  | pull n => exact h.of_holdings (holdings_pull w n)
  | device ch => exact h.of_holdings rfl
  | conn f => exact h.of_holdings rfl
  | peer f => exact h.of_holdings rfl

lemma resources_runActs (h : Resources w₀ w) (as : List (Act τ ω)) : Resources w₀ (runActs c as w).2 :=
  runActs_induct c (P := fun _ w => Resources w₀ w) (fun a _ _ h => resources_act c h a) as [] w h

lemma resources_handle (link : Link τ) (h : Resources w₀ w) (es : List Transport.LinkEvent) :
    Resources w₀ (handle link es w).2 := by
  induction es generalizing w with
  | nil => exact h
  | cons ev es ih =>
    -- the first event touches playback at most; the rest of the batch goes on from there
    obtain ⟨w₁, hw₁, h₁⟩ : ∃ w₁, (handle link (ev :: es) w).2 = (handle link es w₁).2 ∧ Resources w₀ w₁ := by
      cases ev with
      | connected => exact ⟨_, rfl, h.of_holdings (holdings_onConnected link w)⟩
      | writable => exact ⟨_, rfl, h.of_holdings (holdings_onWritable link w)⟩
      | received m =>
        cases m with
        | text t => exact ⟨_, rfl, h.of_holdings rfl⟩
        | binary d => exact ⟨_, rfl, resources_play h d⟩
      | closed => exact ⟨_, rfl, h⟩
    rw [hw₁]
    exact ih h₁

end Bookkeeping

/-! ### Capture -/

section Capture

variable {w₀ w : World τ ω}

@[simp] lemma captureLog_pumpBy (n : Nat) (w : World τ ω) : (pumpBy c n w).captureLog = w.captureLog :=
  congrArg (·.2.2.2.2.2) (fixtures_pumpBy c n w)

@[simp] lemma playback_isSome_pumpBy (n : Nat) (w : World τ ω) :
    (pumpBy c n w).playback.isSome = w.playback.isSome :=
  congrArg (·.2.2.1) (fixtures_pumpBy c n w)

/-- Once capture no longer feeds its channel, catching up ends the upload thread's work. -/
lemma pump_ends (h : ∀ k, w.worker = some k → k.stage = .working → ∃ ch, w.channel = some ch ∧ ch.fed = false) :
    ∀ k, (pump c w).worker = some k → k.stage ≠ .working := by
  by_cases hwork : ∃ k, w.worker = some k ∧ k.stage = .working
  · obtain ⟨k, hk, hs⟩ := hwork
    obtain ⟨ch, hch, hfed⟩ := h k hk hs
    exact pumpBy_ends c hch hfed (by simp [hch])
  · have hnot : ∀ k, w.worker = some k → k.stage ≠ .working := fun k hk hs => hwork ⟨k, hk, hs⟩
    rw [pump, pumpBy_of_not_working c hnot]
    exact hnot

lemma gear_feed (s : Sink) (w : World τ ω) (frame : List UInt8) : (feed c s w frame).gear = w.gear :=
  congrArg Prod.snd (fixtures_feed c s w frame)

lemma gear_attach (s : Sink) (w : World τ ω) : (attach c s w).2.gear = w.gear := by
  unfold attach
  split
  · rfl
  · next frames _ =>
    -- the start frames go through the sink one by one; keeping the sink touches nothing else
    suffices h : ∀ (fs : List (List UInt8)) (u : World τ ω), (fs.foldl (feed c s) u).gear = u.gear from h frames w
    intro fs
    induction fs with
    | nil => exact fun u => rfl
    | cons f fs ih => exact fun u => (ih _).trans (gear_feed c s u f)

lemma gear_startStream (token : String) (w : World τ ω) : (startStream c token w).2.gear = w.gear := by
  have hreap : (reap c true w).gear = w.gear := congrArg Prod.snd (fixtures_reap c true w)
  simp only [startStream]
  split
  · exact hreap
  · split
    · next _ _ w₂ heq =>
      have hattach := gear_attach c .stream
        { reap c true w with uploads := none, channel := some { bound := (reap c true w).shared.config.uploadChunkQueue } }
      rw [heq] at hattach
      exact hattach.trans hreap
    · next _ w₂ heq =>
      have hattach := gear_attach c .stream
        { reap c true w with uploads := none, channel := some { bound := (reap c true w).shared.config.uploadChunkQueue } }
      rw [heq] at hattach
      split
      · -- the request could not open: the device stops and the failure goes to the uploads
        refine Eq.trans ?_ (hattach.trans hreap)
        simp [gear, captureLog, share, Shared.emitUpload, Device.stopCapture]
      · exact (congrArg Prod.snd (fixtures_pumpBy c _ _)).trans (hattach.trans hreap)

/-- What starting a sink from `w` leaves in `r`: capture not yet marked running, the rest of the
gear as it was, the device holding a sink exactly when the start succeeded, and an upload thread
at work only after a start that succeeded, on a fed channel. -/
structure SinkStart (w : World τ ω) (r : Except Error Unit × World τ ω) : Prop where
  capturing : r.2.capturing = false
  gear : r.2.gear = w.gear
  sink : r.2.device.sink.isSome = r.1.isOk
  thread : ∀ k, r.2.worker = some k → k.stage = .working →
    r.1.isOk = true ∧ ∃ ch, r.2.channel = some ch ∧ ch.fed = true

lemma sinkStart_attach (s : Sink) (hs : s ≠ .stream) (hsink : w.device.sink = none)
    (hcap : w.capturing = false) (hthread : ∀ k, w.worker = some k → k.stage ≠ .working) :
    SinkStart w (attach c s w) := by
  have hgear := gear_attach c s w
  have hworker : (attach c s w).2.worker = w.worker := congrArg (·.2.1) (quiet_attach c s hs w).view
  refine ⟨?_, hgear, ?_, fun k hk hk' => absurd hk' (hthread k (hworker ▸ hk))⟩
  · rw [← hcap]
    exact congrArg (·.1) hgear
  · unfold attach
    split
    · simp [hsink, Except.isOk, Except.toBool]
    · simp [Device.keep, Except.isOk, Except.toBool]

lemma sinkStart_startStream (token : String) (hsink : w.device.sink = none) (hcap : w.capturing = false)
    (hthread : ∀ k, w.worker = some k → k.stage ≠ .working) : SinkStart w (startStream c token w) := by
  have hgear := gear_startStream c token w
  have hcap' : (startStream c token w).2.capturing = false := by
    rw [← hcap]
    exact congrArg (·.1) hgear
  suffices h : (startStream c token w).2.device.sink.isSome = (startStream c token w).1.isOk ∧
      ∀ k, (startStream c token w).2.worker = some k → k.stage = .working →
        (startStream c token w).1.isOk = true ∧
          ∃ ch, (startStream c token w).2.channel = some ch ∧ ch.fed = true from
    ⟨hcap', hgear, h.1, h.2⟩
  obtain ⟨u, hu⟩ : ∃ u, reap c true w = { w with worker := none, uploads := u } :=
    ⟨_, reap_of_not_working c hthread⟩
  simp only [startStream, hu]
  split
  · -- no session in hand: nothing starts
    exact ⟨by simp [hsink, Except.isOk, Except.toBool], by simp⟩
  · split
    · next e w₂ heq =>
      obtain ⟨-, rfl⟩ := attach_error c heq
      exact ⟨by simp [hsink, Except.isOk, Except.toBool], by simp⟩
    · next w₂ heq =>
      obtain ⟨tags, -, -, hside, -, hdev, -⟩ := attach_stream c rfl rfl heq
      simp only [uploadSide, Prod.mk.injEq] at hside
      obtain ⟨hw, hch, -⟩ := hside
      split
      · -- the request could not open: the device stops, and no thread starts
        exact ⟨by simp [share, Device.stopCapture, Except.isOk, Except.toBool], by simp [share, hw]⟩
      · -- the thread starts on the channel the capture feeds
        refine ⟨by simp [pump, hdev, Device.keep, Except.isOk, Except.toBool], ?_⟩
        unfold pump
        refine working_pumpBy c (P := (Except.ok () : Except Error Unit).isOk = true) ?_ _
        intro k _ _
        exact ⟨rfl, _, hch, rfl⟩

/-- A capture that starts is marked running and its start published; one that does not leaves
capture stopped. -/
lemma resources_started (h : Resources w₀ w) (hcap : w.capturing = false)
    {r : Except Error Unit × World τ ω} (hs : SinkStart w r) :
    Resources w₀ (match r with
      | (Except.error e, w) => (Except.error e, w)
      | (Except.ok (), w) => (Except.ok (), { w with capturing := true }.share fun sh =>
          (sh.publish .capturing none).emitActivity .captureStarted)).2 := by
  obtain ⟨res, w₂⟩ := r
  obtain ⟨new, hnew, halt⟩ := h.captures
  have hlog : w₂.captureLog = w₀.captureLog ++ new := (congrArg (·.2.2.2.2) hs.gear).trans hnew
  have hpb : w₂.playback.isSome = w.playback.isSome := congrArg (·.2.1) hs.gear
  have hpull : w₂.device.pullOpen = w.device.pullOpen := congrArg (·.2.2.1) hs.gear
  have hblock : w₂.device.blockingOpen = w.device.blockingOpen := congrArg (·.2.2.2.1) hs.gear
  have hstreams : (w₂.device.pullOpen || w₂.device.blockingOpen) = w₂.playback.isSome := by
    rw [hpull, hblock, hpb, h.streams]
  rw [hcap] at halt
  cases res with
  | error e =>
    -- nothing started: no sink, and no thread at work
    have hc : w₂.capturing = false := hs.capturing
    refine ⟨⟨new, hlog, by rw [hc]; exact halt⟩, ?_, hstreams, fun k hk hk' => ?_⟩
    · rw [hc]
      simpa [Except.isOk, Except.toBool] using hs.sink
    · simpa [Except.isOk, Except.toBool] using (hs.thread k hk hk').1
  | ok u =>
    refine ⟨⟨new ++ [⟨w₂.shared.seq, .captureStarted⟩], ?_, ?_⟩, ?_, hstreams, ?_⟩
    · simp only [captureLog] at hlog ⊢
      simp only [share, Shared.emitActivity, Shared.publish, List.filter_append, hlog, List.append_assoc]
      rfl
    · rw [ActivityEvent.capturingAfter_append, halt]
      rfl
    · simpa [share, Except.isOk, Except.toBool] using hs.sink
    · intro k hk hk'
      exact ⟨rfl, (hs.thread k hk hk').2⟩

lemma resources_startCapture (h : Resources w₀ w) (mode : CaptureMode) :
    Resources w₀ (startCapture c mode w).2 := by
  unfold startCapture
  split
  · exact h
  next hcap =>
  have hcap' : w.capturing = false := by simpa using hcap
  -- with capture off, the device holds no sink and no thread works
  have hsink : w.device.sink = none := by simpa [hcap'] using h.sink
  have hthread : ∀ k, w.worker = some k → k.stage ≠ .working := fun k hk hs => by
    simp [(h.feeding k hk hs).1] at hcap'
  have h₁ : Resources w₀ (w.share fun sh => { sh with capture := sh.capture.clear }) := h.of_holdings rfl
  cases mode with
  | record => exact resources_started h₁ hcap' (sinkStart_attach c .record nofun hsink hcap' hthread)
  | relay => exact resources_started h₁ hcap' (sinkStart_attach c .relay nofun hsink hcap' hthread)
  | stream token => exact resources_started h₁ hcap' (sinkStart_startStream c token hsink hcap' hthread)

/-- Stopping capture stops the device, publishes the capture's end, and tells the channel that no
more frames come, so that the thread, catching up, ends its request. -/
lemma resources_stopCapture (h : Resources w₀ w) : Resources w₀ (stopCapture c w).2 := by
  cases hcap : w.capturing
  · simp only [stopCapture, hcap, Bool.not_false, if_true]
    exact h
  obtain ⟨new, hnew, halt⟩ := h.captures
  rw [hcap] at halt
  simp only [stopCapture, hcap, Bool.not_true, Bool.false_eq_true, if_false]
  refine ⟨⟨new ++ [⟨w.shared.seq, .captureStopped w.shared.capture.data.length w.shared.capture.dropped⟩],
    ?_, ?_⟩, ?_, ?_, .of_not_working (pump_ends c ?_)⟩
  · rw [pump, captureLog_pumpBy]
    simp only [captureLog] at hnew ⊢
    simp only [share, Shared.emitActivity, Shared.publish, List.filter_append, hnew, List.append_assoc]
    rfl
  · rw [ActivityEvent.capturingAfter_append, halt]
    simp [pump, share, ActivityEvent.capturingAfter, ActivityKind.followCapture]
  · simp [pump, share, Device.stopCapture]
  · simpa [pump, share, Device.stopCapture] using h.streams
  · intro k hk hs
    obtain ⟨-, ch, hch, -⟩ := h.feeding k hk hs
    exact ⟨{ ch with fed := false }, by simp [share, hch], rfl⟩

lemma resources_carryOut (rs : List Request) (h : Resources w₀ w) : Resources w₀ (carryOut c rs w).2 := by
  induction rs generalizing w with
  | nil => exact h
  | cons r rs ih =>
    cases r with
    | startCapture m k => exact ih ((resources_startCapture c h m).of_holdings rfl)
    | stopCapture k => exact ih ((resources_stopCapture c h).of_holdings rfl)
    | playClip a => exact ih (resources_play h a)
    | stopPlayback => exact ih (resources_stopPlayback h)
    | disconnect => exact h.of_holdings rfl

lemma resources_drain (h : Resources w₀ w) : Resources w₀ (w.drain c).2 :=
  resources_carryOut c _ (h.of_holdings rfl)

end Capture

/-! ### The end of a run -/

section End

variable {ε : Type} {w₀ w : World τ ω}

/-- **The teardown releases everything.** From resources that hold, the teardown stops capture,
joins the upload thread and closes playback, keeping the resources. -/
lemma teardown_resources (link : Link τ) (h : Resources w₀ w) :
    Resources w₀ (w.teardown link c) ∧ (w.teardown link c).capturing = false ∧
      (w.teardown link c).worker = none ∧ (w.teardown link c).playback = none := by
  obtain ⟨W, hW, h₁, hcap₁⟩ : ∃ W, (if w.capturing then (stopCapture c w).2 else w) = W ∧
      Resources w₀ W ∧ W.capturing = false := by
    refine ⟨_, rfl, ?_⟩
    split
    · next hcap => exact ⟨resources_stopCapture c h, by simp [stopCapture, hcap, pump, share]⟩
    · next hcap => exact ⟨h, by simpa using hcap⟩
  -- with capture stopped no thread works, so taking the session back joins the thread
  have hthread : ∀ k, W.worker = some k → k.stage ≠ .working := fun k hk hs => by
    simp [(h₁.feeding k hk hs).1] at hcap₁
  have hworker : (reap c true W).worker = none := by rw [reap_of_not_working c hthread]
  have hcap : (reap c true W).capturing = false :=
    (congrArg (·.2.1) (fixtures_reap c true W)).trans hcap₁
  have h₂ := resources_stopPlayback (resources_reap c h₁ true)
  have hteardown : w.teardown link c =
      { (reap c true W).stopPlayback with conn := (link.close (reap c true W).stopPlayback.conn).2 } := by
    simp only [teardown, hW]
  rw [hteardown]
  refine ⟨h₂.of_holdings rfl, ?_, ?_, stopPlayback_closes _⟩
  · unfold stopPlayback
    split <;> exact hcap
  · unfold stopPlayback
    split <;> exact hworker

/-- **The resources of a run.** Under any threads, a run of the loop keeps its resources from
turn to turn and ends with capture stopped, no upload thread, and playback closed. -/
lemma serveBy_resources (link : Link τ) (s : Script τ ω ε) (fuel : Nat) (st : ε × List (Entry τ ω))
    (h : Resources w₀ w) :
    Resources w₀ (serveBy link c (s.service c) fuel st w).2 ∧
      (serveBy link c (s.service c) fuel st w).2.capturing = false ∧
      (serveBy link c (s.service c) fuel st w).2.worker = none ∧
      (serveBy link c (s.service c) fuel st w).2.playback = none := by
  refine serveBy_induct link c (s.service c) (P := fun _ w => Resources w₀ w)
    (Q := fun _ w => Resources w₀ w ∧ w.capturing = false ∧ w.worker = none ∧ w.playback = none)
    ?_ ?_ ?_ ?_ ?_ fuel st w h
  · intro _ w h
    exact resources_drain c h
  · intro _ w h
    exact (resources_reap c h false).of_holdings (holdings_wantWrite link _)
  · rintro ⟨e, log⟩ w es ⟨e', log'⟩ w' h hsvc
    obtain ⟨rfl, -⟩ := service_ok c s hsvc
    exact resources_handle link (resources_runActs c h _) es
  · rintro ⟨e, log⟩ w err ⟨e', log'⟩ w' h hsvc
    obtain ⟨rfl, -⟩ := service_error c s hsvc
    exact resources_runActs c h _
  · intro _ w h
    exact teardown_resources c link h

end End

/-! ### The connection's record -/

section Record

variable {ε : Type} (link : Link τ)

/-- `w'` follows `w` with the traced connection asked anything but a close. -/
def Unclosed (w w' : World (τ × List Note) ω) : Prop :=
  ∃ ops, w'.conn.2 = w.conn.2 ++ ops ∧ Note.close ∉ ops

namespace Unclosed

variable {w w' w'' : World (τ × List Note) ω}

lemma refl (w : World (τ × List Note) ω) : Unclosed w w := ⟨[], by simp, by simp⟩

lemma trans (h : Unclosed w w') (h' : Unclosed w' w'') : Unclosed w w'' := by
  obtain ⟨ops, hops, hclose⟩ := h
  obtain ⟨ops', hops', hclose'⟩ := h'
  exact ⟨ops ++ ops', by rw [hops', hops, List.append_assoc], by simp [hclose, hclose']⟩

lemma of_conn (h : w'.conn.2 = w.conn.2) : Unclosed w w' := ⟨[], by simp [h], by simp⟩

lemma of_aside (h : Aside w w') : Unclosed w w' := of_conn (congrArg Prod.snd h.conn)

end Unclosed

lemma unclosed_takeSlot (w : World (τ × List Note) ω) : Unclosed w (takeSlot link.traced w) := by
  rcases hd : w.shared.queue.dequeue with ⟨_ | m, q⟩
  · simp only [takeSlot, hd]
    exact .of_conn rfl
  · simp only [takeSlot, hd]
    -- a send is noted, whatever it returns
    split <;>
    · rename_i t heq
      have ht : t.2 = w.conn.2 ++ [.send m] := by
        have h₂ := congrArg (fun r => r.2.2) heq
        simp only at h₂
        rw [← h₂]
        rfl
      exact ⟨[.send m], ht, by simp⟩

lemma unclosed_rearm (w : World (τ × List Note) ω) : Unclosed w (rearm link.traced w) := by
  unfold rearm
  split
  · exact .refl w
  · exact ⟨[.requestWritable], rfl, by simp⟩

lemma unclosed_handle (es : List Transport.LinkEvent) (w : World (τ × List Note) ω) :
    Unclosed w (handle link.traced es w).2 := by
  induction es generalizing w with
  | nil => exact .refl w
  | cons ev es ih =>
    obtain ⟨w₁, hw₁, h₁⟩ : ∃ w₁, (handle link.traced (ev :: es) w).2 = (handle link.traced es w₁).2 ∧
        Unclosed w w₁ := by
      cases ev with
      | connected =>
        refine ⟨_, rfl, ?_⟩
        rw [onConnected_eq_rearm]
        exact (Unclosed.of_conn rfl).trans (unclosed_rearm link _)
      | writable =>
        refine ⟨_, rfl, ?_⟩
        rw [onWritable_eq_rearm]
        exact (unclosed_takeSlot link w).trans (unclosed_rearm link _)
      | received m =>
        cases m with
        | text t => exact ⟨_, rfl, .of_conn rfl⟩
        | binary d => exact ⟨_, rfl, .of_aside (.of_outbound (outbound_play w d))⟩
      | closed => exact ⟨_, rfl, .refl w⟩
    rw [hw₁]
    exact h₁.trans (ih w₁)

/-- Another thread's action asks nothing of the connection, if its changes to the connection
keep the record. -/
lemma unclosed_act (w : World (τ × List Note) ω) (a : Act (τ × List Note) ω)
    (ha : ∀ f, a = .conn f → ∀ t, (f t).2 = t.2) : Unclosed w (a.run c w).2 := by
  cases a with
  | conn f => exact .of_conn (ha f rfl w.conn)
  | capture f =>
    show Unclosed w (w.deliver c f).2
    unfold deliver
    split
    · exact .of_aside (aside_feed c _ w f)
    · exact .refl w
  | command r =>
    simp only [Act.run, Shared.command]
    split <;> exact .of_conn rfl
  | pull n =>
    refine .of_conn ?_
    show (w.pull n).2.conn.2 = w.conn.2
    unfold pull
    split <;> (try split) <;> (try split) <;> (try split) <;> rfl
  | _ => exact .of_conn rfl

lemma unclosed_runActs (as : List (Act (τ × List Note) ω)) (has : ∀ f, Act.conn f ∈ as → ∀ t, (f t).2 = t.2)
    (w : World (τ × List Note) ω) : Unclosed w (runActs c as w).2 := by
  induction as generalizing w with
  | nil => exact .refl w
  | cons a as ih =>
    have h₁ := unclosed_act c w a (fun f hf => has f (hf ▸ List.mem_cons_self))
    exact h₁.trans (ih (fun f hf => has f (List.mem_cons_of_mem a hf)) _)

/-- **A run closes its connection once.** Under threads whose changes to the connection keep the
record of what the loop asked of it, a run of the loop asks its connection anything but a
close, turn after turn, and ends with one close. -/
lemma serveBy_closes_once (s : Script (τ × List Note) ω ε)
    (hconn : ∀ e w f, Act.conn f ∈ s.acts e w → ∀ t, (f t).2 = t.2) (fuel : Nat)
    (st : ε × List (Entry (τ × List Note) ω)) (w : World (τ × List Note) ω) :
    ∃ ops, (serveBy link.traced c (s.service c) fuel st w).2.conn.2 = w.conn.2 ++ ops ++ [.close] ∧
      Note.close ∉ ops := by
  refine serveBy_induct link.traced c (s.service c) (P := fun _ w' => Unclosed w w')
    (Q := fun _ w' => ∃ ops, w'.conn.2 = w.conn.2 ++ ops ++ [.close] ∧ Note.close ∉ ops)
    ?_ ?_ ?_ ?_ ?_ fuel st w (.refl w)
  · intro _ w' h
    exact h.trans (.of_aside (aside_drain c w'))
  · intro _ w' h
    obtain ⟨want, hwant, hout⟩ := wantWrite_outflow link (reap c false w')
    refine (h.trans (.of_aside (.of_outbound (outbound_reap c false w')))).trans ⟨want, hout.notes, ?_⟩
    rcases hwant with rfl | rfl <;> simp
  · rintro ⟨e, log⟩ w' es ⟨e', log'⟩ w'' h hsvc
    obtain ⟨rfl, -⟩ := service_ok c s hsvc
    exact (h.trans (unclosed_runActs c _ (hconn e w') w')).trans (unclosed_handle link es _)
  · rintro ⟨e, log⟩ w' err ⟨e', log'⟩ w'' h hsvc
    obtain ⟨rfl, -⟩ := service_error c s hsvc
    exact h.trans (unclosed_runActs c _ (hconn e w') w')
  · intro _ w' h
    obtain ⟨ops, hops, hclose⟩ := h
    exact ⟨ops, by rw [(teardown_outflow link c w').notes, hops], hclose⟩

end Record

end World

/-- A client whose loop does not run begins one; it publishes its status and nothing else. -/
lemma Shared.begin_of_idle {s : Shared} (h : s.running = false) :
    s.begin = .ok (Shared.publish { s with running := true, requests := [],
                                           answers := s.answers ++ s.requests.filterMap Request.dropped,
                                           diag := {} } .connecting none) := by
  simp [Shared.begin, h]

section Run

variable {τ ω ε : Type}

/-- A run whose connection opens serves it from the world its loop begins in: the begun client on
the connection opened, holding the session and nothing else. -/
lemma runOn_opened (link : Link τ) (c : Upload.Connector ω)
    (service : ε → World τ ω → Except Error (List Transport.LinkEvent) × ε × World τ ω)
    {connect : τ → τ × Except Error Unit} {t t₁ : τ} (session : Upload.Session) (fuel : Nat) (e : ε)
    {w : World τ ω} (hrun : w.shared.running = false) (hconnect : connect t = (t₁, .ok ())) :
    ∃ sh, w.shared.begin = .ok sh ∧
      runOn link c service connect t session fuel e w =
        (.ok (), serve link c service fuel e { w with shared := sh, conn := t₁, uploads := some session,
                                                      worker := none, channel := none, playback := none,
                                                      capturing := false }) :=
  ⟨_, Shared.begin_of_idle hrun, by simp only [runOn, Shared.begin_of_idle hrun, hconnect]⟩

open World in
/-- **A run releases everything it holds.** Take a run over any connection, whose record of what
the loop asks of it is kept (`Link.traced`), under any threads whose changes to the connection
keep that record, and with any upload session.
While a loop runs, the run is refused with `alreadyRunning` and changes nothing. A connection
that does not open fails the client with the connection's error: the client is marked failed
and no longer running, and there is no turn, no teardown and no close; the device and the
published activity stay as they were.
A connection that opens is served, on a device that held no sink and no stream. However the
loop ends, when the run returns: the client no longer runs and is marked closed; the
connection was closed exactly once, as the last thing asked of it; capture has stopped, the
device holds no sink, and the capture starts and ends published during the run alternate,
from stopped back to stopped; the upload thread, if one ran, has been joined; and playback is
closed, the device's streams are closed, and the playback starts and ends published during the
run alternate likewise.
A start in the background is refused with `alreadyRunning`, changing nothing, while a loop
runs; one whose opening fails answers with that failure, the client marked failed and no
longer running. -/
theorem run_releases_everything (link : Link τ) (c : Upload.Connector ω) (s : Script (τ × List Note) ω ε)
    (hconn : ∀ e w f, Act.conn f ∈ s.acts e w → ∀ t, (f t).2 = t.2)
    (connect : τ × List Note → (τ × List Note) × Except Error Unit) (t : τ × List Note)
    (session : Upload.Session) (fuel : Nat) (e : ε) (w : World (τ × List Note) ω) :
    let run := runOn link.traced c (s.service c) connect t session fuel (e, []) w
    (w.shared.running = true → run = (.error .alreadyRunning, (e, []), w)) ∧
    (∀ err t₁, w.shared.running = false → connect t = (t₁, .error err) →
      run.1 = .error err ∧ run.2.2.shared.running = false ∧ run.2.2.shared.status = .error ∧
        run.2.2.conn = t₁ ∧ run.2.2.device = w.device ∧ run.2.2.shared.activity = w.shared.activity) ∧
    (∀ t₁, w.shared.running = false → connect t = (t₁, .ok ()) → w.device.sink = none →
      w.device.pullOpen = false → w.device.blockingOpen = false →
      run.1 = .ok () ∧ run.2.2.shared.running = false ∧ run.2.2.shared.status = .closed ∧
        (∃ ops, run.2.2.conn.2 = t₁.2 ++ ops ++ [.close] ∧ Note.close ∉ ops) ∧
        run.2.2.capturing = false ∧ run.2.2.device.sink = none ∧
        (∃ new, run.2.2.captureLog = w.captureLog ++ new ∧
          ActivityEvent.capturingAfter false new = some false) ∧
        run.2.2.worker = none ∧ run.2.2.playback = none ∧
        run.2.2.device.pullOpen = false ∧ run.2.2.device.blockingOpen = false ∧
        ∃ new, run.2.2.playbackLog = w.playbackLog ++ new ∧ ActivityEvent.openAfter false new = some false) ∧
    ∀ (sh : Shared) (o : Opening), (sh.running = true → sh.launch o = (.error .alreadyRunning, sh)) ∧
      ∀ err, sh.running = false → o.failure = some err →
        (sh.launch o).1 = .error err ∧ (sh.launch o).2.running = false ∧ (sh.launch o).2.status = .error := by
  dsimp only
  refine ⟨fun hrun => by simp [runOn, Shared.begin, hrun], fun err t₁ hrun hconnect => ?_, ?_,
    fun sh o => ⟨fun hrun => by simp [Shared.launch, Shared.begin, hrun], fun err hrun hfail => ?_⟩⟩
  · simp [runOn, Shared.begin_of_idle hrun, hconnect, Shared.fail, Shared.publish]
  · intro t₁ hrun hconnect hsink hpull hblock
    -- the loop begins on the connection opened, holding the session and nothing else
    obtain ⟨sh, hbegin, hopened⟩ := runOn_opened link.traced c (s.service c) session fuel (e, []) hrun hconnect
    have hact : sh.activity = w.shared.activity := by
      rw [Shared.begin_of_idle hrun, Except.ok.injEq] at hbegin
      rw [← hbegin]
      rfl
    obtain ⟨W₀, hW₀, hlog₀, hplog₀, hconn₀, hpb₀, hres₀⟩ : ∃ W₀ : World (τ × List Note) ω,
        runOn link.traced c (s.service c) connect t session fuel (e, []) w =
          (.ok (), serve link.traced c (s.service c) fuel (e, []) W₀) ∧
        W₀.captureLog = w.captureLog ∧ W₀.playbackLog = w.playbackLog ∧ W₀.conn = t₁ ∧
        W₀.playback = none ∧ Resources W₀ W₀ := by
      refine ⟨_, hopened, ?_, ?_, rfl, rfl, ?_⟩
      · simp [captureLog, hact]
      · simp [playbackLog, hact]
      · exact ⟨⟨[], by simp, rfl⟩, by simp [hsink], by simp [hpull, hblock], .of_not_working (by simp)⟩
    rw [hW₀]
    obtain ⟨hres, hcap, hworker, hpb⟩ := serveBy_resources c link.traced s fuel (e, []) hres₀
    obtain ⟨ops, hops, hclose⟩ := serveBy_closes_once c link s hconn fuel (e, []) W₀
    obtain ⟨⟨taken, -, hbooks⟩, -⟩ := serveBy_books link.traced c s fuel e (Books.start W₀)
    obtain ⟨extra, hplog, hopen, -⟩ := hbooks.activity
    obtain ⟨new, hlog, halt⟩ := hres.captures
    have hstreams := hres.streams
    rw [hpb] at hstreams
    simp only [Option.isSome_none, Bool.or_eq_false_iff] at hstreams
    -- marking the loop ended touches only the client's status
    refine ⟨rfl, by simp [serve, share, Shared.finish, Shared.publish],
      by simp [serve, share, Shared.finish, Shared.publish], ⟨ops, by simpa [serve, share, hconn₀] using hops, hclose⟩,
      hcap, by simpa [serve, share, hcap] using hres.sink, ⟨new, by rw [← hlog₀]; exact hlog, by rw [halt, hcap]⟩,
      hworker, hpb, hstreams.1, hstreams.2, extra, by rw [← hplog₀]; exact hplog, ?_⟩
    simpa [hpb₀, hpb] using hopen
  · simp [Shared.launch, Shared.begin_of_idle hrun, hfail, Shared.fail, Shared.publish]

/-- Threads that ask for a recording capture and a clip to be played, and then close the
connection. -/
def recordAndClose : Script (Unit × List Note) Upload.Scripted Nat where
  acts n _ := if n = 0 then [.command (.startCapture .record 0), .command (.playClip [0, 0, 1, 1])] else []
  reply n _ := if n = 0 then (.ok [], 1) else (.ok [.closed], n + 1)

/-- A client whose loop has not begun, on a traced connection that nothing was asked of. -/
def idleTraced : World (Unit × List Note) Upload.Scripted :=
  { shared := idleClient, device := {}, conn := ((), []), peer := {} }

/-- A run that records and plays before its connection closes ends with the connection closed
once, capture stopped and no upload thread. -/
theorem recording_run_released :
    (∀ e w f, Act.conn f ∈ recordAndClose.acts e w → ∀ t, (f t).2 = t.2) ∧
      let run := runOn quietLink.traced steadyUploads (recordAndClose.service steadyUploads)
        (fun t => (t, .ok ())) ((), []) {} 3 (0, []) idleTraced
      (∃ ops, run.2.2.conn.2 = ops ++ [.close] ∧ Note.close ∉ ops) ∧ run.2.2.capturing = false ∧
        run.2.2.worker = none := by
  have hconn : ∀ e w f, Act.conn f ∈ recordAndClose.acts e w → ∀ t, (f t).2 = t.2 := by
    intro e w f hf
    simp only [recordAndClose] at hf
    split at hf <;> simp at hf
  obtain ⟨-, -, -, ⟨ops, hops, hclose⟩, hcap, -, -, hworker, -⟩ :=
    (run_releases_everything quietLink steadyUploads recordAndClose hconn (fun t => (t, .ok ())) ((), []) {} 3 0
      idleTraced).2.2.1 ((), []) rfl rfl rfl rfl rfl
  exact ⟨hconn, ⟨ops, by simpa using hops, hclose⟩, hcap, hworker⟩

end Run

end Client

end Talkback
