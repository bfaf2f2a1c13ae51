import Talkback.Client.Start
import Talkback.Proofs.Interleaved
import Talkback.Proofs.Outbound

/-!
What the client's status says about capture.

Three things write the status while the loop runs: a capture that starts shows Capturing, a
capture that stops shows Connected, and the handling of an open shows Connected whatever runs.
Everything else the loop and the threads around it do leaves alone both whether a capture runs
and the status (`World.mode`). So each step of the loop either keeps the mode or sets one of the
two in which the status tells the capture truly, a capture under Capturing or none under
Connected (`World.Resets`), or else it is the handling of an open (`Pace.advance_resets`,
`Pace.advance_open`).

Along any interleaving of the loop with other threads (`Pace.Step`) two facts follow: Capturing
is never shown without a capture, and from the handling of the open on, no capture means
Connected (`Pace.Shows`). The status tells a running capture too, except after an open handled
while the capture runs: that shows Connected over it until it stops.
-/

namespace Talkback.Client

open Transport (LinkEvent Inbound)

namespace Shared

@[simp] lemma status_enqueue (s : Shared) (m : Dispatch.Message) : (s.enqueue m).2.status = s.status := by
  unfold enqueue
  split <;> rfl

@[simp] lemma status_push (s : Shared) (m : Dispatch.Message) : (s.push m).2.status = s.status := by
  unfold push
  split <;> rfl

end Shared

namespace World

variable {τ ω : Type}

/-- Whether a capture runs, and the status the client shows. -/
def mode (w : World τ ω) : Bool × Status := (w.capturing, w.shared.status)

/-- The status never shows Capturing without a capture running. -/
def Honest (w : World τ ω) : Prop := w.shared.status = .capturing → w.capturing = true

/-- The status of a loop past its open: Connected or Capturing. -/
def Live (w : World τ ω) : Prop := w.shared.status = .connected ∨ w.shared.status = .capturing

/-- The status shows Capturing exactly while a capture runs. -/
def ShowsCapture (w : World τ ω) : Prop := w.shared.status = .capturing ↔ w.capturing = true

/-- `w'` shows what `w` showed, or one of the two modes in which the status tells the capture
truly: a capture under Capturing, or none under Connected. -/
def Resets (w w' : World τ ω) : Prop :=
  w'.mode = w.mode ∨ w'.mode = (true, .capturing) ∨ w'.mode = (false, .connected)

namespace Resets

variable {w w' w'' : World τ ω}

lemma refl (w : World τ ω) : Resets w w := .inl rfl

lemma of_mode (h : w'.mode = w.mode) : Resets w w' := .inl h

lemma trans (h : Resets w w') (h' : Resets w' w'') : Resets w w'' := by
  rcases h' with h' | h' | h'
  · rcases h with h | h | h
    · exact .inl (h'.trans h)
    · exact .inr (.inl (h'.trans h))
    · exact .inr (.inr (h'.trans h))
  · exact .inr (.inl h')
  · exact .inr (.inr h')

/-- What holds of the mode shown before, and of both modes that tell the capture truly, holds
after. -/
lemma keeps {P : Bool × Status → Prop} (h : Resets w w') (hw : P w.mode) (hrun : P (true, .capturing))
    (hidle : P (false, .connected)) : P w'.mode := by
  rcases h with h | h | h <;> rw [h]
  · exact hw
  · exact hrun
  · exact hidle

lemma honest (h : Resets w w') (hw : w.Honest) : w'.Honest :=
  h.keeps (P := fun m => m.2 = .capturing → m.1 = true) hw (fun _ => rfl) (fun h => nomatch h)

lemma live (h : Resets w w') (hw : w.Live) : w'.Live :=
  h.keeps (P := fun m => m.2 = .connected ∨ m.2 = .capturing) hw (.inr rfl) (.inl rfl)

lemma showsCapture (h : Resets w w') (hw : w.ShowsCapture) : w'.ShowsCapture :=
  h.keeps (P := fun m => m.2 = .capturing ↔ m.1 = true) hw (by simp) (by simp)

end Resets

/-- A step that always keeps the mode, taken apart by its result. -/
lemma mode_of_pair {α : Type} {f : World τ ω → α × World τ ω} (hf : ∀ w, (f w).2.mode = w.mode)
    {w w' : World τ ω} {r : α} (h : f w = (r, w')) : w'.mode = w.mode := by
  simpa [h] using hf w

/-! ### Steps that keep the mode -/

section Bookkeeping

variable (c : Upload.Connector ω)

lemma mode_giveUp (w : World τ ω) (k : Worker) (halts : Nat) (s : Upload.Session) (p : ω)
    (e : Error) : (giveUp c w k halts s p e).mode = w.mode := by
  unfold giveUp
  split <;> rfl

lemma mode_pumpBy (n : Nat) (w : World τ ω) : (pumpBy c n w).mode = w.mode := by
  fun_induction pumpBy c n w with
  | case3 => rename_i ih; exact ih
  | case4 => exact mode_giveUp ..
  | case7 => exact mode_giveUp ..
  | _ => rfl

@[simp] lemma mode_pump (w : World τ ω) : (pump c w).mode = w.mode := mode_pumpBy c _ w

@[simp] lemma mode_reap (wait : Bool) (w : World τ ω) : (reap c wait w).mode = w.mode := by
  have hw : (if wait then pump c w else w).mode = w.mode := by split <;> simp
  simp only [reap]
  split <;> exact hw

lemma mode_offer (w : World τ ω) (frame : List UInt8) : (offer c w frame).mode = w.mode := by
  unfold offer
  split
  · split
    · rfl
    · split
      · exact mode_pump c _
      · rfl
  · rfl

lemma mode_feed (s : Sink) (w : World τ ω) (frame : List UInt8) : (feed c s w frame).mode = w.mode := by
  cases s with
  | record => simp only [feed]; split <;> rfl
  | stream =>
    refine (mode_offer c _ frame).trans ?_
    dsimp only
    split <;> rfl
  | relay => simp [feed, mode, share, Shared.sendBinary]

lemma mode_foldl_feed (s : Sink) (frames : List (List UInt8)) (w : World τ ω) :
    (frames.foldl (feed c s) w).mode = w.mode := by
  induction frames generalizing w with
  | nil => rfl
  | cons f fs ih => exact (ih _).trans (mode_feed c s w f)

lemma mode_attach (s : Sink) (w : World τ ω) : (attach c s w).2.mode = w.mode := by
  unfold attach
  split
  · rfl
  · exact mode_foldl_feed c s _ w

lemma mode_startStream (token : String) (w : World τ ω) : (startStream c token w).2.mode = w.mode := by
  have hreap := mode_reap c true w
  simp only [startStream]
  split
  · exact hreap
  · split
    · next _ _ w₂ heq => exact (mode_of_pair (mode_attach c .stream) heq).trans hreap
    · next _ w₂ heq =>
      have hattach := (mode_of_pair (mode_attach c .stream) heq).trans hreap
      split
      · exact hattach
      · exact (mode_pump c _).trans hattach

lemma mode_deliver (w : World τ ω) (frame : List UInt8) : (w.deliver c frame).2.mode = w.mode := by
  unfold deliver
  split
  · exact mode_feed c _ w frame
  · rfl

end Bookkeeping

lemma mode_ensurePlayback (w : World τ ω) : w.ensurePlayback.2.mode = w.mode := by
  unfold ensurePlayback
  split
  · rfl
  · dsimp only
    split <;> rfl

lemma mode_play (w : World τ ω) (data : List UInt8) : (w.play data).mode = w.mode := by
  simp only [play]
  split
  · rfl
  · split
    · next _ _ w₁ heq =>
      have hopen := mode_of_pair (fun w => mode_ensurePlayback w) heq
      exact hopen
    · next _ w₁ heq =>
      have hopen := mode_of_pair (fun w => mode_ensurePlayback w) heq
      -- from the world playback opened in, audio goes to the ring or the device
      refine Eq.trans ?_ hopen
      split
      · rfl
      · split
        · rfl
        · split <;> rfl

lemma mode_stopPlayback (w : World τ ω) : w.stopPlayback.mode = w.mode := by
  unfold stopPlayback
  split <;> rfl

lemma mode_pull (w : World τ ω) (n : Nat) : (w.pull n).2.mode = w.mode := by
  unfold pull
  split
  · rfl
  · split
    · split
      · rfl
      · split <;> rfl
    · rfl

variable (link : Link τ)

lemma mode_takeSlot (w : World τ ω) : (takeSlot link w).mode = w.mode := by
  simp only [takeSlot]
  split
  · rfl
  · split <;> rfl

lemma mode_rearm (w : World τ ω) : (rearm link w).mode = w.mode := by
  unfold rearm
  split <;> rfl

lemma mode_wantWrite (w : World τ ω) : (wantWrite link w).mode = w.mode := by
  unfold wantWrite
  split <;> rfl

/-- Another thread's action never changes the mode. -/
lemma mode_act (c : Upload.Connector ω) (a : Act τ ω) (w : World τ ω) : (a.run c w).2.mode = w.mode := by
  cases a with
  | sendText t => simp [Act.run, mode, Shared.sendText]
  | sendBinary d => simp [Act.run, mode, Shared.sendBinary]
  | command r =>
    simp only [Act.run, Shared.command]
    split <;> rfl
  | shutdown => rfl
  | capture f => exact mode_deliver c w f
  | pull n => exact mode_pull w n
  | device ch => rfl
  | conn f => rfl
  | peer f => rfl

/-! ### Steps that reset the mode -/

section Capture

variable (c : Upload.Connector ω)

/-- A capture start ends by marking the capture running under Capturing, if its sink started:
whatever the sink's start kept of the mode, the start resets. -/
lemma resets_started {w w₁ : World τ ω} {r : Except Error Unit × World τ ω} (h₁ : w₁.mode = w.mode)
    (hr : r.2.mode = w₁.mode) :
    Resets w (match r with
      | (Except.error e, w) => (Except.error e, w)
      | (Except.ok (), w) => (Except.ok (), { w with capturing := true }.share fun sh =>
          (sh.publish .capturing none).emitActivity .captureStarted)).2 :=
  started_of (P := Resets w) (fun _ _ => .inr (.inl rfl)) (.of_mode (hr.trans h₁))

/-- A capture start shows what was shown, or, once its sink started, a capture under
Capturing. -/
lemma resets_startCapture (m : CaptureMode) (w : World τ ω) : Resets w (startCapture c m w).2 := by
  unfold startCapture
  split
  · exact .refl w
  have hclear : (w.share fun sh => { sh with capture := sh.capture.clear }).mode = w.mode := rfl
  -- every mode starts its sink by a step that keeps the mode
  cases m with
  | record => exact resets_started hclear (mode_attach c .record _)
  | relay => exact resets_started hclear (mode_attach c .relay _)
  | stream token => exact resets_started hclear (mode_startStream c token _)

/-- A capture stop leaves no capture under Connected, or changes nothing when none ran. -/
lemma resets_stopCapture (w : World τ ω) : Resets w (stopCapture c w).2 := by
  unfold stopCapture
  split
  · exact .refl w
  · exact .inr (.inr (mode_pump c _))

lemma resets_carryOut (rs : List Request) (w : World τ ω) : Resets w (carryOut c rs w).2 := by
  induction rs generalizing w with
  | nil => exact .refl w
  | cons r rs ih =>
    cases r with
    | startCapture m k => exact (resets_startCapture c m w).trans ((Resets.of_mode rfl).trans (ih _))
    | stopCapture k => exact (resets_stopCapture c w).trans ((Resets.of_mode rfl).trans (ih _))
    | playClip a => exact (Resets.of_mode (mode_play w a)).trans (ih _)
    | stopPlayback => exact (Resets.of_mode (mode_stopPlayback w)).trans (ih _)
    | disconnect => exact .of_mode rfl

lemma resets_drain (w : World τ ω) : Resets w (drain c w).2 :=
  (Resets.of_mode rfl).trans (resets_carryOut c _ _)

lemma resets_teardown (w : World τ ω) : Resets w (w.teardown link c) := by
  have hstop : Resets w (if w.capturing then (stopCapture c w).2 else w) := by
    split
    · exact resets_stopCapture c w
    · exact .refl w
  exact hstop.trans (.of_mode ((mode_stopPlayback _).trans (mode_reap c true _)))

end Capture

end World

namespace Pace

variable {τ ω : Type} (link : Link τ) (c : Upload.Connector ω)

/-- The open has been handled, or is being handled: its check for waiting messages comes
next. -/
def heard (p : Pace τ ω) : Bool :=
  p.opened || match p.pc with
    | .rearm opening _ _ => opening
    | _ => false

/-- Capturing is never shown without a capture; from the handling of the open on, the status
is Connected or Capturing. -/
structure Shows (p : Pace τ ω) : Prop where
  honest : p.world.Honest
  live : p.heard = true → p.world.Live

variable {p : Pace τ ω}

/-- Handling an open shows Connected over whatever capture runs. -/
lemma advance_open {es : List LinkEvent} {closed : Bool} (hpc : p.pc = .handle (.connected :: es) closed)
    (answer : Except Error (List LinkEvent)) :
    (p.advance link c answer).world.mode = (p.world.capturing, .connected) := by
  simp [advance, hpc, onEvent, World.mode, Shared.publish, World.share]

/-- **Every other step of the loop resets the mode.** -/
lemma advance_resets (hpc : ∀ es closed, p.pc ≠ .handle (.connected :: es) closed)
    (answer : Except Error (List LinkEvent)) : World.Resets p.world (p.advance link c answer).world := by
  rcases hq : p.pc with _ | _ | _ | _ | _ | ⟨es, closed⟩ | ⟨opening, es, closed⟩ | _ | _
  all_goals simp only [advance, hq]
  · split <;> exact .refl _
  · exact World.resets_drain c p.world
  · exact .of_mode (World.mode_reap c false p.world)
  · exact .of_mode (World.mode_wantWrite link p.world)
  · cases answer <;> exact .refl _
  · cases es with
    | nil => exact .refl _
    | cons e es =>
      cases e with
      | connected => exact absurd hq (hpc es closed)
      | writable => exact .of_mode (World.mode_takeSlot link p.world)
      | received i =>
        cases i with
        | text t => exact .of_mode rfl
        | binary d => exact .of_mode (World.mode_play p.world d)
      | closed => exact .refl _
  · exact .of_mode (World.mode_rearm link p.world)
  · exact World.resets_teardown link c p.world
  · exact .refl _

/-- The open is heard only by the step that handles it, and stays heard. -/
lemma heard_advance (answer : Except Error (List LinkEvent)) (h : (p.advance link c answer).heard = true) :
    p.heard = true ∨ ∃ es closed, p.pc = .handle (.connected :: es) closed := by
  rcases hq : p.pc with _ | _ | _ | _ | _ | ⟨_ | ⟨e, es⟩, closed⟩ | ⟨opening, es, closed⟩ | _ | _
  case handle.cons =>
    cases e with
    | connected => exact .inr ⟨es, closed, rfl⟩
    | received i => left; cases i <;> simpa [advance, hq, onEvent, heard] using h
    | _ => left; simpa [advance, hq, onEvent, heard] using h
  -- every other step moves to a point other than the check after an open, and keeps the flag
  -- of the open, except the check itself, which raises it
  all_goals
    left
    simp only [advance, hq] at h
    first
      | split at h <;> simpa [heard, hq] using h
      | simpa [heard, hq] using h

/-- Other threads never change the mode. -/
lemma thread_mode {p' : Pace τ ω} (hs : ThreadStep c p p') : p'.world.mode = p.world.mode := by
  cases hs with
  | push m => simp [World.mode]
  | note r i => cases r <;> rfl
  | shutdown => rfl
  | act a hq hf => exact World.mode_act c a p.world

/-! ### Along a run -/

/-- **Every step of the loop keeps what the status shows.** The open shows Connected, which
is honest and live whatever runs; every other step resets the mode. -/
lemma shows_advance (h : p.Shows) (answer : Except Error (List LinkEvent)) :
    (p.advance link c answer).Shows := by
  by_cases hopen : ∃ es closed, p.pc = .handle (.connected :: es) closed
  · obtain ⟨es, closed, hpc⟩ := hopen
    have hst : (p.advance link c answer).world.shared.status = .connected :=
      congrArg Prod.snd (advance_open link c hpc answer)
    exact ⟨fun hcap => by simp [hst] at hcap, fun _ => .inl hst⟩
  · have hr := advance_resets link c (fun es closed hpc => hopen ⟨es, closed, hpc⟩) answer
    refine ⟨hr.honest h.honest, fun hheard => ?_⟩
    rcases heard_advance link c answer hheard with hheard | hpc
    · exact hr.live (h.live hheard)
    · exact absurd hpc hopen

/-- **Every step of another thread keeps what the status shows.** -/
lemma shows_thread {p' : Pace τ ω} (hs : ThreadStep c p p') (h : p.Shows) : p'.Shows := by
  have hr : World.Resets p.world p'.world := .of_mode (thread_mode c hs)
  have hheard : p'.heard = p.heard := by cases hs <;> rfl
  exact ⟨hr.honest h.honest, fun hh => hr.live (h.live (hheard ▸ hh))⟩

lemma shows_of_reach {p p' : Pace τ ω} (h : Relation.ReflTransGen (Step link c) p p') (hp : p.Shows) :
    p'.Shows :=
  Step.induct (fun _ a hq => shows_advance link c hq a) (fun _ _ hs hq => shows_thread c hs hq) h hp

/-- A step of the loop stops the status telling the capture exactly when it handles an open
while a capture runs. -/
lemma showsCapture_advance (h : p.world.ShowsCapture) (answer : Except Error (List LinkEvent)) :
    ¬ (p.advance link c answer).world.ShowsCapture ↔
      p.world.capturing = true ∧ ∃ es closed, p.pc = .handle (.connected :: es) closed := by
  by_cases hopen : ∃ es closed, p.pc = .handle (.connected :: es) closed
  · obtain ⟨es, closed, hpc⟩ := hopen
    -- Connected tells the capture truly exactly when none runs
    have hlaw : (p.advance link c answer).world.ShowsCapture ↔ p.world.capturing = false := by
      show ((p.advance link c answer).world.mode.2 = .capturing ↔ (p.advance link c answer).world.mode.1 = true) ↔ _
      rw [advance_open link c hpc answer]
      simp
    rw [hlaw]
    simp [hpc]
  · have hr := advance_resets link c (fun es closed hpc => hopen ⟨es, closed, hpc⟩) answer
    simp only [hopen, and_false, iff_false, not_not]
    exact hr.showsCapture h

end Pace

variable {τ ω : Type}

/-- **Capturing is shown only over a capture, Connected over none, and an open handled while
a capture runs is what parts the status from the capture.** Take any run of the loop
interleaved with other threads, from a client that does not show Capturing without a capture.
All along it, Capturing is never shown without a capture running; once the open has been
handled, a client with no capture running shows Connected. Whether the status shows Capturing
exactly while a capture runs is changed by no other thread, and by a step of the loop, where it
held, exactly when that step handles an open while a capture runs: the open shows Connected
over the capture. -/
theorem status_follows_capture_except_open (link : Link τ) (c : Upload.Connector ω) (w : World τ ω)
    (calls : List Call) (hw : w.shared.status = .capturing → w.capturing = true) {p : Pace τ ω}
    (h : Relation.ReflTransGen (Pace.Step link c) (Pace.start w calls) p) :
    (p.world.shared.status = .capturing → p.world.capturing = true) ∧
    (p.opened = true → p.world.capturing = false → p.world.shared.status = .connected) ∧
    (∀ p', Pace.ThreadStep c p p' → (p'.world.ShowsCapture ↔ p.world.ShowsCapture)) ∧
    (∀ answer, p.world.ShowsCapture →
      (¬ (p.advance link c answer).world.ShowsCapture ↔
        p.world.capturing = true ∧ ∃ es closed, p.pc = .handle (.connected :: es) closed)) := by
  have hs : p.Shows := Pace.shows_of_reach link c h ⟨hw, fun hh => by simp [Pace.start, Pace.heard] at hh⟩
  refine ⟨hs.honest, fun hop hcap => ?_, fun p' ht => ?_, fun answer hlaw => Pace.showsCapture_advance link c hlaw answer⟩
  · -- with no capture running, the live status is not Capturing
    rcases hs.live (by simp [Pace.heard, hop]) with hst | hst
    · exact hst
    · simp [hs.honest hst] at hcap
  · have hmode := Pace.thread_mode c ht
    exact ⟨(World.Resets.of_mode hmode.symm).showsCapture, (World.Resets.of_mode hmode).showsCapture⟩

/-- A client about to serve its connection: it runs and is connecting, with nothing queued and
no capture. -/
def connectingClient : World Unit Upload.Scripted :=
  { shared := { config := {}, queue := Dispatch.Queue.create 1, capture := Buffer.Capture.create 0,
                running := true, status := .connecting },
    device := {}, conn := (), peer := {} }

/-- A run in which the open is handled, a caller then asks for a recording, and the connection
reports the open again at the next service call. -/
def reopenedRecording : Pace Unit Upload.Scripted :=
  let c := Upload.Scripted.connector ""
  let opened := Pace.advanceAll quietLink c
    (List.replicate 4 (.ok []) ++ .ok [.connected] :: List.replicate 2 (.ok [])) (Pace.start connectingClient [])
  let asked : Pace Unit Upload.Scripted :=
    { opened with world := ((Act.command (.startCapture .record 0)).run c opened.world).2 }
  Pace.advanceAll quietLink c (List.replicate 5 (.ok []) ++ .ok [.connected] :: List.replicate 2 (.ok [])) asked

lemma reach_reopenedRecording :
    Relation.ReflTransGen (Pace.Step quietLink (Upload.Scripted.connector "")) (Pace.start connectingClient [])
      reopenedRecording := by
  refine (Pace.reach_advanceAll _ _ _ _).trans (.head (.thread (.act _ _ rfl rfl)) (Pace.reach_advanceAll _ _ _ _))

theorem recording_status_through_reopen :
    (connectingClient.shared.status = .capturing → connectingClient.capturing = true) ∧
    Relation.ReflTransGen (Pace.Step quietLink (Upload.Scripted.connector "")) (Pace.start connectingClient [])
      reopenedRecording ∧
    (reopenedRecording.world.shared.status = .capturing → reopenedRecording.world.capturing = true) ∧
    (reopenedRecording.opened = true → reopenedRecording.world.capturing = false →
      reopenedRecording.world.shared.status = .connected) ∧
    (∀ p', Pace.ThreadStep (Upload.Scripted.connector "") reopenedRecording p' →
      (p'.world.ShowsCapture ↔ reopenedRecording.world.ShowsCapture)) ∧
    (∀ answer, reopenedRecording.world.ShowsCapture →
      (¬ (reopenedRecording.advance quietLink (Upload.Scripted.connector "") answer).world.ShowsCapture ↔
        reopenedRecording.world.capturing = true ∧
          ∃ es closed, reopenedRecording.pc = .handle (.connected :: es) closed)) :=
  ⟨by decide, reach_reopenedRecording, status_follows_capture_except_open quietLink (Upload.Scripted.connector "")
    connectingClient [] (by decide) reach_reopenedRecording⟩

/-- After the open has been handled and while the loop still runs its turns, a recording runs
under Connected: the second open overwrote Capturing. -/
theorem reopen_shows_connected_over_recording :
    Relation.ReflTransGen (Pace.Step quietLink (Upload.Scripted.connector "")) (Pace.start connectingClient [])
      reopenedRecording ∧
    reopenedRecording.opened = true ∧ reopenedRecording.pc = .handle [] false ∧
    reopenedRecording.world.capturing = true ∧ reopenedRecording.world.shared.status = .connected :=
  ⟨reach_reopenedRecording, by decide, by decide, by decide, by decide⟩

end Talkback.Client
