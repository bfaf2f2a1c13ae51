import Talkback.Proofs.AudioBooks
import Talkback.Proofs.Teardown

/-!
Control requests are taken once each, in the order they were handed over, by the run they were
handed to.

Callers hand the loop control requests while it runs; at each turn the loop takes those waiting
and carries them out one after another, until a disconnect, which leaves the rest waiting and
ends the run (`carryOut_of_no_disconnect`, `carryOut_disconnect`). Over a run, the requests the
loop took, followed by those still waiting, are those it was handed, in order, and the callers
answered are those of the capture requests taken, in the order taken (`Orders`). A run that ends
because the connection closed, its service failed or the client was shut down leaves what was
handed since its last turn waiting: nothing takes it then, and the next loop to begin drops it,
telling each capture caller that no loop runs.
-/

namespace Talkback.Client

open Transport (LinkEvent)

/-- The caller waiting for the answer to a control request, if it has one. -/
def Request.caller : Request → Option Nat
  | .startCapture _ k | .stopCapture k => some k
  | _ => none

namespace World

variable {τ ω : Type} (c : Upload.Connector ω)

/-- Carry out a control request that is not a disconnect: capture requests answer their caller
with the outcome, clips are played, and playback is stopped. -/
def perform (w : World τ ω) : Request → World τ ω
  | .startCapture m k => let (r, w) := startCapture c m w; w.answer k (.started r)
  | .stopCapture k => let (r, w) := stopCapture c w; w.answer k (.stopped r)
  | .playClip a => w.play a
  | .stopPlayback => w.stopPlayback
  | .disconnect => w

lemma carryOut_cons {r : Request} (hr : r ≠ .disconnect) (rs : List Request) (w : World τ ω) :
    carryOut c (r :: rs) w = carryOut c rs (perform c w r) := by
  cases r with
  | disconnect => exact absurd rfl hr
  | _ => rfl

/-- **Requests are carried out in order.** Requests with no disconnect among them are carried
out one after another. -/
lemma carryOut_of_no_disconnect (rs : List Request) (h : .disconnect ∉ rs) (w : World τ ω) :
    carryOut c rs w = (true, rs.foldl (perform c) w) := by
  induction rs generalizing w with
  | nil => rfl
  | cons r rs ih =>
    have hr : r ≠ .disconnect := fun e => h (e ▸ List.mem_cons_self ..)
    rw [carryOut_cons c hr, ih (fun e => h (List.mem_cons_of_mem _ e)), List.foldl_cons]

/-- A disconnect ends the taking: the requests before it are carried out, those after it are
left waiting, in front of any handed over meanwhile. -/
lemma carryOut_disconnect (pre post : List Request) (h : .disconnect ∉ pre) (w : World τ ω) :
    carryOut c (pre ++ .disconnect :: post) w =
      (false, (pre.foldl (perform c) w).share fun sh => { sh with requests := post ++ sh.requests }) := by
  induction pre generalizing w with
  | nil => rfl
  | cons r pre ih =>
    have hr : r ≠ .disconnect := fun e => h (e ▸ List.mem_cons_self ..)
    rw [List.cons_append, carryOut_cons c hr, ih (fun e => h (List.mem_cons_of_mem _ e)), List.foldl_cons]

/-! ### Steps that take no request and answer no caller -/

/-- The control requests waiting and the answers given. -/
def orders (w : World τ ω) : List Request × List (Nat × Answer) := (w.shared.requests, w.shared.answers)

lemma orders_giveUp (w : World τ ω) (k : Worker) (halts : Nat) (s : Upload.Session) (p : ω)
    (e : Error) : (giveUp c w k halts s p e).orders = w.orders := by
  unfold giveUp
  split <;> rfl

lemma orders_pumpBy (n : Nat) (w : World τ ω) : (pumpBy c n w).orders = w.orders := by
  fun_induction pumpBy c n w with
  | case3 => rename_i ih; exact ih
  | case4 => exact orders_giveUp ..
  | case7 => exact orders_giveUp ..
  | _ => rfl

lemma orders_pump (w : World τ ω) : (pump c w).orders = w.orders := orders_pumpBy c _ w

lemma orders_reap (wait : Bool) (w : World τ ω) : (reap c wait w).orders = w.orders := by
  have hw : (if wait then pump c w else w).orders = w.orders := by
    split
    · exact orders_pump c w
    · rfl
  simp only [reap]
  split <;> exact hw

lemma orders_offer (w : World τ ω) (frame : List UInt8) : (offer c w frame).orders = w.orders := by
  unfold offer
  split
  · split
    · rfl
    · split
      · exact orders_pump c _
      · rfl
  · rfl

lemma orders_enqueue (w : World τ ω) (m : Dispatch.Message) :
    (w.share fun sh => (sh.enqueue m).2).orders = w.orders := by
  simp only [share, Shared.enqueue]
  split <;> rfl

lemma orders_feed (s : Sink) (w : World τ ω) (frame : List UInt8) :
    (feed c s w frame).orders = w.orders := by
  have hrecord : (feed c .record w frame).orders = w.orders := by
    simp only [feed]
    split <;> rfl
  cases s with
  | record => exact hrecord
  | stream => exact (orders_offer c _ frame).trans hrecord
  | relay => exact orders_enqueue w (.binary frame)

lemma orders_foldl_feed (s : Sink) (frames : List (List UInt8)) (w : World τ ω) :
    (frames.foldl (feed c s) w).orders = w.orders := by
  induction frames generalizing w with
  | nil => rfl
  | cons f fs ih => exact (ih _).trans (orders_feed c s w f)

lemma orders_attach (s : Sink) (w : World τ ω) : (attach c s w).2.orders = w.orders := by
  unfold attach
  split
  · rfl
  · exact orders_foldl_feed c s _ w

lemma orders_of_pair {α : Type} {f : World τ ω → α × World τ ω} (hf : ∀ w, (f w).2.orders = w.orders)
    {w w' : World τ ω} {r : α} (h : f w = (r, w')) : w'.orders = w.orders := by
  simpa [h] using hf w

lemma orders_startStream (token : String) (w : World τ ω) :
    (startStream c token w).2.orders = w.orders := by
  have hreap := orders_reap c true w
  simp only [startStream]
  split
  · exact hreap
  · split
    · next _ _ w₂ heq =>
      exact (orders_of_pair (orders_attach c .stream) heq).trans hreap
    · next _ w₂ heq =>
      have hattach := (orders_of_pair (orders_attach c .stream) heq).trans hreap
      split
      · exact hattach
      · exact (orders_pump c _).trans hattach

lemma orders_startCapture (mode : CaptureMode) (w : World τ ω) :
    (startCapture c mode w).2.orders = w.orders := by
  unfold startCapture
  split
  · rfl
  -- whatever starts the sink, marking the capture started touches no request
  have hmark : ∀ u : World τ ω, u.orders = w.orders →
      ({ u with capturing := true }.share fun sh =>
        (sh.publish .capturing none).emitActivity .captureStarted).orders = w.orders := fun _ h => h
  cases mode with
  | record => exact started_of (P := fun u => u.orders = w.orders) hmark (orders_attach c .record _)
  | relay => exact started_of (P := fun u => u.orders = w.orders) hmark (orders_attach c .relay _)
  | stream token => exact started_of (P := fun u => u.orders = w.orders) hmark (orders_startStream c token _)

lemma orders_stopCapture (w : World τ ω) : (stopCapture c w).2.orders = w.orders := by
  unfold stopCapture
  split
  · rfl
  · exact orders_pump c _

lemma orders_deliver (w : World τ ω) (frame : List UInt8) : (w.deliver c frame).2.orders = w.orders := by
  unfold deliver
  split
  · exact orders_feed c _ w frame
  · rfl

variable {w w₁ : World τ ω} {pb : Playback} {d : List UInt8}

lemma orders_ensurePlayback (w : World τ ω) : w.ensurePlayback.2.orders = w.orders := by
  cases hpb : w.playback with
  | some pb => rw [ensurePlayback_of_open (by simp [hpb])]
  | none =>
    rw [ensurePlayback_of_closed hpb]
    split <;> rfl

lemma orders_play_of_open (hpb : w.playback = some pb) : (w.play d).orders = w.orders := by
  by_cases hs : w.samples d = []
  · rw [play_of_samples_nil hs]
  cases hr : pb.ring with
  | some r => rw [play_of_ring hpb hr hs]; rfl
  | none =>
    rcases hw : w.device.writePlayback (w.samples d) with ⟨dev, _ | ⟨⟩⟩
    · rw [play_of_unwritten hpb hr hs hw]; rfl
    · rw [play_of_written hpb hr hs hw]; rfl

lemma orders_play (w : World τ ω) (d : List UInt8) : (w.play d).orders = w.orders := by
  cases hpb : w.playback with
  | some pb => exact orders_play_of_open hpb
  | none =>
    by_cases hs : w.samples d = []
    · rw [play_of_samples_nil hs]
    -- playback opens for the audio, or the audio is dropped
    have h := orders_ensurePlayback w
    rcases he : w.ensurePlayback with ⟨_ | ⟨⟩, w₁⟩
    · rw [he] at h
      rw [play_of_unopened hs he]
      exact h
    · rw [he] at h
      obtain ⟨pb₁, hpb₁⟩ := Option.isSome_iff_exists.1 (isSome_of_ensurePlayback he)
      rw [play_of_opened hs he, orders_play_of_open hpb₁, h]

lemma orders_stopPlayback (w : World τ ω) : w.stopPlayback.orders = w.orders := by
  unfold stopPlayback
  split <;> rfl

lemma orders_pull (w : World τ ω) (n : Nat) : (w.pull n).2.orders = w.orders := by
  unfold pull
  split
  · rfl
  · split
    · split
      · rfl
      · split <;> rfl
    · rfl

section Connection

variable (link : Link τ)

lemma orders_wantWrite (w : World τ ω) : (wantWrite link w).orders = w.orders := by
  unfold wantWrite
  split <;> rfl

lemma orders_onConnected (w : World τ ω) : (onConnected link w).orders = w.orders := by
  simp only [onConnected]
  split <;> rfl

lemma orders_onWritable (w : World τ ω) : (onWritable link w).orders = w.orders := by
  rcases hq : w.shared.queue.dequeue with ⟨m, q⟩
  simp only [onWritable, hq]
  cases m with
  | none =>
    dsimp only
    split <;> rfl
  | some m =>
    dsimp only
    split
    · split <;> rfl
    · split <;> rfl

lemma orders_handle (es : List LinkEvent) (w : World τ ω) : (handle link es w).2.orders = w.orders := by
  induction es generalizing w with
  | nil => rfl
  | cons ev es ih =>
    -- the first event is one step; the rest of the batch is handled from where it leaves off
    obtain ⟨w₁, hw₁, h₁⟩ : ∃ w₁, (handle link (ev :: es) w).2 = (handle link es w₁).2 ∧ w₁.orders = w.orders := by
      cases ev with
      | connected => exact ⟨_, rfl, orders_onConnected link w⟩
      | writable => exact ⟨_, rfl, orders_onWritable link w⟩
      | received m =>
        cases m with
        | text t => exact ⟨_, rfl, rfl⟩
        | binary d => exact ⟨_, rfl, orders_play w d⟩
      | closed => exact ⟨_, rfl, rfl⟩
    rw [hw₁, ih w₁, h₁]

lemma orders_teardown (w : World τ ω) : (w.teardown link c).orders = w.orders := by
  have hcap : (if w.capturing then (stopCapture c w).2 else w).orders = w.orders := by
    split
    · exact orders_stopCapture c w
    · rfl
  exact (orders_stopPlayback _).trans ((orders_reap c true _).trans hcap)

end Connection

/-! ### Taking requests -/

/-- Carrying out a request takes no other request and answers its caller, if it has one. -/
lemma orders_perform (r : Request) (w : World τ ω) :
    (perform c w r).shared.requests = w.shared.requests ∧
      (perform c w r).shared.answers.map Prod.fst = w.shared.answers.map Prod.fst ++ r.caller.toList := by
  -- what carrying a request out leaves alone, besides the answer it gives
  have aside : ∀ {u : World τ ω}, u.orders = w.orders → u.shared.requests = w.shared.requests ∧
      u.shared.answers.map Prod.fst = w.shared.answers.map Prod.fst := by
    intro u h
    simp only [orders, Prod.mk.injEq] at h
    rw [h.1, h.2]
    exact ⟨rfl, rfl⟩
  cases r with
  | startCapture m k =>
    rcases hs : startCapture c m w with ⟨res, w₁⟩
    obtain ⟨hreq, hans⟩ := aside (orders_of_pair (orders_startCapture c m) hs)
    simp [perform, hs, answer, share, hreq, hans, Request.caller]
  | stopCapture k =>
    rcases hs : stopCapture c w with ⟨res, w₁⟩
    obtain ⟨hreq, hans⟩ := aside (orders_of_pair (fun w => orders_stopCapture c w) hs)
    simp [perform, hs, answer, share, hreq, hans, Request.caller]
  | playClip a => simpa [perform, Request.caller] using aside (orders_play w a)
  | stopPlayback => simpa [perform, Request.caller] using aside (orders_stopPlayback w)
  | disconnect => simp [perform, Request.caller]

/-- **Taking requests answers their callers in order.** The requests taken come first among
those given, before those left waiting; the callers answered are those of the capture requests
among them, in the order taken. -/
lemma orders_carryOut (rs : List Request) (w : World τ ω) :
    ∃ taken, taken ++ (carryOut c rs w).2.shared.requests = rs ++ w.shared.requests ∧
      (carryOut c rs w).2.shared.answers.map Prod.fst =
        w.shared.answers.map Prod.fst ++ taken.filterMap Request.caller := by
  induction rs generalizing w with
  | nil => exact ⟨[], rfl, by simp [carryOut]⟩
  | cons r rs ih =>
    by_cases hr : r = .disconnect
    · -- the rest is left waiting, in front of what was waiting
      subst hr
      exact ⟨[.disconnect], rfl, by simp [carryOut, share, Request.caller]⟩
    · obtain ⟨taken, hreq, hans⟩ := ih (perform c w r)
      obtain ⟨hreq₁, hans₁⟩ := orders_perform c r w
      refine ⟨r :: taken, ?_, ?_⟩
      · rw [carryOut_cons c hr, List.cons_append, hreq, hreq₁, List.cons_append]
      · rw [carryOut_cons c hr, hans, hans₁, List.append_assoc]
        cases hc : r.caller <;> simp [hc]

/-- Taking the requests waiting answers the callers of the capture requests taken; the others
wait. -/
lemma orders_drain (w : World τ ω) :
    ∃ taken, taken ++ (w.drain c).2.shared.requests = w.shared.requests ∧
      (w.drain c).2.shared.answers.map Prod.fst =
        w.shared.answers.map Prod.fst ++ taken.filterMap Request.caller := by
  obtain ⟨taken, hreq, hans⟩ := orders_carryOut c w.shared.requests (w.share fun sh => { sh with requests := [] })
  exact ⟨taken, by simpa [drain, share] using hreq, by simpa [drain, share] using hans⟩

/-- Another thread's action answers no caller; a command the client takes joins the requests
waiting. -/
lemma orders_act (a : Act τ ω) (w : World τ ω) :
    (a.run c w).2.shared.requests = w.shared.requests ++ Entry.requests [.act a (a.run c w).1] ∧
      (a.run c w).2.shared.answers = w.shared.answers := by
  -- every action but a command leaves the requests and answers alone and hands the loop nothing
  have aside : (a.run c w).2.orders = w.orders → Entry.requests [.act a (a.run c w).1] = [] →
      (a.run c w).2.shared.requests = w.shared.requests ++ Entry.requests [.act a (a.run c w).1] ∧
        (a.run c w).2.shared.answers = w.shared.answers := by
    intro h hr
    simp only [orders, Prod.mk.injEq] at h
    exact ⟨by rw [hr, List.append_nil, h.1], h.2⟩
  cases a with
  | command r =>
    simp only [Act.run, Shared.command]
    split
    · exact ⟨rfl, rfl⟩
    · exact ⟨by simp [Entry.requests, Entry.request, Outcome.ofExcept], rfl⟩
  | sendText t => exact aside (orders_enqueue w (.text t)) rfl
  | sendBinary d => exact aside (orders_enqueue w (.binary d)) rfl
  | shutdown => exact aside rfl rfl
  | capture f => exact aside (orders_deliver c w f) rfl
  | pull n => exact aside (orders_pull w n) rfl
  | device ch => exact aside rfl rfl
  | conn f => exact aside rfl rfl
  | peer f => exact aside rfl rfl

end World

/-! ### Runs -/

section Run

variable {τ ω ε : Type}

/-- The control requests of a run from `w₀`, `log` being what the threads around the loop did so
far: the requests the loop took, followed by those waiting, are those it was handed, and the
callers answered since `w₀` are those of the capture requests taken, in the order taken. -/
def Orders (w₀ : World τ ω) (log : List (Entry τ ω)) (w : World τ ω) : Prop :=
  ∃ taken, taken ++ w.shared.requests = w₀.shared.requests ++ Entry.requests log ∧
    w.shared.answers.map Prod.fst = w₀.shared.answers.map Prod.fst ++ taken.filterMap Request.caller

namespace Orders

variable {w₀ w : World τ ω} {log : List (Entry τ ω)} (c : Upload.Connector ω)

lemma start (w₀ : World τ ω) : Orders w₀ [] w₀ := ⟨[], by simp, by simp⟩

/-- A step that takes no request and answers no caller keeps the orders. -/
lemma aside {w' : World τ ω} (h : Orders w₀ log w) (ho : w'.orders = w.orders) : Orders w₀ log w' := by
  simp only [World.orders, Prod.mk.injEq] at ho
  obtain ⟨taken, hreq, hans⟩ := h
  exact ⟨taken, by rw [ho.1, hreq], by rw [ho.2, hans]⟩

lemma drain (h : Orders w₀ log w) : Orders w₀ log (w.drain c).2 := by
  obtain ⟨taken, hreq, hans⟩ := h
  obtain ⟨taken', hreq', hans'⟩ := World.orders_drain c w
  exact ⟨taken ++ taken', by rw [List.append_assoc, hreq', hreq],
    by rw [hans', hans, List.filterMap_append, List.append_assoc]⟩

lemma act (a : Act τ ω) (h : Orders w₀ log w) : Orders w₀ (log ++ [.act a (a.run c w).1]) (a.run c w).2 := by
  obtain ⟨taken, hreq, hans⟩ := h
  obtain ⟨hreq', hans'⟩ := World.orders_act c a w
  exact ⟨taken, by rw [hreq', ← List.append_assoc, hreq, Entry.requests_append, List.append_assoc],
    by rw [hans', hans]⟩

lemma runActs (as : List (Act τ ω)) (h : Orders w₀ log w) :
    Orders w₀ (log ++ (runActs c as w).1) (runActs c as w).2 :=
  runActs_induct c (fun a _ _ h => h.act c a) as log w h

lemma handle (link : Link τ) (es : List LinkEvent) (h : Orders w₀ log w) :
    Orders w₀ (log ++ [.events es]) (World.handle link es w).2 := by
  obtain ⟨taken, hreq, hans⟩ := h.aside (World.orders_handle link es w)
  exact ⟨taken, by rw [Entry.requests_append, Entry.requests_events, List.append_nil, hreq], hans⟩

end Orders

/-- **The orders of a run.** Under any threads, a run of the loop keeps its orders from turn to
turn, to its end. -/
lemma serveBy_orders (link : Link τ) (c : Upload.Connector ω) (s : Script τ ω ε) (fuel : Nat) (e : ε)
    {w₀ w : World τ ω} {log : List (Entry τ ω)} (h : Orders w₀ log w) :
    Orders w₀ (serveBy link c (s.service c) fuel (e, log) w).1.2 (serveBy link c (s.service c) fuel (e, log) w).2 := by
  refine serveBy_induct link c (s.service c) (P := fun st w => Orders w₀ st.2 w)
    (Q := fun st w => Orders w₀ st.2 w) ?_ ?_ ?_ ?_ ?_ fuel (e, log) w h
  · intro st w h
    exact h.drain c
  · intro st w h
    exact h.aside ((World.orders_wantWrite link _).trans (World.orders_reap c false w))
  · rintro ⟨e, log⟩ w es ⟨e', log'⟩ w' h hsvc
    obtain ⟨rfl, rfl⟩ := service_ok c s hsvc
    exact (h.runActs c _).handle link es
  · rintro ⟨e, log⟩ w err ⟨e', log'⟩ w' h hsvc
    obtain ⟨rfl, rfl⟩ := service_error c s hsvc
    exact h.runActs c _
  · intro st w h
    exact h.aside (World.orders_teardown c link w)

end Run

/-- Threads that hand the loop a request to start recording while it waits, then close the
connection. -/
def detachedStart : Script Connection Upload.Scripted Nat where
  acts n _ := if n = 0 then [.command (.startCapture .record 0)] else []
  reply n _ := (.ok [.closed], n + 1)

end Talkback.Client
