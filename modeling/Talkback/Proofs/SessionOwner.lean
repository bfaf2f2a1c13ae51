import Talkback.Proofs.Interleaved
import Talkback.Proofs.UploadLedger

/-!
The upload session always has exactly one owner.

A client's loop starts with its upload session in hand. A streaming capture lends it to an
upload thread, and the loop takes it back once the thread has returned it. Along any
interleaving of the loop's steps with other threads (`Pace.Step`), and as long as no network
operation stops the upload thread, the session is in exactly one place: in the loop's hand and
idle, or with an upload thread still at work or returned and waiting to be joined. That is the
`Holding` of the ledger of uploads (`World.Reported`), which every step of the loop and of the
other threads keeps. So a streaming start never finds the session missing or in use: it takes
it idle, and its request opens or fails on the network, never with `sessionActive`.
-/

namespace Talkback.Client

open Upload (Session)
open Transport (LinkEvent)
open World (Reported Quiet Holding)

variable {τ ω : Type}

namespace World

variable (link : Link τ)

lemma quiet_takeSlot (w : World τ ω) : Quiet w (takeSlot link w) := by
  rcases hd : w.shared.queue.dequeue with ⟨_ | m, q⟩
  · simp only [takeSlot, hd]
    exact .of_view rfl rfl
  · simp only [takeSlot, hd]
    split <;> exact .of_view rfl rfl

lemma quiet_rearm (w : World τ ω) : Quiet w (rearm link w) := by
  unfold rearm
  split <;> exact .of_view rfl rfl

/-- An opening that the network can refuse, never one that finds a request open. -/
lemma init_ne_sessionActive {c : Upload.Connector ω} {s : Session} (h : s.phase = .idle) (token : String)
    (p : ω) : (s.init c token p).1 ≠ .error .sessionActive := by
  have hact : s.isActive = false := Session.isActive_eq_false.2 h
  simp only [Session.init, hact, Bool.false_eq_true, if_false]
  split
  · simp
  · split <;> simp

/-- A device refuses to capture for its own reasons, never because a request is open. -/
lemma startCapture_device_ne_sessionActive {d : Device} {e : Error} (h : d.startCapture = .error e) :
    e ≠ .sessionActive := by
  unfold Device.startCapture at h
  split at h
  · cases h; simp
  · cases h; simp
  · cases h

/-- With `n` requests ended and no thread at work, a stream's start takes the idle session in
hand: the device may refuse, and otherwise the request opens or fails on the network. -/
lemma startStream_ne_sessionActive (c : Upload.Connector ω) {w : World τ ω} {n : Nat} (hh : Holding w n)
    (hthread : ∀ k, w.worker = some k → k.stage ≠ .working) (token : String) :
    (startStream c token w).1 ≠ .error .sessionActive := by
  obtain ⟨s, hidle, -, hreap⟩ := reap_of_holding c hh hthread
  simp only [startStream, hreap]
  split
  · next e wa heq => simpa using startCapture_device_ne_sessionActive (attach_error c heq).1
  · next wa _ =>
    split
    · next e s' p' heq =>
      have hinit := init_ne_sessionActive (c := c) hidle token wa.peer
      rw [heq] at hinit
      simpa using hinit
    · simp

/-- With `n` requests ended and a thread at work only while capture runs, a streaming start
never answers `sessionActive`. -/
lemma startCapture_stream_ne_sessionActive (c : Upload.Connector ω) {w : World τ ω} {n : Nat}
    (hh : Holding w n) (hbusy : ∀ k, w.worker = some k → k.stage = .working → w.capturing = true)
    (token : String) : (startCapture c (.stream token) w).1 ≠ .error .sessionActive := by
  unfold startCapture
  split
  · simp
  next hcap =>
    have hthread : ∀ k, w.worker = some k → k.stage ≠ .working := fun k hk hs => hcap (hbusy k hk hs)
    have hs := startStream_ne_sessionActive c (w := w.share fun sh => { sh with capture := sh.capture.clear })
      (hh.of_eq rfl rfl rfl) hthread token
    -- the start answers as the stream's start does
    dsimp only
    rcases hr : startStream c token (w.share fun sh => { sh with capture := sh.capture.clear }) with ⟨_ | u, w'⟩
    · simpa [hr] using hs
    · simp

end World

namespace Pace

variable (link : Link τ) (c : Upload.Connector ω) {events₀ : List UploadEvent} {q₀ : Nat}

/-- Each step of the loop keeps the ledger of uploads: the session moves only through the
control requests it carries out, the taking back of a returned session, and the teardown. -/
lemma reported_advance (hhalts : ∀ p, c.halts p = 0) {p : Pace τ ω} (h : Reported events₀ q₀ p.world)
    (answer : Except Error (List LinkEvent)) : Reported events₀ q₀ (p.advance link c answer).world := by
  unfold advance
  split
  · split <;> exact h
  · exact World.reported_drain c hhalts h
  · exact World.reported_reap c h false
  · exact h.quiet (World.quiet_wantWrite link _)
  · split <;> exact h
  · exact h
  · next e es closed _ =>
    -- an event touches neither the session nor the thread
    cases e with
    | connected => exact h.quiet (.of_view rfl rfl)
    | writable => exact h.quiet (World.quiet_takeSlot link _)
    | received m =>
      cases m with
      | text t => exact h.quiet ⟨rfl, Nat.le_succ _⟩
      | binary d => exact h.quiet (World.quiet_play _ d)
    | closed => exact h
  · exact h.quiet (World.quiet_rearm link _)
  · obtain ⟨n, new, -, hl, -⟩ := World.teardown_ledger c hhalts link h
    exact ⟨n, new, hl⟩
  · exact h

/-- Each step of another thread keeps the ledger of uploads: only a captured frame reaches the
upload thread. -/
lemma reported_thread (hhalts : ∀ p, c.halts p = 0) {p p' : Pace τ ω} (hs : ThreadStep c p p')
    (h : Reported events₀ q₀ p.world) : Reported events₀ q₀ p'.world := by
  cases hs with
  | push m =>
    refine h.quiet ?_
    simp only [Shared.push]
    split <;> exact .of_view rfl rfl
  | note r i =>
    refine h.quiet ?_
    rcases r with _ | ⟨⟩ <;> exact .of_view rfl rfl
  | shutdown => exact h.quiet (.of_view rfl rfl)
  | act a hq hf => exact World.reported_act c hhalts a h

end Pace

end Talkback.Client
