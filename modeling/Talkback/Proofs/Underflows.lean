import Talkback.Proofs.Playback

/-!
Counting the gaps in pulled playback.

The device pulls a whole request at a time. The ring's try either hands over the bytes, and the
device plays them, or it does not, because the ring holds too few, the request is larger than
the ring or the ring is shut, and the device plays as much silence. Each pull remembers whether
it played audio, and only a pull of silence right after one of audio counts as an underflow
(`pull_step`). Other threads act on the ring between pulls in any order (`Tap.call`); none of
that touches the count, so over any run of a session the count is the number of changes from
audio to silence (`listen_underflows`).
-/

namespace Talkback

namespace Buffer.Ring

/-- What a try for `n` bytes hands over: the bytes when it succeeds, nothing otherwise. -/
def tryTake (r : Ring) (n : Nat) : Option (List UInt8) :=
  match turn (.tryGet n) r with
  | .finish (.ok (.filled true b)) _ _ => some b
  | _ => none

/-- The state a call's turn leaves the ring in; a call that has to wait changes nothing. -/
def after (c : Call) (r : Ring) : Ring :=
  match turn c r with
  | .finish _ r' _ => r'
  | .wait _ => r

end Buffer.Ring

namespace Client

open Buffer

/-- What happens around pull-mode playback: the device pulls `n` bytes, or some thread's call on
the ring takes its turn. -/
inductive Tap where
  | pull (n : Nat)
  | call (c : Ring.Call)
  deriving DecidableEq, Repr

/-- The pulls that play silence right after a pull that played audio; `playing` says whether the
pull before the first played audio. -/
def gaps : Bool → List Bool → Nat
  | _, [] => 0
  | playing, heard :: rest => (if playing && !heard then 1 else 0) + gaps heard rest

@[simp] lemma gaps_nil (playing : Bool) : gaps playing [] = 0 := rfl

@[simp] lemma gaps_cons (playing heard : Bool) (rest : List Bool) :
    gaps playing (heard :: rest) = (if playing && !heard then 1 else 0) + gaps heard rest := rfl

namespace World

variable {τ ω : Type}

/-- A thread's call on the playback ring takes its turn. -/
def callRing (c : Ring.Call) (w : World τ ω) : World τ ω :=
  { w with playback := w.playback.map fun pb => { pb with ring := pb.ring.map (Ring.after c) } }

/-- Whether the ring, as it stands in `w`, hands audio to a try for `n` bytes. -/
def hears (w : World τ ω) (n : Nat) : Bool :=
  ((w.playback.bind Playback.ring).bind fun r => r.tryTake n).isSome

/-- Take taps in order: for each pull, whether it played audio; and the world after. -/
def listen : List Tap → World τ ω → List Bool × World τ ω
  | [], w => ([], w)
  | .call c :: ts, w => listen ts (w.callRing c)
  | .pull n :: ts, w => (w.hears n :: (listen ts (w.pull n).2).1, (listen ts (w.pull n).2).2)

variable {w : World τ ω} {pb : Playback} {r : Ring}

/-- **One pull.** The device plays what the ring's try hands over, or as much silence; it then
plays audio exactly when the try handed some over, and a pull of silence right after one of
audio is counted once, in the session and in the counters. -/
lemma pull_step (hopen : w.device.pullOpen = true) (hpb : w.playback = some pb) (hr : pb.ring = some r)
    (n : Nat) :
    (w.pull n).1 = some ((r.tryTake n).getD (List.replicate n w.shared.config.format.silence)) ∧
      (w.pull n).2.device = w.device ∧
      ∃ pb' r', (w.pull n).2.playback = some pb' ∧ pb'.ring = some r' ∧
        pb'.playing = (r.tryTake n).isSome ∧
        pb'.underflows = pb.underflows + (if pb.playing && !(r.tryTake n).isSome then 1 else 0) ∧
        (w.pull n).2.shared.diag.playbackUnderflows = w.shared.diag.playbackUnderflows +
          (if pb.playing && !(r.tryTake n).isSome then 1 else 0) := by
  obtain ⟨res, r₁, sig, hturn⟩ := Ring.turn_tryGet_finishes (r := r) (n := n)
  by_cases hfill : ∃ b, res = .ok (.filled true b)
  · -- the try hands bytes over: they are played, and nothing is counted
    obtain ⟨b, rfl⟩ := hfill
    have htake : r.tryTake n = some b := by simp [Ring.tryTake, hturn]
    rw [pull_of_filled hopen hpb hr hturn, htake]
    exact ⟨rfl, rfl, _, _, rfl, rfl, rfl, by simp, by simp⟩
  · have hne : ∀ b r' sig, Ring.turn (.tryGet n) r ≠ .finish (.ok (.filled true b)) r' sig :=
      fun b r' sig h => hfill ⟨b, by rw [hturn] at h; cases h; rfl⟩
    have htake : r.tryTake n = none := by
      simp only [Ring.tryTake, hturn]
      split
      · next h => cases h; exact absurd ⟨_, rfl⟩ hfill
      · rfl
    rw [pull_of_unfilled_eq hopen hpb hr hne, htake]
    cases hplay : pb.playing
    · exact ⟨rfl, rfl, pb, r, hpb, hr, hplay, by simp, by simp⟩
    · exact ⟨rfl, rfl, _, r, rfl, hr, rfl, by simp, by simp [count]⟩

/-- Another thread's turn on the ring changes nothing but the ring. -/
lemma callRing_step (hpb : w.playback = some pb) (hr : pb.ring = some r) (c : Ring.Call) :
    (w.callRing c).device = w.device ∧
      (w.callRing c).playback = some { pb with ring := some (r.after c) } ∧
      (w.callRing c).shared = w.shared := by
  simp [callRing, hpb, hr]

/-- **The count over a run.** From an open pull stream, along any taps the session keeps a ring
and counts, in the session and in the counters alike, the pulls of silence that follow a pull
of audio. -/
lemma listen_underflows (hopen : w.device.pullOpen = true) (hpb : w.playback = some pb)
    (hr : pb.ring = some r) (ts : List Tap) :
    ∃ pb', (w.listen ts).2.playback = some pb' ∧
      pb'.underflows = pb.underflows + gaps pb.playing (w.listen ts).1 ∧
      (w.listen ts).2.shared.diag.playbackUnderflows =
        w.shared.diag.playbackUnderflows + gaps pb.playing (w.listen ts).1 := by
  induction ts generalizing w pb r with
  | nil => exact ⟨pb, hpb, rfl, rfl⟩
  | cons t ts ih =>
    cases t with
    | call c =>
      obtain ⟨hdev, hpb', hsh⟩ := callRing_step hpb hr c
      obtain ⟨pb'', h₁, h₂, h₃⟩ := ih (w := w.callRing c) (hdev ▸ hopen) hpb' rfl
      refine ⟨pb'', h₁, h₂, ?_⟩
      show (listen ts (w.callRing c)).2.shared.diag.playbackUnderflows = _
      rw [h₃, hsh]
      rfl
    | pull n =>
      obtain ⟨-, hdev, pb', r', hpb', hr', hplay, hunder, hdiag⟩ := pull_step hopen hpb hr n
      obtain ⟨pb'', h₁, h₂, h₃⟩ := ih (w := (w.pull n).2) (hdev ▸ hopen) hpb' hr'
      have hhears : w.hears n = (r.tryTake n).isSome := by simp [hears, hpb, hr]
      refine ⟨pb'', h₁, ?_, ?_⟩
      · simp only [listen, gaps_cons, hhears, h₂, hunder, ← hplay]
        omega
      · simp only [listen, gaps_cons, hhears, h₃, hdiag, ← hplay]
        omega

end World

/-- **Underflows count the gaps.** In a pull-mode session, opened from a client that had none:
every pull plays what the ring's try hands over, and silence of its whole size when the try
hands nothing over; and along pulls of any sizes, interleaved with any turns of other threads on
the ring, shutdown included, the session's underflow count, like the rise of the client's
underflow counter, is the number of pulls of silence that follow a pull of audio, the first
pull following silence. -/
theorem pull_counts_audio_gaps {τ ω : Type} (w₀ w : World τ ω) (hclosed : w₀.playback = none)
    (hmode : w₀.shared.config.playbackMode = .pull) (hopen : w₀.ensurePlayback = (.ok (), w)) :
    (∀ (u : World τ ω) (pb : Playback) (r : Ring) (n : Nat), u.device.pullOpen = true →
      u.playback = some pb → pb.ring = some r →
      (u.pull n).1 = some ((r.tryTake n).getD (List.replicate n u.shared.config.format.silence))) ∧
    ∀ ts : List Tap, ∃ pb, (w.listen ts).2.playback = some pb ∧
      pb.underflows = gaps false (w.listen ts).1 ∧
      (w.listen ts).2.shared.diag.playbackUnderflows = w.shared.diag.playbackUnderflows + pb.underflows := by
  refine ⟨fun u pb r n hopen hpb hr => (World.pull_step hopen hpb hr n).1, fun ts => ?_⟩
  -- the session starts with a fresh ring, no underflow counted and nothing played
  obtain ⟨hpb, hdev, -⟩ := World.ensurePlayback_pull hclosed hmode hopen
  obtain ⟨pb, h₁, h₂, h₃⟩ := World.listen_underflows (by rw [hdev]) hpb rfl ts
  have hgaps : pb.underflows = gaps false (w.listen ts).1 := h₂.trans (Nat.zero_add _)
  exact ⟨pb, h₁, hgaps, by rw [h₃, hgaps]⟩

/-- A client with a playback ring of 64 bytes that has played nothing. -/
def quietClient : World Unit Unit :=
  { shared := { config := { playbackBufferBytes := 64 }, queue := Dispatch.Queue.create 1,
                capture := Buffer.Capture.create 0 },
    device := {}, conn := (), peer := () }

/-- A session whose device pulls four bytes before any arrive, gets four of six bytes put, finds
two left twice, and pulls again once the ring is shut. -/
def quietTaps : List Tap :=
  [.pull 4, .call (.put [1, 2, 3, 4, 5, 6] false), .pull 4, .pull 4, .pull 4, .call .shutdown, .pull 4]

theorem quiet_session_counts_gaps :
    quietClient.playback = none ∧ quietClient.shared.config.playbackMode = .pull ∧
      ∃ pb, (quietClient.ensurePlayback.2.listen quietTaps).2.playback = some pb ∧
        pb.underflows = gaps false (quietClient.ensurePlayback.2.listen quietTaps).1 ∧
        (quietClient.ensurePlayback.2.listen quietTaps).2.shared.diag.playbackUnderflows =
          quietClient.ensurePlayback.2.shared.diag.playbackUnderflows + pb.underflows :=
  ⟨rfl, rfl, (pull_counts_audio_gaps quietClient _ rfl rfl rfl).2 quietTaps⟩

end Client

end Talkback
