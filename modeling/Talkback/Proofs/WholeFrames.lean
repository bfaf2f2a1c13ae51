import Talkback.Proofs.AudioBooks
import Talkback.Proofs.WavScan

/-!
Whole frames through playback.

A frame is one sample for each channel. The samples of a received buffer are cut only to whole
16-bit samples (`length_samples_pcm16`), not to whole frames. In pull mode they are then cut into
pieces as long as the ring holds in whole frames, and at least one frame (`World.pieceLength`):
every piece but the last of a buffer is whole frames, and when the buffer's samples are whole
frames, so is every piece (`pieces_whole_frames`). Then each piece the ring accepts and each
buffer the device's write takes is whole frames, and the bytes a playback session hands on stay a
whole number of frames (`Accepts.whole_frames`). One channel makes every buffer whole frames; with
more, a buffer that is not is handed on as it is.
-/

namespace Talkback

open Buffer (Ring Traffic)

/-! ### Pieces -/

namespace Client

section Pieces

variable {α : Type}

@[simp] lemma piecesBy_nil (n fuel : Nat) : piecesBy n fuel ([] : List α) = [] := by
  cases fuel <;> rfl

lemma piecesBy_cons (n fuel : Nat) (x : α) (xs : List α) :
    piecesBy n (fuel + 1) (x :: xs) = (x :: xs).take n :: piecesBy n fuel ((x :: xs).drop n) := rfl

/-- Every piece but the last is as long as asked. -/
lemma length_of_mem_dropLast_piecesBy {n : Nat} (fuel : Nat) (xs : List α) :
    ∀ p ∈ (piecesBy n fuel xs).dropLast, p.length = n := by
  induction fuel generalizing xs with
  | zero => simp [piecesBy]
  | succ fuel ih =>
    cases xs with
    | nil => simp
    | cons x xs =>
      intro p hp
      rw [piecesBy_cons] at hp
      cases hrest : piecesBy n fuel ((x :: xs).drop n) with
      | nil => simp [hrest] at hp
      | cons q qs =>
        rw [hrest, List.dropLast_cons_cons, List.mem_cons] at hp
        rcases hp with rfl | hp
        · -- another piece follows, so more than `n` items were there to cut
          have hmore : (x :: xs).drop n ≠ [] := fun h => by simp [h] at hrest
          rw [List.length_take]
          rw [Ne, List.drop_eq_nil_iff] at hmore
          omega
        · exact ih _ p (by rwa [hrest])

/-- Pieces of a length that `k` divides, cut from a list whose length `k` divides, all have lengths
that `k` divides. -/
lemma dvd_length_of_mem_piecesBy {k n : Nat} (hn : k ∣ n) (fuel : Nat) (xs : List α)
    (hxs : k ∣ xs.length) : ∀ p ∈ piecesBy n fuel xs, k ∣ p.length := by
  induction fuel generalizing xs with
  | zero => simp [piecesBy]
  | succ fuel ih =>
    cases xs with
    | nil => simp
    | cons x xs =>
      intro p hp
      rw [piecesBy_cons, List.mem_cons] at hp
      rcases hp with rfl | hp
      · -- the first piece is `n` items, or all there were
        rw [List.length_take]
        rcases Nat.le_total n (x :: xs).length with h | h
        · rwa [Nat.min_eq_left h]
        · rwa [Nat.min_eq_right h]
      · exact ih _ (by rw [List.length_drop]; exact Nat.dvd_sub hxs hn) p hp

end Pieces

/-! ### Frames in a session -/

namespace World

variable {τ ω : Type}

/-- PCM16 samples are whole 16-bit samples: the buffer's region less a last odd byte. -/
lemma length_samples_pcm16 (w : World τ ω) (d : List UInt8)
    (h : w.shared.config.format.encoding = .pcm16) : (w.samples d).length % 2 = 0 := by
  simp only [samples, h]
  rw [(Codec.Wav.extract_eq_take d).1, List.length_take,
    Codec.Wav.length_slice (Codec.Wav.locate_within d)]
  omega

/-- With one channel a frame is one sample, so the samples of every buffer are whole frames. -/
lemma samples_whole_frames_of_mono (w : World τ ω) (d : List UInt8)
    (h : w.shared.config.format.channels.toNat = 1) :
    w.shared.config.format.bytesPerFrame ∣ (w.samples d).length := by
  simp only [Audio.Format.bytesPerFrame, Audio.Format.bytesPerSample, h, Nat.mul_one]
  cases henc : w.shared.config.format.encoding with
  | pcm16 => exact Nat.dvd_of_mod_eq_zero (length_samples_pcm16 w d henc)
  | mulaw => exact Nat.one_dvd _

/-- The pieces are as long as the ring holds in whole frames, at least one frame. -/
lemma frames_dvd_pieceLength (w : World τ ω) (r : Ring)
    (hch : 0 < w.shared.config.format.channels.toNat) :
    w.shared.config.format.bytesPerFrame ∣ w.pieceLength r := by
  have hpos := Audio.Format.bytesPerFrame_pos _ hch
  unfold pieceLength
  rw [Nat.max_eq_right hpos, Nat.max_def]
  split
  · exact Nat.dvd_mul_left _ _
  · exact Nat.dvd_refl _

/-- **Pieces of whole frames.** Every piece but the last of a buffer is whole frames; when the
buffer's samples are whole frames, every piece is. -/
lemma pieces_whole_frames (w : World τ ω) (r : Ring) (d : List UInt8) :
    (0 < w.shared.config.format.channels.toNat →
      ∀ p ∈ (pieces (w.pieceLength r) (w.samples d)).dropLast,
        w.shared.config.format.bytesPerFrame ∣ p.length) ∧
    (w.shared.config.format.bytesPerFrame ∣ (w.samples d).length →
      ∀ p ∈ pieces (w.pieceLength r) (w.samples d), w.shared.config.format.bytesPerFrame ∣ p.length) := by
  refine ⟨fun hch p hp => ?_, fun hd => ?_⟩
  · rw [length_of_mem_dropLast_piecesBy _ _ p hp]
    exact frames_dvd_pieceLength w r hch
  · by_cases hch : 0 < w.shared.config.format.channels.toNat
    · exact dvd_length_of_mem_piecesBy (frames_dvd_pieceLength w r hch) _ _ hd
    · -- no channel: a frame has no bytes, so whole frames are no samples at all
      have hzero : w.shared.config.format.bytesPerFrame = 0 := by
        simp only [Audio.Format.bytesPerFrame]
        rw [Nat.eq_zero_of_not_pos hch, Nat.mul_zero]
      rw [hzero, Nat.zero_dvd, List.length_eq_zero_iff] at hd
      simp [pieces, hd]

lemma config_pull (w : World τ ω) (n : Nat) : (w.pull n).2.shared.config = w.shared.config :=
  congrArg (·.1) (books_pull w n)

end World

end Client

namespace Buffer.Ring

/-- The pieces a ring accepts are some of those offered, so they total a multiple of `k` when each
offered piece has a length that `k` divides. -/
lemma Offers.dvd_accepted {k : Nat} {drains : Bool} {r r' : Ring} {ps : List (List UInt8)}
    {log : List Traffic} (h : Offers drains r ps log r') (hk : ∀ p ∈ ps, k ∣ p.length) :
    k ∣ (Traffic.accepted log).length := by
  induction h with
  | nil => simp
  | accept _ _ ih =>
    simp only [Traffic.accepted_append, accepted_spill, Traffic.accepted_inflow, List.nil_append,
      List.length_append]
    exact Nat.dvd_add (hk _ List.mem_cons_self) (ih fun p hp => hk p (List.mem_cons_of_mem _ hp))
  | refuse _ _ ih =>
    simpa using ih fun p hp => hk p (List.mem_cons_of_mem _ hp)

end Buffer.Ring

namespace Client

namespace World

variable {τ ω : Type}

/-- **Whole frames in, whole frames out.** When the samples of every buffer a session plays are
whole frames under its settings `cfg`, the bytes its sink accepts are whole frames: each piece the
ring takes is, and so is each buffer the device's write takes. The settings stay through plays and
pulls, so they are carried as `cfg`. -/
lemma Accepts.whole_frames {w : World τ ω} {cs : List Cue} {n : Nat} (h : Accepts w cs n)
    {cfg : Config} (hcfg : w.shared.config = cfg)
    (hframes : ∀ d ∈ cs.filterMap Cue.audio,
      cfg.format.bytesPerFrame ∣ (Codec.Wav.extract d cfg.format.encoding).length) :
    cfg.format.bytesPerFrame ∣ n := by
  induction h with
  | nil => exact Nat.dvd_zero _
  | @ring w d cs pb r r' t n _ _ hoff _ ih =>
    have hd := hframes d (by simp)
    subst hcfg
    exact Nat.dvd_add (hoff.dvd_accepted ((pieces_whole_frames w r d).2 hd))
      (ih (tally_play w d).config fun d' hd' => hframes d' (by simp [hd']))
  | @written w d cs pb dev n _ _ _ _ ih =>
    have hd := hframes d (by simp)
    subst hcfg
    exact Nat.dvd_add hd (ih (tally_play w d).config fun d' hd' => hframes d' (by simp [hd']))
  | @refused w d cs pb dev e n _ _ _ _ ih =>
    exact ih ((tally_play w d).config.trans hcfg) fun d' hd' => hframes d' (by simp [hd'])
  | @pull w k cs n _ ih =>
    exact ih ((config_pull w k).trans hcfg) fun d' hd' => hframes d' (by simpa using hd')

/-- A session opened where none was: playback on the mode's ring with no bytes taken yet, under the
same settings. -/
lemma ensurePlayback_fresh {w₀ w : World τ ω} (hclosed : w₀.playback = none)
    (hopen : w₀.ensurePlayback = (.ok (), w)) :
    w.playback = some { ring := w₀.shared.config.playbackRing } ∧ w.shared.config = w₀.shared.config := by
  rw [ensurePlayback_of_closed hclosed] at hopen
  split at hopen
  · simp at hopen
  · rw [Prod.mk.injEq] at hopen
    rw [← hopen.2]
    exact ⟨rfl, rfl⟩

end World

/-- A client that has played nothing, on two channels of PCM16, writing playback to the device. -/
def stereoClient : World Unit Unit :=
  { shared := { config := { format := { channels := 2 }, playbackMode := .blocking },
                queue := Dispatch.Queue.create 1, capture := Buffer.Capture.create 0 },
    device := {}, conn := (), peer := () }

end Client

end Talkback
