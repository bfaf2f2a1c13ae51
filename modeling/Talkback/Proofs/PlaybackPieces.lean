import Talkback.Proofs.WholeFrames

/-!
How a play cuts audio into pieces for the ring.

In pull mode a play offers the ring the samples of a buffer cut into pieces (`pieces`) of
`pieceLength` bytes: put back together the pieces are the samples, none is empty, and all but the
last are as long as asked, the last no longer. The length asked is as many whole frames as the
ring holds, and one frame if it holds none, so it is a positive multiple of the frame and fits
in the ring exactly when a frame does.

A ring refuses a chunk longer than its capacity as too large, in any state, and no other chunk
(`turn_put_ne_chunkTooLarge`), and no turn changes its capacity. So when a frame fits in
the ring no piece is refused as too large. When it does not, every full piece is refused so and
its bytes are counted as dropped, and what enters the ring is nothing or the last piece, shorter
than the others and no longer than the ring.
-/

namespace Talkback

open Buffer (Ring Traffic)

section Lists

variable {α : Type}

/-- A sublist that takes nothing from the items before the last is empty or the last alone. -/
lemma eq_nil_or_last_of_sublist {ps qs : List α} (hsub : qs.Sublist ps)
    (hq : ∀ p ∈ qs, p ∉ ps.dropLast) : qs = [] ∨ ∃ p, ps.getLast? = some p ∧ qs = [p] := by
  rcases ps.eq_nil_or_concat with rfl | ⟨ps, last, rfl⟩
  · exact .inl (List.sublist_nil.1 hsub)
  · rw [List.concat_eq_append] at hsub hq ⊢
    obtain ⟨q₁, q₂, rfl, h₁, h₂⟩ := List.sublist_append_iff.1 hsub
    -- nothing comes from before the last item
    have hq₁ : q₁ = [] := List.eq_nil_iff_forall_not_mem.2 fun p hp =>
      hq p (List.mem_append_left _ hp) (by simpa using h₁.subset hp)
    subst hq₁
    rcases List.sublist_singleton.1 h₂ with rfl | rfl
    · exact .inl rfl
    · exact .inr ⟨last, by simp, rfl⟩

end Lists

namespace Buffer.Ring

variable {r r₁ r' : Ring} {res : Except Error Reply} {sig : List (Monitor.Signal Condition)}

/-- A put of a chunk no longer than the ring is never refused as too large. -/
lemma turn_put_ne_chunkTooLarge {data : List UInt8} {timed : Bool} (hc : data.length ≤ r.capacity)
    (h : turn (.put data timed) r = .finish res r' sig) (len cap : Nat) :
    res ≠ .error (.chunkTooLarge len cap) := by
  cases ha : r.active
  · rw [turn_of_shut ha (show Call.demand (.put data timed) ≤ r.capacity from hc)] at h
    cases h
    simp [Call.transfers]
  · -- a running ring takes the chunk if it has room and waits otherwise
    have hok : r.check data.length = .ok () := by simp [check, Nat.not_lt.2 hc]
    simp only [turn, hok, ha, Bool.not_true, Bool.false_eq_true, if_false] at h
    split at h
    · cases h
      simp
    · cases h

@[simp] lemma capacity_drainIf (drains : Bool) (r : Ring) :
    (drainIf drains r).capacity = r.capacity := by
  cases drains <;> rfl

/-- A piece a ring accepts fits in it. -/
lemma length_le_of_accept {drains : Bool} {p : List UInt8}
    (h : turn (.put p true) (drainIf drains r) = .finish (.ok (.accepted true)) r₁ sig) :
    p.length ≤ r.capacity := by
  by_contra hc
  rw [turn_of_capacity_lt (show (drainIf drains r).capacity < Call.demand (.put p true) by
    simpa [Call.demand] using hc)] at h
  cases h

/-- **What enters the ring.** The bytes a ring accepts from offered pieces are some of the pieces,
in order and whole, each no longer than the ring. -/
lemma Offers.accepted_sublist {drains : Bool} {ps : List (List UInt8)} {log : List Traffic}
    (h : Offers drains r ps log r') :
    ∃ qs : List (List UInt8), qs.Sublist ps ∧ (∀ p ∈ qs, p.length ≤ r.capacity) ∧
      Traffic.accepted log = qs.flatten := by
  induction h with
  | nil => exact ⟨[], List.Sublist.slnil, by simp, rfl⟩
  | @accept r r₁ r' p ps log sig hput _ ih =>
    obtain ⟨qs, hsub, hfit, hacc⟩ := ih
    have hcap : r₁.capacity = r.capacity := by rw [capacity_turn hput, capacity_drainIf]
    refine ⟨p :: qs, hsub.cons_cons p, ?_, by simp [hacc]⟩
    intro q hq
    rcases List.mem_cons.1 hq with rfl | hq
    · exact length_le_of_accept hput
    · exact hcap ▸ hfit q hq
  | refuse _ _ ih =>
    obtain ⟨qs, hsub, hfit, hacc⟩ := ih
    exact ⟨qs, hsub.cons _, fun q hq => by simpa using hfit q hq, by simpa using hacc⟩

/-- When every piece but the last is too long for the ring, what enters it is nothing, or the
last piece, which fits. -/
lemma Offers.accepted_of_long {drains : Bool} {ps : List (List UInt8)} {log : List Traffic}
    (h : Offers drains r ps log r') (hlong : ∀ p ∈ ps.dropLast, r.capacity < p.length) :
    Traffic.accepted log = [] ∨
      ∃ p, ps.getLast? = some p ∧ p.length ≤ r.capacity ∧ Traffic.accepted log = p := by
  obtain ⟨qs, hsub, hfit, hacc⟩ := h.accepted_sublist
  -- a piece that entered fits, so it is none of those before the last
  have hnot : ∀ p ∈ qs, p ∉ ps.dropLast := fun p hp hdrop => by
    have := hlong p hdrop
    have := hfit p hp
    omega
  rcases eq_nil_or_last_of_sublist hsub hnot with rfl | ⟨p, hlast, rfl⟩
  · exact .inl (by simpa using hacc)
  · exact .inr ⟨p, hlast, hfit p (List.mem_singleton_self p), by simpa using hacc⟩

end Buffer.Ring

namespace Client

section Pieces

variable {α : Type}

/-- No piece is empty or longer than asked. -/
lemma ne_nil_of_mem_piecesBy {n : Nat} (hn : 0 < n) (fuel : Nat) (xs : List α) :
    ∀ p ∈ piecesBy n fuel xs, p ≠ [] ∧ p.length ≤ n := by
  induction fuel generalizing xs with
  | zero => simp [piecesBy]
  | succ fuel ih =>
    cases xs with
    | nil => simp
    | cons x xs =>
      intro p hp
      rw [piecesBy_cons, List.mem_cons] at hp
      rcases hp with rfl | hp
      · -- the first piece takes the head and at most `n` items
        exact ⟨by simp [List.take_eq_nil_iff]; omega, List.length_take_le _ _⟩
      · exact ih _ p hp

/-- **Pieces are chunks.** Cut into pieces of `n ≥ 1` items, a list is its pieces put back
together; no piece is empty or longer than `n`, and every piece but the last is `n` long. -/
lemma pieces_chunks {n : Nat} (hn : 0 < n) (xs : List α) :
    (pieces n xs).flatten = xs ∧ (∀ p ∈ pieces n xs, p ≠ [] ∧ p.length ≤ n) ∧
      ∀ p ∈ (pieces n xs).dropLast, p.length = n :=
  ⟨flatten_pieces hn xs, ne_nil_of_mem_piecesBy hn _ xs, length_of_mem_dropLast_piecesBy _ xs⟩

end Pieces

section Feed

variable {drains : Bool} {r : Ring}

/-- A piece too large for the ring is dropped whole: the bytes dropped include every offered piece
that `f` picks, when it picks only pieces longer than the ring. -/
lemma dropped_feedRing_ge (f : List UInt8 → Bool) (ps : List (List UInt8))
    (hf : ∀ p ∈ ps, f p = true → r.capacity < p.length) :
    (ps.filter f).flatten.length ≤ (feedRing drains r ps).2.2 := by
  induction ps generalizing r with
  | nil => simp
  | cons p ps ih =>
    have hrest : ∀ {r' : Ring}, r'.capacity = r.capacity →
        (ps.filter f).flatten.length ≤ (feedRing drains r' ps).2.2 := fun hcap =>
      ih fun q hq hfq => hcap ▸ hf q (List.mem_cons_of_mem _ hq) hfq
    by_cases hacc : ∃ r₁ sig, Ring.turn (.put p true) (Ring.drainIf drains r) =
        .finish (.ok (.accepted true)) r₁ sig
    · -- an accepted piece fits, so `f` does not pick it
      obtain ⟨r₁, sig, h⟩ := hacc
      have hfp : f p = false := by
        have := Ring.length_le_of_accept h
        cases hfp : f p
        · rfl
        · exact absurd (hf p List.mem_cons_self hfp) (by omega)
      rw [feedRing_cons_accept h, List.filter_cons_of_neg (by simp [hfp])]
      exact hrest (by rw [Ring.capacity_turn h, Ring.capacity_drainIf])
    · simp only [not_exists] at hacc
      rw [feedRing_cons_refuse hacc]
      dsimp only
      have := hrest (Ring.capacity_drainIf drains r)
      by_cases hfp : f p = true
      · rw [List.filter_cons_of_pos hfp, List.flatten_cons, List.length_append]
        omega
      · rw [List.filter_cons_of_neg hfp]
        omega

end Feed

namespace World

variable {τ ω : Type}

/-- The pieces are whole frames, at least one byte each. -/
lemma frame_dvd_pieceLength (w : World τ ω) (r : Ring) :
    max 1 w.shared.config.format.bytesPerFrame ∣ w.pieceLength r := by
  unfold pieceLength
  generalize max 1 w.shared.config.format.bytesPerFrame = a
  rcases Nat.le_total a (r.capacity / a * a) with h | h
  · rw [Nat.max_eq_right h]
    exact Nat.dvd_mul_left _ _
  · exact (Nat.max_eq_left h).symm ▸ Nat.dvd_refl a

/-- The pieces fit in the ring exactly when a frame does. -/
lemma pieceLength_le_capacity_iff (w : World τ ω) (r : Ring) :
    w.pieceLength r ≤ r.capacity ↔ max 1 w.shared.config.format.bytesPerFrame ≤ r.capacity := by
  unfold pieceLength
  -- the whole frames the ring holds never exceed it
  rw [Nat.max_le]
  exact ⟨And.left, fun h => ⟨h, Nat.div_mul_le_self _ _⟩⟩

/-- A ring that holds no whole frame is offered one frame at a time. -/
lemma pieceLength_of_capacity_lt (w : World τ ω) (r : Ring)
    (h : r.capacity < max 1 w.shared.config.format.bytesPerFrame) :
    w.pieceLength r = max 1 w.shared.config.format.bytesPerFrame := by
  unfold pieceLength
  rw [Nat.div_eq_of_lt h, Nat.zero_mul, Nat.max_zero]

variable {w : World τ ω} {pb : Playback} {r : Ring}

/-- Playing on a ring adds to the dropped bytes those the ring refused. -/
lemma audioBytesDropped_play_of_ring (hpb : w.playback = some pb) (hr : pb.ring = some r)
    (d : List UInt8) :
    (w.play d).shared.diag.audioBytesDropped =
      w.shared.diag.audioBytesDropped + (w.feedAudio r d).2.2 := by
  by_cases hs : w.samples d = []
  · have hfeed : w.feedAudio r d = (r, 0, 0) := by simp [feedAudio, hs, pieces, feedRing]
    rw [play_of_samples_nil hs, hfeed]
    rfl
  · rw [play_of_ring hpb hr hs]

end World

open World in
/-- **A play cuts its audio into frame pieces that fit the ring when a frame does.** Playing a
buffer `d` on a session that plays from ring `r`: the ring and the counts after are those of
feeding the ring the pieces of the samples, each accepted whole or refused, and every byte is
either put in or dropped. The pieces put back together are the samples, none is empty, and all
but the last are `pieceLength r` long, which is a positive number of whole frames (a frame
counting at least one byte) and fits in the ring exactly when a frame does. When a frame fits
no piece is ever refused as too large, whatever state the ring is in. When it does not, every
full piece is refused as too large in every state of the ring, its bytes are all counted as
dropped, and what enters the ring is nothing or the last piece, which is then shorter than the
others and no longer than the ring. -/
theorem play_cuts_frame_pieces {τ ω : Type} (w : World τ ω) (pb : Playback) (r : Ring)
    (d : List UInt8) (hpb : w.playback = some pb) (hr : pb.ring = some r) :
    ((w.play d).playback = some { pb with ring := some (w.feedAudio r d).1,
                                          bytes := pb.bytes + (w.feedAudio r d).2.1 } ∧
      (w.play d).shared.diag.audioBytesDropped =
        w.shared.diag.audioBytesDropped + (w.feedAudio r d).2.2 ∧
      ∃ log, Ring.Offers w.device.drains r (pieces (w.pieceLength r) (w.samples d)) log
          (w.feedAudio r d).1 ∧
        (w.feedAudio r d).2.1 = (Traffic.accepted log).length ∧
        (w.feedAudio r d).2.1 + (w.feedAudio r d).2.2 = (w.samples d).length) ∧
    ((pieces (w.pieceLength r) (w.samples d)).flatten = w.samples d ∧
      (∀ p ∈ pieces (w.pieceLength r) (w.samples d), p ≠ [] ∧ p.length ≤ w.pieceLength r) ∧
      ∀ p ∈ (pieces (w.pieceLength r) (w.samples d)).dropLast, p.length = w.pieceLength r) ∧
    (0 < w.pieceLength r ∧ max 1 w.shared.config.format.bytesPerFrame ∣ w.pieceLength r ∧
      (w.pieceLength r ≤ r.capacity ↔ max 1 w.shared.config.format.bytesPerFrame ≤ r.capacity)) ∧
    (max 1 w.shared.config.format.bytesPerFrame ≤ r.capacity →
      ∀ p ∈ pieces (w.pieceLength r) (w.samples d), ∀ r' : Ring, r'.capacity = r.capacity →
        ∀ res r'' sig, Ring.turn (.put p true) r' = .finish res r'' sig →
          ∀ len cap, res ≠ .error (.chunkTooLarge len cap)) ∧
    (r.capacity < max 1 w.shared.config.format.bytesPerFrame →
      (∀ p ∈ pieces (w.pieceLength r) (w.samples d), p.length = w.pieceLength r →
        ∀ r' : Ring, r'.capacity = r.capacity →
          Ring.turn (.put p true) r' =
            .finish (.error (.chunkTooLarge p.length r.capacity)) r' []) ∧
      ((pieces (w.pieceLength r) (w.samples d)).filter
          fun p => decide (p.length = w.pieceLength r)).flatten.length ≤ (w.feedAudio r d).2.2 ∧
      ∀ log r'', Ring.Offers w.device.drains r (pieces (w.pieceLength r) (w.samples d)) log r'' →
        Traffic.accepted log = [] ∨
          ∃ p, (pieces (w.pieceLength r) (w.samples d)).getLast? = some p ∧
            p.length < w.pieceLength r ∧ p.length ≤ r.capacity ∧ Traffic.accepted log = p) := by
  have hP := w.pieceLength_pos r
  obtain ⟨hflat, hmem, hfull⟩ := pieces_chunks hP (w.samples d)
  obtain ⟨log, hoff, hput, hsum⟩ :=
    offers_feedRing w.device.drains r (pieces (w.pieceLength r) (w.samples d))
  rw [hflat] at hsum
  refine ⟨⟨playback_play_of_ring hpb hr, audioBytesDropped_play_of_ring hpb hr d, log, hoff, hput,
      hsum⟩,
    ⟨hflat, hmem, hfull⟩, ⟨hP, frame_dvd_pieceLength w r, pieceLength_le_capacity_iff w r⟩,
    fun hfit p hp r' hcap res r'' sig h len cap => ?_, fun hsmall => ?_⟩
  · -- every piece is no longer than the pieces asked for, which fit
    have hle := Nat.le_trans (hmem p hp).2 ((pieceLength_le_capacity_iff w r).2 hfit)
    exact Ring.turn_put_ne_chunkTooLarge (hcap ▸ hle) h len cap
  · -- a frame is too long for the ring, and the full pieces are one frame each
    have hlong : r.capacity < w.pieceLength r := by rwa [pieceLength_of_capacity_lt w r hsmall]
    refine ⟨fun p _ hp r' hcap => ?_, ?_, fun log' r'' hoff' => ?_⟩
    · rw [Ring.turn_of_capacity_lt (show r'.capacity < Ring.Call.demand (.put p true) by
        simp only [Ring.Call.demand]; omega), hcap]
      rfl
    · exact dropped_feedRing_ge _ _ fun p _ hp => by simpa [of_decide_eq_true hp] using hlong
    · rcases hoff'.accepted_of_long (fun p hp => by rwa [hfull p hp]) with
        hnone | ⟨p, hlast, hfit, hacc⟩
      · exact .inl hnone
      · exact .inr ⟨p, hlast, by omega, hfit, hacc⟩

/-- A stereo client playing from a two-byte ring, too small for one four-byte frame. -/
def tinyRingClient : World Unit Unit :=
  { shared := { config := { format := { channels := 2 } }, queue := Dispatch.Queue.create 1,
                capture := Buffer.Capture.create 0 },
    device := {}, conn := (), peer := (), playback := some { ring := some (Ring.create 2) } }

/-- Six bytes of stereo PCM16 played on a two-byte ring are cut into a frame and the last two
bytes: the frame is refused as too large in every state of the ring and dropped, and only the
last two bytes go in. -/
theorem tiny_ring_takes_only_the_tail :
    tinyRingClient.playback = some { ring := some (Ring.create 2) } ∧
      (Ring.create 2).capacity < max 1 tinyRingClient.shared.config.format.bytesPerFrame ∧
      pieces (tinyRingClient.pieceLength (Ring.create 2))
        (tinyRingClient.samples [1, 2, 3, 4, 5, 6]) = [[1, 2, 3, 4], [5, 6]] ∧
      (∀ r' : Ring, r'.capacity = 2 →
        Ring.turn (.put [1, 2, 3, 4] true) r' = .finish (.error (.chunkTooLarge 4 2)) r' []) ∧
      (tinyRingClient.feedAudio (Ring.create 2) [1, 2, 3, 4, 5, 6]).2 = (2, 4) := by
  have hsmall :
      (Ring.create 2).capacity < max 1 tinyRingClient.shared.config.format.bytesPerFrame := by
    decide
  have hpieces : pieces (tinyRingClient.pieceLength (Ring.create 2))
      (tinyRingClient.samples [1, 2, 3, 4, 5, 6]) = [[1, 2, 3, 4], [5, 6]] := by decide
  have hrefused := ((play_cuts_frame_pieces tinyRingClient _ _ [1, 2, 3, 4, 5, 6] rfl rfl).2.2.2.2
    hsmall).1 [1, 2, 3, 4] (by simp [hpieces]) (by decide)
  exact ⟨rfl, hsmall, hpieces, hrefused, by decide⟩

end Client

end Talkback
