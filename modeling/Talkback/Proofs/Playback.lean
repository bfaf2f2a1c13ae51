import Talkback.Client.Loop
import Talkback.Proofs.Ring

/-!
What a playback session does with the audio it is given.

In pull mode the loop offers the samples of each buffer to the ring in pieces, and the device
pulls whole requests from it. What passes through the ring is recorded as `Traffic`: a piece
the ring accepted, bytes the device took out, or a request the ring could not fill. `Offers`
says what offering pieces does: each piece is accepted whole or not at all, and a device that
drains takes everything out of the ring before each piece. `Traces` says what a run of plays
and pulls does. Along any such run the bytes taken out so far, followed by what the ring still
holds, are the pieces accepted so far (`flows_offers`, `pull_session`), so every pull gets the
next bytes of that stream, or silence, as many as it asked for.

In blocking mode the samples of each buffer are written to the device whole, in order.
-/

namespace Talkback.Buffer

/-- What passes through a playback ring. -/
inductive Traffic where
  /-- A piece the ring accepted. -/
  | inflow (piece : List UInt8)
  /-- Bytes the device took out. -/
  | outflow (bytes : List UInt8)
  /-- A pull of `n` bytes the ring could not fill. -/
  | starved (n : Nat)
  /-- Bytes a device that drains took out at once. -/
  | drained (bytes : List UInt8)
  deriving DecidableEq, Repr

namespace Traffic

/-- The bytes the ring accepted, in order. -/
def accepted : List Traffic → List UInt8
  | [] => []
  | .inflow p :: log => p ++ accepted log
  | _ :: log => accepted log

/-- The bytes the device took out, in order. -/
def played : List Traffic → List UInt8
  | [] => []
  | .outflow b :: log => b ++ played log
  | .drained b :: log => b ++ played log
  | _ :: log => played log

/-- What a pull of the device got, if the entry is one: the bytes the ring gave it, or silence. -/
def heard (silence : UInt8) : Traffic → Option (List UInt8)
  | .outflow b => some b
  | .starved n => some (List.replicate n silence)
  | _ => none

@[simp] lemma accepted_nil : accepted [] = [] := rfl
@[simp] lemma accepted_inflow (p : List UInt8) (log : List Traffic) :
    accepted (.inflow p :: log) = p ++ accepted log := rfl
@[simp] lemma accepted_outflow (b : List UInt8) (log : List Traffic) :
    accepted (.outflow b :: log) = accepted log := rfl
@[simp] lemma accepted_starved (n : Nat) (log : List Traffic) :
    accepted (.starved n :: log) = accepted log := rfl
@[simp] lemma accepted_drained (b : List UInt8) (log : List Traffic) :
    accepted (.drained b :: log) = accepted log := rfl

@[simp] lemma played_nil : played [] = [] := rfl
@[simp] lemma played_inflow (p : List UInt8) (log : List Traffic) :
    played (.inflow p :: log) = played log := rfl
@[simp] lemma played_outflow (b : List UInt8) (log : List Traffic) :
    played (.outflow b :: log) = b ++ played log := rfl
@[simp] lemma played_starved (n : Nat) (log : List Traffic) :
    played (.starved n :: log) = played log := rfl
@[simp] lemma played_drained (b : List UInt8) (log : List Traffic) :
    played (.drained b :: log) = b ++ played log := rfl

@[simp] lemma heard_inflow (s : UInt8) (p : List UInt8) : heard s (.inflow p) = none := rfl
@[simp] lemma heard_outflow (s : UInt8) (b : List UInt8) : heard s (.outflow b) = some b := rfl
@[simp] lemma heard_starved (s : UInt8) (n : Nat) :
    heard s (.starved n) = some (List.replicate n s) := rfl
@[simp] lemma heard_drained (s : UInt8) (b : List UInt8) : heard s (.drained b) = none := rfl

@[simp] lemma accepted_append (log log' : List Traffic) :
    accepted (log ++ log') = accepted log ++ accepted log' := by
  induction log with
  | nil => rfl
  | cons e log ih => cases e <;> simp [ih]

@[simp] lemma played_append (log log' : List Traffic) :
    played (log ++ log') = played log ++ played log' := by
  induction log with
  | nil => rfl
  | cons e log ih => cases e <;> simp [ih]

/-- Read after `pre`, each time the device takes bytes out they are the next ones of what the
ring has accepted by then. -/
def InOrderFrom : List Traffic → List Traffic → Prop
  | _, [] => True
  | pre, .outflow b :: log => played pre ++ b <+: accepted pre ∧ InOrderFrom (pre ++ [.outflow b]) log
  | pre, .drained b :: log => played pre ++ b <+: accepted pre ∧ InOrderFrom (pre ++ [.drained b]) log
  | pre, e :: log => InOrderFrom (pre ++ [e]) log

/-- Each time the device takes bytes out they are the next ones of what the ring has accepted by
then. -/
def InOrder (log : List Traffic) : Prop := InOrderFrom [] log

lemma inOrderFrom_append {pre log log' : List Traffic} :
    InOrderFrom pre (log ++ log') ↔ InOrderFrom pre log ∧ InOrderFrom (pre ++ log) log' := by
  induction log generalizing pre with
  | nil => simp [InOrderFrom]
  | cons e log ih =>
    cases e <;> simp [InOrderFrom, ih, and_assoc]

/-- What the device took out stays a prefix of what the ring accepted. -/
lemma played_prefix_of_inOrderFrom {pre log : List Traffic} (h : InOrderFrom pre log)
    (hpre : played pre <+: accepted pre) : played (pre ++ log) <+: accepted (pre ++ log) := by
  induction log generalizing pre with
  | nil => simpa using hpre
  | cons e log ih =>
    cases e with
    | inflow p =>
      have hnext : played (pre ++ [.inflow p]) <+: accepted (pre ++ [.inflow p]) := by
        simpa using hpre.trans (List.prefix_append _ _)
      simpa using ih h hnext
    | outflow b =>
      obtain ⟨hb, hrest⟩ := h
      simpa using ih hrest (by simpa using hb)
    | starved n =>
      simpa using ih h (by simpa using hpre)
    | drained b =>
      obtain ⟨hb, hrest⟩ := h
      simpa using ih hrest (by simpa using hb)

end Traffic

/-! ### Offering pieces to a ring -/

namespace Ring

/-- The ring a device that `drains` leaves when it takes everything out. -/
def drainIf (drains : Bool) (r : Ring) : Ring := if drains then (r.read r.used).2 else r

/-- The bytes a device that `drains` takes out, if any. -/
def spill (drains : Bool) (r : Ring) : List Traffic :=
  if drains then [.drained (r.read r.used).1] else []

@[simp] lemma accepted_spill (drains : Bool) (r : Ring) : Traffic.accepted (spill drains r) = [] := by
  unfold spill
  split <;> rfl

@[simp] lemma played_spill (drains : Bool) (r : Ring) :
    Traffic.played (spill drains r) = if drains then (r.read r.used).1 else [] := by
  unfold spill
  split <;> simp

/-- Pieces offered one by one with timed puts, a device that `drains` emptying the ring before
each: the traffic through the ring, and the ring after. A piece the put accepts is taken whole;
any other answer leaves the ring as it was. -/
inductive Offers (drains : Bool) : Ring → List (List UInt8) → List Traffic → Ring → Prop
  | nil (r : Ring) : Offers drains r [] [] r
  | accept {r r₁ r' : Ring} {p : List UInt8} {ps : List (List UInt8)} {log : List Traffic}
      {sig : List (Monitor.Signal Condition)} :
      turn (.put p true) (drainIf drains r) = .finish (.ok (.accepted true)) r₁ sig →
      Offers drains r₁ ps log r' → Offers drains r (p :: ps) (spill drains r ++ .inflow p :: log) r'
  | refuse {r r' : Ring} {p : List UInt8} {ps : List (List UInt8)} {log : List Traffic} :
      (∀ r₁ sig, turn (.put p true) (drainIf drains r) ≠ .finish (.ok (.accepted true)) r₁ sig) →
      Offers drains (drainIf drains r) ps log r' → Offers drains r (p :: ps) (spill drains r ++ log) r'

/-- A try never waits. -/
lemma turn_tryGet_finishes {r : Ring} {n : Nat} : ∃ res r' sig, turn (.tryGet n) r = .finish res r' sig := by
  simp only [turn]
  split
  · exact ⟨_, _, _, rfl⟩
  · split
    · exact ⟨_, _, _, rfl⟩
    · split <;> exact ⟨_, _, _, rfl⟩

/-- A ring in use: in shape, and not shut. -/
structure Live (r : Ring) : Prop where
  sound : Sound r
  active : r.active = true

section Flow

variable {drains : Bool} {r r₁ r' : Ring} {p : List UInt8} {pre : List Traffic}

/-- A device that drains takes out exactly what the ring holds, and leaves it empty and live. -/
lemma flows_drainIf (h : Live r) (hflow : Traffic.played pre ++ r.contents = Traffic.accepted pre) :
    Live (drainIf drains r) ∧
      Traffic.played (pre ++ spill drains r) ++ (drainIf drains r).contents =
        Traffic.accepted (pre ++ spill drains r) ∧
      Traffic.InOrderFrom pre (spill drains r) := by
  cases drains with
  | false => exact ⟨h, by simpa [drainIf, spill] using hflow, trivial⟩
  | true =>
    have hall : (r.read r.used).1 = r.contents := by
      rw [read_fst h.sound h.active (Nat.le_refl _), ← length_contents, List.take_length]
    have hrest : (r.read r.used).2.contents = [] := by
      rw [contents_read h.sound h.active (Nat.le_refl _), ← length_contents, List.drop_length]
    refine ⟨⟨sound_read h.sound h.active (Nat.le_refl _), h.active⟩, ?_, ?_⟩
    · simpa [drainIf, spill, hall, hrest] using hflow
    · simp only [spill, if_true, Traffic.InOrderFrom, hall, hflow, and_true]
      exact List.prefix_refl _

/-- A piece a put accepts is appended to what the ring holds. -/
lemma flows_accept {sig : List (Monitor.Signal Condition)}
    (h : Live r) (hput : turn (.put p true) r = .finish (.ok (.accepted true)) r₁ sig)
    (hflow : Traffic.played pre ++ r.contents = Traffic.accepted pre) :
    Live r₁ ∧ Traffic.played (pre ++ [.inflow p]) ++ r₁.contents = Traffic.accepted (pre ++ [.inflow p]) := by
  rcases turn_put hput with ⟨-, e, he⟩ | ⟨-, hfit, rfl, -⟩
  · cases he
  · refine ⟨⟨sound_write h.sound h.active hfit, h.active⟩, ?_⟩
    rw [contents_write h.sound h.active hfit]
    simp [← hflow]

/-- **Offering keeps the ring's stream.** Offering pieces to a live ring keeps it live, and if
what the device took so far followed by what the ring holds was what it accepted so far, that
stays so, each drain taking out the next bytes. -/
lemma flows_offers {ps : List (List UInt8)} {log : List Traffic} (hoff : Offers drains r ps log r')
    (h : Live r) (hflow : Traffic.played pre ++ r.contents = Traffic.accepted pre) :
    Live r' ∧ Traffic.played (pre ++ log) ++ r'.contents = Traffic.accepted (pre ++ log) ∧
      Traffic.InOrderFrom pre log := by
  induction hoff generalizing pre with
  | nil => simpa using ⟨h, hflow, trivial⟩
  | accept hput _ ih =>
    obtain ⟨hd, hdflow, hdorder⟩ := flows_drainIf h hflow
    obtain ⟨h₁, h₁flow⟩ := flows_accept hd hput hdflow
    obtain ⟨h', hflow', horder⟩ := ih h₁ h₁flow
    refine ⟨h', by simpa using hflow', ?_⟩
    rw [← List.singleton_append, ← List.append_assoc, Traffic.inOrderFrom_append,
      Traffic.inOrderFrom_append]
    exact ⟨⟨hdorder, trivial⟩, by simpa using horder⟩
  | refuse _ _ ih =>
    obtain ⟨hd, hdflow, hdorder⟩ := flows_drainIf h hflow
    obtain ⟨h', hflow', horder⟩ := ih hd hdflow
    exact ⟨h', by simpa using hflow', Traffic.inOrderFrom_append.2 ⟨hdorder, horder⟩⟩

/-- Offering pieces answers no pull. -/
lemma heard_offers {ps : List (List UInt8)} {log : List Traffic} (hoff : Offers drains r ps log r')
    (silence : UInt8) : ∀ e ∈ log, e.heard silence = none := by
  induction hoff with
  | nil => simp
  | accept _ _ ih => cases drains <;> simpa [spill] using ih
  | refuse _ _ ih => cases drains <;> simpa [spill] using ih

end Flow

end Ring

end Talkback.Buffer

namespace Talkback.Client

open Buffer (Ring Traffic)

section Feed

variable {drains : Bool} {r r₁ : Ring} {p : List UInt8} {ps : List (List UInt8)}

lemma feedRing_cons_accept {sig : List (Monitor.Signal Ring.Condition)}
    (h : Ring.turn (.put p true) (Ring.drainIf drains r) = .finish (.ok (.accepted true)) r₁ sig) :
    feedRing drains r (p :: ps) =
      ((feedRing drains r₁ ps).1, (feedRing drains r₁ ps).2.1 + p.length, (feedRing drains r₁ ps).2.2) := by
  simp only [Ring.drainIf] at h
  simp only [feedRing, h]

lemma feedRing_cons_refuse
    (h : ∀ r₁ sig, Ring.turn (.put p true) (Ring.drainIf drains r) ≠ .finish (.ok (.accepted true)) r₁ sig) :
    feedRing drains r (p :: ps) =
      ((feedRing drains (Ring.drainIf drains r) ps).1, (feedRing drains (Ring.drainIf drains r) ps).2.1,
        (feedRing drains (Ring.drainIf drains r) ps).2.2 + p.length) := by
  simp only [Ring.drainIf] at h
  simp only [feedRing, Ring.drainIf]

end Feed

/-- Pieces of `n ≥ 1` items put back together are the list they were cut from. -/
lemma flatten_piecesBy {α : Type} {n : Nat} (hn : 0 < n) (fuel : Nat) (xs : List α)
    (hfuel : xs.length ≤ fuel) : (piecesBy n fuel xs).flatten = xs := by
  induction fuel generalizing xs with
  | zero => simp_all [piecesBy]
  | succ fuel ih =>
    cases xs with
    | nil => simp [piecesBy]
    | cons x xs =>
      have hrest : ((x :: xs).drop n).length ≤ fuel := by simp at hfuel ⊢; omega
      simp only [piecesBy, List.flatten_cons, ih _ hrest, List.take_append_drop]

lemma flatten_pieces {α : Type} {n : Nat} (hn : 0 < n) (xs : List α) : (pieces n xs).flatten = xs :=
  flatten_piecesBy hn _ xs (Nat.le_refl _)

/-- Feeding a ring is offering it the pieces: the bytes put in are those it accepted, and with
those dropped they make up all the pieces. -/
lemma offers_feedRing (drains : Bool) (r : Ring) (ps : List (List UInt8)) :
    ∃ log, Ring.Offers drains r ps log (feedRing drains r ps).1 ∧
      (feedRing drains r ps).2.1 = (Traffic.accepted log).length ∧
      (feedRing drains r ps).2.1 + (feedRing drains r ps).2.2 = ps.flatten.length := by
  induction ps generalizing r with
  | nil => exact ⟨[], .nil r, rfl, rfl⟩
  | cons p ps ih =>
    by_cases hacc : ∃ r₁ sig, Ring.turn (.put p true) (Ring.drainIf drains r) =
        .finish (.ok (.accepted true)) r₁ sig
    · obtain ⟨r₁, sig, h⟩ := hacc
      obtain ⟨log, hoff, hput, hsum⟩ := ih r₁
      refine ⟨Ring.spill drains r ++ .inflow p :: log, ?_⟩
      rw [feedRing_cons_accept h]
      refine ⟨.accept h hoff, ?_, ?_⟩
      · simp [hput, Nat.add_comm]
      · simp only [List.flatten_cons, List.length_append]; omega
    · simp only [not_exists] at hacc
      obtain ⟨log, hoff, hput, hsum⟩ := ih (Ring.drainIf drains r)
      refine ⟨Ring.spill drains r ++ log, ?_⟩
      rw [feedRing_cons_refuse hacc]
      refine ⟨.refuse hacc hoff, ?_, ?_⟩
      · simp [hput]
      · simp only [List.flatten_cons, List.length_append]; omega

/-! ### Playing and pulling -/

namespace World

variable {τ ω : Type}

/-- The samples of a received buffer, in the client's encoding. -/
def samples (w : World τ ω) (data : List UInt8) : List UInt8 :=
  Codec.Wav.extract data w.shared.config.format.encoding

/-- The length of the pieces audio is offered to ring `r` in: as many whole frames as the ring
holds, and at least one frame. -/
def pieceLength (w : World τ ω) (r : Ring) : Nat :=
  max (max 1 w.shared.config.format.bytesPerFrame)
    (r.capacity / max 1 w.shared.config.format.bytesPerFrame * max 1 w.shared.config.format.bytesPerFrame)

lemma samples_eq_of_config {w w' : World τ ω} (h : w'.shared.config = w.shared.config) :
    w'.samples = w.samples := by
  funext d
  simp [samples, h]

lemma pieceLength_pos (w : World τ ω) (r : Ring) : 0 < w.pieceLength r := by
  unfold pieceLength
  omega

/-- What playing `data` does to ring `r`: the ring after, the bytes it took and those dropped. -/
def feedAudio (w : World τ ω) (r : Ring) (data : List UInt8) : Ring × Nat × Nat :=
  feedRing w.device.drains r (pieces (w.pieceLength r) (w.samples data))

variable {w : World τ ω} {pb : Playback} {r : Ring} {data : List UInt8}

/-- Received audio with no samples is only counted. -/
lemma play_of_samples_nil (h : w.samples data = []) : w.play data = w := by
  simp only [samples] at h
  simp [play, h, count]

/-- Received audio for a session that plays from ring `r` is offered to the ring; the bytes it
takes are played, the others dropped. -/
lemma play_of_ring (hpb : w.playback = some pb) (hr : pb.ring = some r) (hne : w.samples data ≠ []) :
    w.play data =
      { w with playback := some { pb with ring := some (w.feedAudio r data).1,
                                          bytes := pb.bytes + (w.feedAudio r data).2.1 },
               shared := { w.shared with diag := { w.shared.diag with
                 audioBytesReceived := w.shared.diag.audioBytesReceived + (w.samples data).length,
                 audioBytesDropped := w.shared.diag.audioBytesDropped + (w.feedAudio r data).2.2 } } } := by
  simp only [samples] at hne
  simp [play, hne, count, ensurePlayback, hpb, hr, feedAudio, samples, pieceLength]

variable {dev : Device}

/-- Received audio for a session that writes to the device is handed to one write, whole; if the
device takes it, it is played. -/
lemma play_of_written (hpb : w.playback = some pb) (hr : pb.ring = none) (hne : w.samples data ≠ [])
    (hw : w.device.writePlayback (w.samples data) = (dev, .ok ())) :
    w.play data =
      { w with device := dev, playback := some { pb with bytes := pb.bytes + (w.samples data).length },
               shared := { w.shared with diag := { w.shared.diag with
                 audioBytesReceived := w.shared.diag.audioBytesReceived + (w.samples data).length } } } := by
  simp only [samples] at hne hw ⊢
  simp [play, hne, ensurePlayback, count, hpb, hr, hw]

/-- Received audio a session's device refuses to take is dropped. -/
lemma play_of_unwritten {e : Error} (hpb : w.playback = some pb) (hr : pb.ring = none)
    (hne : w.samples data ≠ []) (hw : w.device.writePlayback (w.samples data) = (dev, .error e)) :
    w.play data =
      { w with device := dev,
               shared := { w.shared with diag := { w.shared.diag with
                 audioBytesReceived := w.shared.diag.audioBytesReceived + (w.samples data).length,
                 audioBytesDropped := w.shared.diag.audioBytesDropped + (w.samples data).length } } } := by
  simp only [samples] at hne hw ⊢
  simp [play, hne, ensurePlayback, count, hpb, hr, hw]

variable {n : Nat} {r' : Ring} {b : List UInt8} {sig : List (Monitor.Signal Ring.Condition)}

/-- A pull the ring can fill takes the bytes out. -/
lemma pull_of_filled (hopen : w.device.pullOpen = true) (hpb : w.playback = some pb) (hr : pb.ring = some r)
    (ht : Ring.turn (.tryGet n) r = .finish (.ok (.filled true b)) r' sig) :
    w.pull n = (some b, { w with playback := some { pb with ring := some r', playing := true } }) := by
  simp [pull, hopen, hpb, hr, ht]

/-- A pull the ring cannot fill gets silence; a change from audio to silence is counted. -/
lemma pull_of_unfilled_eq (hopen : w.device.pullOpen = true) (hpb : w.playback = some pb)
    (hr : pb.ring = some r)
    (ht : ∀ b r' sig, Ring.turn (.tryGet n) r ≠ .finish (.ok (.filled true b)) r' sig) :
    w.pull n = if pb.playing then
      (some (List.replicate n w.shared.config.format.silence),
        { w with playback := some { pb with playing := false, underflows := pb.underflows + 1 } }.count
          fun d => { d with playbackUnderflows := d.playbackUnderflows + 1 })
      else (some (List.replicate n w.shared.config.format.silence), w) := by
  obtain ⟨res, r₁, sig₁, hturn⟩ := Ring.turn_tryGet_finishes (r := r) (n := n)
  rcases Ring.turn_tryGet hturn with ⟨-, e, rfl⟩ | ⟨-, -, rfl, rfl⟩ | ⟨-, -, rfl, rfl⟩
  · simp [pull, hopen, hpb, hr, hturn]
  · exact absurd hturn (ht _ _ _)
  · simp [pull, hopen, hpb, hr, hturn]

/-- A pull the ring cannot fill gets silence, and leaves the ring and the device alone. -/
lemma pull_of_unfilled (hopen : w.device.pullOpen = true) (hpb : w.playback = some pb) (hr : pb.ring = some r)
    (ht : ∀ b r' sig, Ring.turn (.tryGet n) r ≠ .finish (.ok (.filled true b)) r' sig) :
    (w.pull n).1 = some (List.replicate n w.shared.config.format.silence) ∧
      (w.pull n).2.device = w.device ∧ (w.pull n).2.shared.config = w.shared.config ∧
      ∃ pb', (w.pull n).2.playback = some pb' ∧ pb'.ring = pb.ring ∧ pb'.bytes = pb.bytes := by
  rw [pull_of_unfilled_eq hopen hpb hr ht]
  split
  · exact ⟨rfl, rfl, rfl, _, rfl, rfl, rfl⟩
  · exact ⟨rfl, rfl, rfl, pb, hpb, rfl, rfl⟩

/-- Without a pull stream, or with no ring to pull from, a pull leaves the device and the
playback's ring and bytes alone. -/
lemma pull_of_no_ring (hr : ∀ pb, w.playback = some pb → pb.ring = none) :
    (w.pull n).2.device = w.device ∧ (w.pull n).2.shared.config = w.shared.config ∧
      ∀ pb, w.playback = some pb → ∃ pb', (w.pull n).2.playback = some pb' ∧ pb'.ring = none ∧
        pb'.bytes = pb.bytes := by
  unfold pull
  split
  · exact ⟨rfl, rfl, fun pb h => ⟨pb, h, hr pb h, rfl⟩⟩
  · split
    · next pb hpb =>
      simp only [hr pb hpb, Option.map_none]
      split
      · exact ⟨rfl, rfl, fun pb' h => ⟨_, rfl, by simp_all, by simp_all⟩⟩
      · exact ⟨rfl, rfl, fun pb' h => ⟨pb', h, hr pb' h, rfl⟩⟩
    · exact ⟨rfl, rfl, fun pb h => ⟨pb, h, hr pb h, rfl⟩⟩

/-- Playback opened in pull mode: an empty ring of the configured size, and the device's pull
stream open. -/
lemma ensurePlayback_pull {w' : World τ ω} (hpb : w.playback = none)
    (hmode : w.shared.config.playbackMode = .pull) (h : w.ensurePlayback = (.ok (), w')) :
    w'.playback = some { ring := some (Ring.create w.shared.config.playbackBufferBytes) } ∧
      w'.device = { w.device with pullOpen := true } ∧ w'.shared.config = w.shared.config := by
  cases he : w.device.playbackError with
  | none =>
    have hs : w.device.startPlayback .pull = ({ w.device with pullOpen := true }, .ok ()) := by
      simp [Device.startPlayback, he]
    simp only [ensurePlayback, hpb, Option.isSome_none, Bool.false_eq_true, if_false, hmode, hs,
      Prod.mk.injEq, true_and] at h
    subst h
    exact ⟨rfl, rfl, rfl⟩
  | some e => simp [ensurePlayback, hpb, Device.startPlayback, he] at h

/-- Playback opened in blocking mode: no ring, and the device's blocking stream open. -/
lemma ensurePlayback_blocking {w' : World τ ω} (hpb : w.playback = none)
    (hmode : w.shared.config.playbackMode = .blocking) (h : w.ensurePlayback = (.ok (), w')) :
    w'.playback = some { ring := none } ∧ w'.device = { w.device with blockingOpen := true } ∧
      w'.shared.config = w.shared.config := by
  cases he : w.device.playbackError with
  | none =>
    have hs : w.device.startPlayback .blocking = ({ w.device with blockingOpen := true }, .ok ()) := by
      simp [Device.startPlayback, he]
    simp only [ensurePlayback, hpb, Option.isSome_none, Bool.false_eq_true, if_false, hmode, hs,
      Prod.mk.injEq, true_and] at h
    subst h
    exact ⟨rfl, rfl, rfl⟩
  | some e => simp [ensurePlayback, hpb, Device.startPlayback, he] at h

end World

/-! ### Sessions -/

/-- A step of a playback session: the loop plays a buffer it received, or the device pulls `n`
bytes. -/
inductive Cue where
  | play (data : List UInt8)
  | pull (n : Nat)
  deriving DecidableEq, Repr

/-- The buffer a cue plays, if it plays one. -/
def Cue.audio : Cue → Option (List UInt8)
  | .play d => some d
  | .pull _ => none

@[simp] lemma Cue.audio_play (d : List UInt8) : (Cue.play d).audio = some d := rfl
@[simp] lemma Cue.audio_pull (n : Nat) : (Cue.pull n).audio = none := rfl

/-- The bytes a cue asks the ring for, if it is a pull. -/
def Cue.request : Cue → Option Nat
  | .play _ => none
  | .pull n => some n

@[simp] lemma Cue.request_play (d : List UInt8) : (Cue.play d).request = none := rfl
@[simp] lemma Cue.request_pull (n : Nat) : (Cue.pull n).request = some n := rfl

namespace World

variable {τ ω : Type}

/-- Take cues in order, giving what each pull got. -/
def cues : List Cue → World τ ω → List (Option (List UInt8)) × World τ ω
  | [], w => ([], w)
  | .play d :: cs, w => cues cs (w.play d)
  | .pull n :: cs, w => ((w.pull n).1 :: (cues cs (w.pull n).2).1, (cues cs (w.pull n).2).2)

/-- The traffic that cues make through the playback ring of `w`: a play offers the samples of its
buffer, cut in order into pieces; a pull takes out what the ring gives it, or finds it
starved. -/
inductive Traces : World τ ω → List Cue → List Traffic → Prop
  | nil (w : World τ ω) : Traces w [] []
  | play {w : World τ ω} {d : List UInt8} {cs : List Cue} {pb : Playback} {r r' : Ring}
      {ps : List (List UInt8)} {t log : List Traffic} :
      w.playback = some pb → pb.ring = some r → ps.flatten = w.samples d →
      Ring.Offers w.device.drains r ps t r' → (w.play d).playback.bind Playback.ring = some r' →
      Traces (w.play d) cs log → Traces w (.play d :: cs) (t ++ log)
  | served {w : World τ ω} {n : Nat} {cs : List Cue} {pb : Playback} {r r' : Ring} {b : List UInt8}
      {sig : List (Monitor.Signal Ring.Condition)} {log : List Traffic} :
      w.playback = some pb → pb.ring = some r →
      Ring.turn (.tryGet n) r = .finish (.ok (.filled true b)) r' sig →
      Traces (w.pull n).2 cs log → Traces w (.pull n :: cs) (.outflow b :: log)
  | starved {w : World τ ω} {n : Nat} {cs : List Cue} {pb : Playback} {r : Ring} {log : List Traffic} :
      w.playback = some pb → pb.ring = some r →
      (∀ b r' sig, Ring.turn (.tryGet n) r ≠ .finish (.ok (.filled true b)) r' sig) →
      Traces (w.pull n).2 cs log → Traces w (.pull n :: cs) (.starved n :: log)

@[simp] lemma cues_nil (w : World τ ω) : w.cues [] = ([], w) := rfl

@[simp] lemma cues_play (w : World τ ω) (d : List UInt8) (cs : List Cue) :
    w.cues (.play d :: cs) = (w.play d).cues cs := rfl

@[simp] lemma cues_pull (w : World τ ω) (n : Nat) (cs : List Cue) :
    w.cues (.pull n :: cs) = ((w.pull n).1 :: ((w.pull n).2.cues cs).1, ((w.pull n).2.cues cs).2) := rfl

variable {w : World τ ω} {pb : Playback} {r : Ring}

/-- **A pull session keeps the ring's stream.** From a live ring whose contents follow the bytes
accepted after the bytes taken out (as recorded in `pre`), any cues make traffic that answers
each pull with its bytes or with silence, in order, and each time the device takes bytes out,
they are the next ones accepted. -/
lemma pull_session (hpb : w.playback = some pb) (hr : pb.ring = some r) (hlive : Ring.Live r)
    (hopen : w.device.pullOpen = true) {pre : List Traffic}
    (hflow : Traffic.played pre ++ r.contents = Traffic.accepted pre) (cs : List Cue) :
    ∃ log, Traces w cs log ∧
      (w.cues cs).1 = (log.filterMap (Traffic.heard w.shared.config.format.silence)).map some ∧
      Traffic.InOrderFrom pre log := by
  induction cs generalizing w pb r pre with
  | nil => exact ⟨[], .nil w, rfl, trivial⟩
  | cons c cs ih =>
    cases c with
    | play d =>
      by_cases hs : w.samples d = []
      · -- nothing to play: the world is as it was
        have hw := play_of_samples_nil hs
        obtain ⟨log, htr, hout, hord⟩ := ih hpb hr hlive hopen hflow
        have hnil : ([] : List (List UInt8)).flatten = w.samples d := by simp [hs]
        refine ⟨[] ++ log, .play hpb hr hnil (.nil r) (by simp [hw, hpb, hr])
          (by rw [hw]; exact htr), ?_, by simpa using hord⟩
        simp [hw, hout]
      · -- the pieces go to the ring; the world after has the ring they leave
        have hw := play_of_ring hpb hr hs
        obtain ⟨t, hoff, -, -⟩ := offers_feedRing w.device.drains r (pieces (w.pieceLength r) (w.samples d))
        obtain ⟨hlive', hflow', hord⟩ := Ring.flows_offers hoff hlive hflow
        have hpb' : (w.play d).playback =
            some { pb with ring := some (w.feedAudio r d).1, bytes := pb.bytes + (w.feedAudio r d).2.1 } := by
          rw [hw]
        obtain ⟨log, htr, hout, hord'⟩ := ih (w := w.play d) hpb' rfl hlive' (by rw [hw]; exact hopen) hflow'
        refine ⟨t ++ log, .play hpb hr (flatten_pieces (w.pieceLength_pos r) _) hoff (by simp [hpb', feedAudio])
          htr, ?_, Traffic.inOrderFrom_append.2 ⟨hord, hord'⟩⟩
        have hconfig : (w.play d).shared.config = w.shared.config := by rw [hw]
        rw [cues_play, hout, hconfig, List.filterMap_append,
          List.filterMap_eq_nil_iff.2 (Ring.heard_offers hoff _), List.nil_append]
    | pull n =>
      -- a pull the ring cannot fill is answered with silence and leaves the ring as it was
      have hstarve : (∀ b r' sig, Ring.turn (.tryGet n) r ≠ .finish (.ok (.filled true b)) r' sig) →
          ∃ log, Traces w (.pull n :: cs) log ∧
            (w.cues (.pull n :: cs)).1 =
              (log.filterMap (Traffic.heard w.shared.config.format.silence)).map some ∧
            Traffic.InOrderFrom pre log := by
        intro hne
        obtain ⟨hout, hdev, hcfg, pb', hpb', hring, -⟩ := pull_of_unfilled hopen hpb hr hne
        obtain ⟨log, htr, hout', hord⟩ := ih hpb' (hring.trans hr) hlive (by rw [hdev]; exact hopen)
          (show Traffic.played (pre ++ [.starved n]) ++ r.contents = Traffic.accepted (pre ++ [.starved n])
            by simpa using hflow)
        exact ⟨.starved n :: log, .starved hpb hr hne htr, by simp [hout, hout', hcfg], hord⟩
      obtain ⟨res, r₁, sig₁, hturn⟩ := Ring.turn_tryGet_finishes (r := r) (n := n)
      rcases Ring.turn_tryGet hturn with ⟨rfl, e, rfl⟩ | ⟨-, hk, rfl, rfl⟩ | ⟨-, -, rfl, rfl⟩
      · exact hstarve fun b r' sig h => by rw [hturn] at h; cases h
      · -- the ring holds enough: the next `n` bytes come out
        have hw := pull_of_filled hopen hpb hr hturn
        have hlive' : Ring.Live (r.read n).2 :=
          ⟨Ring.sound_read hlive.sound hlive.active hk, hlive.active⟩
        have htake := Ring.read_fst hlive.sound hlive.active hk
        have hdrop := Ring.contents_read hlive.sound hlive.active hk
        have hflow' : Traffic.played (pre ++ [.outflow (r.read n).1]) ++ (r.read n).2.contents =
            Traffic.accepted (pre ++ [.outflow (r.read n).1]) := by
          simp [htake, hdrop, ← hflow]
        obtain ⟨log, htr, hout, hord⟩ := ih (w := (w.pull n).2) (by rw [hw]) rfl hlive'
          (by rw [hw]; exact hopen) hflow'
        refine ⟨.outflow (r.read n).1 :: log, .served hpb hr hturn htr, by simp [hw] at hout ⊢; exact hout, ?_⟩
        refine ⟨?_, hord⟩
        rw [htake, ← hflow]
        exact List.prefix_append_right_inj _ |>.2 (List.take_prefix _ _)
      · exact hstarve fun b r' sig h => by rw [hturn] at h; cases h

/-- Every pull is answered with as many bytes as it asked for. -/
lemma Traces.heard_lengths {cs : List Cue} {log : List Traffic} (h : Traces w cs log) (s : UInt8) :
    (log.filterMap (Traffic.heard s)).map List.length = cs.filterMap Cue.request := by
  induction h with
  | nil => rfl
  | play _ _ _ hoff _ _ ih =>
    rw [List.filterMap_append, List.filterMap_eq_nil_iff.2 (Ring.heard_offers hoff s),
      List.filterMap_cons_none (Cue.request_play _)]
    exact ih
  | served _ _ hturn _ ih =>
    rw [List.filterMap_cons_some (Cue.request_pull _)]
    rcases Ring.turn_tryGet hturn with ⟨-, e, he⟩ | ⟨-, -, -, he⟩ | ⟨-, -, -, he⟩
    · cases he
    · cases he
      simpa [Ring.read] using ih
    · cases he
  | starved _ _ _ _ ih =>
    rw [List.filterMap_cons_some (Cue.request_pull _)]
    simpa using ih

/-- **A blocking session writes what arrives.** While the session writes to the device, the device
is written the samples of each buffer played, in order, if it takes writes, and nothing if it
refuses them. -/
lemma blocking_session (hpb : w.playback = some pb) (hr : pb.ring = none)
    (hopen : w.device.blockingOpen = true) (cs : List Cue) :
    (w.cues cs).2.device.written = w.device.written ++
      if w.device.writeError = none then ((cs.filterMap Cue.audio).map w.samples).flatten else [] := by
  induction cs generalizing w pb with
  | nil => simp
  | cons c cs ih =>
    cases c with
    | play d =>
      by_cases hs : w.samples d = []
      · rw [cues_play, play_of_samples_nil hs, ih hpb hr hopen]
        simp [Cue.audio, hs]
      cases he : w.device.writeError with
      | none =>
        -- the device takes the samples; it keeps taking writes
        have hwrite : w.device.writePlayback (w.samples d) =
            ({ w.device with written := w.device.written ++ w.samples d }, .ok ()) := by
          simp [Device.writePlayback, he, hopen]
        have hw := play_of_written hpb hr hs hwrite
        have hpb' : (w.play d).playback = some { pb with bytes := pb.bytes + (w.samples d).length } := by
          rw [hw]
        have hsamples : (w.play d).samples = w.samples := samples_eq_of_config (by rw [hw])
        rw [cues_play, ih hpb' hr (by rw [hw]; exact hopen), hsamples]
        simp [hw, he, Cue.audio]
      | some e =>
        have hwrite : w.device.writePlayback (w.samples d) = (w.device, .error (.audioStream e)) := by
          simp [Device.writePlayback, he]
        have hw := play_of_unwritten hpb hr hs hwrite
        have hsamples : (w.play d).samples = w.samples := samples_eq_of_config (by rw [hw])
        rw [cues_play, ih (w := w.play d) (by rw [hw]; exact hpb) hr (by rw [hw]; exact hopen), hsamples]
        simp [hw, he]
    | pull n =>
      -- a pull finds no ring, and touches neither the device nor the samples
      obtain ⟨hdev, hcfg, hrest⟩ := pull_of_no_ring (w := w) (n := n) fun pb' h => by
        rw [hpb] at h; cases h; exact hr
      obtain ⟨pb', hpb', hr', -⟩ := hrest pb hpb
      rw [cues_pull, ih hpb' hr' (by rw [hdev]; exact hopen), hdev, samples_eq_of_config hcfg,
        List.filterMap_cons_none (Cue.audio_pull n)]

end World

/-- A client that has played nothing, whose playback ring holds four bytes. -/
def fourByteClient : World Unit Unit :=
  { shared := { config := { playbackBufferBytes := 4 }, queue := Dispatch.Queue.create 1,
                capture := Buffer.Capture.create 0 },
    device := {}, conn := (), peer := () }

end Talkback.Client
