import Talkback.Proofs.WavLayout

/-!
How the chunk scanner walks any buffer.

Each turn of the scanner reads the chunk header at its position if eight bytes are left there: a
`data` header ends the scan with the body it announces, cut to the bytes present, and any other
header sends the scan on past the body its size field declares, so at least eight bytes further
(`scanStep`). The headers read from a position on form the chunk chain from there (`Chain`). So
on a buffer of `n` bytes the scan stops within `n / 8 + 1` turns whatever sizes the headers
declare, the region it gives lies inside the buffer, and the buffer is read whole exactly when it
is short, is not RIFF, or its chain from offset 12 holds no `data` header
(`locate_scans_within_bounds`).

A RIFF file pads a chunk of odd size with one byte that the size does not count. The scanner
skips a chunk by its size alone, so it stands on the next header only while no chunk before has
an odd size (`locate_data_after_even_chunks`); past an odd one it reads a header one byte early.
-/

namespace Talkback.Codec.Wav

/-! ### One turn of the scanner -/

/-- The tag of the chunk header at `p`. -/
def tagAt (buf : List UInt8) (p : Nat) : List UInt8 := (buf.drop p).take 4

/-- The body size the chunk header at `p` declares. -/
def sizeAt (buf : List UInt8) (p : Nat) : Nat := le32 ((buf.drop p).drop 4)

/-- The body of the chunk whose header is at `p`, cut to the bytes present. -/
def bodyAt (buf : List UInt8) (p : Nat) : Region := ⟨p + 8, min (sizeAt buf p) (buf.length - (p + 8))⟩

/-- What one turn of the scanner finds. -/
inductive Scan where
  /-- A `data` header, with the region of its body. -/
  | found (r : Region)
  /-- Another header; the next one is looked for at `pos`. -/
  | next (pos : Nat)
  /-- Fewer than eight bytes are left. -/
  | stop
  deriving DecidableEq, Repr

/-- One turn of the scanner at `pos`. -/
def scanStep (buf : List UInt8) (pos : Nat) : Scan :=
  if pos + 8 ≤ buf.length then
    if tagAt buf pos = tag "data" then .found (bodyAt buf pos) else .next (pos + 8 + sizeAt buf pos)
  else .stop

/-- The scanner given at most `n` turns: `some` of what it gives if it stops by then. -/
def scanFor : Nat → List UInt8 → Nat → Option (Option Region)
  | 0, _, _ => none
  | n + 1, buf, pos =>
    match scanStep buf pos with
    | .found r => some (some r)
    | .stop => some none
    | .next q => scanFor n buf q

/-- Everything a turn can do. -/
theorem scanStep_cases (buf : List UInt8) (pos : Nat) :
    (pos + 8 ≤ buf.length ∧ tagAt buf pos = tag "data" ∧ scanStep buf pos = .found (bodyAt buf pos)) ∨
    (pos + 8 ≤ buf.length ∧ tagAt buf pos ≠ tag "data" ∧
      scanStep buf pos = .next (pos + 8 + sizeAt buf pos)) ∨
    (buf.length < pos + 8 ∧ scanStep buf pos = .stop) := by
  unfold scanStep
  by_cases hfit : pos + 8 ≤ buf.length
  · by_cases hdata : tagAt buf pos = tag "data"
    · exact .inl ⟨hfit, hdata, by simp [hfit, hdata]⟩
    · exact .inr (.inl ⟨hfit, hdata, by simp [hfit, hdata]⟩)
  · exact .inr (.inr ⟨by omega, by simp [hfit]⟩)

/-- The scanner is its turn, repeated. -/
theorem findData_eq (buf : List UInt8) (pos : Nat) :
    findData buf pos =
      match scanStep buf pos with
      | .found r => some r
      | .stop => none
      | .next q => findData buf q := by
  rw [findData]
  rcases scanStep_cases buf pos with ⟨hfit, hdata, hs⟩ | ⟨hfit, hne, hs⟩ | ⟨hshort, hs⟩ <;> rw [hs]
  · simp only [tagAt] at hdata
    simp only [if_pos hfit, if_pos hdata, bodyAt, sizeAt]
  · simp only [tagAt] at hne
    simp only [if_pos hfit, if_neg hne, sizeAt]
  · rw [if_neg (by omega)]

/-- A turn that moves on read a whole header and moves at least eight bytes. -/
theorem scanStep_next {buf : List UInt8} {pos q : Nat} (h : scanStep buf pos = .next q) :
    pos + 8 ≤ buf.length ∧ tagAt buf pos ≠ tag "data" ∧ q = pos + 8 + sizeAt buf pos := by
  rcases scanStep_cases buf pos with ⟨-, -, hs⟩ | ⟨hfit, hne, hs⟩ | ⟨-, hs⟩ <;> rw [hs] at h
  · cases h
  · cases h
    exact ⟨hfit, hne, rfl⟩
  · cases h

/-- A turn that finds a `data` header read it whole. -/
theorem scanStep_found {buf : List UInt8} {pos : Nat} {r : Region} (h : scanStep buf pos = .found r) :
    pos + 8 ≤ buf.length ∧ tagAt buf pos = tag "data" ∧ r = bodyAt buf pos := by
  rcases scanStep_cases buf pos with ⟨hfit, hdata, hs⟩ | ⟨-, -, hs⟩ | ⟨-, hs⟩ <;> rw [hs] at h
  · cases h
    exact ⟨hfit, hdata, rfl⟩
  · cases h
  · cases h

/-- A turn stops only short of a header. -/
theorem scanStep_stop {buf : List UInt8} {pos : Nat} (h : scanStep buf pos = .stop) : buf.length < pos + 8 := by
  rcases scanStep_cases buf pos with ⟨-, -, hs⟩ | ⟨-, -, hs⟩ | ⟨hshort, -⟩
  · rw [hs] at h; cases h
  · rw [hs] at h; cases h
  · exact hshort

/-- Induction along the scan: what holds at a position once it holds where the turn there moves
on to holds everywhere. The measure is the bytes left, which every turn that moves on shrinks. -/
theorem scan_induction (buf : List UInt8) {P : Nat → Prop}
    (step : ∀ pos, (∀ q, scanStep buf pos = .next q → P q) → P pos) (pos : Nat) : P pos := by
  suffices h : ∀ n pos, buf.length - pos < n → P pos from h _ pos (Nat.lt_succ_self _)
  intro n
  induction n with
  | zero => intro pos h; omega
  | succ n ih =>
    intro pos hn
    refine step pos fun q hq => ?_
    obtain ⟨hfit, -, rfl⟩ := scanStep_next hq
    exact ih _ (by omega)

/-- **The scan stops in time.** From `pos`, `(n - pos) / 8 + 1` turns are enough on a buffer of `n`
bytes, and give what the scanner gives. -/
theorem scanFor_enough {buf : List UInt8} {n pos : Nat} (hn : (buf.length - pos) / 8 + 1 ≤ n) :
    scanFor n buf pos = some (findData buf pos) := by
  induction n generalizing pos with
  | zero => omega
  | succ n ih =>
    rw [scanFor, findData_eq]
    rcases hs : scanStep buf pos with r | q | _
    · rfl
    · -- the turn read a header, so at least eight bytes fewer are left
      obtain ⟨hfit, -, rfl⟩ := scanStep_next hs
      exact ih (by omega)
    · rfl

/-! ### The chunk chain -/

/-- The chunk headers read from `pos` on: a header that fits in the buffer is read, and after one
that is not `data` the chain goes on past the body its size declares. -/
inductive Chain (buf : List UInt8) : Nat → Nat → Prop
  | here {p : Nat} : p + 8 ≤ buf.length → Chain buf p p
  | skip {pos p : Nat} : pos + 8 ≤ buf.length → tagAt buf pos ≠ tag "data" →
      Chain buf (pos + 8 + sizeAt buf pos) p → Chain buf pos p

namespace Chain

variable {buf : List UInt8} {pos p : Nat}

theorem fits (h : Chain buf pos p) : p + 8 ≤ buf.length := by
  induction h with
  | here hfit => exact hfit
  | skip _ _ _ ih => exact ih

theorem le (h : Chain buf pos p) : pos ≤ p := by
  induction h with
  | here => exact Nat.le_refl _
  | skip _ _ _ ih => omega

/-- The chain past a header that is not `data` is the header and the chain after it. -/
theorem iff_of_next {q : Nat} (hs : scanStep buf pos = .next q) :
    Chain buf pos p ↔ p = pos ∨ Chain buf q p := by
  obtain ⟨hfit, hne, rfl⟩ := scanStep_next hs
  constructor
  · rintro (_ | ⟨_, _, h⟩)
    · exact .inl rfl
    · exact .inr h
  · rintro (rfl | h)
    · exact .here hfit
    · exact .skip hfit hne h

/-- Where a turn finds a `data` header, the chain ends there. -/
theorem eq_of_found {r : Region} (hs : scanStep buf pos = .found r) (h : Chain buf pos p) : p = pos := by
  cases h with
  | here => rfl
  | skip _ hne _ => exact absurd (scanStep_found hs).2.1 hne

/-- Where a turn stops, no header is read. -/
theorem not_of_stop (hs : scanStep buf pos = .stop) : ¬ Chain buf pos p := fun h => by
  have hshort := scanStep_stop hs
  cases h with
  | here hfit => omega
  | skip hfit => omega

end Chain

/-- **What the scanner finds.** It gives a region exactly when the chain holds a `data` header,
and then the body of that header, which is the first `data` header of the chain. -/
theorem findData_eq_some_iff (buf : List UInt8) (pos : Nat) (r : Region) :
    findData buf pos = some r ↔ ∃ p, Chain buf pos p ∧ tagAt buf p = tag "data" ∧ r = bodyAt buf p := by
  induction pos using scan_induction buf with
  | step pos ih =>
    rw [findData_eq]
    rcases scanStep_cases buf pos with ⟨hfit, hdata, hs⟩ | ⟨-, hne, hs⟩ | ⟨-, hs⟩ <;> rw [hs]
    · -- a `data` header here: the chain ends on it
      constructor
      · rintro ⟨⟩
        exact ⟨pos, .here hfit, hdata, rfl⟩
      · rintro ⟨p, hp, -, rfl⟩
        rw [Chain.eq_of_found hs hp]
    · -- another header: the region is the one found past it
      rw [ih _ hs]
      simp only [Chain.iff_of_next hs]
      constructor
      · rintro ⟨p, hp, hdata, rfl⟩
        exact ⟨p, .inr hp, hdata, rfl⟩
      · rintro ⟨p, rfl | hp, hdata, rfl⟩
        · exact absurd hdata hne
        · exact ⟨p, hp, hdata, rfl⟩
    · simp only [reduceCtorEq, false_iff, not_exists, not_and]
      exact fun p hp => absurd hp (Chain.not_of_stop hs)

/-- The scanner finds nothing exactly when the chain holds no `data` header. -/
theorem findData_eq_none_iff (buf : List UInt8) (pos : Nat) :
    findData buf pos = none ↔ ∀ p, Chain buf pos p → tagAt buf p ≠ tag "data" := by
  rw [Option.eq_none_iff_forall_ne_some]
  simp only [ne_eq, findData_eq_some_iff, not_exists, not_and]
  exact ⟨fun h p hp hdata => h _ p hp hdata rfl, fun h r p hp hdata _ => h p hp hdata⟩

/-- A region the scanner finds lies inside the buffer, past the header at `pos`. -/
theorem findData_within {buf : List UInt8} {pos : Nat} {r : Region} (h : findData buf pos = some r) :
    pos + 8 ≤ r.offset ∧ r.offset + r.len ≤ buf.length := by
  obtain ⟨p, hp, -, rfl⟩ := (findData_eq_some_iff buf pos r).1 h
  have hfit := hp.fits
  have hle := hp.le
  simp only [bodyAt]
  omega

/-! ### Where the samples of any buffer are -/

/-- The buffer read whole. -/
def whole (buf : List UInt8) : Region := ⟨0, buf.length⟩

theorem locate_eq (buf : List UInt8) :
    locate buf = if buf.length < 12 ∨ buf.take 4 ≠ tag "RIFF" then whole buf
      else (findData buf 12).getD (whole buf) := rfl

/-- The region of any buffer lies inside it. -/
theorem locate_within (buf : List UInt8) : (locate buf).offset + (locate buf).len ≤ buf.length := by
  rw [locate_eq]
  split
  · simp [whole]
  · cases hf : findData buf 12 with
    | none => simp [whole]
    | some r => exact (findData_within hf).2

/-- A buffer is read whole exactly when it is short, is not RIFF, or its chain from offset 12 holds
no `data` header: a `data` body starts past offset 12. -/
theorem locate_eq_whole_iff (buf : List UInt8) :
    locate buf = whole buf ↔
      buf.length < 12 ∨ buf.take 4 ≠ tag "RIFF" ∨ ∀ p, Chain buf 12 p → tagAt buf p ≠ tag "data" := by
  rw [locate_eq, ← findData_eq_none_iff, ← or_assoc]
  by_cases h : buf.length < 12 ∨ buf.take 4 ≠ tag "RIFF"
  · rw [if_pos h]
    exact iff_of_true rfl (.inl h)
  · rw [if_neg h, or_iff_right h]
    cases hf : findData buf 12 with
    | none => simp
    | some r =>
      have := (findData_within hf).1
      simp only [Option.getD_some, reduceCtorEq, iff_false]
      intro hr
      rw [hr] at this
      simp [whole] at this

/-- A region inside the buffer is sliced whole. -/
theorem length_slice {r : Region} {buf : List UInt8} (h : r.offset + r.len ≤ buf.length) :
    (r.slice buf).length = r.len := by
  simp only [Region.slice, List.length_take, List.length_drop]
  omega

/-- The samples taken from a buffer: for PCM16 the region cut to whole 16-bit samples, for mu-law
the region as it is. -/
theorem extract_eq_take (buf : List UInt8) :
    extract buf .pcm16 = ((locate buf).slice buf).take (2 * ((locate buf).len / 2)) ∧
      extract buf .mulaw = (locate buf).slice buf := by
  have hlen := length_slice (locate_within buf)
  refine ⟨?_, rfl⟩
  simp only [extract]
  split
  · rw [hlen]
    congr 1
    omega
  · rw [List.take_of_length_le (by rw [hlen]; omega)]

/-- **The scanner on any buffer.** Whatever sizes its headers declare, the scan of a buffer of `n`
bytes stops within `n / 8 + 1` turns, and the region it gives lies inside the buffer, so its
slice holds exactly its length. The buffer is read whole exactly when it is shorter than twelve
bytes, does not start with `RIFF`, or its chunk chain from offset 12 holds no `data` header.
The PCM16 samples are the region less a last odd byte, always whole 16-bit samples, and the
mu-law samples are the region itself. -/
theorem locate_scans_within_bounds (buf : List UInt8) :
    scanFor (buf.length / 8 + 1) buf 12 = some (findData buf 12) ∧
    (locate buf).offset + (locate buf).len ≤ buf.length ∧
    ((locate buf).slice buf).length = (locate buf).len ∧
    (locate buf = whole buf ↔
      buf.length < 12 ∨ buf.take 4 ≠ tag "RIFF" ∨ ∀ p, Chain buf 12 p → tagAt buf p ≠ tag "data") ∧
    extract buf .pcm16 = ((locate buf).slice buf).take (2 * ((locate buf).len / 2)) ∧
    (extract buf .pcm16).length = 2 * ((locate buf).len / 2) ∧
    extract buf .mulaw = (locate buf).slice buf := by
  have hwithin := locate_within buf
  have hlen := length_slice hwithin
  obtain ⟨h16, hmu⟩ := extract_eq_take buf
  refine ⟨scanFor_enough (by omega), hwithin, hlen, locate_eq_whole_iff buf, h16, ?_, hmu⟩
  rw [h16, List.length_take, hlen]
  omega

/-! ### Well-formed RIFF files -/

/-- A chunk of a RIFF file: a four-byte tag and a body whose length fits the 32-bit size field. -/
structure Chunk where
  tag : List UInt8
  body : List UInt8
  tag_length : tag.length = 4
  body_fits : body.length < Nat.pow 2 32

/-- A chunk as a RIFF file holds it: the tag, the body's length as a little-endian 32-bit word, the
body, and a zero pad byte after a body of odd length. -/
def Chunk.bytes (c : Chunk) : List UInt8 :=
  c.tag ++ put32 c.body.length ++ c.body ++ List.replicate (c.body.length % 2) 0

/-- The start of a RIFF/WAVE file with size field `size`: its twelve-byte header, then `chunks`. -/
def riffHead (size : Nat) (chunks : List Chunk) : List UInt8 :=
  tag "RIFF" ++ put32 size ++ tag "WAVE" ++ (chunks.map Chunk.bytes).flatten

/-- The scanner passes over chunks of even size that are not `data`, one after another. -/
theorem findData_past_chunks {buf : List UInt8} {pos : Nat} {chunks : List Chunk} {rest : List UInt8}
    (hbuf : buf.drop pos = (chunks.map Chunk.bytes).flatten ++ rest)
    (hnd : ∀ c ∈ chunks, c.tag ≠ tag "data") (heven : ∀ c ∈ chunks, c.body.length % 2 = 0) :
    findData buf pos = findData buf (pos + ((chunks.map Chunk.bytes).flatten).length) := by
  induction chunks generalizing pos with
  | nil => simp
  | cons c cs ih =>
    -- an even chunk has no pad byte, so the next header starts right after its body
    have hpad : List.replicate (c.body.length % 2) (0 : UInt8) = [] := by
      rw [heven c List.mem_cons_self]; rfl
    have hc : c.bytes = c.tag ++ put32 c.body.length ++ c.body := by
      rw [Chunk.bytes, hpad, List.append_nil]
    have hhead : buf.drop pos = c.tag ++ put32 c.body.length ++
        (c.body ++ (cs.map Chunk.bytes).flatten ++ rest) := by
      rw [hbuf, List.map_cons, List.flatten_cons, hc]
      simp only [List.append_assoc]
    have hnext : buf.drop (pos + 8 + c.body.length) = (cs.map Chunk.bytes).flatten ++ rest := by
      have hpre : (c.tag ++ put32 c.body.length ++ c.body).length = 8 + c.body.length := by
        simp only [List.length_append, c.tag_length, length_put32]
      rw [show pos + 8 + c.body.length = pos + (8 + c.body.length) by omega, ← List.drop_drop, hbuf,
        List.map_cons, List.flatten_cons, hc, List.append_assoc, ← hpre, List.drop_left]
    rw [findData_skip hhead c.tag_length (hnd c List.mem_cons_self) c.body_fits,
      ih hnext (fun c' h => hnd c' (List.mem_cons_of_mem c h)) (fun c' h => heven c' (List.mem_cons_of_mem c h))]
    congr 1
    simp only [List.map_cons, List.flatten_cons, List.length_append, hc, c.tag_length, length_put32]
    omega

/-- **The first `data` chunk after chunks of even size.** In a RIFF/WAVE file whose chunks before the
first `data` chunk all have an even size, the samples are the body of that `data` chunk: eight
bytes past its header, as long as its size says or as the bytes present allow. -/
theorem locate_data_after_even_chunks (size n : Nat) (chunks : List Chunk) (rest : List UInt8)
    (hnd : ∀ c ∈ chunks, c.tag ≠ tag "data") (heven : ∀ c ∈ chunks, c.body.length % 2 = 0)
    (hn : n < Nat.pow 2 32) :
    locate (riffHead size chunks ++ tag "data" ++ put32 n ++ rest) =
      ⟨(riffHead size chunks).length + 8, min n rest.length⟩ := by
  have hhead : (tag "RIFF" ++ put32 size ++ tag "WAVE").length = 12 := rfl
  generalize hbuf : riffHead size chunks ++ tag "data" ++ put32 n ++ rest = buf
  have hlen : buf.length = (riffHead size chunks).length + 8 + rest.length := by
    rw [← hbuf]
    simp only [List.length_append, length_put32]
    rfl
  have hpre : (riffHead size chunks).length = 12 + ((chunks.map Chunk.bytes).flatten).length := by
    rw [riffHead, List.length_append, hhead, Nat.add_comm]
  have hriff : ¬ (buf.length < 12 ∨ buf.take 4 ≠ tag "RIFF") := by
    have htake : buf.take 4 = tag "RIFF" := by
      rw [← hbuf]
      simp only [riffHead, List.append_assoc]
      exact List.take_left' rfl
    simp only [htake, ne_eq, not_true_eq_false, or_false]
    omega
  -- past the header, the chunks; past the chunks, the `data` header
  have hchunks : buf.drop 12 = (chunks.map Chunk.bytes).flatten ++ (tag "data" ++ put32 n ++ rest) := by
    rw [← hbuf, riffHead, List.append_assoc, List.append_assoc, List.append_assoc]
    exact List.drop_left' hhead
  have hdata : buf.drop (12 + ((chunks.map Chunk.bytes).flatten).length) = tag "data" ++ put32 n ++ rest := by
    rw [← List.drop_drop, hchunks, List.drop_left]
  rw [locate, if_neg hriff, findData_past_chunks hchunks hnd heven, findData_data hdata hn, hlen, hpre]
  simp only [Option.getD_some, Region.mk.injEq, true_and]
  omega

/-- A two-byte `LIST` chunk before a `data` chunk of two bytes: the samples are found at offset 30. -/
theorem list_chunk_then_data :
    let list : Chunk := ⟨tag "LIST", [0xAA, 0xAA], rfl, by decide⟩
    (∀ c ∈ [list], c.tag ≠ tag "data") ∧ (∀ c ∈ [list], c.body.length % 2 = 0) ∧ 2 < Nat.pow 2 32 ∧
      locate (riffHead 24 [list] ++ tag "data" ++ put32 2 ++ [1, 2]) = ⟨30, 2⟩ := by
  intro list
  have hnd : ∀ c ∈ [list], c.tag ≠ tag "data" := by
    simp only [List.mem_singleton, forall_eq]
    decide
  have heven : ∀ c ∈ [list], c.body.length % 2 = 0 := by
    simp only [List.mem_singleton, forall_eq]
    decide
  refine ⟨hnd, heven, by decide, ?_⟩
  rw [locate_data_after_even_chunks 24 2 [list] [1, 2] hnd heven (by decide)]
  decide

/-- A one-byte `LIST` chunk, padded as RIFF requires, before a `data` chunk of two bytes: the
scanner reads the next header one byte early, misses the `data` chunk and reads the whole buffer
instead of the two samples at offset 30. -/
theorem odd_chunk_hides_data :
    let list : Chunk := ⟨tag "LIST", [0xAA], rfl, by decide⟩
    let buf := riffHead 24 [list] ++ tag "data" ++ put32 2 ++ [1, 2]
    locate buf = ⟨0, 32⟩ ∧ locate buf ≠ ⟨(riffHead 24 [list]).length + 8, min 2 [1, 2].length⟩ := by
  intro list buf
  -- the scan from offset 12 stops within five turns, and it stops without a region
  have hscan : scanFor 5 buf 12 = some (findData buf 12) := scanFor_enough (by decide)
  have hnone : findData buf 12 = none := by
    have : scanFor 5 buf 12 = some none := by decide
    rw [this] at hscan
    exact (Option.some.inj hscan).symm
  have hwhole : locate buf = ⟨0, 32⟩ := by
    rw [locate_eq, if_neg (by decide), hnone]
    rfl
  exact ⟨hwhole, by rw [hwhole]; decide⟩

end Talkback.Codec.Wav
