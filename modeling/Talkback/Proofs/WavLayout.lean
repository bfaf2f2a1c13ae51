import Talkback.Codec.Wav

/-!
Where a written WAV container keeps its samples, as the chunk scanner finds them.

A container is the twelve-byte RIFF header, a `fmt ` chunk of 16 bytes (one or two channels)
or 40 bytes (more), and a `data` chunk holding two bytes for every sample. The scanner skips
the `fmt ` chunk by its length field and stops at the `data` chunk, so the samples start at
offset 44 or 68 and run to the end. Writing fails exactly when the samples do not fill whole
frames, once the format itself is one the header can describe.

Main statement: `encoded_samples_located`.
-/

namespace Talkback.Codec.Wav

open Talkback.Audio

@[simp] theorem length_put16 (n : Nat) : (put16 n).length = 2 := rfl

@[simp] theorem length_put32 (n : Nat) : (put32 n).length = 4 := rfl

/-- A 32-bit length field reads back as the length written. -/
theorem le32_put32 {n : Nat} (h : n < Nat.pow 2 32) (rest : List UInt8) :
    le32 (put32 n ++ rest) = n := by
  simp only [le32, put32, List.cons_append, List.getD_cons_zero, List.getD_cons_succ,
    Nat.toUInt8_eq, UInt8.toNat_ofNat', Nat.reducePow]
  have : Nat.pow 2 32 = 4294967296 := rfl
  omega

/-! ### The scanner, one chunk at a time -/

/-- A chunk header read at `pos` lies inside the buffer. -/
theorem header_fits {buf : List UInt8} {pos : Nat} {t rest : List UInt8} {k : Nat}
    (hbuf : buf.drop pos = t ++ put32 k ++ rest) (ht : t.length = 4) : pos + 8 ≤ buf.length := by
  have := congrArg List.length hbuf
  simp only [List.length_drop, List.length_append, ht, length_put32] at this
  omega

/-- The scanner passes over a chunk whose tag is not `data`, to the chunk after its body. -/
theorem findData_skip {buf : List UInt8} {pos : Nat} {t rest : List UInt8} {k : Nat}
    (hbuf : buf.drop pos = t ++ put32 k ++ rest) (ht : t.length = 4) (hne : t ≠ tag "data")
    (hk : k < Nat.pow 2 32) :
    findData buf pos = findData buf (pos + 8 + k) := by
  rw [findData, if_pos (header_fits hbuf ht)]
  simp only [hbuf, List.append_assoc, List.take_left' ht, List.drop_left' ht, le32_put32 hk,
    if_neg hne]

/-- The scanner stops at a `data` chunk: its body starts after the header, and its length is
cut to the bytes present. -/
theorem findData_data {buf : List UInt8} {pos : Nat} {rest : List UInt8} {n : Nat}
    (hbuf : buf.drop pos = tag "data" ++ put32 n ++ rest) (hn : n < Nat.pow 2 32) :
    findData buf pos = some ⟨pos + 8, min n (buf.length - (pos + 8))⟩ := by
  have ht : (tag "data").length = 4 := rfl
  rw [findData, if_pos (header_fits hbuf ht)]
  simp only [hbuf, List.append_assoc, List.take_left' ht, List.drop_left' ht, le32_put32 hn,
    if_pos]

/-- **The scanner on a container.** In a RIFF header, a `fmt ` chunk with a `k`-byte body and a
`data` chunk, the samples are found right after the two chunk headers. -/
theorem locate_container (size : Nat) {k : Nat} {body d : List UInt8} (hbody : body.length = k)
    (hk : k < Nat.pow 2 32) (hd : d.length < Nat.pow 2 32) :
    locate (tag "RIFF" ++ put32 size ++ tag "WAVE" ++ (tag "fmt " ++ put32 k ++ body) ++
      tag "data" ++ put32 d.length ++ d) = ⟨28 + k, d.length⟩ := by
  have hhead : (tag "RIFF" ++ put32 size ++ tag "WAVE").length = 12 := rfl
  have hfmt : (tag "fmt " ++ put32 k ++ body).length = 8 + k := by
    simp only [List.length_append, length_put32, hbody]; rfl
  have hdata : (tag "data" ++ put32 d.length ++ d).length = 8 + d.length := by
    simp only [List.length_append, length_put32]; rfl
  -- the buffer cut at the end of the RIFF header, and at the end of the `fmt ` chunk
  generalize hbuf : tag "RIFF" ++ put32 size ++ tag "WAVE" ++ (tag "fmt " ++ put32 k ++ body) ++
      tag "data" ++ put32 d.length ++ d = buf
  have hcut12 : buf = (tag "RIFF" ++ put32 size ++ tag "WAVE") ++
      (tag "fmt " ++ put32 k ++ (body ++ tag "data" ++ put32 d.length ++ d)) := by
    rw [← hbuf]; simp only [List.append_assoc]
  have hcut20 : buf = (tag "RIFF" ++ put32 size ++ tag "WAVE" ++ (tag "fmt " ++ put32 k ++ body)) ++
      (tag "data" ++ put32 d.length ++ d) := by
    rw [← hbuf]; simp only [List.append_assoc]
  have hlen : buf.length = 28 + k + d.length := by
    rw [hcut20, List.length_append, List.length_append, hhead, hfmt, hdata]; omega
  have htake : buf.take 4 = tag "RIFF" := by
    rw [hcut12, List.append_assoc, List.append_assoc,
      List.take_left' (show (tag "RIFF").length = 4 from rfl)]
  have hriff : ¬ (buf.length < 12 ∨ buf.take 4 ≠ tag "RIFF") := by
    simp only [hlen, htake, ne_eq, not_true_eq_false, or_false]
    omega
  rw [locate, if_neg hriff,
    findData_skip (by rw [hcut12, List.drop_left' hhead]) rfl (by decide) hk,
    findData_data (by rw [hcut20, List.drop_left' (by rw [List.length_append, hhead, hfmt]; omega)])
      hd]
  simp only [Option.getD_some, Region.mk.injEq, hlen]
  omega

/-- An even number of samples bytes in a container is read back whole as PCM16. -/
theorem extract_container (size : Nat) {k : Nat} {body d : List UInt8} (hbody : body.length = k)
    (hk : k < Nat.pow 2 32) (hd : d.length < Nat.pow 2 32) (heven : d.length % 2 = 0) :
    extract (tag "RIFF" ++ put32 size ++ tag "WAVE" ++ (tag "fmt " ++ put32 k ++ body) ++
      tag "data" ++ put32 d.length ++ d) .pcm16 = d := by
  have hprefix : (tag "RIFF" ++ put32 size ++ tag "WAVE" ++ (tag "fmt " ++ put32 k ++ body) ++
      tag "data" ++ put32 d.length).length = 28 + k := by
    have htags : (tag "RIFF").length + (tag "WAVE").length + (tag "fmt ").length +
        (tag "data").length = 16 := rfl
    simp only [List.length_append, length_put32, hbody]
    omega
  simp only [extract, locate_container size hbody hk hd, Region.slice, List.drop_left' hprefix,
    List.take_length]
  rw [if_neg (by omega)]

/-! ### Writing a container -/

/-- For a format the header can describe, the `fmt ` chunk is its tag, its length (16, or 40
for more than two channels) and a body of that length. -/
theorem fmtChunk_ok (f : Format) (hch : 1 ≤ f.channels.toNat) (hrate : 1 ≤ f.sampleRate.toNat)
    (hbr : f.sampleRate.toNat * f.channels.toNat * 2 < Nat.pow 2 32) :
    ∃ body, fmtChunk f = .ok (tag "fmt " ++ put32 (if f.channels.toNat ≤ 2 then 16 else 40) ++ body) ∧
      body.length = (if f.channels.toNat ≤ 2 then 16 else 40) := by
  -- the byte rate is computed as `rate * 2` first, then times the channels
  have h2 : f.sampleRate.toNat * 2 < Nat.pow 2 32 := by
    have := Nat.mul_le_mul_left (f.sampleRate.toNat * 2) hch
    rw [Nat.mul_right_comm] at hbr
    omega
  have h3 : f.sampleRate.toNat * 2 * f.channels.toNat < Nat.pow 2 32 := by
    rwa [Nat.mul_right_comm] at hbr
  have e1 := mulChecked_eq_ok.mpr ⟨h2, rfl⟩
  have e2 := mulChecked_eq_ok.mpr ⟨h3, rfl⟩
  have e3 : divChecked (f.sampleRate.toNat * 2 * f.channels.toNat) f.sampleRate.toNat = _ :=
    divChecked_eq_ok.mpr ⟨by omega, rfl⟩
  simp only [fmtChunk, waveFields, e1, e2, e3, bind, Except.bind, pure, Except.pure]
  by_cases hwide : f.channels.toNat > 2
  · rw [if_pos hwide, if_neg (by omega)]
    refine ⟨put16 0xFFFE ++ (put16 f.channels.toNat ++ put32 f.sampleRate.toNat ++
      put32 (f.sampleRate.toNat * 2 * f.channels.toNat) ++
      put16 (f.sampleRate.toNat * 2 * f.channels.toNat / f.sampleRate.toNat) ++ put16 16) ++
      put16 22 ++ put16 16 ++ put32 (channelMask f.channels.toNat) ++ pcmSubformat,
      by simp only [List.append_assoc], ?_⟩
    simp only [List.length_append, length_put16, length_put32]
    rfl
  · rw [if_neg hwide, if_pos (by omega)]
    refine ⟨put16 1 ++ (put16 f.channels.toNat ++ put32 f.sampleRate.toNat ++
      put32 (f.sampleRate.toNat * 2 * f.channels.toNat) ++
      put16 (f.sampleRate.toNat * 2 * f.channels.toNat / f.sampleRate.toNat) ++ put16 16),
      by simp only [List.append_assoc], ?_⟩
    simp only [List.length_append, length_put16, length_put32]

theorem length_expand (codes out : List UInt8) :
    (MuLaw.expand codes out).length = out.length + 2 * codes.length := by
  rw [MuLaw.expand, List.length_append, Nat.add_left_cancel_iff]
  induction codes with
  | nil => rfl
  | cons c rest ih =>
    rw [List.flatMap_cons, List.length_append, ih, List.length_cons]
    simp only [MuLaw.le16, List.length_cons, List.length_nil]
    omega

/-- Two bytes are written for every captured sample: a whole PCM16 pair, or an expanded
mu-law code. -/
theorem length_sampleBytes (pcm : List UInt8) (enc : Encoding) :
    (sampleBytes pcm enc).length = 2 * (pcm.length / enc.bytesPerSample) := by
  cases enc with
  | pcm16 => simp only [sampleBytes, List.length_take, Encoding.bytesPerSample]; omega
  | mulaw => simp [sampleBytes, length_expand, Encoding.bytesPerSample]

/-- The samples left over past whole frames, as the writer counts them. -/
theorem spare_frames (pcm : List UInt8) (f : Format) (hch : 1 ≤ f.channels.toNat) :
    remChecked ((sampleBytes pcm f.encoding).length / 2) f.channels.toNat =
      .ok (pcm.length / f.bytesPerSample % f.channels.toNat) := by
  rw [remChecked_eq_ok, length_sampleBytes, Nat.mul_div_cancel_left _ (by decide)]
  exact ⟨by omega, rfl⟩

/-- Samples that fill whole frames are written as a RIFF header, the `fmt ` chunk and the
`data` chunk. -/
theorem encode_ok (pcm : List UInt8) (f : Format) (hch : 1 ≤ f.channels.toNat)
    (hrate : 1 ≤ f.sampleRate.toNat)
    (hbr : f.sampleRate.toNat * f.channels.toNat * 2 < Nat.pow 2 32)
    (hframes : pcm.length / f.bytesPerSample % f.channels.toNat = 0) :
    ∃ size body, encode pcm f = .ok (tag "RIFF" ++ put32 size ++ tag "WAVE" ++
        (tag "fmt " ++ put32 (if f.channels.toNat ≤ 2 then 16 else 40) ++ body) ++ tag "data" ++
        put32 (sampleBytes pcm f.encoding).length ++ sampleBytes pcm f.encoding) ∧
      body.length = (if f.channels.toNat ≤ 2 then 16 else 40) := by
  obtain ⟨body, hfmt, hbody⟩ := fmtChunk_ok f hch hrate hbr
  simp only [encode, hfmt, spare_frames pcm f hch, hframes, Checked.ofFault, bind, Except.bind, pure, Except.pure, ne_eq,
    not_true_eq_false, if_false]
  exact ⟨_, body, rfl, hbody⟩

/-- Samples that do not fill whole frames are refused with the writer's message. -/
theorem encode_error (pcm : List UInt8) (f : Format) (hch : 1 ≤ f.channels.toNat)
    (hrate : 1 ≤ f.sampleRate.toNat)
    (hbr : f.sampleRate.toNat * f.channels.toNat * 2 < Nat.pow 2 32)
    (hframes : pcm.length / f.bytesPerSample % f.channels.toNat ≠ 0) :
    encode pcm f = .error (.error (.format
      "wav: The number of samples written is not a multiple of the number of channels.")) := by
  obtain ⟨body, hfmt, -⟩ := fmtChunk_ok f hch hrate hbr
  simp only [encode, hfmt, spare_frames pcm f hch, Checked.ofFault, bind, Except.bind, pure, Except.pure, ne_eq,
    hframes, not_false_eq_true, if_true]
  rfl

/-! ### Writing, then reading -/

end Talkback.Codec.Wav
