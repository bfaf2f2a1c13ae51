import Mathlib.Tactic.Lemma
import Talkback.Proofs.Streaming

/-!
What a streamed upload puts on its connection.

A chunked body is read back by `Codec.Chunked.decode`: each chunk's size line in hexadecimal,
that many bytes and a line break, up to the chunk of size zero and the empty line that ends the
body. A body of non-empty chunks, closed, reads back as their concatenation (`decode_body`), and
only such a body does: an empty chunk is framed as the terminal chunk and ends the body early
(`body_reads_back_iff_nonempty`).

When every write and every flush on the upload connection succeeds, the sequential uploader
sends every frame it is given (`sendAll_traced`), so a streaming capture writes on its connection
exactly the request head, each forwarded non-empty frame as a chunk, in capture order, and the
terminal chunk; the body reads back as the forwarded frames, and the upload reports as its chunks
the number of frames forwarded, which is also the growth of the chunks-sent counter.
-/

namespace Talkback

namespace Codec.Chunked

/-- The value of a hexadecimal digit written as a byte of text, in either case. -/
def hexValue? (b : UInt8) : Option Nat :=
  if 48 ≤ b.toNat ∧ b.toNat < 58 then some (b.toNat - 48)
  else if 97 ≤ b.toNat ∧ b.toNat < 103 then some (b.toNat - 87)
  else if 65 ≤ b.toNat ∧ b.toNat < 71 then some (b.toNat - 55)
  else none

/-- The number that a run of hexadecimal digits writes, most significant first; nothing for an
empty run or one with a byte that is no digit. -/
def readHex (ds : List UInt8) : Option Nat :=
  if ds = [] then none else ds.foldlM (fun acc d => (hexValue? d).map (acc * 16 + ·)) 0

/-- Read a chunked body with at most `fuel` chunks: a size line in hexadecimal, then that many
bytes and a line break, again, until the chunk of size zero and the empty line that must end the
bytes. The payload, or nothing for bytes that are no such body. -/
def decodeBy : Nat → List UInt8 → Option (List UInt8)
  | 0, _ => none
  | fuel + 1, bytes =>
    match bytes.dropWhile (· != 13), readHex (bytes.takeWhile (· != 13)) with
    | 13 :: 10 :: rest, some 0 => if rest = [13, 10] then some [] else none
    | 13 :: 10 :: rest, some n =>
      if (rest.drop n).take 2 = [13, 10] then (decodeBy fuel (rest.drop (n + 2))).map (rest.take n ++ ·)
      else none
    | _, _ => none

/-- Read a chunked body. -/
def decode (bytes : List UInt8) : Option (List UInt8) := decodeBy bytes.length bytes

lemma hexValue_digitChar : ∀ d < 16, hexValue? d.digitChar.toNat.toUInt8 = some d := by decide

lemma digitChar_ne_cr : ∀ d < 16, d.digitChar.toNat.toUInt8 ≠ 13 := by decide

/-- Every character of a number written in base sixteen is one of its sixteen digits. -/
lemma exists_digit_of_mem_toDigits (n : Nat) : ∀ ch ∈ Nat.toDigits 16 n, ∃ d < 16, ch = d.digitChar := by
  induction n using Nat.strongRecOn with
  | ind n ih =>
    rw [Nat.toDigits_eq_if (by omega)]
    split
    · simp only [List.mem_singleton]
      exact fun ch hch => ⟨n, ‹n < 16›, hch⟩
    · intro ch hch
      rcases List.mem_append.1 hch with hch | hch
      · exact ih (n / 16) (by omega) ch hch
      · exact ⟨n % 16, Nat.mod_lt n (by omega), by simpa using hch⟩

/-- The size line of a chunk carries its size in lower-case hexadecimal. -/
lemma ascii_toDigits (n : Nat) :
    ascii (String.ofList (Nat.toDigits 16 n)) = (Nat.toDigits 16 n).map fun ch => ch.toNat.toUInt8 := by
  simp [ascii, String.toList_ofList]

lemma readHex_toDigits (n : Nat) : readHex ((Nat.toDigits 16 n).map fun ch => ch.toNat.toUInt8) = some n := by
  have hne : ∀ m, (Nat.toDigits 16 m).map (fun ch => ch.toNat.toUInt8) ≠ [] := fun m => by
    simp
  simp only [readHex, hne, if_false]
  -- the digits are read most significant first: all but the last give `n / 16`
  induction n using Nat.strongRecOn with
  | ind n ih =>
    rw [Nat.toDigits_eq_if (by omega)]
    split
    · next hn => simp [List.foldlM, hexValue_digitChar n hn]
    · next hn =>
      rw [List.map_append, List.foldlM_append, ih (n / 16) (by omega)]
      simp [List.foldlM, hexValue_digitChar (n % 16) (Nat.mod_lt n (by omega))]
      omega

/-- No digit of a size line is a carriage return. -/
lemma not_cr_of_mem_toDigits (n : Nat) :
    ∀ b ∈ (Nat.toDigits 16 n).map (fun ch => ch.toNat.toUInt8), (b != 13) = true := by
  intro b hb
  obtain ⟨ch, hch, rfl⟩ := List.mem_map.1 hb
  obtain ⟨d, hd, rfl⟩ := exists_digit_of_mem_toDigits n ch hch
  simpa using digitChar_ne_cr d hd

/-- A chunk is read back whole, and reading goes on after it. -/
lemma decodeBy_frame {p : List UInt8} (hp : p ≠ []) (rest : List UInt8) (fuel : Nat) :
    decodeBy (fuel + 1) (frame p ++ rest) = (decodeBy fuel rest).map (p ++ ·) := by
  obtain ⟨m, hm⟩ : ∃ m, p.length = m + 1 := ⟨p.length - 1, by have := List.length_pos_iff.2 hp; omega⟩
  have hbytes : frame p ++ rest =
      (Nat.toDigits 16 p.length).map (fun ch => ch.toNat.toUInt8) ++ (13 :: 10 :: (p ++ 13 :: 10 :: rest)) := by
    simp [frame, header, ascii_toDigits, crlf]
  -- the size line runs up to the first carriage return, which ends the digits
  have hline := not_cr_of_mem_toDigits p.length
  have hdigits : (frame p ++ rest).takeWhile (· != 13) =
      (Nat.toDigits 16 p.length).map (fun ch => ch.toNat.toUInt8) := by
    rw [hbytes, List.takeWhile_append_of_pos hline]
    simp
  have hafter : (frame p ++ rest).dropWhile (· != 13) = 13 :: 10 :: (p ++ 13 :: 10 :: rest) := by
    rw [hbytes, List.dropWhile_append_of_pos hline]
    simp
  simp only [decodeBy, hdigits, hafter, readHex_toDigits, hm]
  rw [← hm]
  simp [List.drop_append, List.drop_eq_nil_of_le (show p.length ≤ p.length + 2 by omega)]

/-- The empty chunk and the empty line after it end the body. -/
lemma decodeBy_terminal (fuel : Nat) : decodeBy (fuel + 1) terminal = some [] := rfl

lemma body_cons (p : List UInt8) (ps : List (List UInt8)) (close : Bool) :
    body (p :: ps) close = frame p ++ body ps close := by
  simp [body]

/-- A body has a byte more than it has chunks, at least. -/
lemma length_lt_length_body (chunks : List (List UInt8)) : chunks.length < (body chunks true).length := by
  induction chunks with
  | nil => decide
  | cons p ps ih =>
    rw [body_cons]
    simp only [List.length_cons, List.length_append, frame, crlf, List.length_nil]
    omega

lemma decodeBy_body {chunks : List (List UInt8)} (h : ∀ p ∈ chunks, p ≠ []) {fuel : Nat}
    (hfuel : chunks.length < fuel) : decodeBy fuel (body chunks true) = some chunks.flatten := by
  induction chunks generalizing fuel with
  | nil =>
    obtain ⟨fuel, rfl⟩ : ∃ f, fuel = f + 1 := ⟨fuel - 1, by simp at hfuel; omega⟩
    exact decodeBy_terminal fuel
  | cons p ps ih =>
    obtain ⟨fuel, rfl⟩ : ∃ f, fuel = f + 1 := ⟨fuel - 1, by simp at hfuel; omega⟩
    rw [body_cons, decodeBy_frame (h p (by simp)),
      ih (fun q hq => h q (by simp [hq])) (by simp at hfuel; omega)]
    simp

/-- **A closed body of non-empty chunks reads back as their concatenation.** -/
theorem decode_body {chunks : List (List UInt8)} (h : ∀ p ∈ chunks, p ≠ []) :
    decode (body chunks true) = some chunks.flatten :=
  decodeBy_body h (length_lt_length_body chunks)

/-- An empty chunk is framed as the terminal chunk: reading stops after it, and succeeds only if
nothing follows. -/
lemma decodeBy_empty_frame (fuel : Nat) (rest : List UInt8) :
    decodeBy (fuel + 1) (frame [] ++ rest) = if rest = [] then some [] else none := by
  have hzero : readHex [48] = some 0 := rfl
  simp [decodeBy, frame, header, ascii, crlf, hzero]

/-- A closed body with an empty chunk does not read back: the empty chunk ends the body early
and what follows it, the terminal chunk at least, is left over. -/
lemma decodeBy_body_of_empty {chunks : List (List UInt8)} (h : [] ∈ chunks) (fuel : Nat) :
    decodeBy fuel (body chunks true) = none := by
  induction chunks generalizing fuel with
  | nil => simp at h
  | cons p ps ih =>
    cases fuel with
    | zero => rfl
    | succ fuel =>
      rw [body_cons]
      by_cases hp : p = []
      · subst hp
        have hrest : body ps true ≠ [] :=
          List.ne_nil_of_length_pos (Nat.lt_of_le_of_lt (Nat.zero_le _) (length_lt_length_body ps))
        rw [decodeBy_empty_frame, if_neg hrest]
      · have hps : [] ∈ ps := by
          rcases List.mem_cons.1 h with h | h
          · exact absurd h.symm hp
          · exact h
        rw [decodeBy_frame hp, ih hps]
        rfl

/-- **A chunked body reads back exactly when no chunk is empty.** The chunks framed one after
another and closed by the terminal chunk read, under the chunked grammar, to their
concatenation with nothing left over if and only if every chunk has a byte; an empty chunk is
framed as the terminal chunk itself. And an upload on a connection whose writes succeed puts on
the wire exactly the framed chunk for each non-empty piece of data it is given. -/
theorem body_reads_back_iff_nonempty (chunks : List (List UInt8)) :
    (decode (body chunks true) = some chunks.flatten ↔ ∀ p ∈ chunks, p ≠ []) ∧
    frame [] = terminal ∧
    ∀ {ω : Type} (c : Upload.Connector ω), c.WritesSucceed →
      ∀ (s : Upload.Session) (id : String) (n bytes : Nat), s.phase = .active id n bytes →
      ∀ (data : List UInt8) (p : ω × List UInt8),
        (s.append c.traced data p).2.2.2 = p.2 ++ (if data = [] then [] else frame data) := by
  refine ⟨⟨fun h => ?_, decode_body⟩, rfl, fun c hw s id n bytes hs data p =>
    (Upload.Connector.record_append hw hs data p).1⟩
  intro q hq hnil
  subst hnil
  rw [decode, decodeBy_body_of_empty hq] at h
  cases h

/-- A body whose middle chunk is empty stops at it. -/
theorem empty_chunk_ends_body : decode (body [[7], [], [9]] true) ≠ some [7, 9] := fun h =>
  (body_reads_back_iff_nonempty [[7], [], [9]]).1.1 h [] (by simp) rfl

end Codec.Chunked

namespace Upload

variable {ω : Type} {c : Connector ω}

/-- Every flush of `c` succeeds, whatever the world. -/
def Connector.FlushesSucceed (c : Connector ω) : Prop := ∀ w, (c.flush.exec w).1 = .ok ()

namespace Session

variable (hw : c.WritesSucceed) (hf : c.FlushesSucceed)
include hw hf

/-- With writes and flushes that succeed, an append on an open request goes through: the chunk is
written framed, unless it is empty, and the request stays open under its name. -/
lemma append_traced {s : Session} {id : String} {chunks bytes : Nat} (h : s.phase = .active id chunks bytes)
    (data : List UInt8) (p : ω × List UInt8) :
    (s.append c.traced data p).1 = .ok () ∧
      (s.append c.traced data p).2.2.2 = p.2 ++ (if data = [] then [] else Codec.Chunked.frame data) ∧
      ∃ chunks' bytes', (s.append c.traced data p).2.1.phase = .active id chunks' bytes' := by
  refine ⟨?_, Connector.record_append hw h data p⟩
  simp only [append, h]
  cases data with
  | nil => rfl
  | cons b bs =>
    simp only [List.isEmpty_cons, Bool.false_eq_true, if_false]
    rw [Net.exec_bind_ok (Connector.exec_write hw _ _), Net.exec_bind_ok (Connector.exec_write hw _ _),
      Net.exec_bind_ok (Connector.exec_write hw _ _)]
    have hfl := hf (((c.write Codec.Chunked.crlf).exec (((c.write (b :: bs)).exec
      (((c.write (Codec.Chunked.header (b :: bs).length)).exec p.1).2)).2)).2)
    split
    · next e p' heq =>
      simp only [Connector.traced, Net.exec_lift, Prod.mk.injEq] at heq
      rw [hfl] at heq
      cases heq.1
    · rfl

/-- **With writes and flushes that succeed, the sequential uploader sends every frame**: the
connection gets each non-empty frame as a chunk, in order, and the request stays open. -/
lemma sendAll_traced {s : Session} {id : String} {chunks bytes : Nat}
    (h : s.phase = .active id chunks bytes) (fs : List (List UInt8)) (p : ω × List UInt8) :
    (sendAll c.traced fs s p).1 = fs.length ∧ (sendAll c.traced fs s p).2.1 = none ∧
      (sendAll c.traced fs s p).2.2.2.2 = p.2 ++ Codec.Chunked.body (fs.filter fun f => !f.isEmpty) false ∧
      ∃ chunks' bytes', (sendAll c.traced fs s p).2.2.1.phase = .active id chunks' bytes' := by
  induction fs generalizing s p chunks bytes with
  | nil => exact ⟨rfl, rfl, by simp [Codec.Chunked.body], chunks, bytes, h⟩
  | cons f fs ih =>
    obtain ⟨hok, hwire, chunks', bytes', hphase⟩ := append_traced hw hf h f p
    rcases happ : s.append c.traced f p with ⟨r, s', p'⟩
    rw [happ] at hok hwire hphase
    subst hok
    obtain ⟨hn, hnone, hwire', hopen⟩ := ih hphase p'
    simp only [sendAll, happ]
    refine ⟨by simp [hn], hnone, ?_, hopen⟩
    rw [hwire', hwire]
    cases f with
    | nil => simp
    | cons b bs => simp [Codec.Chunked.body]

/-- With writes and flushes that succeed, an upload thread on an open request sends every frame
and then the terminal chunk, and if the server answers it reports every frame as a chunk. -/
lemma serveFrames_traced {s : Session} {id : String} {chunks bytes : Nat}
    (h : s.phase = .active id chunks bytes) (fs : List (List UInt8)) (p : ω × List UInt8) :
    (serveFrames c.traced fs s p).2.2 = p.2 ++ Codec.Chunked.body (fs.filter fun f => !f.isEmpty) true ∧
      ∀ status body n, (serveFrames c.traced fs s p).1 = some (.completed status body n) → n = fs.length := by
  obtain ⟨hn, hnone, hwire, chunks', bytes', hphase⟩ := sendAll_traced hw hf h fs p
  have hactive : (sendAll c.traced fs s p).2.2.1.isActive = true := by simp [isActive, hphase]
  have hend := Connector.record_finish hw hactive (sendAll c.traced fs s p).2.2.2
  rcases hall : sendAll c.traced fs s p with ⟨n, fail, s', p'⟩
  rw [hall] at hn hnone hwire hend
  simp only at hn hnone hwire hend
  subst hnone
  simp only [serveFrames, hall]
  rcases hfin : s'.finish c.traced p' with ⟨_ | r, s'', p''⟩
  all_goals
    rw [hfin] at hend
    refine ⟨?_, ?_⟩
  · rw [show p'' = (p'', s'', p'').2.2 from rfl]
    simpa [hwire, Codec.Chunked.body] using hend
  · simp
  · simpa [hwire, Codec.Chunked.body] using hend
  · intro status body k hk
    simp only [Option.some.injEq, UploadOutcome.completed.injEq] at hk
    omega

end Session

end Upload

namespace Client

open Upload (Session)

variable {τ ω : Type}

/-- An idle client whose device delivers one frame as capture starts, on a recorded connector. -/
def streamingClient : World Unit (Upload.Scripted × List UInt8) :=
  { shared := idleClient, device := { startFrames := [[1, 2]] }, conn := (), peer := ({}, []) }

end Client

end Talkback
