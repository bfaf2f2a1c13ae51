import Mathlib.Data.List.DropRight
import Mathlib.Data.List.Find
import Talkback.App.Store
import Talkback.Proofs.JsonRecords

/-!
Saved settings load back normalized.

Saving writes the pretty document of the settings, as UTF-8, to the file; loading reads the
file as text, parses and decodes it and normalizes what it read. Four facts make the round trip:
the file system reads back what was last written to a file (`Host.Files.read_write`: a write
changes only its own path, and reading walks only the path's proper prefixes), UTF-8 text reads
back as itself, the settings document decodes to the settings it was written from whenever the
numbers fit the widths they are read with (`Settings.decode_toJson`), and normalizing twice is
normalizing once (`Settings.normalize_normalize`). So a file that a save leaves behind loads as the
normalized settings, and normalized settings load unchanged (`saved_settings_load_normalized`).
-/

namespace Talkback.Host.Files

theorem find?_filter_ne (l : List (List String × Entry)) {k k' : List String} (h : k' ≠ k) :
    (l.filter (·.1 != k)).find? (·.1 == k') = l.find? (·.1 == k') := by
  induction l with
  | nil => rfl
  | cons x l ih =>
    by_cases hx : (x.1 == k') = true
    · have hkeep : (x.1 != k) = true := by
        simp only [beq_iff_eq] at hx
        simpa [hx] using h
      simp only [List.filter_cons, hkeep, if_true, List.find?_cons, hx]
    · have hx' : (x.1 == k') = false := by simpa using hx
      by_cases hxk : (x.1 != k) = true
      · simp only [List.filter_cons, hxk, if_true, List.find?_cons, hx', ih]
      · simp only [List.filter_cons, hxk, List.find?_cons, hx', ih, Bool.false_eq_true, if_false]

/-- Setting what one path names leaves every other path as it was. -/
theorem find_put_of_ne {fs : Files} {k k' : List String} (h : k' ≠ k) (e : Entry) :
    (fs.put k e).find k' = fs.find k' := by
  unfold find put
  split
  · rfl
  · have hk : [(k, e)].find? (·.1 == k') = none := by simp [Ne.symm h]
    rw [List.find?_append, find?_filter_ne _ h, hk, Option.or_none]

theorem find_put_self {fs : Files} {k : List String} (hk : k.length ≠ 1) (e : Entry) :
    (fs.put k e).find k = some e := by
  have hgone : (fs.entries.filter (·.1 != k)).find? (·.1 == k) = none := by
    simp
  unfold find put
  split
  · next x => simp at hk
  · rw [List.find?_append, hgone]
    simp

/-- Only the proper prefixes of a path are walked. -/
theorem walk_put {fs : Files} (k : List String) (e : Entry) : (fs.put k e).walk k = fs.walk k := by
  -- the proper prefixes of `k` are shorter than `k`
  have hne : ∀ p ∈ ((List.range k.length).map fun n => k.take n).tail, p ≠ k := by
    intro p hp hpk
    have hp' := List.mem_of_mem_tail hp
    simp only [List.mem_map, List.mem_range] at hp'
    obtain ⟨n, hn, rfl⟩ := hp'
    have := congrArg List.length hpk
    simp at this
    omega
  have hfind : ((List.range k.length).map fun n => k.take n).tail.find?
        (fun p => (fs.put k e).find p != some .dir) =
      ((List.range k.length).map fun n => k.take n).tail.find? (fun p => fs.find p != some .dir) :=
    List.find?_congr fun p hp => by rw [find_put_of_ne (hne p hp)]
  unfold walk
  simp only [hfind]
  split
  · rfl
  · next p hp => rw [find_put_of_ne (hne p (List.mem_of_find?_eq_some hp))]

/-- A file reads back what was last written to it. -/
theorem read_write {fs fs' : Files} {p : String} {data : List UInt8}
    (h : fs.write p data = .ok fs') : fs'.read p = .ok data := by
  unfold write at h
  cases hk : key p with
  | none => simp [hk] at h
  | some k =>
    cases hw : fs.walk k with
    | error e => simp [hk, hw, bind, Except.bind] at h
    | ok u =>
      simp only [hk, hw, bind, Except.bind] at h
      -- a write that succeeds put the data at a path naming no directory
      have hdir : fs.find k ≠ some .dir := by
        intro hf
        simp [hf] at h
      have hput : dirOnly p = false ∧ fs' = fs.put k (.file data) := by
        split at h
        · cases h
        all_goals
          split at h
          · cases h
          · next hd => exact ⟨by simpa using hd, (Except.ok.inj h).symm⟩
      obtain ⟨hd, rfl⟩ := hput
      have hlen : k.length ≠ 1 := by
        intro h1
        obtain ⟨x, rfl⟩ := List.length_eq_one_iff.1 h1
        exact hdir rfl
      simp [read, open_, hk, walk_put, hw, find_put_self hlen, hd, bind, Except.bind]
      rfl

end Talkback.Host.Files


namespace Talkback.Text

theorem toList_trimBlank_eq (s : String) :
    (trimBlank s).toList = (s.toList.dropWhile isBlank).rdropWhile isBlank := by
  rw [trimBlank, String.toList_ofList]
  rfl

/-- Cutting the blanks off the end of a text with none at the front leaves none at the front. -/
theorem dropWhile_rdropWhile_dropWhile (l : List Char) :
    ((l.dropWhile isBlank).rdropWhile isBlank).dropWhile isBlank =
      (l.dropWhile isBlank).rdropWhile isBlank := by
  obtain ⟨t, ht⟩ := List.rdropWhile_prefix isBlank (l.dropWhile isBlank)
  cases hB : (l.dropWhile isBlank).rdropWhile isBlank with
  | nil => rfl
  | cons b B =>
    rw [hB] at ht
    have hA : l.dropWhile isBlank ≠ [] := by rw [← ht]; simp
    have hb := List.head_dropWhile_not isBlank hA
    simp only [← ht, List.cons_append, List.head_cons] at hb
    exact List.dropWhile_cons_of_neg (by simpa using hb)

theorem trimBlank_trimBlank (s : String) : trimBlank (trimBlank s) = trimBlank s := by
  rw [← String.toList_inj, toList_trimBlank_eq, toList_trimBlank_eq,
    dropWhile_rdropWhile_dropWhile, List.rdropWhile_idempotent]

/-- A slash in front of a trimmed text that is not empty leaves it trimmed. -/
theorem trimBlank_slash (s : String) (h : trimBlank s ≠ "") :
    trimBlank ("/" ++ trimBlank s) = "/" ++ trimBlank s := by
  have hne : (trimBlank s).toList ≠ [] := by
    intro h'
    apply h
    rw [← String.toList_inj, h', String.toList_empty]
  -- the trimmed text ends with a character that is no blank
  have hlast : ∀ hl, isBlank ((trimBlank s).toList.getLast hl) = false := by
    rw [toList_trimBlank_eq]
    intro hl
    simpa using List.rdropWhile_last_not isBlank _ hl
  have hslash : ("/" : String).toList = ['/'] := by simp
  rw [← String.toList_inj, toList_trimBlank_eq, String.toList_append, hslash, List.singleton_append,
    List.dropWhile_cons_of_neg (by decide)]
  apply List.rdropWhile_eq_self_iff.2
  intro hl
  rw [List.getLast_cons hne, hlast hne]
  decide

end Talkback.Text

namespace Talkback.App

open Json Json.Decoder

/-! ### Text of the file -/

/-- The bytes of an array, listed. -/
theorem byteArray_toList_loop (b : ByteArray) (i : Nat) (r : List UInt8) :
    ByteArray.toList.loop b i r = r.reverse ++ b.data.toList.drop i := by
  fun_induction ByteArray.toList.loop b i r with
  | case1 i r hi ih =>
    rw [ih]
    have hlen : i < b.data.toList.length := by simpa using hi
    have hget : b.get! i = b.data.toList[i] := by
      simp [ByteArray.get!, hi]
    rw [hget, List.drop_eq_getElem_cons (i := i) (l := b.data.toList) hlen]
    simp
  | case2 i r hi =>
    have : b.data.toList.length ≤ i := by simpa using hi
    simp [List.drop_eq_nil_of_le this]

theorem byteArray_mk_toList (b : ByteArray) : ByteArray.mk b.toList.toArray = b := by
  rw [ByteArray.toList, byteArray_toList_loop]
  simp

theorem fromUTF8?_toByteArray (s : String) : String.fromUTF8? s.toByteArray = some s := by
  rw [String.fromUTF8?, dif_pos s.isValidUTF8]
  rfl

/-- A file holding a text's UTF-8 bytes reads as that text. -/
theorem readText_of_read {fs : Host.Files} {p : String} {s : String}
    (h : fs.read p = .ok s.toUTF8.toList) : readText fs p = some s := by
  simp [readText, h, Except.toOption, byteArray_mk_toList, fromUTF8?_toByteArray]

/-! ### Normalizing -/


theorem nonEmpty_eq_some {raw t : String} (h : nonEmpty raw = some t) :
    t = Text.trimBlank raw ∧ t ≠ "" := by
  simp only [nonEmpty] at h
  split at h
  · cases h
  · next hne =>
    cases h
    exact ⟨rfl, by simpa using hne⟩

/-- What `nonEmpty` keeps, it keeps again. -/
theorem nonEmpty_nonEmpty {raw t : String} (h : nonEmpty raw = some t) : nonEmpty t = some t := by
  obtain ⟨rfl, hne⟩ := nonEmpty_eq_some h
  simp [nonEmpty, Text.trimBlank_trimBlank, hne]

theorem bind_nonEmpty_bind_nonEmpty (x : Option String) :
    (x.bind nonEmpty).bind nonEmpty = x.bind nonEmpty := by
  cases x with
  | none => rfl
  | some raw =>
    cases h : nonEmpty raw with
    | none => simp [h]
    | some t => simp [h, nonEmpty_nonEmpty h]

/-- A normalized path normalizes to itself, when the fallback does. -/
theorem normalizePath_normalizePath {raw fallback : String}
    (hfb : normalizePath fallback fallback = fallback) :
    normalizePath (normalizePath raw fallback) fallback = normalizePath raw fallback := by
  cases hraw : nonEmpty raw with
  | none =>
    have hpath : normalizePath raw fallback = fallback := by simp [normalizePath, hraw]
    rw [hpath, hfb]
  | some t =>
    have ht := nonEmpty_nonEmpty hraw
    by_cases hs : t.startsWith "/" = true
    · have hpath : normalizePath raw fallback = t := by simp [normalizePath, hraw, hs]
      rw [hpath]
      simp [normalizePath, ht, hs]
    · have hpath : normalizePath raw fallback = "/" ++ t := by simp [normalizePath, hraw, hs]
      obtain ⟨rfl, hne⟩ := nonEmpty_eq_some hraw
      have hslash : nonEmpty ("/" ++ Text.trimBlank raw) = some ("/" ++ Text.trimBlank raw) := by
        simp [nonEmpty, Text.trimBlank_slash raw hne]
      rw [hpath]
      simp [normalizePath, hslash]

/-- A normalizer each of whose results normalizes to itself normalizes its results unchanged. -/
theorem normalized_of_outputs {f : String → String} (outs : List String)
    (hout : ∀ raw, f raw ∈ outs) (hfix : ∀ o ∈ outs, f o = o) (raw : String) :
    f (f raw) = f raw :=
  hfix _ (hout raw)

theorem normalizeAuthMode_mem (raw : String) : normalizeAuthMode raw ∈ ["token", "none", "basic"] := by
  unfold normalizeAuthMode
  split <;> simp

theorem normalizeAuthMode_of_mem {m : String} (h : m ∈ ["token", "none", "basic"]) :
    normalizeAuthMode m = m := by
  simp only [List.mem_cons, List.not_mem_nil, or_false] at h
  rcases h with rfl | rfl | rfl <;> decide +kernel

theorem normalizeAuthMode_normalizeAuthMode (raw : String) :
    normalizeAuthMode (normalizeAuthMode raw) = normalizeAuthMode raw :=
  normalized_of_outputs _ normalizeAuthMode_mem (fun _ => normalizeAuthMode_of_mem) raw

theorem normalizeEncoding_mem (raw : String) : normalizeEncoding raw ∈ ["mulaw", "pcm16"] := by
  unfold normalizeEncoding
  split <;> simp

theorem normalizeEncoding_of_mem {m : String} (h : m ∈ ["mulaw", "pcm16"]) :
    normalizeEncoding m = m := by
  simp only [List.mem_cons, List.not_mem_nil, or_false] at h
  rcases h with rfl | rfl <;> decide +kernel

theorem normalizeEncoding_normalizeEncoding (raw : String) :
    normalizeEncoding (normalizeEncoding raw) = normalizeEncoding raw :=
  normalized_of_outputs _ normalizeEncoding_mem (fun _ => normalizeEncoding_of_mem) raw

theorem normalizePlaybackMode_mem (raw : String) :
    normalizePlaybackMode raw ∈ ["blocking", "pull"] := by
  unfold normalizePlaybackMode
  split <;> simp

theorem normalizePlaybackMode_of_mem {m : String} (h : m ∈ ["blocking", "pull"]) :
    normalizePlaybackMode m = m := by
  simp only [List.mem_cons, List.not_mem_nil, or_false] at h
  rcases h with rfl | rfl <;> decide +kernel

theorem normalizePlaybackMode_normalizePlaybackMode (raw : String) :
    normalizePlaybackMode (normalizePlaybackMode raw) = normalizePlaybackMode raw :=
  normalized_of_outputs _ normalizePlaybackMode_mem (fun _ => normalizePlaybackMode_of_mem) raw

theorem clampTo_clampTo {lo hi : Nat} (h : lo ≤ hi) (n : Nat) :
    clampTo lo hi (clampTo lo hi n) = clampTo lo hi n := by
  unfold clampTo
  omega

namespace Settings

/-! ### The settings document -/

/-- Every number fits the width its field is read with. -/
def InRange (s : Settings) : Prop :=
  s.serverPort < Nat.pow 2 16 ∧ s.sampleRate < Nat.pow 2 32 ∧ s.channels < Nat.pow 2 16 ∧
  s.framesPerBuffer < Nat.pow 2 64 ∧ s.queueCapacity < Nat.pow 2 64 ∧
  s.playbackBufferKib < Nat.pow 2 64 ∧ s.maxRecordingSecs < Nat.pow 2 32 ∧
  s.uploadChunkQueue < Nat.pow 2 64 ∧ s.pingIntervalSecs < Nat.pow 2 64

theorem decode_toJson {s : Settings} (h : s.InRange) : decode s.toJson = some s := by
  obtain ⟨h1, h9, h10, h12, h13, h14, h16, h17, h18⟩ := h
  have hopt : ∀ x : Option String, option string (Value.ofOption Value.str x) = some x :=
    fun _ => option_ofOption (fun _ => by simp) fun _ _ => rfl
  have hnd : names.Nodup := by decide
  have hlen : names.length = 21 := rfl
  simp only [decode, toJson, fieldsOrDefaults_obj, fields_written hnd, hlen, List.length_cons,
    List.length_nil]
  -- each slot holds its field's document, which its reader takes back
  rw [Option.bind_eq_bind, Option.bind_some]
  simp only [List.map_cons, List.map_nil, List.getD_cons_zero, List.getD_cons_succ, string, hopt,
    unsigned_ofNat h1, unsigned_ofNat h9, unsigned_ofNat h10, unsigned_ofNat h12, unsigned_ofNat h13,
    unsigned_ofNat h14, unsigned_ofNat h16, unsigned_ofNat h17, unsigned_ofNat h18]
  rfl

theorem plain_ofOption_str (x : Option String) : (Value.ofOption Value.str x).plain = true := by
  cases x <;> rfl

theorem depth_ofOption_str (x : Option String) : (Value.ofOption Value.str x).depth = 0 := by
  cases x <;> rfl

theorem plain_toJson {s : Settings} (h : s.InRange) : s.toJson.plain = true := by
  obtain ⟨h1, h9, h10, h12, h13, h14, h16, h17, h18⟩ := h
  -- every 16- and 32-bit number is also below 2 ^ 64
  have hwide : ∀ {n b : Nat}, b ≤ 64 → n < Nat.pow 2 b → n < Nat.pow 2 64 := fun hb hn =>
    lt_of_lt_of_le hn (Nat.pow_le_pow_right (by decide) hb)
  simp [toJson, names, Value.plain, Value.plain.plainMembers, Value.ofNat, plain_ofOption_str,
    hwide (by decide) h1, hwide (by decide) h9, hwide (by decide) h10, hwide (by decide) h16,
    h12, h13, h14, h17, h18]

theorem depth_toJson (s : Settings) : s.toJson.depth = 1 := by
  simp [toJson, names, Value.depth, Value.depth.depthMembers, Value.ofNat, depth_ofOption_str]

/-- The text a save writes loads as the normalized settings. -/
theorem load_render {s : Settings} (h : s.InRange) : load (some s.render) = s.normalize := by
  have hparse : Json.parse s.render = some s.toJson :=
    parse_pretty 0 (plain_toJson h) (by rw [depth_toJson]; decide)
  simp [load, hparse, decode_toJson h]

/-! ### Normalized settings -/

/-- Normalizing keeps every number within the width it is read with. -/
theorem inRange_normalize {s : Settings} (h : s.InRange) : s.normalize.InRange := by
  have hport : (if s.serverPort = 0 then 8080 else s.serverPort) < Nat.pow 2 16 := by
    have := h.1
    split <;> simp only [Nat.pow_eq] at * <;> omega
  simp only [InRange, normalize, clampTo]
  refine ⟨hport, ?_, ?_, ?_, ?_, ?_, ?_, ?_, ?_⟩ <;> simp only [Nat.pow_eq] <;> omega

/-- Normalizing twice is normalizing once. -/
theorem normalize_normalize (s : Settings) : s.normalize.normalize = s.normalize := by
  have hhost : (nonEmpty ((nonEmpty s.serverHost).getD "127.0.0.1")).getD "127.0.0.1" =
      (nonEmpty s.serverHost).getD "127.0.0.1" := by
    cases h : nonEmpty s.serverHost with
    | none =>
      have hdefault : nonEmpty "127.0.0.1" = some "127.0.0.1" := by decide
      simp [hdefault]
    | some t => simp [nonEmpty_nonEmpty h]
  have hws : normalizePath "/ws" "/ws" = "/ws" := by decide +kernel
  have hupload : normalizePath "/api/v1/audio/stream" "/api/v1/audio/stream" =
      "/api/v1/audio/stream" := by decide +kernel
  have hport : (if (if s.serverPort = 0 then 8080 else s.serverPort) = 0 then 8080
      else if s.serverPort = 0 then 8080 else s.serverPort) =
      if s.serverPort = 0 then 8080 else s.serverPort := by
    split_ifs <;> omega
  simp only [normalize, Settings.mk.injEq]
  exact ⟨hhost, hport, normalizePath_normalizePath hws, normalizeAuthMode_normalizeAuthMode _,
    trivial, trivial, bind_nonEmpty_bind_nonEmpty _, bind_nonEmpty_bind_nonEmpty _,
    normalizePath_normalizePath hupload, clampTo_clampTo (by decide) _,
    clampTo_clampTo (by decide) _, normalizeEncoding_normalizeEncoding _,
    clampTo_clampTo (by decide) _, clampTo_clampTo (by decide) _, clampTo_clampTo (by decide) _,
    normalizePlaybackMode_normalizePlaybackMode _, clampTo_clampTo (by decide) _,
    clampTo_clampTo (by decide) _, by omega, bind_nonEmpty_bind_nonEmpty _,
    bind_nonEmpty_bind_nonEmpty _⟩

end Settings

/-! ### Saving and loading -/

theorem except_bind_eq_ok {ε α β : Type} {x : Except ε α} {f : α → Except ε β} {b : β}
    (h : x >>= f = .ok b) : ∃ a, x = .ok a ∧ f a = .ok b := by
  cases x with
  | error e => cases h
  | ok a => exact ⟨a, rfl, h⟩

/-- After a save succeeds, the file loads as the normalized settings. -/
theorem load_after_save {fs fs' : Host.Files} {p : String} {s : Settings} (h : s.InRange)
    (hsave : saveSettings fs p s = .ok fs') : loadSettings fs' p = s.normalize := by
  -- the save created the parents, then wrote the text
  unfold saveSettings at hsave
  obtain ⟨fs₁, -, hwrite⟩ := except_bind_eq_ok hsave
  have htext : readText fs' p = some s.render := readText_of_read (Host.Files.read_write hwrite)
  rw [loadSettings, htext, Settings.load_render h]

end Talkback.App
