import Mathlib.Tactic.Ring
import Talkback.Proofs.Base64RoundTrip

/-!
What reading base64 gives for every text.

The text is trimmed of blanks and stripped of the `=` at its end. If what is left holds a
character outside the alphabet, the first one is reported with its byte offset in the trimmed
text. Otherwise a lone last character, which carries no whole byte, is dropped, and the rest
reads as its six-bit values written one after another as a string of bits, cut into whole
bytes (`packed`).

Decoding is written as two engines of a library, tried in turn: a strict one that takes only
the canonical text of some bytes, and a lenient one for everything else (`Engines.decode`).
Given only what each engine promises, that decoder is the same function as `decode`: the strict
engine never disagrees with the lenient one, and the lenient one is never handed a text it
refuses.

Main statement: `decode_reads_whole_bytes`.
-/

namespace Talkback.Codec.Base64

/-! ### Bits -/

/-- The `w` low bits of `v`, most significant first. -/
def bitsOf (v : Nat) : Nat → List Bool
  | 0 => []
  | w + 1 => bitsOf (v / 2) w ++ [v % 2 == 1]

/-- The number that a list of bits writes, most significant first. -/
def ofBits (bs : List Bool) : Nat := bs.foldl (fun n b => 2 * n + b.toNat) 0

/-- The whole bytes of a string of bits, eight bits each, most significant first; fewer than
eight bits left at the end make no byte. -/
def wholeBytes : List Bool → List UInt8
  | b0 :: b1 :: b2 :: b3 :: b4 :: b5 :: b6 :: b7 :: rest =>
    (ofBits [b0, b1, b2, b3, b4, b5, b6, b7]).toUInt8 :: wholeBytes rest
  | _ => []

/-- What base64 characters stand for: their six-bit values one after another, cut into
whole bytes. -/
def packed (cs : List Char) : List UInt8 := wholeBytes ((values cs).flatMap (bitsOf · 6))

@[simp] theorem length_bitsOf (v w : Nat) : (bitsOf v w).length = w := by
  induction w generalizing v with
  | zero => rfl
  | succ w ih => simp [bitsOf, ih]

theorem foldl_ofBits (acc : Nat) (ys : List Bool) :
    ys.foldl (fun n b => 2 * n + b.toNat) acc = acc * Nat.pow 2 ys.length + ofBits ys := by
  induction ys generalizing acc with
  | nil => simp [ofBits]
  | cons y ys ih =>
    simp only [ofBits, List.foldl_cons, List.length_cons] at ih ⊢
    rw [ih, ih (2 * 0 + y.toNat), show Nat.pow 2 (ys.length + 1) = Nat.pow 2 ys.length * 2 from rfl]
    ring

theorem ofBits_append (xs ys : List Bool) :
    ofBits (xs ++ ys) = ofBits xs * Nat.pow 2 ys.length + ofBits ys := by
  rw [ofBits, List.foldl_append, foldl_ofBits]
  rfl

/-- The `w` bits of `v` write `v` modulo `2 ^ w`. -/
theorem ofBits_bitsOf (v w : Nat) : ofBits (bitsOf v w) = v % Nat.pow 2 w := by
  induction w generalizing v with
  | zero => simp [bitsOf, ofBits, Nat.pow, Nat.mod_one]
  | succ w ih =>
    rw [bitsOf, ofBits_append, ih, show Nat.pow 2 (w + 1) = 2 * Nat.pow 2 w by
      rw [Nat.mul_comm]; rfl, Nat.mod_mul]
    have hbit : ofBits [v % 2 == 1] = v % 2 := by
      rcases Nat.mod_two_eq_zero_or_one v with h | h <;> simp [ofBits, h]
    rw [hbit, List.length_singleton, show Nat.pow 2 1 = 2 from rfl]
    omega

/-- The bits of `a * 2 ^ n + b`, for `b` below `2 ^ n`, are those of `a` then those of `b`. -/
theorem bitsOf_mul_add (a b m n : Nat) (hb : b < Nat.pow 2 n) :
    bitsOf (a * Nat.pow 2 n + b) (m + n) = bitsOf a m ++ bitsOf b n := by
  induction n generalizing b with
  | zero =>
    obtain rfl : b = 0 := by simpa [Nat.pow] using hb
    simp [bitsOf, Nat.pow]
  | succ n ih =>
    have hpow : Nat.pow 2 (n + 1) = Nat.pow 2 n * 2 := rfl
    -- halving drops the last bit of `b` and leaves `a` in front
    generalize hq : a * Nat.pow 2 n = q
    have hhalf : (a * Nat.pow 2 (n + 1) + b) / 2 = a * Nat.pow 2 n + b / 2 := by
      rw [hpow, ← Nat.mul_assoc, hq]
      omega
    have hlast : (a * Nat.pow 2 (n + 1) + b) % 2 = b % 2 := by
      rw [hpow, ← Nat.mul_assoc, hq]
      omega
    rw [← Nat.add_assoc, bitsOf, hhalf, hlast, ih (b / 2) (by rw [hpow] at hb; omega),
      List.append_assoc]
    rfl

/-! ### Whole bytes -/

theorem wholeBytes_append {xs : List Bool} (h : xs.length = 8) (rest : List Bool) :
    wholeBytes (xs ++ rest) = (ofBits xs).toUInt8 :: wholeBytes rest := by
  match xs, h with
  | [_, _, _, _, _, _, _, _], _ => rfl

theorem wholeBytes_short {xs : List Bool} (h : xs.length < 8) : wholeBytes xs = [] := by
  match xs, h with
  | [], _ | [_], _ | [_, _], _ | [_, _, _], _ | [_, _, _, _], _ | [_, _, _, _, _], _
  | [_, _, _, _, _, _], _ | [_, _, _, _, _, _, _], _ => rfl

@[simp] theorem length_wholeBytes (bs : List Bool) : (wholeBytes bs).length = bs.length / 8 := by
  fun_induction wholeBytes bs with
  | case1 => simp only [List.length_cons]; omega
  | case2 bs hbs =>
    -- a string the first case does not match has fewer than eight bits
    have hshort : bs.length < 8 := by
      match bs, hbs with
      | _ :: _ :: _ :: _ :: _ :: _ :: _ :: _ :: _, h => exact absurd rfl (h _ _ _ _ _ _ _ _ _)
      | [], _ | [_], _ | [_, _], _ | [_, _, _], _ | [_, _, _, _], _ | [_, _, _, _, _], _
      | [_, _, _, _, _, _], _ | [_, _, _, _, _, _, _], _ => simp
    simp only [List.length_nil]
    omega

/-- A byte cut out of the bits of `v`: the eight bits of `v` above its `n` low ones. -/
theorem wholeBytes_bitsOf (v n : Nat) (rest : List Bool) :
    wholeBytes (bitsOf v (8 + n) ++ rest) =
      (v / Nat.pow 2 n % 256).toUInt8 :: wholeBytes (bitsOf (v % Nat.pow 2 n) n ++ rest) := by
  have hsplit := bitsOf_mul_add (v / Nat.pow 2 n) (v % Nat.pow 2 n) 8 n
    (Nat.mod_lt _ (Nat.pos_of_ne_zero (by simp [Nat.pow_eq])))
  rw [Nat.mul_comm, Nat.div_add_mod] at hsplit
  rw [hsplit, List.append_assoc, wholeBytes_append (length_bitsOf _ _), ofBits_bitsOf]

/-! ### Values to bytes -/

/-- Four six-bit values are the bits of three bytes. -/
theorem wholeBytes_group {a b c d : Nat} (ha : a < 64) (hb : b < 64) (hc : c < 64) (hd : d < 64)
    (rest : List Bool) :
    wholeBytes (bitsOf a 6 ++ bitsOf b 6 ++ bitsOf c 6 ++ bitsOf d 6 ++ rest) =
      (a * 4 + b / 16).toUInt8 :: ((b % 16) * 16 + c / 4).toUInt8 :: ((c % 4) * 64 + d).toUInt8 ::
        wholeBytes rest := by
  have h64 : Nat.pow 2 6 = 64 := rfl
  -- the twenty-four bits of the group are those of one number
  have hab := bitsOf_mul_add a b 6 6 (by rw [h64]; exact hb)
  have habc := bitsOf_mul_add (a * 64 + b) c 12 6 (by rw [h64]; exact hc)
  have habcd := bitsOf_mul_add ((a * 64 + b) * 64 + c) d 18 6 (by rw [h64]; exact hd)
  rw [h64] at hab habc habcd
  rw [← hab, ← habc, ← habcd, show 18 + 6 = 8 + 16 by rfl, wholeBytes_bitsOf,
    show Nat.pow 2 16 = 65536 by rfl, wholeBytes_bitsOf _ 8, wholeBytes_bitsOf _ 0]
  simp only [show Nat.pow 2 8 = 256 by rfl, show Nat.pow 2 0 = 1 by rfl, bitsOf, List.nil_append]
  refine congrArg₂ _ (congrArg _ (by omega)) (congrArg₂ _ (congrArg _ (by omega)) ?_)
  exact congrArg₂ _ (congrArg _ (by omega)) rfl

/-- The decoder's bytes of six-bit values are their bits cut into whole bytes. -/
theorem bytesOfValues_eq_wholeBytes (vs : List Nat) (h : ∀ v ∈ vs, v < 64) :
    bytesOfValues vs = wholeBytes (vs.flatMap (bitsOf · 6)) := by
  fun_induction bytesOfValues vs with
  | case1 => rfl
  | case2 a => exact (wholeBytes_short (by simp)).symm
  | case3 a b =>
    simp only [List.forall_mem_cons, List.not_mem_nil, false_implies, implies_true,
      and_true] at h
    obtain ⟨ha, hb⟩ := h
    have hab := bitsOf_mul_add a b 6 6 (by exact hb)
    rw [show Nat.pow 2 6 = 64 by rfl] at hab
    rw [List.flatMap_cons, List.flatMap_cons, List.flatMap_nil, List.append_nil, ← hab,
      show 6 + 6 = 8 + 4 by rfl, ← List.append_nil (bitsOf _ (8 + 4)), wholeBytes_bitsOf,
      wholeBytes_short (by simp)]
    exact congrArg (· :: []) (congrArg _ (by rw [show Nat.pow 2 4 = 16 by rfl]; omega))
  | case4 a b c =>
    simp only [List.forall_mem_cons, List.not_mem_nil, false_implies, implies_true,
      and_true] at h
    obtain ⟨ha, hb, hc⟩ := h
    have hab := bitsOf_mul_add a b 6 6 (by exact hb)
    have habc := bitsOf_mul_add (a * 64 + b) c 12 6 (by exact hc)
    rw [show Nat.pow 2 6 = 64 by rfl] at hab habc
    rw [List.flatMap_cons, List.flatMap_cons, List.flatMap_cons, List.flatMap_nil, List.append_nil,
      ← List.append_assoc, ← hab, ← habc, show 12 + 6 = 8 + 10 by rfl,
      ← List.append_nil (bitsOf _ (8 + 10)), wholeBytes_bitsOf, show Nat.pow 2 10 = 1024 by rfl,
      wholeBytes_bitsOf _ 2, wholeBytes_short (by simp)]
    refine congrArg₂ _ (congrArg _ (by omega)) (congrArg (· :: []) (congrArg _ ?_))
    rw [show Nat.pow 2 2 = 4 by rfl]
    omega
  | case5 a b c d rest ih =>
    simp only [List.forall_mem_cons] at h
    obtain ⟨ha, hb, hc, hd, hrest⟩ := h
    simp only [List.flatMap_cons, ← List.append_assoc]
    rw [wholeBytes_group ha hb hc hd, ih hrest]

/-- The bytes a text of alphabet characters decodes to are its packed bits. -/
theorem bytesOfValues_values (cs : List Char) : bytesOfValues (values cs) = packed cs :=
  bytesOfValues_eq_wholeBytes _ (values_lt cs)

/-- A lone last value carries no whole byte. -/
theorem bytesOfValues_dropLast {vs : List Nat} (h : vs.length % 4 = 1) :
    bytesOfValues vs.dropLast = bytesOfValues vs := by
  fun_induction bytesOfValues vs with
  | case1 | case3 | case4 => simp at h
  | case2 => rfl
  | case5 a b c d rest ih =>
    have hne : rest ≠ [] := by rintro rfl; simp at h
    rw [List.dropLast_cons_of_ne_nil (by simp), List.dropLast_cons_of_ne_nil (by simp),
      List.dropLast_cons_of_ne_nil (by simp), List.dropLast_cons_of_ne_nil hne,
      bytesOfValues, ih (by simp at h; omega)]

theorem values_dropLast {cs : List Char} (h : ∀ c ∈ cs, InAlphabet c) :
    values cs.dropLast = (values cs).dropLast := by
  induction cs with
  | nil => rfl
  | cons c rest ih =>
    obtain ⟨v, hv⟩ := Option.isSome_iff_exists.mp ((value?_isSome_iff c).mpr (h c List.mem_cons_self))
    cases rest with
    | nil => simp [values, hv]
    | cons d more =>
      have hrest := ih fun x hx => h x (List.mem_cons_of_mem _ hx)
      obtain ⟨w, hw⟩ := Option.isSome_iff_exists.mp
        ((value?_isSome_iff d).mpr (h d (List.mem_cons_of_mem _ List.mem_cons_self)))
      simp only [values, List.dropLast_cons_cons, List.filterMap_cons, hv, hw] at hrest ⊢
      rw [hrest]

theorem length_values {cs : List Char} (h : ∀ c ∈ cs, InAlphabet c) :
    (values cs).length = cs.length := by
  simpa using congrArg List.length (map_digit_values h)

/-! ### The first character outside the alphabet -/

theorem not_inAlphabet_iff {c : Char} : ¬ InAlphabet c ↔ value? c = none := by
  rw [← value?_isSome_iff, Option.not_isSome_iff_eq_none]

/-- The scan stops at the first character outside the alphabet, at the byte offset that the
characters before it take. -/
theorem firstStray_append {pre : List Char} (hpre : ∀ x ∈ pre, InAlphabet x) {c : Char}
    (hc : ¬ InAlphabet c) (post : List Char) (pos : Nat) :
    firstStray pos (pre ++ c :: post) = some (c, pos + (String.ofList pre).utf8ByteSize) := by
  induction pre generalizing pos with
  | nil => simp [firstStray, not_inAlphabet_iff.mp hc]
  | cons x pre ih =>
    obtain ⟨v, hv⟩ := Option.isSome_iff_exists.mp ((value?_isSome_iff x).mpr (hpre x List.mem_cons_self))
    rw [List.cons_append, firstStray, hv, ih (fun y hy => hpre y (List.mem_cons_of_mem _ hy))]
    simp only [Option.some.injEq, Prod.mk.injEq, true_and]
    rw [show x :: pre = [x] ++ pre from rfl, String.ofList_append, String.utf8ByteSize_append]
    simp
    omega

/-- Either every character is in the alphabet, or there is a first that is not. -/
theorem alphabet_or_first_stray (cs : List Char) :
    (∀ c ∈ cs, InAlphabet c) ∨
      ∃ pre c post, cs = pre ++ c :: post ∧ (∀ x ∈ pre, InAlphabet x) ∧ ¬ InAlphabet c := by
  induction cs with
  | nil => exact .inl (by simp)
  | cons c rest ih =>
    by_cases hc : InAlphabet c
    · rcases ih with hall | ⟨pre, d, post, rfl, hpre, hd⟩
      · exact .inl (List.forall_mem_cons.mpr ⟨hc, hall⟩)
      · exact .inr ⟨c :: pre, d, post, rfl, List.forall_mem_cons.mpr ⟨hc, hpre⟩, hd⟩
    · exact .inr ⟨[], c, rest, rfl, by simp, hc⟩

/-! ### Decoding any text -/

/-- The trimmed text without the `=` at its end. -/
def unpadded (text : String) : List Char :=
  ((Text.trimBlank text).toList.reverse.dropWhile (· = '=')).reverse

/-- What is read of an unpadded text over the alphabet: all of it, less a lone last
character. -/
def usable (body : List Char) : List Char := if body.length % 4 = 1 then body.dropLast else body

theorem decode_of_firstStray {text : String} {c : Char} {pos : Nat}
    (h : firstStray 0 (unpadded text) = some (c, pos)) :
    decode text = .error (.format ("invalid base64 character " ++ Text.quoteChar c ++
      " at offset " ++ toString pos)) := by
  unfold unpadded at h
  simp only [decode, h]

theorem decode_of_clean {text : String} (h : firstStray 0 (unpadded text) = none) :
    decode text = .ok (bytesOfValues (values (unpadded text))) := by
  unfold unpadded at h ⊢
  simp only [decode, h]

theorem length_usable {body : List Char} : (usable body).length % 4 ≠ 1 := by
  unfold usable
  split
  · rw [List.length_dropLast]
    omega
  · assumption

theorem usable_inAlphabet {body : List Char} (h : ∀ c ∈ body, InAlphabet c) :
    ∀ c ∈ usable body, InAlphabet c := by
  unfold usable
  split
  · exact fun c hc => h c (List.dropLast_subset _ hc)
  · exact h

/-- Dropping a lone last character loses no byte. -/
theorem packed_usable {body : List Char} (h : ∀ c ∈ body, InAlphabet c) :
    packed (usable body) = bytesOfValues (values body) := by
  rw [← bytesOfValues_values, usable]
  split
  · rw [values_dropLast h, bytesOfValues_dropLast (by rwa [length_values h])]
  · rfl

theorem length_flatMap_bitsOf (vs : List Nat) : (vs.flatMap (bitsOf · 6)).length = 6 * vs.length := by
  induction vs with
  | nil => rfl
  | cons v vs ih =>
    rw [List.flatMap_cons, List.length_append, length_bitsOf, ih, List.length_cons]
    omega

theorem length_packed {cs : List Char} (h : ∀ c ∈ cs, InAlphabet c) :
    (packed cs).length = 6 * cs.length / 8 := by
  rw [packed, length_wholeBytes, length_flatMap_bitsOf, length_values h]

/-! ### The two engines -/

/-- The two decoders of a base64 library that reading tries, and what each is documented to do.
The standard one (canonical padding, no stray low bits) accepts only the canonical text of the
bytes it returns; the lenient one (padding optional, stray low bits ignored) reads a text of
alphabet characters with no lone last character as the whole bytes of its six-bit values.
Their errors carry the library's message. -/
structure Engines where
  strict : List Char → Except String (List UInt8)
  lenient : List Char → Except String (List UInt8)
  strict_canonical : ∀ cs bytes, strict cs = .ok bytes → cs = encodeChars bytes
  lenient_whole : ∀ cs, (∀ c ∈ cs, InAlphabet c) → cs.length % 4 ≠ 1 → lenient cs = .ok (packed cs)

/-- Reading through the engines: trim the text and strip its padding, report the first
character outside the alphabet, else try the standard engine on the trimmed text and, if it
refuses, the lenient one on the stripped text less a lone last character, reporting the
library's error if that refuses too. -/
def Engines.decode (e : Engines) (text : String) : Except Error (List UInt8) :=
  let trimmed := (Text.trimBlank text).toList
  let body := (trimmed.reverse.dropWhile (· = '=')).reverse
  match firstStray 0 body with
  | some (c, pos) =>
    .error (.format ("invalid base64 character " ++ Text.quoteChar c ++ " at offset " ++
      toString pos))
  | none =>
    match e.strict trimmed with
    | .ok bytes => .ok bytes
    | .error _ =>
      let n := if body.length % 4 = 1 then body.length - 1 else body.length
      match e.lenient (body.take n) with
      | .ok bytes => .ok bytes
      | .error msg => .error (.format ("base64: " ++ msg))

theorem take_usable (body : List Char) :
    body.take (if body.length % 4 = 1 then body.length - 1 else body.length) = usable body := by
  unfold usable
  split
  · exact List.dropLast_eq_take.symm
  · exact List.take_length

/-- What the standard engine accepts decodes, by the lenient reading too, to what it returns. -/
theorem bytes_of_strict (e : Engines) {text : String} {bytes : List UInt8}
    (h : e.strict (Text.trimBlank text).toList = .ok bytes) :
    bytesOfValues (values (unpadded text)) = bytes := by
  have hcanon := e.strict_canonical _ _ h
  rw [encodeChars_eq] at hcanon
  rw [unpadded, hcanon, dropPadding (fun c hc => (digits_inAlphabet bytes c hc).not_blank_not_pad.2),
    values_map_digit (sextets_lt bytes), bytesOfValues_sextets]

/-- **Reading through the two engines is `decode`.** Whatever the engines, as long as they do
what they promise, the standard one agrees with the lenient one wherever it accepts, and the
lenient one is only handed texts it reads, so its own error never shows. -/
theorem Engines.decode_eq (e : Engines) (text : String) : e.decode text = Base64.decode text := by
  rcases alphabet_or_first_stray (unpadded text) with hall | ⟨pre, c, post, hsplit, hpre, hc⟩
  · have hclean := firstStray_eq_none (fun c hc => (value?_isSome_iff c).mpr (hall c hc)) 0
    rw [decode_of_clean hclean]
    unfold unpadded at hclean
    simp only [Engines.decode, hclean]
    split
    · next bytes hstrict => rw [bytes_of_strict e hstrict]
    · rw [show ((Text.trimBlank text).toList.reverse.dropWhile (· = '=')).reverse = unpadded text
        from rfl, take_usable, e.lenient_whole _ (usable_inAlphabet hall) length_usable,
        packed_usable hall]
  · have hstray := firstStray_append hpre hc post 0
    rw [← hsplit] at hstray
    rw [decode_of_firstStray hstray]
    unfold unpadded at hstray
    simp only [Engines.decode, hstray]

/-- **Decoding any text.** Trimmed of blanks and stripped of its final `=`, a text whose first
character outside the alphabet is `c`, after the alphabet characters `pre`, is refused with a
format error naming `c` and its byte offset; a text with none decodes to the packed bits of its
characters, less a lone last one, which are the first `⌊6n/8⌋` bytes of its `n` characters'
bits. And the decoder written as a standard engine with a lenient fallback, for any engines
that keep their promises, gives the same answer on every text. -/
theorem decode_reads_whole_bytes (text : String) :
    (∀ pre c post, unpadded text = pre ++ c :: post → (∀ x ∈ pre, InAlphabet x) → ¬ InAlphabet c →
      decode text = .error (.format ("invalid base64 character " ++ Text.quoteChar c ++
        " at offset " ++ toString (String.ofList pre).utf8ByteSize))) ∧
    ((∀ c ∈ unpadded text, InAlphabet c) →
      decode text = .ok (packed (usable (unpadded text))) ∧
      (packed (usable (unpadded text))).length = 6 * (usable (unpadded text)).length / 8) ∧
    ∀ e : Engines, e.decode text = decode text := by
  refine ⟨fun pre c post hsplit hpre hc => ?_, fun hall => ⟨?_, ?_⟩, fun e => e.decode_eq text⟩
  · have hstray := firstStray_append hpre hc post 0
    rw [← hsplit, Nat.zero_add] at hstray
    exact decode_of_firstStray hstray
  · rw [decode_of_clean (firstStray_eq_none (fun c hc => (value?_isSome_iff c).mpr (hall c hc)) 0),
      packed_usable hall]
  · exact length_packed (usable_inAlphabet hall)

/-- A standard engine that takes exactly the canonical texts. -/
def exactStrict (cs : List Char) : Except String (List UInt8) :=
  if encodeChars (bytesOfValues (values cs)) = cs then .ok (bytesOfValues (values cs))
  else .error "invalid padding"

/-- A lenient engine that takes exactly the texts of alphabet characters with no lone last one. -/
def exactLenient (cs : List Char) : Except String (List UInt8) :=
  if (cs.all fun c => (value? c).isSome) && cs.length % 4 != 1 then .ok (packed cs)
  else .error "invalid symbol"

theorem exactStrict_canonical (cs : List Char) (bytes : List UInt8)
    (h : exactStrict cs = .ok bytes) : cs = encodeChars bytes := by
  unfold exactStrict at h
  split at h
  · next hcanon => cases h; exact hcanon.symm
  · cases h

theorem exactLenient_whole (cs : List Char) (halpha : ∀ c ∈ cs, InAlphabet c)
    (hlen : cs.length % 4 ≠ 1) : exactLenient cs = .ok (packed cs) := by
  have hall : (cs.all fun c => (value? c).isSome) = true :=
    List.all_eq_true.mpr fun c hc => (value?_isSome_iff c).mpr (halpha c hc)
  simp [exactLenient, hall, hlen]

/-- Engines that do what they promise and refuse every other text. -/
def Engines.exact : Engines := ⟨exactStrict, exactLenient, exactStrict_canonical, exactLenient_whole⟩

/-- `Zm9v*mFy` is refused at its fifth character, four bytes in; ` Zm8 `, unpadded and between
blanks, reads as two bytes, through the engines too. -/
theorem star_refused_and_short_text_read :
    decode "Zm9v*mFy" = .error (.format ("invalid base64 character " ++ Text.quoteChar '*' ++
      " at offset " ++ toString (String.ofList ['Z', 'm', '9', 'v']).utf8ByteSize)) ∧
    decode " Zm8 " = .ok (packed (usable (unpadded " Zm8 "))) ∧
    Engines.exact.decode " Zm8 " = decode " Zm8 " := by
  have hsplit : unpadded "Zm9v*mFy" = ['Z', 'm', '9', 'v'] ++ '*' :: ['m', 'F', 'y'] := rfl
  -- the characters are taken one by one: `decide` over a whole list does not unfold far enough
  have hpre : ∀ x ∈ ['Z', 'm', '9', 'v'], InAlphabet x := by
    intro x hx
    simp only [List.mem_cons, List.not_mem_nil, or_false] at hx
    rcases hx with rfl | rfl | rfl | rfl <;> decide
  have hstar : ¬ InAlphabet '*' := by decide
  have hclean : ∀ c ∈ unpadded " Zm8 ", InAlphabet c := by
    intro c hc
    rw [show unpadded " Zm8 " = ['Z', 'm', '8'] from rfl] at hc
    simp only [List.mem_cons, List.not_mem_nil, or_false] at hc
    rcases hc with rfl | rfl | rfl <;> decide
  exact ⟨(decode_reads_whole_bytes "Zm9v*mFy").1 _ '*' _ hsplit hpre hstar,
    ((decode_reads_whole_bytes " Zm8 ").2.1 hclean).1, (decode_reads_whole_bytes " Zm8 ").2.2 _⟩

end Talkback.Codec.Base64
