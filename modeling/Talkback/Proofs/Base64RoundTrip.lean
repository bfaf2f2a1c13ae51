import Mathlib.Data.List.TakeWhile
import Mathlib.Tactic.SplitIfs
import Talkback.Codec.Base64

/-!
Base64 text and bytes are each other's inverse.

Encoding a list of bytes is the same as cutting it into six-bit values (`sextets`), writing
each as its alphabet character and padding with `=` to a whole group of four. Reading the
characters back gives the values, and the values give the bytes back. In the other direction,
a text over the alphabet whose length leaves no lone character and whose last character has
no stray low bits is read to bytes that encode to the text itself, padded.

Main statement: `encode_decode_round_trip`.
-/

namespace Talkback.Text

/-- Trimming leaves a text without blanks as it is. -/
theorem toList_trimBlank {s : String} (h : ∀ c ∈ s.toList, isBlank c = false) :
    (trimBlank s).toList = s.toList := by
  have keep : ∀ l : List Char, (∀ c ∈ l, isBlank c = false) → l.dropWhile isBlank = l :=
    fun l hl => List.dropWhile_eq_self_iff.mpr fun h0 => by simp [hl _ (List.getElem_mem h0)]
  rw [trimBlank, String.toList_ofList, keep _ h,
    keep _ (fun c hc => h c (List.mem_reverse.mp hc)), List.reverse_reverse]

end Talkback.Text

namespace Talkback.Codec.Base64

/-- A character of the base64 alphabet: an ASCII letter or digit, `+` or `/`. -/
def InAlphabet (c : Char) : Prop := c.isAlphanum = true ∨ c = '+' ∨ c = '/'

instance : DecidablePred InAlphabet :=
  fun c => inferInstanceAs (Decidable (c.isAlphanum = true ∨ c = '+' ∨ c = '/'))

/-- The six-bit values a list of bytes is written with, before padding: three bytes are cut
into four values, high bits first, and a short last group is filled with zero bits. -/
def sextets : List UInt8 → List Nat
  | [] => []
  | [a] => [a.toNat / 4, a.toNat % 4 * 16]
  | [a, b] => [a.toNat / 4, a.toNat % 4 * 16 + b.toNat / 16, b.toNat % 16 * 4]
  | a :: b :: c :: rest =>
    a.toNat / 4 :: (a.toNat % 4 * 16 + b.toNat / 16) :: (b.toNat % 16 * 4 + c.toNat / 64) ::
      c.toNat % 64 :: sextets rest

/-- The `=` that fill up the last group of four characters of the text of `n` bytes. -/
def padding (n : Nat) : Nat := (3 - n % 3) % 3

/-! ### The alphabet -/

/-- Each six-bit value is written as an alphabet character, which reads back as the value
and is neither blank nor padding. -/
theorem digit_facts : ∀ v, v < 64 →
    value? (digit v) = some v ∧ InAlphabet (digit v) ∧ Text.isBlank (digit v) = false ∧
      digit v ≠ '=' := by
  decide

/-- A character that reads as a value is that value's character. -/
theorem digit_of_value? {c : Char} {v : Nat} (h : value? c = some v) : v < 64 ∧ digit v = c := by
  simp only [value?] at h
  split_ifs at h with h1 h2 h3 h4 h5 <;> cases h
  · refine ⟨by omega, ?_⟩
    rw [digit, if_pos (by omega), show 65 + (c.toNat - 65) = c.toNat by omega, Char.ofNat_toNat]
  · refine ⟨by omega, ?_⟩
    rw [digit, if_neg (by omega), if_pos (by omega),
      show 97 + (c.toNat - 97 + 26) - 26 = c.toNat by omega, Char.ofNat_toNat]
  · refine ⟨by omega, ?_⟩
    rw [digit, if_neg (by omega), if_neg (by omega), if_pos (by omega),
      show 48 + (c.toNat - 48 + 52) - 52 = c.toNat by omega, Char.ofNat_toNat]
  · exact ⟨by omega, by subst h4; decide⟩
  · exact ⟨by omega, by subst h5; decide⟩

/-- A character reads as a value exactly when it is in the alphabet. -/
theorem value?_isSome_iff (c : Char) : (value? c).isSome ↔ InAlphabet c := by
  constructor
  · intro h
    obtain ⟨v, hv⟩ := Option.isSome_iff_exists.mp h
    obtain ⟨hlt, rfl⟩ := digit_of_value? hv
    exact (digit_facts v hlt).2.1
  · intro h
    -- the ASCII classes, spelled out as their code-point bounds
    change (decide (c.val ≥ 'A'.val ∧ c.val ≤ 'Z'.val) ||
      (decide (c.val ≥ 'a'.val) && decide (c.val ≤ 'z'.val)) ||
      (decide (c.val ≥ '0'.val) && decide (c.val ≤ '9'.val))) = true ∨ c = '+' ∨ c = '/' at h
    simp only [Bool.or_eq_true, Bool.and_eq_true, decide_eq_true_eq, ge_iff_le,
      UInt32.le_iff_toNat_le] at h
    -- the alphabet's bounds as code points, where `value?` tests them
    have hA : 'A'.val.toNat = 65 := rfl
    have hZ : 'Z'.val.toNat = 90 := rfl
    have ha : 'a'.val.toNat = 97 := rfl
    have hz : 'z'.val.toNat = 122 := rfl
    have h0 : '0'.val.toNat = 48 := rfl
    have h9 : '9'.val.toNat = 57 := rfl
    simp only [value?, Char.toNat]
    split_ifs <;> simp_all
    omega

/-- An alphabet character is neither blank nor padding. -/
theorem InAlphabet.not_blank_not_pad {c : Char} (h : InAlphabet c) :
    Text.isBlank c = false ∧ c ≠ '=' := by
  obtain ⟨v, hv⟩ := Option.isSome_iff_exists.mp ((value?_isSome_iff c).mpr h)
  obtain ⟨hlt, rfl⟩ := digit_of_value? hv
  exact (digit_facts v hlt).2.2

theorem values_map_digit {vs : List Nat} (h : ∀ v ∈ vs, v < 64) : values (vs.map digit) = vs := by
  induction vs with
  | nil => rfl
  | cons v rest ih =>
    have hv := (digit_facts v (h v List.mem_cons_self)).1
    simp only [values, List.map_cons, List.filterMap_cons, hv] at ih ⊢
    rw [ih fun w hw => h w (List.mem_cons_of_mem _ hw)]

theorem map_digit_values {cs : List Char} (h : ∀ c ∈ cs, InAlphabet c) :
    (values cs).map digit = cs := by
  induction cs with
  | nil => rfl
  | cons c rest ih =>
    obtain ⟨v, hv⟩ := Option.isSome_iff_exists.mp ((value?_isSome_iff c).mpr (h c List.mem_cons_self))
    simp only [values, List.filterMap_cons, hv, List.map_cons] at ih ⊢
    rw [(digit_of_value? hv).2, ih fun d hd => h d (List.mem_cons_of_mem _ hd)]

theorem values_lt (cs : List Char) : ∀ v ∈ values cs, v < 64 := by
  intro v hv
  obtain ⟨c, -, hc⟩ := List.mem_filterMap.mp hv
  exact (digit_of_value? hc).1

/-! ### Reading a text -/

theorem firstStray_eq_none {cs : List Char} (h : ∀ c ∈ cs, (value? c).isSome) (pos : Nat) :
    firstStray pos cs = none := by
  induction cs generalizing pos with
  | nil => rfl
  | cons c rest ih =>
    obtain ⟨v, hv⟩ := Option.isSome_iff_exists.mp (h c List.mem_cons_self)
    rw [firstStray, hv]
    exact ih (fun c hc => h c (List.mem_cons_of_mem _ hc)) _

/-- Dropping the `=` at the end of digits followed by padding leaves the digits. -/
theorem dropPadding {ds : List Char} (h : ∀ c ∈ ds, c ≠ '=') (k : Nat) :
    ((ds ++ List.replicate k '=').reverse.dropWhile (· = '=')).reverse = ds := by
  rw [List.reverse_append, List.reverse_replicate,
    List.dropWhile_append_of_pos (by simp [List.mem_replicate]),
    List.dropWhile_eq_self_iff.mpr
      fun h0 => by simpa using h _ (List.mem_reverse.mp (List.getElem_mem h0)),
    List.reverse_reverse]

/-- Alphabet characters followed by padding read as the bytes of their values. -/
theorem decode_digits {ds : List Char} (h : ∀ c ∈ ds, InAlphabet c) (k : Nat) :
    decode (String.ofList (ds ++ List.replicate k '=')) = .ok (bytesOfValues (values ds)) := by
  have hclean : ∀ c ∈ (String.ofList (ds ++ List.replicate k '=')).toList,
      Text.isBlank c = false := by
    intro c hc
    rw [String.toList_ofList, List.mem_append, List.mem_replicate] at hc
    rcases hc with hc | ⟨-, rfl⟩
    · exact (h c hc).not_blank_not_pad.1
    · decide
  simp only [decode, Text.toList_trimBlank hclean, String.toList_ofList,
    dropPadding (fun c hc => (h c hc).not_blank_not_pad.2),
    firstStray_eq_none (fun c hc => (value?_isSome_iff c).mpr (h c hc))]

/-! ### Bytes to values and back -/

theorem sextets_lt (bs : List UInt8) : ∀ v ∈ sextets bs, v < 64 := by
  fun_induction sextets bs with
  | case1 => simp
  | case2 a =>
    have := a.toNat_lt
    simp only [List.mem_cons, List.not_mem_nil, or_false]
    omega
  | case3 a b =>
    have := a.toNat_lt
    have := b.toNat_lt
    simp only [List.mem_cons, List.not_mem_nil, or_false]
    omega
  | case4 a b c rest ih =>
    have := a.toNat_lt
    have := b.toNat_lt
    have := c.toNat_lt
    simp only [List.forall_mem_cons]
    exact ⟨by omega, by omega, by omega, by omega, ih⟩

theorem length_sextets (bs : List UInt8) : (sextets bs).length = (4 * bs.length + 2) / 3 := by
  fun_induction sextets bs with
  | case1 | case2 | case3 => simp
  | case4 a b c rest ih => simp only [List.length_cons, ih]; omega

theorem padding_add_three (n : Nat) : padding (n + 3) = padding n := by
  simp only [padding]
  omega

/-- **The encoder, split.** The characters of a list of bytes are its six-bit values written
out, then the padding. -/
theorem encodeChars_eq (bs : List UInt8) :
    encodeChars bs = (sextets bs).map digit ++ List.replicate (padding bs.length) '=' := by
  fun_induction encodeChars bs with
  | case1 => rfl
  | case2 a n =>
    have := a.toNat_lt
    simp only [n, sextets, List.map_cons, List.map_nil, List.cons_append, List.nil_append,
      List.cons.injEq]
    exact ⟨congrArg digit (by omega), congrArg digit (by omega), rfl⟩
  | case3 a b n =>
    have := a.toNat_lt
    have := b.toNat_lt
    simp only [n, sextets, List.map_cons, List.map_nil, List.cons_append, List.nil_append,
      List.cons.injEq]
    exact ⟨congrArg digit (by omega), congrArg digit (by omega), congrArg digit (by omega), rfl⟩
  | case4 a b c rest n ih =>
    have := a.toNat_lt
    have := b.toNat_lt
    have := c.toNat_lt
    simp only [n, ih, sextets, List.map_cons, List.cons_append, List.length_cons,
      padding_add_three, List.cons.injEq, and_true]
    exact ⟨congrArg digit (by omega), congrArg digit (by omega), congrArg digit (by omega),
      congrArg digit (by omega)⟩

theorem toUInt8_eq_of_toNat {x : Nat} {a : UInt8} (h : x = a.toNat) : x.toUInt8 = a := by
  subst h
  exact UInt8.ofNat_toNat

/-- The values of a list of bytes give the bytes back. -/
theorem bytesOfValues_sextets (bs : List UInt8) : bytesOfValues (sextets bs) = bs := by
  fun_induction sextets bs with
  | case1 => rfl
  | case2 a =>
    have := a.toNat_lt
    simp only [bytesOfValues, List.cons.injEq, and_true]
    exact toUInt8_eq_of_toNat (by omega)
  | case3 a b =>
    have := a.toNat_lt
    have := b.toNat_lt
    simp only [bytesOfValues, List.cons.injEq, and_true]
    exact ⟨toUInt8_eq_of_toNat (by omega), toUInt8_eq_of_toNat (by omega)⟩
  | case4 a b c rest ih =>
    have := a.toNat_lt
    have := b.toNat_lt
    have := c.toNat_lt
    simp only [bytesOfValues, ih, List.cons.injEq, and_true]
    exact ⟨toUInt8_eq_of_toNat (by omega), toUInt8_eq_of_toNat (by omega),
      toUInt8_eq_of_toNat (by omega)⟩

theorem length_bytesOfValues (vs : List Nat) : (bytesOfValues vs).length = 3 * vs.length / 4 := by
  fun_induction bytesOfValues vs with
  | case5 a b c d rest ih => simp only [List.length_cons, ih]; omega
  | _ => simp

/-- Values that leave no lone last value and no stray low bits in the last one are the values
of the bytes they give. The stray bits of `n` values are the `6 * n % 8` that no whole byte
takes. -/
theorem sextets_bytesOfValues (vs : List Nat) (hlt : ∀ v ∈ vs, v < 64) (hlen : vs.length % 4 ≠ 1)
    (hspare : ∀ v ∈ vs.getLast?, v % Nat.pow 2 (6 * vs.length % 8) = 0) :
    sextets (bytesOfValues vs) = vs := by
  fun_induction bytesOfValues vs with
  | case1 => rfl
  | case2 => simp at hlen
  | case3 a b =>
    simp only [List.forall_mem_cons, List.getLast?_cons_cons, List.getLast?_singleton,
      Option.mem_def, Option.some.injEq, forall_eq', List.length_cons, List.length_nil] at hlt hspare
    have h16 : b % 16 = 0 := hspare
    simp only [sextets, Nat.toUInt8_eq, UInt8.toNat_ofNat', Nat.reducePow, List.cons.injEq,
      and_true]
    omega
  | case4 a b c =>
    simp only [List.forall_mem_cons, List.getLast?_cons_cons, List.getLast?_singleton,
      Option.mem_def, Option.some.injEq, forall_eq', List.length_cons, List.length_nil] at hlt hspare
    have h4 : c % 4 = 0 := hspare
    simp only [sextets, Nat.toUInt8_eq, UInt8.toNat_ofNat', Nat.reducePow, List.cons.injEq,
      and_true]
    omega
  | case5 a b c d rest ih =>
    simp only [List.forall_mem_cons] at hlt
    obtain ⟨ha, hb, hc, hd, hrest⟩ := hlt
    -- the last value and the stray bits of a whole group of four more are those of `rest`
    have hspare' : ∀ v ∈ rest.getLast?, v % Nat.pow 2 (6 * rest.length % 8) = 0 := by
      cases rest with
      | nil => simp
      | cons x xs =>
        simp only [List.getLast?_cons_cons, List.length_cons] at hspare
        intro v hv
        have := hspare v hv
        rwa [show 6 * (xs.length + 1 + 1 + 1 + 1 + 1) % 8 = 6 * (xs.length + 1) % 8 by omega]
          at this
    simp only [sextets, ih hrest (by simp at hlen; omega) hspare', Nat.toUInt8_eq,
      UInt8.toNat_ofNat', Nat.reducePow, List.cons.injEq, and_true]
    omega

/-- The bytes of `n` values, `n` not one more than a multiple of four, are padded to the next
multiple of four characters. -/
theorem padding_three_quarters {n : Nat} (h : n % 4 ≠ 1) : padding (3 * n / 4) = (4 - n % 4) % 4 := by
  obtain ⟨k, hk | hk | hk⟩ : ∃ k, n = 4 * k ∨ n = 4 * k + 2 ∨ n = 4 * k + 3 := ⟨n / 4, by omega⟩
  all_goals subst hk; simp only [padding]; omega

/-! ### Both directions -/

theorem length_encode (bs : List UInt8) : (encode bs).length = 4 * ((bs.length + 2) / 3) := by
  rw [encode, String.length_ofList, encodeChars_eq, List.length_append, List.length_map,
    length_sextets, List.length_replicate, padding]
  omega

/-- The characters written for the values of a list of bytes are in the alphabet. -/
theorem digits_inAlphabet (bs : List UInt8) : ∀ c ∈ (sextets bs).map digit, InAlphabet c := by
  intro c hc
  obtain ⟨v, hv, rfl⟩ := List.mem_map.mp hc
  exact (digit_facts v (sextets_lt bs v hv)).2.1

/-- The text of a list of bytes is alphabet characters followed by at most two `=`. -/
theorem encode_shape (bs : List UInt8) :
    ∃ body k, (encode bs).toList = body ++ List.replicate k '=' ∧ k ≤ 2 ∧
      ∀ c ∈ body, InAlphabet c := by
  refine ⟨(sextets bs).map digit, padding bs.length, ?_, ?_, digits_inAlphabet bs⟩
  · rw [encode, String.toList_ofList, encodeChars_eq]
  · simp only [padding]
    omega

/-- Reading the text of a list of bytes gives the bytes back. -/
theorem decode_encode (bs : List UInt8) : decode (encode bs) = .ok bs := by
  rw [encode, encodeChars_eq, decode_digits (digits_inAlphabet bs),
    values_map_digit (sextets_lt bs), bytesOfValues_sextets]

/-- A text over the alphabet with no lone last character and no stray low bits in its last
character reads as bytes whose text is the text itself, padded with `=` to a whole group. -/
theorem encode_decode (t : String) (halpha : ∀ c ∈ t.toList, InAlphabet c)
    (hlen : t.length % 4 ≠ 1)
    (hspare : ∀ c ∈ t.toList.getLast?, ∀ v ∈ value? c, v % Nat.pow 2 (6 * t.length % 8) = 0) :
    ∃ bs, decode t = .ok bs ∧
      encode bs = t ++ String.ofList (List.replicate ((4 - t.length % 4) % 4) '=') := by
  set vs := values t.toList with hvs
  have hmap : vs.map digit = t.toList := map_digit_values halpha
  have hn : vs.length = t.length := by
    rw [← String.length_toList, ← hmap, List.length_map]
  -- the stray-bits condition, read on the values
  have hspare' : ∀ v ∈ vs.getLast?, v % Nat.pow 2 (6 * vs.length % 8) = 0 := by
    intro v hv
    have hv' : v ∈ vs := List.mem_of_getLast? hv
    have hc : digit v ∈ t.toList.getLast? := by
      rw [← hmap, List.getLast?_map]
      exact Option.mem_map_of_mem digit hv
    rw [hn]
    exact hspare _ hc v (digit_facts v (values_lt _ v hv')).1
  refine ⟨bytesOfValues vs, ?_, ?_⟩
  · have := decode_digits halpha 0
    rwa [List.replicate_zero, List.append_nil, String.ofList_toList] at this
  · apply String.ext
    rw [encode, String.toList_ofList, encodeChars_eq,
      sextets_bytesOfValues vs (values_lt _) (by omega) hspare', hmap, String.toList_append,
      String.toList_ofList, length_bytesOfValues, hn]
    rw [padding_three_quarters (by omega)]

end Talkback.Codec.Base64
