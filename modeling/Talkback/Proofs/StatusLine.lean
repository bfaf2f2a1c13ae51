import Mathlib.Data.List.SplitBy
import Mathlib.Data.List.TakeWhile
import Mathlib.Data.List.Induction
import Mathlib.Data.Nat.Digits.Defs
import Talkback.Upload.Response

/-!
Reading the status and the body of a server's answer.

The words of a text are its maximal runs of non-blank characters, so a text is blanks, then
its first word, then the rest, which is empty or begins with a blank and holds the other words
(`words_eq_cons_iff`). The status is read off the first two words of the first line: the first
must begin with `HTTP/`, and the second must be an unsigned number of 16 bits in decimal, with an
optional `+` (`ReadsUnsigned`). The body is what follows the first blank line, `CR LF CR LF`, or
the whole text (`BodyOf`).
-/

namespace Talkback

/-! ### Words -/

namespace Text

open List

/-- A run of characters of one kind, blank or not, is one group of the split. -/
lemma isChain_sameKind {g : List Char} {k : Bool} (hk : ∀ c ∈ g, isBlank c = k) :
    g.IsChain fun a b => (isBlank a == isBlank b) = true := by
  induction g with
  | nil => exact .nil
  | cons a g ih =>
    refine isChain_cons.2 ⟨fun b hb => ?_, ih fun c hc => hk c (.tail _ hc)⟩
    simp [hk a mem_cons_self, hk b (.tail _ (mem_of_mem_head? hb))]

/-- A nonempty run of one kind, followed by text of the other kind, splits off as a group. -/
lemma splitBy_run_append {g x : List Char} (hg : g ≠ []) {k : Bool} (hk : ∀ c ∈ g, isBlank c = k)
    (hx : ∀ c ∈ x.head?, isBlank c = !k) :
    (g ++ x).splitBy (fun a b => isBlank a == isBlank b) =
      g :: x.splitBy (fun a b => isBlank a == isBlank b) := by
  rw [splitBy_append, splitBy_of_isChain hg (isChain_sameKind hk), singleton_append]
  intro a ha b hb
  simp [hk a (mem_of_mem_getLast? ha), hx b hb]

/-- Blanks have no words. -/
lemma words_of_blank {b : List Char} (hb : ∀ c ∈ b, isBlank c) : words (String.ofList b) = [] := by
  rcases eq_or_ne b [] with rfl | hne
  · rfl
  obtain ⟨c, t, rfl⟩ := exists_cons_of_ne_nil hne
  simp only [words, String.toList_ofList]
  rw [splitBy_of_isChain hne (isChain_sameKind (k := true) (by simpa using hb))]
  simp [hb c mem_cons_self]

/-- Blanks before a word do not count. -/
lemma words_blank_append {b x : List Char} (hb : ∀ c ∈ b, isBlank c)
    (hx : ∀ c ∈ x.head?, isBlank c = false) :
    words (String.ofList (b ++ x)) = words (String.ofList x) := by
  rcases eq_or_ne b [] with rfl | hne
  · rfl
  obtain ⟨c, t, rfl⟩ := exists_cons_of_ne_nil hne
  simp only [words, String.toList_ofList]
  rw [splitBy_run_append hne (k := true) (by simpa using hb) (by simpa using hx)]
  simp [hb c mem_cons_self]

/-- A run of non-blanks that ends the text or meets a blank is a word. -/
lemma words_word_append {w x : List Char} (hw : w ≠ []) (hw' : ∀ c ∈ w, isBlank c = false)
    (hx : ∀ c ∈ x.head?, isBlank c) :
    words (String.ofList (w ++ x)) = String.ofList w :: words (String.ofList x) := by
  obtain ⟨c, t, rfl⟩ := exists_cons_of_ne_nil hw
  simp only [words, String.toList_ofList]
  rw [splitBy_run_append hw (k := false) hw' (by simpa using hx)]
  simp [hw' c mem_cons_self]

/-- Every text is blanks, then a run of non-blanks, then a rest that is empty or begins with a
blank; the run is empty only when the rest is. -/
lemma exists_lead_run_rest (cs : List Char) :
    ∃ lead w x, cs = lead ++ w ++ x ∧ (∀ c ∈ lead, isBlank c) ∧ (∀ c ∈ w, isBlank c = false) ∧
      (∀ c ∈ x.head?, isBlank c) ∧ (w = [] → x = []) := by
  set d := cs.dropWhile isBlank with hd
  refine ⟨cs.takeWhile isBlank, d.takeWhile (!isBlank ·), d.dropWhile (!isBlank ·), by simp [hd],
    fun c hc => all_eq_true.1 all_takeWhile c hc,
    fun c hc => by simpa using all_eq_true.1 all_takeWhile c hc, fun c hc => ?_, fun hnil => ?_⟩
  · have := head?_dropWhile_not (!isBlank ·) d
    rw [hc] at this
    simpa using this
  · -- `d` begins with a non-blank, which would start the run
    cases hdc : d with
    | nil => rfl
    | cons c t =>
      have hc : isBlank c = false := by
        have := head?_dropWhile_not isBlank cs
        rwa [← hd, hdc] at this
      simp [hdc, hc] at hnil

/-- The words of blanks, a run of non-blanks and a rest that begins with a blank. -/
lemma words_lead_run_rest {lead w x : List Char} (hlead : ∀ c ∈ lead, isBlank c)
    (hw : ∀ c ∈ w, isBlank c = false) (hx : ∀ c ∈ x.head?, isBlank c) (hwx : w = [] → x = []) :
    words (String.ofList (lead ++ w ++ x)) =
      if w = [] then [] else String.ofList w :: words (String.ofList x) := by
  split_ifs with hne
  · rw [hne, hwx hne, append_nil, append_nil, words_of_blank hlead]
  · obtain ⟨c, t, hct⟩ := exists_cons_of_ne_nil hne
    rw [append_assoc, words_blank_append hlead (by simpa [hct] using hw c (by simp [hct])),
      words_word_append hne hw hx]

/-- **One word at a time.** A text's words begin with `f` exactly when the text is blanks, then
`f`, nonempty and without blanks, then a rest that is empty or begins with a blank and holds the
other words. -/
lemma words_eq_cons_iff {cs : List Char} {f : String} {more : List String} :
    words (String.ofList cs) = f :: more ↔
      ∃ lead x, cs = lead ++ f.toList ++ x ∧ (∀ c ∈ lead, isBlank c) ∧ f.toList ≠ [] ∧
        (∀ c ∈ f.toList, isBlank c = false) ∧ (∀ c ∈ x.head?, isBlank c) ∧
        words (String.ofList x) = more := by
  constructor
  · intro h
    obtain ⟨lead, w, x, rfl, hlead, hw, hx, hwx⟩ := exists_lead_run_rest cs
    rw [words_lead_run_rest hlead hw hx hwx] at h
    split_ifs at h with hne
    obtain ⟨rfl, rfl⟩ := List.cons.inj h
    exact ⟨lead, x, by simp, hlead, by simpa using hne, by simpa using hw, hx, rfl⟩
  · rintro ⟨lead, x, rfl, hlead, hne, hf, hx, rfl⟩
    rw [words_lead_run_rest hlead hf hx (absurd · hne), if_neg hne, String.ofList_toList]

/-- Blanks at the end of a text do not change its words. -/
lemma words_append_blank {cs b : List Char} (hb : ∀ c ∈ b, isBlank c) :
    words (String.ofList (cs ++ b)) = words (String.ofList cs) := by
  induction hn : cs.length using Nat.strong_induction_on generalizing cs with
  | _ n ih =>
    obtain ⟨lead, w, x, rfl, hlead, hw, hx, hwx⟩ := exists_lead_run_rest cs
    rw [words_lead_run_rest hlead hw hx hwx]
    split_ifs with hne
    · rw [hne, hwx hne, append_nil, append_nil, words_of_blank fun c hc => ?_]
      rcases mem_append.1 hc with hc | hc
      exacts [hlead c hc, hb c hc]
    · -- the blanks join the rest, which is shorter than the text
      have hxb : ∀ c ∈ (x ++ b).head?, isBlank c := by
        cases x with
        | nil => simpa using fun c hc => hb c (mem_of_mem_head? hc)
        | cons y ys => simpa using hx y (by simp)
      have hlt : x.length < n := by
        obtain ⟨c, t, hct⟩ := exists_cons_of_ne_nil hne
        simp [← hn, hct]
        omega
      rw [append_assoc, words_lead_run_rest hlead hw hxb (absurd · hne), if_neg hne,
        ih x.length hlt rfl]

/-! ### Unsigned numbers -/

/-- The value of a digit character. -/
def digitValue (c : Char) : Nat := c.toNat - 48

/-- `t` writes the unsigned number `n` of `bits` bits: an optional `+`, then one or more ASCII
digits, most significant first, whose value `n` is below `2 ^ bits`. -/
def ReadsUnsigned (bits : Nat) (t : List Char) (n : Nat) : Prop :=
  ∃ sign ds, t = sign ++ ds ∧ (sign = [] ∨ sign = ['+']) ∧ ds ≠ [] ∧ (∀ c ∈ ds, c.isDigit) ∧
    Nat.ofDigits 10 (ds.reverse.map digitValue) = n ∧ n < Nat.pow 2 bits

/-- Reading digits one by one gives their value, and fails at a character that is no digit. -/
lemma foldl_digits (cs : List Char) :
    cs.foldl (fun acc c => acc.bind fun n => if c.isDigit then some (n * 10 + (c.toNat - 48)) else none)
        (some 0) =
      if cs.all Char.isDigit then some (Nat.ofDigits 10 (cs.reverse.map digitValue)) else none := by
  induction cs using List.reverseRecOn with
  | nil => simp
  | append_singleton cs c ih =>
    rw [foldl_append, ih, all_append, all_cons, all_nil, Bool.and_true]
    -- a stray character before the last one, or the last one, spoils the whole reading
    cases hcs : cs.all Char.isDigit <;> cases hc : c.isDigit
    · rfl
    · rfl
    · simp [hc]
    · simp only [if_true, Bool.and_self, foldl_cons, foldl_nil, Option.bind_some, hc,
        reverse_append, reverse_singleton, singleton_append, map_cons, Nat.ofDigits_cons, digitValue]
      congr 1
      omega

lemma digitsValue?_eq_some_iff {cs : List Char} {m : Nat} :
    digitsValue? cs = some m ↔
      cs ≠ [] ∧ (∀ c ∈ cs, c.isDigit) ∧ Nat.ofDigits 10 (cs.reverse.map digitValue) = m := by
  unfold digitsValue?
  rw [foldl_digits]
  cases cs with
  | nil => simp
  | cons c cs =>
    simp only [isEmpty_cons, Bool.false_eq_true, if_false, ne_eq, reduceCtorEq, not_false_eq_true,
      true_and, ← all_eq_true]
    split_ifs with hall <;> simp [hall]

/-- An unsigned number of `bits` bits is read exactly when the text writes it. -/
lemma readUnsigned?_eq_some_iff {bits n : Nat} {t : List Char} :
    readUnsigned? bits (String.ofList t) = some n ↔ ReadsUnsigned bits t n := by
  have hvalue : ∀ ds : List Char, ((digitsValue? ds).bind fun m =>
      if m < Nat.pow 2 bits then some m else none) = some n ↔
        ds ≠ [] ∧ (∀ c ∈ ds, c.isDigit) ∧ Nat.ofDigits 10 (ds.reverse.map digitValue) = n ∧
          n < Nat.pow 2 bits := fun ds => by
    simp only [Option.bind_eq_some_iff, digitsValue?_eq_some_iff, Option.ite_none_right_eq_some,
      Option.some.injEq]
    constructor
    · rintro ⟨m, ⟨hne, hd, rfl⟩, hlt, rfl⟩
      exact ⟨hne, hd, rfl, hlt⟩
    · rintro ⟨hne, hd, rfl, hlt⟩
      exact ⟨_, ⟨hne, hd, rfl⟩, hlt, rfl⟩
  simp only [readUnsigned?, String.toList_ofList]
  split
  · -- a `+` first: the digits follow it
    rename_i rest
    rw [hvalue]
    constructor
    · rintro ⟨hne, hd, hval, hlt⟩
      exact ⟨['+'], rest, rfl, .inr rfl, hne, hd, hval, hlt⟩
    · rintro ⟨sign, ds, heq, rfl | rfl, hne, hd, hval, hlt⟩
      · -- no sign: then the `+` would be a digit
        rw [nil_append] at heq
        exact absurd (hd '+' (by simp [← heq])) (by decide)
      · obtain rfl : rest = ds := by simpa using heq
        exact ⟨hne, hd, hval, hlt⟩
  · rename_i hplus
    rw [hvalue]
    constructor
    · rintro ⟨hne, hd, hval, hlt⟩
      exact ⟨[], t, rfl, .inl rfl, hne, hd, hval, hlt⟩
    · rintro ⟨sign, ds, rfl, rfl | rfl, hne, hd, hval, hlt⟩
      · exact ⟨hne, hd, hval, hlt⟩
      · exact absurd (hplus ds rfl) (by simp)

/-- The digits a number is written with have its value. -/
lemma ofDigits_toDigits (n : Nat) : Nat.ofDigits 10 ((Nat.toDigits 10 n).reverse.map digitValue) = n := by
  induction n using Nat.strong_induction_on with
  | _ n ih =>
    have hdigit : ∀ d < 10, digitValue (Nat.digitChar d) = d := by decide
    rw [Nat.toDigits_eq_if (by decide)]
    split_ifs with hn
    · simp [hdigit n hn]
    · -- the last digit is the remainder, the others write the quotient
      rw [reverse_append, reverse_singleton, singleton_append, map_cons, Nat.ofDigits_cons,
        hdigit _ (Nat.mod_lt n (by decide)), ih (n / 10) (by omega)]
      omega

/-- A number below `2 ^ bits` written in decimal is read back. -/
lemma readsUnsigned_toDigits {bits n : Nat} (hn : n < Nat.pow 2 bits) :
    ReadsUnsigned bits (Nat.toDigits 10 n) n :=
  ⟨[], _, rfl, .inl rfl, Nat.toDigits_ne_nil, fun _ => Nat.isDigit_of_mem_toDigits (by decide) (by decide),
    ofDigits_toDigits n, hn⟩

end Text

/-! ### The status line -/

namespace Upload

open Text List

/-- The first line of a text: what stands before its first `LF`, without a `CR` at its end. -/
def headLine (cs : List Char) : List Char := dropCR (cs.takeWhile (· != '\n'))

/-- The first word of `line` begins with `HTTP/` and its second word is `t`: blanks, then `HTTP/`
and more non-blanks, then blanks, then `t`, which ends the line or meets a blank. -/
def StatusWords (line t : List Char) : Prop :=
  ∃ lead v gap rest, line = lead ++ "HTTP/".toList ++ v ++ gap ++ t ++ rest ∧
    (∀ c ∈ lead, isBlank c) ∧ (∀ c ∈ v, isBlank c = false) ∧ gap ≠ [] ∧ (∀ c ∈ gap, isBlank c) ∧
    t ≠ [] ∧ (∀ c ∈ t, isBlank c = false) ∧ (∀ c ∈ rest.head?, isBlank c)

lemma toList_http : "HTTP/".toList = ['H', 'T', 'T', 'P', '/'] := rfl

lemma http_not_blank : ∀ c ∈ "HTTP/".toList, isBlank c = false := by
  rw [toList_http]
  simp [isBlank]

/-- A line's status words are its first two words, the first beginning with `HTTP/`. -/
lemma statusWords_iff {line t : List Char} :
    StatusWords line t ↔ ∃ f more, words (String.ofList line) = f :: String.ofList t :: more ∧
      f.startsWith "HTTP/" = true := by
  constructor
  · rintro ⟨lead, v, gap, rest, rfl, hlead, hv, hgap, hgap', ht, ht', hrest⟩
    have hsecond : words (String.ofList (gap ++ t ++ rest)) =
        String.ofList t :: words (String.ofList rest) :=
      words_eq_cons_iff.2 ⟨gap, rest, by simp, hgap', by simpa using ht, by simpa using ht', hrest, rfl⟩
    refine ⟨String.ofList ("HTTP/".toList ++ v), _, words_eq_cons_iff.2 ⟨lead, gap ++ t ++ rest,
      by simp [append_assoc], hlead, by simp, fun c hc => ?_, fun c hc => ?_, hsecond⟩, ?_⟩
    · rw [String.toList_ofList, mem_append] at hc
      exact hc.elim (http_not_blank c) (hv c)
    · obtain ⟨g, gs, hg⟩ := exists_cons_of_ne_nil hgap
      exact hgap' c (by simp_all)
    · simp
  · rintro ⟨f, more, hw, hf⟩
    obtain ⟨lead, x, rfl, hlead, hfne, hf', hx, hwx⟩ := words_eq_cons_iff.1 hw
    obtain ⟨gap, rest, rfl, hgap, htne, ht', hrest, -⟩ := words_eq_cons_iff.1 hwx
    obtain ⟨v, hv⟩ := String.startsWith_string_iff.1 hf
    rw [String.toList_ofList] at htne ht'
    -- the second word cannot follow the first without a blank between them
    have hgapne : gap ≠ [] := by
      rintro rfl
      obtain ⟨c, cs, hct⟩ := exists_cons_of_ne_nil htne
      have := hx c (by simp [hct])
      simp [ht' c (by simp [hct])] at this
    refine ⟨lead, v, gap, rest, by simp [← hv, append_assoc], hlead,
      fun c hc => hf' c (hv ▸ mem_append_right _ hc), hgapne, hgap, htne, ht', hrest⟩

/-- The first line of a text has the words of the text's head line. -/
lemma words_firstLine {s L : String} (h : firstLine s = some L) :
    words L = words (String.ofList (headLine s.toList)) := by
  unfold firstLine at h
  split_ifs at h with hempty hlf
  · cases h
    rfl
  · -- no line ending: the line is the whole text, less nothing but a final `CR`
    cases h
    have htake : s.toList.takeWhile (· != '\n') = s.toList :=
      takeWhile_eq_self_iff.2 fun c hc => by simpa using ne_of_mem_of_not_mem hc hlf
    rw [headLine, htake, dropCR]
    split_ifs with hcr
    · obtain ⟨l, hl⟩ := getLast?_eq_some_iff.1 hcr
      rw [hl, dropLast_concat, ← words_append_blank (b := ['\r']) (by simp [isBlank]), ← hl,
        String.ofList_toList]
    · rw [String.ofList_toList]

/-! ### The body -/

/-- What follows the first occurrence of a nonempty `sep` is preceded by text in which `sep`
does not begin. -/
lemma afterFirst_eq_some {sep l rest : List Char} (hsep : sep ≠ []) (h : afterFirst sep l = some rest) :
    ∃ head, l = head ++ sep ++ rest ∧ ¬ sep <:+: head ++ sep.dropLast := by
  induction l with
  | nil => simp [afterFirst, isPrefixOf_iff_prefix, hsep] at h
  | cons c cs ih =>
    simp only [afterFirst, isPrefixOf_iff_prefix] at h
    split_ifs at h with hpre
    · -- it begins right here
      cases h
      refine ⟨[], by simpa using (prefix_iff_eq_append.1 hpre).symm, fun hinf => ?_⟩
      have := hinf.length_le
      have : 0 < sep.length := length_pos_iff.2 hsep
      simp at *
      omega
    · obtain ⟨head, rfl, hfirst⟩ := ih h
      refine ⟨c :: head, by simp, fun hinf => ?_⟩
      rcases infix_cons_iff.1 (by simpa using hinf) with hp | hi
      · have hdrop : sep.dropLast <+: sep := dropLast_prefix sep
        exact hpre (hp.trans (by simpa using hdrop.trans (prefix_append sep rest)))
      · exact hfirst hi

lemma afterFirst_eq_none {sep l : List Char} (hsep : sep ≠ []) (h : afterFirst sep l = none) :
    ¬ sep <:+: l := by
  induction l with
  | nil => simpa using hsep
  | cons c cs ih =>
    simp only [afterFirst, isPrefixOf_iff_prefix] at h
    split_ifs at h with hpre
    exact fun hinf => (infix_cons_iff.1 hinf).elim hpre (ih h)

/-- `body` is what follows the first blank line of `raw`, `CR LF CR LF`, or all of `raw` when it
has none. -/
def BodyOf (raw body : List Char) : Prop :=
  (∃ head, raw = head ++ ['\r', '\n', '\r', '\n'] ++ body ∧
      ¬ ['\r', '\n', '\r', '\n'] <:+: head ++ ['\r', '\n', '\r']) ∨
    (¬ ['\r', '\n', '\r', '\n'] <:+: raw ∧ body = raw)

/-! ### A status line as servers write it -/

lemma not_blank_of_isDigit {c : Char} (h : c.isDigit = true) : isBlank c = false := by
  simp only [Char.isDigit, Bool.and_eq_true, decide_eq_true_eq] at h
  have h₁ : 48 ≤ c.toNat := h.1
  have h₂ : c.toNat ≤ 57 := h.2
  simp only [isBlank, Bool.or_eq_false_iff, Bool.and_eq_false_iff, beq_eq_false_iff_ne,
    decide_eq_false_iff_not]
  omega

lemma dropCR_append {x y : List Char} (hy : y ≠ []) : dropCR (x ++ y) = x ++ dropCR y := by
  obtain ⟨z, c, rfl⟩ := eq_nil_or_concat y |>.resolve_left hy
  unfold dropCR
  by_cases hc : c = '\r' <;> simp [hc, ← append_assoc]

/-- Dropping a final `CR` leaves the first character, if anything is left. -/
lemma mem_head?_of_dropCR {y : List Char} {c : Char} (h : c ∈ (dropCR y).head?) : c ∈ y.head? := by
  unfold dropCR at h
  split_ifs at h
  · rw [head?_dropLast] at h
    split_ifs at h
    · exact h
    · cases h
  · exact h

/-- An empty text has no first line. -/
lemma firstLine_eq_none {s : String} (h : firstLine s = none) : s = "" := by
  unfold firstLine at h
  split_ifs at h with hempty
  exact String.isEmpty_iff.1 hempty

namespace Response

/-- **The status is read off the first line.** It is `n` exactly when the first word of the first
line begins with `HTTP/` and its second word writes `n` as an unsigned number of 16 bits. -/
lemma status?_eq_some_iff {r : Response} {n : Nat} :
    r.status? = some n ↔ ∃ t, StatusWords (headLine r.raw.toList) t ∧ ReadsUnsigned 16 t n := by
  cases hL : firstLine r.raw with
  | none =>
    -- an empty text has no words at all
    simp only [status?, hL, Option.bind_eq_bind, Option.bind_none, reduceCtorEq, false_iff]
    rintro ⟨t, ⟨lead, v, gap, rest, hline, -⟩, -⟩
    rw [firstLine_eq_none hL] at hline
    simp [headLine, dropCR, toList_http] at hline
  | some L =>
    simp only [status?, hL, Option.bind_eq_bind, Option.bind_some, words_firstLine hL,
      statusWords_iff]
    generalize words (String.ofList (headLine r.raw.toList)) = ws
    rcases ws with _ | ⟨f, _ | ⟨g, more⟩⟩
    · simp
    · simp
    · dsimp only
      constructor
      · intro h
        split_ifs at h with hf
        refine ⟨g.toList, ⟨f, more, by simp, hf⟩, ?_⟩
        rwa [← readUnsigned?_eq_some_iff, String.ofList_toList]
      · rintro ⟨t, ⟨f', more', heq, hf⟩, ht⟩
        obtain ⟨rfl, rfl, rfl⟩ : f = f' ∧ g = String.ofList t ∧ more = more' := by simpa using heq
        rw [if_pos hf]
        exact readUnsigned?_eq_some_iff.2 ht

/-- A character that is not blank is no line feed. -/
lemma ne_lf_of_not_blank {c : Char} (h : isBlank c = false) : (c != '\n') = true :=
  bne_iff_ne.2 fun hc => by rw [hc] at h; exact absurd h (by decide)

lemma toDigits_not_blank (n : Nat) : ∀ c ∈ Nat.toDigits 10 n, isBlank c = false := fun _ hc =>
  not_blank_of_isDigit (Nat.isDigit_of_mem_toDigits (by decide) (by decide) hc)

/-- The first line of a status line as servers write it: `HTTP/`, the version, a space and the
code, then the rest of the line, which is empty or begins with a blank. -/
lemma headLine_written (n : UInt16) (v : String) (reason : Option String) (rest : String)
    (hv : ∀ c ∈ v.toList, isBlank c = false) :
    ∃ y, headLine ("HTTP/" ++ v ++ " " ++ toString n ++ (reason.map (" " ++ ·)).getD "" ++ "\r\n" ++
        rest).toList = "HTTP/".toList ++ v.toList ++ [' '] ++ Nat.toDigits 10 n.toNat ++ y ∧
      ∀ c ∈ y.head?, isBlank c := by
  set R := ((reason.map (" " ++ ·)).getD "").toList with hR
  set y := (R ++ ['\r', '\n'] ++ rest.toList).takeWhile (· != '\n') with hy
  -- the line runs to the `LF`; after the code it holds at least the `CR`, or a space first
  have hyne : y ≠ [] ∧ ∀ c ∈ y.head?, isBlank c := by
    have hcr : isBlank '\r' = true := by decide
    have hsp : isBlank ' ' = true := by decide
    cases reason <;> simp [hy, hR, hcr, hsp]
  have hcode : ∀ c ∈ "HTTP/".toList ++ v.toList ++ [' '] ++ Nat.toDigits 10 n.toNat,
      (c != '\n') = true := by
    intro c hc
    simp only [mem_append, mem_singleton] at hc
    rcases hc with ((hc | hc) | rfl) | hc
    · exact ne_lf_of_not_blank (http_not_blank c hc)
    · exact ne_lf_of_not_blank (hv c hc)
    · decide
    · exact ne_lf_of_not_blank (toDigits_not_blank _ c hc)
  have hraw : ("HTTP/" ++ v ++ " " ++ toString n ++ (reason.map (" " ++ ·)).getD "" ++ "\r\n" ++
      rest).toList = ("HTTP/".toList ++ v.toList ++ [' '] ++ Nat.toDigits 10 n.toNat) ++
        (R ++ ['\r', '\n'] ++ rest.toList) := by
    have hsp : " ".toList = [' '] := rfl
    have hcrlf : "\r\n".toList = ['\r', '\n'] := rfl
    have hcode : (toString n).toList = Nat.toDigits 10 n.toNat := by simp [toString]
    simp only [String.toList_append, hR, append_assoc, hsp, hcrlf, hcode]
  refine ⟨dropCR y, ?_, fun c hc => hyne.2 c (mem_head?_of_dropCR hc)⟩
  rw [headLine, hraw, takeWhile_append_of_pos hcode, dropCR_append hyne.1]

/-- **A status line as servers write it is read.** `HTTP/`, a version without blanks, a space, a
16-bit code in decimal, then a space and a reason or nothing, then `CR LF` and anything. -/
lemma status?_written (n : UInt16) (v : String) (reason : Option String) (rest : String)
    (hv : ∀ c ∈ v.toList, isBlank c = false) :
    (Response.mk ("HTTP/" ++ v ++ " " ++ toString n ++ (reason.map (" " ++ ·)).getD "" ++ "\r\n" ++
      rest)).status? = some n.toNat := by
  obtain ⟨y, hline, hy⟩ := headLine_written n v reason rest hv
  refine status?_eq_some_iff.2 ⟨Nat.toDigits 10 n.toNat, ?_, readsUnsigned_toDigits (by simpa using n.toNat_lt)⟩
  exact ⟨[], v.toList, [' '], y, by rw [hline]; simp, by simp, hv, by simp, by simp [isBlank],
    Nat.toDigits_ne_nil, toDigits_not_blank _, hy⟩

lemma isSuccess_iff {r : Response} : r.isSuccess = true ↔ ∃ n, r.status? = some n ∧ 200 ≤ n ∧ n ≤ 299 := by
  unfold isSuccess
  cases r.status? <;> simp

lemma body_of (r : Response) : BodyOf r.raw.toList r.body.toList := by
  unfold body
  cases h : afterFirst ['\r', '\n', '\r', '\n'] r.raw.toList with
  | some rest =>
    obtain ⟨head, hraw, hfirst⟩ := afterFirst_eq_some (by simp) h
    exact .inl ⟨head, by simpa using hraw, by simpa using hfirst⟩
  | none => exact .inr ⟨afterFirst_eq_none (by simp) h, rfl⟩

end Response

/-- **How an answer is read.** For every response text: its status is `n` exactly when the first
word of its first line begins with `HTTP/` and the second writes `n` as an unsigned number of 16
bits, and there is none otherwise; it is a success exactly when the status is from 200 to 299;
its body is what follows the first blank line, or the whole text. In particular a status line
as servers write it, with any version, code, reason and rest, is read with its code. -/
theorem response_status_and_body :
    (∀ (r : Response) (n : Nat),
      r.status? = some n ↔ ∃ t, StatusWords (headLine r.raw.toList) t ∧ ReadsUnsigned 16 t n) ∧
    (∀ r : Response,
      r.status? = none ↔ ¬ ∃ n t, StatusWords (headLine r.raw.toList) t ∧ ReadsUnsigned 16 t n) ∧
    (∀ r : Response, r.isSuccess = true ↔ ∃ n, r.status? = some n ∧ 200 ≤ n ∧ n ≤ 299) ∧
    (∀ r : Response, BodyOf r.raw.toList r.body.toList) ∧
    (∀ (n : UInt16) (v : String) (reason : Option String) (rest : String),
      (∀ c ∈ v.toList, isBlank c = false) →
      (Response.mk ("HTTP/" ++ v ++ " " ++ toString n ++ (reason.map (" " ++ ·)).getD "" ++ "\r\n" ++
        rest)).status? = some n.toNat) := by
  refine ⟨fun r n => Response.status?_eq_some_iff, fun r => ?_, fun r => Response.isSuccess_iff,
    Response.body_of, Response.status?_written⟩
  rw [Option.eq_none_iff_forall_ne_some]
  simp only [ne_eq, Response.status?_eq_some_iff, not_exists]

/-- A reply whose status line names version `1.1` and the reason `OK` is read as status 200. -/
theorem ok_reply_status :
    (∀ c ∈ "1.1".toList, isBlank c = false) ∧
      (Response.mk ("HTTP/" ++ "1.1" ++ " " ++ toString (200 : UInt16) ++ ((some "OK").map (" " ++ ·)).getD "" ++
        "\r\n" ++ "Content-Length: 0\r\n\r\n")).status? = some 200 := by
  have hv : ∀ c ∈ "1.1".toList, isBlank c = false := by
    rw [show "1.1".toList = ['1', '.', '1'] from rfl]
    simp [isBlank]
  exact ⟨hv, response_status_and_body.2.2.2.2 200 "1.1" (some "OK") "Content-Length: 0\r\n\r\n" hv⟩

end Upload

end Talkback
