import Mathlib.Tactic.SplitIfs
import Talkback.Json.Parse

/-!
Written JSON reads back.

`Writes v cs` says that the characters `cs` are JSON text for the value `v`, with blanks allowed
between tokens: literals, integers (a natural below `2 ^ 64` or a negative number down to
`-2 ^ 63`, written in decimal without leading zeros), strings escaped as the writer escapes
them, and arrays and objects of such texts. Every text of this grammar is read back by the
reader, whatever follows it that cannot carry on a number, as long as it nests fewer than 128
levels (`reads_written`, by induction on the reader's fuel: one step lemma per reader
function). Both the compact and the pretty printer write within the grammar (`writes_compact`,
`writes_pretty`), so a document of strings and integers reads back from either text
(`parse_compact`, `parse_pretty`).
-/

namespace Talkback.Json

/-- Blank characters only. -/
def Blanks (cs : List Char) : Prop := ∀ c ∈ cs, isSpace c = true

theorem skipSpace_blanks {ws : List Char} (h : Blanks ws) (cs : List Char) :
    skipSpace (ws ++ cs) = skipSpace cs := by
  induction ws with
  | nil => rfl
  | cons w ws ih =>
    have hw : isSpace w = true := h w List.mem_cons_self
    simp only [skipSpace, List.cons_append, List.dropWhile_cons, hw, if_true] at ih ⊢
    exact ih fun c hc => h c (List.mem_cons_of_mem _ hc)

theorem skipSpace_cons {c : Char} (h : isSpace c = false) (cs : List Char) :
    skipSpace (c :: cs) = c :: cs := by
  simp [skipSpace, h]

/-! ### Strings -/

theorem hexValue_hexDigit : ∀ k < 16,
    hexValue? (if k < 10 then Char.ofNat (48 + k) else Char.ofNat (87 + k)) = some k := by
  decide

/-- The reader takes each written character back. -/
theorem readString_escapeChar (fuel : Nat) (acc : List Char) (paired : Bool) (c : Char)
    (rest : List Char) :
    readString (fuel + 1) acc paired ((escapeChar c).toList ++ rest) =
      readString fuel (c :: acc) paired rest := by
  unfold escapeChar
  split_ifs with h1 h2 h3 h4 h5 h6 h7 h8
  · subst h1; simp [readString]
  · subst h2; simp [readString]
  · have : c = Char.ofNat 8 := by rw [← Char.ofNat_toNat c, h3]
    subst this; simp [readString]
  · have : c = Char.ofNat 12 := by rw [← Char.ofNat_toNat c, h4]
    subst this; simp [readString]
  · subst h5; simp [readString]
  · subst h6; simp [readString]
  · subst h7; simp [readString]
  · have hd1 := hexValue_hexDigit (c.toNat / 16 % 16) (Nat.mod_lt _ (by decide))
    have hd2 := hexValue_hexDigit (c.toNat % 16) (Nat.mod_lt _ (by decide))
    have hu : c.toNat / 16 % 16 * 16 + c.toNat % 16 = c.toNat := by omega
    have h0 : hexValue? '0' = some 0 := by decide
    have hlow : ¬ (55296 ≤ c.toNat ∧ c.toNat < 56320) := by omega
    have hhigh : ¬ (56320 ≤ c.toNat ∧ c.toNat < 57344) := by omega
    simp only [hex2, String.toList_append, String.toList_ofList]
    simp [readString, hex4?, hd1, hd2, h0, hu, hlow, hhigh]
  · simp [readString, h2, h8]

/-- A string body written character by character and closed by a quote reads back, with as
much fuel as it has characters and one more. -/
theorem readString_escaped (s : List Char) {fuel : Nat} (hfuel : s.length < fuel) (acc : List Char)
    (paired : Bool) (rest : List Char) :
    readString fuel acc paired ((s.flatMap fun c => (escapeChar c).toList) ++ '"' :: rest) =
      some (acc.reverse ++ s, paired, rest) := by
  induction s generalizing fuel acc with
  | nil =>
    obtain ⟨fuel, rfl⟩ : ∃ f, fuel = f + 1 := ⟨fuel - 1, by simp at hfuel; omega⟩
    simp [readString]
  | cons c s ih =>
    obtain ⟨fuel, rfl⟩ : ∃ f, fuel = f + 1 := ⟨fuel - 1, by simp at hfuel; omega⟩
    rw [List.flatMap_cons, List.append_assoc, readString_escapeChar,
      ih (by simp at hfuel; omega)]
    simp

theorem length_escapeChar (c : Char) : 1 ≤ (escapeChar c).toList.length := by
  unfold escapeChar
  split_ifs <;> simp [hex2]

theorem length_le_escaped (s : List Char) :
    s.length ≤ (s.flatMap fun c => (escapeChar c).toList).length := by
  induction s with
  | nil => simp
  | cons c s ih =>
    have := length_escapeChar c
    simp only [List.flatMap_cons, List.length_append, List.length_cons]
    omega

theorem toList_quote (s : String) :
    (quote s).toList = '"' :: (s.toList.flatMap fun c => (escapeChar c).toList) ++ ['"'] := by
  simp [quote, String.toList_join, List.flatMap_map]

/-! ### Numbers -/

/-- What may follow a number: nothing that would carry on its digits, fraction or exponent. -/
def NumberEnd (rest : List Char) : Prop :=
  ∀ c ∈ rest.head?, c.isDigit = false ∧ c ≠ '.' ∧ c ≠ 'e' ∧ c ≠ 'E'

theorem digitChar_facts : ∀ d < 10, (Nat.digitChar d).isDigit = true ∧ (Nat.digitChar d).toNat - 48 = d := by
  decide

theorem digits_append {ds rest : List Char} (hds : ∀ c ∈ ds, c.isDigit = true)
    (hrest : NumberEnd rest) : digits (ds ++ rest) = (ds, rest) := by
  have hstop : ∀ c ∈ rest.head?, c.isDigit = false := fun c hc => (hrest c hc).1
  simp only [digits, List.takeWhile_append_of_pos hds, List.dropWhile_append_of_pos hds]
  cases rest with
  | nil => simp
  | cons c r =>
    have hc : c.isDigit = false := hstop c rfl
    simp [hc]

theorem digitsValue_toDigits (n : Nat) : digitsValue (Nat.toDigits 10 n) = n := by
  induction n using Nat.strongRecOn with
  | ind n ih =>
    rw [Nat.toDigits_eq_if (by omega)]
    split
    · next hn => simp [digitsValue, (digitChar_facts n hn).2]
    · next hn =>
      have hd := (digitChar_facts (n % 10) (Nat.mod_lt n (by omega))).2
      rw [digitsValue, List.foldl_append, ← digitsValue, ih (n / 10) (by omega)]
      simp only [List.foldl_cons, List.foldl_nil, hd]
      omega

theorem isDigit_of_mem_toDigits (n : Nat) : ∀ c ∈ Nat.toDigits 10 n, c.isDigit = true :=
  fun _ hc => Nat.isDigit_of_mem_toDigits (by omega) (by omega) hc

/-- A positive number is written without a leading zero. -/
theorem head_toDigits {m : Nat} (hm : 0 < m) : (Nat.toDigits 10 m).head? ≠ some '0' := by
  induction m using Nat.strongRecOn with
  | ind m ih =>
    rw [Nat.toDigits_eq_if (by omega)]
    split
    · simp only [List.head?_cons, ne_eq, Option.some.injEq, Nat.digitChar_eq_zero]
      omega
    · obtain ⟨c, cs, hcs⟩ := List.exists_cons_of_ne_nil (Nat.toDigits_ne_nil (n := m / 10) (b := 10))
      have := ih (m / 10) (by omega) (by omega)
      rw [hcs] at this ⊢
      simpa using this

theorem toDigits_no_leading_zero (n : Nat) (c : Char) (cs : List Char) :
    Nat.toDigits 10 n ≠ '0' :: c :: cs := by
  intro h
  rcases Nat.eq_zero_or_pos n with rfl | hn
  · simp [Nat.toDigits_zero] at h
  · have := head_toDigits hn
    rw [h] at this
    exact this rfl

/-- The number a sign and digits stand for: negative or not. -/
def integer (negative : Bool) (n : Nat) : Number := if negative then .neg n else .nat n

/-- Whether an integer is one the reader keeps as an integer: a natural below `2 ^ 64`, or a
negative number down to `-2 ^ 63`. -/
def Fits (negative : Bool) (n : Nat) : Prop :=
  if negative then 0 < n ∧ n ≤ Nat.pow 2 63 else n < Nat.pow 2 64

theorem readNumber_integer {negative : Bool} {n : Nat} (hfit : Fits negative n) {rest : List Char}
    (hrest : NumberEnd rest) :
    readNumber ((if negative then ['-'] else []) ++ Nat.toDigits 10 n ++ rest) =
      some (integer negative n, rest) := by
  obtain ⟨c, cs, hcs⟩ := List.exists_cons_of_ne_nil (Nat.toDigits_ne_nil (n := n) (b := 10))
  have hc : c ≠ '-' := by
    intro h
    have := isDigit_of_mem_toDigits n c (by rw [hcs]; exact List.mem_cons_self)
    rw [h] at this
    cases this
  have hdig := digits_append (isDigit_of_mem_toDigits n) hrest
  unfold readNumber
  split
  rename_i negative' r heq
  -- the sign is read off the first character, which no digit can be
  have hsign : negative = negative' ∧ r = Nat.toDigits 10 n ++ rest := by
    cases negative
    · rw [if_neg Bool.false_ne_true, List.nil_append, hcs] at heq
      split at heq
      · next r' h => simp only [List.cons_append, List.cons.injEq] at h; exact absurd h.1 hc
      · simp only [Prod.mk.injEq] at heq; exact ⟨heq.1, by rw [hcs]; exact heq.2.symm⟩
    · simp only [if_true, List.cons_append, Prod.mk.injEq] at heq
      exact ⟨heq.1, by simpa using heq.2.symm⟩
  obtain ⟨rfl, rfl⟩ := hsign
  rw [hdig]
  simp only
  split
  · next h => exact absurd h Nat.toDigits_ne_nil
  · next a b h => exact absurd h (toDigits_no_leading_zero n a b)
  · -- no fraction and no exponent follow the digits
    rcases rest with _ | ⟨d, r⟩
    · cases negative <;> simp only [Fits, Bool.false_eq_true, if_true, if_false] at hfit <;>
        simp [integer, digitsValue_toDigits, hfit]
    · obtain ⟨-, hd2, hd3, hd4⟩ := hrest d rfl
      split
      · next more h => simp only [List.cons.injEq] at h; exact absurd h.1 hd2
      · have hexp : ¬ (d = 'e' ∨ d = 'E') := by
          rintro (h | h)
          · exact hd3 h
          · exact hd4 h
        cases negative <;> simp only [Fits, Bool.false_eq_true, if_true, if_false] at hfit <;>
          simp [integer, digitsValue_toDigits, hfit, hexp]

/-! ### The grammar -/

namespace Value

/-- How deeply arrays and objects nest in a value. -/
def depth : Value → Nat
  | .arr items => depthItems items + 1
  | .obj members => depthMembers members + 1
  | _ => 0
where
  depthItems : List Value → Nat
    | [] => 0
    | v :: rest => max (depth v) (depthItems rest)
  depthMembers : List (String × Value) → Nat
    | [] => 0
    | (_, v) :: rest => max (depth v) (depthMembers rest)

/-- Whether every number is an integer the reader keeps as one and every string is well
formed. -/
def plain : Value → Bool
  | .num (.nat n) => decide (n < Nat.pow 2 64)
  | .num (.neg n) => decide (0 < n) && decide (n ≤ Nat.pow 2 63)
  | .num (.float ..) => false
  | .strUnpaired => false
  | .arr items => plainItems items
  | .obj members => plainMembers members
  | _ => true
where
  plainItems : List Value → Bool
    | [] => true
    | v :: rest => plain v && plainItems rest
  plainMembers : List (String × Value) → Bool
    | [] => true
    | (_, v) :: rest => plain v && plainMembers rest

end Value

mutual

/-- `cs` is JSON text for the value, with blanks allowed between its tokens. -/
inductive Writes : Value → List Char → Prop
  | null : Writes .null ['n', 'u', 'l', 'l']
  | bool (b : Bool) : Writes (.bool b) (if b then "true" else "false").toList
  | integer {negative : Bool} {n : Nat} (h : Fits negative n) :
      Writes (.num (integer negative n)) ((if negative then ['-'] else []) ++ Nat.toDigits 10 n)
  | str (s : String) : Writes (.str s) (quote s).toList
  | emptyArr : Writes (.arr []) ['[', ']']
  | arr {items : List Value} {cs : List Char} (h : WritesItems items cs) :
      Writes (.arr items) ('[' :: cs)
  | emptyObj : Writes (.obj []) ['{', '}']
  | obj {members : List (String × Value)} {cs : List Char} (h : WritesMembers members cs) :
      Writes (.obj members) ('{' :: cs)

/-- `cs` is the items of an array after its opening bracket, up to and with the closing one. -/
inductive WritesItems : List Value → List Char → Prop
  | last {v : Value} {ws t ws' : List Char} (hws : Blanks ws) (ht : Writes v t)
      (hws' : Blanks ws') : WritesItems [v] (ws ++ t ++ ws' ++ [']'])
  | cons {v : Value} {vs : List Value} {ws t ws' cs : List Char} (hws : Blanks ws)
      (ht : Writes v t) (hws' : Blanks ws') (hcs : WritesItems vs cs) :
      WritesItems (v :: vs) (ws ++ t ++ ws' ++ ',' :: cs)

/-- `cs` is the members of an object after its opening brace, up to and with the closing
one. -/
inductive WritesMembers : List (String × Value) → List Char → Prop
  | last {k : String} {v : Value} {ws ws₁ ws₂ t ws' : List Char} (hws : Blanks ws)
      (hws₁ : Blanks ws₁) (hws₂ : Blanks ws₂) (ht : Writes v t) (hws' : Blanks ws') :
      WritesMembers [(k, v)] (ws ++ (quote k).toList ++ ws₁ ++ ':' :: (ws₂ ++ t ++ ws' ++ ['}']))
  | cons {k : String} {v : Value} {ms : List (String × Value)} {ws ws₁ ws₂ t ws' cs : List Char}
      (hws : Blanks ws) (hws₁ : Blanks ws₁) (hws₂ : Blanks ws₂) (ht : Writes v t)
      (hws' : Blanks ws') (hcs : WritesMembers ms cs) :
      WritesMembers ((k, v) :: ms) (ws ++ (quote k).toList ++ ws₁ ++ ':' :: (ws₂ ++ t ++ ws' ++ ',' :: cs))

end

/-! ### Reading the grammar -/

theorem isSpace_of_isDigit {c : Char} (h : c.isDigit = true) : isSpace c = false := by
  cases hs : isSpace c
  · rfl
  · simp only [isSpace, Bool.or_eq_true, decide_eq_true_eq] at hs
    rcases hs with ((rfl | rfl) | rfl) | rfl <;> cases h

/-- A blank, a separator or a closing bracket ends a number. -/
theorem numberEnd_cons {c : Char} (hc : isSpace c = true ∨ c = ',' ∨ c = ']' ∨ c = '}')
    (more : List Char) : NumberEnd (c :: more) := by
  intro d hd
  simp only [List.head?_cons, Option.mem_def, Option.some.injEq] at hd
  subst hd
  simp only [isSpace, Bool.or_eq_true, decide_eq_true_eq] at hc
  rcases hc with (((rfl | rfl) | rfl) | rfl) | rfl | rfl | rfl <;> decide

theorem numberEnd_blanks {ws : List Char} (hws : Blanks ws) {c : Char}
    (hc : c = ',' ∨ c = ']' ∨ c = '}') (more : List Char) : NumberEnd (ws ++ c :: more) := by
  cases ws with
  | nil => exact numberEnd_cons (Or.inr hc) more
  | cons w ws => exact numberEnd_cons (Or.inl (hws w List.mem_cons_self)) _

theorem numberEnd_of_blanks {ws : List Char} (hws : Blanks ws) : NumberEnd ws := by
  cases ws with
  | nil => intro d hd; cases hd
  | cons w ws => exact numberEnd_cons (Or.inl (hws w List.mem_cons_self)) ws

/-- The text of a value starts with a character that is no blank and closes nothing. -/
theorem Writes.head {v : Value} {t : List Char} (h : Writes v t) :
    ∃ c t', t = c :: t' ∧ isSpace c = false ∧ c ≠ ']' ∧ c ≠ '}' := by
  cases h with
  | null => exact ⟨_, _, rfl, by decide, by decide, by decide⟩
  | bool b => cases b <;> exact ⟨_, _, rfl, by decide, by decide, by decide⟩
  | @integer negative n _ =>
    cases negative
    · obtain ⟨c, cs, hcs⟩ := List.exists_cons_of_ne_nil (Nat.toDigits_ne_nil (n := n) (b := 10))
      have hdig := isDigit_of_mem_toDigits n c (by rw [hcs]; exact List.mem_cons_self)
      refine ⟨c, cs, by simp [hcs], isSpace_of_isDigit hdig, ?_, ?_⟩ <;>
        (rintro rfl; cases hdig)
    · exact ⟨_, _, rfl, by decide, by decide, by decide⟩
  | str s => exact ⟨_, _, toList_quote s, by decide, by decide, by decide⟩
  | emptyArr | arr _ | emptyObj | obj _ => exact ⟨_, _, rfl, by decide, by decide, by decide⟩

/-- The items of an array text do not start, after blanks, with its closing bracket. -/
theorem WritesItems.not_closed {vs : List Value} {cs : List Char} (h : WritesItems vs cs)
    (rest r : List Char) : skipSpace (cs ++ rest) ≠ ']' :: r := by
  have key : ∀ {v : Value} {ws t : List Char} (after : List Char), Blanks ws → Writes v t →
      skipSpace (ws ++ (t ++ after)) ≠ ']' :: r := by
    intro v ws t after hws ht
    obtain ⟨c, t', rfl, hsp, hc, -⟩ := ht.head
    rw [skipSpace_blanks hws, List.cons_append, skipSpace_cons hsp]
    intro heq
    exact hc (List.cons.inj heq).1
  cases h with
  | last hws ht => simpa only [List.append_assoc] using key _ hws ht
  | cons hws ht => simpa only [List.append_assoc] using key _ hws ht

/-- The members of an object text do not start, after blanks, with its closing brace. -/
theorem WritesMembers.not_closed {ms : List (String × Value)} {cs : List Char}
    (h : WritesMembers ms cs) (rest r : List Char) : skipSpace (cs ++ rest) ≠ '}' :: r := by
  have key : ∀ {ws : List Char} (k : String) (after : List Char), Blanks ws →
      skipSpace (ws ++ ((quote k).toList ++ after)) ≠ '}' :: r := by
    intro ws k after hws
    rw [skipSpace_blanks hws, toList_quote]
    simp only [List.cons_append, skipSpace_cons (show isSpace '"' = false by decide)]
    intro heq
    cases (List.cons.inj heq).1
  cases h with
  | last hws => simpa only [List.append_assoc] using key _ _ hws
  | cons hws => simpa only [List.append_assoc] using key _ _ hws

/-- The reader skips the blanks in front of a value. -/
theorem readValue_blanks {ws : List Char} (h : Blanks ws) (fuel depth : Nat) (cs : List Char) :
    readValue fuel depth (ws ++ cs) = readValue fuel depth cs := by
  cases fuel with
  | zero => rfl
  | succ fuel => simp only [readValue, skipSpace_blanks h]

/-- A sign or a digit starts a number. -/
theorem readValue_number {c : Char} (hc : c = '-' ∨ c.isDigit = true) (fuel depth : Nat)
    (cs : List Char) :
    readValue (fuel + 1) depth (c :: cs) = (readNumber (c :: cs)).map fun p => (.num p.1, p.2) := by
  have hsp : isSpace c = false := by
    rcases hc with rfl | hd
    · decide
    · exact isSpace_of_isDigit hd
  simp only [readValue, skipSpace_cons hsp]
  split
  -- the other six alternatives open with a character that is neither a sign nor a digit
  case h_7 => cases readNumber (c :: cs) <;> rfl
  all_goals
    rename_i heq
    obtain ⟨rfl, -⟩ := List.cons.inj heq
    exact absurd hc (by decide)

/-- With `fuel`, the reader reads back every value's text that is short enough, at any nesting
that leaves room for the value's own. -/
def ReadsValues (fuel : Nat) : Prop :=
  ∀ v cs depth rest, Writes v cs → depth + v.depth < 128 → cs.length < fuel → NumberEnd rest →
    readValue fuel depth (cs ++ rest) = some (v, rest)

/-- With `fuel`, the reader reads back the items of every array text that is short enough. -/
def ReadsItems (fuel : Nat) : Prop :=
  ∀ vs cs depth acc rest, WritesItems vs cs → depth + Value.depth.depthItems vs < 128 →
    cs.length < fuel → readItems fuel depth acc (cs ++ rest) = some (acc.reverse ++ vs, rest)

/-- With `fuel`, the reader reads back the members of every object text that is short
enough. -/
def ReadsMembers (fuel : Nat) : Prop :=
  ∀ ms cs depth acc rest, WritesMembers ms cs → depth + Value.depth.depthMembers ms < 128 →
    cs.length < fuel → readMembers fuel depth acc (cs ++ rest) = some (acc.reverse ++ ms, rest)

/-- One more unit of fuel reads every value, when the items and members readers read theirs:
one case per form of value text. -/
theorem readValue_step {fuel : Nat} (hitems : ReadsItems fuel) (hmembers : ReadsMembers fuel) :
    ReadsValues (fuel + 1) := by
  intro v cs depth rest hw hdepth hlen hend
  cases hw with
  | null => simp [readValue, skipSpace, isSpace, readWord]
  | bool b => cases b <;> simp [readValue, skipSpace, isSpace, readWord]
  | @integer negative n h =>
    obtain ⟨c, t', hct, hsp, -, -⟩ := (Writes.integer h).head
    -- an integer starts with its sign or its first digit, which opens no other token
    have hc : c = '-' ∨ c.isDigit = true := by
      cases negative
      · right
        have hds : Nat.toDigits 10 n = c :: t' := by simpa using hct
        exact isDigit_of_mem_toDigits n c (by rw [hds]; exact List.mem_cons_self)
      · left
        simp only [if_true, List.singleton_append, List.cons.injEq] at hct
        exact hct.1.symm
    have hnum := readNumber_integer h hend
    rw [hct] at hnum ⊢
    rw [List.cons_append, readValue_number hc, ← List.cons_append, hnum]
    rfl
  | str s =>
    have hfuel := length_le_escaped s.toList
    rw [toList_quote]
    simp only [List.cons_append, List.append_assoc, readValue,
      skipSpace_cons (show isSpace '"' = false by decide)]
    rw [readString_escaped _ (by simp only [List.length_append, List.length_cons]; omega)]
    simp
  | emptyArr =>
    simp only [Value.depth, Value.depth.depthItems] at hdepth
    simp [readValue, skipSpace, isSpace, show ¬ 128 ≤ depth + 1 by omega]
  | @arr items cs h =>
    have hd : depth + 1 + Value.depth.depthItems items < 128 := by
      simp only [Value.depth] at hdepth; omega
    simp only [List.cons_append, readValue, skipSpace_cons (show isSpace '[' = false by decide),
      if_neg (show ¬ depth + 1 ≥ 128 by omega)]
    split
    · rename_i heq
      exact absurd heq (h.not_closed rest _)
    · rw [hitems items cs (depth + 1) [] rest h hd (by simp only [List.length_cons] at hlen; omega)]
      rfl
  | emptyObj =>
    simp only [Value.depth, Value.depth.depthMembers] at hdepth
    simp [readValue, skipSpace, isSpace, show ¬ 128 ≤ depth + 1 by omega]
  | @obj members cs h =>
    have hd : depth + 1 + Value.depth.depthMembers members < 128 := by
      simp only [Value.depth] at hdepth; omega
    simp only [List.cons_append, readValue, skipSpace_cons (show isSpace '{' = false by decide),
      if_neg (show ¬ depth + 1 ≥ 128 by omega)]
    split
    · rename_i heq
      exact absurd heq (h.not_closed rest _)
    · rw [hmembers members cs (depth + 1) [] rest h hd
        (by simp only [List.length_cons] at hlen; omega)]
      rfl

/-- Blanks, then a character that is no blank. -/
theorem skipSpace_blanks_cons {ws : List Char} (hws : Blanks ws) {c : Char} (hc : isSpace c = false)
    (more : List Char) : skipSpace (ws ++ c :: more) = c :: more := by
  rw [skipSpace_blanks hws, skipSpace_cons hc]

/-- Room for a list of items is room for its first item and for the rest. -/
theorem depth_lt_of_items {depth : Nat} {v : Value} {vs : List Value}
    (h : depth + Value.depth.depthItems (v :: vs) < 128) :
    depth + v.depth < 128 ∧ depth + Value.depth.depthItems vs < 128 := by
  simp only [Value.depth.depthItems] at h
  omega

/-- Room for a list of members is room for the first member's value and for the rest. -/
theorem depth_lt_of_members {depth : Nat} {k : String} {v : Value} {ms : List (String × Value)}
    (h : depth + Value.depth.depthMembers ((k, v) :: ms) < 128) :
    depth + v.depth < 128 ∧ depth + Value.depth.depthMembers ms < 128 := by
  simp only [Value.depth.depthMembers] at h
  omega

/-- A value inside an array or an object reads back up to the blanks before its separator or
the closing bracket. -/
theorem readValue_inner {fuel : Nat} (hvalues : ReadsValues fuel) {v : Value}
    {ws t ws' : List Char} (hws : Blanks ws) (ht : Writes v t) (hws' : Blanks ws') {depth : Nat}
    (hdepth : depth + v.depth < 128) (hlen : t.length < fuel) {c : Char}
    (hc : c = ',' ∨ c = ']' ∨ c = '}') (more : List Char) :
    readValue fuel depth (ws ++ (t ++ (ws' ++ c :: more))) = some (v, ws' ++ c :: more) := by
  rw [readValue_blanks hws]
  exact hvalues v t depth _ ht hdepth hlen (numberEnd_blanks hws' hc more)

/-- One more unit of fuel reads the items of every array, when the value reader reads each item
and the items reader reads the rest. -/
theorem readItems_step {fuel : Nat} (hvalues : ReadsValues fuel) (hitems : ReadsItems fuel) :
    ReadsItems (fuel + 1) := by
  intro vs cs depth acc rest hw hdepth hlen
  cases hw with
  | @last v ws t ws' hws ht hws' =>
    obtain ⟨hd, -⟩ := depth_lt_of_items hdepth
    simp only [List.length_append, List.length_singleton] at hlen
    simp only [List.append_assoc, List.singleton_append, readItems,
      readValue_inner hvalues hws ht hws' hd (by omega) (Or.inr (Or.inl rfl)) rest,
      Option.bind_eq_bind, Option.bind_some,
      skipSpace_blanks_cons hws' (show isSpace ']' = false by decide)]
    simp
  | @cons v vs ws t ws' cs hws ht hws' hcs =>
    obtain ⟨hd, hds⟩ := depth_lt_of_items hdepth
    simp only [List.length_append, List.length_cons] at hlen
    simp only [List.append_assoc, List.cons_append, readItems,
      readValue_inner hvalues hws ht hws' hd (by omega) (Or.inl rfl) (cs ++ rest),
      Option.bind_eq_bind, Option.bind_some,
      skipSpace_blanks_cons hws' (show isSpace ',' = false by decide)]
    rw [hitems vs cs depth (v :: acc) rest hcs hds (by omega)]
    simp

/-- A member's name reads back from its quoted text, the reader given as much fuel as it
gives itself. -/
theorem readString_quoted (k : String) (after : List Char) :
    readString (((k.toList.flatMap fun c => (escapeChar c).toList) ++ '"' :: after).length + 1)
      [] true ((k.toList.flatMap fun c => (escapeChar c).toList) ++ '"' :: after) =
      some (k.toList, true, after) := by
  have hk := length_le_escaped k.toList
  rw [readString_escaped _ (by simp only [List.length_append, List.length_cons]; omega)]
  rfl

/-- The members reader takes a member's name, its colon and its value, and comes to the blanks
before the separator or the closing brace. -/
theorem readMembers_member {fuel : Nat} (hvalues : ReadsValues fuel) {k : String} {v : Value}
    {ws ws₁ ws₂ t ws' : List Char} (hws : Blanks ws) (hws₁ : Blanks ws₁) (hws₂ : Blanks ws₂)
    (ht : Writes v t) (hws' : Blanks ws') {depth : Nat} (hdepth : depth + v.depth < 128)
    (hlen : t.length < fuel) (acc : List (String × Value)) {c : Char}
    (hc : c = ',' ∨ c = '}') (more : List Char) :
    readMembers (fuel + 1) depth acc
        (ws ++ ((quote k).toList ++ (ws₁ ++ ':' :: (ws₂ ++ (t ++ (ws' ++ c :: more)))))) =
      if c = ',' then readMembers fuel depth ((k, v) :: acc) more
      else some (((k, v) :: acc).reverse, more) := by
  have hsp : isSpace c = false := by rcases hc with rfl | rfl <;> decide
  have hc' : c = ',' ∨ c = ']' ∨ c = '}' := by rcases hc with rfl | rfl <;> simp
  simp only [List.append_assoc, List.cons_append, readMembers, skipSpace_blanks hws, toList_quote,
    skipSpace_cons (show isSpace '"' = false by decide), readString_quoted, Option.bind_eq_bind,
    Option.bind_some, Bool.not_true, Bool.false_eq_true, if_false, List.nil_append,
    skipSpace_blanks_cons hws₁ (show isSpace ':' = false by decide),
    readValue_inner hvalues hws₂ ht hws' hdepth hlen hc' more,
    skipSpace_blanks_cons hws' hsp, String.ofList_toList]
  rcases hc with rfl | rfl <;> rfl

/-- One more unit of fuel reads the members of every object, when the value reader reads each
member's value and the members reader reads the rest. -/
theorem readMembers_step {fuel : Nat} (hvalues : ReadsValues fuel) (hmembers : ReadsMembers fuel) :
    ReadsMembers (fuel + 1) := by
  intro ms cs depth acc rest hw hdepth hlen
  cases hw with
  | @last k v ws ws₁ ws₂ t ws' hws hws₁ hws₂ ht hws' =>
    obtain ⟨hd, -⟩ := depth_lt_of_members hdepth
    simp only [List.length_append, List.length_cons, List.length_nil] at hlen
    simp only [List.append_assoc, List.cons_append, List.nil_append,
      readMembers_member hvalues hws hws₁ hws₂ ht hws' hd (by omega) acc (Or.inr rfl) rest]
    simp
  | @cons k v ms ws ws₁ ws₂ t ws' cs hws hws₁ hws₂ ht hws' hcs =>
    obtain ⟨hd, hds⟩ := depth_lt_of_members hdepth
    simp only [List.length_append, List.length_cons] at hlen
    simp only [List.append_assoc, List.cons_append,
      readMembers_member hvalues hws hws₁ hws₂ ht hws' hd (by omega) acc (Or.inl rfl) (cs ++ rest),
      if_true]
    rw [hmembers ms cs depth ((k, v) :: acc) rest hcs hds (by omega)]
    simp

/-- Every text of the grammar reads back, given more fuel than it has characters. -/
theorem reads_written (fuel : Nat) : ReadsValues fuel ∧ ReadsItems fuel ∧ ReadsMembers fuel := by
  induction fuel with
  | zero =>
    -- no text is shorter than no fuel
    exact ⟨fun _ _ _ _ _ _ h _ => absurd h (Nat.not_lt_zero _),
      fun _ _ _ _ _ _ _ h => absurd h (Nat.not_lt_zero _),
      fun _ _ _ _ _ _ _ h => absurd h (Nat.not_lt_zero _)⟩
  | succ fuel ih =>
    obtain ⟨hvalues, hitems, hmembers⟩ := ih
    exact ⟨readValue_step hitems hmembers, readItems_step hvalues hitems,
      readMembers_step hvalues hmembers⟩

/-- A document of the grammar, with blanks around it, parses back to its value. -/
theorem parse_written {v : Value} {cs : List Char} (h : Writes v cs) (hdepth : v.depth < 128)
    {ws ws' : List Char} (hws : Blanks ws) (hws' : Blanks ws') :
    parse (String.ofList (ws ++ cs ++ ws')) = some v := by
  have hread : ∀ fuel, cs.length < fuel → readValue fuel 0 (ws ++ cs ++ ws') = some (v, ws') := by
    intro fuel hfuel
    rw [List.append_assoc, readValue_blanks hws]
    exact (reads_written fuel).1 v cs 0 ws' h (by omega) hfuel (numberEnd_of_blanks hws')
  have hskip : skipSpace ws' = [] := by simpa [skipSpace] using skipSpace_blanks hws' []
  simp only [parse, String.toList_ofList]
  rw [hread _ (by simp only [List.length_append]; omega)]
  simp [hskip]

/-! ### The printers write within the grammar -/

theorem blanks_nil : Blanks [] := fun _ h => absurd h List.not_mem_nil

theorem blanks_space : Blanks [' '] := by
  intro c hc
  simp only [List.mem_singleton] at hc
  subst hc
  decide

/-- A line break and the indent of the next line. -/
theorem blanks_indent (level : Nat) : Blanks ('\n' :: (Value.indent level).toList) := by
  intro c hc
  simp only [Value.indent, String.toList_ofList, List.mem_cons, List.mem_replicate] at hc
  rcases hc with rfl | ⟨-, rfl⟩ <;> decide

theorem Writes.nat {n : Nat} (h : n < Nat.pow 2 64) :
    Writes (.num (.nat n)) (Value.compact (.num (.nat n))).toList := by
  have hw : Writes (.num (Json.integer false n)) ([] ++ Nat.toDigits 10 n) := Writes.integer h
  simpa [Value.compact, Number.render, Json.integer] using hw

theorem Writes.neg {n : Nat} (h : 0 < n ∧ n ≤ Nat.pow 2 63) :
    Writes (.num (.neg n)) (Value.compact (.num (.neg n))).toList := by
  have hw : Writes (.num (Json.integer true n)) (['-'] ++ Nat.toDigits 10 n) := Writes.integer h
  simpa [Value.compact, Number.render, Json.integer] using hw

mutual

/-- The compact printer writes every plain value within the grammar. -/
theorem writes_compact : ∀ v : Value, v.plain = true → Writes v v.compact.toList
  | .null, _ => by simpa [Value.compact] using Writes.null
  | .bool b, _ => Writes.bool b
  | .num (.nat n), h => Writes.nat (by simpa [Value.plain] using h)
  | .num (.neg n), h => Writes.neg (by simpa [Value.plain] using h)
  | .num (.float ..), h => absurd h (by simp [Value.plain])
  | .str s, _ => Writes.str s
  | .strUnpaired, h => absurd h (by simp [Value.plain])
  | .arr [], _ => by simpa [Value.compact, Value.compactItems] using Writes.emptyArr
  | .arr (v :: vs), h => by
    have hitems := writesItems_compact (v :: vs) (List.cons_ne_nil v vs)
      (by simpa [Value.plain] using h)
    simpa [Value.compact] using Writes.arr hitems
  | .obj [], _ => by simpa [Value.compact, Value.compactMembers] using Writes.emptyObj
  | .obj (m :: ms), h => by
    have hmembers := writesMembers_compact (m :: ms) (List.cons_ne_nil m ms)
      (by simpa [Value.plain] using h)
    simpa [Value.compact] using Writes.obj hmembers

theorem writesItems_compact : ∀ items : List Value, items ≠ [] →
    Value.plain.plainItems items = true →
    WritesItems items ((Value.compactItems items).toList ++ [']'])
  | [], hne, _ => absurd rfl hne
  | [v], _, h => by
    have hv : v.plain = true := by simpa [Value.plain.plainItems] using h
    simpa [Value.compactItems] using WritesItems.last blanks_nil (writes_compact v hv) blanks_nil
  | v :: w :: vs, _, h => by
    have hv : v.plain = true := by simp_all [Value.plain.plainItems]
    have hvs : Value.plain.plainItems (w :: vs) = true := by simp_all [Value.plain.plainItems]
    have hrest := writesItems_compact (w :: vs) (List.cons_ne_nil w vs) hvs
    simpa [Value.compactItems] using
      WritesItems.cons blanks_nil (writes_compact v hv) blanks_nil hrest

theorem writesMembers_compact : ∀ members : List (String × Value), members ≠ [] →
    Value.plain.plainMembers members = true →
    WritesMembers members ((Value.compactMembers members).toList ++ ['}'])
  | [], hne, _ => absurd rfl hne
  | [(k, v)], _, h => by
    have hv : v.plain = true := by simpa [Value.plain.plainMembers] using h
    simpa [Value.compactMembers] using
      @WritesMembers.last k v [] [] [] _ [] blanks_nil blanks_nil blanks_nil
        (writes_compact v hv) blanks_nil
  | (k, v) :: m :: ms, _, h => by
    have hv : v.plain = true := by simp_all [Value.plain.plainMembers]
    have hms : Value.plain.plainMembers (m :: ms) = true := by
      simp_all [Value.plain.plainMembers]
    have hrest := writesMembers_compact (m :: ms) (List.cons_ne_nil m ms) hms
    simpa [Value.compactMembers] using
      @WritesMembers.cons k v (m :: ms) [] [] [] _ [] _ blanks_nil blanks_nil blanks_nil
        (writes_compact v hv) blanks_nil hrest

end

mutual

/-- The pretty printer writes every plain value within the grammar, at any indent. -/
theorem writes_pretty : ∀ (v : Value) (level : Nat), v.plain = true → Writes v (v.pretty level).toList
  | .null, _, h => by simpa [Value.pretty] using writes_compact .null h
  | .bool b, _, h => by simpa [Value.pretty] using writes_compact (.bool b) h
  | .num n, _, h => by simpa [Value.pretty] using writes_compact (.num n) h
  | .str s, _, h => by simpa [Value.pretty] using writes_compact (.str s) h
  | .strUnpaired, _, h => absurd h (by simp [Value.plain])
  | .arr [], _, _ => by simpa [Value.pretty] using Writes.emptyArr
  | .arr (v :: vs), level, h => by
    have hitems := writesItems_pretty (v :: vs) (level + 1) (List.cons_ne_nil v vs)
      (by simpa [Value.plain] using h) (blanks_indent level)
    simpa [Value.pretty] using Writes.arr hitems
  | .obj [], _, _ => by simpa [Value.pretty] using Writes.emptyObj
  | .obj (m :: ms), level, h => by
    have hmembers := writesMembers_pretty (m :: ms) (level + 1) (List.cons_ne_nil m ms)
      (by simpa [Value.plain] using h) (blanks_indent level)
    simpa [Value.pretty] using Writes.obj hmembers

/-- Pretty items, after the line break that opens them, followed by the blanks before the
closing bracket. -/
theorem writesItems_pretty : ∀ (items : List Value) (level : Nat), items ≠ [] →
    Value.plain.plainItems items = true → ∀ {ws' : List Char}, Blanks ws' →
    WritesItems items ('\n' :: (Value.prettyItems level items).toList ++ ws' ++ [']'])
  | [], _, hne, _, _, _ => absurd rfl hne
  | [v], level, _, h, _, hws' => by
    have hv : v.plain = true := by simpa [Value.plain.plainItems] using h
    simpa [Value.prettyItems] using
      WritesItems.last (blanks_indent level) (writes_pretty v level hv) hws'
  | v :: w :: vs, level, _, h, _, hws' => by
    have hv : v.plain = true := by simp_all [Value.plain.plainItems]
    have hvs : Value.plain.plainItems (w :: vs) = true := by simp_all [Value.plain.plainItems]
    have hrest := writesItems_pretty (w :: vs) level (List.cons_ne_nil w vs) hvs hws'
    simpa [Value.prettyItems] using
      WritesItems.cons (blanks_indent level) (writes_pretty v level hv) blanks_nil hrest

/-- Pretty members, after the line break that opens them, followed by the blanks before the
closing brace. -/
theorem writesMembers_pretty : ∀ (members : List (String × Value)) (level : Nat), members ≠ [] →
    Value.plain.plainMembers members = true → ∀ {ws' : List Char}, Blanks ws' →
    WritesMembers members ('\n' :: (Value.prettyMembers level members).toList ++ ws' ++ ['}'])
  | [], _, hne, _, _, _ => absurd rfl hne
  | [(k, v)], level, _, h, _, hws' => by
    have hv : v.plain = true := by simpa [Value.plain.plainMembers] using h
    simpa [Value.prettyMembers] using
      @WritesMembers.last k v _ [] [' '] _ _ (blanks_indent level) blanks_nil blanks_space
        (writes_pretty v level hv) hws'
  | (k, v) :: m :: ms, level, _, h, _, hws' => by
    have hv : v.plain = true := by simp_all [Value.plain.plainMembers]
    have hms : Value.plain.plainMembers (m :: ms) = true := by
      simp_all [Value.plain.plainMembers]
    have hrest := writesMembers_pretty (m :: ms) level (List.cons_ne_nil m ms) hms hws'
    simpa [Value.prettyMembers] using
      @WritesMembers.cons k v (m :: ms) _ [] [' '] _ [] _ (blanks_indent level) blanks_nil
        blanks_space (writes_pretty v level hv) blanks_nil hrest

end

/-- A plain value nesting fewer than 128 levels reads back from its compact text. -/
theorem parse_compact {v : Value} (hplain : v.plain = true) (hdepth : v.depth < 128) :
    parse v.compact = some v := by
  simpa using parse_written (writes_compact v hplain) hdepth blanks_nil blanks_nil

/-- A plain value nesting fewer than 128 levels reads back from its pretty text. -/
theorem parse_pretty {v : Value} (level : Nat) (hplain : v.plain = true) (hdepth : v.depth < 128) :
    parse (v.pretty level) = some v := by
  simpa using parse_written (writes_pretty v level hplain) hdepth blanks_nil blanks_nil

end Talkback.Json