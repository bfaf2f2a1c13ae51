import Mathlib.Data.List.DropRight
import Mathlib.Data.List.TakeWhile
import Talkback.App.Command
import Talkback.Proofs.SettingsFile

/-!
Reading a console line.

A line loses its trailing `CR` and `LF` characters and is trimmed of blanks. A trimmed text ends
with a character that is no blank, so it is empty, or holds no blank at all, or is a first word,
one blank and a rest that still holds a character that is no blank (`SplitsAt.rest_ne_empty`).
A text of the second kind names a keyword command when its lower case is one of that command's
spellings; one of the third kind is `play`, with the trimmed rest as its path, when its first
word is `play`. Any other line is sent as text, as typed (`parse_reads_line`).
-/

namespace Talkback.Text

/-- A text with no blank in it. -/
def Unbroken (t : String) : Prop := ∀ c ∈ t.toList, isBlank c = false

/-- `t` is the word `w`, one blank, and the text `r`: `w` is the first word of `t`. -/
def SplitsAt (t w r : String) : Prop :=
  Unbroken w ∧ ∃ b, isBlank b = true ∧ t.toList = w.toList ++ b :: r.toList

theorem trimBlank_eq_empty_iff (s : String) :
    trimBlank s = "" ↔ ∀ c ∈ s.toList, isBlank c = true := by
  rw [← String.toList_inj, toList_trimBlank_eq, String.toList_empty, List.rdropWhile_eq_nil_iff]
  constructor
  · intro h
    -- the first character left after the leading blanks is no blank, so none is left
    have hnil : s.toList.dropWhile isBlank = [] := by
      by_contra hne
      have hhead := List.head_dropWhile_not isBlank hne
      rw [h _ (List.head_mem hne)] at hhead
      cases hhead
    exact List.dropWhile_eq_nil_iff.1 hnil
  · intro h
    rw [List.dropWhile_eq_nil_iff.2 h]
    simp

/-- A trimmed text ends with a character that is no blank. -/
theorem isBlank_last_of_trimBlank {s : String} {a : List Char} {b : Char}
    (h : (trimBlank s).toList = a ++ [b]) : isBlank b = false := by
  rw [toList_trimBlank_eq, List.rdropWhile] at h
  have hrev := congrArg List.reverse h
  rw [List.reverse_reverse, List.reverse_append, List.reverse_singleton,
    List.singleton_append] at hrev
  have hne : (s.toList.dropWhile isBlank).reverse.dropWhile isBlank ≠ [] := by
    rw [hrev]
    exact List.cons_ne_nil _ _
  have hhead := List.head_dropWhile_not isBlank hne
  simpa only [hrev, List.head_cons] using hhead

/-- A text with a blank in it splits at its first blank. -/
theorem splitsAt_first {t : String} (h : ¬Unbroken t) :
    SplitsAt t (String.ofList (t.toList.takeWhile fun c => !isBlank c))
      (String.ofList ((t.toList.dropWhile fun c => !isBlank c).drop 1)) := by
  have hne : t.toList.dropWhile (fun c => !isBlank c) ≠ [] := by
    intro hnil
    apply h
    intro c hc
    simpa using List.dropWhile_eq_nil_iff.1 hnil c hc
  obtain ⟨b, r, hbr⟩ := List.exists_cons_of_ne_nil hne
  have hb : isBlank b = true := by
    have hhead := List.head_dropWhile_not (fun c => !isBlank c) hne
    simpa only [hbr, List.head_cons, Bool.not_eq_false'] using hhead
  refine ⟨fun c hc => ?_, b, hb, ?_⟩
  · rw [String.toList_ofList] at hc
    simpa using List.mem_takeWhile_imp hc
  · rw [String.toList_ofList, String.toList_ofList, hbr, List.drop_one, List.tail_cons, ← hbr,
      List.takeWhile_append_dropWhile]

/-- The first word of a text is determined: a split is the one at the first blank. -/
theorem SplitsAt.eq_first {t w r : String} (h : SplitsAt t w r) :
    t.toList.takeWhile (fun c => !isBlank c) = w.toList ∧
      (t.toList.dropWhile fun c => !isBlank c).drop 1 = r.toList := by
  obtain ⟨hw, b, hb, ht⟩ := h
  have hpos : ∀ c ∈ w.toList, (!isBlank c) = true := fun c hc => by simp [hw c hc]
  have hneg : ¬(!isBlank b) = true := by simp [hb]
  rw [ht, List.takeWhile_append_of_pos hpos, List.dropWhile_append_of_pos hpos,
    List.takeWhile_cons_of_neg (p := fun c => !isBlank c) hneg,
    List.dropWhile_cons_of_neg (p := fun c => !isBlank c) hneg]
  simp

theorem SplitsAt.ne_empty {t w r : String} (h : SplitsAt t w r) : t ≠ "" := by
  obtain ⟨-, b, -, ht⟩ := h
  rintro rfl
  simp at ht

theorem SplitsAt.unique {t w r w' r' : String} (h : SplitsAt t w r) (h' : SplitsAt t w' r') :
    w = w' ∧ r = r' := by
  obtain ⟨hw, hr⟩ := h.eq_first
  obtain ⟨hw', hr'⟩ := h'.eq_first
  exact ⟨String.toList_inj.1 (hw.symm.trans hw'), String.toList_inj.1 (hr.symm.trans hr')⟩

theorem unbroken_empty : Unbroken "" := by
  simp [Unbroken]

theorem SplitsAt.not_unbroken {t w r : String} (h : SplitsAt t w r) : ¬Unbroken t := by
  obtain ⟨-, b, hb, ht⟩ := h
  intro hu
  have hb' := hu b (by rw [ht]; simp)
  rw [hb] at hb'
  cases hb'

/-- After the first word of a trimmed text, a character that is no blank is left. -/
theorem SplitsAt.rest_ne_empty {s w r : String} (h : SplitsAt (trimBlank s) w r) :
    trimBlank r ≠ "" := by
  obtain ⟨-, b, hb, ht⟩ := h
  rw [Ne, trimBlank_eq_empty_iff]
  intro hr
  -- the trimmed text ends with the last character of `r`, or with `b` when `r` is empty
  rcases List.eq_nil_or_concat r.toList with hnil | ⟨a, c, hc⟩
  · have hlast := isBlank_last_of_trimBlank (s := s) (a := w.toList) (b := b) (by rw [ht, hnil])
    rw [hb] at hlast
    cases hlast
  · have hlast := isBlank_last_of_trimBlank (s := s) (a := w.toList ++ b :: a) (b := c)
      (by simp [ht, hc])
    rw [hr c (by simp [hc])] at hlast
    cases hlast

end Talkback.Text

namespace Talkback.App.Command

open Text

/-- The spellings of a keyword command, in lower case; the other commands have none. -/
def spellings : Command → List String
  | .record => ["record"]
  | .stream => ["stream"]
  | .relay => ["relay"]
  | .stop => ["stop"]
  | .hush => ["hush"]
  | .stats => ["stats"]
  | .help => ["help", "?"]
  | .quit => ["quit", "exit"]
  | _ => []

theorem ne_empty_of_mem_spellings {w : String} {c : Command} (h : w ∈ c.spellings) : w ≠ "" := by
  rintro rfl
  cases c <;> simp [spellings] at h

/-! ### The command table -/

theorem ofWords_spelled {w : String} {c : Command} (h : w ∈ c.spellings) (line : String) :
    ofWords w "" line = c := by
  cases c <;> simp only [spellings, List.mem_cons, List.not_mem_nil, or_false] at h
  all_goals
    rcases h with rfl | rfl
  all_goals rfl

/-- With nothing after the word, the table gives the text or a keyword command. -/
theorem ofWords_unbroken_cases (w line : String) :
    ofWords w "" line = .text line ∨ (ofWords w "" line).spellings ≠ [] := by
  have hrest : ("" : String).isEmpty = true := rfl
  unfold ofWords
  simp only [hrest]
  split <;> simp_all [spellings]

theorem spelled_of_ofWords {w line : String} {c : Command} (hc : c.spellings ≠ [])
    (h : ofWords w "" line = c) : w ∈ c.spellings := by
  have hrest : ("" : String).isEmpty = true := rfl
  unfold ofWords at h
  simp only [hrest] at h
  split at h <;> subst h <;> simp_all [spellings]

theorem ofWords_unspelled {w : String} (h : ∀ c : Command, w ∉ c.spellings) (line : String) :
    ofWords w "" line = .text line := by
  rcases ofWords_unbroken_cases w line with htext | hkey
  · exact htext
  · exact absurd (spelled_of_ofWords hkey rfl) (h _)

theorem ofWords_ne_empty (w rest line : String) : ofWords w rest line ≠ .empty := by
  unfold ofWords
  split <;> simp

theorem ofWords_of_ne_empty {w rest : String} (h : rest ≠ "") (line : String) :
    ofWords w rest line = if w = "play" then .play rest else .text line := by
  have hrest : rest.isEmpty = false := by simpa [String.isEmpty_iff] using h
  unfold ofWords
  simp only [hrest]
  split <;> simp_all

/-! ### The three shapes of a line -/

variable {L t : String}

theorem parse_of_empty (ht : trimBlank (stripEnding L) = t) (h : t = "") : parse L = .empty := by
  simp [parse, ht, h]

theorem parse_of_unbroken (ht : trimBlank (stripEnding L) = t) (hne : t ≠ "") (hu : Unbroken t) :
    parse L = ofWords (t.map Char.toLower) "" (stripEnding L) := by
  have htake : t.toList.takeWhile (fun c => !isBlank c) = t.toList :=
    List.takeWhile_eq_self_iff.2 fun c hc => by simp [hu c hc]
  have hdrop : t.toList.dropWhile (fun c => !isBlank c) = [] :=
    List.dropWhile_eq_nil_iff.2 fun c hc => by simp [hu c hc]
  simp only [parse, ht, String.isEmpty_iff, hne, if_false, htake, hdrop, String.ofList_toList,
    List.drop_nil]
  rfl

theorem parse_ne_empty (ht : trimBlank (stripEnding L) = t) (hne : t ≠ "") : parse L ≠ .empty := by
  simp only [parse, ht, String.isEmpty_iff, hne, if_false]
  exact ofWords_ne_empty _ _ _

theorem parse_of_splitsAt {w r : String} (ht : trimBlank (stripEnding L) = t) (hne : t ≠ "")
    (hs : SplitsAt t w r) :
    parse L = if w.map Char.toLower = "play" then .play (trimBlank r) else .text (stripEnding L) := by
  obtain ⟨hw, hr⟩ := hs.eq_first
  have hrest : trimBlank r ≠ "" := by
    subst ht
    exact hs.rest_ne_empty
  simp only [parse, ht, String.isEmpty_iff, hne, if_false, hw, hr, String.ofList_toList]
  exact ofWords_of_ne_empty hrest _

/-- A trimmed line with a blank in it is `play` with the rest as path, or text. -/
theorem parse_of_broken (ht : trimBlank (stripEnding L) = t) (hu : ¬Unbroken t) :
    ∃ w r, SplitsAt t w r ∧
      parse L = if w.map Char.toLower = "play" then .play (trimBlank r) else .text (stripEnding L) := by
  have hne : t ≠ "" := by
    rintro rfl
    exact hu unbroken_empty
  exact ⟨_, _, splitsAt_first hu, parse_of_splitsAt ht hne (splitsAt_first hu)⟩

/-! ### Reading a line -/

/-- How a line, without its line ending, reads, by the shape of its trimmed text `t`: a line of
blanks is empty; a `t` of one word whose lower case spells a keyword is that command; a `t`
whose first word is `play` in any case, followed by more than blanks, is `play` with the trimmed
rest as its path; any other line is sent as text, as typed. -/
inductive Reads (l : String) : Command → Prop where
  | empty : trimBlank l = "" → Reads l .empty
  | keyword {c : Command} : Unbroken (trimBlank l) →
      (trimBlank l).map Char.toLower ∈ c.spellings → Reads l c
  | play {w r : String} : SplitsAt (trimBlank l) w r → w.map Char.toLower = "play" →
      trimBlank r ≠ "" → Reads l (.play (trimBlank r))
  | text : trimBlank l ≠ "" →
      (Unbroken (trimBlank l) → ∀ c : Command, (trimBlank l).map Char.toLower ∉ c.spellings) →
      (∀ w r, SplitsAt (trimBlank l) w r → w.map Char.toLower = "play" → trimBlank r = "") →
      Reads l (.text l)

/-- What `parse` gives follows the reading rules. -/
theorem reads_parse (L : String) : Reads (stripEnding L) (parse L) := by
  by_cases hemp : trimBlank (stripEnding L) = ""
  · rw [parse_of_empty rfl hemp]
    exact .empty hemp
  by_cases hu : Unbroken (trimBlank (stripEnding L))
  · -- one word: a keyword when it spells one, else text
    rw [parse_of_unbroken rfl hemp hu]
    by_cases hk : ∃ c : Command, (trimBlank (stripEnding L)).map Char.toLower ∈ c.spellings
    · obtain ⟨c, hc⟩ := hk
      rw [ofWords_spelled hc]
      exact .keyword hu hc
    · have hk' : ∀ c : Command, (trimBlank (stripEnding L)).map Char.toLower ∉ c.spellings :=
        fun c hc => hk ⟨c, hc⟩
      rw [ofWords_unspelled hk']
      exact .text hemp (fun _ => hk') fun w r hs => absurd hu hs.not_unbroken
  · -- a first word and a rest: `play` when the word is, else text
    obtain ⟨w, r, hs, hparse⟩ := parse_of_broken rfl hu
    rw [hparse]
    split
    · next hw => exact .play hs hw hs.rest_ne_empty
    · next hw =>
      refine .text hemp (fun h => absurd h hu) fun w' r' hs' hw' => ?_
      obtain ⟨rfl, rfl⟩ := hs.unique hs'
      exact absurd hw' hw

/-- A command the reading rules give is what `parse` gives. -/
theorem parse_of_reads {L : String} {c : Command} (h : Reads (stripEnding L) c) : parse L = c := by
  cases h with
  | empty hemp => exact parse_of_empty rfl hemp
  | keyword hu hc =>
    have hne : trimBlank (stripEnding L) ≠ "" := by
      intro hemp
      rw [hemp] at hc
      exact ne_empty_of_mem_spellings hc (by simp)
    rw [parse_of_unbroken rfl hne hu]
    exact ofWords_spelled hc _
  | play hs hw _ => rw [parse_of_splitsAt rfl hs.ne_empty hs, if_pos hw]
  | text hne hkey hplay =>
    by_cases hu : Unbroken (trimBlank (stripEnding L))
    · rw [parse_of_unbroken rfl hne hu]
      exact ofWords_unspelled (hkey hu) _
    · obtain ⟨w, r, hs, hparse⟩ := parse_of_broken rfl hu
      rw [hparse, if_neg fun hw => hs.rest_ne_empty (hplay w r hs hw)]

/-- A console line reads as a command exactly when the reading rules give that command for the
line without its line ending. -/
theorem parse_reads_line (L : String) (c : Command) : parse L = c ↔ Reads (stripEnding L) c :=
  ⟨fun h => h ▸ reads_parse L, parse_of_reads⟩

example : parse "Play clips/hello world.wav\r\n" = .play "clips/hello world.wav" := by
  decide +kernel

example : parse "  stop the music\r\n" = .text "  stop the music" := by
  decide +kernel

end Talkback.App.Command
