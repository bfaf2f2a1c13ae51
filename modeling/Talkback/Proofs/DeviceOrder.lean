import Mathlib.Tactic.Lemma
import Mathlib.Tactic.SplitIfs
import Talkback.Audio.Device

/-!
The order in which devices are listed.

Texts compare character by character, and UTF-8 keeps that order: the bytes of a smaller
character are smaller at the first place they differ, and no character's bytes begin another
character's. So comparing names compares their bytes. Devices are listed by a key of three
parts, inputs before outputs, a direction's default device first, and then the name with ASCII
letters folded to lower case. The sort is stable: devices whose keys tie, such as two names
that differ only in case, stay in the order the host gave them.
-/

namespace Talkback

/-! ### Byte order of texts -/

namespace Text

/-- The bytes of a text in UTF-8. -/
def utf8 (s : String) : List UInt8 := s.toUTF8.data.toList

lemma utf8_eq_flatMap (s : String) : utf8 s = s.toList.flatMap String.utf8EncodeChar := by
  obtain ⟨l, rfl⟩ : ∃ l, s = String.ofList l := ⟨s.toList, by simp⟩
  simp [utf8, List.utf8Encode]

/-- A list that is smaller and no prefix of another stays smaller whatever follows either. -/
lemma lt_append_of_not_prefix {l₁ l₂ : List UInt8} (h : l₁ < l₂) (hp : ¬ l₁ <+: l₂)
    (x y : List UInt8) : l₁ ++ x < l₂ ++ y := by
  induction h with
  | nil => simp at hp
  | rel hab => exact List.Lex.rel hab
  | cons _ ih =>
    rw [List.cons_prefix_cons] at hp
    exact List.Lex.cons (ih fun h' => hp ⟨rfl, h'⟩)

/-- The bytes of a smaller character are smaller, and do not begin the other's. -/
lemma utf8EncodeChar_lt {c d : Char} (h : c < d) :
    String.utf8EncodeChar c < String.utf8EncodeChar d ∧
      ¬ String.utf8EncodeChar c <+: String.utf8EncodeChar d := by
  have hv : c.val.toNat < d.val.toNat := h
  have hd : d.val.toNat < 0x110000 := by
    have := d.valid
    unfold UInt32.isValidChar Nat.isValidChar at this
    omega
  dsimp only [String.utf8EncodeChar]
  generalize c.val.toNat = v at *
  generalize d.val.toNat = w at *
  -- one case for each pair of encoding lengths; the bytes are then digits of the code points
  split_ifs <;>
    simp only [List.cons_lt_cons_iff, List.cons_prefix_cons, List.nil_prefix, List.prefix_nil,
      List.nil_lt_cons, List.not_lt_nil, UInt8.lt_iff_toNat_lt, ← UInt8.toNat_inj,
      UInt8.toNat_ofNat'] <;>
    simp (disch := omega) only [Nat.mod_eq_of_lt] <;>
    omega

lemma flatMap_utf8EncodeChar_lt {l₁ l₂ : List Char} (h : l₁ < l₂) :
    l₁.flatMap String.utf8EncodeChar < l₂.flatMap String.utf8EncodeChar := by
  induction h with
  | nil =>
    rename_i c l
    obtain ⟨b, bs, hb⟩ := List.exists_cons_of_ne_nil (String.utf8EncodeChar_ne_nil (c := c))
    simp [hb]
  | rel hab =>
    simp only [List.flatMap_cons]
    exact lt_append_of_not_prefix (utf8EncodeChar_lt hab).1 (utf8EncodeChar_lt hab).2 _ _
  | cons _ ih =>
    simp only [List.flatMap_cons]
    exact List.append_left_lt ih

/-- Texts compare as their UTF-8 bytes do. -/
lemma lt_iff_utf8_lt {a b : String} : a < b ↔ utf8 a < utf8 b := by
  have hmono : ∀ {a b : String}, a < b → utf8 a < utf8 b := fun h => by
    rw [utf8_eq_flatMap, utf8_eq_flatMap]
    exact flatMap_utf8EncodeChar_lt h
  refine ⟨hmono, fun h => ?_⟩
  -- otherwise `b` is below `a` or equal to it, and the bytes would be too
  refine Classical.byContradiction fun hn => ?_
  rcases List.le_iff_lt_or_eq.1 (String.not_lt.1 hn) with hlt | heq
  · exact List.lt_asymm h (hmono hlt)
  · obtain rfl : b = a := String.ext heq
    exact List.lt_irrefl _ h

lemma le_iff_utf8_le {a b : String} : a ≤ b ↔ utf8 a ≤ utf8 b :=
  not_congr lt_iff_utf8_lt

end Text

/-! ### Listing devices -/

namespace Audio

open Text

/-- The name with its ASCII letters folded to lower case. -/
def DeviceInfo.foldedName (d : DeviceInfo) : String := d.name.map Char.toLower

/-- Whether `a` may be listed before `b`: an input before an output; in one direction, the
default device before another; and otherwise by folded name, compared byte by byte. -/
def ListedBefore (a b : DeviceInfo) : Prop :=
  a.direction = .input ∧ b.direction = .output ∨
    a.direction = b.direction ∧
      (a.isDefault = true ∧ b.isDefault = false ∨
        a.isDefault = b.isDefault ∧ utf8 a.foldedName ≤ utf8 b.foldedName)

/-- Two devices tie when they have one direction, both or neither are defaults, and their
names fold to the same text. -/
def Tied (a b : DeviceInfo) : Prop :=
  a.direction = b.direction ∧ a.isDefault = b.isDefault ∧ a.foldedName = b.foldedName

instance : DecidableRel Tied := fun a b =>
  inferInstanceAs (Decidable (a.direction = b.direction ∧ a.isDefault = b.isDefault ∧
    a.foldedName = b.foldedName))

namespace ListedBefore

lemma trans {a b c : DeviceInfo} (hab : ListedBefore a b) (hbc : ListedBefore b c) :
    ListedBefore a c := by
  rcases hab with ⟨ha, hb⟩ | ⟨hdir, hab⟩ <;> rcases hbc with ⟨hb', hc⟩ | ⟨hdir', hbc⟩
  · rw [hb] at hb'; cases hb'
  · exact .inl ⟨ha, hdir' ▸ hb⟩
  · exact .inl ⟨hdir ▸ hb', hc⟩
  · -- one direction throughout: defaults first, then names
    refine .inr ⟨hdir.trans hdir', ?_⟩
    rcases hab with ⟨ha, hb⟩ | ⟨hd, hn⟩ <;> rcases hbc with ⟨hb', hc⟩ | ⟨hd', hn'⟩
    · rw [hb] at hb'; cases hb'
    · exact .inl ⟨ha, hd' ▸ hb⟩
    · exact .inl ⟨hd ▸ hb', hc⟩
    · exact .inr ⟨hd.trans hd', List.le_trans hn hn'⟩

lemma total (a b : DeviceInfo) : ListedBefore a b ∨ ListedBefore b a := by
  rcases a with ⟨an, _ | _, _ | _⟩ <;> rcases b with ⟨bn, _ | _, _ | _⟩ <;>
    simp [ListedBefore, List.le_total]

end ListedBefore

namespace DeviceInfo

lemma before_iff {a b : DeviceInfo} : before a b = true ↔ ListedBefore a b := by
  rcases a with ⟨an, _ | _, _ | _⟩ <;> rcases b with ⟨bn, _ | _, _ | _⟩ <;>
    simp [before, key, ListedBefore, foldedName, ← le_iff_utf8_le]

lemma before_trans (a b c : DeviceInfo) (hab : before a b) (hbc : before b c) : before a c :=
  before_iff.2 (before_iff.1 hab |>.trans (before_iff.1 hbc))

lemma before_total (a b : DeviceInfo) : (before a b || before b a) = true := by
  rw [Bool.or_eq_true, before_iff, before_iff]
  exact ListedBefore.total a b

lemma before_of_tied {a b : DeviceInfo} (h : Tied a b) : before a b := by
  obtain ⟨hdir, hdef, hname⟩ := h
  rw [before_iff]
  exact .inr ⟨hdir, .inr ⟨hdef, hname ▸ List.le_refl _⟩⟩

end DeviceInfo

/-- Sorting keeps, in their order, the devices that tie with any one device. -/
lemma filter_sortDevices_tied (ds : List DeviceInfo) (d : DeviceInfo) :
    (sortDevices ds).filter (fun e => decide (Tied d e)) = ds.filter (fun e => decide (Tied d e)) := by
  have htie : (ds.filter fun e => decide (Tied d e)).Pairwise fun a b => DeviceInfo.before a b := by
    refine List.pairwise_of_forall_mem_list fun a ha b hb => ?_
    simp only [List.mem_filter, decide_eq_true_eq] at ha hb
    exact DeviceInfo.before_of_tied ⟨ha.2.1.symm.trans hb.2.1, ha.2.2.1.symm.trans hb.2.2.1,
      ha.2.2.2.symm.trans hb.2.2.2⟩
  -- the tied devices stay a sublist of the sorted list, and there are as many of them
  have hsub : (ds.filter fun e => decide (Tied d e)).Sublist (sortDevices ds) :=
    List.sublist_mergeSort DeviceInfo.before_trans DeviceInfo.before_total htie (List.filter_sublist)
  have hlen : ((sortDevices ds).filter fun e => decide (Tied d e)).length =
      (ds.filter fun e => decide (Tied d e)).length :=
    ((List.mergeSort_perm ds _).filter _).length_eq
  refine (List.Sublist.eq_of_length ?_ hlen.symm).symm
  simpa [List.filter_filter] using hsub.filter (fun e => decide (Tied d e))

/-- **Devices are listed in key order, stably.** Sorting rearranges any list of devices so that
each may be listed before every later one: inputs before outputs, defaults first within a
direction, then by name folded to lower case, byte by byte; and devices that tie, such as two
names that differ only in ASCII case, keep the order they came in. -/
theorem sortDevices_lists_stably (ds : List DeviceInfo) :
    (sortDevices ds).Perm ds ∧ (sortDevices ds).Pairwise ListedBefore ∧
      ∀ d, (sortDevices ds).filter (fun e => decide (Tied d e)) =
        ds.filter (fun e => decide (Tied d e)) := by
  refine ⟨List.mergeSort_perm ds _, ?_, filter_sortDevices_tied ds⟩
  exact (List.pairwise_mergeSort DeviceInfo.before_trans DeviceInfo.before_total ds).imp
    DeviceInfo.before_iff.1

end Audio

end Talkback
