import Talkback.Proofs.Ring

/-!
The two copies a transfer makes at the end of the ring's cells.

A transfer of `len` bytes at cell `pos` of `cap` cells moves them in two copies: the first
`min len (cap - pos)` between `pos` and the end of the array (`firstRun`), and the rest, if any,
from the start of the array. While the ring runs, its array has `capacity` cells and both
positions lie inside it, so both copies stay within the array. `write` and `read` move the
bytes one cell at a time, going round the end; that is the same as the two copies
(`toList_fill_twice`, `peek_twice`), and so the two copies append to the unread bytes and
hand over their oldest ones.
-/

namespace Talkback.Buffer.Ring

open Talkback.Circular

/-- How many of `len` bytes moved at cell `pos` go before the end of `cap` cells. -/
def firstRun (cap pos len : Nat) : Nat := min len (cap - pos)

/-- The cells `s` with `src` copied over the slice from `p` to `p + src.length`. -/
def overwrite (s : List UInt8) (p : Nat) (src : List UInt8) : List UInt8 :=
  s.take p ++ src ++ s.drop (p + src.length)

@[simp] lemma overwrite_nil (s : List UInt8) (p : Nat) : overwrite s p [] = s := by
  simp [overwrite]

/-- Copying `x :: xs` sets cell `p` and copies `xs` from the next one. -/
lemma overwrite_cons {s : List UInt8} {p : Nat} (hp : p < s.length) (x : UInt8) (xs : List UInt8) :
    overwrite s p (x :: xs) = overwrite (s.set p x) (p + 1) xs := by
  have hlen : (s.take p).length = p := List.length_take_of_le (by omega)
  simp [overwrite, List.set_eq_take_append_cons_drop, hp, List.take_append, List.drop_append, hlen,
    List.drop_eq_nil_of_le, List.drop_drop, List.take_take, Nat.add_comm, Nat.add_left_comm]

/-- The two copies of `len ≤ cap` bytes at a cell `pos < cap` stay within the cells, and
either the second starts at the first cell or there is none. -/
lemma firstRun_spec {cap pos len : Nat} (hpos : pos < cap) (hlen : len ≤ cap) :
    pos + firstRun cap pos len ≤ cap ∧ len - firstRun cap pos len ≤ cap ∧
      ((pos + firstRun cap pos len) % cap = 0 ∨ len - firstRun cap pos len = 0) := by
  unfold firstRun
  refine ⟨by omega, by omega, ?_⟩
  by_cases hfit : len ≤ cap - pos
  · exact .inr (by omega)
  · -- the first copy reaches the end of the cells
    left
    rw [show pos + min len (cap - pos) = cap by omega, Nat.mod_self]

section Copies

variable {s : Array UInt8} {cap : Nat}

/-- Writing `xs ++ ys` writes `xs`, then `ys` from the cell after it. -/
lemma fill_append {p : Nat} (hp : p < cap) (xs ys : List UInt8) :
    fill cap s p (xs ++ ys) = fill cap (fill cap s p xs) ((p + xs.length) % cap) ys := by
  induction xs generalizing s p with
  | nil => simp [fill, Nat.mod_eq_of_lt hp]
  | cons x xs ih =>
    simp only [List.cons_append, fill, List.length_cons]
    rw [ih (Nat.mod_lt _ (by omega)), succ_mod_add_mod]

/-- A write that stays before the end of the cells is one copy into a slice. -/
lemma toList_fill_of_le (hs : s.size = cap) {p : Nat} (xs : List UInt8)
    (hle : p + xs.length ≤ cap) : (fill cap s p xs).toList = overwrite s.toList p xs := by
  induction xs generalizing s p with
  | nil => simp [fill]
  | cons x xs ih =>
    simp only [List.length_cons] at hle
    rw [overwrite_cons (by simp; omega), ← Array.toList_setIfInBounds]
    simp only [fill]
    -- the next cell is `p + 1` unless nothing is left to write there
    cases xs with
    | nil => simp [fill]
    | cons y ys =>
      rw [Nat.mod_eq_of_lt (by simp at hle; omega)]
      exact ih (by simp [hs]) (by omega)

/-- **A write in two copies.** Writing at most `cap` bytes at a cell `p < cap` copies the first
`firstRun` of them into the cells from `p` to the end, and the rest into the cells from the
start; both copies stay within the cells. -/
lemma toList_fill_twice (hs : s.size = cap) {p : Nat} (hp : p < cap) (data : List UInt8)
    (hlen : data.length ≤ cap) :
    (fill cap s p data).toList = overwrite (overwrite s.toList p
      (data.take (firstRun cap p data.length))) 0 (data.drop (firstRun cap p data.length)) := by
  obtain ⟨hfirst, hrest, hnext⟩ := firstRun_spec hp hlen
  have hsplit := List.take_append_drop (firstRun cap p data.length) data
  have htake : (data.take (firstRun cap p data.length)).length = firstRun cap p data.length :=
    List.length_take_of_le (by unfold firstRun; omega)
  have happ := fill_append (s := s) hp (data.take (firstRun cap p data.length))
    (data.drop (firstRun cap p data.length))
  rw [hsplit, htake] at happ
  rw [happ]
  rcases hnext with hzero | hnone
  · rw [hzero, toList_fill_of_le (by simp [hs]) _ (by simp; omega),
      toList_fill_of_le hs _ (by omega)]
  · -- nothing is left for the second copy
    have hdrop : data.drop (firstRun cap p data.length) = [] := by simp; omega
    rw [hdrop, overwrite_nil]
    simp only [fill]
    exact toList_fill_of_le hs _ (by omega)

/-- Reading cells that stay before the end of the array reads a slice. -/
lemma peek_of_le (hs : s.size = cap) {p n : Nat} (hle : p + n ≤ cap) :
    peek s cap p n = (s.toList.drop p).take n := by
  induction n generalizing p with
  | zero => simp [peek]
  | succ n ih =>
    have hp : p < s.toList.length := by simp; omega
    rw [peek, List.drop_eq_getElem_cons hp, List.take_succ_cons]
    have hcell : s.getD p 0 = s.toList[p] := by simp [Array.getD, show p < s.size by simpa using hp]
    rw [hcell]
    -- the next cell is `p + 1` unless nothing is left to read there
    cases n with
    | zero => simp [peek]
    | succ n => rw [Nat.mod_eq_of_lt (by omega), ih (by omega)]

/-- **A read in two copies.** Reading at most `cap` cells from a cell `p < cap` reads the first
`firstRun` from `p` to the end and the rest from the start; both copies stay within the
cells. -/
lemma peek_twice (hs : s.size = cap) {p : Nat} (hp : p < cap) {k : Nat} (hk : k ≤ cap) :
    peek s cap p k =
      (s.toList.drop p).take (firstRun cap p k) ++ s.toList.take (k - firstRun cap p k) := by
  obtain ⟨hfirst, hrest, hnext⟩ := firstRun_spec hp hk
  have hcap : 0 < cap := by omega
  calc peek s cap p k = peek s cap p (firstRun cap p k + (k - firstRun cap p k)) := by
        rw [Nat.add_sub_cancel' (by unfold firstRun; omega)]
    _ = peek s cap p (firstRun cap p k) ++
          peek s cap ((p + firstRun cap p k) % cap) (k - firstRun cap p k) := peek_add hcap hp _ _
    _ = _ := by
      rw [peek_of_le hs hfirst]
      rcases hnext with hzero | hnone
      · rw [hzero, peek_of_le hs (by omega), List.drop_zero]
      · simp [hnone, peek]

end Copies

/-- **The cells of a running ring, and the copies at the end.** At every state that some
interleaving of turns reaches from `create n`, while the ring runs: its array has `capacity`
cells, at least one; it holds at most that many bytes; reading and writing start inside the
array, writing right after the unread bytes, going round. A write of bytes that fit in the free
cells is two copies within the array, up to its end and from its start, and appends them to the
unread bytes; a read of `k` of the unread bytes is two copies within the array, hands over the
first `k` of them and leaves the rest. -/
theorem transfers_wrap_within_cells {n : Nat} {r : Ring} (hr : spec.Reachable (create n) r)
    (ha : r.active = true) :
    (r.storage.size = r.capacity ∧ 1 ≤ r.capacity ∧ r.used ≤ r.capacity ∧
      r.readPos < r.capacity ∧ r.writePos < r.capacity ∧
      r.writePos = (r.readPos + r.used) % r.capacity) ∧
    (∀ data : List UInt8, data.length ≤ r.free →
      r.writePos + firstRun r.capacity r.writePos data.length ≤ r.capacity ∧
      data.length - firstRun r.capacity r.writePos data.length ≤ r.capacity ∧
      (r.write data).storage.toList =
        overwrite (overwrite r.storage.toList r.writePos
          (data.take (firstRun r.capacity r.writePos data.length))) 0
          (data.drop (firstRun r.capacity r.writePos data.length)) ∧
      (r.write data).contents = r.contents ++ data) ∧
    (∀ k, k ≤ r.used →
      r.readPos + firstRun r.capacity r.readPos k ≤ r.capacity ∧
      k - firstRun r.capacity r.readPos k ≤ r.capacity ∧
      (r.read k).1 = (r.storage.toList.drop r.readPos).take (firstRun r.capacity r.readPos k) ++
        r.storage.toList.take (k - firstRun r.capacity r.readPos k) ∧
      (r.read k).1 = r.contents.take k ∧ (r.read k).2.contents = r.contents.drop k) := by
  obtain ⟨hs, -⟩ := sound_of_reachable hr
  have hsize := hs.size_eq ha
  have hrp := hs.read_lt ha
  have hwp : r.writePos < r.capacity := hs.write_eq ha ▸ Nat.mod_lt _ hs.cap_pos
  have hused := used_le_capacity hs
  refine ⟨⟨hsize, hs.cap_pos, hused, hrp, hwp, hs.write_eq ha⟩, fun data hfit => ?_,
    fun k hk => ?_⟩
  · have hlen : data.length ≤ r.capacity := by unfold free at hfit; omega
    obtain ⟨hfirst, hrest, -⟩ := firstRun_spec hwp hlen
    refine ⟨hfirst, hrest, ?_, contents_write hs ha hfit⟩
    simp only [write, hsize]
    exact toList_fill_twice hsize hwp data hlen
  · obtain ⟨hfirst, hrest, -⟩ := firstRun_spec hrp (Nat.le_trans hk hused)
    refine ⟨hfirst, hrest, ?_, read_fst hs ha hk, contents_read hs ha hk⟩
    simp only [read, hsize]
    exact peek_twice hsize hrp (Nat.le_trans hk hused)

/-- After six bytes went through a ring of eight cells, five more are written as two copies:
two into the last cells and three into the first. -/
theorem five_bytes_written_round_the_end :
    spec.Reachable (create 8) (((create 8).write [1, 2, 3, 4, 5, 6]).read 6).2 ∧
      (((create 8).write [1, 2, 3, 4, 5, 6]).read 6).2.active = true ∧
      ((((create 8).write [1, 2, 3, 4, 5, 6]).read 6).2.write [7, 8, 9, 10, 11]).storage.toList =
        overwrite (overwrite (((create 8).write [1, 2, 3, 4, 5, 6]).read 6).2.storage.toList 6
          [7, 8]) 0 [9, 10, 11] := by
  have h₁ : spec.Reachable (create 8) ((create 8).write [1, 2, 3, 4, 5, 6]) :=
    .turn (c := .put [1, 2, 3, 4, 5, 6] false) .init rfl
  have h₂ : spec.Reachable (create 8) (((create 8).write [1, 2, 3, 4, 5, 6]).read 6).2 :=
    .turn (c := .get 6 false) h₁ rfl
  exact ⟨h₂, rfl, ((transfers_wrap_within_cells h₂ rfl).2.1 [7, 8, 9, 10, 11] (by decide)).2.2.1⟩

end Talkback.Buffer.Ring
