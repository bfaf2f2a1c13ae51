import Talkback.Buffer.Ring
import Talkback.Proofs.Circular
import Talkback.Proofs.Monitor

/-!
The ring is a bounded first-in first-out queue of bytes.

`contents` reads the unread bytes out of the cells, going round the end of the array. Between
turns a ring keeps its shape (`Sound`): while it runs, its array has `capacity` cells, reading
starts inside it and writing starts right after the unread bytes; once shut, it has neither
cells nor bytes. In that shape a write appends its bytes to `contents`, a read of `k` bytes
gives the first `k` of them and leaves the rest, and closing empties it. So every turn, at
every state that some interleaving of turns reaches from `create n`, is a step of a queue of
at most `max 1 n` bytes with a shutdown latch.
-/

namespace Talkback.Buffer.Ring

open Talkback.Circular

/-! ### Cells going round the end -/

section Cells

variable {s : Array UInt8} {cap : Nat}

@[simp] lemma length_peek (s : Array UInt8) (cap p n : Nat) : (peek s cap p n).length = n := by
  induction n generalizing p with
  | zero => rfl
  | succ n ih => simp [peek, ih]

/-- Reading `m + k` cells reads `m`, then `k` more from where those end. -/
lemma peek_add (hcap : 0 < cap) {p : Nat} (hp : p < cap) (m k : Nat) :
    peek s cap p (m + k) = peek s cap p m ++ peek s cap ((p + m) % cap) k := by
  induction m generalizing p with
  | zero => simp [peek, Nat.mod_eq_of_lt hp]
  | succ m ih =>
    rw [show m + 1 + k = (m + k) + 1 by omega]
    simp only [peek, ih (Nat.mod_lt _ hcap), succ_mod_add_mod, List.cons_append]

/-- Reading depends on the cells read and on no others. -/
lemma peek_congr {t : Array UInt8} (hcap : 0 < cap) {p : Nat} (hp : p < cap) (n : Nat)
    (h : ∀ i < n, s.getD ((p + i) % cap) 0 = t.getD ((p + i) % cap) 0) :
    peek s cap p n = peek t cap p n := by
  induction n generalizing p with
  | zero => rfl
  | succ n ih =>
    have h0 := h 0 (by omega)
    rw [Nat.add_zero, Nat.mod_eq_of_lt hp] at h0
    simp only [peek, h0, List.cons.injEq, true_and]
    refine ih (Nat.mod_lt _ hcap) fun i hi => ?_
    rw [succ_mod_add_mod]
    exact h (i + 1) (by omega)

@[simp] lemma size_fill (p : Nat) (data : List UInt8) : (fill cap s p data).size = s.size := by
  induction data generalizing s p with
  | nil => rfl
  | cons b bs ih => simp [fill, ih]

/-- Writing leaves every cell it does not reach. -/
lemma getD_fill_of_ne (hcap : 0 < cap) {p j : Nat} (hp : p < cap) (data : List UInt8)
    (hj : ∀ i < data.length, (p + i) % cap ≠ j) : (fill cap s p data).getD j 0 = s.getD j 0 := by
  induction data generalizing s p with
  | nil => rfl
  | cons b bs ih =>
    have hpj : p ≠ j := by simpa [Nat.mod_eq_of_lt hp] using hj 0 (by simp)
    simp only [fill]
    rw [ih (Nat.mod_lt _ hcap) fun i hi => ?_]
    · simp [hpj]
    · rw [succ_mod_add_mod]
      exact hj (i + 1) (by simp; omega)

/-- Reading from where a write began gives back what was written, if it fits in a turn. -/
lemma peek_fill (hcap : 0 < cap) (hs : s.size = cap) {p : Nat} (hp : p < cap)
    (data : List UInt8) (hlen : data.length ≤ cap) :
    peek (fill cap s p data) cap p data.length = data := by
  induction data generalizing s p with
  | nil => rfl
  | cons b bs ih =>
    simp only [List.length_cons] at hlen
    simp only [fill, List.length_cons, peek]
    rw [ih (by simp [hs]) (Nat.mod_lt _ hcap) (by omega)]
    -- the rest of the write goes round less than a turn, so it never comes back to `p`
    rw [getD_fill_of_ne hcap (Nat.mod_lt _ hcap) bs fun i hi => ?_]
    · simp [hs, hp]
    · rw [succ_mod_add_mod]
      have : (p + 0) % cap ≠ (p + (i + 1)) % cap := mod_ne_of_lt (by omega) (by omega)
      rwa [Nat.add_zero, Nat.mod_eq_of_lt hp, ne_comm] at this

end Cells

/-! ### The shape of a ring -/

/-- The shape a ring keeps between turns. -/
structure Sound (r : Ring) : Prop where
  cap_pos : 0 < r.capacity
  used_le : r.used ≤ r.storage.size
  size_eq : r.active = true → r.storage.size = r.capacity
  read_lt : r.active = true → r.readPos < r.capacity
  write_eq : r.active = true → r.writePos = (r.readPos + r.used) % r.capacity
  shut : r.active = false → r.storage.size = 0

variable {r : Ring}

@[simp] lemma length_contents (r : Ring) : r.contents.length = r.used := length_peek ..

lemma sound_create (n : Nat) : Sound (create n) where
  cap_pos := by simp only [create]; omega
  used_le := by simp [create]
  size_eq _ := by simp [create]
  read_lt _ := by simp only [create]; omega
  write_eq _ := by simp [create]
  shut h := by simp [create] at h

/-- A write of bytes that fit in the free cells appends them. -/
lemma contents_write (h : Sound r) (ha : r.active = true) {data : List UInt8}
    (hfit : data.length ≤ r.free) : (r.write data).contents = r.contents ++ data := by
  have hcap := h.cap_pos
  have hsize := h.size_eq ha
  have hrp := h.read_lt ha
  have hwp : r.writePos < r.capacity := h.write_eq ha ▸ Nat.mod_lt _ hcap
  unfold free at hfit
  simp only [contents, write, size_fill, hsize]
  rw [peek_add hcap hrp, ← h.write_eq ha]
  congr 1
  · -- the unread bytes lie outside the cells written
    refine peek_congr hcap hrp _ fun i hi => getD_fill_of_ne hcap hwp data fun k hk => ?_
    rw [h.write_eq ha, Nat.mod_add_mod, Nat.add_assoc]
    exact (mod_ne_of_lt (by omega) (by omega)).symm
  · exact peek_fill hcap hsize hwp data (by omega)

lemma sound_write (h : Sound r) (ha : r.active = true) {data : List UInt8}
    (hfit : data.length ≤ r.free) : Sound (r.write data) where
  cap_pos := h.cap_pos
  used_le := by have := h.used_le; unfold free at hfit; simp [write]; omega
  size_eq _ := by simp [write, h.size_eq ha]
  read_lt _ := h.read_lt ha
  write_eq _ := by
    simp only [write, h.size_eq ha, h.write_eq ha, Nat.mod_add_mod, Nat.add_assoc]
  shut h' := by simp [write, ha] at h'

/-- A read of `k ≤ used` bytes splits the unread bytes after the first `k`. -/
lemma contents_split (h : Sound r) (ha : r.active = true) {k : Nat} (hk : k ≤ r.used) :
    r.contents = (r.read k).1 ++ (r.read k).2.contents := by
  have hcap := h.cap_pos
  simp only [contents, read, h.size_eq ha]
  rw [← peek_add hcap (h.read_lt ha), Nat.add_sub_cancel' hk]

lemma read_fst (h : Sound r) (ha : r.active = true) {k : Nat} (hk : k ≤ r.used) :
    (r.read k).1 = r.contents.take k := by
  rw [contents_split h ha hk, List.take_left' (by simp [read])]

lemma contents_read (h : Sound r) (ha : r.active = true) {k : Nat} (hk : k ≤ r.used) :
    (r.read k).2.contents = r.contents.drop k := by
  rw [contents_split h ha hk, List.drop_left' (by simp [read])]

lemma sound_read (h : Sound r) (ha : r.active = true) {k : Nat} (hk : k ≤ r.used) :
    Sound (r.read k).2 where
  cap_pos := h.cap_pos
  used_le := by have := h.used_le; simp [read]; omega
  size_eq _ := by simp [read, h.size_eq ha]
  read_lt _ := by simpa [read, h.size_eq ha] using Nat.mod_lt _ h.cap_pos
  write_eq _ := by
    simp only [read, h.size_eq ha, h.write_eq ha, Nat.mod_add_mod, Nat.add_assoc,
      Nat.add_sub_cancel' hk]
  shut h' := by simp [read, ha] at h'

@[simp] lemma contents_close (r : Ring) : r.close.contents = [] := by
  simp [contents, close, peek]

lemma sound_close (h : Sound r) : Sound r.close where
  cap_pos := h.cap_pos
  used_le := by simp [close]
  size_eq h' := by simp [close] at h'
  read_lt h' := by simp [close] at h'
  write_eq h' := by simp [close] at h'
  shut _ := by simp [close]

/-- A ring never holds more bytes than it has cells. -/
lemma used_le_capacity (h : Sound r) : r.used ≤ r.capacity := by
  have := h.used_le
  cases ha : r.active
  · rw [h.shut ha] at this; omega
  · rwa [h.size_eq ha] at this

/-- A shut ring holds nothing. -/
lemma contents_of_shut (h : Sound r) (ha : r.active = false) : r.contents = [] := by
  have := h.used_le
  rw [h.shut ha] at this
  rw [← List.length_eq_zero_iff, length_contents]
  omega

/-! ### What a turn can do -/

/-- The number of bytes a call moves, which the capacity must allow. -/
def Call.demand : Call → Nat
  | .put data _ => data.length
  | .get n _ => n
  | .tryGet n => n
  | _ => 0

/-- Whether a call moves bytes: the puts and the gets. -/
def Call.transfers : Call → Bool
  | .put .. | .get .. | .tryGet _ => true
  | _ => false

/-- A call that could never fit is refused at once, in any state. -/
lemma turn_of_capacity_lt {call : Call} (hc : r.capacity < call.demand) :
    turn call r = .finish (.error (.chunkTooLarge call.demand r.capacity)) r [] := by
  cases call <;> simp_all [turn, check, Call.demand]

/-- A shut ring answers a call that fits at once, and stays as it is. -/
lemma turn_of_shut (ha : r.active = false) {call : Call} (hc : call.demand ≤ r.capacity) :
    turn call r = .finish (if call.transfers then .error .ringClosed else .ok .done) r [] := by
  cases call <;> simp only [Call.demand] at hc <;>
    simp [turn, check, Call.transfers, ha, Nat.not_lt.2 hc]

@[simp] lemma spec_turn (call : Call) (r : Ring) : spec.turn call r = turn call r := rfl

variable {res : Except Error Reply} {r' : Ring} {sig : List (Monitor.Signal Condition)}

lemma turn_put {data : List UInt8} {timed : Bool}
    (h : turn (.put data timed) r = .finish res r' sig) :
    (r' = r ∧ ∃ e, res = .error e) ∨
      (r.active = true ∧ data.length ≤ r.free ∧ r' = r.write data ∧
        res = .ok (if timed then .accepted true else .done)) := by
  by_cases hc : r.capacity < data.length
  · rw [turn_of_capacity_lt (show r.capacity < Call.demand (.put data timed) from hc)] at h
    cases h; exact .inl ⟨rfl, _, rfl⟩
  cases ha : r.active
  · rw [turn_of_shut ha (show Call.demand (.put data timed) ≤ r.capacity by simpa [Call.demand] using hc)] at h
    cases h; exact .inl ⟨rfl, _, rfl⟩
  by_cases hf : data.length ≤ r.free
  · simp [turn, check, hc, ha, hf] at h
    obtain ⟨rfl, rfl, -⟩ := h
    exact .inr ⟨rfl, hf, rfl, rfl⟩
  · simp [turn, check, hc, ha, hf] at h

lemma turn_get {k : Nat} {timed : Bool} (h : turn (.get k timed) r = .finish res r' sig) :
    (r' = r ∧ ∃ e, res = .error e) ∨
      (r.active = true ∧ k ≤ r.used ∧ r' = (r.read k).2 ∧
        res = .ok (if timed then .filled true (r.read k).1 else .taken (r.read k).1)) := by
  by_cases hc : r.capacity < k
  · rw [turn_of_capacity_lt (show r.capacity < Call.demand (.get k timed) from hc)] at h
    cases h; exact .inl ⟨rfl, _, rfl⟩
  cases ha : r.active
  · rw [turn_of_shut ha (show Call.demand (.get k timed) ≤ r.capacity by simpa [Call.demand] using hc)] at h
    cases h; exact .inl ⟨rfl, _, rfl⟩
  by_cases hk : k ≤ r.used
  · simp [turn, check, hc, ha, hk] at h
    obtain ⟨rfl, rfl, -⟩ := h
    exact .inr ⟨rfl, hk, rfl, by cases timed <;> rfl⟩
  · simp [turn, check, hc, ha, hk] at h

lemma turn_tryGet {k : Nat} (h : turn (.tryGet k) r = .finish res r' sig) :
    (r' = r ∧ ∃ e, res = .error e) ∨
      (r.active = true ∧ k ≤ r.used ∧ r' = (r.read k).2 ∧ res = .ok (.filled true (r.read k).1)) ∨
      (r.active = true ∧ r.used < k ∧ r' = r ∧ res = .ok (.filled false (List.replicate k 0))) := by
  by_cases hc : r.capacity < k
  · rw [turn_of_capacity_lt (show r.capacity < Call.demand (.tryGet k) from hc)] at h
    cases h; exact .inl ⟨rfl, _, rfl⟩
  cases ha : r.active
  · rw [turn_of_shut ha (show Call.demand (.tryGet k) ≤ r.capacity by simpa [Call.demand] using hc)] at h
    cases h; exact .inl ⟨rfl, _, rfl⟩
  by_cases hk : k ≤ r.used
  · simp [turn, check, hc, ha, hk] at h
    obtain ⟨rfl, rfl, -⟩ := h
    exact .inr (.inl ⟨rfl, hk, rfl, rfl⟩)
  · simp [turn, check, hc, ha, hk] at h
    obtain ⟨rfl, rfl, -⟩ := h
    exact .inr (.inr ⟨rfl, by omega, rfl, rfl⟩)

lemma turn_shutdown (h : turn .shutdown r = .finish res r' sig) :
    res = .ok .done ∧ r' = if r.active then r.close else r := by
  cases ha : r.active <;> simp [turn, ha] at h <;> simp [h.1, h.2.1]

lemma turn_inspect (h : turn .inspect r = .finish res r' sig) : res = .ok .done ∧ r' = r := by
  simp [turn] at h
  exact ⟨h.1.symm, h.2.1.symm⟩

/-- Every turn keeps the shape of a ring. -/
lemma sound_turn (hr : Sound r) {call : Call} (h : turn call r = .finish res r' sig) :
    Sound r' := by
  cases call with
  | put data timed =>
    rcases turn_put h with ⟨rfl, -⟩ | ⟨ha, hf, rfl, -⟩
    · exact hr
    · exact sound_write hr ha hf
  | get k timed =>
    rcases turn_get h with ⟨rfl, -⟩ | ⟨ha, hk, rfl, -⟩
    · exact hr
    · exact sound_read hr ha hk
  | tryGet k =>
    rcases turn_tryGet h with ⟨rfl, -⟩ | ⟨ha, hk, rfl, -⟩ | ⟨-, -, rfl, -⟩
    · exact hr
    · exact sound_read hr ha hk
    · exact hr
  | shutdown =>
    obtain ⟨-, rfl⟩ := turn_shutdown h
    split
    · exact sound_close hr
    · exact hr
  | inspect => obtain ⟨-, rfl⟩ := turn_inspect h; exact hr

/-- No turn changes the capacity. -/
lemma capacity_turn {call : Call} (h : turn call r = .finish res r' sig) :
    r'.capacity = r.capacity := by
  cases call with
  | put data timed => rcases turn_put h with ⟨rfl, -⟩ | ⟨-, -, rfl, -⟩ <;> rfl
  | get k timed => rcases turn_get h with ⟨rfl, -⟩ | ⟨-, -, rfl, -⟩ <;> rfl
  | tryGet k => rcases turn_tryGet h with ⟨rfl, -⟩ | ⟨-, -, rfl, -⟩ | ⟨-, -, rfl, -⟩ <;> rfl
  | shutdown => obtain ⟨-, rfl⟩ := turn_shutdown h; split <;> rfl
  | inspect => obtain ⟨-, rfl⟩ := turn_inspect h; rfl

/-- Every state some interleaving of turns reaches from `create n` has the shape of a ring of
`max 1 n` cells. -/
lemma sound_of_reachable {n : Nat} (hr : spec.Reachable (create n) r) :
    Sound r ∧ r.capacity = max 1 n := by
  induction hr with
  | init => exact ⟨sound_create n, rfl⟩
  | turn _ hturn ih => exact ⟨sound_turn ih.1 hturn, (capacity_turn hturn).trans ih.2⟩

/-! ### The queue law -/

/-- **The ring is a bounded queue of bytes.** At every state that some interleaving of turns
reaches from `create n`, with `max 1 n` cells: the ring holds at most that many bytes and
reports their number; a call asking for more than that is refused and changes nothing; a put
that succeeds appends its whole chunk, and a get that succeeds hands over the oldest bytes in
order and removes them; a try that finds too few leaves the ring and the caller's zeroed buffer
alone, and a timed call that runs out of time says so, with the buffer untouched; shutting
empties the ring, and after that every call that fits is answered at once, a transfer with
`ringClosed`, and changes nothing. -/
theorem byte_fifo_of_reachable {n : Nat} {r : Ring} (hr : spec.Reachable (create n) r) :
    (r.capacity = max 1 n ∧ r.contents.length ≤ max 1 n ∧ r.used = r.contents.length) ∧
    (∀ call : Call, max 1 n < call.demand →
      turn call r = .finish (.error (.chunkTooLarge call.demand (max 1 n))) r []) ∧
    (∀ data timed res r' sig, turn (.put data timed) r = .finish (.ok res) r' sig →
      r.active = true ∧ r'.active = true ∧ r'.contents = r.contents ++ data ∧
        res = if timed then .accepted true else .done) ∧
    (∀ k timed res r' sig, turn (.get k timed) r = .finish (.ok res) r' sig →
      r.active = true ∧ r'.active = true ∧ k ≤ r.contents.length ∧
        r'.contents = r.contents.drop k ∧
        res = if timed then .filled true (r.contents.take k) else .taken (r.contents.take k)) ∧
    (∀ k res r' sig, turn (.tryGet k) r = .finish (.ok res) r' sig → r.active = true ∧
      ((k ≤ r.contents.length ∧ r'.active = true ∧ r'.contents = r.contents.drop k ∧
          res = .filled true (r.contents.take k)) ∨
        (r.contents.length < k ∧ r' = r ∧ res = .filled false (List.replicate k 0)))) ∧
    (∀ data timed, lapse (.put data timed) = .ok (.accepted false)) ∧
    (∀ k timed, lapse (.get k timed) = .ok (.filled false (List.replicate k 0))) ∧
    (∀ res r' sig, turn .shutdown r = .finish res r' sig →
      res = .ok .done ∧ r'.active = false ∧ r'.contents = []) ∧
    (r.active = false → r.contents = [] ∧
      (∀ call : Call, call.demand ≤ max 1 n →
        turn call r = .finish (if call.transfers then .error .ringClosed else .ok .done) r []) ∧
      ∀ (call : Call) reply, spec.Answers r call reply → call.demand ≤ max 1 n →
        reply = if call.transfers then .error .ringClosed else .ok .done) := by
  obtain ⟨hs, hcap⟩ := sound_of_reachable hr
  refine ⟨⟨hcap, ?_, (length_contents r).symm⟩, fun call hc => ?_, ?_, ?_, ?_, fun _ _ => rfl,
    fun _ _ => rfl, ?_, fun ha => ⟨contents_of_shut hs ha, fun call hc => ?_, ?_⟩⟩
  · rw [length_contents, ← hcap]
    exact used_le_capacity hs
  · rw [← hcap] at hc ⊢
    exact turn_of_capacity_lt hc
  · intro data timed res r' sig h
    rcases turn_put h with ⟨-, e, he⟩ | ⟨ha, hf, rfl, hres⟩
    · cases he
    · exact ⟨ha, ha, contents_write hs ha hf, Except.ok.inj hres⟩
  · intro k timed res r' sig h
    rcases turn_get h with ⟨-, e, he⟩ | ⟨ha, hk, rfl, hres⟩
    · cases he
    · rw [read_fst hs ha hk] at hres
      exact ⟨ha, ha, by simpa using hk, contents_read hs ha hk, Except.ok.inj hres⟩
  · intro k res r' sig h
    rcases turn_tryGet h with ⟨-, e, he⟩ | ⟨ha, hk, rfl, hres⟩ | ⟨ha, hk, rfl, hres⟩
    · cases he
    · rw [read_fst hs ha hk] at hres
      exact ⟨ha, .inl ⟨by simpa using hk, ha, contents_read hs ha hk, Except.ok.inj hres⟩⟩
    · exact ⟨ha, .inr ⟨by simpa using hk, rfl, Except.ok.inj hres⟩⟩
  · intro res r' sig h
    obtain ⟨hres, rfl⟩ := turn_shutdown h
    cases ha : r.active
    · simp only [ha, Bool.false_eq_true, if_false]
      exact ⟨hres, trivial, contents_of_shut hs ha⟩
    · simp only [if_true]
      exact ⟨hres, rfl, contents_close r⟩
  · rw [← hcap] at hc
    exact turn_of_shut ha hc
  · -- a caller that waited, woken or timed out, takes its turn at the shut ring itself
    rintro call reply ⟨u, hu, hturn⟩ hc
    rw [← hcap] at hc
    have hstable : ∀ c res s' sig, turn c r = .finish res s' sig → s' = r := by
      intro c res s' sig h
      by_cases hc' : c.demand ≤ r.capacity
      · rw [turn_of_shut ha hc'] at h; cases h; rfl
      · rw [turn_of_capacity_lt (Nat.lt_of_not_le hc')] at h; cases h; rfl
    obtain rfl := Monitor.Spec.Reachable.eq_of_stable hstable hu
    rcases hturn with ⟨u', sig, h⟩ | ⟨k, h, -⟩
    · rw [spec_turn, turn_of_shut ha hc] at h; cases h; rfl
    · rw [spec_turn, turn_of_shut ha hc] at h; cases h

/-- A ring of eight cells that took six bytes, handed them over and took five more, which go
round the end of its cells, is reached by turns and holds no more than it can. -/
theorem wrapped_ring_within_capacity :
    spec.Reachable (create 8)
        ((((create 8).write [1, 2, 3, 4, 5, 6]).read 6).2.write [7, 8, 9, 10, 11]) ∧
      ((((create 8).write [1, 2, 3, 4, 5, 6]).read 6).2.write [7, 8, 9, 10, 11]).contents.length ≤
        max 1 8 := by
  have h₁ : spec.Reachable (create 8) ((create 8).write [1, 2, 3, 4, 5, 6]) :=
    .turn (c := .put [1, 2, 3, 4, 5, 6] false) .init rfl
  have h₂ : spec.Reachable (create 8) (((create 8).write [1, 2, 3, 4, 5, 6]).read 6).2 :=
    .turn (c := .get 6 false) h₁ rfl
  have h₃ : spec.Reachable (create 8)
      ((((create 8).write [1, 2, 3, 4, 5, 6]).read 6).2.write [7, 8, 9, 10, 11]) :=
    .turn (c := .put [7, 8, 9, 10, 11] false) h₂ rfl
  exact ⟨h₃, (byte_fifo_of_reachable h₃).1.2.1⟩

end Talkback.Buffer.Ring
