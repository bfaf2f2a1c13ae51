import Talkback.Proofs.Queue

/-!
Which slots of the outbound queue hold a message.

A queue in shape (`Sound`) has a message in each waiting slot; a tidy queue (`Tidy`) also has
nothing in the others, the free slots from `tail` round to `head`. Putting fills the slot at
`tail` and no other, popping empties the slot at `head`, and closing empties them all, so every
turn keeps a queue tidy, and so does every interleaving of turns from `create n`. There the slots
that hold a message are exactly those on the arc from `head` up to `tail`, going round the end
when `tail` comes first (`Circular.inArc`): a push writes only into an empty slot, and popping a
queue that is not empty always hands over a message.
-/

namespace Talkback.Circular

variable {n : Nat}

/-- Whether cell `i` lies on the arc from cell `a` up to, not including, cell `b`, going round
the end when `b` comes before `a`. -/
def inArc (a b i : Nat) : Bool := if a ≤ b then a ≤ i && i < b else a ≤ i || i < b

/-- Two offsets less than a turn name the same cell only if they are equal. -/
lemma mod_ne_of_ne {x a b : Nat} (ha : a < n) (hb : b < n) (hab : a ≠ b) :
    (x + a) % n ≠ (x + b) % n := by
  rcases Nat.lt_or_gt_of_ne hab with h | h
  · exact mod_ne_of_lt h (by omega)
  · exact fun he => mod_ne_of_lt h (by omega) he.symm

/-- Cell `i` is `(i + n - a) % n` places on from cell `a`. -/
lemma add_offset_mod {a i : Nat} (ha : a < n) (hi : i < n) : (a + (i + n - a) % n) % n = i := by
  rw [Nat.add_mod_mod, show a + (i + n - a) = i + n by omega, Nat.add_mod_right,
    Nat.mod_eq_of_lt hi]

/-- The cells on the arc from `a` to the cell `len` places on are those fewer than `len` places
on from `a`. -/
lemma inArc_iff {a i len : Nat} (ha : a < n) (hi : i < n) (hl : len < n) :
    inArc a ((a + len) % n) i = true ↔ (i + n - a) % n < len := by
  -- the offset of `i` from `a`: no turn round the end when `a ≤ i`, one otherwise
  have hoff : (i + n - a) % n = if a ≤ i then i - a else i + n - a := by
    split
    · rw [show i + n - a = (i - a) + n by omega, Nat.add_mod_right, Nat.mod_eq_of_lt (by omega)]
    · exact Nat.mod_eq_of_lt (by omega)
  rw [hoff]
  by_cases hwrap : a + len < n
  · rw [Nat.mod_eq_of_lt hwrap]
    simp only [inArc, if_pos (Nat.le_add_right a len)]
    split <;> simp <;> omega
  · -- the arc goes round the end and stops before `a`
    have hb : (a + len) % n = a + len - n := by
      rw [Nat.mod_eq_sub_mod (by omega), Nat.mod_eq_of_lt (by omega)]
    rw [hb]
    simp only [inArc, if_neg (show ¬ a ≤ a + len - n by omega)]
    split <;> simp <;> omega

end Talkback.Circular

namespace Talkback.Dispatch.Queue

open Talkback.Circular

/-- A queue in shape whose free slots, from `tail` round to `head`, hold nothing. -/
structure Tidy (q : Queue) : Prop extends Sound q where
  vacant : ∀ k, q.size ≤ k → k < q.slots.size → q.slot k = none

variable {q q' : Queue} {m : Message}

/-- In a tidy queue the slot `k` places on from `head` holds a message exactly when it waits. -/
lemma Tidy.slot_isSome_iff (h : Tidy q) {k : Nat} (hk : k < q.slots.size) :
    (q.slot k).isSome ↔ k < q.size := by
  refine ⟨fun hs => ?_, h.full k⟩
  by_contra hle
  rw [h.vacant k (by omega) hk] at hs
  exact Bool.false_ne_true hs

/-- Cell `i` of the array is the slot `(i + N - head) % N` places on from `head`. -/
lemma getD_eq_slot (h : Sound q) {i : Nat} (hi : i < q.slots.size) :
    q.slots.getD i none = q.slot ((i + q.slots.size - q.head) % q.slots.size) := by
  rw [slot, add_offset_mod h.head_lt hi]

/-- In a tidy queue the cells that hold a message are those on the arc from `head` to `tail`. -/
lemma Tidy.getD_isSome (h : Tidy q) {i : Nat} (hi : i < q.slots.size) :
    (q.slots.getD i none).isSome = inArc q.head q.tail i := by
  have hoff : (i + q.slots.size - q.head) % q.slots.size < q.slots.size := Nat.mod_lt _ (by omega)
  rw [getD_eq_slot h.toSound hi, Bool.eq_iff_iff, h.slot_isSome_iff hoff, tail_eq h.toSound,
    inArc_iff h.head_lt hi (size_lt h.toSound)]

/-! ### Putting, popping and closing, slot by slot -/

/-- Putting fills the slot at `tail` and leaves every other. -/
lemma slot_put_of_lt (h : Sound q) {k : Nat} (hk : k < q.slots.size) :
    (q.put m).slot k = if k = q.size then some m else q.slot k := by
  simp only [slot, put, Array.size_setIfInBounds, Array.getD_eq_getD_getElem?]
  split
  · subst k
    rw [← tail_eq h, Array.getElem?_setIfInBounds_self_of_lt h.tail_lt]
    rfl
  · next hne =>
    rw [tail_eq h, Array.getElem?_setIfInBounds_ne (mod_ne_of_ne (size_lt h) hk (Ne.symm hne))]

/-- Popping empties the slot at `head`, which is then the last slot counted from the new
`head`; the others move one place towards it. -/
lemma slot_pop_of_lt (h : Sound q) (hne : q.isEmpty = false) {k : Nat} (hk : k < q.slots.size) :
    (q.pop).2.slot k = if k + 1 = q.slots.size then none else q.slot (k + 1) := by
  rw [pop_of_isEmpty_false h hne]
  simp only [slot, Array.size_setIfInBounds, Array.getD_eq_getD_getElem?]
  rw [succ_mod_add_mod]
  split
  · -- a whole turn on from the old `head` is `head` itself, the slot just emptied
    next hlast =>
    rw [hlast, Nat.add_mod_right, Nat.mod_eq_of_lt h.head_lt,
      Array.getElem?_setIfInBounds_self_of_lt h.head_lt]
    rfl
  · next hlast =>
    have hne' : (q.head + 0) % q.slots.size ≠ (q.head + (k + 1)) % q.slots.size :=
      mod_ne_of_lt (by omega) (by omega)
    rw [Nat.add_zero, Nat.mod_eq_of_lt h.head_lt] at hne'
    rw [Array.getElem?_setIfInBounds_ne hne']

@[simp] lemma slot_close (q : Queue) (k : Nat) : q.close.slot k = none := by
  simp only [slot, close, Array.getD_eq_getD_getElem?, Array.getElem?_map, Array.size_map,
    Nat.zero_add]
  cases q.slots[k % q.slots.size]? <;> rfl

lemma tidy_put (h : Tidy q) (ha : q.active = true) (hn : q.size < q.capacity) :
    Tidy (q.put m) where
  toSound := sound_put h.toSound ha hn
  vacant k hk hkN := by
    rw [size_put h.toSound hn] at hk
    have hkN' : k < q.slots.size := by simpa [put] using hkN
    rw [slot_put_of_lt h.toSound hkN', if_neg (by omega)]
    exact h.vacant k (by omega) hkN'

lemma tidy_pop (h : Tidy q) (ha : q.active = true) (hne : q.isEmpty = false) : Tidy (q.pop).2 where
  toSound := sound_pop h.toSound ha hne
  vacant k hk hkN := by
    rw [size_pop h.toSound hne] at hk
    have hkN' : k < q.slots.size := by simpa [pop_of_isEmpty_false h.toSound hne] using hkN
    rw [slot_pop_of_lt h.toSound hne hkN']
    split
    · rfl
    · exact h.vacant (k + 1) (by omega) (by omega)

lemma tidy_close (h : Tidy q) : Tidy q.close where
  toSound := sound_close h.toSound
  vacant k _ _ := slot_close q k

/-! ### Every turn keeps a queue tidy -/

variable {res : Except Error Reply} {sig : List (Monitor.Signal Condition)}

/-- What a finishing turn does to a queue: nothing, a put into a running queue with room, a pop
of a running queue that is not empty, or a close. -/
lemma turn_effect (hq : Sound q) {call : Call} (h : turn call q = .finish res q' sig) :
    q' = q ∨ (∃ m, q.active = true ∧ q.size < q.capacity ∧ q' = q.put m) ∨
      (q.active = true ∧ q.isEmpty = false ∧ q' = (q.pop).2) ∨ q' = q.close := by
  cases call with
  | push m =>
    rcases turn_push h with ⟨-, -, rfl⟩ | ⟨-, -, -, rfl⟩ | ⟨ha, hf, -, rfl⟩
    · exact .inl rfl
    · exact .inl rfl
    · exact .inr (.inl ⟨m, ha, size_lt_capacity hq hf, rfl⟩)
  | dequeue =>
    rcases turn_dequeue h with ⟨-, -, rfl⟩ | ⟨ha, he, -, rfl⟩
    · exact .inl rfl
    · exact .inr (.inr (.inl ⟨ha, he, rfl⟩))
  | await =>
    rcases turn_await h with ⟨-, -, rfl⟩ | ⟨ha, he, -, rfl⟩
    · exact .inl rfl
    · exact .inr (.inr (.inl ⟨ha, he, rfl⟩))
  | shutdown =>
    obtain ⟨-, rfl⟩ := turn_shutdown h
    split
    · exact .inr (.inr (.inr rfl))
    · exact .inl rfl
  | inspect => exact .inl (turn_inspect h).2

lemma tidy_turn (hq : Tidy q) {call : Call} (h : turn call q = .finish res q' sig) : Tidy q' := by
  rcases turn_effect hq.toSound h with rfl | ⟨m, ha, hn, rfl⟩ | ⟨ha, he, rfl⟩ | rfl
  · exact hq
  · exact tidy_put hq ha hn
  · exact tidy_pop hq ha he
  · exact tidy_close hq

/-- Every state some interleaving of turns reaches from `create n` is tidy. -/
lemma tidy_of_reachable {n : Nat} (hq : spec.Reachable (create n) q) : Tidy q := by
  induction hq with
  | init =>
    -- a new queue has every slot empty
    refine ⟨(sound_of_reachable .init).1, fun k _ _ => ?_⟩
    simp only [slot, create, Array.getD_eq_getD_getElem?, Array.getElem?_replicate]
    split <;> rfl
  | turn _ hturn ih => exact tidy_turn ih hturn

/-! ### Pushing and popping -/

/-- A push that goes in writes its message into the slot at `tail`, which was empty. -/
lemma push_into_empty_slot (h : Tidy q) (hpush : q.push m = .ok q') :
    q.slots.getD q.tail none = none ∧ q'.slots.getD q.tail none = some m := by
  obtain ⟨hf, rfl⟩ : q.isFull = false ∧ q' = q.put m := by
    cases ha : q.active <;> cases hf : q.isFull <;> simp [push, ha, hf] at hpush ⊢
    exact hpush.symm
  -- the free slot `size` places on from `head` is the one at `tail`
  have hfree := h.vacant q.size (Nat.le_refl _) (size_lt h.toSound)
  rw [slot, ← tail_eq h.toSound] at hfree
  refine ⟨hfree, ?_⟩
  simp [put, Array.getD_eq_getD_getElem?, Array.getElem?_setIfInBounds_self_of_lt h.tail_lt]

/-- Popping hands over a message exactly when the queue is not empty. -/
lemma pop_isSome (h : Sound q) : (q.pop).1.isSome = !q.isEmpty := by
  cases he : q.isEmpty with
  | true => simp [pop, he]
  | false =>
    obtain ⟨m, hm, -⟩ := pop_spec h he
    simp [hm]

/-- **The occupied slots of a queue.** At every state that some interleaving of turns reaches
from `create n`: the queue has `capacity + 1` slots for `max 1 n` messages; `head` and `tail`
point into them, and the number of messages waiting, `(tail + N - head) % N`, is at most the
capacity; a cell holds a message exactly when it lies on the arc from `head` up to `tail`; the
queue is full exactly when `capacity` messages wait and empty exactly when none do; a push that
goes in writes into an empty slot; and a pop hands over a message exactly when the queue is not
empty. -/
theorem slots_hold_the_arc {n : Nat} {q : Queue} (hq : spec.Reachable (create n) q) :
    q.slots.size = q.capacity + 1 ∧ q.capacity = max 1 n ∧
    q.head < q.slots.size ∧ q.tail < q.slots.size ∧
    (q.tail + q.slots.size - q.head) % q.slots.size ≤ q.capacity ∧
    (∀ i < q.slots.size, (q.slots.getD i none).isSome = inArc q.head q.tail i) ∧
    (q.isFull = true ↔ q.size = q.capacity) ∧ (q.isEmpty = true ↔ q.size = 0) ∧
    (∀ m q', q.push m = .ok q' →
      q.slots.getD q.tail none = none ∧ q'.slots.getD q.tail none = some m) ∧
    (q.pop).1.isSome = !q.isEmpty := by
  have ht := tidy_of_reachable hq
  have hs := ht.toSound
  exact ⟨hs.size_slots, (sound_of_reachable hq).2, hs.head_lt, hs.tail_lt, size_le_capacity hs,
    fun i hi => ht.getD_isSome hi, isFull_iff hs, isEmpty_iff hs,
    fun m q' hpush => push_into_empty_slot ht hpush, pop_isSome hs⟩

/-- Two texts put into a queue for two, the first taken out, then a third put in. -/
def wrappedQueue : Queue := (((create 2).put (.text "a")).put (.text "b")).pop.2.put (.text "c")

/-- In `wrappedQueue`, `tail` has gone round the end to cell 0, before `head` at cell 1, and the
cells that hold a message are those of the arc from cell 1 round to cell 0. -/
theorem wrapped_queue_holds_its_arc :
    spec.Reachable (create 2) wrappedQueue ∧ wrappedQueue.head = 1 ∧ wrappedQueue.tail = 0 ∧
      ∀ i < wrappedQueue.slots.size, (wrappedQueue.slots.getD i none).isSome = inArc 1 0 i := by
  have h₁ : spec.Reachable (create 2) ((create 2).put (.text "a")) :=
    .turn (c := .push (.text "a")) .init rfl
  have h₂ : spec.Reachable (create 2) (((create 2).put (.text "a")).put (.text "b")) :=
    .turn (c := .push (.text "b")) h₁ rfl
  have h₃ : spec.Reachable (create 2) (((create 2).put (.text "a")).put (.text "b")).pop.2 :=
    .turn (c := .dequeue) h₂ rfl
  have h₄ : spec.Reachable (create 2) wrappedQueue := .turn (c := .push (.text "c")) h₃ rfl
  exact ⟨h₄, rfl, rfl, (slots_hold_the_arc h₄).2.2.2.2.2.1⟩

end Talkback.Dispatch.Queue
