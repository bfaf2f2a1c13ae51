import Mathlib.Data.List.Basic
import Talkback.Dispatch.Queue
import Talkback.Proofs.Circular
import Talkback.Proofs.Monitor

/-!
The outbound queue is a bounded first-in first-out queue of messages.

The waiting messages sit in the `size` slots from `head` on, going round the end of the
`capacity + 1` slots, and `toList` reads them out in order. Between turns a queue keeps its
shape (`Sound`): it has `capacity + 1` slots, `head` and `tail` point into them, every waiting
slot holds a message, and a shut queue has none waiting. One slot always stays free, so the
queue is full exactly when `capacity` messages wait and empty exactly when none do. In that
shape `put` appends, `pop` takes the oldest and `close` empties; so every turn, at every state
that some interleaving of turns reaches from `create n`, is a step of a queue of at most
`max 1 n` messages with a shutdown latch.
-/

namespace Talkback.Dispatch.Queue

open Talkback.Circular

/-- What the slot `i` places on from `head` holds. -/
def slot (q : Queue) (i : Nat) : Option Message := q.slots.getD ((q.head + i) % q.slots.size) none

lemma toList_eq (q : Queue) : q.toList = (List.range q.size).filterMap q.slot := rfl

/-- The shape a queue keeps between turns. -/
structure Sound (q : Queue) : Prop where
  cap_pos : 0 < q.capacity
  size_slots : q.slots.size = q.capacity + 1
  head_lt : q.head < q.slots.size
  tail_lt : q.tail < q.slots.size
  full : ∀ i < q.size, (q.slot i).isSome
  shut : q.active = false → q.head = q.tail

variable {q : Queue}

lemma size_lt (h : Sound q) : q.size < q.slots.size :=
  Nat.mod_lt _ (Nat.lt_of_le_of_lt (Nat.zero_le _) h.head_lt)

lemma size_le_capacity (h : Sound q) : q.size ≤ q.capacity := by
  have := size_lt h
  rw [h.size_slots] at this
  omega

/-- `tail` is `size` slots on from `head`. -/
lemma tail_eq (h : Sound q) : q.tail = (q.head + q.size) % q.slots.size := by
  have hh := h.head_lt
  have ht := h.tail_lt
  unfold size
  by_cases hle : q.head ≤ q.tail
  · rw [show q.tail + q.slots.size - q.head = (q.tail - q.head) + q.slots.size by omega,
      Nat.add_mod_right, Nat.mod_eq_of_lt (show q.tail - q.head < q.slots.size by omega),
      show q.head + (q.tail - q.head) = q.tail by omega, Nat.mod_eq_of_lt ht]
  · rw [Nat.mod_eq_of_lt (show q.tail + q.slots.size - q.head < q.slots.size by omega),
      show q.head + (q.tail + q.slots.size - q.head) = q.tail + q.slots.size by omega,
      Nat.add_mod_right, Nat.mod_eq_of_lt ht]

/-- A queue whose `tail` is `len` slots on from its `head` holds `len` messages. -/
lemma size_of_tail_eq {len : Nat} (hh : q.head < q.slots.size) (hl : len < q.slots.size)
    (ht : q.tail = (q.head + len) % q.slots.size) : q.size = len := by
  unfold size
  rw [ht, dist_add_mod hh hl]

/-- The free slot is the one after `tail`: the queue is full when it is `head`. -/
lemma isFull_iff (h : Sound q) : q.isFull = true ↔ q.size = q.capacity := by
  have hlt := size_lt h
  have hN := h.size_slots
  simp only [isFull, beq_iff_eq]
  rw [tail_eq h, Nat.mod_add_mod, Nat.add_assoc]
  constructor
  · intro hfull
    by_contra hne
    have := mod_ne_of_lt (x := q.head) (n := q.slots.size) (a := 0) (b := q.size + 1)
      (by omega) (by omega)
    rw [Nat.add_zero, Nat.mod_eq_of_lt h.head_lt] at this
    exact this hfull.symm
  · intro hsize
    rw [show q.size + 1 = q.slots.size by omega, Nat.add_mod_right, Nat.mod_eq_of_lt h.head_lt]

/-- A queue that is not full has room for one more. -/
lemma size_lt_capacity (h : Sound q) (hf : q.isFull = false) : q.size < q.capacity := by
  have := size_le_capacity h
  have : q.size ≠ q.capacity := fun he => by simp [(isFull_iff h).2 he] at hf
  omega

lemma isEmpty_iff (h : Sound q) : q.isEmpty = true ↔ q.size = 0 := by
  have hlt := size_lt h
  simp only [isEmpty, beq_iff_eq]
  rw [tail_eq h]
  constructor
  · intro hempty
    by_contra hne
    have := mod_ne_of_lt (x := q.head) (n := q.slots.size) (a := 0) (b := q.size)
      (by omega) (by omega)
    rw [Nat.add_zero, Nat.mod_eq_of_lt h.head_lt] at this
    exact this hempty
  · intro hsize
    rw [hsize, Nat.add_zero, Nat.mod_eq_of_lt h.head_lt]

/-- Every waiting slot holds a message, so the list has one per waiting slot. -/
lemma length_toList (h : Sound q) : q.toList.length = q.size := by
  have := List.filterMap_length_eq_length.2 fun i hi => h.full i (List.mem_range.1 hi)
  simpa [toList_eq] using this

/-! ### Putting, popping and closing -/

variable {m : Message}

lemma size_put (h : Sound q) (hn : q.size < q.capacity) : (q.put m).size = q.size + 1 := by
  have hN := h.size_slots
  refine size_of_tail_eq (by simpa [put] using h.head_lt) (by simp [put]; omega) ?_
  simp only [put, Array.size_setIfInBounds]
  rw [tail_eq h, Nat.mod_add_mod, Nat.add_assoc]

/-- Putting fills the free slot after the waiting ones and no other. -/
lemma slot_put (h : Sound q) (hn : q.size < q.capacity) {i : Nat} (hi : i ≤ q.size) :
    (q.put m).slot i = if i = q.size then some m else q.slot i := by
  have hN := h.size_slots
  have hlt := size_lt h
  simp only [slot, put, Array.size_setIfInBounds, Array.getD_eq_getD_getElem?]
  split
  · subst i
    rw [← tail_eq h, Array.getElem?_setIfInBounds_self_of_lt h.tail_lt]
    rfl
  · rw [tail_eq h, Array.getElem?_setIfInBounds_ne (mod_ne_of_lt (by omega) (by omega)).symm]

lemma toList_put (h : Sound q) (hn : q.size < q.capacity) :
    (q.put m).toList = q.toList ++ [m] := by
  rw [toList_eq, size_put h hn, List.range_succ, List.filterMap_append, toList_eq]
  congr 1
  · refine List.filterMap_congr fun i hi => ?_
    have hi := List.mem_range.1 hi
    rw [slot_put h hn (Nat.le_of_lt hi), if_neg (by omega)]
  · simp [slot_put h hn (Nat.le_refl _)]

lemma sound_put (h : Sound q) (ha : q.active = true) (hn : q.size < q.capacity) :
    Sound (q.put m) where
  cap_pos := h.cap_pos
  size_slots := by simp [put, h.size_slots]
  head_lt := by simpa [put] using h.head_lt
  tail_lt := by simpa [put] using Nat.mod_lt _ (Nat.lt_of_le_of_lt (Nat.zero_le _) h.head_lt)
  full i hi := by
    rw [size_put h hn] at hi
    rw [slot_put h hn (by omega)]
    split
    · rfl
    · exact h.full i (by omega)
  shut h' := by simp [put, ha] at h'

lemma pop_of_isEmpty_false (h : Sound q) (hne : q.isEmpty = false) :
    q.pop = (q.slot 0, { q with slots := q.slots.setIfInBounds q.head none,
                                head := (q.head + 1) % q.slots.size }) := by
  simp [pop, hne, slot, Nat.mod_eq_of_lt h.head_lt]

lemma size_pos (h : Sound q) (hne : q.isEmpty = false) : 0 < q.size := by
  have : q.size ≠ 0 := fun h0 => by simp [(isEmpty_iff h).2 h0] at hne
  omega

lemma size_pop (h : Sound q) (hne : q.isEmpty = false) : (q.pop).2.size = q.size - 1 := by
  have hs := size_pos h hne
  have hlt := size_lt h
  rw [pop_of_isEmpty_false h hne]
  refine size_of_tail_eq (by simpa using Nat.mod_lt _ (Nat.lt_of_le_of_lt (Nat.zero_le _) h.head_lt))
    (by simp; omega) ?_
  simp only [Array.size_setIfInBounds]
  rw [tail_eq h, Nat.mod_add_mod, show q.head + 1 + (q.size - 1) = q.head + q.size by omega]

/-- After popping, the slots from the new `head` are the old ones from the second on. -/
lemma slot_pop (h : Sound q) (hne : q.isEmpty = false) {i : Nat} (hi : i + 1 < q.size) :
    (q.pop).2.slot i = q.slot (i + 1) := by
  have hlt := size_lt h
  rw [pop_of_isEmpty_false h hne]
  simp only [slot, Array.size_setIfInBounds, Array.getD_eq_getD_getElem?]
  rw [succ_mod_add_mod]
  -- the cleared slot is `head`, which lies a whole turn from every later waiting slot
  have hne' : (q.head + 0) % q.slots.size ≠ (q.head + (i + 1)) % q.slots.size :=
    mod_ne_of_lt (by omega) (by omega)
  rw [Nat.add_zero, Nat.mod_eq_of_lt h.head_lt] at hne'
  rw [Array.getElem?_setIfInBounds_ne hne']

/-- Popping a queue that is not empty gives the oldest message and leaves the rest. -/
lemma pop_spec (h : Sound q) (hne : q.isEmpty = false) :
    ∃ m, (q.pop).1 = some m ∧ q.toList = m :: (q.pop).2.toList := by
  have hs := size_pos h hne
  obtain ⟨m, hm⟩ := Option.isSome_iff_exists.1 (h.full 0 hs)
  refine ⟨m, by rw [pop_of_isEmpty_false h hne]; exact hm, ?_⟩
  obtain ⟨k, hk⟩ : ∃ k, q.size = k + 1 := ⟨q.size - 1, by omega⟩
  rw [toList_eq, toList_eq, size_pop h hne, hk, Nat.add_sub_cancel, List.range_succ_eq_map,
    List.filterMap_cons_some hm, List.filterMap_map]
  congr 1
  refine List.filterMap_congr fun i hi => ?_
  rw [Function.comp_apply, slot_pop h hne (by have := List.mem_range.1 hi; omega)]

lemma sound_pop (h : Sound q) (ha : q.active = true) (hne : q.isEmpty = false) :
    Sound (q.pop).2 where
  cap_pos := by simpa [pop_of_isEmpty_false h hne] using h.cap_pos
  size_slots := by simpa [pop_of_isEmpty_false h hne] using h.size_slots
  head_lt := by
    simpa [pop_of_isEmpty_false h hne] using
      Nat.mod_lt _ (Nat.lt_of_le_of_lt (Nat.zero_le _) h.head_lt)
  tail_lt := by simpa [pop_of_isEmpty_false h hne] using h.tail_lt
  full i hi := by
    rw [size_pop h hne] at hi
    rw [slot_pop h hne (by omega)]
    exact h.full _ (by omega)
  shut h' := by simp [pop_of_isEmpty_false h hne, ha] at h'

@[simp] lemma toList_close (q : Queue) : q.close.toList = [] := by
  simp [toList, close, size]

lemma sound_close (h : Sound q) : Sound q.close where
  cap_pos := h.cap_pos
  size_slots := by simp [close, h.size_slots]
  head_lt := by simp [close, h.size_slots]
  tail_lt := by simp [close, h.size_slots]
  full i hi := by simp [close, size] at hi
  shut _ := rfl

/-- A shut queue holds nothing. -/
lemma toList_of_shut (h : Sound q) (ha : q.active = false) : q.toList = [] := by
  rw [← List.length_eq_zero_iff, length_toList h]
  simp [size, h.shut ha]

/-! ### What a turn can do -/

@[simp] lemma spec_turn (call : Call) (q : Queue) : spec.turn call q = turn call q := rfl

variable {res : Except Error Reply} {q' : Queue} {sig : List (Monitor.Signal Condition)}

/-- A producer never waits: a push is refused by a shut or full queue, or goes in. -/
lemma turn_push (h : turn (.push m) q = .finish res q' sig) :
    (q.active = false ∧ res = .error .queueClosed ∧ q' = q) ∨
      (q.active = true ∧ q.isFull = true ∧ res = .error (.queueFull q.capacity) ∧ q' = q) ∨
      (q.active = true ∧ q.isFull = false ∧ res = .ok .done ∧ q' = q.put m) := by
  cases ha : q.active <;> cases hf : q.isFull <;> simp [turn, push, ha, hf] at h ⊢ <;>
    exact ⟨h.1.symm, h.2.1.symm⟩

lemma turn_push_ne_wait (k : Condition) : turn (.push m) q ≠ .wait k := by
  simp only [turn]
  split <;> simp

lemma turn_dequeue (h : turn .dequeue q = .finish res q' sig) :
    ((q.active = false ∨ q.isEmpty = true) ∧ res = .ok (.taken none) ∧ q' = q) ∨
      (q.active = true ∧ q.isEmpty = false ∧ res = .ok (.taken (q.pop).1) ∧ q' = (q.pop).2) := by
  cases ha : q.active <;> cases he : q.isEmpty <;> simp [turn, dequeue, ha] at h ⊢
  · exact ⟨h.1.symm, h.2.1.symm⟩
  · exact ⟨h.1.symm, h.2.1.symm⟩
  · exact ⟨h.1.symm, h.2.1.symm⟩
  · simp [pop, he] at h
    exact ⟨h.1.symm, h.2.1.symm⟩

lemma turn_await (h : turn .await q = .finish res q' sig) :
    (q.active = false ∧ res = .error .queueClosed ∧ q' = q) ∨
      (q.active = true ∧ q.isEmpty = false ∧ res = .ok (.taken (q.pop).1) ∧ q' = (q.pop).2) := by
  cases ha : q.active <;> cases he : q.isEmpty <;> simp [turn, ha, he] at h ⊢
  · exact ⟨h.1.symm, h.2.1.symm⟩
  · exact ⟨h.1.symm, h.2.1.symm⟩
  · exact ⟨h.1.symm, h.2.1.symm⟩

/-- A consumer waits only on a running queue with nothing in it. -/
lemma turn_await_wait {k : Condition} (h : turn .await q = .wait k) :
    q.active = true ∧ q.isEmpty = true := by
  cases ha : q.active <;> cases he : q.isEmpty <;> simp [turn, ha, he] at h ⊢

lemma turn_shutdown (h : turn .shutdown q = .finish res q' sig) :
    res = .ok .done ∧ q' = if q.active then q.close else q := by
  cases ha : q.active <;> simp [turn, ha] at h <;> simp [h.1, h.2.1]

lemma turn_inspect (h : turn .inspect q = .finish res q' sig) : res = .ok .done ∧ q' = q := by
  simp [turn] at h
  exact ⟨h.1.symm, h.2.1.symm⟩

/-- Every turn keeps the shape of a queue. -/
lemma sound_turn (hq : Sound q) {call : Call} (h : turn call q = .finish res q' sig) :
    Sound q' := by
  cases call with
  | push m =>
    rcases turn_push h with ⟨-, -, rfl⟩ | ⟨-, -, -, rfl⟩ | ⟨ha, hf, -, rfl⟩
    · exact hq
    · exact hq
    · exact sound_put hq ha (size_lt_capacity hq hf)
  | dequeue =>
    rcases turn_dequeue h with ⟨-, -, rfl⟩ | ⟨ha, he, -, rfl⟩
    · exact hq
    · exact sound_pop hq ha he
  | await =>
    rcases turn_await h with ⟨-, -, rfl⟩ | ⟨ha, he, -, rfl⟩
    · exact hq
    · exact sound_pop hq ha he
  | shutdown =>
    obtain ⟨-, rfl⟩ := turn_shutdown h
    split
    · exact sound_close hq
    · exact hq
  | inspect => obtain ⟨-, rfl⟩ := turn_inspect h; exact hq

/-- No turn changes the capacity. -/
lemma capacity_turn (hq : Sound q) {call : Call} (h : turn call q = .finish res q' sig) :
    q'.capacity = q.capacity := by
  cases call with
  | push m => rcases turn_push h with ⟨-, -, rfl⟩ | ⟨-, -, -, rfl⟩ | ⟨-, -, -, rfl⟩ <;> rfl
  | dequeue =>
    rcases turn_dequeue h with ⟨-, -, rfl⟩ | ⟨-, he, -, rfl⟩
    · rfl
    · simp [pop_of_isEmpty_false hq he]
  | await =>
    rcases turn_await h with ⟨-, -, rfl⟩ | ⟨-, he, -, rfl⟩
    · rfl
    · simp [pop_of_isEmpty_false hq he]
  | shutdown => obtain ⟨-, rfl⟩ := turn_shutdown h; split <;> rfl
  | inspect => obtain ⟨-, rfl⟩ := turn_inspect h; rfl

/-- Every state some interleaving of turns reaches from `create n` has the shape of a queue
for `max 1 n` messages. -/
lemma sound_of_reachable {n : Nat} (hq : spec.Reachable (create n) q) :
    Sound q ∧ q.capacity = max 1 n := by
  induction hq with
  | init =>
    refine ⟨⟨by simp only [create]; omega, by simp [create], ?_, ?_, ?_, fun h => by simp [create] at h⟩,
      rfl⟩ <;> simp [create, size]
  | turn _ hturn ih => exact ⟨sound_turn ih.1 hturn, (capacity_turn ih.1 hturn).trans ih.2⟩

/-- A turn that takes the oldest message from a sound, running, non-empty queue: it hands
over the head of the list and leaves its tail. -/
lemma take_oldest (hq : Sound q) (ha : q.active = true) (he : q.isEmpty = false) :
    ∃ m rest, q.toList = m :: rest ∧ (q.pop).1 = some m ∧ (q.pop).2.active = true ∧
      (q.pop).2.toList = rest := by
  obtain ⟨m, hm, hl⟩ := pop_spec hq he
  exact ⟨m, _, hl, hm, by simp [pop_of_isEmpty_false hq he, ha], rfl⟩

lemma isEmpty_iff_toList (hq : Sound q) : q.isEmpty = true ↔ q.toList = [] := by
  rw [isEmpty_iff hq, ← List.length_eq_zero_iff, length_toList hq]

/-- A shut queue stays as it is under every turn. -/
lemma turn_of_shut (ha : q.active = false) {call : Call} (h : turn call q = .finish res q' sig) :
    q' = q := by
  cases call with
  | push m => rcases turn_push h with ⟨-, -, rfl⟩ | ⟨ha', -⟩ | ⟨ha', -⟩ <;> simp_all
  | dequeue => rcases turn_dequeue h with ⟨-, -, rfl⟩ | ⟨ha', -⟩ <;> simp_all
  | await => rcases turn_await h with ⟨-, -, rfl⟩ | ⟨ha', -⟩ <;> simp_all
  | shutdown => obtain ⟨-, rfl⟩ := turn_shutdown h; simp [ha]
  | inspect => exact (turn_inspect h).2

/-! ### Messages through the queue

Outside a monitor the queue is driven by its plain operations. `Flow` follows a queue together
with the list of messages its consumer has sent on: producers push (a refused push changes
nothing) and shut the queue, and the consumer sends what it dequeues. Whatever the
interleaving, what was sent is a prefix of what the queue held and accepted since, in order,
and while the queue runs the rest of that list is exactly what it holds (`Flow.fifo`). -/

/-- A push that goes in finds a running queue with room and puts the message last. -/
lemma push_eq_ok (hq : Sound q) (h : q.push m = .ok q') :
    q.active = true ∧ Sound q' ∧ q'.active = true ∧ q'.toList = q.toList ++ [m] := by
  obtain ⟨ha, hf, rfl⟩ : q.active = true ∧ q.isFull = false ∧ q' = q.put m := by
    cases ha : q.active <;> cases hf : q.isFull <;> simp [push, ha, hf] at h ⊢
    exact h.symm
  have hn := size_lt_capacity hq hf
  exact ⟨ha, sound_put hq ha hn, by simpa [put] using ha, toList_put hq hn⟩

/-- Taking from a sound queue finds it empty and leaves it, or hands over the oldest message
of a running queue and leaves the rest. -/
lemma dequeue_spec (hq : Sound q) :
    (q.toList = [] ∧ q.dequeue = (none, q)) ∨
      ∃ m rest, q.toList = m :: rest ∧ q.active = true ∧ (q.dequeue).1 = some m ∧
        Sound (q.dequeue).2 ∧ (q.dequeue).2.active = true ∧ (q.dequeue).2.toList = rest := by
  cases ha : q.active
  · exact .inl ⟨toList_of_shut hq ha, by simp [dequeue, ha]⟩
  cases he : q.isEmpty
  · obtain ⟨m, rest, hl, hm, ha', hr⟩ := take_oldest hq ha he
    rw [show q.dequeue = q.pop by simp [dequeue, ha]]
    exact .inr ⟨m, rest, hl, rfl, hm, sound_pop hq ha he, ha', hr⟩
  · exact .inl ⟨(isEmpty_iff_toList hq).1 he, by simp [dequeue, pop, ha, he]⟩

/-- How messages pass from producers through a queue to its consumer, starting from `p` (the
messages sent so far and the queue), `acc` being the messages the queue accepts, in order. -/
inductive Flow (p : List Message × Queue) : List Message → List Message × Queue → Prop
  | rest : Flow p [] p
  | push {acc s q q' m} : Flow p acc (s, q) → q.push m = .ok q' → Flow p (acc ++ [m]) (s, q')
  | shut {acc s q} : Flow p acc (s, q) → Flow p acc (s, q.close)
  | send {acc s q q' m} : Flow p acc (s, q) → q.dequeue = (some m, q') →
      Flow p acc (s ++ [m], q')

namespace Flow

variable {p p' p'' : List Message × Queue} {acc acc' : List Message}

lemma trans (h : Flow p acc p') (h' : Flow p' acc' p'') : Flow p (acc ++ acc') p'' := by
  induction h' with
  | rest => simpa using h
  | push _ hq ih => rw [← List.append_assoc]; exact ih.push hq
  | shut _ ih => exact ih.shut
  | send _ hq ih => exact ih.send hq

/-- What was sent before does not matter to how messages flow. -/
lemma frame (t : List Message) {s : List Message} (h : Flow (s, q) acc p') :
    Flow (t ++ s, q) acc (t ++ p'.1, p'.2) := by
  induction h with
  | rest => exact .rest
  | push _ hq ih => exact ih.push hq
  | shut _ ih => exact ih.shut
  | send _ hq ih => rw [← List.append_assoc]; exact ih.send hq

/-- **First in, first out.** From a sound queue `q`, after accepting `acc`: the queue is still
sound, the messages sent since are a prefix of what `q` held followed by `acc`, and while the
queue runs they and what it holds make up that whole list. -/
theorem fifo {s : List Message} (hq : Sound q) (h : Flow (s, q) acc p') :
    Sound p'.2 ∧ ∃ out, p'.1 = s ++ out ∧ out <+: q.toList ++ acc ∧
      (p'.2.active = true → q.active = true ∧ out ++ p'.2.toList = q.toList ++ acc) := by
  induction h with
  | rest => exact ⟨hq, [], by simp, by simp, fun ha => ⟨ha, by simp⟩⟩
  | @push acc s₁ q₁ q₂ m _ hpush ih =>
    obtain ⟨hq₁, out, rfl, hpre, hrun⟩ := ih
    obtain ⟨ha, hq₂, ha₂, hl⟩ := push_eq_ok hq₁ hpush
    obtain ⟨ha₀, heq⟩ := hrun ha
    refine ⟨hq₂, out, rfl, hpre.trans ⟨[m], by simp⟩, fun _ => ⟨ha₀, ?_⟩⟩
    rw [hl, ← List.append_assoc, heq, List.append_assoc]
  | shut _ ih =>
    obtain ⟨hq₁, out, rfl, hpre, -⟩ := ih
    exact ⟨sound_close hq₁, out, rfl, hpre, fun ha => by simp [close] at ha⟩
  | @send acc s₁ q₁ q₂ m _ hdeq ih =>
    obtain ⟨hq₁, out, rfl, hpre, hrun⟩ := ih
    -- a message came out, so the queue ran and `m` was its oldest
    rcases dequeue_spec hq₁ with ⟨-, hnone⟩ | ⟨m', rest, hl, ha, hm, hq₂, -, hr⟩
    · simp [hnone] at hdeq
    rw [hdeq] at hm hq₂ hr
    obtain rfl : m = m' := Option.some.inj hm
    obtain ⟨ha₀, heq⟩ := hrun ha
    have hall : (out ++ [m]) ++ q₂.toList = q.toList ++ acc := by simpa [hl, hr] using heq
    exact ⟨hq₂, out ++ [m], by simp, ⟨q₂.toList, hall⟩, fun _ => ⟨ha₀, hall⟩⟩

end Flow

/-! ### The queue law -/

/-- **The outbound queue is a bounded queue of messages.** At every state that some
interleaving of turns reaches from `create n`, with room for `max 1 n` messages: the queue
holds at most that many and reports their number; a push never waits, and is refused with
`queueClosed` by a shut queue and with `queueFull` by a full one, changing nothing, or else
appends its message; a dequeue hands over the oldest message and removes it, and gives none
exactly when the queue is empty or shut; a waiting dequeue fails with `queueClosed` exactly
when the queue is shut at its turn, waits only while the queue runs empty, and gives none when
it runs out of time; shutting empties the queue, after which it stays empty, refuses every
message, and answers every waiting dequeue with `queueClosed`; and a message keeps the kind,
bytes and text it was built with. -/
theorem message_fifo_of_reachable {n : Nat} {q : Queue} (hq : spec.Reachable (create n) q) :
    (q.capacity = max 1 n ∧ q.size ≤ max 1 n ∧ q.toList.length = q.size) ∧
    (∀ m res q' sig, turn (.push m) q = .finish res q' sig →
      (q.active = false ∧ res = .error .queueClosed ∧ q' = q) ∨
      (q.active = true ∧ q.size = max 1 n ∧ res = .error (.queueFull (max 1 n)) ∧ q' = q) ∨
      (q.active = true ∧ q.size < max 1 n ∧ res = .ok .done ∧ q'.active = true ∧
        q'.toList = q.toList ++ [m])) ∧
    (∀ m k, turn (.push m) q ≠ .wait k) ∧
    (∀ res q' sig, turn .dequeue q = .finish res q' sig →
      ((q.active = false ∨ q.toList = []) ∧ res = .ok (.taken none) ∧ q' = q) ∨
      (q.active = true ∧ ∃ m rest, q.toList = m :: rest ∧ res = .ok (.taken (some m)) ∧
        q'.active = true ∧ q'.toList = rest)) ∧
    (∀ res q' sig, turn .await q = .finish res q' sig →
      (q.active = false ∧ res = .error .queueClosed ∧ q' = q) ∨
      (q.active = true ∧ ∃ m rest, q.toList = m :: rest ∧ res = .ok (.taken (some m)) ∧
        q'.active = true ∧ q'.toList = rest)) ∧
    (∀ k, turn .await q = .wait k → q.active = true ∧ q.toList = []) ∧
    lapse .await = .ok (.taken none) ∧
    (∀ res q' sig, turn .shutdown q = .finish res q' sig →
      res = .ok .done ∧ q'.active = false ∧ q'.toList = []) ∧
    (q.active = false → q.toList = [] ∧
      (∀ call res q' sig, turn call q = .finish res q' sig → q' = q) ∧
      (∀ m, turn (.push m) q = .finish (.error .queueClosed) q []) ∧
      ∀ reply, spec.Answers q .await reply → reply = .error .queueClosed) ∧
    (∀ s : String, (Message.text s).kind = .text ∧ (Message.text s).bytes = s.toUTF8.toList ∧
      (Message.text s).text? = some s) ∧
    (∀ d : List UInt8, (Message.binary d).kind = .binary ∧ (Message.binary d).bytes = d ∧
      (Message.binary d).text? = none) := by
  obtain ⟨hs, hcap⟩ := sound_of_reachable hq
  refine ⟨⟨hcap, hcap ▸ size_le_capacity hs, length_toList hs⟩, ?_, fun m k => turn_push_ne_wait k,
    ?_, ?_, ?_, rfl, ?_, fun ha => ⟨toList_of_shut hs ha, fun call res q' sig h => turn_of_shut ha h,
      fun m => by simp [turn, push, ha], ?_⟩, fun s => ⟨rfl, rfl, rfl⟩, fun d => ⟨rfl, rfl, rfl⟩⟩
  · intro m res q' sig h
    rcases turn_push h with h₁ | ⟨ha, hf, hres, rfl⟩ | ⟨ha, hf, hres, rfl⟩
    · exact .inl h₁
    · have hsize := (isFull_iff hs).1 hf
      exact .inr (.inl ⟨ha, hsize.trans hcap, hcap ▸ hres, rfl⟩)
    · have hn := size_lt_capacity hs hf
      exact .inr (.inr ⟨ha, hcap ▸ hn, hres, ha, toList_put hs hn⟩)
  · intro res q' sig h
    rcases turn_dequeue h with ⟨hor, hres, rfl⟩ | ⟨ha, he, hres, rfl⟩
    · exact .inl ⟨hor.imp id (isEmpty_iff_toList hs).1, hres, rfl⟩
    · obtain ⟨m, rest, hl, hm, ha', hr⟩ := take_oldest hs ha he
      exact .inr ⟨ha, m, rest, hl, by rw [hres, hm], ha', hr⟩
  · intro res q' sig h
    rcases turn_await h with h₁ | ⟨ha, he, hres, rfl⟩
    · exact .inl h₁
    · obtain ⟨m, rest, hl, hm, ha', hr⟩ := take_oldest hs ha he
      exact .inr ⟨ha, m, rest, hl, by rw [hres, hm], ha', hr⟩
  · intro k h
    obtain ⟨ha, he⟩ := turn_await_wait h
    exact ⟨ha, (isEmpty_iff_toList hs).1 he⟩
  · intro res q' sig h
    obtain ⟨hres, rfl⟩ := turn_shutdown h
    cases ha : q.active
    · simp only [ha, Bool.false_eq_true, if_false]
      exact ⟨hres, trivial, toList_of_shut hs ha⟩
    · simp only [if_true]
      exact ⟨hres, rfl, toList_close q⟩
  · -- a consumer that waited, woken or timed out, takes its turn at the shut queue itself
    rintro reply ⟨u, hu, hturn⟩
    obtain rfl := Monitor.Spec.Reachable.eq_of_stable
      (fun c r s' sig h => turn_of_shut ha (spec_turn c q ▸ h)) hu
    rcases hturn with ⟨u', sig, h⟩ | ⟨k, h, -⟩
    · rcases turn_await h with ⟨-, hres, -⟩ | ⟨ha', -⟩
      · exact hres
      · simp [ha] at ha'
    · simp [(turn_await_wait h).1] at ha

/-- Two texts fill a queue made for two: the state is reached by turns, and holds no more than
it has room for. -/
theorem two_texts_fill_queue :
    spec.Reachable (create 2) (((create 2).put (.text "a")).put (.text "b")) ∧
      (((create 2).put (.text "a")).put (.text "b")).size ≤ max 1 2 := by
  have h₁ : spec.Reachable (create 2) ((create 2).put (.text "a")) :=
    .turn (c := .push (.text "a")) .init rfl
  have h₂ : spec.Reachable (create 2) (((create 2).put (.text "a")).put (.text "b")) :=
    .turn (c := .push (.text "b")) h₁ rfl
  exact ⟨h₂, (message_fifo_of_reachable h₂).1.2.1⟩

end Talkback.Dispatch.Queue
