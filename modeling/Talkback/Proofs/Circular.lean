import Mathlib.Tactic.Lemma

/-!
Offsets going round a cycle of cells, the arithmetic both circular buffers rest on.

Offset `i` from cell `p` of a cycle of `n` cells is cell `(p + i) % n`. Offsets less than a
turn apart name different cells, and counting forward from a cell to the one `len` places
on gives `len` back as long as `len` is less than a turn.
-/

namespace Talkback.Circular

variable {n : Nat}

/-- Two offsets less than a turn apart name different cells. -/
lemma mod_ne_of_lt {x a b : Nat} (hab : a < b) (hb : b < a + n) :
    (x + a) % n ≠ (x + b) % n := by
  intro h
  have hsub : (x + b - (x + a)) % n = 0 := Nat.sub_mod_eq_zero_of_mod_eq h.symm
  rw [show x + b - (x + a) = b - a by omega] at hsub
  have := Nat.le_of_dvd (by omega) (Nat.dvd_of_mod_eq_zero hsub)
  omega

/-- The cell `i + 1` places on from the cell after `p`. -/
lemma succ_mod_add_mod (p i : Nat) : ((p + 1) % n + i) % n = (p + (i + 1)) % n := by
  rw [Nat.mod_add_mod, Nat.add_assoc, Nat.add_comm 1 i]

/-- Counting forward from cell `p` to the cell `len` places on gives `len`, if `len` is less
than a turn. -/
lemma dist_add_mod {p len : Nat} (hp : p < n) (hl : len < n) :
    ((p + len) % n + n - p) % n = len := by
  by_cases hwrap : p + len < n
  · rw [Nat.mod_eq_of_lt hwrap, show p + len + n - p = len + n by omega, Nat.add_mod_right,
      Nat.mod_eq_of_lt hl]
  · -- the cell lies past the end, one turn round
    have hmod : (p + len) % n = p + len - n := by
      rw [Nat.mod_eq_sub_mod (by omega), Nat.mod_eq_of_lt (by omega)]
    rw [hmod, show p + len - n + n - p = len by omega, Nat.mod_eq_of_lt hl]

end Talkback.Circular
