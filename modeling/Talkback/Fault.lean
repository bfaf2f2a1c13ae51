/-!
Arithmetic faults: the checks a machine word makes when a product leaves its width or a
divisor is zero. A faulting computation stops the whole request, so it is kept apart from
the library's recoverable errors.

`mulChecked w a b` multiplies in `w`-bit words and faults instead of wrapping; `divChecked`
and `remChecked` fault on a zero divisor. Each comes with a lemma saying exactly when it
succeeds and what it returns.
-/

namespace Talkback

/-- The three ways a checked word operation stops a computation. -/
inductive Fault where
  | mulOverflow
  | divByZero
  | remByZero
  deriving DecidableEq, Repr, Inhabited

namespace Fault

/-- The text a stopped computation reports. -/
def message : Fault → String
  | .mulOverflow => "attempt to multiply with overflow"
  | .divByZero => "attempt to divide by zero"
  | .remByZero => "attempt to calculate the remainder with a divisor of zero"

end Fault

/-- Product of two `w`-bit words, or a fault when it needs more than `w` bits. -/
def mulChecked (w a b : Nat) : Except Fault Nat :=
  if a * b < Nat.pow 2 w then .ok (a * b) else .error .mulOverflow

/-- Quotient rounded toward zero, or a fault on a zero divisor. -/
def divChecked (a b : Nat) : Except Fault Nat :=
  if b = 0 then .error .divByZero else .ok (a / b)

/-- Remainder, or a fault on a zero divisor. -/
def remChecked (a b : Nat) : Except Fault Nat :=
  if b = 0 then .error .remByZero else .ok (a % b)

/-- Machine words of the host are 64 bits wide. -/
def wordBits : Nat := 64

theorem mulChecked_eq_ok {w a b r : Nat} :
    mulChecked w a b = .ok r ↔ a * b < Nat.pow 2 w ∧ r = a * b := by
  unfold mulChecked
  split
  · simp_all [eq_comm]
  · simp only [reduceCtorEq, false_iff, not_and]
    intro h
    omega

theorem divChecked_eq_ok {a b r : Nat} :
    divChecked a b = .ok r ↔ b ≠ 0 ∧ r = a / b := by
  unfold divChecked
  split <;> simp_all [eq_comm]

theorem remChecked_eq_ok {a b r : Nat} :
    remChecked a b = .ok r ↔ b ≠ 0 ∧ r = a % b := by
  unfold remChecked
  split <;> simp_all [eq_comm]

end Talkback
