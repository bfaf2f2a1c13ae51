/-!
Finite non-negative binary64 values as `m * 2^q`, and the value nearest to a ratio of
naturals.

Rounding to nearest takes the 53-bit significand nearest to the exact ratio, ties to the even
significand; below the normal range the exponent stays at its least value, `-1074`, and the
significand shrinks. This is the rounding of every correctly rounded binary64 operation, so
the quotient of two such values is `nearest` of the exact quotient.
-/

namespace Talkback.Decimal

/-- A finite non-negative binary64 value, `m * 2^q`. -/
structure Binary where
  m : Nat
  q : Int
  /-- The gap to the value below is half the gap to the value above. -/
  narrowBelow : Bool
  deriving DecidableEq, Repr, Inhabited

/-- `2^e` as a ratio `num / den`, for an integer `e`. -/
def pow2 (e : Int) : Nat × Nat := (Nat.pow 2 e.toNat, Nat.pow 2 (-e).toNat)

/-- `⌊log₂ (num / den)⌋`, for positive `num` and `den`. -/
def floorLog2 (num den : Nat) : Int :=
  let k : Int := (num.log2 : Int) - den.log2
  let (a, b) := pow2 k
  if num * b < den * a then k - 1 else k

/-- `num / den` rounded to the nearest natural, ties to even. -/
def roundHalfEven (num den : Nat) : Nat :=
  let q := num / den
  let r := num % den
  if 2 * r > den ∨ (2 * r = den ∧ q % 2 = 1) then q + 1 else q

/-- The binary64 value nearest to `num / den`; `den` must be positive. Values beyond the
largest finite one are not met here and are not treated apart. -/
def Binary.nearest (num den : Nat) : Binary :=
  if num = 0 then ⟨0, -1074, false⟩
  else
    let e := max (floorLog2 num den - 52) (-1074)
    let (a, b) := pow2 e
    let m := roundHalfEven (num * b) (den * a)
    let (m, e) := if m = Nat.pow 2 53 then (Nat.pow 2 52, e + 1) else (m, e)
    ⟨m, e, m = Nat.pow 2 52 ∧ e > -1074⟩

/-- The value nearest to the natural `n`. -/
def Binary.ofNat (n : Nat) : Binary := Binary.nearest n 1

/-- The value nearest to the exact quotient `x / y`; `y` must be positive. -/
def Binary.div (x y : Binary) : Binary :=
  let (a, b) := pow2 (x.q - y.q)
  Binary.nearest (x.m * a) (y.m * b)

end Talkback.Decimal
