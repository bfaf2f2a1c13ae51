import Talkback.Decimal.Binary

/-!
A non-negative binary64 value written with a fixed number of places after the point: its
exact value rounded to that many places, a half going to the even last digit.
-/

namespace Talkback.Decimal

/-- The value written with `places` digits after the point. -/
def Binary.fixed (x : Binary) (places : Nat) : String :=
  let (a, b) := pow2 x.q
  let units := roundHalfEven (x.m * a * Nat.pow 10 places) b
  let whole := toString (units / Nat.pow 10 places)
  if places = 0 then whole
  else
    let frac := toString (units % Nat.pow 10 places)
    whole ++ "." ++ String.ofList (List.replicate (places - frac.length) '0') ++ frac

end Talkback.Decimal
