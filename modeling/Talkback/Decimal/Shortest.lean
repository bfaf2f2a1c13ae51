import Talkback.Decimal.Binary

/-!
The shortest decimal that reads back as a given binary64 value, and its layout in JSON
documents.

The reals that round to `m * 2^q` lie between the midpoints to its two neighbours, the ends
included when `m` is even (`readsBack`). Of the decimals in that interval, the one chosen
has the fewest significant digits, and of two such the one nearer the value, a tie going to
the even one: for `n = 1, 2, …` digits the two neighbours of the value on the grid
`10^(k-n)` are tested, where `10^(k-1) ≤ value < 10^k`.

Layout: with `e` the exponent of the leading digit, values with `-5 ≤ e ≤ 15` are written
positionally, an integral one with `.0`; others as digits, a point after the first when there
are more, `e` and the exponent without a sign when positive.
-/

namespace Talkback.Decimal

/-- `digits * 10^exp`. -/
structure Dec where
  digits : Nat
  exp : Int
  deriving DecidableEq, Repr, Inhabited

/-- Compare `a * 10^i` with `n * 2^j`, exactly. -/
def cmpScaled (a : Nat) (i : Int) (n : Nat) (j : Int) : Ordering :=
  compare (a * Nat.pow 10 i.toNat * Nat.pow 2 (-j).toNat) (n * Nat.pow 2 j.toNat * Nat.pow 10 (-i).toNat)

/-- Whether `d` lies among the reals that round to `x`. -/
def Binary.readsBack (x : Binary) (d : Dec) : Bool :=
  let lo := if x.narrowBelow then 4 * x.m - 1 else 4 * x.m - 2
  let hi := 4 * x.m + 2
  let incl := x.m % 2 == 0
  let cl := cmpScaled d.digits d.exp lo (x.q - 2)
  let ch := cmpScaled d.digits d.exp hi (x.q - 2)
  (cl == .gt || (incl && cl == .eq)) && (ch == .lt || (incl && ch == .eq))

/-- The value as a ratio of naturals. -/
def Binary.ratio (x : Binary) : Nat × Nat :=
  let (a, b) := pow2 x.q
  (x.m * a, b)

/-- The least `k` with `x < 10^k`, for a positive `x`: the number of digits before the point,
negative or zero below one. -/
def Binary.scale (x : Binary) : Int :=
  let (num, den) := x.ratio
  -- 10^k > num/den exactly when num * 10^(-k) < den * 10^k for the two signs of k
  let above (k : Int) : Bool := num * Nat.pow 10 (-k).toNat < den * Nat.pow 10 k.toNat
  let est : Int := ((floorLog2 num den) * 30103) / 100000
  let rec up (k : Int) : Nat → Int
    | 0 => k
    | fuel + 1 => if above k then k else up (k + 1) fuel
  let rec down (k : Int) : Nat → Int
    | 0 => k
    | fuel + 1 => if above (k - 1) then down (k - 1) fuel else k
  down (up (est - 2) 8) 8

/-- Drop trailing zeros of the digits into the exponent. -/
def Dec.strip (d : Dec) : Dec :=
  let rec go (c : Nat) (e : Int) : Nat → Dec
    | 0 => ⟨c, e⟩
    | fuel + 1 => if c ≠ 0 ∧ c % 10 = 0 then go (c / 10) (e + 1) fuel else ⟨c, e⟩
  go d.digits d.exp 40

/-- On the grid `10^g`, the neighbour of `x` that reads back, the nearer of two, a tie to
the even one. -/
def Binary.onGrid (x : Binary) (g : Int) : Option Dec :=
  let (num, den) := x.ratio
  let (a, b) := (Nat.pow 10 (-g).toNat, Nat.pow 10 g.toNat)
  let lo := (num * a) / (den * b)
  let below : Dec := ⟨lo, g⟩
  let above : Dec := ⟨lo + 1, g⟩
  match x.readsBack below, x.readsBack above with
  | true, true =>
    -- twice the value against the sum of the two neighbours
    let twice := 2 * num * a
    let sum := (2 * lo + 1) * den * b
    if twice < sum then some below
    else if twice > sum then some above
    else if lo % 2 = 0 then some below else some above
  | true, false => some below
  | false, true => some above
  | false, false => none

/-- The shortest decimal that reads back as `x`, trailing zeros stripped; zero is `0`. -/
def Binary.shortest (x : Binary) : Dec :=
  if x.m = 0 then ⟨0, 0⟩
  else
    let k := x.scale
    match (List.range 17).findSome? (fun (i : Nat) => x.onGrid (k - ((i : Int) + 1))) with
    | some d => d.strip
    | none =>
      let (num, den) := x.ratio
      -- the exact decimal value: den is a power of two, so 10^den.log2 clears it
      let s := den.log2
      (Dec.mk (num * Nat.pow 5 s) (-(s : Int))).strip

/-- The decimal digits of `n`. -/
def digitText (n : Nat) : String := toString n

/-- `n` zeros. -/
def zeros (n : Nat) : String := String.ofList (List.replicate n '0')

/-- The layout of a decimal in a document. -/
def Dec.layout (d : Dec) : String :=
  if d.digits = 0 then "0.0"
  else
    let ds := digitText d.digits
    let len : Int := ds.length
    let kk := len + d.exp
    if 0 ≤ d.exp ∧ kk ≤ 16 then ds ++ zeros d.exp.toNat ++ ".0"
    else if 0 < kk ∧ kk ≤ 16 then
      String.ofList (ds.toList.take kk.toNat) ++ "." ++ String.ofList (ds.toList.drop kk.toNat)
    else if -5 < kk ∧ kk ≤ 0 then "0." ++ zeros (-kk).toNat ++ ds
    else
      let e := toString (kk - 1)
      match ds.toList with
      | [c] => String.ofList [c] ++ "e" ++ e
      | c :: rest => String.ofList [c] ++ "." ++ String.ofList rest ++ "e" ++ e
      | [] => "0.0"

/-- The text of a non-negative binary64 value in a document. -/
def Binary.toText (x : Binary) : String := x.shortest.layout

end Talkback.Decimal
