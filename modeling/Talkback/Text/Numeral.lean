/-!
Reading unsigned whole numbers written in decimal: an optional `+`, then one or more ASCII
digits, leading zeros allowed, with a value that fits in the given number of bits. A `-`, a
blank or any other character makes the text no number.
-/

namespace Talkback.Text

/-- The value of a run of ASCII digits, if every character is one and there is at least
one. -/
def digitsValue? (cs : List Char) : Option Nat :=
  if cs.isEmpty then none
  else cs.foldl (fun acc c => acc.bind fun n =>
    if c.isDigit then some (n * 10 + (c.toNat - 48)) else none) (some 0)

/-- The unsigned number of at most `bits` bits that `s` writes. -/
def readUnsigned? (bits : Nat) (s : String) : Option Nat :=
  let digits := match s.toList with
    | '+' :: rest => rest
    | cs => cs
  (digitsValue? digits).bind fun n => if n < Nat.pow 2 bits then some n else none

end Talkback.Text
