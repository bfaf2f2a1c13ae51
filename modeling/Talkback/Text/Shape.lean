import Talkback.Text.Quoted

/-!
Shapes: the inspection view of a value. A record shows its name and named fields between
braces, a tuple its name and positional items between parentheses, a sequence its items
between brackets; strings are quoted, and everything else is an atom written as it is. A
record may end with `..` to say that some fields are left out on purpose.

`Shape.render` writes the one-line form, with `, ` between items and `: ` after a field name.
-/

namespace Talkback.Text

/-- The inspection view of a value. -/
inductive Shape where
  /-- Text written as it is: numbers, names of unit variants, durations. -/
  | atom (text : String)
  /-- A string, written quoted. -/
  | str (text : String)
  /-- A named record; `more` marks fields left out. -/
  | record (name : String) (fields : List (String × Shape)) (more : Bool)
  /-- A named tuple; an empty name gives a bare tuple. -/
  | tuple (name : String) (items : List Shape)
  /-- A sequence of items. -/
  | seq (items : List Shape)
  deriving Inhabited

namespace Shape

mutual

/-- The one-line text of a shape. -/
def render : Shape → String
  | .atom t => t
  | .str t => quoteString t
  | .record n [] false => n
  | .record n [] true => n ++ " \x7b .. \x7d"
  | .record n fs more =>
    n ++ " \x7b " ++ renderFields fs ++ (if more then ", .. \x7d" else " \x7d")
  | .tuple n items => n ++ "(" ++ renderItems items ++ ")"
  | .seq items => "[" ++ renderItems items ++ "]"

/-- Named fields separated by commas. -/
def renderFields : List (String × Shape) → String
  | [] => ""
  | [(k, v)] => k ++ ": " ++ render v
  | (k, v) :: rest => k ++ ": " ++ render v ++ ", " ++ renderFields rest

/-- Items separated by commas. -/
def renderItems : List Shape → String
  | [] => ""
  | [v] => render v
  | v :: rest => render v ++ ", " ++ renderItems rest

end

/-- A natural number. -/
def nat (n : Nat) : Shape := .atom (toString n)

/-- A truth value. -/
def bool (b : Bool) : Shape := .atom (if b then "true" else "false")

/-- An optional value: `None` or `Some(…)`. -/
def option {α : Type} (f : α → Shape) : Option α → Shape
  | none => .atom "None"
  | some a => .tuple "Some" [f a]

/-- A byte sequence, as a sequence of numbers. -/
def bytes (bs : List UInt8) : Shape := .seq (bs.map fun b => nat b.toNat)

/-- A span of time given in milliseconds: whole seconds as `5s`, a fraction of a second as
`250ms`, and a mixture as seconds with the fraction's digits. -/
def millis (ms : Nat) : Shape :=
  if ms < 1000 then .atom (toString ms ++ "ms")
  else if ms % 1000 = 0 then .atom (toString (ms / 1000) ++ "s")
  else
    let frac := toString (ms % 1000 + 1000)
    let digits := (frac.toList.drop 1).reverse.dropWhile (· = '0') |>.reverse
    .atom (toString (ms / 1000) ++ "." ++ String.ofList digits ++ "s")

end Shape

end Talkback.Text
